import Mathlib.Data.Nat.Digits.Defs
import ProcessBridge.Library.Bytes

/-! Numbers as text: the digits that `printf` prints, padded with zeros to a
minimal width, and the lines of a text file. -/

set_option autoImplicit false

namespace ProcessBridge.Library

/-!
## Digits
-/

def digitByte (digit : Nat) : Byte :=
  if digit < 10 then BitVec.ofNat 8 (0x30 + digit) else BitVec.ofNat 8 (0x57 + digit)

def numeral (base number : Nat) : List Byte :=
  if number = 0 then [0x30] else (Nat.digits base number).reverse.map digitByte

def zeroPadded (width : Nat) (text : List Byte) : List Byte :=
  List.replicate (width - text.length) 0x30 ++ text

theorem numeral_ne_nil (base number : Nat) : numeral base number ≠ [] := by
  unfold numeral
  split
  · simp
  · next positive => simp [Nat.digits_eq_nil_iff_eq_zero, positive]

theorem numeral_digits {base number : Nat} (large : 1 < base) {byte : Byte}
    (member : byte ∈ numeral base number) : ∃ digit < base, byte = digitByte digit := by
  unfold numeral at member
  split at member
  · rw [List.mem_singleton] at member
    exact ⟨0, by omega, member⟩
  · rw [List.mem_map] at member
    obtain ⟨digit, found, rfl⟩ := member
    exact ⟨digit, Nat.digits_lt_base large (List.mem_reverse.mp found), rfl⟩

theorem zeroPadded_digits {base number width : Nat} (large : 1 < base) {byte : Byte}
    (member : byte ∈ zeroPadded width (numeral base number)) :
    ∃ digit < base, byte = digitByte digit := by
  rw [zeroPadded, List.mem_append] at member
  cases member with
  | inl padding => exact ⟨0, by omega, List.eq_of_mem_replicate padding⟩
  | inr inside => exact numeral_digits large inside

theorem zeroPadded_length (width : Nat) (text : List Byte) :
    width ≤ (zeroPadded width text).length := by
  simp only [zeroPadded, List.length_append, List.length_replicate]
  omega

section Value

variable {base : Nat} {value : Byte → Nat}

theorem foldr_digits (reads : ∀ digit < base, value (digitByte digit) = digit) {digits : List Nat}
    (small : ∀ digit ∈ digits, digit < base) :
    digits.foldr (fun digit number => base * number + value (digitByte digit)) 0 =
      Nat.ofDigits base digits := by
  induction digits with
  | nil => rfl
  | cons digit digits ih =>
      obtain ⟨here, others⟩ := List.forall_mem_cons.mp small
      rw [List.foldr_cons, ih others, reads digit here, Nat.ofDigits_cons, Nat.add_comm]

/-- Reading the digits from the left gives back the number. -/
theorem foldl_zeroPadded (large : 1 < base)
    (reads : ∀ digit < base, value (digitByte digit) = digit) (width number : Nat) :
    (zeroPadded width (numeral base number)).foldl (fun number byte => base * number + value byte) 0 =
      number := by
  have zero : value 0x30 = 0 := reads 0 (by omega)
  have padding : ∀ count : Nat, (List.replicate count (0x30 : Byte)).foldl
      (fun number byte => base * number + value byte) 0 = 0 := by
    intro count
    induction count with
    | zero => rfl
    | succ count ih => rw [List.replicate_succ, List.foldl_cons, zero, Nat.mul_zero, ih]
  rw [zeroPadded, List.foldl_append, padding, numeral]
  split
  · next empty => rw [List.foldl_cons, List.foldl_nil, Nat.mul_zero, zero, empty]
  · rw [List.foldl_map, List.foldl_reverse,
      foldr_digits reads fun digit member => Nat.digits_lt_base large member, Nat.ofDigits_digits]

end Value

/-!
## Lines
-/

/-- What repeated `getline` calls return for a file. -/
def getlines : List Byte → List (List Byte)
  | [] => []
  | byte :: rest =>
      if byte = 0x0A then [byte] :: getlines rest
      else
        match getlines rest with
        | [] => [[byte]]
        | line :: others => (byte :: line) :: others

theorem getlines_line {line : List Byte} (whole : 0x0A ∉ line) (rest : List Byte) :
    getlines (line ++ 0x0A :: rest) = (line ++ [0x0A]) :: getlines rest := by
  induction line with
  | nil => simp [getlines]
  | cons byte line ih =>
      rw [List.mem_cons, not_or] at whole
      rw [List.cons_append, getlines, if_neg (Ne.symm whole.1), ih whole.2]
      rfl

theorem getlines_lines {lines : List (List Byte)} (whole : ∀ line ∈ lines, 0x0A ∉ line) :
    getlines (lines.flatMap (· ++ [0x0A])) = lines.map (· ++ [0x0A]) := by
  induction lines with
  | nil => rfl
  | cons line lines ih =>
      obtain ⟨here, others⟩ := List.forall_mem_cons.mp whole
      rw [List.flatMap_cons, List.append_assoc, List.singleton_append, getlines_line here, ih others,
        List.map_cons]

end ProcessBridge.Library
