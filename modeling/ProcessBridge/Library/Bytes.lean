import Mathlib.Data.List.Basic
import Mathlib.Tactic.Ring
import Mathlib.Tactic.Linarith

/-! Little-endian words and records of equal-sized words over byte lists. A
value is truncated to its field when encoded; decoding never fails, because
callers hand over slices whose length they have already fixed. -/

set_option autoImplicit false

namespace ProcessBridge.Library

abbrev Byte := BitVec 8

/-- The low `size` bytes of a number, least significant first. -/
def littleBytes : Nat → Nat → List Byte
  | 0, _ => []
  | size + 1, value => BitVec.ofNat 8 value :: littleBytes size (value / 256)

def littleValue : List Byte → Nat
  | [] => 0
  | byte :: rest => byte.toNat + 256 * littleValue rest

/-- The field of `size` bytes at a byte offset. -/
def fieldValue (size : Nat) (bytes : List Byte) (offset : Nat) : Nat :=
  littleValue ((bytes.drop offset).take size)

/-- A record of words of one size, without padding. -/
def recordBytes (size : Nat) (values : List Nat) : List Byte :=
  values.flatMap (littleBytes size)

@[simp] theorem littleBytes_length (size value : Nat) : (littleBytes size value).length = size := by
  induction size generalizing value with
  | zero => rfl
  | succ size ih => simp only [littleBytes, List.length_cons, ih]

theorem littleValue_littleBytes (size value : Nat) :
    littleValue (littleBytes size value) = value % 256 ^ size := by
  induction size generalizing value with
  | zero => simp [littleBytes, littleValue, Nat.mod_one]
  | succ size ih =>
      have low : value % 2 ^ 8 = value % 256 := by norm_num
      simp only [littleBytes, littleValue, ih, BitVec.toNat_ofNat, low]
      rw [pow_succ', Nat.mod_mul (a := 256)]

theorem littleBytes_mod (size value : Nat) :
    littleBytes size (value % 256 ^ size) = littleBytes size value := by
  induction size generalizing value with
  | zero => rfl
  | succ size ih =>
      have quotient : value % 256 ^ (size + 1) / 256 = value / 256 % 256 ^ size := by
        rw [pow_succ', Nat.mod_mul_right_div_self]
      have low : BitVec.ofNat 8 (value % 256 ^ (size + 1)) = BitVec.ofNat 8 value := by
        apply BitVec.eq_of_toNat_eq
        simp only [BitVec.toNat_ofNat]
        rw [pow_succ', Nat.mod_mul_right_mod]
      rw [littleBytes, quotient, ih, low, ← littleBytes]

theorem littleValue_lt (bytes : List Byte) : littleValue bytes < 256 ^ bytes.length := by
  induction bytes with
  | nil => simp [littleValue]
  | cons byte rest ih =>
      have small := byte.isLt
      simp only [littleValue, List.length_cons, pow_succ]
      omega

theorem littleBytes_littleValue (bytes : List Byte) :
    littleBytes bytes.length (littleValue bytes) = bytes := by
  induction bytes with
  | nil => rfl
  | cons byte rest ih =>
      have small := byte.isLt
      have quotient : (byte.toNat + 256 * littleValue rest) / 256 = littleValue rest := by omega
      simp only [List.length_cons, littleValue, littleBytes, quotient, ih, List.cons.injEq, and_true]
      apply BitVec.eq_of_toNat_eq
      simp only [BitVec.toNat_ofNat]
      omega

@[simp] theorem recordBytes_length (size : Nat) (values : List Nat) :
    (recordBytes size values).length = size * values.length := by
  induction values with
  | nil => rfl
  | cons value values ih =>
      have unfolded : recordBytes size (value :: values) =
          littleBytes size value ++ recordBytes size values := rfl
      rw [unfolded, List.length_append, littleBytes_length, ih, List.length_cons]
      ring

theorem fieldValue_append_left {size offset : Nat} {bytes : List Byte} (tail : List Byte)
    (inside : offset + size ≤ bytes.length) :
    fieldValue size (bytes ++ tail) offset = fieldValue size bytes offset := by
  unfold fieldValue
  rw [List.drop_append_of_le_length (by omega), List.take_append_of_le_length (by simp; omega)]

theorem fieldValue_append_right (size offset : Nat) (front bytes : List Byte) :
    fieldValue size (front ++ bytes) (front.length + offset) = fieldValue size bytes offset := by
  unfold fieldValue
  rw [← List.drop_drop, List.drop_left]

theorem fieldValue_recordBytes (size : Nat) (values : List Nat) (index : Nat)
    (inside : index < values.length) :
    fieldValue size (recordBytes size values) (size * index) = values[index] % 256 ^ size := by
  induction values generalizing index with
  | nil => simp at inside
  | cons value values ih =>
      have unfolded : recordBytes size (value :: values) =
          littleBytes size value ++ recordBytes size values := rfl
      rw [unfolded]
      cases index with
      | zero =>
          rw [Nat.mul_zero, fieldValue_append_left _ (by simp)]
          unfold fieldValue
          rw [List.drop_zero, List.take_of_length_le (by simp), littleValue_littleBytes]
          simp
      | succ index =>
          have shifted : size * (index + 1) = (littleBytes size value).length + size * index := by
            simp; ring
          rw [shifted, fieldValue_append_right, ih index (by simpa using inside)]
          simp

theorem fieldValue_lt (size : Nat) (bytes : List Byte) (offset : Nat) :
    fieldValue size bytes offset < 256 ^ size := by
  refine lt_of_lt_of_le (littleValue_lt _) (Nat.pow_le_pow_right (by norm_num) ?_)
  simp

end ProcessBridge.Library
