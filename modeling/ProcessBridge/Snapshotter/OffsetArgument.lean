import ProcessBridge.Snapshotter.HexScan
import ProcessBridge.Snapshotter.MainProperties

/-! The address argument. The error message promises a hexadecimal number;
`strtoull` takes more than that, and the assignment to `uintptr_t` drops what
does not fit. -/

set_option autoImplicit false

namespace ProcessBridge.Snapshotter

open Library Common

/-!
## Numerals
-/

/-- Hexadecimal digits, with or without `0x` in front, and the value they denote. -/
inductive HexNumeral : List Byte → Nat → Prop where
  | plain {digits : List Byte} (nonempty : digits ≠ []) (hex : AllHex digits) :
      HexNumeral digits (hexValue digits)
  | lower {digits : List Byte} (nonempty : digits ≠ []) (hex : AllHex digits) :
      HexNumeral (0x30 :: 0x78 :: digits) (hexValue digits)
  | upper {digits : List Byte} (nonempty : digits ≠ []) (hex : AllHex digits) :
      HexNumeral (0x30 :: 0x58 :: digits) (hexValue digits)

/-- The scanner strips the optional front of a numeral and nothing else. -/
theorem hexNumeral_iff {text : List Byte} {value : Nat} :
    HexNumeral text value ↔
      scanPrefix text ≠ [] ∧ AllHex (scanPrefix text) ∧ hexValue (scanPrefix text) = value := by
  constructor
  · intro numeral
    cases numeral with
    | plain nonempty hex =>
        rw [scanPrefix_plain hex]
        exact ⟨nonempty, hex, rfl⟩
    | lower nonempty hex => exact ⟨nonempty, hex, rfl⟩
    | upper nonempty hex => exact ⟨nonempty, hex, rfl⟩
  · intro given
    obtain ⟨nonempty, hex, rfl⟩ := given
    rcases scanPrefix_cases text with ⟨digits, rfl, stripped⟩ | ⟨digits, rfl, stripped⟩ | same
    · exact .lower nonempty hex
    · exact .upper nonempty hex
    · rw [same] at nonempty hex ⊢
      exact .plain nonempty hex

theorem HexNumeral.head {text : List Byte} {value : Nat} (numeral : HexNumeral text value) :
    ∃ digit rest, text = digit :: rest ∧ (hexDigit digit).isSome = true := by
  cases numeral with
  | plain nonempty hex =>
      obtain ⟨digit, rest, rfl⟩ := List.exists_cons_of_ne_nil nonempty
      exact ⟨digit, rest, rfl, hex digit (by simp)⟩
  | lower nonempty hex => exact ⟨0x30, _, rfl, by decide⟩
  | upper nonempty hex => exact ⟨0x30, _, rfl, by decide⟩

/-!
## What `strtoull` takes
-/

/-- What `strtoull` passes over before the digits. -/
inductive IsFront : Bool → List Byte → Prop where
  | unsigned {space : List Byte} (blank : ∀ byte ∈ space, isSpace byte = true) : IsFront false space
  | plus {space : List Byte} (blank : ∀ byte ∈ space, isSpace byte = true) :
      IsFront false (space ++ [0x2B])
  | minus {space : List Byte} (blank : ∀ byte ∈ space, isSpace byte = true) :
      IsFront true (space ++ [0x2D])

theorem IsFront.head {front : List Byte} {negative : Bool} (passed : IsFront negative front)
    (nonempty : front ≠ []) : ∃ byte rest, front = byte :: rest ∧ (hexDigit byte).isSome = false := by
  have blanks : ∀ (space tail : List Byte), (∀ byte ∈ space, isSpace byte = true) →
      (∀ byte ∈ tail.head?, (hexDigit byte).isSome = false) → space ++ tail ≠ [] →
      ∃ byte rest, space ++ tail = byte :: rest ∧ (hexDigit byte).isSome = false := by
    intro space tail blank behind nonempty
    cases space with
    | nil =>
        obtain ⟨byte, rest, rfl⟩ := List.exists_cons_of_ne_nil nonempty
        exact ⟨byte, rest, rfl, behind byte rfl⟩
    | cons byte rest => exact ⟨byte, rest ++ tail, rfl, isSpace_noDigit byte (blank byte (by simp))⟩
  cases passed with
  | unsigned blank =>
      rw [← List.append_nil front] at nonempty ⊢
      exact blanks front [] blank (by simp) nonempty
  | plus blank => exact blanks _ [0x2B] blank (by decide) nonempty
  | minus blank => exact blanks _ [0x2D] blank (by decide) nonempty

private theorem scanSign_front {front text : List Byte} {negative : Bool} {value : Nat}
    (passed : IsFront negative front) (numeral : HexNumeral text value) :
    scanSign (skipSpace (front ++ text)) = (negative, text) := by
  obtain ⟨digit, rest, rfl, hex⟩ := numeral.head
  obtain ⟨visible, minus, plus, _, _⟩ := hexDigit_apart digit hex
  cases passed with
  | unsigned blank => rw [skipSpace_blank blank visible, scanSign_other minus plus]
  | plus blank =>
      rw [List.append_assoc, List.singleton_append, skipSpace_blank blank (by decide)]
      rfl
  | minus blank =>
      rw [List.append_assoc, List.singleton_append, skipSpace_blank blank (by decide)]
      rfl

private theorem front_of_scanSign (text : List Byte) :
    ∃ front, text = front ++ (scanSign (skipSpace text)).2 ∧
      IsFront (scanSign (skipSpace text)).1 front := by
  have pieces : text = text.takeWhile isSpace ++ skipSpace text :=
    List.takeWhile_append_dropWhile.symm
  have blank : ∀ byte ∈ text.takeWhile isSpace, isSpace byte = true :=
    fun byte member => List.mem_takeWhile_imp member
  rcases scanSign_cases (skipSpace text) with ⟨rest, behind, scanned⟩ | ⟨rest, behind, scanned⟩ |
    scanned
  · rw [scanned]
    refine ⟨_, ?_, .minus blank⟩
    rwa [List.append_assoc, List.singleton_append, ← behind]
  · rw [scanned]
    refine ⟨_, ?_, .plus blank⟩
    rwa [List.append_assoc, List.singleton_append, ← behind]
  · rw [scanned]
    exact ⟨_, pieces, .unsigned blank⟩

/-- A run of digits that reaches the end is the whole text. -/
theorem allHex_of_drop {text : List Byte}
    (finished : text.drop (text.takeWhile fun byte => (hexDigit byte).isSome).length = []) :
    text.takeWhile (fun byte => (hexDigit byte).isSome) = text ∧ AllHex text := by
  have split : text.takeWhile (fun byte => (hexDigit byte).isSome) ++
      text.dropWhile (fun byte => (hexDigit byte).isSome) = text := List.takeWhile_append_dropWhile
  have rest : text.drop (text.takeWhile fun byte => (hexDigit byte).isSome).length =
      text.dropWhile fun byte => (hexDigit byte).isSome := by
    nth_rewrite 2 [← split]
    rw [List.drop_left]
  rw [← rest, finished, List.append_nil] at split
  exact ⟨split, List.takeWhile_eq_self_iff.mp split⟩

section Strtoull

variable {text unsigned : List Byte} {negative : Bool}
  (scanned : scanSign (skipSpace text) = (negative, unsigned))
include scanned

private theorem strtoull_digits
    (found : ((scanPrefix unsigned).takeWhile fun byte => (hexDigit byte).isSome) ≠ []) :
    strtoull text =
      (hexNumber negative
          (hexValue ((scanPrefix unsigned).takeWhile fun byte => (hexDigit byte).isSome)),
        decide (2 ^ 64 ≤
          hexValue ((scanPrefix unsigned).takeWhile fun byte => (hexDigit byte).isSome)),
        (scanPrefix unsigned).drop
          ((scanPrefix unsigned).takeWhile fun byte => (hexDigit byte).isSome).length) := by
  simp only [strtoull, scanned]
  rw [if_pos found]

/-- Without a digit, `end` is left at the start or at the `x` of a bare prefix. -/
theorem strtoull_noDigits
    (missing : ((scanPrefix unsigned).takeWhile fun byte => (hexDigit byte).isSome) = []) :
    (strtoull text).2.2 = text ∨ (strtoull text).2.2 ≠ [] := by
  simp only [strtoull, scanned]
  rw [if_neg (not_not.mpr missing)]
  split
  · next zero =>
      right
      obtain ⟨rest, rfl⟩ : ∃ rest, unsigned = 0x30 :: rest := by
        cases unsigned with
        | nil => cases zero
        | cons byte rest => exact ⟨rest, by simpa using zero⟩
      rintro (rfl : rest = [])
      exact absurd missing (by decide)
  · exact .inl rfl

end Strtoull

private theorem parseOffset_eq_some {text : List Byte} {addr : BitVec 64} :
    parseOffset text = some addr ↔
      strtoull (cString text) = (addr, false, []) ∧ cString text ≠ [] := by
  unfold parseOffset
  generalize strtoull (cString text) = parsed
  obtain ⟨value, outOfRange, rest⟩ := parsed
  cases outOfRange with
  | true => simp
  | false =>
      cases rest with
      | nil =>
          by_cases empty : cString text = []
          · simp [empty]
          · simp [empty, Ne.symm empty]
      | cons byte rest => simp

theorem parseOffset_eq_some_iff {text : List Byte} {addr : BitVec 64} :
    parseOffset text = some addr ↔
      ∃ negative front numeral value, cString text = front ++ numeral ∧ IsFront negative front ∧
        HexNumeral numeral value ∧ value < 2 ^ 64 ∧ addr = hexNumber negative value := by
  rw [parseOffset_eq_some]
  constructor
  · intro accepted
    obtain ⟨parsed, something⟩ := accepted
    obtain ⟨front, pieces, passed⟩ := front_of_scanSign (cString text)
    cases scanned : scanSign (skipSpace (cString text)) with
    | mk negative unsigned =>
        rw [scanned] at pieces passed
        by_cases missing :
            ((scanPrefix unsigned).takeWhile fun byte => (hexDigit byte).isSome) = []
        · have stuck := strtoull_noDigits scanned missing
          rw [parsed] at stuck
          exact (stuck.elim (fun same => something same.symm) fun more => more rfl).elim
        · rw [strtoull_digits scanned missing, Prod.mk.injEq, Prod.mk.injEq] at parsed
          obtain ⟨value, small, finished⟩ := parsed
          obtain ⟨whole, hex⟩ := allHex_of_drop finished
          rw [whole] at missing small value
          exact ⟨negative, front, unsigned, _, pieces, passed,
            hexNumeral_iff.mpr ⟨missing, hex, rfl⟩, Nat.not_le.mp (of_decide_eq_false small),
            value.symm⟩
  · intro given
    obtain ⟨negative, front, numeral, value, pieces, passed, number, small, rfl⟩ := given
    have something : cString text ≠ [] := by
      obtain ⟨digit, tail, rfl, _⟩ := number.head
      simp [pieces]
    obtain ⟨nonempty, hex, rfl⟩ := hexNumeral_iff.mp number
    have whole := takeWhile_allHex hex
    have parsed := strtoull_digits (scanSign_front passed number) (by rwa [whole])
    rw [whole, List.drop_length, decide_eq_false (Nat.not_le.mpr small), ← pieces] at parsed
    exact ⟨parsed, something⟩

/-!
## What `main` does with it
-/

/-- `main` behind the check of its argument. -/
def withAddress (platform : Platform) (locals : Locals) (addr : BitVec platform.arch.width) :
    Sys platform.arch Exit := do
  ensure (call .malloc) "malloc for child argv failed"
  runTarget platform locals addr
  pure .success

def invalidOffset : String := "invalid breakpoint offset '%s': expected a hex number"

/-- The argument is taken for exactly what it says: a hexadecimal number that fits the
pointers of the build goes on as that number, and everything else is fatal
before anything has happened. -/
structure TakesExactly (platform : Platform) (text : List Byte) : Prop where
  accepts : ∀ value, HexNumeral (cString text) value → value < 2 ^ platform.arch.width →
    ∀ locals name child rest, main platform locals (name :: text :: child :: rest) =
      withAddress platform locals (BitVec.ofNat _ value)
  rejects : (∀ value, HexNumeral (cString text) value → 2 ^ platform.arch.width ≤ value) →
    ∀ locals name child rest, main platform locals (name :: text :: child :: rest) =
      logFatal invalidOffset

section Main

variable {platform : Platform} {text : List Byte}

private theorem main_accepted {addr : BitVec 64} (parsed : parseOffset text = some addr)
    (locals : Locals) (name child : List Byte) (rest : List (List Byte)) :
    main platform locals (name :: text :: child :: rest) =
      withAddress platform locals (addr.setWidth _) := by
  simp only [main, parsed, withAddress]

private theorem main_rejected (parsed : parseOffset text = none) (locals : Locals)
    (name child : List Byte) (rest : List (List Byte)) :
    main platform locals (name :: text :: child :: rest) = logFatal invalidOffset := by
  simp only [main, parsed, invalidOffset]

private theorem withAddress_ne_logFatal (locals : Locals) (addr : BitVec platform.arch.width) :
    withAddress platform locals addr ≠ logFatal invalidOffset := by
  intro same
  cases same

end Main

/-- The argument is taken for what it says unless it is a number below `2^64` with white
space or a sign in front of it, or one too large for the pointers of the build. -/
theorem main_takesExactly_iff (platform : Platform) (text : List Byte) :
    TakesExactly platform text ↔
      ∀ negative front numeral value, cString text = front ++ numeral → IsFront negative front →
        HexNumeral numeral value → value < 2 ^ 64 →
        front = [] ∧ value < 2 ^ platform.arch.width := by
  constructor
  · intro takes negative front numeral value pieces passed number small
    have parsed := parseOffset_eq_some_iff.mpr
      ⟨negative, front, numeral, value, pieces, passed, number, small, rfl⟩
    by_contra other
    have foreign : ∀ read, HexNumeral (cString text) read → 2 ^ platform.arch.width ≤ read := by
      intro read whole
      by_cases bare : front = []
      · -- the same digits were read
        have wide : ¬ value < 2 ^ platform.arch.width := fun fits => other ⟨bare, fits⟩
        rw [pieces, bare, List.nil_append] at whole
        have same := (hexNumeral_iff.mp whole).2.2.symm.trans (hexNumeral_iff.mp number).2.2
        omega
      · -- a numeral starts with a digit
        obtain ⟨byte, rest, rfl, noDigit⟩ := passed.head bare
        obtain ⟨digit, tail, starts, hex⟩ := whole.head
        rw [pieces] at starts
        obtain rfl : byte = digit := (List.cons.inj starts).1
        rw [noDigit] at hex
        cases hex
    have accepted : main platform blankLocals [[], text, []] = _ :=
      main_accepted parsed blankLocals [] [] []
    rw [takes.rejects foreign] at accepted
    exact withAddress_ne_logFatal _ _ accepted.symm
  · intro plain
    constructor
    · intro value number fits locals name child rest
      have small : value < 2 ^ 64 :=
        fits.trans_le (Nat.pow_le_pow_right (by omega) platform.arch.width_le)
      have parsed := parseOffset_eq_some_iff.mpr
        ⟨false, [], cString text, value, rfl, .unsigned (by simp), number, small, rfl⟩
      rw [main_accepted parsed, hexNumber, if_neg (Nat.not_le.mpr small)]
      simp only [Bool.false_eq_true, if_false]
      rw [BitVec.setWidth_ofNat_of_le platform.arch.width_le]
    · intro foreign locals name child rest
      apply main_rejected
      cases parsed : parseOffset text with
      | none => rfl
      | some addr =>
          obtain ⟨negative, front, numeral, value, pieces, passed, number, small, _⟩ :=
            parseOffset_eq_some_iff.mp parsed
          obtain ⟨rfl, fits⟩ := plain negative front numeral value pieces passed number small
          rw [List.nil_append] at pieces
          rw [← pieces] at number
          exact absurd fits (Nat.not_lt.mpr (foreign value number))

/-- A negative number, a number behind a blank and, in the 32-bit build, a number of
33 bits are accepted and become other addresses. -/
theorem main_takes_otherAddresses :
    main .x86_64 blankLocals [[], [0x2D, 0x31], []] =
      withAddress .x86_64 blankLocals (0xFFFFFFFFFFFFFFFF : BitVec 64) ∧
    main .x86_64 blankLocals [[], [0x20, 0x31, 0x30], []] =
      withAddress .x86_64 blankLocals (0x10 : BitVec 64) ∧
    main .i386 blankLocals [[], [0x31, 0x30, 0x30, 0x30, 0x30, 0x30, 0x31, 0x30, 0x30], []] =
      withAddress .i386 blankLocals (0x100 : BitVec 32) ∧
    ¬ TakesExactly .x86_64 [0x2D, 0x31] := by
  refine ⟨rfl, rfl, rfl, fun takes => ?_⟩
  have fatal : main .x86_64 blankLocals [[], [0x2D, 0x31], []] = logFatal invalidOffset := by
    apply takes.rejects
    intro value number
    obtain ⟨digit, rest, starts, hex⟩ := number.head
    cases starts
    cases hex
  exact withAddress_ne_logFatal blankLocals _ fatal

end ProcessBridge.Snapshotter
