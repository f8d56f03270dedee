import ProcessBridge.Snapshotter.MapsParser

/-! How the scanners of numbers and words walk over a text. -/

set_option autoImplicit false

namespace ProcessBridge.Snapshotter

open Library Common

def AllHex (digits : List Byte) : Prop := ∀ byte ∈ digits, (hexDigit byte).isSome = true

theorem hexDigit_apart : ∀ byte : Byte, (hexDigit byte).isSome = true →
    isSpace byte = false ∧ byte ≠ 0x2D ∧ byte ≠ 0x2B ∧ byte ≠ 0x78 ∧ byte ≠ 0x58 := by
  decide

theorem scanSign_other {byte : Byte} {rest : List Byte} (minus : byte ≠ 0x2D) (plus : byte ≠ 0x2B) :
    scanSign (byte :: rest) = (false, byte :: rest) := by
  unfold scanSign
  split
  · next same => exact absurd (List.cons.inj same).1 minus
  · next same => exact absurd (List.cons.inj same).1 plus
  · rfl

theorem scanPrefix_cases (text : List Byte) :
    (∃ digits, text = 0x30 :: 0x78 :: digits ∧ scanPrefix text = digits) ∨
    (∃ digits, text = 0x30 :: 0x58 :: digits ∧ scanPrefix text = digits) ∨
    scanPrefix text = text := by
  unfold scanPrefix
  split
  · exact .inl ⟨_, rfl, rfl⟩
  · exact .inr (.inl ⟨_, rfl, rfl⟩)
  · exact .inr (.inr rfl)

theorem scanPrefix_plain {digits : List Byte} (hex : AllHex digits) : scanPrefix digits = digits := by
  rcases scanPrefix_cases digits with ⟨rest, rfl, _⟩ | ⟨rest, rfl, _⟩ | same
  · exact absurd (hex 0x78 (by simp)) (by decide)
  · exact absurd (hex 0x58 (by simp)) (by decide)
  · exact same

theorem isSpace_noDigit : ∀ byte : Byte, isSpace byte = true → (hexDigit byte).isSome = false := by
  decide

theorem scanSign_cases (text : List Byte) :
    (∃ rest, text = 0x2D :: rest ∧ scanSign text = (true, rest)) ∨
    (∃ rest, text = 0x2B :: rest ∧ scanSign text = (false, rest)) ∨
    scanSign text = (false, text) := by
  unfold scanSign
  split
  · exact .inl ⟨_, rfl, rfl⟩
  · exact .inr (.inl ⟨_, rfl, rfl⟩)
  · exact .inr (.inr rfl)

theorem skipSpace_blank {space rest : List Byte} (blank : ∀ byte ∈ space, isSpace byte = true)
    {byte : Byte} (visible : isSpace byte = false) :
    skipSpace (space ++ byte :: rest) = byte :: rest := by
  rw [skipSpace, List.dropWhile_append_of_pos blank,
    List.dropWhile_cons_of_neg (by simp [visible])]

theorem takeWhile_allHex {digits : List Byte} (hex : AllHex digits) :
    digits.takeWhile (fun byte => (hexDigit byte).isSome) = digits :=
  List.takeWhile_eq_self_iff.mpr hex

/-!
## Fields of a line
-/

theorem takeWhile_run {p : Byte → Bool} {run rest : List Byte} (inside : ∀ byte ∈ run, p byte = true)
    (ends : ∀ byte ∈ rest.head?, p byte = false) : (run ++ rest).takeWhile p = run := by
  rw [List.takeWhile_append_of_pos inside]
  cases rest with
  | nil => simp
  | cons byte rest => simp [ends byte rfl]

theorem skipSpace_visible {text : List Byte} (visible : ∀ byte ∈ text.head?, isSpace byte = false) :
    skipSpace text = text := by
  cases text with
  | nil => rfl
  | cons byte rest => exact List.dropWhile_cons_of_neg (by simp [visible byte rfl])

private theorem skipSpace_cons_blank (text : List Byte) : skipSpace
    (0x20 :: text) = skipSpace text := rfl

theorem skipSpace_replicate (count : Nat) (text : List Byte) :
    skipSpace (List.replicate count 0x20 ++ text) = skipSpace text := by
  induction count with
  | zero => rfl
  | succ count ih => rw [List.replicate_succ, List.cons_append, skipSpace_cons_blank, ih]

/-- A number is read up to the first byte that is no digit. -/
theorem scanHex_run {digits rest : List Byte} (hex : AllHex digits) (long : 2 ≤ digits.length)
    (ends : ∀ byte ∈ rest.head?, (hexDigit byte).isSome = false) :
    scanHex (digits ++ rest) = some (hexNumber false (hexValue digits), rest) := by
  obtain ⟨first, second, tail, rfl⟩ : ∃ first second tail, digits = first :: second :: tail := by
    match digits, long with
    | first :: second :: tail, _ => exact ⟨first, second, tail, rfl⟩
  obtain ⟨visible, minus, plus, _, _⟩ := hexDigit_apart first (hex first (by simp))
  obtain ⟨_, _, _, lower, upper⟩ := hexDigit_apart second (hex second (by simp))
  have unspaced : skipSpace (first :: second :: tail ++ rest) = first :: second :: tail ++ rest :=
    skipSpace_visible (by simpa using visible)
  have unprefixed : scanPrefix (first :: second :: tail ++ rest) =
      first :: second :: tail ++ rest := by
    rcases scanPrefix_cases (first :: second :: tail ++ rest) with
      ⟨_, same, _⟩ | ⟨_, same, _⟩ | same
    · exact absurd (List.cons.inj (List.cons.inj same).2).1 lower
    · exact absurd (List.cons.inj (List.cons.inj same).2).1 upper
    · exact same
  have unsigned : scanSign (first :: second :: tail ++ rest) =
      (false, first :: second :: tail ++ rest) := scanSign_other minus plus
  simp only [scanHex, unspaced, unsigned, unprefixed, takeWhile_run hex ends, List.drop_left]
  rw [if_neg (by simp)]

private theorem word_run {word rest : List Byte} (visible : ∀ byte ∈ word, isSpace byte = false)
    (nonempty : word ≠ []) (ends : ∀ byte ∈ rest.head?, isSpace byte = true) :
    skipSpace (word ++ rest) = word ++ rest ∧
      (word ++ rest).takeWhile (fun byte => !isSpace byte) = word := by
  constructor
  · apply skipSpace_visible
    obtain ⟨first, tail, rfl⟩ := List.exists_cons_of_ne_nil nonempty
    simpa using visible first (by simp)
  · exact takeWhile_run (fun byte member => by rw [visible byte member]; rfl)
      fun byte member => by rw [ends byte member]; rfl

/-- A word that fills its width is read whole. -/
theorem scanWord_run {word rest : List Byte} (visible : ∀ byte ∈ word, isSpace byte = false)
    (nonempty : word ≠ []) (ends : ∀ byte ∈ rest.head?, isSpace byte = true) :
    scanWord word.length (0x20 :: (word ++ rest)) = some (word, rest) := by
  obtain ⟨unspaced, run⟩ := word_run visible nonempty ends
  simp only [scanWord, skipSpace_cons_blank, unspaced, run, List.take_length, List.drop_left]
  rw [if_neg nonempty]

theorem scanSkip_run {word rest : List Byte} (visible : ∀ byte ∈ word, isSpace byte = false)
    (nonempty : word ≠ []) (ends : ∀ byte ∈ rest.head?, isSpace byte = true) :
    scanSkip (0x20 :: (word ++ rest)) = some rest := by
  obtain ⟨unspaced, run⟩ := word_run visible nonempty ends
  simp only [scanSkip, skipSpace_cons_blank, unspaced, run, List.drop_left]
  rw [if_neg nonempty]

end ProcessBridge.Snapshotter
