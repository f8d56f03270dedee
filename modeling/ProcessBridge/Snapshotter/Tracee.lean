import ProcessBridge.Snapshotter.Kernel

/-! Machine words of the child's memory: reading one, replacing one, and the
trap instruction in its first byte. -/

set_option autoImplicit false

namespace ProcessBridge.Snapshotter

open Library Common

/-- `PLACE_INT3_IN_FIRST_BYTE`. -/
def placeInt3InFirstByte (word : BitVec 64) : BitVec 64 := (word &&& ~~~0xFF) ||| 0xCC

theorem Arch.word_values (arch : Arch) : 256 ^ arch.wordSize = 2 ^ arch.width := by
  rw [arch.width_eq, pow_mul]
  norm_num

namespace Tracee

variable {arch : Arch} (tracee : Tracee arch) (address : BitVec arch.width)

@[simp] theorem ip_setIp (value : BitVec arch.width) : (tracee.setIp value).ip = value :=
  arch.ip_setIp _ _

@[simp] theorem setIp_memory (value : BitVec arch.width) :
    (tracee.setIp value).memory = tracee.memory := rfl

@[simp] theorem setIp_setIp (first second : BitVec arch.width) :
    (tracee.setIp first).setIp second = tracee.setIp second := by
  simp only [setIp, arch.setIp_setIp]

@[simp] theorem setIp_ip : tracee.setIp tracee.ip = tracee := by
  simp only [setIp, ip, arch.setIp_ip]

@[simp] theorem wordBytes_length : (tracee.wordBytes address).length = arch.wordSize := by
  simp [wordBytes]

private theorem littleBytes_peek :
    littleBytes arch.wordSize (tracee.peek address).toNat = tracee.wordBytes address := by
  have small := littleValue_lt (tracee.wordBytes address)
  have encoded := littleBytes_littleValue (tracee.wordBytes address)
  rw [wordBytes_length] at small encoded
  rwa [peek, BitVec.toNat_ofNat, ← arch.word_values, Nat.mod_eq_of_lt small]

private theorem add_sub_ofNat (location : BitVec arch.width) :
    address + BitVec.ofNat _ (location - address).toNat = location := by
  rw [BitVec.ofNat_toNat, BitVec.setWidth_eq, BitVec.add_comm, BitVec.sub_add_cancel]

theorem poke_inside (value : BitVec arch.width) {location : BitVec arch.width}
    (inside : (location - address).toNat < arch.wordSize) :
    (tracee.poke address value).memory location =
      (littleBytes arch.wordSize value.toNat).getD (location - address).toNat 0 := by
  simp only [poke, List.getD_eq_getElem?_getD]
  rw [List.getElem?_eq_getElem (by simpa only [littleBytes_length] using inside)]
  rfl

theorem poke_outside (value : BitVec arch.width) {location : BitVec arch.width}
    (outside : arch.wordSize ≤ (location - address).toNat) :
    (tracee.poke address value).memory location = tracee.memory location := by
  simp only [poke, List.getD_eq_getElem?_getD]
  rw [List.getElem?_eq_none (by simpa only [littleBytes_length] using outside)]
  rfl

private theorem wordBytes_getD {index : Nat} (inside : index < arch.wordSize) :
    (tracee.wordBytes address).getD index 0 = tracee.memory (address + BitVec.ofNat _ index) := by
  rw [List.getD_eq_getElem?_getD, List.getElem?_eq_getElem (by simpa using inside)]
  simp [wordBytes]

theorem poke_peek : tracee.poke address (tracee.peek address) = tracee := by
  refine Tracee.ext rfl ?_
  funext location
  by_cases inside : (location - address).toNat < arch.wordSize
  · rw [poke_inside _ _ _ inside, littleBytes_peek, wordBytes_getD _ _ inside, add_sub_ofNat]
  · exact poke_outside _ _ _ (by omega)

private theorem poke_poke (first second : BitVec arch.width) :
    (tracee.poke address first).poke address second = tracee.poke address second := by
  refine Tracee.ext rfl ?_
  funext location
  by_cases inside : (location - address).toNat < arch.wordSize
  · rw [poke_inside _ _ _ inside, poke_inside _ _ _ inside]
  · rw [poke_outside _ _ _ (by omega), poke_outside _ _ _ (by omega), poke_outside _ _ _ (by omega)]

private theorem add_index_sub {index : Nat} (inside : index < arch.wordSize) :
    (address + BitVec.ofNat _ index - address).toNat = index := by
  have small : index < 2 ^ arch.width := by
    have bound := @Nat.lt_two_pow_self arch.width
    have width := arch.width_eq
    omega
  rw [BitVec.add_comm, BitVec.add_sub_cancel, BitVec.toNat_ofNat, Nat.mod_eq_of_lt small]

theorem peek_poke (value : BitVec arch.width) : (tracee.poke address value).peek address = value := by
  have bytes : (tracee.poke address value).wordBytes address =
      littleBytes arch.wordSize value.toNat := by
    apply List.ext_getElem (by simp)
    intro index inside inside'
    rw [wordBytes_length] at inside
    have within : (address + BitVec.ofNat _ index - address).toNat < arch.wordSize := by
      rwa [add_index_sub address inside]
    have stored := poke_inside tracee address value within
    rw [add_index_sub address inside] at stored
    simp only [wordBytes, List.getElem_map, List.getElem_range, stored]
    rw [List.getD_eq_getElem?_getD, List.getElem?_eq_getElem inside']
    rfl
  apply BitVec.eq_of_toNat_eq
  rw [peek, bytes, littleValue_littleBytes, arch.word_values, BitVec.toNat_ofNat, Nat.mod_mod,
    Nat.mod_eq_of_lt value.isLt]

/-- Replacing the word twice leaves nothing of the first replacement behind. -/
theorem poke_restore (value : BitVec arch.width) :
    (tracee.poke address value).poke address (tracee.peek address) = tracee := by
  rw [poke_poke, poke_peek]

theorem poke_first (value : BitVec arch.width) :
    (tracee.poke address value).memory address = BitVec.ofNat 8 value.toNat := by
  have inside : (address - address).toNat < arch.wordSize := by
    rw [BitVec.sub_self]
    exact arch.wordSize_pos
  rw [poke_inside _ _ _ inside, BitVec.sub_self]
  obtain ⟨size, shape⟩ := Nat.exists_eq_succ_of_ne_zero arch.wordSize_pos.ne'
  rw [shape]
  rfl

end Tracee

/-!
## The trap instruction
-/

private theorem placeInt3_bits (word : BitVec 64) {index : Nat} (inside : index < 64) :
    (placeInt3InFirstByte word).getLsbD index =
      if index < 8 then (0xCC : BitVec 64).getLsbD index else word.getLsbD index := by
  have mask : ∀ index < 64, (~~~(0xFF : BitVec 64)).getLsbD index = decide (8 ≤ index) := by decide
  have trap : ∀ index < 64, 8 ≤ index → (0xCC : BitVec 64).getLsbD index = false := by decide
  rw [placeInt3InFirstByte, BitVec.getLsbD_or, BitVec.getLsbD_and, mask index inside]
  split
  · next low => rw [decide_eq_false (by omega), Bool.and_false, Bool.false_or]
  · next high =>
      rw [trap index inside (by omega), decide_eq_true (by omega), Bool.and_true, Bool.or_false]

private theorem placeInt3_low (word : BitVec 64) :
    (placeInt3InFirstByte word).setWidth 8 = 0xCC := by
  apply BitVec.eq_of_getLsbD_eq
  intro index inside
  have constant : ∀ index < 8, (0xCC : BitVec 64).getLsbD index = (0xCC : Byte).getLsbD index := by
    decide
  rw [BitVec.getLsbD_setWidth, placeInt3_bits word (by omega), if_pos inside,
    decide_eq_true inside, Bool.true_and, constant index inside]

private theorem placeInt3_high (word : BitVec 64) :
    placeInt3InFirstByte word >>> 8 = word >>> 8 := by
  apply BitVec.eq_of_getLsbD_eq
  intro index inside
  rw [BitVec.getLsbD_ushiftRight, BitVec.getLsbD_ushiftRight]
  by_cases within : 8 + index < 64
  · rw [placeInt3_bits word within, if_neg (by omega)]
  · rw [BitVec.getLsbD_of_ge _ _ (by omega), BitVec.getLsbD_of_ge _ _ (by omega)]

/-- Of the bytes of a word the trap instruction replaces the first. -/
theorem littleBytes_placeInt3 (word : BitVec 64) (size : Nat) :
    littleBytes (size + 1) (placeInt3InFirstByte word).toNat =
      0xCC :: (littleBytes (size + 1) word.toNat).tail := by
  have low : BitVec.ofNat 8 (placeInt3InFirstByte word).toNat = 0xCC := by
    rw [BitVec.ofNat_toNat, placeInt3_low]
  have high : (placeInt3InFirstByte word).toNat / 256 = word.toNat / 256 := by
    simpa [BitVec.toNat_ushiftRight, Nat.shiftRight_eq_div_pow] using
      congrArg BitVec.toNat (placeInt3_high word)
  simp only [littleBytes, low, high, List.tail_cons]

namespace Tracee

variable {arch : Arch}

/-- The word that `create_breakpoint` saves, in its 64-bit field. -/
def savedWord (tracee : Tracee arch) (hookAddr : BitVec arch.width) : BitVec 64 :=
  (tracee.peek hookAddr).signExtend 64

theorem savedWord_setWidth (tracee : Tracee arch) (hookAddr : BitVec arch.width) :
    (tracee.savedWord hookAddr).setWidth arch.width = tracee.peek hookAddr := by
  apply BitVec.eq_of_getLsbD_eq
  intro index inside
  have wide := arch.width_le
  rw [savedWord, BitVec.getLsbD_setWidth, BitVec.getLsbD_signExtend, if_pos inside,
    decide_eq_true inside, decide_eq_true (by omega), Bool.true_and, Bool.true_and]

/-- The child with the breakpoint in place. -/
def armed (tracee : Tracee arch) (hookAddr : BitVec arch.width) : Tracee arch :=
  tracee.poke hookAddr ((placeInt3InFirstByte (tracee.savedWord hookAddr)).setWidth arch.width)

private theorem setWidth_bytes (word : BitVec 64) :
    littleBytes arch.wordSize (word.setWidth arch.width).toNat =
      littleBytes arch.wordSize word.toNat := by
  rw [BitVec.toNat_setWidth, ← arch.word_values, littleBytes_mod]

/-- Arming replaces one byte. -/
theorem armed_memory (tracee : Tracee arch) (hookAddr location : BitVec arch.width) :
    (tracee.armed hookAddr).memory location =
      if location = hookAddr then 0xCC else tracee.memory location := by
  obtain ⟨size, shape⟩ := Nat.exists_eq_add_one_of_ne_zero arch.wordSize_pos.ne'
  have original : littleBytes (size + 1) (tracee.savedWord hookAddr).toNat =
      tracee.wordBytes hookAddr := by
    rw [← littleBytes_peek, ← savedWord_setWidth, setWidth_bytes, shape]
  have patched := littleBytes_placeInt3 (tracee.savedWord hookAddr) size
  rw [original, ← shape, ← setWidth_bytes] at patched
  have position : location = hookAddr ↔ (location - hookAddr).toNat = 0 := by
    rw [← BitVec.toNat_zero (w := arch.width), BitVec.toNat_inj, BitVec.sub_eq_iff_eq_add,
      BitVec.zero_add]
  unfold armed
  by_cases inside : (location - hookAddr).toNat < arch.wordSize
  · rw [poke_inside _ _ _ inside, patched]
    cases index : (location - hookAddr).toNat with
    | zero => rw [if_pos (position.mpr index), List.getD_cons_zero]
    | succ next =>
        rw [if_neg (fun here => by rw [position.mp here] at index; cases index),
          List.getD_cons_succ, List.getD_eq_getElem?_getD, List.getElem?_tail,
          ← List.getD_eq_getElem?_getD, ← index, wordBytes_getD _ _ inside, add_sub_ofNat]
  · have elsewhere : location ≠ hookAddr := by
      intro here
      rw [position.mp here] at inside
      exact inside arch.wordSize_pos
    rw [poke_outside _ _ _ (by omega), if_neg elsewhere]

end Tracee

end ProcessBridge.Snapshotter
