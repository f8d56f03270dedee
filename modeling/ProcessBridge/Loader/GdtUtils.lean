import Mathlib.Tactic.IntervalCases
import ProcessBridge.Loader.Unicorn

/-! The descriptor macros of `gdt_utils.h` and the table they fill. Every shift
and mask stands as in the macros; an index outside the table is a store past
the end of a stack array. -/

set_option autoImplicit false

namespace ProcessBridge.Loader

open Library Common

def pbGdtAddr : Nat := 0x3000

def pbGdtSize : Nat := 0x1000

def descAccessed : BitVec 64 := 0x0001
def descDataWritable : BitVec 64 := 0x0002
def descCodeReadable : BitVec 64 := 0x0002
def descCodeExecutable : BitVec 64 := 0x0008
def descS : BitVec 64 := 0x0010
def descDpl (dpl : BitVec 64) : BitVec 64 := dpl <<< 5
def descPresent : BitVec 64 := 0x0080
def descLongCode : BitVec 64 := 0x2000
def descDb : BitVec 64 := 0x4000
def descGranularity4k : BitVec 64 := 0x8000

def descData : BitVec 64 := descS ||| descPresent ||| descAccessed ||| descDataWritable
def descCode : BitVec 64 :=
  descS ||| descPresent ||| descAccessed ||| descCodeReadable ||| descCodeExecutable

def descData32 : BitVec 64 := descData ||| descGranularity4k ||| descDb
def descCode32 : BitVec 64 := descCode ||| descGranularity4k ||| descDb
def descData64 : BitVec 64 := descData ||| descGranularity4k ||| descDb
def descCode64 : BitVec 64 := descCode ||| descGranularity4k ||| descLongCode
def descUser : BitVec 64 := descDpl 3

def gdtEntryInit (flags base limit : BitVec 64) : BitVec 64 :=
  ((limit &&& 0xFFFF) <<< 0) |||
  ((base &&& 0xFFFF) <<< 16) |||
  ((base &&& 0xFF0000) <<< 16) |||
  ((flags &&& 0x000F) <<< 40) |||
  ((flags &&& 0x0010) <<< 40) |||
  ((flags &&& 0x0060) <<< 40) |||
  ((flags &&& 0x0080) <<< 40) |||
  ((limit &&& 0xF0000) <<< 32) |||
  ((flags &&& 0x1000) <<< 40) |||
  ((flags &&& 0x2000) <<< 40) |||
  ((flags &&& 0x4000) <<< 40) |||
  ((flags &&& 0x8000) <<< 40) |||
  ((base &&& 0xFF000000) <<< 32)

/-- `USER_DESC_TO_REAL_DESC`. The bit-fields promote to `int` before the casts,
which cannot overflow at their widths. -/
def userDescToRealDesc (desc : UserDesc) : BitVec 64 :=
  ((desc.limit &&& 0xFFFF).setWidth 64 <<< 0) |||
  ((desc.baseAddr &&& 0xFFFF).setWidth 64 <<< 16) |||
  (((desc.baseAddr >>> 16).setWidth 64 &&& 0xFF) <<< 32) |||
  (((desc.readExecOnly ^^^ 1).setWidth 64 <<< 1 ||| desc.contents.setWidth 64 <<< 2 ||| 1)
    <<< 40) |||
  ((1 : BitVec 64) <<< 44) ||| ((3 : BitVec 64) <<< 45) |||
  ((desc.segNotPresent ^^^ 1).setWidth 64 <<< 47) |||
  (((desc.limit >>> 16).setWidth 64 &&& 0xF) <<< 48) |||
  (desc.useable.setWidth 64 <<< 52) |||
  (desc.seg32bit.setWidth 64 <<< 54) |||
  (desc.limitInPages.setWidth 64 <<< 55) |||
  (((desc.baseAddr >>> 24).setWidth 64 &&& 0xFF) <<< 56)

/-!
## Where the bits come from
-/

theorem getLsbD_gdtEntryInit (flags base limit : BitVec 64) {index : Nat} (inside : index < 64) :
    (gdtEntryInit flags base limit).getLsbD index =
      if index < 16 then limit.getLsbD index
      else if index < 40 then base.getLsbD (index - 16)
      else if index < 48 then flags.getLsbD (index - 40)
      else if index < 52 then limit.getLsbD (index - 32)
      else if index < 56 then flags.getLsbD (index - 40)
      else base.getLsbD (index - 32) := by
  simp only [gdtEntryInit, BitVec.getLsbD_or, BitVec.getLsbD_shiftLeft, BitVec.getLsbD_and]
  -- at every position the masks leave exactly one term of the macro
  interval_cases index <;> simp only [Nat.reduceLT, Nat.reduceSub, decide_true, decide_false,
    Bool.not_true, Bool.not_false, Bool.true_and, Bool.false_and, Bool.and_true, Bool.and_false,
    Bool.or_false, Bool.false_or, BitVec.reduceGetLsb, ↓reduceIte]

theorem getLsbD_userDescToRealDesc (desc : UserDesc) {index : Nat} (inside : index < 64) :
    (userDescToRealDesc desc).getLsbD index =
      if index < 16 then desc.limit.getLsbD index
      else if index < 40 then desc.baseAddr.getLsbD (index - 16)
      else if index = 40 then true
      else if index = 41 then !desc.readExecOnly.getLsbD 0
      else if index < 44 then desc.contents.getLsbD (index - 42)
      else if index < 47 then true
      else if index = 47 then !desc.segNotPresent.getLsbD 0
      else if index < 52 then desc.limit.getLsbD (index - 32)
      else if index = 52 then desc.useable.getLsbD 0
      else if index = 53 then false
      else if index = 54 then desc.seg32bit.getLsbD 0
      else if index = 55 then desc.limitInPages.getLsbD 0
      else desc.baseAddr.getLsbD (index - 32) := by
  simp only [userDescToRealDesc, UserDesc.readExecOnly, UserDesc.contents, UserDesc.segNotPresent,
    UserDesc.useable, UserDesc.seg32bit, UserDesc.limitInPages, BitVec.getLsbD_or,
    BitVec.getLsbD_shiftLeft, BitVec.getLsbD_and, BitVec.getLsbD_setWidth,
    BitVec.getLsbD_ushiftRight, BitVec.getLsbD_xor, BitVec.getLsbD_extractLsb']
  interval_cases index <;> simp only [Nat.reduceLT, Nat.reduceSub, Nat.reduceAdd,
    Nat.reduceEqDiff, decide_true, decide_false, Bool.not_true, Bool.not_false, Bool.true_and,
    Bool.false_and, Bool.and_true, Bool.and_false, Bool.or_false, Bool.false_or, Bool.or_true,
    Bool.xor_true, Bool.xor_false, BitVec.reduceGetLsb, ↓reduceIte]

/-- The re-encoded descriptor carries the base address of the captured one. -/
theorem descriptorBase_userDesc (desc : UserDesc) :
    descriptorBase (userDescToRealDesc desc) = desc.baseAddr := by
  apply BitVec.eq_of_getLsbD_eq
  intro index inside
  simp only [descriptorBase, BitVec.getLsbD_append, BitVec.getLsbD_extractLsb']
  by_cases low : index < 24
  · rw [if_pos low, getLsbD_userDescToRealDesc desc (by omega), if_neg (by omega),
      if_pos (by omega), Nat.add_sub_cancel_left]
    simp only [low, decide_true, Bool.true_and]
  · have high : index - 24 < 8 := by omega
    have place : 56 + (index - 24) - 32 = index := by omega
    rw [if_neg low, getLsbD_userDescToRealDesc desc (by omega)]
    grind

/-!
## The table
-/

abbrev GdtArray := Vector (BitVec 64) 512

def GdtArray.zero : GdtArray := Vector.replicate 512 0

/-- `gdt_array[index] = descriptor`, undefined outside the array. -/
def GdtArray.store (table : GdtArray) (index : Nat) (descriptor : BitVec 64) :
    Except Halt GdtArray :=
  if inside : index < 512 then .ok (table.set index descriptor) else .error .outOfBounds

def GdtArray.bytes (table : GdtArray) : List Byte := wordsBytes 8 table.toList

@[simp] theorem GdtArray.bytes_length (table : GdtArray) : table.bytes.length = pbGdtSize := by
  simp [bytes, pbGdtSize]

/-!
## Installing the table
-/

def gdtRegion (table : GdtArray) : Region UcProt Byte :=
  ⟨pbGdtAddr, ⟨true, false, false⟩, table.bytes⟩

/-- The tail both `dump_gdt` functions share: write the page, protect it, point
the table register at it. -/
def installGdt (uc : Engine) (table : GdtArray) : Except Halt Engine := do
  let uc ← pbUcCheck (ucMemWrite uc pbGdtAddr table.bytes) "failed to write gdt: %s"
  let uc ← pbUcCheck (ucMemProtect uc pbGdtAddr pbGdtSize ⟨true, false, false⟩)
    "failed to protect gdt: %s"
  pbUcCheck (ucRegWriteGdtr uc (BitVec.ofNat 64 pbGdtAddr) (BitVec.ofNat 32 (pbGdtSize - 1)))
    "failed to write gdtr"

theorem installGdt_fatalOnly (uc : Engine) (table : GdtArray) : FatalOnly (installGdt uc table) :=
  .bind (.pbUcCheck _ _) fun _ _ => .bind (.pbUcCheck _ _) fun _ _ => .pbUcCheck _ _

def Engine.withGdt (uc : Engine) (memory : Memory) : Engine :=
  { uc with
    memory
    gdtrBase := BitVec.ofNat 64 pbGdtAddr
    gdtrLimit := BitVec.ofNat 32 (pbGdtSize - 1) }

theorem installGdt_ok (uc : Engine) {front : List (Region UcProt Byte)} {perms : UcProt}
    {cells : List Byte} (full : cells.length = pbGdtSize)
    (shape : uc.memory.regions = front ++ [⟨pbGdtAddr, perms, cells⟩]) (table : GdtArray) :
    ∃ memory : Memory, installGdt uc table = .ok (uc.withGdt memory) ∧
      memory.regions = front ++ [gdtRegion table] := by
  obtain ⟨written, writeOk, writtenShape⟩ := MemoryMap.write?_last shape pbGdtAddr table.bytes
    le_rfl (by simp [Region.limit, full])
  have replaced : Region.overlay pbGdtAddr table.bytes ⟨pbGdtAddr, perms, cells⟩ =
      ⟨pbGdtAddr, perms, table.bytes⟩ := Region.overlay_whole rfl (by simp [full])
  rw [replaced] at writtenShape
  obtain ⟨guarded, protectOk, guardedShape⟩ :=
    MemoryMap.protect?_last writtenShape (⟨true, false, false⟩ : UcProt)
  rw [GdtArray.bytes_length] at protectOk
  have written : ucMemWrite uc pbGdtAddr table.bytes = .ok { uc with memory := written } :=
    ucMemWrite_ok writeOk
  refine ⟨guarded, ?_, guardedShape⟩
  rw [installGdt, written, pbUcCheck, ok_bind, ucMemProtect_ok protectOk, pbUcCheck, ok_bind]
  rfl

/-- The engine uses an installed table. -/
structure Engine.HoldsGdt (uc : Engine) (table : GdtArray) : Prop where
  base : uc.gdtrBase = BitVec.ofNat 64 pbGdtAddr
  limit : uc.gdtrLimit = BitVec.ofNat 32 (pbGdtSize - 1)
  mapped : gdtRegion table ∈ uc.memory.regions

theorem Engine.HoldsGdt.descriptorAt {uc : Engine} {table : GdtArray}
    (held : uc.HoldsGdt table) (selector : BitVec 16)
    (inside : selector.toNat / 8 < 512) :
    uc.descriptorAt selector = table[selector.toNat / 8] := by
  have address : uc.gdtrBase.toNat = pbGdtAddr := by
    rw [held.base]
    rfl
  have slice := MemoryMap.read?_region held.mapped (pbGdtAddr + 8 * (selector.toNat / 8)) 8
    (Nat.le_add_right _ _) (by
      simp only [Region.limit, gdtRegion, GdtArray.bytes_length, pbGdtSize]
      omega)
  have offset : pbGdtAddr + 8 * (selector.toNat / 8) - (gdtRegion table).base =
      8 * (selector.toNat / 8) := by
    simp [gdtRegion]
  have fits : 256 ^ 8 = 2 ^ 64 := by norm_num
  have entry := wordAt_wordsBytes fits table.toList (selector.toNat / 8) (by simpa using inside)
  rw [Engine.descriptorAt, address, slice, offset]
  exact entry.trans (Vector.getElem_toList _)

end ProcessBridge.Loader
