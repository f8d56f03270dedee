import ProcessBridge.Library.SegmentDescriptor
import ProcessBridge.Loader.GdtUtils

/-! The two descriptor macros against the layout of the architecture: what each
field of an encoded descriptor holds, and that the macros agree. -/

set_option autoImplicit false

namespace ProcessBridge.Loader

open Library Common

/-- The fields that the arguments of `GDT_ENTRY_INIT` stand for. -/
def gdtEntryFields (flags base limit : BitVec 64) : SegmentDescriptor where
  base := base.setWidth 32
  limit := limit.setWidth 20
  type := flags.extractLsb' 0 4
  s := flags.extractLsb' 4 1
  dpl := flags.extractLsb' 5 2
  p := flags.extractLsb' 7 1
  avl := flags.extractLsb' 12 1
  l := flags.extractLsb' 13 1
  db := flags.extractLsb' 14 1
  g := flags.extractLsb' 15 1

/-- The segment that a `user_desc` describes: accessed, of privilege level three, and
never a 64-bit code segment. -/
def userSegment (desc : UserDesc) : SegmentDescriptor where
  base := desc.baseAddr
  limit := desc.limit.setWidth 20
  type := ((desc.readExecOnly ^^^ 1).setWidth 4 <<< 1) ||| (desc.contents.setWidth 4 <<< 2) ||| 1
  s := 1
  dpl := 3
  p := desc.segNotPresent ^^^ 1
  avl := desc.useable
  l := 0
  db := desc.seg32bit
  g := desc.limitInPages

private theorem gdtEntryInit_eq_encode (flags base limit : BitVec 64) :
    gdtEntryInit flags base limit = (gdtEntryFields flags base limit).encode := by
  apply BitVec.eq_of_getLsbD_eq
  intro index inside
  rw [getLsbD_gdtEntryInit _ _ _ inside]
  simp only [gdtEntryFields, SegmentDescriptor.encode, BitVec.getLsbD_append,
    BitVec.getLsbD_extractLsb', BitVec.getLsbD_setWidth]
  interval_cases index <;> simp only [Nat.reduceLT, Nat.reduceSub, Nat.reduceAdd, decide_true,
    Bool.true_and, ↓reduceIte]

theorem userDescToRealDesc_eq_encode (desc : UserDesc) :
    userDescToRealDesc desc = (userSegment desc).encode := by
  apply BitVec.eq_of_getLsbD_eq
  intro index inside
  rw [getLsbD_userDescToRealDesc _ inside]
  simp only [userSegment, SegmentDescriptor.encode, BitVec.getLsbD_append,
    BitVec.getLsbD_extractLsb', BitVec.getLsbD_setWidth, BitVec.getLsbD_xor, BitVec.getLsbD_or,
    BitVec.getLsbD_shiftLeft, UserDesc.readExecOnly]
  interval_cases index <;> simp only [Nat.reduceLT, Nat.reduceSub, Nat.reduceAdd,
    Nat.reduceEqDiff, decide_true, decide_false, Bool.true_and, Bool.false_and, Bool.and_true,
    Bool.and_false, Bool.or_false, Bool.false_or, Bool.or_true, Bool.not_true, Bool.not_false,
    Bool.xor_true, Bool.xor_false, BitVec.reduceGetLsb, ↓reduceIte]

private theorem gdtEntryFields_attributes (flags base limit : BitVec 64) :
    (gdtEntryFields flags base limit).attributes.setWidth 64 = flags &&& 0xF0FF := by
  apply BitVec.eq_of_getLsbD_eq
  intro index inside
  simp only [gdtEntryFields, SegmentDescriptor.attributes, BitVec.getLsbD_append,
    BitVec.getLsbD_extractLsb', BitVec.getLsbD_setWidth, BitVec.getLsbD_and]
  interval_cases index <;> simp only [Nat.reduceLT, Nat.reduceSub, Nat.reduceAdd, decide_true,
    decide_false, Bool.true_and, Bool.false_and, Bool.and_true, Bool.and_false, BitVec.reduceGetLsb, ↓reduceIte]

private theorem gdtEntryFields_userSegment (desc : UserDesc) :
    gdtEntryFields ((userSegment desc).attributes.setWidth 64) (desc.baseAddr.setWidth 64)
      (desc.limit.setWidth 64) = userSegment desc := by
  simp only [gdtEntryFields, userSegment, SegmentDescriptor.attributes, SegmentDescriptor.mk.injEq]
  refine ⟨?_, ?_, ?_, ?_, ?_, ?_, ?_, ?_, ?_, ?_⟩
  all_goals
    apply BitVec.eq_of_getLsbD_eq
    intro index inside
    simp only [BitVec.getLsbD_extractLsb', BitVec.getLsbD_setWidth, BitVec.getLsbD_append]
    interval_cases index <;> simp only [Nat.reduceLT, Nat.reduceSub, Nat.reduceAdd, decide_true,
      Bool.true_and, BitVec.reduceGetLsb, ↓reduceIte]

/-- `GDT_ENTRY_INIT` puts the base, the limit and the flags of its mask where the
architecture has them, and `USER_DESC_TO_REAL_DESC` is `GDT_ENTRY_INIT` with the
flags that the bit-fields of the structure stand for. -/
theorem descriptorEncoders_agree :
    (∀ flags base limit : BitVec 64,
      SegmentDescriptor.decode (gdtEntryInit flags base limit) = gdtEntryFields flags base limit ∧
      (SegmentDescriptor.decode (gdtEntryInit flags base limit)).attributes.setWidth 64 =
        flags &&& 0xF0FF) ∧
    (∀ desc : UserDesc,
      userDescToRealDesc desc = gdtEntryInit ((userSegment desc).attributes.setWidth 64)
        (desc.baseAddr.setWidth 64) (desc.limit.setWidth 64) ∧
      SegmentDescriptor.decode (userDescToRealDesc desc) = userSegment desc) := by
  constructor
  · intro flags base limit
    have decoded : SegmentDescriptor.decode (gdtEntryInit flags base limit) =
        gdtEntryFields flags base limit := by
      rw [gdtEntryInit_eq_encode, SegmentDescriptor.decode_encode]
    rw [decoded]
    exact ⟨rfl, gdtEntryFields_attributes flags base limit⟩
  · intro desc
    constructor
    · rw [gdtEntryInit_eq_encode, gdtEntryFields_userSegment, userDescToRealDesc_eq_encode]
    · rw [userDescToRealDesc_eq_encode, SegmentDescriptor.decode_encode]

end ProcessBridge.Loader
