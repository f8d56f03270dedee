import Mathlib.Tactic.IntervalCases
import Mathlib.Logic.Function.Basic

/-! The layout of an x86 segment descriptor. A base of 32 bits and a limit of 20
are split over the 64 bits; what is left are the access byte and four flags. -/

set_option autoImplicit false

namespace ProcessBridge.Library

/-- The fields of a code or data segment descriptor. -/
structure SegmentDescriptor where
  base : BitVec 32
  limit : BitVec 20
  type : BitVec 4
  s : BitVec 1
  dpl : BitVec 2
  p : BitVec 1
  avl : BitVec 1
  l : BitVec 1
  db : BitVec 1
  g : BitVec 1
deriving DecidableEq, Repr

namespace SegmentDescriptor

def decode (raw : BitVec 64) : SegmentDescriptor where
  base := raw.extractLsb' 56 8 ++ raw.extractLsb' 16 24
  limit := raw.extractLsb' 48 4 ++ raw.extractLsb' 0 16
  type := raw.extractLsb' 40 4
  s := raw.extractLsb' 44 1
  dpl := raw.extractLsb' 45 2
  p := raw.extractLsb' 47 1
  avl := raw.extractLsb' 52 1
  l := raw.extractLsb' 53 1
  db := raw.extractLsb' 54 1
  g := raw.extractLsb' 55 1

def encode (desc : SegmentDescriptor) : BitVec 64 :=
  desc.base.extractLsb' 24 8 ++ desc.g ++ desc.db ++ desc.l ++ desc.avl ++
    desc.limit.extractLsb' 16 4 ++ desc.p ++ desc.dpl ++ desc.s ++ desc.type ++
    desc.base.extractLsb' 0 24 ++ desc.limit.extractLsb' 0 16

/-- The access byte and, behind four unused bits, the flags. -/
def attributes (desc : SegmentDescriptor) : BitVec 16 :=
  desc.g ++ desc.db ++ desc.l ++ desc.avl ++ (0 : BitVec 4) ++ desc.p ++ desc.dpl ++ desc.s ++
    desc.type

theorem decode_encode (desc : SegmentDescriptor) : decode desc.encode = desc := by
  obtain ⟨base, limit, type, s, dpl, p, avl, l, db, g⟩ := desc
  simp only [decode, mk.injEq]
  refine ⟨?_, ?_, ?_, ?_, ?_, ?_, ?_, ?_, ?_, ?_⟩
  all_goals
    apply BitVec.eq_of_getLsbD_eq
    intro index inside
    simp only [encode, BitVec.getLsbD_append, BitVec.getLsbD_extractLsb']
    interval_cases index <;> simp only [Nat.reduceLT, Nat.reduceSub, Nat.reduceAdd, decide_true,
      Bool.true_and, ↓reduceIte]

end SegmentDescriptor

end ProcessBridge.Library
