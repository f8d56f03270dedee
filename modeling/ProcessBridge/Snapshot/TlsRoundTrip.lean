import ProcessBridge.Loader.CpuStateDump
import ProcessBridge.Loader.DescriptorLayout
import ProcessBridge.Loader.I386.GdtTable
import ProcessBridge.Snapshotter.KernelProperties
import ProcessBridge.Snapshotter.Snapshot

/-! Thread-local descriptors from the kernel's table to the loader's. The kernel
decodes a descriptor into a `user_desc`, the snapshotter asks for three of
them, and the loader encodes them again beside the flat segments. -/

set_option autoImplicit false

namespace ProcessBridge.Snapshot

open Library Common Snapshotter Loader
open Program hiding call

/-!
## The kernel's descriptors
-/

/-- `fill_ldt`, which builds a descriptor from what a process asked for. -/
def fillLdt (info : UserDesc) : BitVec 64 := (userSegment info).encode

/-- `fill_user_desc`, the answer to `PTRACE_GET_THREAD_AREA`. -/
def fillUserDesc (index : Nat) (raw : BitVec 64) : UserDesc :=
  let desc := SegmentDescriptor.decode raw
  { entryNumber := BitVec.ofNat 32 index
    baseAddr := desc.base
    limit := desc.limit.setWidth 32
    flags := (desc.avl ++ (desc.p ^^^ 1) ++ desc.g ++ (desc.type.extractLsb' 1 1 ^^^ 1) ++
      desc.type.extractLsb' 2 2 ++ desc.db).setWidth 32 }

/-- What a slot of the kernel's table can hold. -/
inductive IsTlsDescriptor : BitVec 64 → Prop where
  | empty : IsTlsDescriptor 0
  | filled (info : UserDesc) : IsTlsDescriptor (fillLdt info)

def Present (raw : BitVec 64) : Prop := (SegmentDescriptor.decode raw).p = 1

/-- Decoding and encoding again keeps the base, the limit and the attributes that a
`user_desc` has, and sets the others as for every user segment. -/
theorem userSegment_fillUserDesc (index : Nat) (raw : BitVec 64) :
    userSegment (fillUserDesc index raw) =
      { SegmentDescriptor.decode raw with
        type := (SegmentDescriptor.decode raw).type ||| 1, s := 1, dpl := 3, l := 0 } := by
  generalize decoded : SegmentDescriptor.decode raw = desc
  simp only [userSegment, fillUserDesc, decoded, UserDesc.readExecOnly, UserDesc.contents,
    UserDesc.segNotPresent, UserDesc.useable, UserDesc.seg32bit, UserDesc.limitInPages,
    SegmentDescriptor.mk.injEq]
  refine ⟨trivial, ?_, ?_, trivial, trivial, ?_, ?_, trivial, ?_, ?_⟩
  all_goals
    apply BitVec.eq_of_getLsbD_eq
    intro position inside
    simp only [BitVec.getLsbD_extractLsb', BitVec.getLsbD_setWidth, BitVec.getLsbD_append,
      BitVec.getLsbD_xor, BitVec.getLsbD_or, BitVec.getLsbD_shiftLeft]
    interval_cases position <;> simp only [Nat.reduceLT, Nat.reduceSub, Nat.reduceAdd,
      decide_true, decide_false, Bool.true_and, Bool.and_true, Bool.and_false, Bool.false_and,
      Bool.or_false, Bool.false_or, Bool.or_true, Bool.not_true, Bool.not_false, Bool.xor_true,
      Bool.xor_false, Bool.not_not, BitVec.reduceGetLsb, ↓reduceIte]

private theorem userDescToRealDesc_fillUserDesc {raw : BitVec 64} (genuine : IsTlsDescriptor raw)
    (index : Nat) :
    (Present (userDescToRealDesc (fillUserDesc index raw)) ↔ Present raw) ∧
      (Present raw → userDescToRealDesc (fillUserDesc index raw) = raw) := by
  constructor
  · rw [Present, userDescToRealDesc_eq_encode, SegmentDescriptor.decode_encode,
      userSegment_fillUserDesc, Present]
  · intro present
    cases genuine with
    | empty =>
        have cleared : (SegmentDescriptor.decode 0).p ≠ 1 := by decide
        exact absurd present cleared
    | filled info =>
        have accessed : (userSegment info).type ||| 1 = (userSegment info).type := by
          simp only [userSegment, BitVec.or_assoc, BitVec.or_self]
        rw [userDescToRealDesc_eq_encode, userSegment_fillUserDesc, fillLdt,
          SegmentDescriptor.decode_encode, accessed]
        rfl

/-!
## Capturing the slots
-/

/-- Where the two kernels keep the segments of a 32-bit process. -/
inductive GdtLayout where
  | native
  | compatibility
deriving DecidableEq, Repr

namespace GdtLayout

def tlsMin : GdtLayout → Nat
  | native => 6
  | compatibility => 12

def userCs : GdtLayout → Nat
  | native => 14
  | compatibility => 4

def userSs : GdtLayout → Nat
  | native => 15
  | compatibility => 5

end GdtLayout

abbrev TlsSlots := Fin gdtEntryTlsEntries → BitVec 64

/-- `PTRACE_GET_THREAD_AREA` decodes the slots of the layout and fails for every other
index. -/
structure ServesTls (kernel : Kernel .i386) (layout : GdtLayout) (slots : TlsSlots) : Prop where
  inside : ∀ count (slot : Fin gdtEntryTlsEntries),
    kernel.fails count (.getThreadArea (layout.tlsMin + slot)) = false ∧
      kernel.threadArea count (layout.tlsMin + slot) =
        fillUserDesc (layout.tlsMin + slot) (slots slot)
  outside : ∀ count index, (∀ slot : Fin gdtEntryTlsEntries, index ≠ layout.tlsMin + slot) →
    kernel.fails count (.getThreadArea index) = true

def capturedTls (layout : GdtLayout) (slots : TlsSlots) : Tls :=
  fun slot => fillUserDesc (layout.tlsMin + slot) (slots slot)

section Capture

variable {kernel : Kernel .i386} {layout : GdtLayout} {slots : TlsSlots} {world : World .i386}
  {tracee : Tracee .i386}

private theorem run_getThreadArea (served : ServesTls kernel layout slots)
    (stopped : world.child = .stopped tracee) (slot : Fin gdtEntryTlsEntries) :
    (call (.getThreadArea (layout.tlsMin + slot))).run kernel.answer world =
      (.ok (some (capturedTls layout slots slot)),
        world.record (.getThreadArea (layout.tlsMin + slot)) true) := by
  obtain ⟨granted, decoded⟩ := served.inside world.log.length slot
  have kept : (world.record (.getThreadArea (layout.tlsMin + slot)) true).child =
      .stopped tracee := stopped
  rw [run_granted granted]
  simp only [Kernel.perform, Kernel.onStopped, kept, decoded]
  rfl

private theorem run_getThreadArea_outside (served : ServesTls kernel layout slots) {index : Nat}
    (outside : ∀ slot : Fin gdtEntryTlsEntries, index ≠ layout.tlsMin + slot) :
    (call (.getThreadArea index)).run kernel.answer world =
      (.ok none, world.record (.getThreadArea index) false) :=
  run_refused (served.outside world.log.length index outside)

/-- The loop overwrites exactly the slots it asks for. -/
theorem fillTls_run (served : ServesTls kernel layout slots)
    (asked : List (Fin gdtEntryTlsEntries)) (tls : Tls) (stopped : world.child = .stopped tracee) :
    ∃ after, (fillTls layout.tlsMin (asked.map fun slot => layout.tlsMin + slot.val) tls).run
        kernel.answer world =
      (.ok (fun slot => if slot ∈ asked then capturedTls layout slots slot else tls slot),
        after) := by
  induction asked generalizing tls world with
  | nil => exact ⟨world, by simp [fillTls]⟩
  | cons slot rest ih =>
      have answered := run_getThreadArea served stopped slot
      have kept : (world.record (.getThreadArea (layout.tlsMin + slot)) true).child =
          .stopped tracee := stopped
      obtain ⟨after, finished⟩ := ih (tls.set (layout.tlsMin + slot - layout.tlsMin)
        (capturedTls layout slots slot)) kept
      refine ⟨after, ?_⟩
      rw [List.map_cons, fillTls, run_bind_ok (run_required_ok _ answered), finished]
      congr 2
      funext other
      by_cases later : other ∈ rest
      · rw [if_pos later, if_pos (List.mem_cons_of_mem _ later)]
      · by_cases same : other = slot
        · rw [same, Tls.set]
          simp
        · simp [later, same, Tls.set, Fin.val_inj]

private theorem readTls_run (served : ServesTls kernel layout slots) (uninitialised : Tls)
    (stopped : world.child = .stopped tracee) :
    ∃ after, (readTls uninitialised).run kernel.answer world =
      (.ok (capturedTls layout slots), after) := by
  cases layout with
  | native =>
      have answered : (call (.getThreadArea gdtEntryTlsMinTrueI386)).run kernel.answer world =
          (.ok (some (capturedTls .native slots 0)), world.record (.getThreadArea 6) true) :=
        run_getThreadArea served stopped 0
      have kept : (world.record (.getThreadArea 6) true).child = .stopped tracee := stopped
      obtain ⟨after, finished⟩ := fillTls_run served [1, 2]
        (Tls.set uninitialised 0 (capturedTls .native slots 0)) kept
      refine ⟨after, ?_⟩
      rw [readTls, run_bind_ok answered]
      refine finished.trans ?_
      congr 2
      funext slot
      fin_cases slot <;> rfl
  | compatibility =>
      have answered : (call (.getThreadArea gdtEntryTlsMinTrueI386)).run kernel.answer world =
          (.ok none, world.record (.getThreadArea 6) false) :=
        run_getThreadArea_outside served (by decide)
      have kept : (world.record (.getThreadArea 6) false).child = .stopped tracee := stopped
      obtain ⟨after, finished⟩ := fillTls_run served [0, 1, 2] uninitialised kept
      refine ⟨after, ?_⟩
      rw [readTls, run_bind_ok answered]
      refine finished.trans ?_
      congr 2
      funext slot
      fin_cases slot <;> rfl

theorem createSnapshotI386_run (served : ServesTls kernel layout slots) (uninitialised : Tls)
    (stopped : world.child = .stopped tracee)
    (granted : kernel.fails world.log.length .getregs = false) :
    ∃ after, (createSnapshotI386 uninitialised).run kernel.answer world =
      (.ok ⟨tracee.regs, capturedTls layout slots⟩, after) := by
  have kept : (world.record .getregs true).child = .stopped tracee := stopped
  have answered : (call .getregs).run kernel.answer world =
      (.ok (some tracee.regs), world.record .getregs true) := by
    rw [run_granted granted, perform_getregs kernel _ kept]
  obtain ⟨after, finished⟩ := readTls_run served uninitialised kept
  refine ⟨after, ?_⟩
  rw [createSnapshotI386, run_bind_ok (run_required_ok _ answered), run_bind_ok finished]
  rfl

/-- Without the registers there is no snapshot. -/
theorem createSnapshotI386_refused (uninitialised : Tls)
    (refused : kernel.fails world.log.length .getregs = true) :
    ∃ after, (createSnapshotI386 uninitialised).run kernel.answer world =
      (.error (.fatal "ptrace(PTRACE_GETREGS, pid=%d) failed"), after) := by
  refine ⟨world.record .getregs false, ?_⟩
  have asked : (call .getregs).run kernel.answer world = (.ok none, world.record .getregs false) :=
    run_refused refused
  rw [createSnapshotI386, run_bind_error (run_required_none _ asked)]

end Capture

/-!
## Restoring the table
-/

/-- The table has the flat segments where the selectors point, the kernel's
thread-local descriptors in their slots, and nothing else. -/
structure RestoresTable (layout : GdtLayout) (slots : TlsSlots) (regs : PbI386Regs)
    (table : GdtArray) : Prop where
  code : table[(regs.xcs >>> 3).toNat]? = some I386.flatUserCode.encode
  data : table[(regs.xss >>> 3).toNat]? = some I386.flatUserData.encode
  tls : ∀ slot : Fin gdtEntryTlsEntries, ∃ descriptor,
    table[layout.tlsMin + slot.val]? = some descriptor ∧
      (Present descriptor ↔ Present (slots slot)) ∧ (Present (slots slot) → descriptor = slots slot)
  other : ∀ index, index < 512 → index ≠ (regs.xcs >>> 3).toNat → index ≠ (regs.xss >>> 3).toNat →
    (∀ slot : Fin gdtEntryTlsEntries, index ≠ layout.tlsMin + slot) → table[index]? = some 0

/-- The selectors of a process that runs in the segments of the layout. -/
structure RunsIn (layout : GdtLayout) (regs : PbI386Regs) : Prop where
  xcs : regs.xcs >>> 3 = BitVec.ofNat 32 layout.userCs
  xss : regs.xss >>> 3 = BitVec.ofNat 32 layout.userSs

section Restore

variable {layout : GdtLayout} {slots : TlsSlots} {regs : PbI386Regs}

theorem RunsIn.xcs_toNat (runs : RunsIn layout regs) : (regs.xcs >>> 3).toNat = layout.userCs := by
  rw [runs.xcs]
  cases layout with
  | native => rfl
  | compatibility => rfl

theorem RunsIn.xss_toNat (runs : RunsIn layout regs) : (regs.xss >>> 3).toNat = layout.userSs := by
  rw [runs.xss]
  cases layout with
  | native => rfl
  | compatibility => rfl

private theorem entryOf_capturedTls (layout : GdtLayout) (slots : TlsSlots) (regs : PbI386Regs)
    (slot : Fin gdtEntryTlsEntries) :
    I386.entryOf ⟨regs, capturedTls layout slots⟩ slot = layout.tlsMin + slot := by
  have small : layout.tlsMin + slot.val < 2 ^ 32 := by
    have inside : slot.val < 3 := slot.isLt
    cases layout <;> simp only [GdtLayout.tlsMin] <;> omega
  exact Nat.mod_eq_of_lt small

/-- The layouts keep the slots apart from the code and stack segments. -/
theorem tlsMin_apart (layout : GdtLayout) (slot : Fin gdtEntryTlsEntries) :
    layout.tlsMin + slot.val ≠ layout.userCs ∧ layout.tlsMin + slot.val ≠ layout.userSs ∧
      layout.tlsMin + slot.val < 512 := by
  have inside : slot.val < 3 := slot.isLt
  cases layout <;> simp only [GdtLayout.tlsMin, GdtLayout.userCs, GdtLayout.userSs] <;> omega

private theorem fillGdt_restores (genuine : ∀ slot, IsTlsDescriptor (slots slot))
    (runs : RunsIn layout regs)
    {table : GdtArray} (filled : I386.fillGdt ⟨regs, capturedTls layout slots⟩ = .ok table) :
    RestoresTable layout slots regs table where
  code := by
    have apart : (regs.xss >>> 3).toNat ≠ (regs.xcs >>> 3).toNat := by
      rw [runs.xcs_toNat, runs.xss_toNat]
      cases layout <;> decide
    have unnamed : ∀ slot, I386.entryOf ⟨regs, capturedTls layout slots⟩ slot ≠
        (regs.xcs >>> 3).toNat := by
      intro slot
      rw [entryOf_capturedTls, runs.xcs_toNat]
      exact (tlsMin_apart layout slot).1
    have stored := I386.fillGdt_code filled apart unnamed
    exact stored
  data := by
    have unnamed : ∀ slot, I386.entryOf ⟨regs, capturedTls layout slots⟩ slot ≠
        (regs.xss >>> 3).toNat := by
      intro slot
      rw [entryOf_capturedTls, runs.xss_toNat]
      exact (tlsMin_apart layout slot).2.1
    have stored := I386.fillGdt_data filled unnamed
    exact stored
  tls := by
    intro slot
    have last : I386.LastOfEntry ⟨regs, capturedTls layout slots⟩ slot := by
      intro later behind
      rw [entryOf_capturedTls, entryOf_capturedTls]
      have order : slot.val < later.val := behind
      omega
    have stored := I386.fillGdt_tls filled last
    rw [entryOf_capturedTls] at stored
    exact ⟨_, stored, userDescToRealDesc_fillUserDesc (genuine slot) _⟩
  other := by
    intro index inside notCs notSs notTls
    refine I386.fillGdt_unstored filled inside ?_
    simp only [I386.gdtIndices, entryOf_capturedTls, List.cons_append, List.nil_append,
      List.mem_cons, List.mem_map, List.mem_finRange, true_and, not_or, not_exists]
    exact ⟨notCs, notSs, fun slot same => notTls slot same.symm⟩

private theorem captured_accepted (runs : RunsIn layout regs)
    (noLdt : ∀ selector ∈ [regs.xcs, regs.xds, regs.xes, regs.xfs, regs.xgs, regs.xss],
      selector &&& 0x4 = 0) : I386.GdtAccepts ⟨regs, capturedTls layout slots⟩ where
  noLdt := by
    simpa only [List.forall_mem_cons, List.not_mem_nil, false_implies, implies_true, and_true]
      using noLdt
  xcs := by
    change regs.xcs >>> 3 = _ ∨ regs.xcs >>> 3 = _
    rw [runs.xcs]
    cases layout <;> decide
  xss := by
    change (regs.xss >>> 3).toNat < 512
    rw [runs.xss_toNat]
    cases layout <;> decide
  tls := by
    intro slot
    rw [entryOf_capturedTls]
    exact (tlsMin_apart layout slot).2.2

end Restore

/-- On both kernels the snapshotter captures the three thread-local slots in their
order, and the table the loader writes for the captured state has the flat code
and data segments at the selectors, every present descriptor bit for bit in its
slot, no descriptor that was absent, and zero elsewhere. -/
theorem tls_restored (kernel : Kernel .i386) (layout : GdtLayout) (slots : TlsSlots)
    (world : World .i386) (tracee : Tracee .i386) (uninitialised : Tls)
    (served : ServesTls kernel layout slots) (genuine : ∀ slot, IsTlsDescriptor (slots slot))
    (stopped : world.child = .stopped tracee) (runs : RunsIn layout tracee.regs) :
    (∀ state after, (createSnapshotI386 uninitialised).run kernel.answer world = (.ok state, after) →
      state.regs = tracee.regs ∧
      (∀ slot, state.tls slot = fillUserDesc (layout.tlsMin + slot) (slots slot)) ∧
      (∀ uc : Engine, uc.memory.Free pbGdtAddr pbGdtSize →
        (∀ selector ∈ [state.regs.xcs, state.regs.xds, state.regs.xes, state.regs.xfs,
          state.regs.xgs, state.regs.xss], selector &&& 0x4 = 0) →
        ∃ loaded, I386.dumpGdt uc (.ofBytes state.bytes) = .ok loaded) ∧
      ∀ uc loaded : Engine, I386.dumpGdt uc (.ofBytes state.bytes) = .ok loaded →
        ∃ table, loaded.memory.regions = uc.memory.regions ++ [gdtRegion table] ∧
          RestoresTable layout slots state.regs table) ∧
    (kernel.fails world.log.length .getregs = false →
      ∃ state after, (createSnapshotI386 uninitialised).run kernel.answer world =
        (.ok state, after)) := by
  constructor
  · intro state after captured
    obtain rfl : state = ⟨tracee.regs, capturedTls layout slots⟩ := by
      cases granted : kernel.fails world.log.length .getregs with
      | false =>
          obtain ⟨_, finished⟩ := createSnapshotI386_run served uninitialised stopped granted
          rw [finished] at captured
          cases captured
          rfl
      | true =>
          obtain ⟨_, failed⟩ := createSnapshotI386_refused uninitialised granted
          rw [failed] at captured
          cases captured
    rw [LinuxI386ProcessState.ofBytes_bytes]
    refine ⟨rfl, fun _ => rfl, ?_, ?_⟩
    · intro uc free noLdt
      exact I386.dumpGdt_ok free (captured_accepted runs noLdt)
    · intro uc loaded dumped
      obtain ⟨table, filled, memory, rfl, shape⟩ := I386.dumpGdt_ok_inv dumped
      exact ⟨table, shape, fillGdt_restores genuine runs filled⟩
  · intro granted
    obtain ⟨after, finished⟩ := createSnapshotI386_run served uninitialised stopped granted
    exact ⟨_, after, finished⟩

/-- A kernel that answers from the given slots. -/
def tlsKernel (layout : GdtLayout) (slots : TlsSlots) : Kernel .i386 where
  fails := fun _ op =>
    match op with
    | .getThreadArea index => decide (index < layout.tlsMin ∨ layout.tlsMin + 3 ≤ index)
    | _ => false
  pid := 1
  image := ⟨flatI386State.regs, fun _ => 0x90⟩
  report := fun _ _ _ => none
  threadArea := fun _ index =>
    fillUserDesc index (slots ⟨(index - layout.tlsMin) % 3, Nat.mod_lt _ (by decide)⟩)
  elf := []
  elfPath := []
  maps := fun _ => []
  readv := fun _ _ _ buffer => (none, buffer)

private theorem tlsKernel_serves (layout : GdtLayout) (slots : TlsSlots) :
    ServesTls (tlsKernel layout slots) layout slots where
  inside := by
    intro count slot
    have inside : slot.val < 3 := slot.isLt
    have same : (layout.tlsMin + slot.val - layout.tlsMin) % 3 = slot.val := by
      rw [Nat.add_sub_cancel_left]
      exact Nat.mod_eq_of_lt inside
    refine ⟨decide_eq_false (by omega), ?_⟩
    simp only [tlsKernel, same]
  outside := by
    intro count index outside
    refine decide_eq_true ?_
    by_contra between
    have lower : layout.tlsMin ≤ index := by omega
    exact outside ⟨index - layout.tlsMin, by change _ < 3; omega⟩ (Nat.add_sub_cancel' lower).symm

/-- The slot the C library asks for, and two that were never set. -/
def oneSlot : TlsSlots :=
  fun slot => if slot.val = 0 then fillLdt ⟨12, 0xf7fc0500, 0xfffff, 0x51⟩ else 0

theorem tls_restored_oneSlot :
    ∃ (state : LinuxI386ProcessState) (after : World .i386) (loaded : Engine) (table : GdtArray),
      (createSnapshotI386 (fun _ => default)).run (tlsKernel .compatibility oneSlot).answer
        ⟨[], [], .stopped ⟨flatI386State.regs, fun _ => 0x90⟩, 0, []⟩ = (.ok state, after) ∧
      I386.dumpGdt (.opened .mode32) (.ofBytes state.bytes) = .ok loaded ∧
      loaded.memory.regions = [gdtRegion table] ∧
      RestoresTable .compatibility oneSlot state.regs table := by
  have genuine : ∀ slot, IsTlsDescriptor (oneSlot slot) := by
    intro slot
    by_cases first : slot.val = 0
    · rw [oneSlot, if_pos first]
      exact .filled _
    · rw [oneSlot, if_neg first]
      exact .empty
  obtain ⟨restored, returns⟩ := tls_restored (tlsKernel .compatibility oneSlot) .compatibility
    oneSlot ⟨[], [], .stopped ⟨flatI386State.regs, fun _ => 0x90⟩, 0, []⟩
    ⟨flatI386State.regs, fun _ => 0x90⟩ (fun _ => default)
    (tlsKernel_serves .compatibility oneSlot) genuine rfl ⟨by decide, by decide⟩
  obtain ⟨state, after, captured⟩ := returns rfl
  obtain ⟨regs, _, accepted, written⟩ := restored state after captured
  have noLdt : ∀ selector ∈ [flatI386State.regs.xcs, flatI386State.regs.xds,
      flatI386State.regs.xes, flatI386State.regs.xfs, flatI386State.regs.xgs,
      flatI386State.regs.xss], selector &&& 0x4 = 0 := by
    simpa only [List.forall_mem_cons, List.not_mem_nil, false_implies, implies_true, and_true]
      using flatI386State_accepted.noLdt
  obtain ⟨loaded, dumped⟩ := accepted (.opened .mode32) (Engine.opened_free .mode32 _ _)
    (by rwa [regs])
  obtain ⟨table, shape, holds⟩ := written (.opened .mode32) loaded dumped
  exact ⟨state, after, loaded, table, captured, dumped, shape, holds⟩

end ProcessBridge.Snapshot
