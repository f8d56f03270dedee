import ProcessBridge.Library.SegmentDescriptor
import ProcessBridge.Loader.I386.CpuStateDump

/-! The descriptor table of a 32-bit process as a whole: which entries
`dump_gdt` stores, and which states make it store outside the array. -/

set_option autoImplicit false

namespace ProcessBridge.Loader.I386

open Library Common

/-- The indices of the stores, in their order. -/
def gdtIndices (state : LinuxI386ProcessState) : List Nat :=
  [(state.regs.xcs >>> 3).toNat, (state.regs.xss >>> 3).toNat] ++
    (List.finRange gdtEntryTlsEntries).map (entryOf state)

/-- The checks of `dump_gdt` let the state through to the stores. -/
structure GdtReached (uc : Engine) (state : LinuxI386ProcessState) : Prop where
  free : uc.memory.Free pbGdtAddr pbGdtSize
  noLdt : state.regs.xcs &&& 0x4 = 0 ∧ state.regs.xds &&& 0x4 = 0 ∧ state.regs.xes &&& 0x4 = 0 ∧
    state.regs.xfs &&& 0x4 = 0 ∧ state.regs.xgs &&& 0x4 = 0 ∧ state.regs.xss &&& 0x4 = 0
  xcs : state.regs.xcs >>> 3 = BitVec.ofNat 32 compatibilityGdtEntryDefaultUser32Cs ∨
    state.regs.xcs >>> 3 = BitVec.ofNat 32 trueGdtEntryDefaultUserCs

/-!
## Stores outside the array
-/

private theorem store_error {table : GdtArray} {index : Nat} {descriptor : BitVec 64}
    (outside : ¬ index < 512) : table.store index descriptor = .error .outOfBounds := by
  rw [GdtArray.store, dif_neg outside]

private theorem xcs_inside {regs : PbI386Regs}
    (known : regs.xcs >>> 3 = BitVec.ofNat 32 compatibilityGdtEntryDefaultUser32Cs ∨
      regs.xcs >>> 3 = BitVec.ofNat 32 trueGdtEntryDefaultUserCs) :
    (regs.xcs >>> 3).toNat < 512 := by
  cases known with
  | inl compatible =>
      rw [compatible]
      decide
  | inr native =>
      rw [native]
      decide

/-- The loop of the thread-local entries has no exit but its end and a stray store. -/
theorem storeTls_error {state : LinuxI386ProcessState} {slots : List (Fin gdtEntryTlsEntries)}
    {table : GdtArray} {halt : Halt} (stopped : storeTls state slots table = .error halt) :
    halt = .outOfBounds := by
  induction slots generalizing table with
  | nil => cases stopped
  | cons slot rest ih =>
      cases bind_error_iff.mp stopped with
      | inl early =>
          by_cases inside : (state.tls slot).entryNumber.toNat < 512
          · rw [store_ok_iff.mpr ⟨inside, rfl⟩] at early
            cases early
          · rw [store_error inside] at early
            cases early
            rfl
      | inr late =>
          obtain ⟨_, _, others⟩ := late
          exact ih others

private theorem fillGdt_outOfBounds {uc : Engine} {state : LinuxI386ProcessState}
    (reached : GdtReached uc state)
    (stray : ¬ ((state.regs.xss >>> 3).toNat < 512 ∧ ∀ slot, entryOf state slot < 512)) :
    fillGdt state = .error .outOfBounds := by
  obtain ⟨data, known⟩ := dataDesc_ok_iff.mpr reached.xcs
  have passed : fatalIf (state.regs.xcs &&& 0x4 ≠ 0 ∨ state.regs.xds &&& 0x4 ≠ 0 ∨
      state.regs.xes &&& 0x4 ≠ 0 ∨ state.regs.xfs &&& 0x4 ≠ 0 ∨ state.regs.xgs &&& 0x4 ≠ 0 ∨
      state.regs.xss &&& 0x4 ≠ 0) "ldt not supported" = .ok () :=
    fatalIf_ok_iff.mpr (by simpa only [not_or, not_not] using reached.noLdt)
  rw [fillGdt, passed, ok_bind, known, ok_bind,
    store_ok_iff.mpr ⟨xcs_inside reached.xcs, rfl⟩, ok_bind]
  by_cases ssInside : (state.regs.xss >>> 3).toNat < 512
  · rw [store_ok_iff.mpr ⟨ssInside, rfl⟩, ok_bind]
    generalize (GdtArray.zero.set (state.regs.xcs >>> 3).toNat codeDesc _).set
      (state.regs.xss >>> 3).toNat data ssInside = table
    cases stored : storeTls state (List.finRange gdtEntryTlsEntries) table with
    | ok filled =>
        have inside := storeTls_ok_iff.mp ⟨filled, stored⟩
        exact absurd ⟨ssInside, fun slot => inside slot (List.mem_finRange slot)⟩ stray
    | error halt => rw [storeTls_error stored]
  · rw [store_error ssInside, error_bind]

private theorem dumpGdt_outOfBounds {uc : Engine} {state : LinuxI386ProcessState}
    (reached : GdtReached uc state)
    (stray : ¬ ((state.regs.xss >>> 3).toNat < 512 ∧ ∀ slot, entryOf state slot < 512)) :
    dumpGdt uc state = .error .outOfBounds := by
  have mappable : uc.memory.Mappable pbGdtAddr pbGdtSize :=
    ⟨by decide, by decide, by decide, by decide, reached.free⟩
  rcases ucMemMap_cases uc pbGdtAddr pbGdtSize ⟨true, true, false⟩ with
    ⟨_, memory, created, _⟩ | ⟨refused, _⟩
  · rw [dumpGdt, created, pbUcCheck, ok_bind, fillGdt_outOfBounds reached stray, error_bind]
  · exact absurd mappable refused

private theorem dataDesc_error {regs : PbI386Regs} {halt : Halt}
    (stopped : dataDesc regs = .error halt) :
    ∃ message, halt = .fatal message := by
  unfold dataDesc at stopped
  split at stopped
  · cases stopped
  · split at stopped
    · cases stopped
    · cases stopped
      exact ⟨_, rfl⟩

/-- A check that stops the state does so before the first store. -/
theorem dumpGdt_fatal {uc : Engine} {state : LinuxI386ProcessState}
    (stopped : ¬ GdtReached uc state) : ∃ message, dumpGdt uc state = .error (.fatal message) := by
  rcases ucMemMap_cases uc pbGdtAddr pbGdtSize ⟨true, true, false⟩ with
    ⟨mappable, memory, created, _⟩ | ⟨_, failed⟩
  · rw [dumpGdt, created, pbUcCheck, ok_bind]
    by_cases ldt : state.regs.xcs &&& 0x4 ≠ 0 ∨ state.regs.xds &&& 0x4 ≠ 0 ∨
        state.regs.xes &&& 0x4 ≠ 0 ∨ state.regs.xfs &&& 0x4 ≠ 0 ∨ state.regs.xgs &&& 0x4 ≠ 0 ∨
        state.regs.xss &&& 0x4 ≠ 0
    · refine ⟨"ldt not supported", ?_⟩
      rw [fillGdt, fatalIf, if_pos ldt, error_bind, error_bind]
    · cases known : dataDesc state.regs with
      | ok data =>
          have xcs := dataDesc_ok_iff.mp ⟨data, known⟩
          simp only [not_or, not_not] at ldt
          exact absurd ⟨mappable.2.2.2.2, ldt, xcs⟩ stopped
      | error halt =>
          obtain ⟨message, rfl⟩ := dataDesc_error known
          refine ⟨message, ?_⟩
          rw [fillGdt, fatalIf, if_neg ldt, ok_bind, known, error_bind, error_bind]
  · refine ⟨"failed to map gdt: %s", ?_⟩
    rw [dumpGdt, failed]
    rfl

/-- `dump_gdt` keeps inside its array, or stops with a fatal error before it stores,
exactly for the states whose stack selector and thread-local entry numbers are in
range whenever the checks let them through. -/
theorem dumpGdt_inside_iff (uc : Engine) (state : LinuxI386ProcessState) :
    ((∃ message, dumpGdt uc state = .error (.fatal message)) ∨
      ∃ after, dumpGdt uc state = .ok after ∧ ∀ index ∈ gdtIndices state, index < 512) ↔
    (GdtReached uc state → (state.regs.xss >>> 3).toNat < 512 ∧
      ∀ slot, (state.tls slot).entryNumber.toNat < 512) := by
  constructor
  · intro kept reached
    by_contra stray
    have halted := dumpGdt_outOfBounds reached stray
    cases kept with
    | inl fatal =>
        obtain ⟨message, fatal⟩ := fatal
        rw [halted] at fatal
        cases fatal
    | inr returned =>
        obtain ⟨after, returned, _⟩ := returned
        rw [halted] at returned
        cases returned
  · intro inRange
    by_cases reached : GdtReached uc state
    · obtain ⟨ss, tls⟩ := inRange reached
      obtain ⟨after, returned⟩ :=
        dumpGdt_ok reached.free ⟨reached.noLdt, reached.xcs, ss, tls⟩
      refine .inr ⟨after, returned, ?_⟩
      intro index member
      simp only [gdtIndices, List.cons_append, List.nil_append, List.mem_cons, List.mem_map] at member
      obtain rfl | rfl | ⟨slot, _, rfl⟩ := member
      · exact xcs_inside reached.xcs
      · exact ss
      · exact tls slot
    · exact .inl (dumpGdt_fatal reached)

/-- A 32-bit process on a 64-bit kernel whose first thread-local slot is numbered one
past the table. -/
def strayState : LinuxI386ProcessState where
  regs := { PbI386Regs.ofWords (fun _ => 0) with xcs := 0x23, xss := 0x2b }
  tls := fun slot => ⟨if slot.val = 0 then 512 else 13, 0, 0, 0⟩

/-- A file that starts with this state passes every check and makes the loader store
behind the array. -/
theorem dumpGdt_strayState :
    strayState.bytes.length = 116 ∧ LinuxI386ProcessState.ofBytes strayState.bytes = strayState ∧
      dumpGdt (.opened .mode32) strayState = .error .outOfBounds ∧
      ¬ ((∃ message, dumpGdt (.opened .mode32) strayState = .error (.fatal message)) ∨
        ∃ after, dumpGdt (.opened .mode32) strayState = .ok after ∧
          ∀ index ∈ gdtIndices strayState, index < 512) := by
  have halted : dumpGdt (.opened .mode32) strayState = .error .outOfBounds := by
    refine dumpGdt_outOfBounds ⟨?_, by decide, by decide⟩ ?_
    · intro region member
      simp [Engine.opened, MemoryMap.empty] at member
    · intro inRange
      exact absurd (inRange.2 0) (by decide)
  refine ⟨strayState.bytes_length, LinuxI386ProcessState.ofBytes_bytes strayState, halted, ?_⟩
  rw [halted]
  simp

/-!
## What the table holds
-/

/-- The segments that cover the whole address space of a 32-bit process. -/
def flatUserCode : SegmentDescriptor where
  base := 0
  limit := 0xfffff
  type := 0xB
  s := 1
  dpl := 3
  p := 1
  avl := 0
  l := 0
  db := 1
  g := 1

def flatUserData : SegmentDescriptor := { flatUserCode with type := 0x3 }

theorem codeDesc_eq : codeDesc = flatUserCode.encode := by decide

theorem dataDesc_eq {regs : PbI386Regs} {data : BitVec 64} (known : dataDesc regs = .ok data) :
    data = flatUserData.encode := by
  unfold dataDesc at known
  split at known
  · cases known
    decide
  · split at known
    · cases known
      decide
    · cases known

private theorem fillGdt_stores {state : LinuxI386ProcessState} {table : GdtArray}
    (filled : fillGdt state = .ok table) :
    ∃ (csInside : (state.regs.xcs >>> 3).toNat < 512) (ssInside : (state.regs.xss >>> 3).toNat < 512),
      storeTls state (List.finRange gdtEntryTlsEntries)
        ((GdtArray.zero.set (state.regs.xcs >>> 3).toNat flatUserCode.encode csInside).set
          (state.regs.xss >>> 3).toNat flatUserData.encode ssInside) = .ok table := by
  simp only [fillGdt, bind_ok_iff, store_ok_iff] at filled
  obtain ⟨_, _, data, known, _, ⟨csInside, rfl⟩, _, ⟨ssInside, rfl⟩, stored⟩ := filled
  rw [dataDesc_eq known, codeDesc_eq] at stored
  exact ⟨csInside, ssInside, stored⟩

section Filled

variable {state : LinuxI386ProcessState} {table : GdtArray} (filled : fillGdt state = .ok table)
include filled

theorem fillGdt_code (apart : (state.regs.xss >>> 3).toNat ≠ (state.regs.xcs >>> 3).toNat)
    (unnamed : ∀ slot, entryOf state slot ≠ (state.regs.xcs >>> 3).toNat) :
    table[(state.regs.xcs >>> 3).toNat]? = some flatUserCode.encode := by
  obtain ⟨csInside, ssInside, stored⟩ := fillGdt_stores filled
  rw [storeTls_other stored fun slot _ => unnamed slot, Vector.getElem?_set_ne _ apart]
  exact Vector.getElem?_set_self _

theorem fillGdt_data (unnamed : ∀ slot, entryOf state slot ≠ (state.regs.xss >>> 3).toNat) :
    table[(state.regs.xss >>> 3).toNat]? = some flatUserData.encode := by
  obtain ⟨csInside, ssInside, stored⟩ := fillGdt_stores filled
  rw [storeTls_other stored fun slot _ => unnamed slot]
  exact Vector.getElem?_set_self _

theorem fillGdt_unstored {index : Nat} (inside : index < 512) (unstored : index ∉ gdtIndices state) :
    table[index]? = some 0 := by
  obtain ⟨csInside, ssInside, stored⟩ := fillGdt_stores filled
  simp only [gdtIndices, List.cons_append, List.nil_append, List.mem_cons, List.mem_map,
    List.mem_finRange, true_and, not_or, not_exists] at unstored
  obtain ⟨notCs, notSs, notTls⟩ := unstored
  rw [storeTls_other stored fun slot _ => notTls slot, Vector.getElem?_set_ne _ (Ne.symm notSs),
    Vector.getElem?_set_ne _ (Ne.symm notCs), GdtArray.zero, Vector.getElem?_replicate,
    if_pos inside]

end Filled

end ProcessBridge.Loader.I386
