import ProcessBridge.Loader.RegWrites

/-! Restoring the state of a 64-bit process: descriptor table first, then the
general registers, then the selectors, and last the two segment bases that
loading a selector would overwrite. -/

set_option autoImplicit false

namespace ProcessBridge.Loader.X8664

open Library Common

def gdtEntryDefaultUserDs : Nat := 5

def gdtEntryDefaultUserCs : Nat := 6

def gdtArray : GdtArray :=
  let codeDesc := gdtEntryInit (descCode64 ||| descUser) 0 0xfffff
  let dataDesc := gdtEntryInit (descData64 ||| descUser) 0 0xfffff
  (GdtArray.zero.set 6 codeDesc).set 5 dataDesc

/-- The selector checks of `dump_gdt`, in the order of the source. -/
def checkSelectors (regs : PbX86_64Regs) : Except Halt Unit := do
  fatalIf (regs.cs &&& 0x4 ≠ 0 ∨ regs.ds &&& 0x4 ≠ 0 ∨ regs.es &&& 0x4 ≠ 0 ∨
    regs.fs &&& 0x4 ≠ 0 ∨ regs.gs &&& 0x4 ≠ 0 ∨ regs.ss &&& 0x4 ≠ 0) "ldt not supported"
  fatalIf (regs.cs >>> 3 ≠ BitVec.ofNat 64 gdtEntryDefaultUserCs) "cs is not the default user cs"
  fatalIf (regs.ss >>> 3 ≠ BitVec.ofNat 64 gdtEntryDefaultUserDs) "ss is not the default user ds"
  fatalIf (regs.ds >>> 3 ≠ 0 ∧ regs.ds >>> 3 ≠ BitVec.ofNat 64 gdtEntryDefaultUserDs)
    "ds is not the default kernel ds"
  fatalIf (regs.es >>> 3 ≠ 0 ∧ regs.es >>> 3 ≠ BitVec.ofNat 64 gdtEntryDefaultUserDs)
    "es is not the default kernel ds"

def dumpGdt (uc : Engine) (state : LinuxX86_64ProcessState) : Except Halt Engine := do
  let uc ← pbUcCheck (ucMemMap uc pbGdtAddr pbGdtSize ⟨true, true, false⟩) "failed to map gdt: %s"
  checkSelectors state.regs
  installGdt uc gdtArray

def regWrites (regs : PbX86_64Regs) : List RegWrite :=
  [⟨.qword .ax, regs.rax, "failed to write rax"⟩,
    ⟨.qword .bx, regs.rbx, "failed to write rbx"⟩,
    ⟨.qword .cx, regs.rcx, "failed to write rcx"⟩,
    ⟨.qword .dx, regs.rdx, "failed to write rdx"⟩,
    ⟨.qword .si, regs.rsi, "failed to write rsi"⟩,
    ⟨.qword .di, regs.rdi, "failed to write rdi"⟩,
    ⟨.qword .bp, regs.rbp, "failed to write rbp"⟩,
    ⟨.qword .sp, regs.rsp, "failed to write rsp"⟩,
    ⟨.qword .r8, regs.r8, "failed to write r8"⟩,
    ⟨.qword .r9, regs.r9, "failed to write r9"⟩,
    ⟨.qword .r10, regs.r10, "failed to write r10"⟩,
    ⟨.qword .r11, regs.r11, "failed to write r11"⟩,
    ⟨.qword .r12, regs.r12, "failed to write r12"⟩,
    ⟨.qword .r13, regs.r13, "failed to write r13"⟩,
    ⟨.qword .r14, regs.r14, "failed to write r14"⟩,
    ⟨.qword .r15, regs.r15, "failed to write r15"⟩,
    ⟨.rip, regs.rip, "failed to write rip"⟩,
    ⟨.eflags, regs.eflags, "failed to write eflags"⟩,
    ⟨.seg .cs, regs.cs, "failed to write cs"⟩,
    ⟨.seg .ss, regs.ss, "failed to write ss"⟩,
    ⟨.seg .ds, regs.ds, "failed to write ds"⟩,
    ⟨.seg .es, regs.es, "failed to write es"⟩,
    ⟨.seg .fs, regs.fs, "failed to write fs"⟩,
    ⟨.seg .gs, regs.gs, "failed to write gs"⟩,
    ⟨.fsBase, regs.fsBase, "failed to write fs base"⟩,
    ⟨.gsBase, regs.gsBase, "failed to write gs base"⟩]

def dumpRegs (u : Unicorn) (uc : Engine) (state : LinuxX86_64ProcessState) : Except Halt Engine :=
  writeRegs u uc (regWrites state.regs)

def dumpX86_64CpuState (u : Unicorn) (uc : Engine) (state : LinuxX86_64ProcessState) :
    Except Halt (BitVec 64 × Engine) := do
  let uc ← dumpGdt uc state
  let uc ← dumpRegs u uc state
  .ok (ucRegRead uc .rip, uc)

/-!
## What `dump_gdt` accepts
-/

/-- The selectors for which the table can be rebuilt. -/
structure GdtAccepts (regs : PbX86_64Regs) : Prop where
  noLdt : regs.cs &&& 0x4 = 0 ∧ regs.ds &&& 0x4 = 0 ∧ regs.es &&& 0x4 = 0 ∧
    regs.fs &&& 0x4 = 0 ∧ regs.gs &&& 0x4 = 0 ∧ regs.ss &&& 0x4 = 0
  cs : regs.cs >>> 3 = BitVec.ofNat 64 gdtEntryDefaultUserCs
  ss : regs.ss >>> 3 = BitVec.ofNat 64 gdtEntryDefaultUserDs
  ds : regs.ds >>> 3 = 0 ∨ regs.ds >>> 3 = BitVec.ofNat 64 gdtEntryDefaultUserDs
  es : regs.es >>> 3 = 0 ∨ regs.es >>> 3 = BitVec.ofNat 64 gdtEntryDefaultUserDs

theorem checkSelectors_ok_iff {regs : PbX86_64Regs} :
    checkSelectors regs = .ok () ↔ GdtAccepts regs := by
  simp only [checkSelectors, bind_ok_iff, fatalIf_ok_iff, exists_and_left, exists_const]
  constructor
  · intro given
    obtain ⟨noLdt, cs, ss, ds, es⟩ := given
    exact ⟨by simpa only [not_or, not_not] using noLdt, by simpa using cs, by simpa using ss,
      by tauto, by tauto⟩
  · intro given
    obtain ⟨noLdt, cs, ss, ds, es⟩ := given
    exact ⟨by simpa only [not_or, not_not] using noLdt, by simpa using cs, by simpa using ss,
      by tauto, by tauto⟩

theorem checkSelectors_fatalOnly (regs : PbX86_64Regs) : FatalOnly (checkSelectors regs) :=
  .bind (.fatalIf _ _) fun _ _ => .bind (.fatalIf _ _) fun _ _ => .bind (.fatalIf _ _) fun _ _ =>
    .bind (.fatalIf _ _) fun _ _ => .fatalIf _ _

theorem dumpGdt_fatalOnly (uc : Engine) (state : LinuxX86_64ProcessState) :
    FatalOnly (dumpGdt uc state) :=
  .bind (.pbUcCheck _ _) fun _ _ => .bind (checkSelectors_fatalOnly _) fun _ _ =>
    installGdt_fatalOnly _ _

theorem dumpX86_64CpuState_fatalOnly (u : Unicorn) (uc : Engine)
    (state : LinuxX86_64ProcessState) : FatalOnly (dumpX86_64CpuState u uc state) :=
  .bind (dumpGdt_fatalOnly _ _) fun _ _ => .bind (writeRegs_fatalOnly _ _ _) fun _ _ => .ok _

theorem dumpGdt_ok_inv {uc after : Engine} {state : LinuxX86_64ProcessState}
    (returned : dumpGdt uc state = .ok after) :
    GdtAccepts state.regs ∧ ∃ memory : Memory, after = uc.withGdt memory ∧
      memory.regions = uc.memory.regions ++ [gdtRegion gdtArray] := by
  rw [dumpGdt, bind_ok_iff] at returned
  obtain ⟨mapped, mapOk, returned⟩ := returned
  rw [pbUcCheck_ok_iff] at mapOk
  obtain ⟨_, checked, installed⟩ := bind_ok_iff.mp returned
  rcases ucMemMap_cases uc pbGdtAddr pbGdtSize ⟨true, true, false⟩ with
    ⟨_, memory, created, shape⟩ | ⟨_, failed⟩
  · rw [created] at mapOk
    cases mapOk
    obtain ⟨final, installOk, finalShape⟩ :=
      installGdt_ok { uc with memory } List.length_replicate shape gdtArray
    rw [installOk] at installed
    cases installed
    exact ⟨checkSelectors_ok_iff.mp checked, final, rfl, finalShape⟩
  · rw [failed] at mapOk
    cases mapOk

theorem dumpGdt_ok {uc : Engine} {state : LinuxX86_64ProcessState}
    (free : uc.memory.Free pbGdtAddr pbGdtSize) (accepted : GdtAccepts state.regs) :
    ∃ after, dumpGdt uc state = .ok after := by
  have mappable : uc.memory.Mappable pbGdtAddr pbGdtSize :=
    ⟨by decide, by decide, by decide, by decide, free⟩
  rcases ucMemMap_cases uc pbGdtAddr pbGdtSize ⟨true, true, false⟩ with
    ⟨_, memory, created, shape⟩ | ⟨refused, _⟩
  · obtain ⟨final, installOk, _⟩ :=
      installGdt_ok { uc with memory } List.length_replicate shape gdtArray
    refine ⟨Engine.withGdt { uc with memory } final, ?_⟩
    rw [dumpGdt, created, pbUcCheck, ok_bind, checkSelectors_ok_iff.mpr accepted, ok_bind,
      installOk]
  · exact absurd mappable refused

/-!
## Register restoration
-/

/-- Selectors as the kernel reports them: sixteen bits in a wider field. -/
structure Selectors16 (regs : PbX86_64Regs) : Prop where
  cs : regs.cs.toNat < 2 ^ 16
  ss : regs.ss.toNat < 2 ^ 16
  ds : regs.ds.toNat < 2 ^ 16
  es : regs.es.toNat < 2 ^ 16
  fs : regs.fs.toNat < 2 ^ 16
  gs : regs.gs.toNat < 2 ^ 16

/-- The registers a snapshot carries with their captured values, except for
`eflags`, of which the processor may own some bits. -/
def carried (regs : PbX86_64Regs) : List (UcReg × BitVec 64) :=
  [(.qword .ax, regs.rax), (.qword .bx, regs.rbx), (.qword .cx, regs.rcx), (.qword .dx, regs.rdx),
    (.qword .si, regs.rsi), (.qword .di, regs.rdi), (.qword .bp, regs.rbp), (.qword .sp, regs.rsp),
    (.qword .r8, regs.r8), (.qword .r9, regs.r9), (.qword .r10, regs.r10), (.qword .r11, regs.r11),
    (.qword .r12, regs.r12), (.qword .r13, regs.r13), (.qword .r14, regs.r14),
    (.qword .r15, regs.r15), (.rip, regs.rip), (.seg .cs, regs.cs), (.seg .ss, regs.ss),
    (.seg .ds, regs.ds), (.seg .es, regs.es), (.seg .fs, regs.fs), (.seg .gs, regs.gs),
    (.fsBase, regs.fsBase), (.gsBase, regs.gsBase)]

private theorem regWrites_carried (u : Unicorn) (uc : Engine) {regs : PbX86_64Regs}
    (narrow : Selectors16 regs) :
    ∀ pair ∈ carried regs, ucRegRead ((regWrites regs).foldl (Engine.put u) uc) pair.1 = pair.2 := by
  -- the writes are executed symbolically; only the selectors lose bits on the way
  simp [carried, regWrites, Engine.put, ucRegRead, Engine.setGpr, Engine.loadSelector,
    Engine.setBase, Engine.setSegment, Function.update_apply, selector_roundtrip narrow.cs,
    selector_roundtrip narrow.ss, selector_roundtrip narrow.ds, selector_roundtrip narrow.es,
    selector_roundtrip narrow.fs, selector_roundtrip narrow.gs]

private theorem regWrites_ip (u : Unicorn) (uc : Engine) (regs : PbX86_64Regs) :
    ((regWrites regs).foldl (Engine.put u) uc).ip = regs.rip := by
  simp [regWrites, Engine.put, Engine.setGpr, Engine.loadSelector, Engine.setBase,
    Engine.setSegment]

private theorem regWrites_eflags (u : Unicorn) (uc : Engine) (regs : PbX86_64Regs) :
    ((regWrites regs).foldl (Engine.put u) uc).eflags =
      u.loadEflags uc.eflags (regs.eflags.setWidth 32) := by
  simp [regWrites, Engine.put, Engine.setGpr, Engine.loadSelector, Engine.setBase,
    Engine.setSegment]

/-- Everything `dump_x86_64_cpu_state` leaves behind when it returns. -/
structure Restores (u : Unicorn) (uc after : Engine) (regs : PbX86_64Regs) : Prop where
  registers : ∀ pair ∈ carried regs, ucRegRead after pair.1 = pair.2
  eflags : after.eflags &&& u.eflagsMask = regs.eflags.setWidth 32 &&& u.eflagsMask
  memory : after.memory.regions = uc.memory.regions ++ [gdtRegion gdtArray]

theorem dumpX86_64CpuState_ok_inv {u : Unicorn} {uc after : Engine}
    {state : LinuxX86_64ProcessState} {entry : BitVec 64}
    (returned : dumpX86_64CpuState u uc state = .ok (entry, after)) :
    GdtAccepts state.regs ∧ entry = state.regs.rip ∧
      (Selectors16 state.regs → Restores u uc after state.regs) ∧
      after.memory.regions = uc.memory.regions ++ [gdtRegion gdtArray] := by
  obtain ⟨tabled, gdtOk, returned⟩ := bind_ok_iff.mp returned
  obtain ⟨written, regsOk, returned⟩ := bind_ok_iff.mp returned
  cases returned
  obtain ⟨accepted, memory, rfl, shape⟩ := dumpGdt_ok_inv gdtOk
  obtain ⟨_, rfl⟩ := writeRegs_ok_iff.mp regsOk
  have kept := (foldl_put_frame u (uc.withGdt memory) (regWrites state.regs)).1
  have regions := (congrArg MemoryMap.regions kept).trans shape
  refine ⟨accepted, regWrites_ip _ _ _, fun narrow => ⟨?_, ?_, regions⟩, regions⟩
  · exact regWrites_carried u _ narrow
  · rw [regWrites_eflags, Unicorn.loadEflags_masked]

def selectorOf (regs : PbX86_64Regs) : SegReg → BitVec 16
  | .cs => regs.cs.setWidth 16
  | .ss => regs.ss.setWidth 16
  | .ds => regs.ds.setWidth 16
  | .es => regs.es.setWidth 16
  | .fs => regs.fs.setWidth 16
  | .gs => regs.gs.setWidth 16

private theorem regWrites_selector {regs : PbX86_64Regs} :
    ∀ write ∈ regWrites regs, ∀ segment, write.reg = .seg segment →
      write.value.setWidth 16 = selectorOf regs segment := by
  simp [regWrites, selectorOf]

/-- The processor takes the captured selectors while the rebuilt table is in use. -/
def LoadsSelectors (u : Unicorn) (regs : PbX86_64Regs) : Prop :=
  ∀ uc which, uc.mode = .mode64 → uc.HoldsGdt gdtArray →
    u.refusesSelector uc which (selectorOf regs which) = false

theorem dumpX86_64CpuState_ok {u : Unicorn} {uc : Engine} {state : LinuxX86_64ProcessState}
    (mode : uc.mode = .mode64) (free : uc.memory.Free pbGdtAddr pbGdtSize)
    (accepted : GdtAccepts state.regs) (loads : LoadsSelectors u state.regs) :
    ∃ after, dumpX86_64CpuState u uc state = .ok (state.regs.rip, after) := by
  obtain ⟨tabled, gdtOk⟩ := dumpGdt_ok free accepted
  obtain ⟨_, memory, rfl, shape⟩ := dumpGdt_ok_inv gdtOk
  have held : (uc.withGdt memory).mode = .mode64 ∧ (uc.withGdt memory).HoldsGdt gdtArray :=
    ⟨mode, rfl, rfl, by simp [Engine.withGdt, shape]⟩
  have taken : u.TakesAll (uc.withGdt memory) (regWrites state.regs) := by
    apply takesAll_of_stable (fun uc => uc.mode = .mode64 ∧ uc.HoldsGdt gdtArray) held
    · intro uc write _ stable
      exact ⟨by simpa using stable.1, stable.2.foldl_put u [write]⟩
    · intro uc write member stable segment chosen
      rw [regWrites_selector write member segment chosen]
      exact loads uc segment stable.1 stable.2
  have written := writeRegs_ok_iff.mpr ⟨taken, rfl⟩
  refine ⟨(regWrites state.regs).foldl (Engine.put u) (uc.withGdt memory), ?_⟩
  rw [dumpX86_64CpuState, gdtOk, ok_bind, dumpRegs, written, ok_bind]
  simp only [ucRegRead, regWrites_ip]

end ProcessBridge.Loader.X8664
