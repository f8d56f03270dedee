import ProcessBridge.Loader.I386.CpuStateDump
import ProcessBridge.Loader.X8664.CpuStateDump

/-! Dispatch on the engine mode, and what restoring a processor state
establishes on either architecture. -/

set_option autoImplicit false

namespace ProcessBridge.Loader

open Library Common

/-- `cpu_state_t`. The two variants share their storage, so a variant is whatever
structure the shared bytes happen to hold. -/
structure CpuState where
  mode : UcMode
  variant : List Byte

def CpuState.i386 (state : CpuState) : LinuxI386ProcessState := .ofBytes state.variant

def CpuState.x86_64 (state : CpuState) : LinuxX86_64ProcessState := .ofBytes state.variant

def dumpCpuState (u : Unicorn) (uc : Engine) (state : CpuState) :
    Except Halt (BitVec 64 × Engine) :=
  match state.mode with
  | .mode32 => I386.dumpI386CpuState u uc state.i386
  | .mode64 => X8664.dumpX86_64CpuState u uc state.x86_64
  | .mode16 => .ok (-1, uc)

/-- Whenever restoring a captured state returns, the engine holds every register
the state carries, the entry point is the captured instruction pointer, and
memory has gained the descriptor page and nothing else. -/
theorem dumpCpuState_restores (u : Unicorn) (uc after : Engine) (entry : BitVec 64) :
    (∀ state : LinuxX86_64ProcessState, X8664.Selectors16 state.regs →
      X8664.dumpX86_64CpuState u uc state = .ok (entry, after) →
      entry = state.regs.rip ∧ X8664.Restores u uc after state.regs) ∧
    (∀ state : LinuxI386ProcessState, I386.Selectors16 state.regs →
      I386.dumpI386CpuState u uc state = .ok (entry, after) →
      entry = state.regs.eip.setWidth 64 ∧ I386.Restores u uc after state) := by
  constructor
  · intro state narrow returned
    obtain ⟨_, entered, restored, _⟩ := X8664.dumpX86_64CpuState_ok_inv returned
    exact ⟨entered, restored narrow⟩
  · intro state narrow returned
    obtain ⟨_, entered, restored, _⟩ := I386.dumpI386CpuState_ok_inv returned
    exact ⟨entered, restored narrow⟩

def flatX86_64State : LinuxX86_64ProcessState where
  regs := { (default : PbX86_64Regs) with
    rax := 7, rip := 0x401000, rsp := 0x7ffd1000, eflags := 0x246, cs := 0x33, ss := 0x2b,
    fsBase := 0x7f0000001740 }

def flatI386State : LinuxI386ProcessState where
  regs := { (default : PbI386Regs) with
    eax := 7, eip := 0x8049000, esp := 0xffffd000, eflags := 0x246, xcs := 0x23, xss := 0x2b,
    xds := 0x2b, xes := 0x2b, xgs := 0x63 }
  tls := fun slot => ⟨12 + slot.val, 0xf7fc0500, 0xfffff, 0x51⟩

theorem flatX86_64State_accepted : X8664.GdtAccepts flatX86_64State.regs :=
  ⟨by decide, by decide, by decide, by decide, by decide⟩

theorem flatI386State_accepted : I386.GdtAccepts flatI386State :=
  ⟨by decide, by decide, by decide, by decide⟩

theorem dumpCpuState_restores_flat :
    (∃ entry after, X8664.dumpX86_64CpuState .lenient (.opened .mode64) flatX86_64State =
        .ok (entry, after) ∧ entry = flatX86_64State.regs.rip ∧
        X8664.Restores .lenient (.opened .mode64) after flatX86_64State.regs) ∧
    (∃ entry after, I386.dumpI386CpuState .lenient (.opened .mode32) flatI386State =
        .ok (entry, after) ∧ entry = flatI386State.regs.eip.setWidth 64 ∧
        I386.Restores .lenient (.opened .mode32) after flatI386State) := by
  constructor
  · obtain ⟨after, returned⟩ := X8664.dumpX86_64CpuState_ok (u := .lenient) rfl
      (Engine.opened_free .mode64 _ _) flatX86_64State_accepted (fun _ _ _ _ => rfl)
    have narrow : X8664.Selectors16 flatX86_64State.regs :=
      ⟨by decide, by decide, by decide, by decide, by decide, by decide⟩
    exact ⟨_, after, returned, (dumpCpuState_restores _ _ _ _).1 _ narrow returned⟩
  · obtain ⟨table, filled⟩ := I386.fillGdt_ok_iff.mpr flatI386State_accepted
    obtain ⟨after, returned⟩ := I386.dumpI386CpuState_ok (u := .lenient) rfl
      (Engine.opened_free .mode32 _ _) (Engine.opened_free .mode32 _ _) filled
      ⟨fun _ _ _ _ => rfl, fun _ _ _ _ _ _ => rfl⟩
    have narrow : I386.Selectors16 flatI386State.regs :=
      ⟨by decide, by decide, by decide, by decide, by decide, by decide⟩
    exact ⟨_, after, returned, (dumpCpuState_restores _ _ _ _).2 _ narrow returned⟩

end ProcessBridge.Loader
