import ProcessBridge.Snapshotter.BreakpointProperties

/-! Whole runs of the breakpoint code: what the child's text holds at every
resume. -/

set_option autoImplicit false

namespace ProcessBridge.Snapshotter

open Library Common Program

variable {arch : Arch}

/-!
## The byte under the breakpoint at each resume
-/

def childByte (hookAddr : BitVec arch.width) : Child arch → Option Byte
  | .stopped tracee | .running _ tracee => some (tracee.memory hookAddr)
  | .absent | .dead => none

/-- The byte at the breakpoint at each `PTRACE_CONT` so far. -/
def contBytes (hookAddr : BitVec arch.width) (log : List (Entry arch)) : List Byte :=
  (contChildren log).filterMap (childByte hookAddr)

/-- Any number of calls of `execute_up_to_breakpoint` on one breakpoint. -/
def executeTimes (breakpoint : Breakpoint arch) : Nat → Sys arch Unit
  | 0 => pure ()
  | calls + 1 => do
      executeUpToBreakpoint breakpoint
      executeTimes breakpoint calls

def breakpointRun (hookAddr : BitVec arch.width) (calls : Nat) : Sys arch Unit := do
  let breakpoint ← createBreakpoint hookAddr
  executeTimes breakpoint calls

theorem restore_memory (tracee other : Tracee arch) (hookAddr : BitVec arch.width) :
    (Breakpoint.restore ⟨hookAddr, tracee.savedWord hookAddr⟩ other).memory hookAddr =
      tracee.memory hookAddr := by
  refine restore_inside ?_
  rw [BitVec.sub_self]
  exact arch.wordSize_pos

private theorem resumed_memory {tracee start resumed : Tracee arch} {hookAddr : BitVec arch.width}
    (reached : Breakpoint.Resumed ⟨hookAddr, tracee.savedWord hookAddr⟩ start resumed)
    (disarmed : start.ip = hookAddr ∨ start.memory hookAddr = tracee.memory hookAddr) :
    resumed.memory hookAddr = tracee.memory hookAddr := by
  rcases reached with ⟨elsewhere, rfl⟩ | ⟨_, stepped, rfl⟩
  · exact disarmed.resolve_left elsewhere
  · exact restore_memory tracee stepped hookAddr

/-- Once the original word is back, every later resume finds it there. -/
theorem executeTimes_disarmed (kernel : Kernel arch) (tracee : Tracee arch)
    (hookAddr : BitVec arch.width) (calls : Nat) (conts : List (Child arch)) :
    Triple kernel.answer
      (fun world => ∃ start : Tracee arch, start.memory hookAddr = tracee.memory hookAddr ∧
        ∃ reports, world.Shows (.stopped start) conts reports)
      (executeTimes ⟨hookAddr, tracee.savedWord hookAddr⟩ calls)
      (fun _ world => contBytes hookAddr world.log = conts.filterMap (childByte hookAddr) ++
        List.replicate calls (tracee.memory hookAddr))
      (fun _ world => contBytes hookAddr world.log <+: conts.filterMap (childByte hookAddr) ++
        List.replicate calls (tracee.memory hookAddr)) := by
  induction calls generalizing conts with
  | zero =>
      refine Triple.pure fun world ⟨start, _, reports, shown⟩ => ?_
      rw [contBytes, shown.conts, List.replicate_zero, List.append_nil]
  | succ calls ih =>
      have grown : ∀ resumed : Tracee arch, resumed.memory hookAddr = tracee.memory hookAddr →
          (conts ++ [Child.stopped resumed]).filterMap (childByte hookAddr) ++
              List.replicate calls (tracee.memory hookAddr) =
            conts.filterMap (childByte hookAddr) ++
              List.replicate (calls + 1) (tracee.memory hookAddr) := by
        intro resumed same
        simp [List.filterMap_append, childByte, same, List.replicate_succ]
      refine Triple.exists_pre fun start => Triple.given fun disarmed => ?_
      refine Triple.exists_pre fun reports => ?_
      refine Triple.bind (fun _ world => ∃ resumed : Tracee arch,
        resumed.memory hookAddr = tracee.memory hookAddr ∧
        ∃ next : Tracee arch, next.memory hookAddr = tracee.memory hookAddr ∧
          ∃ reports, world.Shows (.stopped next) (conts ++ [.stopped resumed]) reports)
        ((executeUpToBreakpoint_triple False _).strengthen ?_ ?_) fun _ => ?_
      · intro _ world given
        obtain ⟨resumed, reached, steps, report, stop, _, _, shown⟩ := given
        exact ⟨resumed, resumed_memory reached (.inr disarmed), _,
          restore_memory tracee _ hookAddr, _, shown⟩
      · rintro _ world ⟨unchanged | ⟨resumed, reached, shape⟩, _⟩
        · rw [contBytes, unchanged]
          exact List.prefix_append _ _
        · rw [contBytes, shape, ← grown resumed (resumed_memory reached (.inr disarmed))]
          exact List.prefix_append _ _
      · refine Triple.exists_pre fun resumed => Triple.given fun same => ?_
        rw [← grown resumed same]
        exact ih _

def resumeBytes (tracee : Tracee arch) (hookAddr : BitVec arch.width) : Nat → List Byte
  | 0 => []
  | calls + 1 => (if tracee.ip = hookAddr then tracee.memory hookAddr else 0xCC) ::
      List.replicate calls (tracee.memory hookAddr)

/-- Only the first resume can find the breakpoint armed. -/
theorem breakpointRun_bytes (kernel : Kernel arch) (tracee : Tracee arch)
    (hookAddr : BitVec arch.width) (calls : Nat) :
    Triple kernel.answer
      (fun world => ∃ reports, world.Shows (.stopped tracee) [] reports)
      (breakpointRun hookAddr calls)
      (fun _ world => contBytes hookAddr world.log = resumeBytes tracee hookAddr calls)
      (fun _ world => contBytes hookAddr world.log <+: resumeBytes tracee hookAddr calls) := by
  refine Triple.exists_pre fun reports => ?_
  refine Triple.bind _ ((createBreakpoint_triple False hookAddr).strengthen
    (fun _ _ holds => holds) ?_) fun breakpoint => ?_
  · intro _ world given
    obtain ⟨unchanged, _⟩ := given
    rw [contBytes, unchanged]
    exact List.nil_prefix
  refine Triple.given fun made => ?_
  subst made
  cases calls with
  | zero =>
      refine Triple.pure fun world shown => ?_
      rw [contBytes, shown.conts]
      rfl
  | succ calls =>
      have first : ∀ resumed : Tracee arch,
          Breakpoint.Resumed ⟨hookAddr, tracee.savedWord hookAddr⟩ (tracee.armed hookAddr)
            resumed → resumed.memory hookAddr =
              if tracee.ip = hookAddr then tracee.memory hookAddr else 0xCC := by
        rintro resumed (⟨elsewhere, rfl⟩ | ⟨here, stepped, rfl⟩)
        · have away : ¬ tracee.ip = hookAddr := elsewhere
          rw [if_neg away, Tracee.armed_memory, if_pos rfl]
        · have same : tracee.ip = hookAddr := here
          rw [if_pos same, restore_memory]
      have grown : ∀ resumed : Tracee arch,
          Breakpoint.Resumed ⟨hookAddr, tracee.savedWord hookAddr⟩ (tracee.armed hookAddr)
            resumed → [Child.stopped resumed].filterMap (childByte hookAddr) ++
                List.replicate calls (tracee.memory hookAddr) =
              resumeBytes tracee hookAddr (calls + 1) := by
        intro resumed reached
        simp [childByte, resumeBytes, first resumed reached]
      refine Triple.bind (fun _ world => ∃ resumed : Tracee arch,
        Breakpoint.Resumed ⟨hookAddr, tracee.savedWord hookAddr⟩ (tracee.armed hookAddr) resumed ∧
        ∃ next : Tracee arch, next.memory hookAddr = tracee.memory hookAddr ∧
          ∃ reports, world.Shows (.stopped next) [.stopped resumed] reports)
        ((executeUpToBreakpoint_triple False _).strengthen ?_ ?_) fun _ => ?_
      · intro _ world given
        obtain ⟨resumed, reached, steps, report, stop, _, _, shown⟩ := given
        exact ⟨resumed, reached, _, restore_memory tracee _ hookAddr, _, shown⟩
      · rintro _ world ⟨unchanged | ⟨resumed, reached, shape⟩, _⟩
        · rw [contBytes, unchanged]
          exact List.nil_prefix
        · rw [contBytes, shape, ← grown resumed reached]
          exact List.prefix_append _ _
      · refine Triple.exists_pre fun resumed => Triple.given fun reached => ?_
        rw [← grown resumed reached]
        exact executeTimes_disarmed kernel tracee hookAddr calls _

theorem resumeBytes_armed_iff {tracee : Tracee arch} {hookAddr : BitVec arch.width} {calls : Nat} :
    (tracee.memory hookAddr = 0xCC ∨ calls = 0 ∨ calls = 1 ∧ tracee.ip ≠ hookAddr) ↔
      ∀ byte ∈ resumeBytes tracee hookAddr calls, byte = 0xCC := by
  match calls with
  | 0 => simp [resumeBytes]
  | 1 => by_cases here : tracee.ip = hookAddr <;> simp [resumeBytes, here]
  | calls + 2 =>
      by_cases here : tracee.ip = hookAddr <;>
        simp [resumeBytes, here, List.replicate_succ] <;> exact fun trap _ => trap

/-- Every resume of a run finds the breakpoint armed if the original byte is the
trap itself, or if there is at most one call and it does not start at the
breakpoint; a run that is not cut short has no other way. -/
theorem breakpointRun_armed (kernel : Kernel arch) (world : World arch) (tracee : Tracee arch)
    (hookAddr : BitVec arch.width) (calls : Nat) (live : world.child = .stopped tracee)
    (fresh : contChildren world.log = []) :
    ((tracee.memory hookAddr = 0xCC ∨ calls = 0 ∨ calls = 1 ∧ tracee.ip ≠ hookAddr) →
      ∀ byte ∈ contBytes hookAddr
        ((breakpointRun hookAddr calls).run kernel.answer world).2.log, byte = 0xCC) ∧
    (∀ value, ((breakpointRun hookAddr calls).run kernel.answer world).1 = .ok value →
      (∀ byte ∈ contBytes hookAddr
        ((breakpointRun hookAddr calls).run kernel.answer world).2.log, byte = 0xCC) →
      tracee.memory hookAddr = 0xCC ∨ calls = 0 ∨ calls = 1 ∧ tracee.ip ≠ hookAddr) := by
  have bytes := breakpointRun_bytes kernel tracee hookAddr calls world
    ⟨world.reports, live, fresh, rfl⟩
  rw [resumeBytes_armed_iff]
  rcases result : (breakpointRun hookAddr calls).run kernel.answer world with ⟨code | value, after⟩
  · rw [result] at bytes
    refine ⟨fun every byte member => every byte (bytes.subset member), fun value returned => ?_⟩
    cases returned
  · rw [result] at bytes
    exact ⟨fun every byte member => every byte (bytes ▸ member),
      fun _ _ every byte member => every byte (bytes ▸ member)⟩

def nopTracee : Tracee .x86_64 := ⟨{ (default : PbX86_64Regs) with rip := 0 }, fun _ => 0x90⟩

def nopHook : BitVec Arch.x86_64.width := 0x1000

def trappingKernel : Kernel .x86_64 where
  fails := fun _ _ => false
  pid := 1
  image := nopTracee
  report := fun _ _ tracee => some (.stopped sigtrap, tracee.setIp (nopHook + 1))
  threadArea := fun _ _ => default
  elf := []
  elfPath := []
  maps := fun _ => []
  readv := fun _ _ _ buffer => (none, buffer)

def nopWorld : World .x86_64 := ⟨[], [], .stopped nopTracee, 0, []⟩

/-- The second call resumes the child with the original instruction in place. -/
theorem breakpointRun_disarmed :
    ((breakpointRun nopHook 2).run trappingKernel.answer nopWorld).1 = .ok () ∧
    ¬ ∀ byte ∈ contBytes nopHook
      ((breakpointRun nopHook 2).run trappingKernel.answer nopWorld).2.log, byte = 0xCC := by
  refine ⟨rfl, fun every => ?_⟩
  have original : (0x90 : Byte) ∈ contBytes nopHook
      ((breakpointRun nopHook 2).run trappingKernel.answer nopWorld).2.log := by
    change (0x90 : Byte) ∈ [0xCC, 0x90]
    decide
  exact absurd (every 0x90 original) (by decide)

theorem breakpointRun_armed_once :
    contBytes nopHook ((breakpointRun nopHook 1).run trappingKernel.answer nopWorld).2.log = [0xCC] ∧
    ∀ byte ∈ contBytes nopHook
      ((breakpointRun nopHook 1).run trappingKernel.answer nopWorld).2.log, byte = 0xCC :=
  ⟨rfl, (breakpointRun_armed trappingKernel nopWorld nopTracee nopHook 1 rfl rfl).1
    (.inr (.inr ⟨rfl, by decide⟩))⟩

end ProcessBridge.Snapshotter
