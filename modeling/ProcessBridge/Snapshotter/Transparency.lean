import ProcessBridge.Snapshotter.BreakpointRuns

/-! A breakpoint is invisible to a child that does not look at it. The child is an
arbitrary deterministic machine; while it runs with the breakpoint armed, its
state is that of the undisturbed run with one byte replaced. -/

set_option autoImplicit false

namespace ProcessBridge.Snapshotter

open Library Common Program

variable {arch : Arch}

/-- One instruction of the child, or the end of the process. -/
structure Machine (arch : Arch) where
  step : Tracee arch → Option (Tracee arch)

namespace Machine

variable (machine : Machine arch) (hookAddr : BitVec arch.width)

/-- Away from the breakpoint, no instruction reads or writes the word under it. -/
def Ignores : Prop :=
  ∀ (tracee : Tracee arch) (value : BitVec arch.width), tracee.ip ≠ hookAddr →
    machine.step (tracee.poke hookAddr value) = (machine.step tracee).map (·.poke hookAddr value)

/-- Ordinary instructions, none of them the trap. -/
inductive Executes : Tracee arch → Tracee arch → Prop where
  | refl (tracee : Tracee arch) : Executes tracee tracee
  | step {tracee next final : Tracee arch} (ordinary : tracee.memory tracee.ip ≠ 0xCC)
      (stepped : machine.step tracee = some next) (rest : Executes next final) :
      Executes tracee final

/-- The undisturbed run before it first arrives at the breakpoint. It receives no
signal, so it meets no trap of its own. -/
inductive Runs : Tracee arch → Nat → Tracee arch → Prop where
  | refl (tracee : Tracee arch) : Runs tracee 0 tracee
  | step {tracee next final : Tracee arch} {count : Nat} (away : tracee.ip ≠ hookAddr)
      (ordinary : tracee.memory tracee.ip ≠ 0xCC) (stepped : machine.step tracee = some next)
      (rest : Runs next count final) : Runs tracee (count + 1) final

end Machine

/-- A resumed child executes its machine until it meets the trap, which stops it
one byte further and changes nothing else, or until it ends. -/
structure Kernel.Follows (kernel : Kernel arch) (machine : Machine arch) : Prop where
  traps : ∀ count (tracee trap : Tracee arch), machine.Executes tracee trap →
    trap.memory trap.ip = 0xCC →
    kernel.report count .cont tracee = some (.stopped sigtrap, trap.setIp (trap.ip + 1))
  ends : ∀ count (tracee last : Tracee arch), machine.Executes tracee last →
    last.memory last.ip ≠ 0xCC → machine.step last = none →
    ∃ report after, report.isEnd = true ∧ kernel.report count .cont tracee = some (report, after)

section Simulation

variable {machine : Machine arch} {hookAddr : BitVec arch.width}

private theorem step_peek (ignores : machine.Ignores hookAddr) {tracee next : Tracee arch}
    (away : tracee.ip ≠ hookAddr) (stepped : machine.step tracee = some next) :
    next.peek hookAddr = tracee.peek hookAddr := by
  have kept := ignores tracee (tracee.peek hookAddr) away
  rw [Tracee.poke_peek, stepped, Option.map_some, Option.some.injEq] at kept
  rw [kept, Tracee.peek_poke]

/-- The armed child takes the same step as the undisturbed one. -/
theorem step_armed (ignores : machine.Ignores hookAddr) {tracee next : Tracee arch}
    (away : tracee.ip ≠ hookAddr) (stepped : machine.step tracee = some next) :
    machine.step (tracee.armed hookAddr) = some (next.armed hookAddr) := by
  have same := step_peek ignores away stepped
  rw [Tracee.armed, ignores tracee _ away, stepped, Option.map_some, Tracee.armed,
    Tracee.savedWord, Tracee.savedWord, same]

private theorem armed_ordinary {tracee : Tracee arch} (away : tracee.ip ≠ hookAddr)
    (ordinary : tracee.memory tracee.ip ≠ 0xCC) :
    (tracee.armed hookAddr).memory (tracee.armed hookAddr).ip ≠ 0xCC := by
  have counter : (tracee.armed hookAddr).ip = tracee.ip := rfl
  rwa [counter, Tracee.armed_memory, if_neg away]

/-- The simulation: runs of any length correspond, and the word stays the same. -/
theorem runs_armed (ignores : machine.Ignores hookAddr) {tracee final : Tracee arch} {count : Nat}
    (runs : machine.Runs hookAddr tracee count final) :
    machine.Executes (tracee.armed hookAddr) (final.armed hookAddr) ∧
      final.peek hookAddr = tracee.peek hookAddr := by
  induction runs with
  | refl tracee => exact ⟨.refl _, rfl⟩
  | step away ordinary stepped rest ih =>
      exact ⟨.step (armed_ordinary away ordinary) (step_armed ignores away stepped) ih.1,
        ih.2.trans (step_peek ignores away stepped)⟩

end Simulation

/-!
## Running to the breakpoint and back
-/

section Running

variable {kernel : Kernel arch} (cooperates : kernel.Cooperates) {world : World arch}
  {tracee : Tracee arch}

include cooperates

theorem run_createBreakpoint (live : world.child = .stopped tracee)
    (hookAddr : BitVec arch.width) :
    ∃ after, (createBreakpoint hookAddr).run kernel.answer world =
        (.ok ⟨hookAddr, tracee.savedWord hookAddr⟩, after) ∧
      after.child = .stopped (tracee.armed hookAddr) := by
  rw [createBreakpoint, run_bind_ok (run_peektext cooperates _ live hookAddr)]
  have kept : (world.record (.peektext hookAddr) true).child = .stopped tracee := live
  rw [run_bind_ok (run_poketext cooperates _ kept hookAddr _)]
  exact ⟨_, rfl, rfl⟩

private theorem run_rewind (live : world.child = .stopped tracee) (breakpoint : Breakpoint arch) :
    ∃ after, (rewind breakpoint).run kernel.answer world = (.ok (), after) ∧
      after.child = .stopped (breakpoint.rewound tracee) := by
  rw [rewind, run_bind_ok (run_getregs cooperates _ live)]
  have kept : (world.record .getregs true).child = .stopped tracee := live
  rw [run_bind_ok (run_setregs cooperates _ kept _), run_poketext cooperates _ rfl]
  exact ⟨_, rfl, rfl⟩

theorem run_execute (live : world.child = .stopped tracee) {breakpoint : Breakpoint arch}
    (away : tracee.ip ≠ breakpoint.hookAddr) {report : Report} {stop : Tracee arch}
    (reported : kernel.report (world.log.length + 2) .cont tracee = some (report, stop)) :
    ∃ after, (executeUpToBreakpoint breakpoint).run kernel.answer world =
        (if report.isEnd then .error .success else .ok (), after) ∧
      (report.isEnd = false → after.child = .stopped (breakpoint.rewound stop)) := by
  have elsewhere : ¬ arch.ip tracee.regs = breakpoint.hookAddr := away
  have kept : (world.record .getregs true).child = .stopped tracee := live
  obtain ⟨waited, waitOk, child⟩ : ∃ waited, (waitpid "waitpid(%d) failed").run kernel.answer
        { (world.record .getregs true).record .cont true with child := .running .cont tracee } =
          (.ok report, waited) ∧ waited.child = Kernel.childAfter report stop :=
    ⟨_, run_waitpid cooperates _ rfl (by simpa using reported), rfl⟩
  have resumed : (resumeUntilStop breakpoint).run kernel.answer world =
      (exitIf report.isEnd .success : Sys arch Unit).run kernel.answer waited := by
    rw [resumeUntilStop, run_bind_ok (run_getregs cooperates _ live), if_neg elsewhere,
      run_bind_ok (run_pure () _), run_bind_ok (run_cont cooperates _ kept), run_bind_ok waitOk]
  cases ended : report.isEnd with
  | true =>
      rw [ended] at resumed
      exact ⟨waited, run_bind_error resumed, fun going => by cases going⟩
  | false =>
      rw [ended] at resumed
      rw [Kernel.childAfter, if_neg (by simp [ended])] at child
      obtain ⟨after, rewound, restored⟩ := run_rewind cooperates child breakpoint
      exact ⟨after, (run_bind_ok resumed).trans rewound, fun _ => restored⟩

end Running

/-- Rewinding from the trap and restoring the word undoes the breakpoint. -/
theorem rewound_trap {tracee final : Tracee arch} {hookAddr : BitVec arch.width}
    (word : final.peek hookAddr = tracee.peek hookAddr) :
    Breakpoint.rewound ⟨hookAddr, tracee.savedWord hookAddr⟩
      ((final.armed hookAddr).setIp ((final.armed hookAddr).ip + 1)) = final := by
  rw [Breakpoint.rewound, Tracee.setIp_setIp, Tracee.ip_setIp, BitVec.add_sub_cancel,
    Tracee.setIp_ip, Breakpoint.restore, Tracee.savedWord_setWidth, ← word, Tracee.armed,
    Tracee.poke_restore]

/-- For every first arrival at the breakpoint, the child comes back with the
registers and the entire memory of the undisturbed run at that point. If the
undisturbed run ends before, the call does not return. -/
theorem breakpoint_transparent (kernel : Kernel arch) (machine : Machine arch)
    (world : World arch) (tracee : Tracee arch) (hookAddr : BitVec arch.width)
    (cooperates : kernel.Cooperates) (follows : kernel.Follows machine)
    (ignores : machine.Ignores hookAddr) (live : world.child = .stopped tracee)
    (away : tracee.ip ≠ hookAddr) :
    (∀ count final, machine.Runs hookAddr tracee count final → final.ip = hookAddr →
      ∃ after, (breakpointRun hookAddr 1).run kernel.answer world = (.ok (), after) ∧
        after.child = .stopped final) ∧
    (∀ count last, machine.Runs hookAddr tracee count last → last.ip ≠ hookAddr →
      last.memory last.ip ≠ 0xCC → machine.step last = none →
      ∃ code after, (breakpointRun hookAddr 1).run kernel.answer world = (.error code, after)) := by
  obtain ⟨armed, created, child⟩ := run_createBreakpoint cooperates live hookAddr
  have elsewhere : (tracee.armed hookAddr).ip ≠
      (⟨hookAddr, tracee.savedWord hookAddr⟩ : Breakpoint arch).hookAddr := away
  rw [breakpointRun, run_bind_ok created, executeTimes]
  constructor
  · intro count final runs arrived
    obtain ⟨executes, word⟩ := runs_armed ignores runs
    have trapped : (final.armed hookAddr).memory (final.armed hookAddr).ip = 0xCC := by
      have counter : (final.armed hookAddr).ip = hookAddr := arrived
      rw [counter, Tracee.armed_memory, if_pos rfl]
    obtain ⟨after, executed, restored⟩ := run_execute cooperates child elsewhere
      (follows.traps _ _ _ executes trapped)
    refine ⟨after, ?_, ?_⟩
    · rw [run_bind_ok executed]
      rfl
    · rw [restored rfl, rewound_trap word]
  · intro count last runs lastAway ordinary ended
    obtain ⟨executes, _⟩ := runs_armed ignores runs
    have stuck : machine.step (last.armed hookAddr) = none := by
      rw [Tracee.armed, ignores last _ lastAway, ended, Option.map_none]
    obtain ⟨report, stop, finished, reported⟩ :=
      follows.ends (armed.log.length + 2) _ _ executes (armed_ordinary lastAway ordinary) stuck
    obtain ⟨after, executed, _⟩ := run_execute cooperates child elsewhere reported
    rw [finished] at executed
    exact ⟨.success, after, run_bind_error executed⟩

/-- A program that jumps from address zero to the breakpoint and ends anywhere else. -/
def jumpMachine (hookAddr : BitVec Arch.x86_64.width) : Machine .x86_64 where
  step := fun tracee => if tracee.ip = 0 then some (tracee.setIp hookAddr) else none

def jumpReport (hookAddr : BitVec Arch.x86_64.width) (tracee : Tracee .x86_64) :
    Report × Tracee .x86_64 :=
  if tracee.memory tracee.ip = 0xCC then (.stopped sigtrap, tracee.setIp (tracee.ip + 1))
  else if tracee.ip = 0 ∧ tracee.memory hookAddr = 0xCC then
    (.stopped sigtrap, tracee.setIp (hookAddr + 1))
  else (.exited 0, tracee)

def jumpKernel (hookAddr : BitVec Arch.x86_64.width) : Kernel .x86_64 :=
  { trappingKernel with report := fun _ _ tracee => some (jumpReport hookAddr tracee) }

section Jump

variable {hookAddr : BitVec Arch.x86_64.width} (elsewhere : hookAddr ≠ 0)

include elsewhere

private theorem jumpMachine_executes {tracee final : Tracee .x86_64}
    (executes : (jumpMachine hookAddr).Executes tracee final) :
    final = tracee ∨
      tracee.ip = 0 ∧ tracee.memory tracee.ip ≠ 0xCC ∧ final = tracee.setIp hookAddr := by
  have onlyZero : ∀ {start next : Tracee .x86_64}, (jumpMachine hookAddr).step start = some next →
      start.ip = 0 ∧ next = start.setIp hookAddr := by
    intro start next stepped
    simp only [jumpMachine] at stepped
    split at stepped
    · next zero => exact ⟨zero, (Option.some.inj stepped).symm⟩
    · cases stepped
  cases executes with
  | refl => exact .inl rfl
  | step ordinary stepped rest =>
      obtain ⟨zero, rfl⟩ := onlyZero stepped
      cases rest with
      | refl => exact .inr ⟨zero, ordinary, rfl⟩
      | step _ again _ =>
          have twice := (onlyZero again).1
          rw [Tracee.ip_setIp] at twice
          exact absurd twice elsewhere

theorem jumpKernel_follows : (jumpKernel hookAddr).Follows (jumpMachine hookAddr) where
  traps := by
    intro count tracee trap executes trapped
    change some (jumpReport hookAddr tracee) = _
    rcases jumpMachine_executes elsewhere executes with rfl | ⟨zero, ordinary, rfl⟩
    · rw [jumpReport, if_pos trapped]
    · rw [Tracee.ip_setIp, Tracee.setIp_memory] at trapped
      rw [jumpReport, if_neg ordinary, if_pos ⟨zero, trapped⟩, Tracee.ip_setIp, Tracee.setIp_setIp]
  ends := by
    intro count tracee last executes ordinary ended
    change ∃ report after, report.isEnd = true ∧
      some (jumpReport hookAddr tracee) = some (report, after)
    rcases jumpMachine_executes elsewhere executes with rfl | ⟨zero, first, rfl⟩
    · have away : ¬ last.ip = 0 := by
        intro zero
        simp [jumpMachine, zero] at ended
      rw [jumpReport, if_neg ordinary, if_neg (fun both => away both.1)]
      exact ⟨_, _, rfl, rfl⟩
    · rw [Tracee.ip_setIp, Tracee.setIp_memory] at ordinary
      rw [jumpReport, if_neg first, if_neg (fun both => ordinary both.2)]
      exact ⟨_, _, rfl, rfl⟩

end Jump

theorem jumpMachine_ignores (hookAddr : BitVec Arch.x86_64.width) :
    (jumpMachine hookAddr).Ignores hookAddr := by
  intro tracee value _
  unfold jumpMachine
  by_cases zero : tracee.ip = 0
  · have poked : (tracee.poke hookAddr value).ip = 0 := zero
    simp only [zero, poked, ↓reduceIte]
    rfl
  · have poked : ¬ (tracee.poke hookAddr value).ip = 0 := zero
    simp only [zero, poked, ↓reduceIte]
    rfl

theorem breakpoint_transparent_jump :
    ∃ after, (breakpointRun nopHook 1).run (jumpKernel nopHook).answer nopWorld = (.ok (), after) ∧
      after.child = .stopped (nopTracee.setIp nopHook) := by
  have transparent := breakpoint_transparent (jumpKernel nopHook) (jumpMachine nopHook) nopWorld
    nopTracee nopHook (fun _ _ => rfl) (jumpKernel_follows (by decide)) (jumpMachine_ignores nopHook)
    rfl (by decide)
  exact transparent.1 1 _ (.step (by decide) (by decide) rfl (.refl _)) (Tracee.ip_setIp _ _)

end ProcessBridge.Snapshotter
