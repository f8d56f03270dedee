import ProcessBridge.Snapshotter.BreakpointWrites
import ProcessBridge.Snapshotter.Transparency

/-! Stepping past the breakpoint when the child is already there. The original word
is poked back after the single step, so the step executes whatever the word
happens to be before. Which signal the step has ended in is never looked at, so
one that was interrupted passes for a step. -/

set_option autoImplicit false

namespace ProcessBridge.Snapshotter

open Library Common Program

variable {arch : Arch}

/-- One instruction, the trap among them: it only moves behind itself. -/
def Machine.instruction (machine : Machine arch) (tracee : Tracee arch) : Option (Tracee arch) :=
  if tracee.memory tracee.ip = 0xCC then some (tracee.setIp (tracee.ip + 1)) else machine.step tracee

/-- What `PTRACE_SINGLESTEP` does. A trap tells that one instruction has been executed; any
other stop is a signal on its way to the child, which has executed nothing yet. -/
structure Kernel.Steps (kernel : Kernel arch) (machine : Machine arch) : Prop where
  trap : ∀ count tracee stop,
    kernel.report count .singlestep tracee = some (.stopped sigtrap, stop) →
      machine.instruction tracee = some stop
  signal : ∀ count tracee report stop,
    kernel.report count .singlestep tracee = some (report, stop) → report.isEnd = false →
      report ≠ .stopped sigtrap → stop = tracee

/-- A signal comes before the step. -/
def Kernel.Interrupts (kernel : Kernel arch) (count : Nat) (tracee : Tracee arch) : Prop :=
  ∃ report stop, kernel.report count .singlestep tracee = some (report, stop) ∧
    report.isEnd = false ∧ report ≠ .stopped sigtrap

/-- Each resume so far, with the child as it was found. -/
def resumes (log : List (Entry arch)) : List (Resume × Child arch) :=
  log.filterMap fun entry =>
    match entry.call with
    | .cont => some (.cont, entry.child)
    | .singlestep => some (.singlestep, entry.child)
    | _ => none

/-- What a call that starts with the child at the breakpoint is to do: the single step
finds the original word and has the effect of the original instruction, and the
child goes on from where that leads. -/
structure StepsOriginal (kernel : Kernel arch) (machine : Machine arch)
    (breakpoint : Breakpoint arch) (count : Nat) (start : Tracee arch)
    (resumed : List (Resume × Child arch)) : Prop where
  word : ∀ tracee, (.singlestep, .stopped tracee) ∈ resumed →
    tracee.peek breakpoint.hookAddr = breakpoint.oldWord.setWidth _
  effect : ∀ report stop, kernel.report count .singlestep start = some (report, stop) →
    report.isEnd = false → machine.instruction (breakpoint.restore start) = some stop
  next : ∀ tracee, (.cont, .stopped tracee) ∈ resumed →
    ∃ next, machine.instruction (breakpoint.restore start) = some next ∧
      tracee = breakpoint.restore next

/-!
## The resumes of one call
-/

/-- How far the call gets: not to the single step, not beyond it, or to the resume. -/
inductive StepsPast (kernel : Kernel arch) (breakpoint : Breakpoint arch) (count : Nat)
    (start : Tracee arch) : List (Resume × Child arch) → Prop where
  | none : StepsPast kernel breakpoint count start []
  | step : StepsPast kernel breakpoint count start [(.singlestep, .stopped start)]
  | cont {report : Report} {next : Tracee arch}
      (reported : kernel.report count .singlestep start = some (report, next))
      (going : report.isEnd = false) :
      StepsPast kernel breakpoint count start
        [(.singlestep, .stopped start), (.cont, .stopped (breakpoint.restore next))]

/-- A step over the original word has its effect unless it is interrupted. -/
theorem Kernel.Steps.effect_iff {kernel : Kernel arch} {machine : Machine arch}
    (steps : kernel.Steps machine) {count : Nat} {start : Tracee arch} :
    (∀ report stop, kernel.report count .singlestep start = some (report, stop) →
      report.isEnd = false → machine.instruction start = some stop) ↔
      (kernel.Interrupts count start → machine.instruction start = some start) := by
  constructor
  · intro effect interrupts
    obtain ⟨report, stop, reported, going, other⟩ := interrupts
    obtain rfl := steps.signal _ _ _ _ reported going other
    exact effect report _ reported going
  · intro stays report stop reported going
    by_cases trapped : report = .stopped sigtrap
    · subst trapped
      exact steps.trap _ _ _ reported
    · obtain rfl := steps.signal _ _ _ _ reported going trapped
      exact stays ⟨report, _, reported, going, trapped⟩

theorem StepsPast.original_iff {kernel : Kernel arch} {machine : Machine arch}
    (steps : kernel.Steps machine) {breakpoint : Breakpoint arch} {count : Nat}
    {start : Tracee arch} {resumed : List (Resume × Child arch)}
    (shape : StepsPast kernel breakpoint count start resumed) (issued : resumed ≠ []) :
    StepsOriginal kernel machine breakpoint count start resumed ↔
      start.peek breakpoint.hookAddr = breakpoint.oldWord.setWidth _ ∧
        (kernel.Interrupts count start → machine.instruction start = some start) := by
  have restored : start.peek breakpoint.hookAddr = breakpoint.oldWord.setWidth _ →
      breakpoint.restore start = start := by
    intro word
    rw [Breakpoint.restore, ← word, Tracee.poke_peek]
  constructor
  · intro original
    have word : start.peek breakpoint.hookAddr = breakpoint.oldWord.setWidth _ := by
      apply original.word start
      cases shape with
      | none => exact absurd rfl issued
      | step => exact List.mem_cons_self
      | cont reported going => exact List.mem_cons_self
    have effect := original.effect
    rw [restored word] at effect
    exact ⟨word, steps.effect_iff.mp effect⟩
  · intro given
    obtain ⟨word, stays⟩ := given
    have effect := steps.effect_iff.mpr stays
    rw [← restored word] at effect
    cases shape with
    | none => exact absurd rfl issued
    | step => exact ⟨by simpa using word, by rwa [restored word] at effect ⊢, by simp⟩
    | cont reported going =>
        refine ⟨by simpa using word, by rwa [restored word] at effect ⊢, fun tracee member => ?_⟩
        refine ⟨_, ?_, by simpa using member⟩
        rw [restored word] at effect ⊢
        exact effect _ _ reported going

section Call

variable {kernel : Kernel arch} {breakpoint : Breakpoint arch} {start : Tracee arch}
  {world : World arch}

private theorem resumes_append (left right : List (Entry arch)) :
    resumes (left ++ right) = resumes left ++ resumes right := List.filterMap_append

/-- Calls that set nothing going. -/
def Call.quiet : Call arch → Bool
  | .cont | .singlestep => false
  | _ => true

private theorem resumes_quiet (world : World arch) {op : Call arch} (quiet : op.quiet = true)
    (succeeded : Bool) : resumes (world.record op succeeded).log = resumes world.log := by
  have silent : resumes [(⟨op, world.child, succeeded⟩ : Entry arch)] = [] := by
    cases op <;> first | rfl | cases quiet
  rw [record_log, resumes_append, silent, List.append_nil]

/-- What the call has resumed since a world; its second call is the single step. -/
def Since (kernel : Kernel arch) (breakpoint : Breakpoint arch) (start : Tracee arch)
    (world after : World arch) : Prop :=
  ∃ resumed, StepsPast kernel breakpoint (world.log.length + 2) start resumed ∧
    resumes after.log = resumes world.log ++ resumed

theorem Since.rest {α : Type} {program : Sys arch α} (uses : program.Uses (·.quiet = true)) :
    Triple kernel.answer (Since kernel breakpoint start world) program
      (fun _ => Since kernel breakpoint start world)
      (fun _ => Since kernel breakpoint start world) := by
  refine uses.preserves kernel.answer _ fun op after quiet since => ?_
  obtain ⟨resumed, shape, log⟩ := since
  obtain ⟨succeeded, grown⟩ := kernel.answer_log op after
  refine ⟨resumed, shape, ?_⟩
  rw [grown, ← log]
  exact resumes_quiet after quiet succeeded

private theorem rewind_quiet (breakpoint : Breakpoint arch) :
    (rewind breakpoint).Uses (·.quiet = true) := by
  have quietly : ∀ op : Call arch, op.quiet = true → (call op).Uses (·.quiet = true) :=
    fun _ quiet => Uses.call quiet
  refine (Uses.required (quietly .getregs rfl) _).bind fun _ => ?_
  refine (Uses.ensure (quietly (.setregs _) rfl) _).bind fun _ => ?_
  exact Uses.ensure (quietly (.poketext _ _) rfl) _

private theorem stepPastBreakpoint_resumes {current : World arch}
    (length : current.log.length = world.log.length + 1)
    (same : resumes current.log = resumes world.log) (stopped : current.child = .stopped start) :
    Triple kernel.answer (· = current) (stepPastBreakpoint breakpoint)
      (fun _ after => ∃ report next,
        kernel.report (world.log.length + 2) .singlestep start = some (report, next) ∧
        report.isEnd = false ∧ after.child = .stopped (breakpoint.restore next) ∧
        resumes after.log = resumes world.log ++ [(.singlestep, .stopped start)])
      (fun _ => Since kernel breakpoint start world) := by
  have issued : ∀ succeeded, resumes (current.record .singlestep succeeded).log =
      resumes world.log ++ [(.singlestep, .stopped start)] := by
    intro succeeded
    rw [record_log, resumes_append, same, stopped]
    rfl
  have second : (current.record .singlestep true).log.length = world.log.length + 2 := by
    rw [record_log, List.length_append, length]
    rfl
  have waited : ∀ {after : World arch},
      resumes after.log = resumes world.log ++ [(.singlestep, .stopped start)] →
        Since kernel breakpoint start world after := fun log => ⟨_, .step, log⟩
  refine Triple.bind _ (singlestep_exact stopped (waited (issued false))) fun _ => ?_
  refine Triple.bind _ (waitpid_exact rfl (waited ((resumes_quiet _ rfl _).trans (issued true)))
    (waited ((resumes_quiet _ rfl _).trans (issued true)))) fun report => ?_
  refine Triple.exists_pre fun next => Triple.given fun reported => ?_
  rw [← second]
  refine Triple.bind (fun _ after => ∃ report next,
    kernel.report (current.record .singlestep true).log.length .singlestep start =
      some (report, next) ∧ report.isEnd = false ∧ after.child = .stopped next ∧
    resumes after.log = resumes world.log ++ [(.singlestep, .stopped start)])
    (Triple.exitIf ?_ ?_) fun _ => Triple.pointwise fun after held => ?_
  · exact fun _ after done => done ▸ waited ((resumes_quiet _ rfl _).trans (issued true))
  · exact fun going after done => done ▸ ⟨report, next, reported, going,
      childAfter_stopped going next, (resumes_quiet _ rfl _).trans (issued true)⟩
  · obtain ⟨report, next, reported, going, child, log⟩ := held
    refine (poketext_exact child (waited ((resumes_quiet _ rfl _).trans log))).weaken_post
      fun _ final done => ?_
    exact done ▸ ⟨report, next, reported, going, rfl, (resumes_quiet after rfl true).trans log⟩

private theorem executeUpToBreakpoint_resumes (kernel : Kernel arch) (breakpoint : Breakpoint arch)
    (stopped : world.child = .stopped start) (here : start.ip = breakpoint.hookAddr) :
    Triple kernel.answer (· = world) (executeUpToBreakpoint breakpoint)
      (fun _ => Since kernel breakpoint start world)
      (fun _ => Since kernel breakpoint start world) := by
  have read : ∀ succeeded, resumes (world.record .getregs succeeded).log = resumes world.log :=
    resumes_quiet world rfl
  refine Triple.bind _ ?_ fun _ => Since.rest ?_
  · refine Triple.bind _ (getregs_exact stopped ⟨[], .none, by rw [read, List.append_nil]⟩) fun regs =>
      Triple.given fun current => ?_
    subst current
    have found : (world.record .getregs true).child = .stopped start := stopped
    have first : (world.record .getregs true).log.length = world.log.length + 1 := by
      rw [record_log, List.length_append]
      rfl
    have taken : arch.ip start.regs = breakpoint.hookAddr := here
    rw [if_pos taken]
    refine Triple.bind _ (stepPastBreakpoint_resumes first (read true) found) fun _ => ?_
    refine Triple.pointwise fun middle held => ?_
    obtain ⟨report, next, reported, going, child, log⟩ := held
    have resumed : ∀ succeeded,
        Since kernel breakpoint start world (middle.record .cont succeeded) := by
      intro succeeded
      refine ⟨_, .cont reported going, ?_⟩
      rw [record_log, resumes_append, log, child]
      exact List.append_assoc ..
    refine Triple.bind _ ((cont_exact child (resumed false)).weaken_post
      fun _ after done => ?_) fun _ => Since.rest ?_
    · exact done ▸ resumed true
    · refine Uses.bind (Uses.waitpid ?_ _) fun _ => Uses.exitIf _ _
      rfl
  · exact rewind_quiet breakpoint

end Call

/-!
## The word under the breakpoint
-/

section Word

variable {original : Tracee arch} {hookAddr : BitVec arch.width}

theorem Tracee.memory_eq_peek (tracee : Tracee arch) (address : BitVec arch.width) :
    tracee.memory address = BitVec.ofNat 8 (tracee.peek address).toNat := by
  rw [← Tracee.poke_first tracee address (tracee.peek address), Tracee.poke_peek]

theorem armed_peek_iff :
    (original.armed hookAddr).peek hookAddr = original.peek hookAddr ↔
      original.memory hookAddr = 0xCC := by
  constructor
  · intro same
    rw [Tracee.memory_eq_peek, ← same, ← Tracee.memory_eq_peek, Tracee.armed_memory, if_pos rfl]
  · intro trap
    have unchanged : original.armed hookAddr = original := by
      refine Tracee.ext rfl (funext fun location => ?_)
      rw [Tracee.armed_memory]
      split
      · next here => rw [here, trap]
      · rfl
    rw [unchanged]

private theorem rewound_peek (stop : Tracee arch) :
    (Breakpoint.rewound ⟨hookAddr, original.savedWord hookAddr⟩ stop).peek hookAddr =
      original.peek hookAddr := by
  rw [Breakpoint.rewound, Breakpoint.restore, Tracee.peek_poke, Tracee.savedWord_setWidth]

/-- The word that a call finds: the original one after an earlier call, the patched one
right after the breakpoint was created. -/
theorem executeTimes_peek_iff {kernel : Kernel arch} {armed entry : World arch}
    {start : Tracee arch} (child : armed.child = .stopped (original.armed hookAddr)) {calls : Nat}
    (earlier : (executeTimes ⟨hookAddr, original.savedWord hookAddr⟩ calls).run kernel.answer armed =
      (.ok (), entry)) (stopped : entry.child = .stopped start) :
    start.peek hookAddr = original.peek hookAddr ↔ 1 ≤ calls ∨ original.memory hookAddr = 0xCC := by
  cases calls with
  | zero =>
      obtain rfl : armed = entry := (Prod.mk.inj earlier).2
      obtain rfl : start = original.armed hookAddr := Child.stopped.inj (stopped.symm.trans child)
      rw [armed_peek_iff]
      exact ⟨.inr, fun held => held.resolve_left (by omega)⟩
  | succ calls =>
      obtain ⟨_, _, _, stop, _, rewound⟩ := (executeTimes_balances child calls).returned rfl earlier
      obtain rfl := Child.stopped.inj (stopped.symm.trans rewound)
      exact ⟨fun _ => .inl (by omega), fun _ => rewound_peek stop⟩

end Word

/-- With the child at the breakpoint, a call executes the original instruction exactly if
an earlier call has returned there or the original byte is the trap itself, and no
signal interrupts the single step of an instruction that does anything. -/
theorem executeUpToBreakpoint_stepsOriginal_iff (kernel : Kernel arch) (machine : Machine arch)
    (steps : kernel.Steps machine) {world armed entry : World arch} {original start : Tracee arch}
    (live : world.child = .stopped original) {hookAddr : BitVec arch.width}
    {breakpoint : Breakpoint arch}
    (created : (createBreakpoint hookAddr).run kernel.answer world = (.ok breakpoint, armed))
    (calls : Nat)
    (earlier : (executeTimes breakpoint calls).run kernel.answer armed = (.ok (), entry))
    (stopped : entry.child = .stopped start) (here : start.ip = hookAddr)
    {resumed : List (Resume × Child arch)}
    (log : resumes ((executeUpToBreakpoint breakpoint).run kernel.answer entry).2.log =
      resumes entry.log ++ resumed) (issued : resumed ≠ []) :
    StepsOriginal kernel machine breakpoint (entry.log.length + 2) start resumed ↔
      (1 ≤ calls ∨ original.memory hookAddr = 0xCC) ∧
        (kernel.Interrupts (entry.log.length + 2) start →
          machine.instruction start = some start) := by
  obtain ⟨rfl, child, _⟩ := (createBreakpoint_balances live).returned rfl created
  obtain ⟨found, shape, grown⟩ := (executeUpToBreakpoint_resumes kernel
    ⟨hookAddr, original.savedWord hookAddr⟩ stopped here).ended rfl
  obtain rfl : resumed = found := List.append_cancel_left (log.symm.trans grown)
  rw [shape.original_iff steps issued, Tracee.savedWord_setWidth]
  exact and_congr_left fun _ => executeTimes_peek_iff child earlier stopped

/-- A kernel that single-steps a machine. -/
def steppingKernel (machine : Machine .x86_64) : Kernel .x86_64 :=
  { trappingKernel with
    report := fun count resume tracee =>
      if resume = .singlestep then
        (machine.instruction tracee).map fun next => (.stopped sigtrap, next)
      else trappingKernel.report count resume tracee }

private theorem steppingKernel_report {machine : Machine .x86_64} {count : Nat}
    {tracee stop : Tracee .x86_64} {report : Report}
    (reported : (steppingKernel machine).report count .singlestep tracee = some (report, stop)) :
    report = .stopped sigtrap ∧ machine.instruction tracee = some stop := by
  simp only [steppingKernel, if_true, Option.map_eq_some_iff, Prod.mk.injEq] at reported
  obtain ⟨next, executed, rfl, rfl⟩ := reported
  exact ⟨rfl, executed⟩

private theorem steppingKernel_steps (machine : Machine .x86_64) :
    (steppingKernel machine).Steps machine where
  trap := fun _ _ _ reported => (steppingKernel_report reported).2
  signal := fun _ _ _ _ reported _ other => absurd (steppingKernel_report reported).1 other

private theorem steppingKernel_uninterrupted (machine : Machine .x86_64) (count : Nat)
    (tracee : Tracee .x86_64) : ¬ (steppingKernel machine).Interrupts count tracee := by
  intro interrupts
  obtain ⟨report, stop, reported, _, other⟩ := interrupts
  exact other (steppingKernel_report reported).1

def nopMachine : Machine .x86_64 := ⟨fun tracee => some (tracee.setIp (tracee.ip + 1))⟩

/-- The second call finds the child where the first has left it. -/
theorem executeUpToBreakpoint_stepsOriginal_again :
    ∃ breakpoint armed entry start resumed,
      (createBreakpoint nopHook).run (steppingKernel nopMachine).answer nopWorld =
        (.ok breakpoint, armed) ∧
      (executeTimes breakpoint 1).run (steppingKernel nopMachine).answer armed = (.ok (), entry) ∧
      entry.child = .stopped start ∧
      resumes ((executeUpToBreakpoint breakpoint).run (steppingKernel nopMachine).answer
        entry).2.log = resumes entry.log ++ resumed ∧
      resumed.length = 2 ∧ StepsOriginal (steppingKernel nopMachine) nopMachine breakpoint
        (entry.log.length + 2) start resumed := by
  obtain ⟨breakpoint, armed, entry, start, first, second, created, earlier, stopped, here, log⟩ :
      ∃ breakpoint armed entry start first second,
        (createBreakpoint nopHook).run (steppingKernel nopMachine).answer nopWorld =
          (.ok breakpoint, armed) ∧
        (executeTimes breakpoint 1).run (steppingKernel nopMachine).answer armed = (.ok (), entry) ∧
        entry.child = .stopped start ∧ start.ip = nopHook ∧
        resumes ((executeUpToBreakpoint breakpoint).run (steppingKernel nopMachine).answer
          entry).2.log = resumes entry.log ++ [first, second] :=
    ⟨_, _, _, _, _, _, rfl, rfl, rfl, rfl, rfl⟩
  refine ⟨breakpoint, armed, entry, start, [first, second], created, earlier, stopped, log, rfl, ?_⟩
  have exactly := executeUpToBreakpoint_stepsOriginal_iff (steppingKernel nopMachine) nopMachine
    (steppingKernel_steps nopMachine) rfl created 1 earlier stopped here log (by simp)
  exact exactly.mpr ⟨.inl le_rfl, fun interrupts =>
    absurd interrupts (steppingKernel_uninterrupted nopMachine _ _)⟩

/-- A breakpoint at the address of the child: the single step executes the trap, and the
child goes on in the middle of its first instruction instead of behind its jump. -/
theorem executeUpToBreakpoint_steps_trap :
    ∃ breakpoint armed trapped next,
      (createBreakpoint 0).run (steppingKernel (jumpMachine nopHook)).answer nopWorld =
        (.ok breakpoint, armed) ∧
      armed.child = .stopped trapped ∧ trapped.ip = 0 ∧
      resumes ((executeUpToBreakpoint breakpoint).run (steppingKernel (jumpMachine nopHook)).answer
        armed).2.log = resumes armed.log ++ [(.singlestep, .stopped trapped), (.cont, .stopped next)] ∧
      trapped.memory 0 = 0xCC ∧ next.ip = 1 ∧
      (jumpMachine nopHook).instruction nopTracee = some (nopTracee.setIp nopHook) ∧
      ¬ StepsOriginal (steppingKernel (jumpMachine nopHook)) (jumpMachine nopHook) breakpoint
        (armed.log.length + 2) trapped [(.singlestep, .stopped trapped), (.cont, .stopped next)] := by
  refine ⟨_, _, _, _, rfl, rfl, rfl, rfl, rfl, rfl, rfl, fun steps => ?_⟩
  have word := steps.word _ List.mem_cons_self
  revert word
  decide

end ProcessBridge.Snapshotter
