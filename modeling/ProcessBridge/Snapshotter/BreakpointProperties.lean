import ProcessBridge.Snapshotter.Breakpoint
import ProcessBridge.Snapshotter.KernelProperties

/-! What each step of the breakpoint code does to the child, whatever the kernel
answers: the child as it was at every `PTRACE_CONT`, the reports received, and
the child that is left behind. -/

set_option autoImplicit false

namespace ProcessBridge.Snapshotter

open Library Common Program

variable {arch : Arch}

/-!
## Calls on a child that is there
-/

section Exact

variable {kernel : Kernel arch} {world : World arch} {tracee : Tracee arch}
  {exits : Exit → World arch → Prop} {message : String}

theorem getregs_exact (stopped : world.child = .stopped tracee)
    (refused : exits (.fatal message) (world.record .getregs false)) :
    Triple kernel.answer (· = world) (required (call .getregs) message)
      (fun regs after => regs = tracee.regs ∧ after = world.record .getregs true) exits := by
  refine Triple.required (Triple.call ?_ ?_)
  · exact fun _ same => same ▸ refused
  · intro _ same
    rw [same, perform_getregs kernel _ (record_child ..|>.trans stopped)]
    exact ⟨rfl, rfl⟩

theorem setregs_exact {regs : arch.Regs} (stopped : world.child = .stopped tracee)
    (refused : exits (.fatal message) (world.record (.setregs regs) false)) :
    Triple kernel.answer (· = world) (ensure (call (.setregs regs)) message)
      (fun _ after => after =
        { world.record (.setregs regs) true with child := .stopped { tracee with regs } }) exits := by
  refine Triple.ensure (Triple.call ?_ ?_)
  · exact fun _ same => same ▸ refused
  · intro _ same
    rw [same, perform_setregs kernel _ (record_child ..|>.trans stopped)]
    rfl

theorem peektext_exact {address : BitVec arch.width} (stopped : world.child = .stopped tracee)
    (refused : exits (.fatal message) (world.record (.peektext address) false)) :
    Triple kernel.answer (· = world) (required (call (.peektext address)) message)
      (fun word after => word = tracee.peek address ∧
        after = world.record (.peektext address) true) exits := by
  refine Triple.required (Triple.call ?_ ?_)
  · exact fun _ same => same ▸ refused
  · intro _ same
    rw [same, perform_peektext kernel _ (record_child ..|>.trans stopped)]
    exact ⟨rfl, rfl⟩

theorem poketext_exact {address value : BitVec arch.width} (stopped : world.child = .stopped tracee)
    (refused : exits (.fatal message) (world.record (.poketext address value) false)) :
    Triple kernel.answer (· = world) (ensure (call (.poketext address value)) message)
      (fun _ after => after = { world.record (.poketext address value) true with
        child := .stopped (tracee.poke address value) }) exits := by
  refine Triple.ensure (Triple.call ?_ ?_)
  · exact fun _ same => same ▸ refused
  · intro _ same
    rw [same, perform_poketext kernel _ (record_child ..|>.trans stopped)]
    rfl

theorem singlestep_exact (stopped : world.child = .stopped tracee)
    (refused : exits (.fatal message) (world.record .singlestep false)) :
    Triple kernel.answer (· = world) (ensure (call .singlestep) message)
      (fun _ after => after =
        { world.record .singlestep true with child := .running .singlestep tracee }) exits := by
  refine Triple.ensure (Triple.call ?_ ?_)
  · exact fun _ same => same ▸ refused
  · intro _ same
    rw [same, perform_singlestep kernel _ (record_child ..|>.trans stopped)]
    rfl

theorem cont_exact (stopped : world.child = .stopped tracee)
    (refused : exits (.fatal message) (world.record .cont false)) :
    Triple kernel.answer (· = world) (ensure (call .cont) message)
      (fun _ after => after =
        { world.record .cont true with child := .running .cont tracee }) exits := by
  refine Triple.ensure (Triple.call ?_ ?_)
  · exact fun _ same => same ▸ refused
  · intro _ same
    rw [same, perform_cont kernel _ (record_child ..|>.trans stopped)]
    rfl

theorem waitpid_exact {resume : Resume} (going : world.child = .running resume tracee)
    (refused : exits (.fatal message) (world.record .waitpid false))
    (blocked : exits .hang (world.record .waitpid true)) :
    Triple kernel.answer (· = world) (waitpid message)
      (fun report after => ∃ stop,
        kernel.report world.log.length resume tracee = some (report, stop) ∧
        after = { world.record .waitpid true with
          child := Kernel.childAfter report stop
          reports := world.reports ++ [(resume, report, stop)] }) exits := by
  refine Triple.bind
    (fun waited after =>
      (∀ report, waited = .report report → ∃ stop,
        kernel.report world.log.length resume tracee = some (report, stop) ∧
        after = { world.record .waitpid true with
          child := Kernel.childAfter report stop
          reports := world.reports ++ [(resume, report, stop)] }) ∧
      (waited = .failed → exits (.fatal message) after) ∧ (waited = .blocked → exits .hang after))
    (Triple.call ?_ ?_) fun waited => ?_
  · exact fun _ same => ⟨nofun, fun _ => same ▸ refused, nofun⟩
  · intro _ same
    rw [same, perform_waitpid kernel _ (record_child ..|>.trans going)]
    cases reported : kernel.report world.log.length resume tracee with
    | none => exact ⟨nofun, nofun, fun _ => blocked⟩
    | some answer =>
        obtain ⟨report, stop⟩ := answer
        refine ⟨fun other equal => ?_, nofun, nofun⟩
        cases equal
        exact ⟨stop, rfl, rfl⟩
  · cases waited with
    | failed => exact Triple.exit fun _ holds => holds.2.1 rfl
    | blocked => exact Triple.exit fun _ holds => holds.2.2 rfl
    | report report => exact Triple.pure fun _ holds => holds.1 report rfl

end Exact

/-!
## What the breakpoint code acts on
-/

/-- The child at each `PTRACE_CONT` so far. -/
def contChildren (log : List (Entry arch)) : List (Child arch) :=
  log.filterMap fun entry =>
    match entry.call with
    | .cont => some entry.child
    | _ => none

/-- The part of the world the breakpoint code acts on. -/
structure World.Shows (world : World arch) (child : Child arch) (conts : List (Child arch))
    (reports : List (Resume × Report × Tracee arch)) : Prop where
  child : world.child = child
  conts : contChildren world.log = conts
  reports : world.reports = reports

theorem World.Shows.record {world : World arch} {child : Child arch} {conts : List (Child arch)}
    {reports : List (Resume × Report × Tracee arch)} (shown : world.Shows child conts reports)
    {op : Call arch} {succeeded : Bool}
    (other : contChildren [⟨op, child, succeeded⟩] = []) :
    (world.record op succeeded).Shows child conts reports := by
  refine ⟨shown.child, ?_, shown.reports⟩
  rw [record_log, shown.child]
  have split : contChildren (world.log ++ [⟨op, child, succeeded⟩]) =
      contChildren world.log ++ contChildren [⟨op, child, succeeded⟩] := List.filterMap_append
  rw [split, other, shown.conts, List.append_nil]

section Steps

variable {kernel : Kernel arch} {tracee : Tracee arch} {conts : List (Child arch)}
  {reports : List (Resume × Report × Tracee arch)} {exits : Exit → World arch → Prop}
  {message : String}

theorem getregs_triple
    (refused : ∀ world : World arch, world.Shows (.stopped tracee) conts reports →
      exits (.fatal message) (world.record .getregs false)) :
    Triple kernel.answer (·.Shows (.stopped tracee) conts reports)
      (required (call .getregs) message)
      (fun regs world => regs = tracee.regs ∧ world.Shows (.stopped tracee) conts reports)
      exits := by
  refine Triple.pointwise fun world shown => ?_
  refine (getregs_exact shown.child (refused world shown)).weaken_post fun regs after done => ?_
  exact ⟨done.1, done.2 ▸ shown.record rfl⟩

theorem setregs_triple {regs : arch.Regs}
    (refused : ∀ world : World arch, world.Shows (.stopped tracee) conts reports →
      exits (.fatal message) (world.record (.setregs regs) false)) :
    Triple kernel.answer (·.Shows (.stopped tracee) conts reports)
      (ensure (call (.setregs regs)) message)
      (fun _ world => world.Shows (.stopped { tracee with regs }) conts reports) exits := by
  refine Triple.pointwise fun world shown => ?_
  refine (setregs_exact shown.child (refused world shown)).weaken_post fun _ after done => ?_
  have kept : (world.record (.setregs regs) true).Shows _ _ _ := shown.record rfl
  exact done ▸ ⟨rfl, kept.conts, kept.reports⟩

theorem peektext_triple {address : BitVec arch.width}
    (refused : ∀ world : World arch, world.Shows (.stopped tracee) conts reports →
      exits (.fatal message) (world.record (.peektext address) false)) :
    Triple kernel.answer (·.Shows (.stopped tracee) conts reports)
      (required (call (.peektext address)) message)
      (fun word world => word = tracee.peek address ∧
        world.Shows (.stopped tracee) conts reports) exits := by
  refine Triple.pointwise fun world shown => ?_
  refine (peektext_exact shown.child (refused world shown)).weaken_post fun word after done => ?_
  exact ⟨done.1, done.2 ▸ shown.record rfl⟩

theorem poketext_triple {address value : BitVec arch.width}
    (refused : ∀ world : World arch, world.Shows (.stopped tracee) conts reports →
      exits (.fatal message) (world.record (.poketext address value) false)) :
    Triple kernel.answer (·.Shows (.stopped tracee) conts reports)
      (ensure (call (.poketext address value)) message)
      (fun _ world => world.Shows (.stopped (tracee.poke address value)) conts reports) exits := by
  refine Triple.pointwise fun world shown => ?_
  refine (poketext_exact shown.child (refused world shown)).weaken_post fun _ after done => ?_
  have kept : (world.record (.poketext address value) true).Shows _ _ _ := shown.record rfl
  exact done ▸ ⟨rfl, kept.conts, kept.reports⟩

theorem singlestep_triple
    (refused : ∀ world : World arch, world.Shows (.stopped tracee) conts reports →
      exits (.fatal message) (world.record .singlestep false)) :
    Triple kernel.answer (·.Shows (.stopped tracee) conts reports)
      (ensure (call .singlestep) message)
      (fun _ world => world.Shows (.running .singlestep tracee) conts reports) exits := by
  refine Triple.pointwise fun world shown => ?_
  refine (singlestep_exact shown.child (refused world shown)).weaken_post fun _ after done => ?_
  have kept : (world.record .singlestep true).Shows _ _ _ := shown.record rfl
  exact done ▸ ⟨rfl, kept.conts, kept.reports⟩

theorem World.Shows.record_cont {world : World arch} (shown : world.Shows (.stopped tracee) conts reports)
    (succeeded : Bool) :
    (world.record .cont succeeded).Shows (.stopped tracee) (conts ++ [.stopped tracee]) reports := by
  refine ⟨shown.child, ?_, shown.reports⟩
  rw [record_log, shown.child, ← shown.conts]
  exact List.filterMap_append

theorem cont_triple
    (refused : ∀ world : World arch, world.Shows (.stopped tracee) conts reports →
      exits (.fatal message) (world.record .cont false)) :
    Triple kernel.answer (·.Shows (.stopped tracee) conts reports)
      (ensure (call .cont) message)
      (fun _ world =>
        world.Shows (.running .cont tracee) (conts ++ [.stopped tracee]) reports) exits := by
  refine Triple.pointwise fun world shown => ?_
  refine (cont_exact shown.child (refused world shown)).weaken_post fun _ after done => ?_
  have kept := shown.record_cont true
  exact done ▸ ⟨rfl, kept.conts, kept.reports⟩

theorem waitpid_triple {resume : Resume}
    (refused : ∀ world : World arch, world.Shows (.running resume tracee) conts reports →
      exits (.fatal message) (world.record .waitpid false))
    (blocked : ∀ world : World arch, world.Shows (.running resume tracee) conts reports →
      exits .hang world) :
    Triple kernel.answer (·.Shows (.running resume tracee) conts reports) (waitpid message)
      (fun report world => ∃ after, world.Shows (Kernel.childAfter report after) conts
        (reports ++ [(resume, report, after)])) exits := by
  refine Triple.pointwise fun world shown => ?_
  have kept : (world.record .waitpid true).Shows _ _ _ := shown.record rfl
  refine (waitpid_exact shown.child (refused world shown) (blocked _ kept)).weaken_post
    fun report after done => ?_
  obtain ⟨stop, _, rfl⟩ := done
  exact ⟨stop, rfl, kept.conts, by rw [shown.reports]⟩

end Steps

/-!
## The breakpoint functions
-/

section Functions

variable {kernel : Kernel arch} {tracee : Tracee arch} {conts : List (Child arch)}
  {reports : List (Resume × Report × Tracee arch)}

def Breakpoint.restore (breakpoint : Breakpoint arch) (tracee : Tracee arch) : Tracee arch :=
  tracee.poke breakpoint.hookAddr (breakpoint.oldWord.setWidth arch.width)

section Restore

variable {original : Tracee arch} {hookAddr : BitVec arch.width}

theorem restore_inside {location : BitVec arch.width}
    (inside : (location - hookAddr).toNat < arch.wordSize) :
    (Breakpoint.restore ⟨hookAddr, original.savedWord hookAddr⟩ tracee).memory location =
      original.memory location := by
  rw [Breakpoint.restore, Tracee.savedWord_setWidth, Tracee.poke_inside _ _ _ inside,
    ← Tracee.poke_inside original _ _ inside, Tracee.poke_peek]

theorem restore_outside {location : BitVec arch.width}
    (outside : ¬ (location - hookAddr).toNat < arch.wordSize) :
    (Breakpoint.restore ⟨hookAddr, original.savedWord hookAddr⟩ tracee).memory location =
      tracee.memory location :=
  Tracee.poke_outside _ _ _ (Nat.not_lt.mp outside)

end Restore

theorem Shows.accounted_refused {unusable : Prop} {world : World arch} {child : Child arch} {code : Exit}
    {op : Call arch} (shown : world.Shows child conts reports) (alive : child.alive = true)
    (matters : op.tolerated = false) : Accounted unusable code (world.record op false) :=
  Snapshotter.accounted_refused (by rw [shown.child, alive]) matters

theorem Shows.conts_refused {world : World arch} {child : Child arch} {op : Call arch}
    (shown : world.Shows child conts reports)
    (other : contChildren [⟨op, child, false⟩] = []) :
    contChildren (world.record op false).log = conts := (shown.record other).conts

theorem createBreakpoint_triple (unusable : Prop) (hookAddr : BitVec arch.width) :
    Triple kernel.answer (·.Shows (.stopped tracee) conts reports) (createBreakpoint hookAddr)
      (fun breakpoint world => breakpoint = ⟨hookAddr, tracee.savedWord hookAddr⟩ ∧
        world.Shows (.stopped (tracee.armed hookAddr)) conts reports)
      (fun code world => contChildren world.log = conts ∧ Accounted unusable code world) := by
  refine Triple.bind _ (peektext_triple fun world shown =>
    ⟨Shows.conts_refused shown rfl, Shows.accounted_refused shown rfl rfl⟩) fun word => ?_
  refine Triple.given fun peeked => ?_
  subst peeked
  refine Triple.bind _ (poketext_triple fun world shown =>
    ⟨Shows.conts_refused shown rfl, Shows.accounted_refused shown rfl rfl⟩) fun _ => ?_
  exact Triple.pure fun world shown => ⟨rfl, shown⟩

theorem stepPastBreakpoint_triple (unusable : Prop) (breakpoint : Breakpoint arch) :
    Triple kernel.answer (·.Shows (.stopped tracee) conts reports) (stepPastBreakpoint breakpoint)
      (fun _ world => ∃ report stepped, world.Shows (.stopped (breakpoint.restore stepped)) conts
        (reports ++ [(.singlestep, report, stepped)]))
      (fun code world => contChildren world.log = conts ∧ Accounted unusable code world) := by
  refine Triple.bind _ (singlestep_triple fun world shown =>
    ⟨Shows.conts_refused shown rfl, Shows.accounted_refused shown rfl rfl⟩) fun _ => ?_
  refine Triple.bind _ (waitpid_triple
    (fun world shown => ⟨Shows.conts_refused shown rfl, Shows.accounted_refused shown rfl rfl⟩)
    fun world shown => ⟨shown.conts, .inl rfl⟩) fun report => ?_
  refine Triple.exists_pre fun stepped => ?_
  refine Triple.bind (fun _ world => world.Shows (.stopped stepped) conts
    (reports ++ [(.singlestep, report, stepped)])) (Triple.exitIf ?_ ?_) fun _ => ?_
  · intro ended world shown
    refine ⟨shown.conts, .inr (.inl ?_)⟩
    rw [shown.child, childAfter_ended ended]
    rfl
  · intro going world shown
    exact ⟨by rw [shown.child, childAfter_stopped going], shown.conts, shown.reports⟩
  · refine Triple.weaken_post (poketext_triple fun world shown =>
      ⟨Shows.conts_refused shown rfl, Shows.accounted_refused shown rfl rfl⟩) ?_
    exact fun _ world shown => ⟨report, stepped, shown⟩

def Breakpoint.rewound (breakpoint : Breakpoint arch) (stop : Tracee arch) : Tracee arch :=
  breakpoint.restore (stop.setIp (stop.ip - 1))

theorem rewind_triple (unusable : Prop) (breakpoint : Breakpoint arch) :
    Triple kernel.answer (·.Shows (.stopped tracee) conts reports) (rewind breakpoint)
      (fun _ world => world.Shows (.stopped (breakpoint.rewound tracee)) conts reports)
      (fun code world => contChildren world.log = conts ∧ Accounted unusable code world) := by
  refine Triple.bind _ (getregs_triple fun world shown =>
    ⟨Shows.conts_refused shown rfl, Shows.accounted_refused shown rfl rfl⟩) fun regs => ?_
  refine Triple.given fun current => ?_
  subst current
  refine Triple.bind _ (setregs_triple fun world shown =>
    ⟨Shows.conts_refused shown rfl, Shows.accounted_refused shown rfl rfl⟩) fun _ => ?_
  exact poketext_triple fun world shown =>
    ⟨Shows.conts_refused shown rfl, Shows.accounted_refused shown rfl rfl⟩

/-- The child that a call resumes: as it was found, or with the original word
poked back over whatever one single step made of it. -/
def Breakpoint.Resumed (breakpoint : Breakpoint arch) (tracee resumed : Tracee arch) : Prop :=
  (tracee.ip ≠ breakpoint.hookAddr ∧ resumed = tracee) ∨
    (tracee.ip = breakpoint.hookAddr ∧ ∃ stepped, resumed = breakpoint.restore stepped)

/-- The child is resumed once, and stops. -/
theorem resumeUntilStop_triple (unusable : Prop) (breakpoint : Breakpoint arch) :
    Triple kernel.answer (·.Shows (.stopped tracee) conts reports) (resumeUntilStop breakpoint)
      (fun _ world => ∃ resumed, breakpoint.Resumed tracee resumed ∧
        ∃ steps report stop, (∀ step ∈ steps, step.1 = Resume.singlestep) ∧
          report.isEnd = false ∧ world.Shows (.stopped stop)
            (conts ++ [.stopped resumed]) (reports ++ steps ++ [(.cont, report, stop)]))
      (fun code world => (contChildren world.log = conts ∨ ∃ resumed,
          breakpoint.Resumed tracee resumed ∧
            contChildren world.log = conts ++ [.stopped resumed]) ∧
        Accounted unusable code world) := by
  refine Triple.bind _ (getregs_triple fun world shown =>
    ⟨.inl (Shows.conts_refused shown rfl), Shows.accounted_refused shown rfl rfl⟩) fun regs => ?_
  refine Triple.given fun current => ?_
  subst current
  refine Triple.bind (fun _ world => ∃ resumed, breakpoint.Resumed tracee resumed ∧
    ∃ steps, (∀ step ∈ steps, step.1 = Resume.singlestep) ∧
      world.Shows (.stopped resumed) conts (reports ++ steps)) ?_ fun _ => ?_
  · refine Triple.ite (fun here => ?_) fun elsewhere => ?_
    · refine (stepPastBreakpoint_triple unusable breakpoint).strengthen ?_ ?_
      · intro _ world given
        obtain ⟨report, stepped, shown⟩ := given
        exact ⟨_, .inr ⟨here, stepped, rfl⟩, _, by simp, shown⟩
      · exact fun _ _ left => ⟨.inl left.1, left.2⟩
    · refine Triple.pure fun world shown => ⟨tracee, .inl ⟨elsewhere, rfl⟩, [], by simp, ?_⟩
      simpa using shown
  · refine Triple.exists_pre fun resumed => Triple.given fun reached => ?_
    refine Triple.exists_pre fun steps => Triple.given fun single => ?_
    refine Triple.bind _ (cont_triple fun world shown =>
      ⟨.inr ⟨resumed, reached, (shown.record_cont false).conts⟩,
        Shows.accounted_refused shown rfl rfl⟩) fun _ => ?_
    refine Triple.bind _ (waitpid_triple
      (fun world shown => ⟨.inr ⟨resumed, reached, Shows.conts_refused shown rfl⟩,
        Shows.accounted_refused shown rfl rfl⟩)
      fun world shown => ⟨.inr ⟨resumed, reached, shown.conts⟩, .inl rfl⟩) fun report => ?_
    refine Triple.exists_pre fun stop => Triple.exitIf ?_ ?_
    · intro ended world shown
      refine ⟨.inr ⟨resumed, reached, shown.conts⟩, .inr (.inl ?_)⟩
      rw [shown.child, childAfter_ended ended]
      rfl
    · intro going world shown
      refine ⟨resumed, reached, steps, report, stop, single, going, ?_, shown.conts, shown.reports⟩
      rw [shown.child, childAfter_stopped going]

theorem executeUpToBreakpoint_triple (unusable : Prop) (breakpoint : Breakpoint arch) :
    Triple kernel.answer (·.Shows (.stopped tracee) conts reports)
      (executeUpToBreakpoint breakpoint)
      (fun _ world => ∃ resumed, breakpoint.Resumed tracee resumed ∧
        ∃ steps report stop, (∀ step ∈ steps, step.1 = Resume.singlestep) ∧
          report.isEnd = false ∧ world.Shows (.stopped (breakpoint.rewound stop))
            (conts ++ [.stopped resumed]) (reports ++ steps ++ [(.cont, report, stop)]))
      (fun code world => (contChildren world.log = conts ∨ ∃ resumed,
          breakpoint.Resumed tracee resumed ∧
            contChildren world.log = conts ++ [.stopped resumed]) ∧
        Accounted unusable code world) := by
  refine Triple.bind _ (resumeUntilStop_triple unusable breakpoint) fun _ => ?_
  refine Triple.exists_pre fun resumed => Triple.given fun reached => ?_
  refine Triple.exists_pre fun steps => Triple.exists_pre fun report => ?_
  refine Triple.exists_pre fun stop => Triple.given fun single => Triple.given fun going => ?_
  refine (rewind_triple unusable breakpoint).strengthen ?_ ?_
  · exact fun _ world shown => ⟨resumed, reached, steps, report, stop, single, going, shown⟩
  · exact fun _ _ left => ⟨.inr ⟨resumed, reached, left.1⟩, left.2⟩

end Functions

end ProcessBridge.Snapshotter
