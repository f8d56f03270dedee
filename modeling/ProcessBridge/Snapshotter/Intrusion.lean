import ProcessBridge.Snapshotter.MainRuns

/-! What the snapshotter does to the child. Two requests change a stopped child,
`PTRACE_POKETEXT` and `PTRACE_SETREGS`; in a whole run they serve to put the trap
in, to put the word under it back, and to take the instruction pointer back by
one, and for nothing else. -/

set_option autoImplicit false

namespace ProcessBridge.Snapshotter

open Library Common Program

variable {arch : Arch}

/-- Requests that change the memory or the registers of the child. -/
def Call.intrudes : Call arch → Bool
  | .setregs _ | .poketext _ _ => true
  | _ => false

/-- The calls of a run with one breakpoint, set while the child was in the state `start`. -/
inductive Entry.Gentle (hookAddr : BitVec arch.width) (start : Tracee arch) : Entry arch → Prop where
  | other {entry : Entry arch} (leaves : entry.call.intrudes = false) : Gentle hookAddr start entry
  | arms (succeeded : Bool) : Gentle hookAddr start
      ⟨.poketext hookAddr ((placeInt3InFirstByte (start.savedWord hookAddr)).setWidth _),
        .stopped start, succeeded⟩
  | restores (child : Child arch) (succeeded : Bool) : Gentle hookAddr start
      ⟨.poketext hookAddr (start.peek hookAddr), child, succeeded⟩
  | rewinds (tracee : Tracee arch) (succeeded : Bool) : Gentle hookAddr start
      ⟨.setregs (tracee.setIp (tracee.ip - 1)).regs, .stopped tracee, succeeded⟩

/-- The child was first seen in the state `start`, and all calls so far are gentle. -/
structure World.Gentle (hookAddr : BitVec arch.width) (start : Tracee arch)
    (world : World arch) : Prop where
  started : ∃ report rest, world.reports = (.exec, report, start) :: rest
  log : ∀ entry ∈ world.log, entry.Gentle hookAddr start

def World.Untouched (world : World arch) : Prop :=
  ∀ entry ∈ world.log, entry.call.intrudes = false

/-!
## One call
-/

section OneCall

variable (kernel : Kernel arch) {op : Call arch} {world : World arch}
  {hookAddr : BitVec arch.width} {start : Tracee arch}

theorem Kernel.answer_reports_append (op : Call arch) (world : World arch) :
    ∃ more, (kernel.answer op world).2.reports = world.reports ++ more := by
  rcases kernel.answer_cases op world with ⟨_, answered⟩ | ⟨_, answered⟩
  · exact ⟨[], by rw [answered, List.append_nil]; rfl⟩
  · rw [answered]
    cases op with
    | waitpid =>
        simp only [Kernel.perform, Kernel.wait]
        split
        · split
          · exact ⟨_, rfl⟩
          · exact ⟨[], (List.append_nil _).symm⟩
        all_goals exact ⟨[], (List.append_nil _).symm⟩
    | getregs | setregs | peektext | poketext | cont | singlestep | getThreadArea =>
        simp only [Kernel.perform, Kernel.onStopped]
        split
        all_goals exact ⟨[], (List.append_nil _).symm⟩
    | seekElf offset =>
        simp only [Kernel.perform]
        split
        all_goals exact ⟨[], (List.append_nil _).symm⟩
    | _ => exact ⟨[], (List.append_nil _).symm⟩

theorem World.Gentle.answer (gentle : world.Gentle hookAddr start)
    (allowed : ∀ succeeded, Entry.Gentle hookAddr start ⟨op, world.child, succeeded⟩) :
    (kernel.answer op world).2.Gentle hookAddr start := by
  obtain ⟨report, rest, reports⟩ := gentle.started
  obtain ⟨more, grown⟩ := kernel.answer_reports_append op world
  obtain ⟨succeeded, log⟩ := kernel.answer_log op world
  refine ⟨⟨report, rest ++ more, by rw [grown, reports]; rfl⟩, ?_⟩
  intro entry member
  rw [log, List.mem_append, List.mem_singleton] at member
  rcases member with old | rfl
  · exact gentle.log entry old
  · exact allowed succeeded

theorem World.Gentle.record (gentle : world.Gentle hookAddr start) {succeeded : Bool}
    (allowed : Entry.Gentle hookAddr start ⟨op, world.child, succeeded⟩) :
    (world.record op succeeded).Gentle hookAddr start := by
  refine ⟨gentle.started, ?_⟩
  intro entry member
  rw [record_log, List.mem_append, List.mem_singleton] at member
  rcases member with old | rfl
  · exact gentle.log entry old
  · exact allowed

theorem World.Untouched.answer (untouched : world.Untouched) (leaves : op.intrudes = false) :
    (kernel.answer op world).2.Untouched := by
  obtain ⟨succeeded, log⟩ := kernel.answer_log op world
  intro entry member
  rw [log, List.mem_append, List.mem_singleton] at member
  rcases member with old | rfl
  · exact untouched entry old
  · exact leaves

theorem World.Untouched.gentle (untouched : world.Untouched) {report : Report}
    {rest : List (Resume × Report × Tracee arch)}
    (started : world.reports = (.exec, report, start) :: rest) : world.Gentle hookAddr start :=
  ⟨⟨report, rest, started⟩, fun entry member => .other (untouched entry member)⟩

end OneCall

/-!
## One stage
-/

section Stages

-- the programs are taken apart by the rules, never by evaluating them
seal Program.Uses

variable (kernel : Kernel arch) {hookAddr : BitVec arch.width} {start : Tracee arch}

theorem Uses.untouched {α : Type} {program : Sys arch α}
    (uses : program.Uses (·.intrudes = false)) :
    Triple kernel.answer World.Untouched program (fun _ => World.Untouched)
      (fun _ => World.Untouched) :=
  uses.preserves kernel.answer World.Untouched fun _ _ leaves untouched =>
    untouched.answer kernel leaves

/-- Calls that may be made while the breakpoint is in place. -/
def Call.Restoring (hookAddr : BitVec arch.width) (start : Tracee arch) (op : Call arch) : Prop :=
  op.intrudes = false ∨ op = .poketext hookAddr (start.peek hookAddr)

theorem Uses.gentle {α : Type} {program : Sys arch α}
    (uses : program.Uses (Call.Restoring hookAddr start)) :
    Triple kernel.answer (World.Gentle hookAddr start) program
      (fun _ => World.Gentle hookAddr start) (fun _ => World.Gentle hookAddr start) := by
  refine uses.preserves kernel.answer (World.Gentle hookAddr start) fun op world allowed gentle =>
    gentle.answer kernel fun succeeded => ?_
  rcases allowed with leaves | rfl
  · exact .other leaves
  · exact .restores world.child succeeded

theorem resumeUntilStop_uses :
    (resumeUntilStop ⟨hookAddr, start.savedWord hookAddr⟩).Uses (Call.Restoring hookAddr start) := by
  have restores : Call.Restoring hookAddr start
      (.poketext hookAddr ((start.savedWord hookAddr).setWidth arch.width)) := by
    rw [Tracee.savedWord_setWidth]
    exact .inr rfl
  have steps : (stepPastBreakpoint ⟨hookAddr, start.savedWord hookAddr⟩).Uses
      (Call.Restoring hookAddr start) :=
    (Uses.ensure (Uses.call (.inl rfl)) _).bind fun _ =>
      (Uses.waitpid (.inl rfl) _).bind fun _ => (Uses.exitIf _ _).bind fun _ =>
        Uses.ensure (Uses.call restores) _
  exact (Uses.required (Uses.call (.inl rfl)) _).bind fun regs =>
    (Uses.ite steps (.pure ())).bind fun _ => (Uses.ensure (Uses.call (.inl rfl)) _).bind fun _ =>
      (Uses.waitpid (.inl rfl) _).bind fun _ => Uses.exitIf _ _

/-- The registers that are set are those that were read, except for the pointer. -/
theorem rewind_gentle :
    Triple kernel.answer (World.Gentle hookAddr start)
      (rewind ⟨hookAddr, start.savedWord hookAddr⟩) (fun _ => World.Gentle hookAddr start)
      (fun _ => World.Gentle hookAddr start) := by
  refine Triple.bind (fun regs world => world.Gentle hookAddr start ∧
      ∃ tracee, world.child = .stopped tracee ∧ tracee.regs = regs)
    (Triple.required (Triple.ask fun world gentle => ?_)) fun regs => ?_
  · have kept : (kernel.answer .getregs world).2.Gentle hookAddr start :=
      gentle.answer kernel fun _ => .other rfl
    rcases kernel.answer_cases .getregs world with ⟨_, answered⟩ | ⟨_, answered⟩
    · rw [answered] at kept ⊢
      exact kept
    · rw [answered] at kept ⊢
      cases child : world.child with
      | stopped tracee =>
          rw [perform_getregs kernel _ (record_child ..|>.trans child)] at kept ⊢
          exact ⟨kept, tracee, child, rfl⟩
      | absent | running | dead =>
          simp only [Kernel.perform, Kernel.onStopped, record_child, child] at kept ⊢
          exact kept
  · refine Triple.bind (fun _ => World.Gentle hookAddr start)
      (Triple.ensure (Triple.ask fun world given => ?_)) fun _ => ?_
    · obtain ⟨gentle, tracee, stopped, rfl⟩ := given
      have kept : (kernel.answer (.setregs (arch.setIp tracee.regs (arch.ip tracee.regs - 1)))
          world).2.Gentle hookAddr start := by
        refine gentle.answer kernel fun succeeded => ?_
        rw [stopped]
        exact .rewinds tracee succeeded
      split
      · exact kept
      · exact kept
    · refine Uses.gentle kernel (Uses.ensure (Uses.call ?_) _)
      rw [Tracee.savedWord_setWidth]
      exact .inr rfl

private theorem executeUpToBreakpoint_gentle :
    Triple kernel.answer (World.Gentle hookAddr start)
      (executeUpToBreakpoint ⟨hookAddr, start.savedWord hookAddr⟩)
      (fun _ => World.Gentle hookAddr start) (fun _ => World.Gentle hookAddr start) :=
  Triple.bind _ (Uses.gentle kernel resumeUntilStop_uses) fun _ => rewind_gentle kernel

/-- The trap is put in while the child is in the state in which the word was read. -/
theorem createBreakpoint_gentle (hookAddr : BitVec arch.width) (start : Tracee arch)
    (report : Report) (rest : List (Resume × Report × Tracee arch)) :
    Triple kernel.answer (fun world => world.Untouched ∧ world.child = .stopped start ∧
        world.reports = (.exec, report, start) :: rest) (createBreakpoint hookAddr)
      (fun breakpoint world => breakpoint = ⟨hookAddr, start.savedWord hookAddr⟩ ∧
        world.Gentle hookAddr start) (fun _ => World.Gentle hookAddr start) := by
  refine Triple.pointwise fun world given => ?_
  obtain ⟨untouched, stopped, reports⟩ := given
  have gentle : world.Gentle hookAddr start := untouched.gentle reports
  have looked : ∀ succeeded, (world.record (.peektext hookAddr) succeeded).Gentle hookAddr start :=
    fun succeeded => gentle.record (.other rfl)
  refine Triple.bind _ (peektext_exact stopped (looked false)) fun word =>
    Triple.given fun peeked => ?_
  subst peeked
  have kept : (world.record (.peektext hookAddr) true).child = .stopped start := stopped
  have armed : ∀ succeeded, ((world.record (.peektext hookAddr) true).record (.poketext hookAddr
      ((placeInt3InFirstByte (start.savedWord hookAddr)).setWidth _)) succeeded).Gentle
        hookAddr start := by
    intro succeeded
    refine (looked true).record ?_
    rw [kept]
    exact .arms succeeded
  refine Triple.bind _ (poketext_exact kept (armed false)) fun _ => Triple.pure ?_
  rintro after rfl
  exact ⟨rfl, (armed true).started, (armed true).log⟩

private theorem aside_leaves {op : Call arch} (aside : op.aside = true) : op.intrudes = false := by
  cases op with
  | setregs | poketext => cases aside
  | _ => rfl

/-- The child was left alone, or there was one breakpoint at the given offset. -/
def World.Spared (addr : BitVec arch.width) (world : World arch) : Prop :=
  world.Untouched ∨ ∃ (imageBase : BitVec 64) (start : Tracee arch),
    world.Gentle (imageBase.setWidth _ + addr) start

private theorem reachBreakpoint_gentle (stale : MapsEntry) (addr : BitVec arch.width) :
    Triple kernel.answer (fun world => world.Shows .absent [] [] ∧ world.Untouched)
      (reachBreakpoint stale addr)
      (fun _ world => ∃ (imageBase : BitVec 64) (start : Tracee arch),
        world.Gentle (imageBase.setWidth _ + addr) start)
      (fun _ => World.Spared addr) := by
  have forks := (forkChild_triple kernel fun _ _ _ _ _ _ => trivial).and
    (Uses.untouched kernel (forkChild_uses rfl rfl))
  refine Triple.bind _ (forks.strengthen (fun _ _ holds => holds) fun _ _ left => .inl left.2)
    fun pid => ?_
  refine Triple.pointwise fun world given => ?_
  obtain ⟨⟨_, report, start, shown⟩, untouched⟩ := given
  have locates := (getImageBase_shows kernel stale pid start [(.exec, report, start)]).and
    (Uses.untouched kernel (getImageBase_uses (fun op locates =>
      aside_leaves (locates_aside locates)) stale pid))
  refine Triple.bind _ ((locates.weaken ?_).strengthen (fun _ _ holds => holds)
    fun _ _ left => .inl left.2) fun imageBase => ?_
  · rintro _ rfl
    exact ⟨shown, untouched⟩
  have arms := createBreakpoint_gentle kernel (imageBase.setWidth _ + addr) start report []
  refine Triple.bind _ ((arms.weaken ?_).strengthen (fun _ _ holds => holds)
    fun _ _ left => .inr ⟨imageBase, start, left⟩) fun breakpoint => Triple.given fun made => ?_
  · intro later held
    obtain ⟨⟨conts, visible⟩, quiet⟩ := held
    exact ⟨quiet, visible.child, visible.reports⟩
  subst made
  refine Triple.bind _ ((executeUpToBreakpoint_gentle kernel).strengthen (fun _ _ holds => holds)
    fun _ _ left => .inr ⟨imageBase, start, left⟩) fun _ => ?_
  exact Triple.pure fun later gentle => ⟨imageBase, start, gentle⟩

end Stages

/-!
## The whole run
-/

section WholeRun

variable {platform : Platform}

private theorem runTarget_gentle (kernel : Kernel platform.arch) (locals : Locals)
    (addr : BitVec platform.arch.width) :
    Triple kernel.answer (fun world => world.Shows .absent [] [] ∧ world.Untouched)
      (runTarget platform locals addr) (fun _ => World.Spared addr) (fun _ => World.Spared addr) := by
  have kills : ∀ op : Call platform.arch, op = .kill ∨ op = .waitpid → op.intrudes = false := by
    intro op known
    rcases known with rfl | rfl
    · rfl
    · rfl
  rw [runTarget_eq]
  refine Triple.bind _ (reachBreakpoint_gentle kernel locals.imageEntry addr) fun pid => ?_
  refine Triple.exists_pre fun imageBase => Triple.exists_pre fun start => ?_
  have captures := (captureAndDump_uses platform locals.tls locals.dumpEntry locals.buffer pid).imp
    fun op aside => aside_leaves aside
  have leaves := captures.bind fun _ => killChild_uses.imp kills
  exact (Uses.gentle kernel (leaves.imp fun op quiet => .inl quiet)).strengthen
    (fun _ _ gentle => .inr ⟨imageBase, start, gentle⟩)
    fun _ _ gentle => .inr ⟨imageBase, start, gentle⟩

/-- In every run of the snapshotter, successful or not, whatever the kernel answers, the
child is changed in three ways only: the trap is written into the word at the
breakpoint as it was when the child was first seen, that word is written back,
and the instruction pointer of a stopped child is set back by one. No other
address is ever written, and no other register. -/
theorem main_gentle (platform : Platform) (kernel : Kernel platform.arch) (locals : Locals)
    (argv : List (List Byte)) :
    (∀ entry ∈ ((main platform locals argv).run kernel.answer (.initial _)).2.log,
      entry.call.intrudes = false) ∨
    ∃ offset addr, argv[1]? = some offset ∧ parseOffset offset = some addr ∧
      ∃ (imageBase : BitVec 64) (start : Tracee platform.arch),
        ((main platform locals argv).run kernel.answer (.initial _)).2.Gentle
          (imageBase.setWidth _ + addr.setWidth _) start := by
  rcases main_target_cases kernel locals argv with idle | ⟨offset, addr, given, parsed, ran⟩
  · refine .inl fun entry member => ?_
    rw [idle entry member]
    rfl
  · rw [ran]
    have untouched : ((World.initial platform.arch).record .malloc true).Untouched := by
      intro entry member
      rw [recorded_malloc entry member]
      rfl
    have ended := (runTarget_gentle kernel locals (addr.setWidth _)).ended ⟨⟨rfl, rfl, rfl⟩, untouched⟩
    rcases ended with nothing | gentle
    · exact .inl nothing
    · exact .inr ⟨offset, addr, given, parsed, gentle⟩

end WholeRun

end ProcessBridge.Snapshotter
