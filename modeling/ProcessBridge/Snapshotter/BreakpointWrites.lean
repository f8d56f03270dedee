import ProcessBridge.Snapshotter.BreakpointRuns

/-! What the child writes while the breakpoint is armed. The breakpoint takes one
byte, but a whole word is saved when it is created and poked back at every stop,
whatever has become of the other bytes of the word. -/

set_option autoImplicit false

namespace ProcessBridge.Snapshotter

open Library Common Program

variable {arch : Arch}

/-- The bytes behind the breakpoint, up to the end of the word, are those of the
original. -/
def Tracee.KeepsTail (tracee original : Tracee arch) (hookAddr : BitVec arch.width) : Prop :=
  ∀ location ≠ hookAddr, (location - hookAddr).toNat < arch.wordSize →
    tracee.memory location = original.memory location

/-- If the call is `PTRACE_POKETEXT`, it changes no byte but the one at the breakpoint. -/
def Entry.TouchesOnly (hookAddr : BitVec arch.width) (entry : Entry arch) : Prop :=
  ∀ tracee address value, entry.call = .poketext address value → entry.child = .stopped tracee →
    ∀ location ≠ hookAddr, (tracee.poke address value).memory location = tracee.memory location

/-- Between two worlds no write of the child is lost: each poke changes the byte at the
breakpoint only, and in the end that byte is the original one while every other
byte is what the child had there at its last stop. -/
structure LosesNoWrite (hookAddr : BitVec arch.width) (original : Tracee arch)
    (before after : World arch) : Prop where
  pokes : ∀ entry ∈ after.log.drop before.log.length, entry.TouchesOnly hookAddr
  returned : ∃ resume report stop last, after.reports.getLast? = some (resume, report, stop) ∧
    after.child = .stopped last ∧ last.memory hookAddr = original.memory hookAddr ∧
    ∀ location ≠ hookAddr, last.memory location = stop.memory location

/-!
## One poke
-/

section Poke

variable {original tracee : Tracee arch} {hookAddr : BitVec arch.width}

/-- Poking the original word back touches one byte if the others have not changed. -/
theorem restore_touches_iff :
    (∀ location ≠ hookAddr,
      (Breakpoint.restore ⟨hookAddr, original.savedWord hookAddr⟩ tracee).memory location =
        tracee.memory location) ↔ tracee.KeepsTail original hookAddr := by
  constructor
  · intro touches location other inside
    rw [← touches location other, restore_inside inside]
  · intro keeps location other
    by_cases inside : (location - hookAddr).toNat < arch.wordSize
    · rw [restore_inside inside, keeps location other inside]
    · exact restore_outside inside

theorem touchesOnly_restore_iff :
    Entry.TouchesOnly hookAddr ⟨.poketext hookAddr ((original.savedWord hookAddr).setWidth _),
      .stopped tracee, true⟩ ↔ tracee.KeepsTail original hookAddr := by
  rw [← restore_touches_iff]
  constructor
  · exact fun touches => touches tracee _ _ rfl rfl
  · rintro touches _ _ _ ⟨⟩ ⟨⟩
    exact touches

private theorem touchesOnly_arm :
    Entry.TouchesOnly hookAddr ⟨.poketext hookAddr
      ((placeInt3InFirstByte (original.savedWord hookAddr)).setWidth _),
      .stopped original, true⟩ := by
  rintro _ _ _ ⟨⟩ ⟨⟩ location other
  have armed := original.armed_memory hookAddr location
  rwa [if_neg other] at armed

private theorem touchesOnly_other {op : Call arch} {child : Child arch} {succeeded : Bool}
    (other : ∀ address value, op ≠ .poketext address value) :
    Entry.TouchesOnly hookAddr ⟨op, child, succeeded⟩ :=
  fun _ address value same => absurd same (other address value)

end Poke

/-!
## One call
-/

/-- In the second world the child has been rewound from a stop reported after the first. -/
def Returns (hookAddr : BitVec arch.width) (original : Tracee arch)
    (before after : World arch) : Prop :=
  ∃ stops report stop, after.reports = before.reports ++ (stops ++ [(.cont, report, stop)]) ∧
    after.child = .stopped (Breakpoint.rewound ⟨hookAddr, original.savedWord hookAddr⟩ stop)

/-- What happens between two worlds, as far as it concerns writes: all new pokes touch
one byte exactly if the child kept the tail at all its new stops. -/
def Balances (hookAddr : BitVec arch.width) (original : Tracee arch)
    (before after : World arch) : Prop :=
  ∃ entries stops, after.log = before.log ++ entries ∧ after.reports = before.reports ++ stops ∧
    ((∀ entry ∈ entries, entry.TouchesOnly hookAddr) ↔
      ∀ reported ∈ stops, reported.2.2.KeepsTail original hookAddr)

section Calls

variable {kernel : Kernel arch} {original tracee : Tracee arch} {hookAddr : BitVec arch.width}

theorem Balances.trans {first second third : World arch}
    (left : Balances hookAddr original first second)
    (right : Balances hookAddr original second third) : Balances hookAddr original first third := by
  obtain ⟨entries, stops, log, reports, same⟩ := left
  obtain ⟨moreEntries, moreStops, moreLog, moreReports, moreSame⟩ := right
  refine ⟨entries ++ moreEntries, stops ++ moreStops, ?_, ?_, ?_⟩
  · rw [moreLog, log, List.append_assoc]
  · rw [moreReports, reports, List.append_assoc]
  · rw [List.forall_mem_append, List.forall_mem_append, same, moreSame]

theorem Balances.returns {first second third : World arch}
    (left : Balances hookAddr original first second)
    (right : Returns hookAddr original second third) : Returns hookAddr original first third := by
  obtain ⟨_, stops, _, reports, _⟩ := left
  obtain ⟨more, report, stop, moreReports, child⟩ := right
  refine ⟨stops ++ more, report, stop, ?_, child⟩
  rw [moreReports, reports, List.append_assoc, List.append_assoc]

theorem createBreakpoint_balances {world : World arch} (live : world.child = .stopped original) :
    Triple kernel.answer (· = world) (createBreakpoint hookAddr)
      (fun breakpoint after => breakpoint = ⟨hookAddr, original.savedWord hookAddr⟩ ∧
        after.child = .stopped (original.armed hookAddr) ∧ Balances hookAddr original world after)
      (fun _ _ => True) := by
  refine Triple.bind _ (peektext_exact live trivial) fun word => Triple.given fun peeked => ?_
  subst peeked
  refine Triple.bind _ (poketext_exact live trivial) fun _ => Triple.pure fun after done => ?_
  subst done
  refine ⟨rfl, rfl, _, [], List.append_assoc .., (List.append_nil _).symm, ?_⟩
  simp only [List.not_mem_nil, false_implies, implies_true, iff_true]
  rintro entry (_ | ⟨_, _ | ⟨_, ⟨⟩⟩⟩)
  · exact touchesOnly_other nofun
  · rw [record_child, live]
    exact touchesOnly_arm

/-- A stop and the poke that answers it; what lies between them does not matter. -/
theorem Balances.of_stop {before after : World arch} (entries : List (Entry arch))
    {resume : Resume} {report : Report} {stop : Tracee arch}
    (quiet : ∀ entry ∈ entries, entry.TouchesOnly hookAddr) (memory : tracee.memory = stop.memory)
    (log : after.log = before.log ++ (entries ++
      [⟨.poketext hookAddr ((original.savedWord hookAddr).setWidth _), .stopped tracee, true⟩]))
    (reports : after.reports = before.reports ++ [(resume, report, stop)]) :
    Balances hookAddr original before after := by
  refine ⟨_, _, log, reports, ?_⟩
  have same : tracee.KeepsTail original hookAddr ↔ stop.KeepsTail original hookAddr := by
    rw [Tracee.KeepsTail, Tracee.KeepsTail, memory]
  rw [List.forall_mem_append, List.forall_mem_singleton, List.forall_mem_singleton,
    touchesOnly_restore_iff, same]
  exact and_iff_right quiet

private theorem stepPastBreakpoint_balances {world : World arch}
    (stopped : world.child = .stopped tracee) :
    Triple kernel.answer (· = world)
      (stepPastBreakpoint ⟨hookAddr, original.savedWord hookAddr⟩)
      (fun _ after => ∃ stepped, after.child = .stopped stepped ∧
        Balances hookAddr original world after) (fun _ _ => True) := by
  refine Triple.bind _ (singlestep_exact stopped trivial) fun _ => ?_
  refine Triple.bind _ (waitpid_exact rfl trivial trivial) fun report => ?_
  refine Triple.exists_pre fun stepped => Triple.given fun _ => ?_
  refine Triple.bind _ (Triple.exitIf_passed fun _ _ _ => trivial) fun _ => Triple.given fun going => ?_
  refine (poketext_exact (childAfter_stopped going stepped) trivial).weaken_post fun _ after done => ?_
  subst done
  refine ⟨_, rfl, Balances.of_stop
    [⟨.singlestep, .stopped tracee, true⟩, ⟨.waitpid, .running .singlestep tracee, true⟩] ?_ rfl ?_ rfl⟩
  · simp only [List.forall_mem_cons]
    exact ⟨touchesOnly_other nofun, touchesOnly_other nofun, nofun⟩
  · simp [stopped, childAfter_stopped going]

private theorem rewind_writes {world : World arch} (stopped : world.child = .stopped tracee)
    (breakpoint : Breakpoint arch) :
    Triple kernel.answer (· = world) (rewind breakpoint)
      (fun _ after => after.child = .stopped (breakpoint.rewound tracee) ∧
        after.reports = world.reports ∧
        after.log = world.log ++ [⟨.getregs, .stopped tracee, true⟩,
          ⟨.setregs (tracee.setIp (tracee.ip - 1)).regs, .stopped tracee, true⟩,
          ⟨.poketext breakpoint.hookAddr (breakpoint.oldWord.setWidth _),
            .stopped (tracee.setIp (tracee.ip - 1)), true⟩]) (fun _ _ => True) := by
  refine Triple.bind _ (getregs_exact stopped trivial) fun regs => Triple.given fun current => ?_
  subst current
  refine Triple.bind _ (setregs_exact stopped trivial) fun _ => ?_
  refine (poketext_exact rfl trivial).weaken_post fun _ after done => ?_
  subst done
  refine ⟨rfl, rfl, ?_⟩
  simp only [record_log, record_child, stopped, List.append_assoc, List.cons_append, List.nil_append]
  rfl

/-- The world in which `waitpid` has reported how a resumed child stopped. -/
def World.afterStop (world : World arch) (resumed : Tracee arch) (report : Report)
    (stop : Tracee arch) : World arch :=
  { world with
    log := world.log ++ [⟨.cont, .stopped resumed, true⟩, ⟨.waitpid, .running .cont resumed, true⟩]
    child := .stopped stop
    reports := world.reports ++ [(.cont, report, stop)] }

private theorem resumeUntilStop_balances {world : World arch}
    (stopped : world.child = .stopped tracee) :
    Triple kernel.answer (· = world) (resumeUntilStop ⟨hookAddr, original.savedWord hookAddr⟩)
      (fun _ after => ∃ middle resumed report stop, Balances hookAddr original world middle ∧
        after = World.afterStop middle resumed report stop) (fun _ _ => True) := by
  have read : Balances hookAddr original world (world.record .getregs true) :=
    ⟨[⟨.getregs, world.child, true⟩], [], rfl, (List.append_nil _).symm,
      iff_of_true (List.forall_mem_singleton.mpr (touchesOnly_other nofun)) nofun⟩
  have found : (world.record .getregs true).child = .stopped tracee := stopped
  refine Triple.bind _ (getregs_exact stopped trivial) fun regs => Triple.given fun _ => ?_
  refine Triple.bind (fun _ middle => ∃ resumed, middle.child = .stopped resumed ∧
    Balances hookAddr original world middle) ?_ fun _ => ?_
  · refine Triple.ite (fun _ => ?_) fun _ => Triple.pure fun middle same => ?_
    · refine (stepPastBreakpoint_balances found).weaken_post fun _ middle held => ?_
      obtain ⟨stepped, child, balances⟩ := held
      exact ⟨stepped, child, read.trans balances⟩
    · exact same ▸ ⟨tracee, found, read⟩
  · refine Triple.pointwise fun middle held => ?_
    obtain ⟨resumed, child, balances⟩ := held
    refine Triple.bind _ (cont_exact child trivial) fun _ => ?_
    refine Triple.bind _ (waitpid_exact rfl trivial trivial) fun report => ?_
    refine Triple.exists_pre fun stop => Triple.given fun _ => ?_
    refine Triple.exitIf (fun _ _ _ => trivial) fun going after done => ?_
    refine ⟨middle, resumed, report, stop, balances, ?_⟩
    rw [done, World.afterStop]
    simp [child, childAfter_stopped going]

private theorem executeUpToBreakpoint_balances {world : World arch}
    (stopped : world.child = .stopped tracee) :
    Triple kernel.answer (· = world)
      (executeUpToBreakpoint ⟨hookAddr, original.savedWord hookAddr⟩)
      (fun _ after => Balances hookAddr original world after ∧
        Returns hookAddr original world after) (fun _ _ => True) := by
  refine Triple.bind _ (resumeUntilStop_balances stopped) fun _ => ?_
  refine Triple.pointwise fun current held => ?_
  obtain ⟨middle, resumed, report, stop, balances, rfl⟩ := held
  refine (rewind_writes rfl _).weaken_post fun _ after done => ?_
  obtain ⟨child, reports, log⟩ := done
  refine ⟨balances.trans (Balances.of_stop [⟨.cont, .stopped resumed, true⟩,
    ⟨.waitpid, .running .cont resumed, true⟩, ⟨.getregs, .stopped stop, true⟩,
    ⟨.setregs (stop.setIp (stop.ip - 1)).regs, .stopped stop, true⟩] ?_
    (stop.setIp_memory (stop.ip - 1)) ?_ reports),
    balances.returns ⟨[], report, stop, reports, child⟩⟩
  · simp only [List.forall_mem_cons]
    exact ⟨touchesOnly_other nofun, touchesOnly_other nofun, touchesOnly_other nofun,
      touchesOnly_other nofun, nofun⟩
  · rw [log]
    simp [World.afterStop]

/-!
## Whole runs
-/

theorem executeTimes_balances {world : World arch} (stopped : world.child = .stopped tracee)
    (calls : Nat) :
    Triple kernel.answer (· = world)
      (executeTimes ⟨hookAddr, original.savedWord hookAddr⟩ (calls + 1))
      (fun _ after => Balances hookAddr original world after ∧
        Returns hookAddr original world after) (fun _ _ => True) := by
  induction calls generalizing world tracee with
  | zero =>
      refine Triple.bind _ (executeUpToBreakpoint_balances stopped) fun _ => ?_
      exact Triple.pure fun _ held => held
  | succ calls ih =>
      refine Triple.bind _ (executeUpToBreakpoint_balances stopped) fun _ => ?_
      refine Triple.pointwise fun middle held => ?_
      obtain ⟨balances, _, _, stop, _, child⟩ := held
      refine (ih child).weaken_post fun _ after later => ?_
      exact ⟨balances.trans later.1, balances.returns later.2⟩

end Calls

/-- A run of the breakpoint code loses no write of the child exactly if at every stop the
bytes behind the breakpoint, up to the end of the word, are those from before
it was armed. -/
theorem breakpointRun_losesNoWrite_iff (kernel : Kernel arch) {world after : World arch}
    {original : Tracee arch} (live : world.child = .stopped original) (hookAddr : BitVec arch.width)
    (calls : Nat)
    (ran : (breakpointRun hookAddr (calls + 1)).run kernel.answer world = (.ok (), after)) :
    LosesNoWrite hookAddr original world after ↔
      ∀ reported ∈ after.reports.drop world.reports.length,
        reported.2.2.KeepsTail original hookAddr := by
  have run : Triple kernel.answer (· = world) (breakpointRun hookAddr (calls + 1))
      (fun _ after => Balances hookAddr original world after ∧
        Returns hookAddr original world after) (fun _ _ => True) := by
    refine Triple.bind _ (createBreakpoint_balances live) fun breakpoint => Triple.given fun made => ?_
    subst made
    refine Triple.pointwise fun armed held => ?_
    refine (executeTimes_balances held.1 calls).weaken_post fun _ after later => ?_
    exact ⟨held.2.trans later.1, held.2.returns later.2⟩
  obtain ⟨⟨entries, stops, log, reports, same⟩, earlier, report, stop, last, child⟩ :=
    run.returned rfl ran
  obtain rfl : stops = earlier ++ [(.cont, report, stop)] :=
    List.append_cancel_left (reports.symm.trans last)
  have pokes : after.log.drop world.log.length = entries := by rw [log, List.drop_left]
  have news : after.reports.drop world.reports.length = earlier ++ [(.cont, report, stop)] := by
    rw [reports, List.drop_left]
  rw [news, ← same]
  constructor
  · intro loses
    rw [← pokes]
    exact loses.pokes
  · intro touches
    refine ⟨by rwa [pokes], .cont, report, stop, _, ?_, child, restore_memory original _ hookAddr, ?_⟩
    · rw [reports, ← List.append_assoc, List.getLast?_concat]
    · have kept : stop.KeepsTail original hookAddr := same.mp touches (.cont, report, stop) (by simp)
      exact restore_touches_iff.mpr kept

/-- The child writes one byte on its way to the breakpoint. -/
def patchedStop (written : BitVec Arch.x86_64.width) (tracee : Tracee .x86_64) : Tracee .x86_64 :=
  { tracee.setIp (nopHook + 1) with
    memory := fun location => if location = written then 0x42 else tracee.memory location }

def patchingKernel (written : BitVec Arch.x86_64.width) : Kernel .x86_64 :=
  { trappingKernel with
    report := fun _ _ tracee => some (.stopped sigtrap, patchedStop written tracee) }

/-- The first byte behind the word is `0x42` when the call has returned. -/
theorem breakpointRun_losesNoWrite_beyond :
    ∃ after last,
      (breakpointRun nopHook 1).run (patchingKernel (nopHook + 8)).answer nopWorld =
        (.ok (), after) ∧
      after.child = .stopped last ∧ last.memory (nopHook + 8) = 0x42 ∧ last.memory nopHook = 0x90 ∧
      LosesNoWrite nopHook nopTracee nopWorld after := by
  obtain ⟨after, stop, last, ran, reports, shape, child, kept, freed⟩ : ∃ after stop last,
      (breakpointRun nopHook 1).run (patchingKernel (nopHook + 8)).answer nopWorld =
        (.ok (), after) ∧
      after.reports = [(.cont, .stopped sigtrap, stop)] ∧
      stop = patchedStop (nopHook + 8) (nopTracee.armed nopHook) ∧
      after.child = .stopped last ∧ last.memory (nopHook + 8) = 0x42 ∧
      last.memory nopHook = 0x90 :=
    ⟨_, _, _, rfl, rfl, rfl, rfl, rfl, rfl⟩
  refine ⟨after, last, ran, child, kept, freed, ?_⟩
  refine (breakpointRun_losesNoWrite_iff (patchingKernel (nopHook + 8)) rfl nopHook 0 ran).mpr
    fun reported member => ?_
  have listed : reported ∈ after.reports := List.mem_of_mem_drop member
  rw [reports, List.mem_singleton] at listed
  subst listed
  subst shape
  intro location other near
  have inside : location ≠ nopHook + 8 := by
    rintro rfl
    revert near
    decide
  have armed := nopTracee.armed_memory nopHook location
  rw [if_neg other] at armed
  change (if location = nopHook + 8 then 0x42 else (nopTracee.armed nopHook).memory location) = _
  rw [if_neg inside, armed]

/-- A byte inside the word is `0x42` when the child stops and `0x90` again when the call has
returned. -/
theorem breakpointRun_loses_write :
    ∃ after stop last,
      (breakpointRun nopHook 1).run (patchingKernel (nopHook + 1)).answer nopWorld =
        (.ok (), after) ∧
      after.reports = [(.cont, .stopped sigtrap, stop)] ∧ stop.memory (nopHook + 1) = 0x42 ∧
      after.child = .stopped last ∧ last.memory (nopHook + 1) = 0x90 ∧
      ¬ LosesNoWrite nopHook nopTracee nopWorld after := by
  obtain ⟨after, stop, last, ran, reports, wrote, child, lost⟩ : ∃ after stop last,
      (breakpointRun nopHook 1).run (patchingKernel (nopHook + 1)).answer nopWorld =
        (.ok (), after) ∧
      after.reports = [(.cont, .stopped sigtrap, stop)] ∧ stop.memory (nopHook + 1) = 0x42 ∧
      after.child = .stopped last ∧ last.memory (nopHook + 1) = 0x90 :=
    ⟨_, _, _, rfl, rfl, rfl, rfl, rfl⟩
  refine ⟨after, stop, last, ran, reports, wrote, child, lost, fun loses => ?_⟩
  obtain ⟨resume, report, stop', last', reported, found, _, kept⟩ := loses.returned
  rw [reports] at reported
  obtain rfl : last = last' := Child.stopped.inj (child.symm.trans found)
  cases reported
  have byte := kept (nopHook + 1) (by decide)
  rw [lost, wrote] at byte
  cases byte

end ProcessBridge.Snapshotter
