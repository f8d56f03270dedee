import ProcessBridge.Snapshotter.MainRuns
import ProcessBridge.Snapshotter.Transparency

/-! The state that a whole run of `main` captures, seen from the program it traces. The
child is an arbitrary deterministic machine, as for a single breakpoint; the
log of the run says where the breakpoint was set and in which state. -/

set_option autoImplicit false

namespace ProcessBridge.Snapshotter

open Library Common Program

variable {arch : Arch} {kernel : Kernel arch} {world after : World arch} {tracee : Tracee arch}

/-!
## One breakpoint
-/

/-- The child was resumed as it was found, and a stop was reported. -/
theorem resumeUntilStop_reported {breakpoint : Breakpoint arch}
    (live : world.child = .stopped tracee) (away : tracee.ip ≠ breakpoint.hookAddr) :
    Triple kernel.answer (· = world) (resumeUntilStop breakpoint)
      (fun _ middle => ∃ count report stop,
        kernel.report count .cont tracee = some (report, stop) ∧ middle.child = .stopped stop)
      (fun _ _ => True) := by
  have elsewhere : ¬ arch.ip tracee.regs = breakpoint.hookAddr := away
  have kept : (world.record .getregs true).child = .stopped tracee := live
  refine Triple.bind _ (getregs_exact live trivial) fun regs => Triple.given fun current => ?_
  subst current
  rw [if_neg elsewhere]
  refine Triple.bind (fun _ after => after = world.record .getregs true)
    (Triple.pure fun _ same => same) fun _ => ?_
  refine Triple.bind _ (cont_exact kept trivial) fun _ => ?_
  refine Triple.bind _ (waitpid_exact rfl trivial trivial) fun report => ?_
  refine Triple.exists_pre fun stop => Triple.given fun reported => ?_
  refine Triple.exitIf (fun _ _ _ => trivial) fun going middle same => ?_
  refine ⟨_, report, stop, reported, ?_⟩
  rw [same, childAfter_stopped going]

private theorem executeUpToBreakpoint_reported {breakpoint : Breakpoint arch}
    (live : world.child = .stopped tracee) (away : tracee.ip ≠ breakpoint.hookAddr)
    (ran : (executeUpToBreakpoint breakpoint).run kernel.answer world = (.ok (), after)) :
    ∃ count report stop, kernel.report count .cont tracee = some (report, stop) ∧
      after.child = .stopped (breakpoint.rewound stop) := by
  obtain ⟨_, middle, resumed, rewinds⟩ := run_bind_ok_iff.mp ran
  obtain ⟨count, report, stop, reported, stopped⟩ :=
    (resumeUntilStop_reported live away).returned rfl resumed
  have shown : middle.Shows (.stopped stop) (contChildren middle.log) middle.reports :=
    ⟨stopped, rfl, rfl⟩
  exact ⟨count, report, stop, reported,
    ((rewind_triple False breakpoint).returned shown rewinds).child⟩

/-- The calls of a log that look at the child's text, and what they found. -/
def peeks (log : List (Entry arch)) : List (BitVec arch.width × Child arch) :=
  log.filterMap fun entry =>
    match entry.call with
    | .peektext address => some (address, entry.child)
    | _ => none

private theorem peeks_append (left right : List (Entry arch)) :
    peeks (left ++ right) = peeks left ++ peeks right := List.filterMap_append

def Call.peeks : Call arch → Bool
  | .peektext _ => true
  | _ => false

private theorem peeks_none {log : List (Entry arch)}
    (none : ∀ entry ∈ log, entry.call.peeks = false) :
    peeks log = [] := by
  refine List.filterMap_eq_nil_iff.mpr fun entry member => ?_
  have other := none entry member
  obtain ⟨op, child, succeeded⟩ := entry
  cases op with
  | peektext => cases other
  | _ => rfl

/-- Setting a breakpoint looks at its place once, at the child as it is. -/
theorem createBreakpoint_peeks (hookAddr : BitVec arch.width) (live : world.child = .stopped tracee) :
    Triple kernel.answer (· = world) (createBreakpoint hookAddr)
      (fun breakpoint after => breakpoint = ⟨hookAddr, tracee.savedWord hookAddr⟩ ∧
        after.child = .stopped (tracee.armed hookAddr) ∧
        peeks after.log = peeks world.log ++ [(hookAddr, .stopped tracee)]) (fun _ _ => True) := by
  have kept : (world.record (.peektext hookAddr) true).child = .stopped tracee := live
  refine Triple.bind _ (peektext_exact live trivial) fun word => Triple.given fun peeked => ?_
  subst peeked
  refine Triple.bind _ (poketext_exact kept trivial) fun _ => Triple.pure ?_
  rintro after rfl
  refine ⟨rfl, rfl, ?_⟩
  simp [peeks, live]

/-!
## The whole run
-/

private theorem run_peeks {α : Type} {program : Sys arch α}
    (uses : program.Uses fun op => op.peeks = false) (kernel : Kernel arch) (world : World arch) :
    peeks (program.run kernel.answer world).2.log = peeks world.log := by
  obtain ⟨calls, log, none⟩ := Uses.run_log uses kernel world
  rw [log, peeks_append, peeks_none none, List.append_nil]

/-- The log says where the breakpoint is and in which state the child was when it was
set; unless it stood there already, the captured child was resumed from there. -/
theorem reachBreakpoint_peeks {stale : MapsEntry} {addr : BitVec arch.width} {pid : Nat}
    (shown : world.Shows .absent [] []) (fresh : peeks world.log = [])
    (ran : (reachBreakpoint stale addr).run kernel.answer world = (.ok pid, after)) :
    ∃ hookAddr start captured, peeks after.log = [(hookAddr, .stopped start)] ∧
      after.child = .stopped captured ∧
      (start.ip ≠ hookAddr → ∃ count report stop,
        kernel.report count .cont (start.armed hookAddr) = some (report, stop) ∧
        captured = Breakpoint.rewound ⟨hookAddr, start.savedWord hookAddr⟩ stop) := by
  have driving : ∀ op : Call arch, op.drives = true → op.peeks = false := by
    intro op drives
    cases op with
    | _ => first | rfl | cases drives
  have locating : ∀ op : Call arch, op.locates = true → op.peeks = false := by
    intro op locates
    cases op with
    | _ => first | rfl | cases locates
  obtain ⟨child, forked, forks, ran⟩ := run_bind_ok_iff.mp ran
  obtain ⟨imageBase, located, locates, ran⟩ := run_bind_ok_iff.mp ran
  generalize imageBase.setWidth arch.width + addr = hookAddr at ran
  obtain ⟨breakpoint, armed, arms, ran⟩ := run_bind_ok_iff.mp ran
  obtain ⟨_, reached, executes, last⟩ := run_bind_ok_iff.mp ran
  cases last
  -- the child of the first stop is still there when the breakpoint is set
  have forkTriple := forkChild_triple kernel fun _ _ _ _ _ _ => trivial
  obtain ⟨_, first, start, stands⟩ := forkTriple.returned shown forks
  have aside := Uses.aside (getImageBase_uses (fun _ => locates_aside) stale pid) kernel forked
  have forkPeeks := run_peeks (forkChild_uses (driving _ rfl) (driving _ rfl)) kernel world
  have locatePeeks := run_peeks (getImageBase_uses locating stale pid) kernel forked
  have executePeeks := run_peeks (executeUpToBreakpoint_uses driving breakpoint) kernel armed
  rw [forks] at forkPeeks
  rw [locates] at aside locatePeeks
  rw [executes] at executePeeks
  have live : located.child = .stopped start := aside.child.trans stands.child
  obtain ⟨rfl, armedChild, armPeeks⟩ := (createBreakpoint_peeks _ live).returned rfl arms
  have before : peeks located.log = [] := locatePeeks.trans (forkPeeks.trans fresh)
  have listed : peeks after.log = [(hookAddr, .stopped start)] := by
    calc peeks after.log
        = peeks located.log ++ [(hookAddr, .stopped start)] := executePeeks.trans armPeeks
      _ = [(hookAddr, .stopped start)] := by rw [before, List.nil_append]
  by_cases away : start.ip = hookAddr
  · have stands : armed.Shows (.stopped (start.armed _)) (contChildren armed.log) armed.reports :=
      ⟨armedChild, rfl, rfl⟩
    obtain ⟨_, _, _, _, stop, _, _, atHook⟩ :=
      (executeUpToBreakpoint_triple False _).returned stands executes
    exact ⟨_, start, _, listed, atHook.child, fun elsewhere => absurd away elsewhere⟩
  · have elsewhere : (start.armed hookAddr).ip ≠
        (⟨hookAddr, start.savedWord hookAddr⟩ : Breakpoint arch).hookAddr := away
    obtain ⟨count, report, stop, reported, captured⟩ :=
      executeUpToBreakpoint_reported armedChild elsewhere executes
    exact ⟨_, start, _, listed, captured, fun _ => ⟨count, report, stop, reported, rfl⟩⟩

/-- The child of the undisturbed run at its first arrival is what is captured. -/
theorem captured_undisturbed {machine : Machine arch} {hookAddr : BitVec arch.width}
    (follows : kernel.Follows machine) (ignores : machine.Ignores hookAddr) {start arrived : Tracee arch}
    {steps : Nat} (runs : machine.Runs hookAddr start steps arrived) (here : arrived.ip = hookAddr)
    {count : Nat} {report : Report} {stop : Tracee arch}
    (reported : kernel.report count .cont (start.armed hookAddr) = some (report, stop)) :
    Breakpoint.rewound ⟨hookAddr, start.savedWord hookAddr⟩ stop = arrived := by
  obtain ⟨executes, word⟩ := runs_armed ignores runs
  have trapped : (arrived.armed hookAddr).memory (arrived.armed hookAddr).ip = 0xCC := by
    have counter : (arrived.armed hookAddr).ip = hookAddr := here
    rw [counter, Tracee.armed_memory, if_pos rfl]
  cases reported.symm.trans (follows.traps count _ _ executes trapped)
  exact rewound_trap word

theorem run_killChild (cooperates : kernel.Cooperates)
    (stopped : world.child = .stopped tracee) :
    ∃ after, killChild.run kernel.answer world = (.ok (), after) ∧ after.output = world.output := by
  have granted : ∀ count op, ¬ kernel.fails count op = true := by
    intro count op refused
    rw [cooperates] at refused
    cases refused
  have returns : Triple kernel.answer (fun world => world.child = .stopped tracee) killChild
      (fun _ _ => True) (fun _ _ => False) := by
    refine Triple.bind (fun _ world => world.child = .dead) (Triple.attempt
      (fun _ _ refused => absurd refused (granted _ _)) fun world stopped => ?_) fun _ => ?_
    · have alive : (world.record .kill true).child.alive = true := by
        rw [record_child, stopped]
        rfl
      simp only [Kernel.perform, alive, if_true]
    · refine Triple.bind (fun waited _ => waited ≠ Waited.blocked) (Triple.attempt
        (fun _ _ refused => absurd refused (granted _ _)) fun world dead => ?_) fun waited => ?_
      · have kept : (world.record .waitpid true).child = .dead := dead
        rw [perform_waitpid_dead kernel _ kept]
        exact Waited.noConfusion
      · cases waited with
        | blocked => exact Triple.exit fun _ impossible => impossible rfl
        | failed => exact Triple.pure fun _ _ => trivial
        | report report => exact Triple.pure fun _ _ => trivial
  have ended := returns world stopped
  have frame := (killChild_frame kernel stopped).2
  rcases result : killChild.run kernel.answer world with ⟨code | value, after⟩
  · rw [result] at ended
    exact ended.elim
  · rw [result] at frame
    exact ⟨after, rfl, frame⟩

section Target

variable (platform : Platform) {kernel : Kernel platform.arch} (locals : Locals)

theorem runTarget_run {addr : BitVec platform.arch.width}
    {world middle fetched dumped final : World platform.arch} {pid : Nat}
    {snapshot : platform.ProcessState}
    (reached : (reachBreakpoint locals.imageEntry addr).run kernel.answer world = (.ok pid, middle))
    (captured : (createSnapshot locals.tls platform).run kernel.answer middle =
      (.ok snapshot, fetched))
    (dumps : (dumpSnapshot locals.dumpEntry locals.buffer (platform.bytes snapshot) pid).run
      kernel.answer fetched = (.ok (), dumped))
    (kills : killChild.run kernel.answer dumped = (.ok (), final)) :
    (runTarget platform locals addr).run kernel.answer world = (.ok (), final) := by
  have dumpsAll : (captureAndDump platform locals.tls locals.dumpEntry locals.buffer pid).run
      kernel.answer middle = (.ok snapshot, dumped) := by
    rw [captureAndDump, run_bind_ok captured, run_bind_ok dumps]
    rfl
  rw [runTarget_eq, run_bind_ok reached, run_bind_ok dumpsAll, kills]

theorem main_run {name offset child : List Byte} {rest : List (List Byte)} {addr : BitVec 64}
    {final : World platform.arch} (parsed : parseOffset offset = some addr)
    (granted : kernel.fails 0 .malloc = false)
    (target : (runTarget platform locals (addr.setWidth _)).run kernel.answer
      ((World.initial _).record .malloc true) = (.ok (), final)) :
    (main platform locals (name :: offset :: child :: rest)).run kernel.answer (.initial _) =
      (.ok .success, final) := by
  have mallocs : (ensure (call .malloc) "malloc for child argv failed").run kernel.answer
      (.initial _) = (.ok (), (World.initial platform.arch).record .malloc true) :=
    run_ensure_ok _ (run_granted granted)
  simp only [main, parsed]
  rw [run_bind_ok mallocs, run_bind_ok target]
  rfl

/-- Nobody looks at the child's text after the breakpoint. -/
theorem runTarget_peeks {addr : BitVec platform.arch.width} {world middle final : World platform.arch}
    {pid : Nat}
    (reached : (reachBreakpoint locals.imageEntry addr).run kernel.answer world = (.ok pid, middle))
    (ran : (runTarget platform locals addr).run kernel.answer world = (.ok (), final)) :
    peeks final.log = peeks middle.log := by
  rw [runTarget_eq, run_bind_ok reached] at ran
  have uses : (captureAndDump platform locals.tls locals.dumpEntry locals.buffer pid >>=
      fun _ => killChild).Uses fun op => op.peeks = false := by
    refine Uses.bind ((captureAndDump_uses _ _ _ _ _).imp ?_) fun _ => killChild_uses.imp ?_
    · intro op aside
      cases op with
      | _ => first | rfl | cases aside
    · rintro op (rfl | rfl)
      · rfl
      · rfl
  have kept := run_peeks uses kernel middle
  rwa [ran] at kept

variable {platform locals} in
/-- A complete snapshot holds the child as it would have been at its first arrival at the
breakpoint, had nobody traced it. -/
theorem main_undisturbed {argv : List (List Byte)} {final : World platform.arch}
    (small : kernel.pid < 2 ^ 31)
    (ran : (main platform locals argv).run kernel.answer (.initial platform.arch) =
      (.ok .success, final)) {machine : Machine platform.arch}
    {hookAddr : BitVec platform.arch.width} {start arrived : Tracee platform.arch} {steps : Nat}
    (armed : (hookAddr, Child.stopped start) ∈ peeks final.log)
    (follows : kernel.Follows machine) (ignores : machine.Ignores hookAddr)
    (away : start.ip ≠ hookAddr) (runs : machine.Runs hookAddr start steps arrived)
    (here : arrived.ip = hookAddr) :
    ∃ snapshot opened lines, platform.regs snapshot = arrived.regs ∧ final.OpensAt opened ∧
      Written kernel arrived locals.dumpEntry (platform.bytes snapshot) final.output opened
        lines := by
  obtain ⟨offset, addr, _, _, target⟩ := main_target ran
  have fresh : ((World.initial platform.arch).record .malloc true).Shows .absent [] [] :=
    ⟨rfl, rfl, rfl⟩
  obtain ⟨middle, captured, snapshot, opened, lines, reached, stopped, _, regs, opens, written⟩ :=
    runTarget_complete small fresh target
  obtain ⟨hook, first, found, listed, child, resumed⟩ := reachBreakpoint_peeks fresh rfl reached
  rw [runTarget_peeks _ locals reached target, listed, List.mem_singleton, Prod.mk.injEq, Child.stopped.injEq] at armed
  obtain ⟨rfl, rfl⟩ := armed
  obtain ⟨number, report, stop, reported, rewound⟩ := resumed away
  cases child.symm.trans stopped
  rw [captured_undisturbed follows ignores runs here reported] at rewound
  subst rewound
  exact ⟨snapshot, opened, lines, regs, opens, written⟩

end Target

end ProcessBridge.Snapshotter
