import ProcessBridge.Snapshotter.BreakpointRuns
import ProcessBridge.Snapshotter.Snapshot
import ProcessBridge.Snapshotter.SnapshotDumpProperties

/-! Runs from the start of the child to the written snapshot: where the child stands
when its state is captured, and which stop brought it there. -/

set_option autoImplicit false

namespace ProcessBridge.Snapshotter

open Library Common Program

/-!
## Capturing the state
-/

section Capture

variable {conts : List (Child .i386)} {reports : List (Resume × Report × Tracee .i386)}
  {tracee : Tracee .i386} {kernel : Kernel .i386}

theorem getThreadArea_triple (index : Nat) {exits : Exit → World .i386 → Prop} :
    Triple kernel.answer (·.Shows (.stopped tracee) conts reports) (call (.getThreadArea index))
      (fun answer world => ∃ (before : World .i386) (succeeded : Bool),
        world = before.record (.getThreadArea index) succeeded ∧
        before.Shows (.stopped tracee) conts reports ∧ (answer = none → succeeded = false))
      exits := by
  refine Triple.call (fun world shown => ⟨world, false, rfl, shown, fun _ => rfl⟩) fun world shown => ?_
  have kept : (world.record (.getThreadArea index) true).child = .stopped tracee := shown.child
  have performed : kernel.perform world.log.length (.getThreadArea index)
      (world.record (.getThreadArea index) true) =
        (some (kernel.threadArea world.log.length index),
          world.record (.getThreadArea index) true) := by
    simp only [Kernel.perform, Kernel.onStopped, kept]
    rfl
  rw [performed]
  exact ⟨world, true, rfl, shown, fun absurd => by cases absurd⟩

theorem fillTls_triple (unusable : Prop) (gdtEntryTlsMin : Nat) {indices : List Nat}
    (required : ∀ index ∈ indices, index ≠ 6) (tls : Tls) :
    Triple kernel.answer (·.Shows (.stopped tracee) conts reports)
      (fillTls gdtEntryTlsMin indices tls)
      (fun _ world => world.Shows (.stopped tracee) conts reports) (Accounted unusable) := by
  induction indices generalizing tls with
  | nil => exact Triple.pure fun world shown => shown
  | cons index rest ih =>
      obtain ⟨first, others⟩ := List.forall_mem_cons.mp required
      refine Triple.bind (fun _ world => world.Shows (.stopped tracee) conts reports)
        (Triple.required ((getThreadArea_triple index).weaken_post ?_)) fun desc => ih others _
      intro answer world given
      obtain ⟨before, succeeded, rfl, shown, failed⟩ := given
      cases answer with
      | some desc => exact shown.record rfl
      | none =>
          obtain rfl := failed rfl
          exact Shows.accounted_refused shown rfl (by simpa [Call.tolerated] using first)

end Capture

theorem createSnapshot_triple (unusable : Prop) (uninitialised : Tls) (platform : Platform)
    (kernel : Kernel platform.arch) {tracee : Tracee platform.arch}
    {conts : List (Child platform.arch)}
    {reports : List (Resume × Report × Tracee platform.arch)} :
    Triple kernel.answer (·.Shows (.stopped tracee) conts reports)
      (createSnapshot uninitialised platform)
      (fun state world => platform.regs state = tracee.regs ∧
        world.Shows (.stopped tracee) conts reports) (Accounted unusable) := by
  cases platform with
  | x86_64 =>
      refine Triple.bind _ (getregs_triple fun world shown =>
        Shows.accounted_refused shown rfl rfl) fun regs => ?_
      refine Triple.given fun current => ?_
      exact Triple.pure fun world shown => ⟨current, shown⟩
  | i386 =>
      refine Triple.bind _ (getregs_triple fun world shown =>
        Shows.accounted_refused shown rfl rfl) fun regs => ?_
      refine Triple.given fun current => ?_
      refine Triple.bind (fun _ world => world.Shows (.stopped tracee) conts reports) ?_ fun tls =>
        Triple.pure fun world shown => ⟨current, shown⟩
      refine Triple.bind (fun _ world => world.Shows (.stopped tracee) conts reports)
        ((getThreadArea_triple _).weaken_post ?_) fun answer => ?_
      · intro answer world given
        obtain ⟨before, succeeded, rfl, shown, _⟩ := given
        exact shown.record rfl
      · cases answer with
        | some desc => exact fillTls_triple unusable _ (by decide) _
        | none => exact fillTls_triple unusable _ (by decide) _

/-!
## Up to the stop
-/

section Runs

variable {arch : Arch}

/-- Everything before the child is rewound. -/
def runToStop (hookAddr : BitVec arch.width) : Sys arch (Nat × Breakpoint arch) := do
  let pid ← forkChild
  let breakpoint ← createBreakpoint hookAddr
  resumeUntilStop breakpoint
  pure (pid, breakpoint)

def runToBreakpoint (hookAddr : BitVec arch.width) : Sys arch (Nat × Breakpoint arch) := do
  let pid ← forkChild
  let breakpoint ← createBreakpoint hookAddr
  executeUpToBreakpoint breakpoint
  pure (pid, breakpoint)

theorem runToBreakpoint_eq (hookAddr : BitVec arch.width) :
    runToBreakpoint hookAddr = (do
      let result ← runToStop hookAddr
      rewind result.2
      pure result) := by
  simp only [runToBreakpoint, runToStop, executeUpToBreakpoint, bind_assoc, pure_bind]

private theorem waitpid_reported (kernel : Kernel arch) (resume : Resume) (tracee : Tracee arch)
    (message : String) :
    Triple kernel.answer (fun world => world.child = .running resume tracee) (waitpid message)
      (fun report _ => ∃ count after, kernel.report count resume tracee = some (report, after))
      (fun _ _ => True) := by
  refine Triple.bind (fun waited _ => ∀ report, waited = Waited.report report →
    ∃ count after, kernel.report count resume tracee = some (report, after))
    (Triple.call (fun _ _ _ absurd => by cases absurd) fun world going => ?_) fun waited => ?_
  · have kept : (world.record .waitpid true).child = .running resume tracee := going
    rw [perform_waitpid kernel _ kept]
    cases reported : kernel.report world.log.length resume tracee with
    | none => exact fun _ absurd => by cases absurd
    | some answer =>
        rintro report same
        cases same
        exact ⟨_, _, reported⟩
  · cases waited with
    | failed => exact Triple.exit fun _ _ => trivial
    | blocked => exact Triple.exit fun _ _ => trivial
    | report report => exact Triple.pure fun _ found => found report rfl

/-- `fork_child` returns with the child stopped; otherwise the child is gone, or a call
has failed, or `waitpid` has reported something that is neither a stop nor an end. -/
theorem forkChild_triple {unusable : Prop} (kernel : Kernel arch)
    (unexpected : ∀ count resume tracee status after,
      kernel.report count resume tracee = some (.other status, after) → unusable) :
    Triple kernel.answer (·.Shows .absent [] []) forkChild
      (fun pid world => pid = kernel.pid ∧
        ∃ report tracee, world.Shows (.stopped tracee) [] [(.exec, report, tracee)])
      (Accounted unusable) := by
  refine Triple.bind (fun pid world => pid = kernel.pid ∧
      world.Shows (.running .exec kernel.image) [] [])
    (Triple.required (Triple.call (fun world shown => ?_) fun world shown => ?_)) fun pid => ?_
  · exact .inr (.inl (by rw [record_child, shown.child]; rfl))
  · have kept : (world.record .fork true).Shows _ _ _ := shown.record rfl
    exact ⟨rfl, rfl, kept.conts, kept.reports⟩
  refine Triple.given fun same => ?_
  have waits : Triple kernel.answer (·.Shows (.running .exec kernel.image) [] [])
      (waitpid "waitpid(%d) failed")
      (fun report world => ∃ after, world.Shows (Kernel.childAfter report after) []
        ([] ++ [(.exec, report, after)])) (Accounted unusable) :=
    waitpid_triple (fun world shown => Shows.accounted_refused shown rfl rfl) fun _ _ => .inl rfl
  have reported : Triple kernel.answer (·.Shows (.running .exec kernel.image) [] [])
      (waitpid "waitpid(%d) failed")
      (fun report world => (∃ after, world.Shows (Kernel.childAfter report after) []
          ([] ++ [(.exec, report, after)])) ∧
        ∃ count after, kernel.report count .exec kernel.image = some (report, after))
      (Accounted unusable) := by
    refine ((waits.and (waitpid_reported kernel .exec kernel.image _)).weaken ?_).strengthen
      (fun _ _ holds => holds) fun _ _ left => left.1
    exact fun world shown => ⟨shown, shown.child⟩
  refine Triple.bind _ reported fun report => ?_
  cases report with
  | exited status =>
      exact Triple.exit fun world ⟨⟨_, shown⟩, _⟩ => .inr (.inl (by rw [shown.child]; rfl))
  | signaled signal =>
      exact Triple.exit fun world ⟨⟨_, shown⟩, _⟩ => .inr (.inl (by rw [shown.child]; rfl))
  | other status =>
      exact Triple.exit fun world ⟨_, _, _, found⟩ =>
        .inr (.inr (.inr (unexpected _ _ _ _ _ found)))
  | stopped signal =>
      exact Triple.pure fun world ⟨⟨tracee, shown⟩, _⟩ => ⟨same, _, tracee, shown⟩

/-- The child stands at a stop that was reported after `PTRACE_CONT`. -/
def AtStop (stop : Tracee arch) (world : World arch) : Prop :=
  (∃ report : Report, report.isEnd = false ∧ (.cont, report, stop) ∈ world.reports) ∧
    ∃ conts reports, world.Shows (.stopped stop) conts reports

theorem runToStop_triple (kernel : Kernel arch) (hookAddr : BitVec arch.width) :
    Triple kernel.answer (·.Shows .absent [] []) (runToStop hookAddr)
      (fun _ world => ∃ stop, AtStop stop world) (fun _ _ => True) := by
  refine Triple.bind _ ((forkChild_triple kernel fun _ _ _ _ _ _ => trivial).strengthen
    (fun _ _ holds => holds) fun _ _ _ => trivial) fun pid => Triple.given fun _ => ?_
  refine Triple.exists_pre fun first => Triple.exists_pre fun tracee => ?_
  refine Triple.bind _ ((createBreakpoint_triple False hookAddr).strengthen
    (fun _ _ holds => holds) fun _ _ _ => trivial) fun breakpoint => ?_
  refine Triple.given fun made => ?_
  refine Triple.bind _ ((resumeUntilStop_triple False breakpoint).strengthen
    (fun _ _ holds => holds) fun _ _ _ => trivial) fun _ => ?_
  refine Triple.pure ?_
  intro world given
  obtain ⟨resumed, _, steps, report, stop, _, going, shown⟩ := given
  exact ⟨stop, ⟨report, going, by rw [shown.reports]; simp⟩, _, _, shown⟩

/-- Calls that move the child's instruction pointer or write a snapshot. -/
def Call.marks : Call arch → Bool
  | .setregs _ | .openSnapshot | .write _ => true
  | _ => false

/-- Up to the stop nothing is rewound and nothing is written. -/
theorem runToStop_uses (hookAddr : BitVec arch.width) :
    (runToStop hookAddr).Uses fun op => op.marks = false := by
  have plain : ∀ op : Call arch, op.marks = false →
      (call op).Uses fun op => op.marks = false := fun _ marked => Uses.call marked
  have waits : ∀ message, (waitpid message : Sys arch Report).Uses fun op => op.marks = false := by
    intro message
    refine Uses.waitpid ?_ message
    rfl
  have stepping : ∀ breakpoint : Breakpoint arch,
      (stepPastBreakpoint breakpoint).Uses fun op => op.marks = false := fun breakpoint =>
    (Uses.ensure (plain _ rfl) _).bind fun _ => (waits _).bind fun _ =>
      (Uses.exitIf _ _).bind fun _ => Uses.ensure (plain _ rfl) _
  refine Uses.bind ?_ fun pid => Uses.bind ?_ fun breakpoint => Uses.bind ?_ fun _ => .pure _
  · refine (Uses.required (plain .fork rfl) _).bind fun pid => (waits _).bind fun report => ?_
    cases report with
    | stopped signal => exact .pure pid
    | exited status => exact .exit _
    | signaled signal => exact .exit _
    | other status => exact .exit _
  · exact (Uses.required (plain (.peektext hookAddr) rfl) _).bind fun word =>
      (Uses.ensure (plain _ rfl) _).bind fun _ => .pure _
  · exact (Uses.required (plain .getregs rfl) _).bind fun regs =>
      (Uses.ite (stepping breakpoint) (.pure ())).bind fun _ =>
      (Uses.ensure (plain _ rfl) _).bind fun _ => (waits _).bind fun _ =>
        Uses.exitIf _ _

def World.Unmarked (world : World arch) : Prop := ∀ entry ∈ world.log, entry.call.marks = false

private theorem unmarked_answer (kernel : Kernel arch) (op : Call arch) (world : World arch)
    (plain : op.marks = false) (unmarked : world.Unmarked) :
    (kernel.answer op world).2.Unmarked := by
  obtain ⟨succeeded, log⟩ := kernel.answer_log op world
  intro entry member
  rw [log, List.mem_append, List.mem_singleton] at member
  rcases member with old | rfl
  · exact unmarked entry old
  · exact plain

private theorem runToStop_initial (kernel : Kernel arch) (hookAddr : BitVec arch.width) :
    match (runToStop hookAddr).run kernel.answer (.initial arch) with
    | (.ok _, world) => ∃ stop, AtStop stop world
    | (.error _, world) => world.Unmarked := by
  have fresh : (World.initial arch).Shows .absent [] [] := ⟨rfl, rfl, rfl⟩
  have clean : (World.initial arch).Unmarked := by simp [World.Unmarked, World.initial]
  have ends := (runToStop_triple kernel hookAddr).and
    ((runToStop_uses hookAddr).preserves kernel.answer World.Unmarked (unmarked_answer kernel))
    (.initial arch) ⟨fresh, clean⟩
  rcases result : (runToStop hookAddr).run kernel.answer (.initial arch) with ⟨code | value, world⟩
  · rw [result] at ends
    exact ends.2
  · rw [result] at ends
    exact ends.1

private theorem rewind_atStop (kernel : Kernel arch) (breakpoint : Breakpoint arch)
    (stop : Tracee arch) :
    Triple kernel.answer (AtStop stop) (rewind breakpoint)
      (fun _ world => ∃ conts reports, world.Shows (.stopped (breakpoint.rewound stop)) conts reports)
      (fun _ _ => True) := by
  intro world given
  obtain ⟨_, conts, reports, shown⟩ := given
  exact (rewind_triple False breakpoint).strengthen (fun _ _ shown => ⟨conts, reports, shown⟩)
    (fun _ _ _ => trivial) world shown

end Runs

/-!
## The whole run
-/

section Snapshot

/-- From the start of the child to the written snapshot. -/
def takeSnapshot (platform : Platform) (uninitialised : Tls) (stale : MapsEntry)
    (buffer : Buffer) (hookAddr : BitVec platform.arch.width) : Sys platform.arch platform.ProcessState := do
  let pid ← forkChild
  let breakpoint ← createBreakpoint hookAddr
  executeUpToBreakpoint breakpoint
  let snapshot ← createSnapshot uninitialised platform
  dumpSnapshot stale buffer (platform.bytes snapshot) pid
  pure snapshot

def captureAndDump (platform : Platform) (uninitialised : Tls) (stale : MapsEntry)
    (buffer : Buffer) (pid : Nat) : Sys platform.arch platform.ProcessState := do
  let snapshot ← createSnapshot uninitialised platform
  dumpSnapshot stale buffer (platform.bytes snapshot) pid
  pure snapshot

variable {platform : Platform} (uninitialised : Tls) (stale : MapsEntry) (buffer : Buffer)
  (hookAddr : BitVec platform.arch.width)

theorem takeSnapshot_eq :
    takeSnapshot platform uninitialised stale buffer hookAddr = (do
      let result ← runToBreakpoint hookAddr
      captureAndDump platform uninitialised stale buffer result.1) := by
  simp only [takeSnapshot, runToBreakpoint, captureAndDump, bind_assoc, pure_bind]

private theorem takeSnapshot_eq_afterStop :
    takeSnapshot platform uninitialised stale buffer hookAddr = (do
      let result ← runToStop hookAddr
      rewind result.2
      captureAndDump platform uninitialised stale buffer result.1) := by
  simp only [takeSnapshot_eq, runToBreakpoint_eq, bind_assoc, pure_bind]

/-- The captured registers are those of the stop, rewound. -/
theorem captureAndDump_regs {kernel : Kernel platform.arch} {world after : World platform.arch}
    {tracee : Tracee platform.arch} {conts : List (Child platform.arch)}
    {reports : List (Resume × Report × Tracee platform.arch)}
    (shown : world.Shows (.stopped tracee) conts reports) {pid : Nat}
    {snapshot : platform.ProcessState}
    (returned : (captureAndDump platform uninitialised stale buffer pid).run kernel.answer world =
      (.ok snapshot, after)) : platform.regs snapshot = tracee.regs := by
  obtain ⟨captured, middle, first, rest⟩ := run_bind_ok_iff.mp returned
  obtain ⟨_, _, _, last⟩ := run_bind_ok_iff.mp rest
  cases last
  have ends := createSnapshot_triple False uninitialised platform kernel world shown
  rw [first] at ends
  exact ends.1

end Snapshot

/-- The stop that the armed instruction causes. -/
def IsInt3Stop {arch : Arch} (hookAddr : BitVec arch.width) (report : Report)
    (stop : Tracee arch) : Prop :=
  report = .stopped sigtrap ∧ stop.ip = hookAddr + 1

private theorem rewound_int3 {arch : Arch} (breakpoint : Breakpoint arch) {stop : Tracee arch}
    {hookAddr : BitVec arch.width} (trapped : stop.ip = hookAddr + 1) :
    (breakpoint.rewound stop).ip = hookAddr ∧
      (breakpoint.rewound stop).regs = arch.setIp stop.regs hookAddr := by
  have back : stop.ip - 1 = hookAddr := by rw [trapped, BitVec.add_sub_cancel]
  have regs : (breakpoint.rewound stop).regs = arch.setIp stop.regs (stop.ip - 1) := rfl
  rw [back] at regs
  refine ⟨?_, regs⟩
  rw [Tracee.ip, regs, arch.ip_setIp]

/-- If every stop reported after `PTRACE_CONT` is the trap of the armed instruction,
then `create_snapshot` finds the child at the breakpoint with the registers of
that stop, nothing is rewound or written before that stop, and the captured
registers are those of that stop with the instruction pointer put back. -/
theorem takeSnapshot_atBreakpoint (platform : Platform) (kernel : Kernel platform.arch)
    (uninitialised : Tls) (stale : MapsEntry) (buffer : Buffer)
    (hookAddr : BitVec platform.arch.width) (result : Except Exit platform.ProcessState)
    (final : World platform.arch)
    (ran : (takeSnapshot platform uninitialised stale buffer hookAddr).run kernel.answer
      (.initial platform.arch) = (result, final))
    (trapsOnly : ∀ report stop, (Resume.cont, report, stop) ∈ final.reports →
      report.isEnd = true ∨ IsInt3Stop hookAddr report stop) :
    (∀ reached world, (runToBreakpoint hookAddr).run kernel.answer (.initial platform.arch) =
        (.ok reached, world) →
      ∃ stop tracee, (Resume.cont, Report.stopped sigtrap, stop) ∈ world.reports ∧
        stop.ip = hookAddr + 1 ∧ world.child = .stopped tracee ∧ tracee.ip = hookAddr ∧
        tracee.regs = platform.arch.setIp stop.regs hookAddr) ∧
    (∀ entry ∈ final.log, entry.call.marks = true →
      ∃ stop, (Resume.cont, Report.stopped sigtrap, stop) ∈ final.reports ∧
        stop.ip = hookAddr + 1) ∧
    (∀ snapshot, result = .ok snapshot →
      ∃ stop, (Resume.cont, Report.stopped sigtrap, stop) ∈ final.reports ∧
        stop.ip = hookAddr + 1 ∧
        platform.regs snapshot = platform.arch.setIp stop.regs hookAddr) := by
  have stops := runToStop_initial kernel hookAddr
  rcases toStop : (runToStop hookAddr).run kernel.answer (.initial platform.arch) with
    ⟨code | reached, middle⟩
  · -- the child was not brought to a stop: nothing has been rewound or written
    rw [toStop] at stops
    have stopped := ran
    rw [takeSnapshot_eq_afterStop, run_bind_error toStop] at stopped
    cases stopped
    refine ⟨?_, ?_, ?_⟩
    · intro other world returned
      rw [runToBreakpoint_eq, run_bind_error toStop] at returned
      cases returned
    · intro entry member marked
      rw [stops entry member] at marked
      cases marked
    · intro snapshot returned
      cases returned
  · rw [toStop] at stops
    obtain ⟨stop, stopped⟩ := stops
    obtain ⟨report, going, reported⟩ := stopped.1
    have grown : middle.reports ⊆ final.reports := by
      rw [takeSnapshot_eq_afterStop, run_bind_ok toStop] at ran
      have kept := run_reports kernel (rewind reached.2 >>= fun _ =>
        captureAndDump platform uninitialised stale buffer reached.1) middle
      rwa [ran] at kept
    obtain ⟨rfl, trapped⟩ : IsInt3Stop hookAddr report stop := by
      rcases trapsOnly report stop (grown reported) with ended | trap
      · rw [going] at ended
        cases ended
      · exact trap
    have rewinds : ∀ world, (rewind reached.2).run kernel.answer middle = (.ok (), world) →
        ∃ conts reports, world.Shows (.stopped (reached.2.rewound stop)) conts reports := by
      intro world returned
      have ends := rewind_atStop kernel reached.2 stop middle stopped
      rwa [returned] at ends
    obtain ⟨atHook, regs⟩ := rewound_int3 reached.2 trapped
    refine ⟨?_, fun _ _ _ => ⟨stop, grown reported, trapped⟩, ?_⟩
    · intro other world returned
      rw [runToBreakpoint_eq, run_bind_ok toStop] at returned
      obtain ⟨_, rewound, rewindOk, last⟩ := run_bind_ok_iff.mp returned
      cases last
      obtain ⟨_, _, shown⟩ := rewinds world rewindOk
      have kept := run_reports kernel (rewind reached.2) middle
      rw [rewindOk] at kept
      exact ⟨stop, _, kept reported, trapped, shown.child, atHook, regs⟩
    · rintro snapshot rfl
      rw [takeSnapshot_eq_afterStop, run_bind_ok toStop] at ran
      obtain ⟨_, rewound, rewindOk, last⟩ := run_bind_ok_iff.mp ran
      obtain ⟨_, _, shown⟩ := rewinds rewound rewindOk
      exact ⟨stop, grown reported, trapped,
        (captureAndDump_regs uninitialised stale buffer shown last).trans regs⟩

/-- A kernel that stops the child for a signal before it reaches the breakpoint. -/
def signallingKernel : Kernel .x86_64 :=
  { trappingKernel with
    report := fun _ resume tracee =>
      match resume with
      | .cont => some (.stopped 17, tracee.setIp 0x2000)
      | _ => some (.stopped sigtrap, tracee) }

/-- A stop for `SIGCHLD` elsewhere is taken for the breakpoint: the child is rewound
by one byte and its snapshot is written. -/
theorem takeSnapshot_elsewhere :
    ∃ (snapshot : LinuxX86_64ProcessState) (final : World .x86_64),
      (takeSnapshot .x86_64 (fun _ => default) (paintedEntry 0) zeroBuffer nopHook).run
        signallingKernel.answer (.initial .x86_64) = (.ok snapshot, final) ∧
      snapshot.regs.rip ≠ nopHook ∧ final.output = snapshot.bytes := by
  refine ⟨_, _, rfl, fun same => ?_, rfl⟩
  have moved : (0x1FFF : BitVec 64) = 0x1000 := same
  exact absurd moved (by decide)

theorem takeSnapshot_atBreakpoint_trap :
    ∃ (snapshot : LinuxX86_64ProcessState) (final : World .x86_64) (stop : Tracee .x86_64),
      (takeSnapshot .x86_64 (fun _ => default) (paintedEntry 0) zeroBuffer nopHook).run
        trappingKernel.answer (.initial .x86_64) = (.ok snapshot, final) ∧
      stop.ip = nopHook + 1 ∧ snapshot.regs = Arch.x86_64.setIp stop.regs nopHook := by
  obtain ⟨snapshot, final, ran, reports⟩ :
      ∃ (snapshot : LinuxX86_64ProcessState) (final : World .x86_64),
        (takeSnapshot .x86_64 (fun _ => default) (paintedEntry 0) zeroBuffer nopHook).run
          trappingKernel.answer (.initial .x86_64) = (.ok snapshot, final) ∧
        final.reports.map (fun step => (step.1, step.2.1, step.2.2.ip)) =
          [(.exec, .stopped sigtrap, 0x1001), (.cont, .stopped sigtrap, 0x1001)] :=
    ⟨_, _, rfl, rfl⟩
  have trapsOnly : ∀ report stop, (Resume.cont, report, stop) ∈ final.reports →
      report.isEnd = true ∨ IsInt3Stop nopHook report stop := by
    intro report stop member
    have listed := List.mem_map_of_mem
      (f := fun step : Resume × Report × Tracee .x86_64 => (step.1, step.2.1, step.2.2.ip)) member
    rw [reports] at listed
    simp at listed
    exact .inr ⟨listed.1, listed.2⟩
  obtain ⟨stop, _, trapped, regs⟩ := (takeSnapshot_atBreakpoint .x86_64 trappingKernel _ _ _ _ _
    final ran trapsOnly).2.2 snapshot rfl
  exact ⟨snapshot, final, stop, ran, trapped, regs⟩

end ProcessBridge.Snapshotter
