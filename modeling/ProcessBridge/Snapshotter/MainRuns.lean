import ProcessBridge.Snapshotter.CallOrder
import ProcessBridge.Snapshotter.MappingsContent

/-! Whole runs of `main`, for every kernel. Looking for the image, capturing the state
and writing the file all leave the child alone, so that everything in a snapshot
belongs to one state of the child, and exit status zero has two meanings only. -/

set_option autoImplicit false

namespace ProcessBridge.Snapshotter

open Library Common Program

/-!
## Calls that leave the child alone
-/

section Aside

variable {arch : Arch}

/-- Calls about files, and the two requests that only look at the child. -/
def Call.aside : Call arch → Bool
  | .getregs | .getThreadArea _ | .openElf | .seekElf _ | .rewindElf | .readElf _ | .filenoElf
  | .readlinkElf | .closeElf | .openMaps | .getline | .closeMaps | .malloc | .openSnapshot | .write _
  | .flush | .closeSnapshot | .processVmReadv _ _ _ => true
  | .fork | .waitpid | .kill | .setregs _ | .peektext _ | .poketext _ _ | .cont
  | .singlestep => false

/-- Calls that only a snapshot needs. The registers are also read on the way to the
breakpoint. -/
def Call.captures : Call arch → Bool
  | .getThreadArea _ | .openSnapshot | .write _ | .flush | .closeSnapshot
  | .processVmReadv _ _ _ => true
  | _ => false

private theorem perform_aside (kernel : Kernel arch) (count : Nat) {op : Call arch}
    (aside : op.aside = true) (world : World arch) :
    (kernel.perform count op world).2.child = world.child ∧
      (kernel.perform count op world).2.reports = world.reports := by
  cases op with
  | fork | waitpid | kill | setregs | peektext | poketext | cont | singlestep => cases aside
  | getregs | getThreadArea =>
      simp only [Kernel.perform, Kernel.onStopped]
      split <;> exact ⟨rfl, rfl⟩
  | seekElf offset =>
      simp only [Kernel.perform]
      split <;> exact ⟨rfl, rfl⟩
  | _ => exact ⟨rfl, rfl⟩

theorem answer_aside (kernel : Kernel arch) {op : Call arch} (aside : op.aside = true)
    (world : World arch) :
    (kernel.answer op world).2.child = world.child ∧
      (kernel.answer op world).2.reports = world.reports := by
  rcases kernel.answer_cases op world with ⟨_, answered⟩ | ⟨_, answered⟩
  · rw [answered]
    exact ⟨rfl, rfl⟩
  · rw [answered]
    exact perform_aside kernel _ aside _

/-- The world later on: the child and the reports are as they were, and every call in
between found that child. -/
structure World.Aside (world after : World arch) : Prop where
  child : after.child = world.child
  reports : after.reports = world.reports
  log : ∃ calls, after.log = world.log ++ calls ∧ ∀ entry ∈ calls, entry.child = world.child

theorem World.Aside.refl (world : World arch) : world.Aside world where
  child := rfl
  reports := rfl
  log := ⟨[], (List.append_nil _).symm, fun _ member => by cases member⟩

theorem World.Aside.answer {world before : World arch} (aside : world.Aside before)
    (kernel : Kernel arch) {op : Call arch} (allowed : op.aside = true) :
    world.Aside (kernel.answer op before).2 := by
  obtain ⟨child, reports⟩ := answer_aside kernel allowed before
  obtain ⟨calls, log, found⟩ := aside.log
  obtain ⟨succeeded, grown⟩ := kernel.answer_log op before
  refine ⟨child.trans aside.child, reports.trans aside.reports, calls ++ [⟨op, before.child, succeeded⟩],
    by rw [grown, log, List.append_assoc], ?_⟩
  intro entry member
  rw [List.mem_append, List.mem_singleton] at member
  rcases member with old | rfl
  · exact found entry old
  · exact aside.child

theorem Uses.aside {α : Type} {program : Sys arch α} (uses : program.Uses (·.aside = true))
    (kernel : Kernel arch) (world : World arch) :
    world.Aside (program.run kernel.answer world).2 :=
  uses.run_preserves kernel.answer world.Aside
    (fun _ _ allowed before => before.answer kernel allowed) world (.refl world)

end Aside

/-!
## Which functions do
-/

section Uses

-- the programs are taken apart by the rules, never by evaluating them
seal Program.Uses

variable {arch : Arch} {allowed : Call arch → Prop}

/-- Reading the executable and the maps of the child. -/
def Call.locates : Call arch → Bool
  | .openElf | .seekElf _ | .rewindElf | .readElf _ | .filenoElf | .readlinkElf | .closeElf
  | .openMaps | .getline | .closeMaps => true
  | _ => false

theorem locates_aside {op : Call arch} (locates : op.locates = true) : op.aside = true := by
  cases op with
  | _ => first | rfl | cases locates

theorem createMapsIter_uses (opens : allowed .openMaps) (stale : MapsEntry) (pid : Nat) :
    (createMapsIter stale pid : Sys arch MapsIter).Uses allowed := by
  refine (Uses.exitIf _ _).bind fun _ => ?_
  exact (Uses.required (Uses.call opens) _).bind fun _ => .pure _

theorem forEntries_uses (reads : allowed .getline) (closes : allowed .closeMaps) {σ : Type}
    {body : MapsEntry → σ → Sys arch σ} (uses : ∀ entry state, (body entry state).Uses allowed)
    (entry : MapsEntry) (texts : List (List Byte)) (state : σ) :
    (forEntries body entry texts state).Uses allowed := by
  induction texts generalizing entry state with
  | nil =>
      refine Uses.bind ?_ fun _ => .pure state
      exact (Uses.ensure (Uses.call reads) _).bind fun _ => Uses.ensure (Uses.call closes) _
  | cons text rest ih =>
      refine Uses.bind ?_ fun entry => (uses entry state).bind fun state => ih entry state
      refine (Uses.ensure (Uses.call reads) _).bind fun _ => ?_
      unfold parseMapsStr
      split
      · exact .pure _
      · exact .exit _

theorem readItem_uses (permitted : ∀ op : Call arch, op.locates = true → allowed op) (size : Nat)
    (message : String) : (readItem size message : Sys arch (List Byte)).Uses allowed := by
  refine (Uses.required (Uses.call (permitted (.readElf size) rfl)) _).bind fun bytes => ?_
  exact (Uses.exitIf _ _).bind fun _ => .pure bytes

theorem detectElfClass_uses (permitted : ∀ op : Call arch, op.locates = true → allowed op) :
    (detectElfClass : Sys arch ElfClass).Uses allowed := by
  refine (Uses.ensure (Uses.call (permitted (.seekElf 0) rfl)) _).bind fun _ => ?_
  refine (Uses.required (Uses.call (permitted (.readElf eiNident) rfl)) _).bind fun eIdent => ?_
  refine (Uses.exitIf _ _).bind fun _ => (Uses.exitIf _ _).bind fun _ => ?_
  split
  · exact .pure _
  · exact .exit _

theorem minVaddrLoop_uses (permitted : ∀ op : Call arch, op.locates = true → allowed op)
    (info : ElfInfo) (indices : List Nat) (minVaddr : BitVec 64) :
    (minVaddrLoop info indices minVaddr : Sys arch (BitVec 64)).Uses allowed := by
  induction indices generalizing minVaddr with
  | nil => exact .pure minVaddr
  | cons index rest ih =>
      refine Uses.bind ?_ ih
      refine (Uses.ensure (Uses.call (permitted (.seekElf _) rfl)) _).bind fun _ => ?_
      exact (readItem_uses permitted _ _).bind fun _ => .pure _

theorem openElf_uses (permitted : ∀ op : Call arch, op.locates = true → allowed op) (pid : Nat) :
    (openElf pid : Sys arch ElfInfo).Uses allowed := by
  refine (Uses.ensure (Uses.call (permitted .openElf rfl)) _).bind fun _ => ?_
  refine (detectElfClass_uses permitted).bind fun elfClass => ?_
  refine (Uses.call (permitted .rewindElf rfl)).bind fun _ => ?_
  refine (readItem_uses permitted _ _).bind fun ehdr => ?_
  refine (Uses.ensure (Uses.call (permitted .filenoElf rfl)) _).bind fun _ => ?_
  exact (Uses.required (Uses.call (permitted .readlinkElf rfl)) _).bind fun _ => .pure _

theorem isPie_uses (info : ElfInfo) : (isPie info : Sys arch Bool).Uses allowed :=
  (Uses.exitIf _ _).bind fun _ => .pure _

theorem getImageBase_uses (permitted : ∀ op : Call arch, op.locates = true → allowed op)
    (stale : MapsEntry) (pid : Nat) : (getImageBase stale pid : Sys arch (BitVec 64)).Uses allowed := by
  refine (openElf_uses permitted pid).bind fun info => Uses.bind ?_ fun imageBase =>
    (Uses.ensure (Uses.call (permitted .closeElf rfl)) _).bind fun _ => .pure imageBase
  refine (isPie_uses info).bind fun pie => Uses.ite ?_ (.pure 0)
  refine (minVaddrLoop_uses permitted info _ _).bind fun minVaddr => ?_
  refine (createMapsIter_uses (permitted .openMaps rfl) stale _).bind fun iter => ?_
  refine (forEntries_uses (permitted .getline rfl) (permitted .closeMaps rfl) (fun _ _ => .pure _)
    _ _ _).bind fun minMapsAddr => ?_
  exact (Uses.exitIf _ _).bind fun _ => .pure _

private theorem call_aside (op : Call arch) (aside : op.aside = true) : (call op).Uses
    (·.aside = true) :=
  Uses.call aside

/-- Everything but the opening of the file. -/
def Call.fills : Call arch → Bool
  | .openMaps | .getline | .closeMaps | .malloc | .write _ | .flush | .closeSnapshot
  | .processVmReadv _ _ _ => true
  | _ => false

private theorem fills_aside {op : Call arch} (fills : op.fills = true) : op.aside = true := by
  cases op with
  | _ => first | rfl | cases fills

section Fills

variable (permitted : ∀ op : Call arch, op.fills = true → allowed op)

include permitted

theorem copyContent_uses (readable : Bool) (address : BitVec arch.width) (remaining : Nat)
    (buffer : Buffer) : (copyContent readable address remaining buffer).Uses allowed := by
  have reads : ∀ address chunk buffer, (call (.processVmReadv address chunk buffer)).Uses allowed :=
    fun address chunk buffer => Uses.call (permitted (.processVmReadv address chunk buffer) rfl)
  induction remaining using Nat.strong_induction_on generalizing address buffer with
  | h remaining ih =>
      unfold copyContent
      by_cases done : remaining = 0
      · rw [if_pos done]
        exact .pure buffer
      · rw [if_neg done]
        have positive := bufferSize_pos
        refine Uses.bind ?_ fun filled => ?_
        · refine Uses.ite ?_ (.pure buffer)
          exact (reads _ _ _).bind fun answer => Uses.ite (.pure _) (.pure _)
        · refine (Uses.ensure (Uses.call (permitted (.write _) rfl)) _).bind fun _ => ih _ ?_ _ _
          split <;> omega

theorem dumpMappingsContent_uses (stale : MapsEntry) (buffer : Buffer) (pid : Nat) :
    (dumpMappingsContent stale buffer pid : Sys arch Unit).Uses allowed := by
  have flushes : (call .flush : Sys arch Bool).Uses allowed := Uses.call (permitted .flush rfl)
  refine (createMapsIter_uses (permitted .openMaps rfl) stale pid).bind fun iter => ?_
  refine (Uses.ensure (Uses.call (permitted .malloc rfl)) _).bind fun _ => Uses.bind ?_ fun _ =>
    flushes.bind fun flushed => Uses.exitIf _ _
  refine forEntries_uses (permitted .getline rfl) (permitted .closeMaps rfl) (fun entry buffer => ?_)
    _ _ _
  refine Uses.ite (.pure buffer) ?_
  exact (Uses.ensure (Uses.call (permitted (.write _) rfl)) _).bind fun _ =>
    copyContent_uses permitted _ _ _ _

theorem fillSnapshot_uses (stale : MapsEntry) (buffer : Buffer) (snapshot : List Byte) (pid : Nat) :
    (fillSnapshot stale buffer snapshot pid : Sys arch Unit).Uses allowed :=
  (Uses.ensure (Uses.call (permitted (.write _) rfl)) _).bind fun _ =>
    (dumpMappingsContent_uses permitted stale buffer pid).bind fun _ =>
      Uses.ensure (Uses.call (permitted .closeSnapshot rfl)) _

end Fills

theorem dumpSnapshot_uses (stale : MapsEntry) (buffer : Buffer) (snapshot : List Byte) (pid : Nat) :
    (dumpSnapshot stale buffer snapshot pid : Sys arch Unit).Uses (·.aside = true) :=
  (Uses.ensure (call_aside _ rfl) _).bind fun _ =>
    fillSnapshot_uses (fun _ => fills_aside) stale buffer snapshot pid

theorem fillTls_uses {allowed : Call .i386 → Prop} (areas : ∀ index, allowed (.getThreadArea index))
    (gdtEntryTlsMin : Nat) (indices : List Nat) (tls : Tls) :
    (fillTls gdtEntryTlsMin indices tls).Uses allowed := by
  induction indices generalizing tls with
  | nil => exact .pure tls
  | cons index rest ih =>
      exact (Uses.required (Uses.call (areas index)) _).bind fun desc => ih _

theorem createSnapshot_uses {platform : Platform} {allowed : Call platform.arch → Prop}
    (registers : allowed .getregs) (areas : ∀ index, allowed (.getThreadArea index))
    (uninitialised : Tls) : (createSnapshot uninitialised platform).Uses allowed := by
  cases platform with
  | x86_64 => exact (Uses.required (Uses.call registers) _).bind fun regs => .pure _
  | i386 =>
      refine (Uses.required (Uses.call registers) _).bind fun regs => Uses.bind ?_ fun tls => .pure _
      refine (Uses.call (areas gdtEntryTlsMinTrueI386)).bind fun answer => ?_
      cases answer with
      | some desc => exact fillTls_uses areas _ _ _
      | none => exact fillTls_uses areas _ _ _

theorem captureAndDump_uses (platform : Platform) (uninitialised : Tls) (stale : MapsEntry)
    (buffer : Buffer) (pid : Nat) :
    (captureAndDump platform uninitialised stale buffer pid).Uses (·.aside = true) := by
  have creates : (createSnapshot uninitialised platform).Uses (·.aside = true) := by
    refine createSnapshot_uses ?_ ?_ uninitialised
    · rfl
    · exact fun _ => rfl
  exact creates.bind fun _ => (dumpSnapshot_uses stale buffer _ pid).bind fun _ => .pure _

end Uses

/-!
## Up to the breakpoint and after the snapshot
-/

section Stages

seal Program.Uses

variable {arch : Arch}

/-- What a program appends to the log is what it may call. -/
theorem Uses.run_log {α : Type} {allowed : Call arch → Prop} {program : Sys arch α}
    (uses : program.Uses allowed) (kernel : Kernel arch) (world : World arch) :
    ∃ calls, (program.run kernel.answer world).2.log = world.log ++ calls ∧
      ∀ entry ∈ calls, allowed entry.call := by
  refine uses.run_preserves kernel.answer
    (fun later => ∃ calls, later.log = world.log ++ calls ∧ ∀ entry ∈ calls, allowed entry.call)
    ?_ world ⟨[], (List.append_nil _).symm, fun _ member => by cases member⟩
  intro op later permitted given
  obtain ⟨calls, log, known⟩ := given
  obtain ⟨succeeded, grown⟩ := kernel.answer_log op later
  refine ⟨calls ++ [⟨op, later.child, succeeded⟩], by rw [grown, log, List.append_assoc], ?_⟩
  intro entry member
  rw [List.mem_append, List.mem_singleton] at member
  rcases member with old | rfl
  · exact known entry old
  · exact permitted

theorem run_log_grows (kernel : Kernel arch) {α : Type} (program : Sys arch α)
    (world : World arch) : world.log <+: (program.run kernel.answer world).2.log := by
  obtain ⟨calls, log, _⟩ := Uses.run_log (uses_all program) kernel world
  exact ⟨calls, log.symm⟩

/-- The child at the breakpoint: as it stopped, but one byte back and with the original
word in place of the trap. -/
structure Tracee.Rewinds (hookAddr : BitVec arch.width) (original stop captured : Tracee arch) :
    Prop where
  regs : captured.regs = arch.setIp stop.regs (stop.ip - 1)
  inside : ∀ location, (location - hookAddr).toNat < arch.wordSize →
    captured.memory location = original.memory location
  outside : ∀ location, ¬ (location - hookAddr).toNat < arch.wordSize →
    captured.memory location = stop.memory location

private theorem rewinds_rewound (hookAddr : BitVec arch.width) (original stop : Tracee arch) :
    Tracee.Rewinds hookAddr original stop
      (Breakpoint.rewound ⟨hookAddr, original.savedWord hookAddr⟩ stop) where
  regs := rfl
  inside := fun _ inside => restore_inside inside
  outside := fun _ outside => restore_outside outside

/-- All that was ever reported of a child that stands at the breakpoint: its first stop,
at most a single step, and the stop that was taken for the breakpoint. -/
def Brought (addr : BitVec arch.width) (captured : Tracee arch)
    (reports : List (Resume × Report × Tracee arch)) : Prop :=
  ∃ (imageBase : BitVec 64) (first last : Report) (original stop : Tracee arch)
    (steps : List (Resume × Report × Tracee arch)),
    reports = (.exec, first, original) :: (steps ++ [(.cont, last, stop)]) ∧
    (∀ step ∈ steps, step.1 = Resume.singlestep) ∧ last.isEnd = false ∧
    Tracee.Rewinds (imageBase.setWidth _ + addr) original stop captured

def reachBreakpoint (stale : MapsEntry) (addr : BitVec arch.width) : Sys arch Nat := do
  let pid ← forkChild
  let imageBase ← getImageBase stale pid
  let breakpoint ← createBreakpoint (imageBase.setWidth _ + addr)
  executeUpToBreakpoint breakpoint
  pure pid

def killChild : Sys arch Unit := do
  let _ ← call .kill
  match ← call .waitpid with
  | .blocked => .exit .hang
  | .failed | .report _ => pure ()

theorem runTarget_eq (platform : Platform) (locals : Locals) (addr : BitVec platform.arch.width) :
    runTarget platform locals addr = (do
      let pid ← reachBreakpoint locals.imageEntry addr
      let _ ← captureAndDump platform locals.tls locals.dumpEntry locals.buffer pid
      killChild) := by
  simp only [runTarget, reachBreakpoint, captureAndDump, killChild, bind_assoc, pure_bind]
  congr! 15
  funext waited
  change Waited at waited
  cases waited with
  | _ => rfl

theorem getImageBase_shows (kernel : Kernel arch) (stale : MapsEntry) (pid : Nat)
    (tracee : Tracee arch) (reports : List (Resume × Report × Tracee arch)) :
    Triple kernel.answer (·.Shows (.stopped tracee) [] reports) (getImageBase stale pid)
      (fun _ world => ∃ conts, world.Shows (.stopped tracee) conts reports) (fun _ _ => True) := by
  intro world shown
  have aside := Uses.aside (getImageBase_uses (fun _ => locates_aside) stale pid) kernel world
  rcases result : (getImageBase stale pid).run kernel.answer world with ⟨code | imageBase, after⟩
  · trivial
  · rw [result] at aside
    exact ⟨_, aside.child.trans shown.child, rfl, aside.reports.trans shown.reports⟩

theorem reachBreakpoint_triple (kernel : Kernel arch) (stale : MapsEntry)
    (addr : BitVec arch.width) :
    Triple kernel.answer (·.Shows .absent [] []) (reachBreakpoint stale addr)
      (fun pid world => pid = kernel.pid ∧ ∃ captured, world.child = .stopped captured ∧
        Brought addr captured world.reports) (fun _ _ => True) := by
  refine Triple.bind _ ((forkChild_triple kernel fun _ _ _ _ _ _ => trivial).strengthen
    (fun _ _ holds => holds) fun _ _ _ => trivial) fun pid => Triple.given fun same => ?_
  refine Triple.exists_pre fun first => Triple.exists_pre fun original => ?_
  refine Triple.bind _ (getImageBase_shows kernel stale pid original _) fun imageBase => ?_
  refine Triple.exists_pre fun conts => ?_
  refine Triple.bind _ ((createBreakpoint_triple False _).strengthen (fun _ _ holds => holds)
    fun _ _ _ => trivial) fun breakpoint => Triple.given fun made => ?_
  subst made
  refine Triple.bind _ ((executeUpToBreakpoint_triple False _).strengthen (fun _ _ holds => holds)
    fun _ _ _ => trivial) fun _ => Triple.pure ?_
  intro world given
  obtain ⟨resumed, _, steps, last, stop, single, going, shown⟩ := given
  refine ⟨same, _, shown.child, imageBase, first, last, original, stop, steps, ?_, single, going,
    rewinds_rewound _ original stop⟩
  rw [shown.reports]
  simp

/-- Starting the child, running it and putting its text back. -/
def Call.drives : Call arch → Bool
  | .fork | .waitpid | .getregs | .setregs _ | .poketext _ _ | .cont | .singlestep => true
  | _ => false

section Drives

variable {allowed : Call arch → Prop}

theorem forkChild_uses (forks : allowed .fork) (waits : allowed .waitpid) :
    (forkChild : Sys arch Nat).Uses allowed := by
  refine (Uses.required (Uses.call forks) _).bind fun pid => ?_
  refine (Uses.waitpid waits _).bind fun report => ?_
  cases report with
  | stopped signal => exact .pure pid
  | exited status => exact .exit _
  | signaled signal => exact .exit _
  | other status => exact .exit _

variable (permitted : ∀ op : Call arch, op.drives = true → allowed op)

include permitted

theorem stepPastBreakpoint_uses (breakpoint : Breakpoint arch) :
    (stepPastBreakpoint breakpoint).Uses allowed :=
  (Uses.ensure (Uses.call (permitted .singlestep rfl)) _).bind fun _ =>
    (Uses.waitpid (permitted .waitpid rfl) _).bind fun _ => (Uses.exitIf _ _).bind fun _ =>
      Uses.ensure (Uses.call (permitted (.poketext _ _) rfl)) _

theorem executeUpToBreakpoint_uses (breakpoint : Breakpoint arch) :
    (executeUpToBreakpoint breakpoint).Uses allowed := by
  refine Uses.bind ?_ fun _ => ?_
  · exact (Uses.required (Uses.call (permitted .getregs rfl)) _).bind fun regs =>
      (Uses.ite (stepPastBreakpoint_uses permitted breakpoint) (.pure ())).bind fun _ =>
      (Uses.ensure (Uses.call (permitted .cont rfl)) _).bind fun _ =>
      (Uses.waitpid (permitted .waitpid rfl) _).bind fun _ => Uses.exitIf _ _
  · exact (Uses.required (Uses.call (permitted .getregs rfl)) _).bind fun regs =>
      (Uses.ensure (Uses.call (permitted (.setregs _) rfl)) _).bind fun _ =>
      Uses.ensure (Uses.call (permitted (.poketext _ _) rfl)) _

end Drives

theorem createBreakpoint_uses {allowed : Call arch → Prop} (hookAddr : BitVec arch.width)
    (peeks : allowed (.peektext hookAddr)) (pokes : ∀ value, allowed (.poketext hookAddr value)) :
    (createBreakpoint hookAddr).Uses allowed :=
  (Uses.required (Uses.call peeks) _).bind fun _ =>
    (Uses.ensure (Uses.call (pokes _)) _).bind fun _ => .pure _

theorem reachBreakpoint_uses (stale : MapsEntry) (addr : BitVec arch.width) :
    (reachBreakpoint stale addr).Uses fun op => op.captures = false := by
  have driving : ∀ op : Call arch, op.drives = true → op.captures = false := by
    intro op drives
    cases op with
    | _ => first | rfl | cases drives
  have locating : ∀ op : Call arch, op.locates = true → op.captures = false := by
    intro op locates
    cases op with
    | _ => first | rfl | cases locates
  have arms : ∀ hookAddr : BitVec arch.width,
      (createBreakpoint hookAddr).Uses fun op => op.captures = false :=
    fun hookAddr => createBreakpoint_uses hookAddr rfl fun _ => rfl
  exact (forkChild_uses (driving _ rfl) (driving _ rfl)).bind fun pid =>
    (getImageBase_uses locating stale pid).bind fun _ =>
    (arms _).bind fun breakpoint =>
    (executeUpToBreakpoint_uses driving breakpoint).bind fun _ => .pure pid

theorem run_ensure_false {kernel : Kernel arch} {asked : Sys arch Bool} {world after : World arch}
    (message : String) (answered : asked.run kernel.answer world = (.ok false, after)) :
    (ensure asked message).run kernel.answer world = (.error (.fatal message), after) := by
  rw [Snapshotter.ensure, run_bind_ok answered]
  rfl

theorem killChild_uses : (killChild : Sys arch Unit).Uses fun op => op = .kill ∨ op = .waitpid := by
  have kills : (call .kill : Sys arch Bool).Uses fun op => op = .kill ∨ op = .waitpid :=
    Uses.ask (.inl rfl)
  have waits : (call .waitpid : Sys arch Waited).Uses fun op => op = .kill ∨ op = .waitpid :=
    Uses.ask (.inr rfl)
  refine kills.bind fun _ => waits.bind fun waited => ?_
  cases waited with
  | blocked => exact .exit _
  | failed => exact .pure ()
  | report report => exact .pure ()

/-- The end of the child is not among the reports, and the file stays as it is. -/
theorem killChild_frame (kernel : Kernel arch) {world : World arch} {tracee : Tracee arch}
    (stopped : world.child = .stopped tracee) :
    (killChild.run kernel.answer world).2.reports = world.reports ∧
      (killChild.run kernel.answer world).2.output = world.output := by
  have kept := killChild_uses.run_preserves kernel.answer (fun later =>
    (later.child = .stopped tracee ∨ later.child = .dead) ∧ later.reports = world.reports ∧
      later.output = world.output) ?_ world ⟨.inl stopped, rfl, rfl⟩
  · exact kept.2
  intro op later permitted given
  obtain ⟨child, reports, output⟩ := given
  rcases kernel.answer_cases op later with ⟨_, answered⟩ | ⟨_, answered⟩
  · rw [answered]
    exact ⟨child, reports, output⟩
  · rw [answered]
    rcases permitted with rfl | rfl
    · refine ⟨.inr ?_, reports, output⟩
      rcases child with stopped | dead
      · simp [Kernel.perform, stopped, Child.alive]
      · simp [Kernel.perform, dead, Child.alive]
    · rcases child with stopped | dead
      · rw [perform_waitpid_stopped kernel _ (show (later.record _ true).child = _ from stopped)]
        exact ⟨.inl stopped, reports, output⟩
      · rw [perform_waitpid_dead kernel _ (show (later.record _ true).child = _ from dead)]
        exact ⟨.inr dead, reports, output⟩

end Stages

/-!
## One state of the child
-/

section OneState

variable {platform : Platform}

theorem run_malloc (kernel : Kernel platform.arch) (message : String)
    (world : World platform.arch) :
    (ensure (call .malloc) message).run kernel.answer world =
        (.error (.fatal message), world.record .malloc false) ∨
      (ensure (call .malloc) message).run kernel.answer world =
        (.ok (), world.record .malloc true) := by
  rcases run_call_cases kernel .malloc world with ⟨_, answered⟩ | answered
  · exact .inl (run_ensure_false _ answered)
  · exact .inr (run_ensure_ok _ answered)

theorem run_returning {handler : (op : Call platform.arch) → World platform.arch →
      Answer op × World platform.arch} {α β : Type} (program : Sys platform.arch α) (value : α → β)
    (world : World platform.arch) :
    ((program >>= fun result => pure (value result)).run handler world).2 =
      (program.run handler world).2 := by
  rw [run_bind]
  rcases program.run handler world with ⟨code | result, after⟩
  · rfl
  · rfl

theorem recorded_malloc {succeeded : Bool} :
    ∀ entry ∈ ((World.initial platform.arch).record .malloc succeeded).log,
      entry.call = .malloc := by
  intro entry member
  rw [record_log, World.initial, List.nil_append, List.mem_singleton] at member
  rw [member]

/-- `main` complains about its arguments, or it runs its target. -/
theorem main_cases (platform : Platform) (locals : Locals) (argv : List (List Byte)) :
    (main platform locals argv = pure .failure ∨
      ∃ message, main platform locals argv = logFatal message) ∨
    ∃ offset addr, argv[1]? = some offset ∧ parseOffset offset = some addr ∧
      main platform locals argv = (do
        ensure (call .malloc) "malloc for child argv failed"
        runTarget platform locals (addr.setWidth _)
        pure .success) := by
  unfold main
  split
  · next name offset child rest =>
      split
      · exact .inl (.inr ⟨_, rfl⟩)
      · next addr parsed => exact .inr ⟨offset, addr, rfl, parsed, rfl⟩
  · exact .inl (.inl rfl)

/-- A run of `main` ends before it starts a child, or it is a run of `runTarget`. -/
theorem main_target_cases (kernel : Kernel platform.arch) (locals : Locals)
    (argv : List (List Byte)) :
    (∀ entry ∈ ((main platform locals argv).run kernel.answer (.initial _)).2.log,
      entry.call = .malloc) ∨
    ∃ offset addr, argv[1]? = some offset ∧ parseOffset offset = some addr ∧
      ((main platform locals argv).run kernel.answer (.initial _)).2 =
        ((runTarget platform locals (addr.setWidth _)).run kernel.answer
          ((World.initial _).record .malloc true)).2 := by
  rcases main_cases platform locals argv with
    (same | ⟨_, same⟩) | ⟨offset, addr, given, parsed, same⟩
  · rw [same]
    exact .inl fun _ member => by cases member
  · rw [same]
    exact .inl fun _ member => by cases member
  · rw [same]
    rcases run_malloc kernel "malloc for child argv failed" (.initial _) with refused | granted
    · rw [run_bind_error refused]
      exact .inl recorded_malloc
    · rw [run_bind_ok granted, run_returning]
      exact .inr ⟨offset, addr, given, parsed, rfl⟩

end OneState

/-!
## Exit status zero
-/

section Written

variable {arch : Arch} {kernel : Kernel arch} {world after : World arch}

theorem Emits.returned {α : Type} {program : Sys arch α} {count calls : Nat} {value other : α}
    {bytes : List Byte} {child : Child arch}
    (emits : Emits kernel child program count value bytes calls) (same : world.child = child)
    (here : world.log.length = count)
    (ran : program.run kernel.answer world = (.ok other, after)) : world.Wrote bytes calls after := by
  rcases emits world same here with ⟨later, returned, wrote⟩ | ⟨_, _, _, stopped, _⟩
  · cases ran.symm.trans returned
    exact wrote
  · cases ran.symm.trans stopped

/-- A line that cannot be parsed is fatal, so a loop that returns has parsed them all. -/
theorem forEntries_parses {σ : Type} {body : MapsEntry → σ → Sys arch σ} {entry : MapsEntry}
    {texts : List (List Byte)} {state value : σ}
    (ran : (forEntries body entry texts state).run kernel.answer world = (.ok value, after)) :
    ∃ lines, List.Forall₂ (fun text line => sscanfMaps text = some line) texts lines := by
  induction texts generalizing entry state world with
  | nil => exact ⟨[], .nil⟩
  | cons text rest ih =>
      obtain ⟨filled, scanned, parsed, ran⟩ := run_bind_ok_iff.mp ran
      obtain ⟨_, _, _, ran⟩ := run_bind_ok_iff.mp ran
      obtain ⟨lines, parses⟩ := ih ran
      obtain ⟨_, _, _, parsed⟩ := run_bind_ok_iff.mp parsed
      unfold parseMapsStr at parsed
      split at parsed
      · next line accepted => exact ⟨line :: lines, .cons accepted parses⟩
      · cases parsed

private theorem dumpMappingsContent_parses {stale : MapsEntry} {buffer : Buffer} {pid : Nat}
    (small : pid < 2 ^ 31)
    (ran : (dumpMappingsContent stale buffer pid).run kernel.answer world = (.ok (), after)) :
    ∃ lines, List.Forall₂ (fun text line => sscanfMaps text = some line)
      (kernel.maps world.log.length) lines := by
  obtain ⟨iter, opened, created, ran⟩ := run_bind_ok_iff.mp ran
  obtain ⟨_, _, _, ran⟩ := run_bind_ok_iff.mp ran
  obtain ⟨_, _, looped, _⟩ := run_bind_ok_iff.mp ran
  have found : iter.file = kernel.maps world.log.length := by
    rcases createMapsIter_emits kernel _ stale small _ world rfl rfl with
      ⟨later, returned, _⟩ | ⟨_, _, _, stopped, _⟩
    · cases created.symm.trans returned
      rfl
    · cases created.symm.trans stopped
  rw [← found]
  exact forEntries_parses looped

/-- The snapshot was opened by the call with that number. -/
def World.OpensAt (world : World arch) (opened : Nat) : Prop :=
  ∃ entry, world.log[opened]? = some entry ∧ entry.call = .openSnapshot

theorem World.OpensAt.later {opened : Nat} (opens : world.OpensAt opened)
    (grown : world.log <+: after.log) : after.OpensAt opened := by
  obtain ⟨entry, made, same⟩ := opens
  obtain ⟨calls, log⟩ := grown
  have inside : opened < world.log.length := (List.getElem?_eq_some_iff.mp made).1
  exact ⟨entry, by rw [← log, List.getElem?_append_left inside, made], same⟩

/-- What a file holds that was written to its end of one state of the child, after it was
opened by the call with the given number. -/
structure Written (kernel : Kernel arch) (captured : Tracee arch) (stale : MapsEntry)
    (snapshot output : List Byte) (opened : Nat) (lines : List MapsLine) : Prop where
  parse : List.Forall₂ (fun text line => sscanfMaps text = some line)
    (kernel.maps (opened + 2)) lines
  mappings : ∃ mappings : List (MapsLine × List Byte), mappings.map Prod.fst = lines ∧
    (∀ mapping ∈ mappings, mapping.2.length = mapping.1.mappingSize % 2 ^ arch.width) ∧
    output = snapshot ++ emitted stale mappings
  contents : ∀ completed, kernel.Completes completed →
    output = snapshot ++
      emitted stale (plainMappings captured.memory completed (opened + 4) lines)

theorem dumpSnapshot_complete {stale : MapsEntry} {buffer : Buffer} {snapshot : List Byte}
    {pid : Nat} {captured : Tracee arch} (small : pid < 2 ^ 31)
    (stopped : world.child = .stopped captured)
    (ran : (dumpSnapshot stale buffer snapshot pid).run kernel.answer world = (.ok (), after)) :
    after.OpensAt world.log.length ∧
      ∃ lines, Written kernel captured stale snapshot after.output world.log.length lines := by
  obtain ⟨_, opened, opens, ran⟩ := run_bind_ok_iff.mp ran
  have grown := run_log_grows kernel (fillSnapshot stale buffer snapshot pid) opened
  rw [show (fillSnapshot stale buffer snapshot pid).run kernel.answer opened = _ from ran] at grown
  obtain ⟨_, headed, heads, ran⟩ := run_bind_ok_iff.mp ran
  obtain ⟨_, dumped, dumps, closes⟩ := run_bind_ok_iff.mp ran
  have truncated : opened.output = [] ∧ opened.child = world.child ∧
      opened.log = world.log ++ [⟨.openSnapshot, world.child, true⟩] := by
    rcases run_call_cases kernel .openSnapshot world with ⟨_, answered⟩ | answered
    · cases opens.symm.trans (run_ensure_false _ answered)
    · cases opens.symm.trans (run_ensure_ok _ answered)
      exact ⟨rfl, rfl, rfl⟩
  obtain ⟨empty, child, log⟩ := truncated
  have opensAt : opened.OpensAt world.log.length :=
    ⟨_, by rw [log, List.getElem?_concat_length], rfl⟩
  refine ⟨opensAt.later grown, ?_⟩
  have start := child.trans stopped
  have header := (Emits.write snapshot _).returned start rfl heads
  have here : headed.log.length = world.log.length + 2 := by
    rw [header.log, log, List.length_append, List.length_singleton]
  have still := header.child.trans start
  have beginning : headed.output = snapshot := by
    rw [header.output, empty, List.nil_append]
  obtain ⟨lines, parse⟩ := dumpMappingsContent_parses small dumps
  rw [here] at parse
  obtain ⟨mappings, calls, same, lengths, emits⟩ :=
    dumpMappingsContent_emits kernel (.stopped captured) small buffer parse
  have wrote := (emits stale).returned still here dumps
  have closed := (Emits.closeSnapshot _).returned (wrote.child.trans still) rfl closes
  have output : after.output = dumped.output := by rw [closed.output, List.append_nil]
  refine ⟨lines, parse, ⟨mappings, same, lengths, ?_⟩, fun completed completes => ?_⟩
  · rw [output, wrote.output, beginning]
  · obtain ⟨calls, emits⟩ := dumpMappingsContent_plain completes captured small stale buffer parse
    rw [output, (emits.returned still here dumps).output, beginning]

end Written

section ExitStatus

variable {platform : Platform} {kernel : Kernel platform.arch} {locals : Locals}

theorem runTarget_complete (small : kernel.pid < 2 ^ 31) {addr : BitVec platform.arch.width}
    {world final : World platform.arch} (shown : world.Shows .absent [] [])
    (ran : (runTarget platform locals addr).run kernel.answer world = (.ok (), final)) :
    ∃ middle captured snapshot opened lines,
      (reachBreakpoint locals.imageEntry addr).run kernel.answer world = (.ok kernel.pid, middle) ∧
      middle.child = .stopped captured ∧ Brought addr captured final.reports ∧
      platform.regs snapshot = captured.regs ∧ final.OpensAt opened ∧
      Written kernel captured locals.dumpEntry (platform.bytes snapshot) final.output opened
        lines := by
  rw [runTarget_eq] at ran
  obtain ⟨pid, middle, reached, ran⟩ := run_bind_ok_iff.mp ran
  obtain ⟨snapshot, dumped, dumps, kills⟩ := run_bind_ok_iff.mp ran
  obtain ⟨rfl, captured, stopped, brought⟩ :=
    (reachBreakpoint_triple kernel locals.imageEntry addr).returned shown reached
  have aside := Uses.aside (captureAndDump_uses platform locals.tls locals.dumpEntry locals.buffer
    kernel.pid) kernel middle
  rw [dumps] at aside
  obtain ⟨reports, output⟩ := killChild_frame kernel (aside.child.trans stopped)
  have grown := run_log_grows kernel killChild dumped
  rw [kills] at reports output grown
  have regs := captureAndDump_regs locals.tls locals.dumpEntry locals.buffer
    (⟨stopped, rfl, rfl⟩ : middle.Shows (.stopped captured) _ _) dumps
  obtain ⟨created, fetched, creates, dumps⟩ := run_bind_ok_iff.mp dumps
  obtain ⟨_, later, dumps, last⟩ := run_bind_ok_iff.mp dumps
  cases last
  have capturing := createSnapshot_triple False locals.tls platform kernel middle
    (⟨stopped, rfl, rfl⟩ : middle.Shows (.stopped captured) _ _)
  rw [creates] at capturing
  obtain ⟨opens, lines, written⟩ := dumpSnapshot_complete small capturing.2.child dumps
  refine ⟨middle, captured, snapshot, fetched.log.length, lines, reached, stopped, ?_, regs,
    opens.later grown, ?_⟩
  · rw [show final.reports = dumped.reports from reports, aside.reports]
    exact brought
  · rw [show final.output = dumped.output from output]
    exact written

end ExitStatus

/-- A run that returns success has run its target. -/
theorem main_target {platform : Platform} {kernel : Kernel platform.arch} {locals : Locals}
    {argv : List (List Byte)} {final : World platform.arch}
    (ran : (main platform locals argv).run kernel.answer (.initial platform.arch) =
      (.ok .success, final)) :
    ∃ offset addr, argv[1]? = some offset ∧ parseOffset offset = some addr ∧
      (runTarget platform locals (addr.setWidth _)).run kernel.answer
        ((World.initial _).record .malloc true) = (.ok (), final) := by
  rcases main_cases platform locals argv with
    (same | ⟨_, same⟩) | ⟨offset, addr, given, parsed, same⟩
  · rw [same] at ran
    cases ran
  · rw [same] at ran
    cases ran
  · rw [same] at ran
    obtain ⟨_, checked, mallocs, ran⟩ := run_bind_ok_iff.mp ran
    obtain ⟨_, _, ran, last⟩ := run_bind_ok_iff.mp ran
    cases last
    rcases run_malloc kernel "malloc for child argv failed" (.initial _) with refused | granted
    · cases mallocs.symm.trans refused
    · cases mallocs.symm.trans granted
      exact ⟨offset, addr, given, parsed, ran⟩

/-- Exit status zero means one of two things. If `main` returns it, the file is complete:
the registers of the child at the breakpoint, then for every line of its maps file
but those of the three skipped mappings the entry and a content of its size, which is
the memory of that child wherever it could be read and zero elsewhere. If `exit` is
called with it, the child has ended before the breakpoint and the file has never been
opened. -/
theorem main_exitsZero (platform : Platform) (kernel : Kernel platform.arch) (locals : Locals)
    (argv : List (List Byte)) (result : Except Exit Exit) (final : World platform.arch)
    (small : kernel.pid < 2 ^ 31)
    (ran : (main platform locals argv).run kernel.answer (.initial platform.arch) =
      (result, final)) :
    (result = .ok .success →
      ∃ offset addr captured snapshot opened lines, argv[1]? = some offset ∧
        parseOffset offset = some addr ∧ Brought (addr.setWidth _) captured final.reports ∧
        platform.regs snapshot = captured.regs ∧ final.OpensAt opened ∧
        Written kernel captured locals.dumpEntry (platform.bytes snapshot) final.output opened
          lines) ∧
    (result = .error .success →
      final.child = .dead ∧
        ∀ entry ∈ final.log, entry.call = .openSnapshot → entry.succeeded = false) := by
  constructor
  · rintro rfl
    obtain ⟨offset, addr, given, parsed, target⟩ := main_target ran
    have fresh : ((World.initial platform.arch).record .malloc true).Shows .absent [] [] :=
      ⟨rfl, rfl, rfl⟩
    obtain ⟨_, captured, snapshot, opened, lines, _, _, complete⟩ :=
      runTarget_complete small fresh target
    exact ⟨offset, addr, captured, snapshot, opened, lines, given, parsed, complete⟩
  · rintro rfl
    obtain ⟨phase, tracks, ended⟩ := main_tracked platform kernel locals argv
    rw [ran] at tracks ended
    obtain rfl : phase = _ := ended
    exact ⟨tracks.child, tracks.untouched rfl⟩

private theorem fixedKernel_completes : fixedKernel.Completes fun _ _ _ => true := by
  intro count address size buffer
  simp [fixedKernel, trappingKernel]

/-- The file of a child with one page. -/
theorem main_exitsZero_fixed :
    ∃ (final : World .x86_64) (captured : Tracee .x86_64) (snapshot : LinuxX86_64ProcessState),
      (main .x86_64 blankLocals targetArgv).run fixedKernel.answer (.initial .x86_64) =
        (.ok .success, final) ∧
      Brought (0x1000 : BitVec 64) captured final.reports ∧ snapshot.regs = captured.regs ∧
      final.output = snapshot.bytes ++ ((fillEntry (paintedEntry 0) anonymousLine).bytes ++
        memorySlice captured.memory 0x10000 4096) := by
  obtain ⟨final, ran⟩ := fixedKernel_ran
  obtain ⟨offset, addr, captured, snapshot, opened, lines, given, parsed, brought, regs, _, written⟩ :=
    (main_exitsZero .x86_64 fixedKernel blankLocals targetArgv _ final (by decide) ran).1 rfl
  obtain rfl : offset = _ := (Option.some.inj given).symm
  obtain rfl : addr = 0x1000 := (Option.some.inj ((show parseOffset _ = some 0x1000 by decide).symm.trans parsed)).symm
  refine ⟨final, captured, snapshot, ran, brought, regs, ?_⟩
  have unique : Relator.RightUnique fun text line => sscanfMaps text = some line :=
    fun _ _ _ left right => Option.some.inj (left.symm.trans right)
  obtain rfl : lines = [anonymousLine] :=
    unique.forall₂ written.parse (.cons anonymousText_parses .nil)
  have page : emitted (paintedEntry 0)
      (plainMappings captured.memory (fun _ _ _ => true) (opened + 4) [anonymousLine]) =
      (fillEntry (paintedEntry 0) anonymousLine).bytes ++
        memorySlice captured.memory 0x10000 4096 :=
    emitted_page _ (by decide) (by decide) (by decide) (by decide) rfl
  exact (written.contents _ fixedKernel_completes).trans (congrArg (snapshot.bytes ++ ·) page)

end ProcessBridge.Snapshotter
