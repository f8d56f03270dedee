import ProcessBridge.Library.Protocol
import ProcessBridge.Snapshotter.KernelProperties
import ProcessBridge.Snapshotter.Main

/-! The order in which the snapshotter makes its calls. The child is only addressed
while it is stopped, files are only used while they are open, and a failure
that is not absorbed is the end of the run. All of it holds for every kernel,
so the program is checked once against a protocol, whatever it is answered. -/

set_option autoImplicit false

namespace ProcessBridge.Snapshotter

open Library Common Program

/-!
## The protocol
-/

/-- What the snapshotter knows about its child. -/
inductive ChildPhase where
  | absent
  | going
  | stopped
  | doomed
  | gone
deriving DecidableEq, Repr

inductive SnapshotPhase where
  | untouched
  | opened
  | complete
deriving DecidableEq, Repr

/-- Whether the last call was refused, or never came back. -/
inductive Status where
  | fine
  | refused
  | blocked
deriving DecidableEq, Repr

structure Phase where
  child : ChildPhase
  elf : Bool
  maps : Bool
  snapshot : SnapshotPhase
  status : Status
deriving DecidableEq, Repr

inductive Handle where
  | elf
  | maps
  | snapshot
deriving DecidableEq, Repr

def Phase.holds (phase : Phase) : Handle → Bool
  | .elf => phase.elf
  | .maps => phase.maps
  | .snapshot => decide (phase.snapshot = .opened)

section Calls

variable {arch : Arch}

def Call.opens : Call arch → Option Handle
  | .openElf => some .elf
  | .openMaps => some .maps
  | .openSnapshot => some .snapshot
  | _ => none

def Call.closes : Call arch → Option Handle
  | .closeElf => some .elf
  | .closeMaps => some .maps
  | .closeSnapshot => some .snapshot
  | _ => none

/-- The file that has to be open for the call. -/
def Call.needs : Call arch → Option Handle
  | .seekElf _ | .rewindElf | .readElf _ | .filenoElf | .readlinkElf | .closeElf => some .elf
  | .getline | .closeMaps => some .maps
  | .write _ | .flush | .closeSnapshot => some .snapshot
  | _ => none

/-- Failures that the source does not stop for: a short or failing read of the child's
memory, the first query for a thread area, `rewind`, and the final `kill`. -/
def Call.absorbed : Call arch → Bool
  | .processVmReadv _ _ _ | .rewindElf | .kill => true
  | .getThreadArea index => index == gdtEntryTlsMinTrueI386
  | _ => false

def Call.failed : (op : Call arch) → Answer op → Bool
  | .fork, answer => Option.isNone (show Option Nat from answer)
  | .waitpid, answer => decide ((show Waited from answer) = .failed)
  | .getregs, answer => Option.isNone (show Option arch.Regs from answer)
  | .peektext _, answer => Option.isNone (show Option (BitVec arch.width) from answer)
  | .getThreadArea _, answer => Option.isNone (show Option UserDesc from answer)
  | .readElf _, answer | .readlinkElf, answer =>
      Option.isNone (show Option (List Byte) from answer)
  | .openMaps, answer => Option.isNone (show Option (List (List Byte)) from answer)
  | .processVmReadv _ _ _, answer => Option.isNone (show Option Nat × Buffer from answer).1
  | .kill, answer | .setregs _, answer | .poketext _ _, answer | .cont, answer
  | .singlestep, answer | .openElf, answer | .seekElf _, answer | .rewindElf, answer
  | .filenoElf, answer | .closeElf, answer | .getline, answer | .closeMaps, answer | .malloc, answer
  | .openSnapshot, answer | .write _, answer | .flush, answer | .closeSnapshot, answer =>
      !(show Bool from answer)

/-- Apart from starting it and waiting for it, the child is only dealt with while it is
stopped, and a file only while it is open. -/
def Phase.permits (phase : Phase) (op : Call arch) : Prop :=
  phase.status = .fine ∧
    (∀ handle, op.needs = some handle → phase.holds handle = true) ∧
    (∀ handle, op.opens = some handle → phase.holds handle = false) ∧
    (op = .openSnapshot → phase.snapshot = .untouched) ∧
    match op with
    | .fork => phase.child = .absent
    | .waitpid => phase.child = .going ∨ phase.child = .doomed
    | .malloc => phase.child = .absent ∨ phase.child = .stopped
    | _ => phase.child = .stopped

/-- What a call that has not failed, or whose failure is absorbed, leads to. -/
def Phase.advance (phase : Phase) : (op : Call arch) → Answer op → Phase
  | .fork, _ | .cont, _ | .singlestep, _ => { phase with child := .going }
  | .waitpid, answer =>
      match (show Waited from answer) with
      | .report report =>
          { phase with
            child := if phase.child = .doomed ∨ report.isEnd then .gone else .stopped }
      | .blocked => { phase with status := .blocked }
      | .failed => phase
  | .kill, _ => { phase with child := .doomed }
  | .openElf, _ => { phase with elf := true }
  | .closeElf, _ => { phase with elf := false }
  | .openMaps, _ => { phase with maps := true }
  | .closeMaps, _ => { phase with maps := false }
  | .openSnapshot, _ => { phase with snapshot := .opened }
  | .closeSnapshot, _ => { phase with snapshot := .complete }
  | _, _ => phase

def discipline (arch : Arch) : Protocol (Call arch) Answer Phase where
  permits := Phase.permits
  next := fun phase op answer =>
    if op.failed answer = true ∧ op.absorbed = false then { phase with status := .refused }
    else phase.advance op answer

end Calls

/-- The state in which each way of ending is taken. -/
def Phase.Ends : Exit → Phase → Prop
  | .fatal _, phase => phase.status ≠ .blocked
  | .failure, phase => phase.status = .refused
  | .success, phase => phase = ⟨.gone, false, false, .untouched, .fine⟩
  | .hang, phase => phase.status = .blocked

/-!
## The program obeys
-/

section Rules

variable {arch : Arch} {α : Type} {phase : Phase}

private theorem obeys_call (op : Call arch) {post : Answer op → Phase → Prop}
    (permitted : phase.permits op)
    (refused : ∀ answer, op.failed answer = true → op.absorbed = false →
      post answer { phase with status := .refused })
    (advanced : ∀ answer, (op.failed answer = true → op.absorbed = true) →
      post answer (phase.advance op answer)) :
    Obeys (discipline arch) post Phase.Ends phase (call op) := by
  refine Obeys.ask permitted fun answer => ?_
  simp only [discipline]
  split
  · next failure => exact refused answer failure.1 failure.2
  · next fine =>
      refine advanced answer fun failed => ?_
      simpa [failed] using fine

private theorem obeys_ensure {asked : Sys arch Bool} {message : String} {post : Unit → Phase → Prop}
    (answers : Obeys (discipline arch)
      (fun good after => if good then post () after else after.status ≠ .blocked)
      Phase.Ends phase asked) :
    Obeys (discipline arch) post Phase.Ends phase (ensure asked message) := by
  refine Obeys.bind _ answers fun good after holds => ?_
  cases good with
  | true => exact Obeys.pure (by simpa using holds)
  | false => exact Obeys.exit (show after.status ≠ .blocked by simpa using holds)

private theorem obeys_required {asked : Sys arch (Option α)} {message : String}
    {post : α → Phase → Prop} (answers : Obeys (discipline arch)
      (fun answer after => match answer with
        | some value => post value after
        | none => after.status ≠ .blocked) Phase.Ends phase asked) :
    Obeys (discipline arch) post Phase.Ends phase (required asked message) := by
  refine Obeys.bind _ answers fun answer after holds => ?_
  cases answer with
  | some value => exact Obeys.pure holds
  | none => exact Obeys.exit holds

private theorem obeys_asked {op : Call arch} {B : Type} (type : Answer op = B)
    {post : B → Phase → Prop} (permitted : phase.permits op)
    (holds : ∀ answer, post answer ((discipline arch).next phase op (cast type.symm answer))) :
    Obeys (discipline arch) post Phase.Ends phase (cast (congrArg (Sys arch) type) (call op)) := by
  subst type
  exact Obeys.ask permitted holds

/-- A checked call whose answer is a truth value. -/
theorem obeys_checked (op : Call arch) (truth : Answer op = Bool) {message : String}
    (reads : ∀ answer, op.failed (cast truth.symm answer) = !answer) (permitted : phase.permits op)
    (matters : op.absorbed = false) :
    Obeys (discipline arch) (fun _ after => after = phase.advance op (cast truth.symm true))
      Phase.Ends phase (ensure (cast (congrArg (Sys arch) truth) (call op)) message) := by
  refine obeys_ensure (obeys_asked truth permitted fun good => ?_)
  cases good with
  | true => simp [discipline, reads]
  | false => simp [discipline, reads, matters]

/-- A checked call whose answer is a value or nothing. -/
theorem obeys_fetched (op : Call arch) (type : Answer op = Option α) {message : String}
    (reads : ∀ answer, op.failed (cast type.symm answer) = Option.isNone answer)
    (permitted : phase.permits op) (matters : op.absorbed = false) :
    Obeys (discipline arch)
      (fun value after => after = phase.advance op (cast type.symm (some value)))
      Phase.Ends phase (required (cast (congrArg (Sys arch) type) (call op)) message) := by
  refine obeys_required (obeys_asked type permitted fun answer => ?_)
  cases answer with
  | some value => simp [discipline, reads]
  | none => simp [discipline, reads, matters]

private theorem obeys_exitIf {condition : Bool} {code : Exit} {post : Unit → Phase → Prop}
    (taken : condition = true → Phase.Ends code phase)
    (passed : condition = false → post () phase) :
    Obeys (discipline arch) post Phase.Ends phase (exitIf condition code) := by
  cases condition with
  | true => exact Obeys.exit (taken rfl)
  | false => exact Obeys.pure (passed rfl)

private theorem obeys_fatalIf (condition : Bool) (message : String) (fine : phase.status = .fine) :
    Obeys (discipline arch) (fun _ after => after = phase) Phase.Ends phase
      (exitIf condition (.fatal message)) :=
  obeys_exitIf (fun _ => by rw [Phase.Ends, fine]; exact Status.noConfusion) fun _ => rfl

private theorem obeys_waitpid (message : String)
    (permitted : phase.permits (.waitpid : Call arch)) :
    Obeys (discipline arch)
      (fun report after => after = phase.advance (.waitpid : Call arch) (Waited.report report))
      Phase.Ends phase (waitpid message) := by
  refine Obeys.call permitted fun (waited : Waited) => ?_
  cases waited with
  | failed => exact Obeys.exit (Status.noConfusion : Phase.Ends (.fatal message) { phase with status := .refused })
  | blocked => exact Obeys.exit (rfl : Phase.Ends .hang { phase with status := .blocked })
  | report report => exact Obeys.pure (rfl : phase.advance .waitpid (Waited.report report) = _)

end Rules

/-- The child is stopped and nothing has gone wrong. -/
abbrev Phase.atStop (elf maps : Bool) (snapshot : SnapshotPhase) : Phase :=
  ⟨.stopped, elf, maps, snapshot, .fine⟩

section Child

variable {arch : Arch} {elf maps : Bool} {snapshot : SnapshotPhase}

private theorem atStop_permits {op : Call arch} (needs : op.needs = none) (opens : op.opens = none)
    (plain : match op with
      | .fork | .waitpid | .malloc => False
      | _ => True) : (Phase.atStop elf maps snapshot).permits op := by
  refine ⟨rfl, by simp [needs], by simp [opens], ?_, ?_⟩
  · rintro rfl
    cases opens
  · cases op with
    | fork | waitpid | malloc => exact plain.elim
    | _ => rfl

private theorem going_permits {child : ChildPhase} (waitable : child = .going ∨ child = .doomed) :
    (⟨child, elf, maps, snapshot, .fine⟩ : Phase).permits (.waitpid : Call arch) :=
  ⟨rfl, by simp [Call.needs], by simp [Call.opens], by simp, waitable⟩

private theorem waitpid_obeys (message : String) : Obeys (discipline arch)
    (fun report after =>
      after = ⟨if report.isEnd then .gone else .stopped, elf, maps, snapshot, .fine⟩)
    Phase.Ends ⟨.going, elf, maps, snapshot, .fine⟩ (waitpid message) := by
  refine (obeys_waitpid message (going_permits (.inl rfl))).weaken fun report after reached => ?_
  rw [reached]
  simp [Phase.advance]

private theorem forkChild_obeys : Obeys (discipline arch)
    (fun _ after => after = .atStop elf maps snapshot) Phase.Ends
    ⟨.absent, elf, maps, snapshot, .fine⟩ forkChild := by
  have permitted : (⟨.absent, elf, maps, snapshot, .fine⟩ : Phase).permits (.fork : Call arch) :=
    ⟨rfl, by simp [Call.needs], by simp [Call.opens], by simp, rfl⟩
  refine Obeys.andThen _ (obeys_fetched .fork rfl (fun _ => rfl) permitted rfl) fun pid => ?_
  refine Obeys.andThen _ (waitpid_obeys _) fun report => ?_
  cases report with
  | stopped signal => exact Obeys.pure rfl
  | exited status => exact Obeys.exit Status.noConfusion
  | signaled signal => exact Obeys.exit Status.noConfusion
  | other status => exact Obeys.exit Status.noConfusion

private theorem createBreakpoint_obeys (hookAddr : BitVec arch.width) : Obeys (discipline arch)
    (fun _ after => after = .atStop elf maps snapshot) Phase.Ends (.atStop elf maps snapshot)
    (createBreakpoint hookAddr) := by
  refine Obeys.andThen _ (obeys_fetched (.peektext hookAddr) rfl (fun _ => rfl)
    (atStop_permits rfl rfl trivial) rfl) fun word => ?_
  refine Obeys.andThen _ (obeys_checked (.poketext hookAddr _) rfl (fun _ => rfl)
    (atStop_permits rfl rfl trivial) rfl) fun _ => ?_
  exact Obeys.pure rfl

/-- Waiting for the child after it was set going; the program gives up with success if it
has ended. -/
theorem awaitStop_obeys (message : String) : Obeys (discipline arch)
    (fun _ after => after = .atStop false false .untouched) Phase.Ends
    ⟨.going, false, false, .untouched, .fine⟩
    (do
      let status ← waitpid message
      exitIf status.isEnd .success) := by
  refine Obeys.andThen _ (waitpid_obeys _) fun report => ?_
  refine obeys_exitIf (fun ended => ?_) fun going => ?_
  · rw [ended]
    rfl
  · rw [going]
    rfl

private theorem stepPastBreakpoint_obeys (breakpoint : Breakpoint arch) : Obeys (discipline arch)
    (fun _ after => after = .atStop false false .untouched) Phase.Ends
    (.atStop false false .untouched) (stepPastBreakpoint breakpoint) := by
  refine Obeys.andThen _ (obeys_checked .singlestep rfl (fun _ => rfl)
    (atStop_permits rfl rfl trivial) rfl) fun _ => ?_
  rw [← bind_assoc]
  refine Obeys.andThen _ (awaitStop_obeys _) fun _ => ?_
  exact obeys_checked (.poketext _ _) rfl (fun _ => rfl) (atStop_permits rfl rfl trivial) rfl

private theorem executeUpToBreakpoint_obeys (breakpoint : Breakpoint arch) : Obeys (discipline arch)
    (fun _ after => after = .atStop false false .untouched) Phase.Ends
    (.atStop false false .untouched) (executeUpToBreakpoint breakpoint) := by
  refine Obeys.andThen (fun _ => .atStop false false .untouched) ?_ ?_
  · refine Obeys.andThen _ (obeys_fetched .getregs rfl (fun _ => rfl)
      (atStop_permits rfl rfl trivial) rfl) fun regs => ?_
    refine Obeys.andThen (fun _ => .atStop false false .untouched)
      (Obeys.ite (fun _ => stepPastBreakpoint_obeys breakpoint) fun _ => Obeys.pure rfl) fun _ => ?_
    refine Obeys.andThen _ (obeys_checked .cont rfl (fun _ => rfl)
      (atStop_permits rfl rfl trivial) rfl) fun _ => ?_
    exact awaitStop_obeys _
  · intro _
    refine Obeys.andThen _ (obeys_fetched .getregs rfl (fun _ => rfl)
      (atStop_permits rfl rfl trivial) rfl) fun regs => ?_
    refine Obeys.andThen _ (obeys_checked (.setregs _) rfl (fun _ => rfl)
      (atStop_permits rfl rfl trivial) rfl) fun _ => ?_
    exact obeys_checked (.poketext _ _) rfl (fun _ => rfl) (atStop_permits rfl rfl trivial) rfl

end Child

section Files

variable {arch : Arch} {elf maps : Bool} {snapshot : SnapshotPhase}

private theorem file_permits {op : Call arch} {handle : Handle} (needs : op.needs = some handle)
    (held : (Phase.atStop elf maps snapshot).holds handle = true) :
    (Phase.atStop elf maps snapshot).permits op := by
  have opens : op.opens = none := by
    cases op with
    | openElf | openMaps | openSnapshot => cases needs
    | _ => rfl
  refine ⟨rfl, ?_, by simp [opens], ?_, ?_⟩
  · intro other same
    cases needs.symm.trans same
    exact held
  · rintro rfl
    cases opens
  · cases op with
    | fork | waitpid | malloc => cases needs
    | _ => rfl

private theorem readItem_obeys (size : Nat) (message : String) : Obeys (discipline arch)
    (fun _ after => after = .atStop true maps snapshot) Phase.Ends (.atStop true maps snapshot)
    (readItem size message) := by
  refine Obeys.andThen _ (obeys_fetched (.readElf size) rfl (fun _ => rfl) (file_permits rfl rfl) rfl)
    fun bytes => ?_
  refine Obeys.andThen _ (obeys_fatalIf _ _ rfl) fun _ => ?_
  exact Obeys.pure rfl

private theorem seekElf_obeys (offset : Int) (message : String) : Obeys (discipline arch)
    (fun _ after => after = .atStop true maps snapshot) Phase.Ends (.atStop true maps snapshot)
    (ensure (call (.seekElf offset)) message) :=
  obeys_checked (.seekElf offset) rfl (fun _ => rfl) (file_permits rfl rfl) rfl

private theorem detectElfClass_obeys : Obeys (discipline arch)
    (fun _ after => after = .atStop true maps snapshot) Phase.Ends (.atStop true maps snapshot)
    detectElfClass := by
  refine Obeys.andThen _ (seekElf_obeys _ _) fun _ => ?_
  refine Obeys.andThen _ (obeys_fetched (.readElf _) rfl (fun _ => rfl) (file_permits rfl rfl) rfl)
    fun eIdent => ?_
  refine Obeys.andThen _ (obeys_fatalIf _ _ rfl) fun _ => ?_
  refine Obeys.andThen _ (obeys_fatalIf _ _ rfl) fun _ => ?_
  cases elfClassOf eIdent with
  | some elfClass => exact Obeys.pure rfl
  | none => exact Obeys.exit Status.noConfusion

private theorem openElf_obeys (pid : Nat) : Obeys (discipline arch)
    (fun _ after => after = .atStop true maps snapshot) Phase.Ends (.atStop false maps snapshot)
    (openElf pid) := by
  have permitted : (Phase.atStop false maps snapshot).permits (.openElf : Call arch) :=
    ⟨rfl, by simp [Call.needs], by simp [Call.opens, Phase.holds], by simp, rfl⟩
  refine Obeys.andThen _ (obeys_checked .openElf rfl (fun _ => rfl) permitted rfl) fun _ => ?_
  refine Obeys.andThen _ detectElfClass_obeys fun elfClass => ?_
  -- `rewind` is not checked: whatever it answers, the file is still open
  refine Obeys.andThen (fun _ => .atStop true maps snapshot)
    (obeys_call .rewindElf (file_permits rfl rfl) (fun _ _ matters => by cases matters)
      fun _ _ => rfl) fun _ => ?_
  refine Obeys.andThen _ (readItem_obeys _ _) fun ehdr => ?_
  refine Obeys.andThen _ (obeys_checked .filenoElf rfl (fun _ => rfl) (file_permits rfl rfl) rfl)
    fun _ => ?_
  refine Obeys.andThen _ (obeys_fetched .readlinkElf rfl (fun _ => rfl) (file_permits rfl rfl) rfl)
    fun target => ?_
  exact Obeys.pure rfl

private theorem minVaddrLoop_obeys (info : ElfInfo) (indices : List Nat) (minVaddr : BitVec 64) :
    Obeys (discipline arch) (fun _ after => after = .atStop true maps snapshot) Phase.Ends
      (.atStop true maps snapshot) (minVaddrLoop info indices minVaddr) := by
  induction indices generalizing minVaddr with
  | nil => exact Obeys.pure rfl
  | cons index rest ih =>
      refine Obeys.andThen (fun _ => .atStop true maps snapshot) ?_ ?_
      · refine Obeys.andThen _ (seekElf_obeys _ _) fun _ => ?_
        refine Obeys.andThen _ (readItem_obeys _ _) fun phdr => ?_
        exact Obeys.pure rfl
      · intro lowest
        exact ih lowest

private theorem createMapsIter_obeys (stale : MapsEntry) (pid : Nat) : Obeys (discipline arch)
    (fun _ after => after = .atStop elf true snapshot) Phase.Ends (.atStop elf false snapshot)
    (createMapsIter stale pid) := by
  have permitted : (Phase.atStop elf false snapshot).permits (.openMaps : Call arch) :=
    ⟨rfl, by simp [Call.needs], by simp [Call.opens, Phase.holds], by simp, rfl⟩
  refine Obeys.andThen _ (obeys_fatalIf _ _ rfl) fun _ => ?_
  refine Obeys.andThen _ (obeys_fetched .openMaps rfl (fun _ => rfl) permitted rfl) fun file => ?_
  exact Obeys.pure rfl

/-- The loop over the maps closes the file behind the last line, provided that its body
leaves the protocol where it was. -/
theorem forEntries_obeys {σ : Type} (body : MapsEntry → σ → Sys arch σ)
    (keeps : ∀ entry state, Obeys (discipline arch)
      (fun _ after => after = .atStop elf true snapshot) Phase.Ends (.atStop elf true snapshot)
      (body entry state)) (entry : MapsEntry) (texts : List (List Byte)) (state : σ) :
    Obeys (discipline arch) (fun _ after => after = .atStop elf false snapshot) Phase.Ends
      (.atStop elf true snapshot) (forEntries body entry texts state) := by
  have lines : ∀ message, Obeys (discipline arch)
      (fun _ after => after = .atStop elf true snapshot) Phase.Ends (.atStop elf true snapshot)
      (ensure (call .getline) message) := fun message =>
    obeys_checked .getline rfl (fun _ => rfl) (file_permits rfl rfl) rfl
  induction texts generalizing entry state with
  | nil =>
      refine Obeys.andThen (fun _ => .atStop elf false snapshot) ?_ ?_
      · refine Obeys.andThen _ (lines _) fun _ => ?_
        exact obeys_checked .closeMaps rfl (fun _ => rfl) (file_permits rfl rfl) rfl
      · intro _
        exact Obeys.pure rfl
  | cons text texts ih =>
      refine Obeys.andThen (fun _ => .atStop elf true snapshot) ?_ ?_
      · refine Obeys.andThen _ (lines _) fun _ => ?_
        unfold parseMapsStr
        split
        · exact Obeys.pure rfl
        · exact Obeys.exit Status.noConfusion
      · intro filled
        refine Obeys.andThen _ (keeps filled state) fun next => ?_
        exact ih filled next

private theorem getImageBase_obeys (stale : MapsEntry) (pid : Nat) : Obeys (discipline arch)
    (fun _ after => after = .atStop false false snapshot) Phase.Ends (.atStop false false snapshot)
    (getImageBase stale pid) := by
  refine Obeys.andThen _ (openElf_obeys pid) fun info => ?_
  refine Obeys.andThen (fun _ => .atStop true false snapshot) ?_ ?_
  · refine Obeys.andThen (fun _ => .atStop true false snapshot) ?_ ?_
    · refine Obeys.andThen _ (obeys_fatalIf _ _ rfl) fun _ => ?_
      exact Obeys.pure rfl
    · intro pie
      refine Obeys.ite (fun _ => ?_) fun _ => Obeys.pure rfl
      refine Obeys.andThen _ (minVaddrLoop_obeys _ _ _) fun minVaddr => ?_
      refine Obeys.andThen _ (createMapsIter_obeys _ _) fun iter => ?_
      refine Obeys.andThen _ (forEntries_obeys _ (fun _ _ => Obeys.pure rfl) _ _ _)
        fun minMapsAddr => ?_
      refine Obeys.andThen _ (obeys_fatalIf _ _ rfl) fun _ => ?_
      exact Obeys.pure rfl
  · intro imageBase
    refine Obeys.andThen _ (obeys_checked .closeElf rfl (fun _ => rfl) (file_permits rfl rfl) rfl)
      fun _ => ?_
    exact Obeys.pure rfl

private theorem copyContent_obeys (readable : Bool) (address : BitVec arch.width) (remaining : Nat)
    (buffer : Buffer) : Obeys (discipline arch)
      (fun _ after => after = .atStop elf maps .opened) Phase.Ends (.atStop elf maps .opened)
      (copyContent readable address remaining buffer) := by
  induction remaining using Nat.strong_induction_on generalizing address buffer with
  | h remaining ih =>
      unfold copyContent
      refine Obeys.ite (fun _ => Obeys.pure rfl) fun more => ?_
      have positive := bufferSize_pos
      refine Obeys.andThen (fun _ => .atStop elf maps .opened) ?_ ?_
      · refine Obeys.ite (fun _ => ?_) fun _ => Obeys.pure rfl
        refine Obeys.andThen (fun _ => .atStop elf maps .opened)
          (obeys_call (.processVmReadv _ _ _) (atStop_permits rfl rfl trivial)
            (fun _ _ matters => by cases matters) fun _ _ => rfl) ?_
        intro ⟨result, filled⟩
        exact Obeys.ite (fun _ => Obeys.pure rfl) fun _ => Obeys.pure rfl
      · intro filled
        refine Obeys.andThen _ (obeys_checked (.write _) rfl (fun _ => rfl)
          (file_permits rfl rfl) rfl) fun _ => ?_
        exact ih _ (by split <;> omega) _ _

private theorem dumpMapping_obeys (entry : MapsEntry) (buffer : Buffer) : Obeys (discipline arch)
    (fun _ after => after = .atStop elf maps .opened) Phase.Ends (.atStop elf maps .opened)
    (dumpMapping entry buffer) := by
  refine Obeys.ite (fun _ => Obeys.pure rfl) fun _ => ?_
  refine Obeys.andThen _ (obeys_checked (.write _) rfl (fun _ => rfl) (file_permits rfl rfl) rfl)
    fun _ => ?_
  exact copyContent_obeys _ _ _ _

private theorem malloc_obeys (message : String) {child : ChildPhase}
    (early : child = .absent ∨ child = .stopped) : Obeys (discipline arch)
    (fun _ after => after = ⟨child, elf, maps, snapshot, .fine⟩) Phase.Ends
    ⟨child, elf, maps, snapshot, .fine⟩ (ensure (call .malloc) message) :=
  obeys_checked .malloc rfl (fun _ => rfl)
    ⟨rfl, by simp [Call.needs], by simp [Call.opens], by simp, early⟩ rfl

private theorem dumpMappingsContent_obeys (stale : MapsEntry) (buffer : Buffer) (pid : Nat) :
    Obeys (discipline arch) (fun _ after => after = .atStop elf false .opened) Phase.Ends
      (.atStop elf false .opened) (dumpMappingsContent stale buffer pid) := by
  refine Obeys.andThen _ (createMapsIter_obeys _ _) fun iter => ?_
  refine Obeys.andThen _ (malloc_obeys _ (.inr rfl)) fun _ => ?_
  refine Obeys.andThen _ (forEntries_obeys _ dumpMapping_obeys _ _ _) fun final => ?_
  -- the one failure that ends the run without a fatal message
  refine Obeys.andThen (fun (flushed : Bool) =>
      ⟨.stopped, elf, false, .opened, if flushed then .fine else .refused⟩)
    (obeys_call .flush (file_permits rfl rfl) ?_ ?_) ?_
  · intro (flushed : Bool) failure _
    cases flushed with
    | true => cases failure
    | false => rfl
  · intro (flushed : Bool) fine
    cases flushed with
    | true => rfl
    | false => cases fine rfl
  · intro flushed
    cases flushed with
    | true => exact Obeys.pure rfl
    | false => exact Obeys.exit rfl

/-- `dump_snapshot` once its file is open. -/
def fillSnapshot (stale : MapsEntry) (buffer : Buffer) (snapshot : List Byte) (pid : Nat) :
    Sys arch Unit := do
  ensure (call (.write snapshot)) "fwrite of the snapshot header to '%s' failed"
  dumpMappingsContent stale buffer pid
  ensure (call .closeSnapshot) "fclose('%s') failed"

theorem fillSnapshot_obeys (stale : MapsEntry) (buffer : Buffer) (bytes : List Byte) (pid : Nat) :
    Obeys (discipline arch) (fun _ after => after = .atStop elf false .complete) Phase.Ends
      (.atStop elf false .opened) (fillSnapshot stale buffer bytes pid) := by
  refine Obeys.andThen _ (obeys_checked (.write _) rfl (fun _ => rfl) (file_permits rfl rfl) rfl)
    fun _ => ?_
  refine Obeys.andThen _ (dumpMappingsContent_obeys _ _ _) fun _ => ?_
  exact obeys_checked .closeSnapshot rfl (fun _ => rfl) (file_permits rfl rfl) rfl

private theorem dumpSnapshot_obeys (stale : MapsEntry) (buffer : Buffer) (bytes : List Byte)
    (pid : Nat) :
    Obeys (discipline arch) (fun _ after => after = .atStop elf false .complete) Phase.Ends
      (.atStop elf false .untouched) (dumpSnapshot stale buffer bytes pid) := by
  have permitted : (Phase.atStop elf false .untouched).permits (.openSnapshot : Call arch) :=
    ⟨rfl, by simp [Call.needs], by simp [Call.opens, Phase.holds], fun _ => rfl, rfl⟩
  refine Obeys.andThen _ (obeys_checked .openSnapshot rfl (fun _ => rfl) permitted rfl) fun _ => ?_
  exact fillSnapshot_obeys stale buffer bytes pid

end Files

section Target

variable {elf maps : Bool} {snapshot : SnapshotPhase}

private theorem fillTls_obeys (gdtEntryTlsMin : Nat) {indices : List Nat}
    (required : ∀ index ∈ indices, index ≠ gdtEntryTlsMinTrueI386) (tls : Tls) :
    Obeys (discipline .i386) (fun _ after => after = .atStop elf maps snapshot) Phase.Ends
      (.atStop elf maps snapshot) (fillTls gdtEntryTlsMin indices tls) := by
  induction indices generalizing tls with
  | nil => exact Obeys.pure rfl
  | cons index rest ih =>
      obtain ⟨first, others⟩ := List.forall_mem_cons.mp required
      refine Obeys.andThen _ (obeys_fetched (.getThreadArea index) rfl (fun _ => rfl)
        (atStop_permits rfl rfl trivial) (by simpa [Call.absorbed] using first)) fun desc => ?_
      exact ih others _

private theorem createSnapshot_obeys (uninitialised : Tls) (platform : Platform) :
    Obeys (discipline platform.arch) (fun _ after => after = .atStop elf maps snapshot) Phase.Ends
      (.atStop elf maps snapshot) (createSnapshot uninitialised platform) := by
  cases platform with
  | x86_64 =>
      refine Obeys.andThen _ (obeys_fetched .getregs rfl (fun _ => rfl)
        (atStop_permits rfl rfl trivial) rfl) fun regs => ?_
      exact Obeys.pure rfl
  | i386 =>
      refine Obeys.andThen _ (obeys_fetched .getregs rfl (fun _ => rfl)
        (atStop_permits rfl rfl trivial) rfl) fun regs => ?_
      refine Obeys.andThen (fun _ => .atStop elf maps snapshot) ?_ ?_
      · refine Obeys.andThen (fun _ => .atStop elf maps snapshot)
          (obeys_call (.getThreadArea _) (atStop_permits rfl rfl trivial)
            (fun _ _ matters => by cases matters) fun _ _ => rfl) ?_
        intro (answer : Option UserDesc)
        cases answer with
        | some desc => exact fillTls_obeys _ (by decide) _
        | none => exact fillTls_obeys _ (by decide) _
      · intro tls
        exact Obeys.pure rfl

/-- `main` has returned: it did nothing but complain about its arguments, or the snapshot
is complete and every file closed. The last `waitpid` may have failed. -/
def Phase.Returns : Exit → Phase → Prop
  | .failure, phase => phase = ⟨.absent, false, false, .untouched, .fine⟩
  | .success, phase => phase = ⟨.gone, false, false, .complete, .fine⟩ ∨
      phase = ⟨.doomed, false, false, .complete, .refused⟩
  | _, _ => False

private theorem runTarget_obeys (platform : Platform) (locals : Locals)
    (addr : BitVec platform.arch.width) : Obeys (discipline platform.arch)
      (fun _ after => Phase.Returns .success after) Phase.Ends
      ⟨.absent, false, false, .untouched, .fine⟩ (runTarget platform locals addr) := by
  refine Obeys.andThen _ forkChild_obeys fun pid => ?_
  refine Obeys.andThen _ (getImageBase_obeys _ _) fun imageBase => ?_
  refine Obeys.andThen _ (createBreakpoint_obeys _) fun breakpoint => ?_
  refine Obeys.andThen _ (executeUpToBreakpoint_obeys _) fun _ => ?_
  refine Obeys.andThen _ (createSnapshot_obeys _ _) fun state => ?_
  refine Obeys.andThen _ (dumpSnapshot_obeys _ _ _ _) fun _ => ?_
  refine Obeys.andThen (fun _ => ⟨.doomed, false, false, .complete, .fine⟩)
    (obeys_call .kill (atStop_permits rfl rfl trivial) (fun _ _ matters => by cases matters)
      fun _ _ => rfl) fun _ => ?_
  refine Obeys.call (going_permits (.inr rfl)) fun (waited : Waited) => ?_
  cases waited with
  | failed => exact Obeys.pure (Or.inr rfl)
  | blocked =>
      exact Obeys.exit (rfl : Phase.Ends .hang ⟨.doomed, false, false, .complete, .blocked⟩)
  | report report =>
      refine Obeys.pure (Or.inl ?_)
      simp [discipline, Call.failed, Call.absorbed, Phase.advance]

theorem main_obeys (platform : Platform) (locals : Locals) (argv : List (List Byte)) :
    Obeys (discipline platform.arch) Phase.Returns Phase.Ends
      ⟨.absent, false, false, .untouched, .fine⟩ (main platform locals argv) := by
  unfold main
  split
  · split
    · exact Obeys.exit Status.noConfusion
    · refine Obeys.andThen _ (malloc_obeys _ (.inl rfl)) fun _ => ?_
      exact Obeys.bind _ (runTarget_obeys platform locals _) fun _ _ returned => Obeys.pure returned
  · exact Obeys.pure rfl

end Target

end ProcessBridge.Snapshotter
