import ProcessBridge.Snapshotter.Discipline
import ProcessBridge.Snapshotter.MainProperties

/-! The log of a whole run of the snapshotter, for every kernel. The protocol that
the program obeys is followed along the run next to the world, and what the
world records of each call is read off the state of the protocol. -/

set_option autoImplicit false

namespace ProcessBridge.Snapshotter

open Library Common Program

variable {arch : Arch}

/-!
## What the log shows
-/

/-- Whether a file is open after the calls of a log. -/
def held (handle : Handle) (log : List (Entry arch)) : Bool :=
  log.foldl (fun isOpen entry =>
    if entry.succeeded = false then isOpen
    else if entry.call.opens = some handle then true
    else if entry.call.closes = some handle then false
    else isOpen) false

private theorem held_append (handle : Handle) (log : List (Entry arch)) (entry : Entry arch) :
    held handle (log ++ [entry]) =
      if entry.succeeded = false then held handle log
      else if entry.call.opens = some handle then true
      else if entry.call.closes = some handle then false
      else held handle log := by
  rw [held, List.foldl_append]
  rfl

/-- The state of the child in which each call may be made. -/
def Entry.ChildReady (front : List (Entry arch)) (entry : Entry arch) : Prop :=
  match entry.call with
  | .fork => entry.child = .absent
  | .waitpid => (∃ resume tracee, entry.child = .running resume tracee) ∨
      ∃ earlier ∈ front, earlier.call = .kill
  | .malloc => True
  | _ => ∃ tracee, entry.child = .stopped tracee

/-- A call is in order after the calls before it if the child is in the right state and
the file it needs is open, or closed if it is to be opened. -/
structure Entry.InOrder (front : List (Entry arch)) (entry : Entry arch) : Prop where
  child : entry.ChildReady front
  needs : ∀ handle, entry.call.needs = some handle → held handle front = true
  opens : ∀ handle, entry.call.opens = some handle → held handle front = false

/-- A refused call whose failure is not absorbed. -/
def Entry.Fatal (entry : Entry arch) : Prop :=
  entry.succeeded = false ∧ entry.call.absorbed = false

/-!
## One call
-/

def ChildPhase.Matches : ChildPhase → Child arch → Prop
  | .absent, child => child = .absent
  | .going, child => ∃ resume tracee, child = .running resume tracee
  | .stopped, child => ∃ tracee, child = .stopped tracee
  | .doomed, child => child = .dead ∨ ∃ tracee, child = .stopped tracee
  | .gone, child => child = .dead

theorem refusal_failed (kernel : Kernel arch) (count : Nat) (op : Call arch) :
    op.failed (kernel.refusal count op) = true := by
  cases op with
  | _ => rfl

private theorem advance_holds (phase : Phase) (op : Call arch) (answer : Answer op)
    (handle : Handle) :
    (phase.advance op answer).holds handle =
      if op.opens = some handle then true
      else if op.closes = some handle then false
      else phase.holds handle := by
  cases op with
  | waitpid =>
      cases (show Waited from answer) with
      | _ => cases handle <;> rfl
  | _ => cases handle <;> rfl

private theorem advance_doomed {phase : Phase} {op : Call arch} {answer : Answer op}
    (doomed : (phase.advance op answer).child = .doomed) : op = .kill ∨ phase.child = .doomed := by
  cases op with
  | kill => exact .inl rfl
  | fork | cont | singlestep => cases doomed
  | waitpid =>
      change Waited at answer
      cases answer with
      | failed | blocked => exact .inr doomed
      | report report =>
          simp only [Phase.advance] at doomed
          split at doomed <;> cases doomed
  | _ => exact .inr doomed

private theorem advance_untouched {phase : Phase} {op : Call arch} {answer : Answer op}
    (untouched : (phase.advance op answer).snapshot = .untouched) :
    op ≠ .openSnapshot ∧ phase.snapshot = .untouched := by
  cases op with
  | openSnapshot | closeSnapshot => cases untouched
  | waitpid =>
      change Waited at answer
      cases answer with
      | _ => exact ⟨nofun, untouched⟩
  | _ => exact ⟨nofun, untouched⟩

private theorem advance_complete {phase : Phase} {op : Call arch} {answer : Answer op}
    (complete : (phase.advance op answer).snapshot = .complete) :
    op = .closeSnapshot ∨ phase.snapshot = .complete := by
  cases op with
  | closeSnapshot => exact .inl rfl
  | openSnapshot => cases complete
  | waitpid =>
      change Waited at answer
      cases answer with
      | _ => exact .inr complete
  | _ => exact .inr complete

private theorem advance_status {phase : Phase} {op : Call arch} (answer : Answer op)
    (fine : phase.status = .fine) : (phase.advance op answer).status ≠ .refused := by
  cases op with
  | waitpid =>
      change Waited at answer
      cases answer with
      | blocked => exact Status.noConfusion
      | failed | report =>
          change phase.status ≠ .refused
          rw [fine]
          exact Status.noConfusion
  | _ =>
      change phase.status ≠ .refused
      rw [fine]
      exact Status.noConfusion

private theorem absorbed_files {op : Call arch} (absorbed : op.absorbed = true) :
    op.opens = none ∧ op.closes = none := by
  cases op with
  | processVmReadv | kill | getThreadArea | rewindElf => exact ⟨rfl, rfl⟩
  | _ => cases absorbed

theorem perform_waitpid_dead (kernel : Kernel arch) (count : Nat) {world : World arch}
    (dead : world.child = .dead) :
    kernel.perform count .waitpid world = (Waited.report (.signaled 9), world) := by
  simp only [Kernel.perform, Kernel.wait, dead]
  rfl

theorem perform_waitpid_stopped (kernel : Kernel arch) (count : Nat) {world : World arch}
    {tracee : Tracee arch} (stopped : world.child = .stopped tracee) :
    kernel.perform count .waitpid world = (Waited.blocked, world) := by
  simp only [Kernel.perform, Kernel.wait, stopped]
  rfl

/-- A call leaves the protocol stuck with the child as it was, or it moves the protocol
and the child together. -/
theorem discipline_answer (kernel : Kernel arch) {phase : Phase} {op : Call arch}
    {world : World arch} (permitted : phase.permits op)
    (tracked : phase.child.Matches world.child) :
    ∃ succeeded, (kernel.answer op world).2.log =
        world.log ++ [⟨op, world.child, succeeded⟩] ∧
      (((discipline arch).next phase op (kernel.answer op world).1 =
          { phase with status := .refused } ∧
        (kernel.answer op world).2.child = world.child ∧
        (succeeded = true → op.opens = none ∧ op.closes = none)) ∨
      ((discipline arch).next phase op (kernel.answer op world).1 =
          phase.advance op (kernel.answer op world).1 ∧
        (succeeded = false → op.absorbed = true) ∧
        (phase.advance op (kernel.answer op world).1).child.Matches
          (kernel.answer op world).2.child)) := by
  rcases kernel.answer_cases op world with ⟨_, answered⟩ | ⟨_, answered⟩
  · rw [answered]
    refine ⟨false, rfl, ?_⟩
    cases absorbed : op.absorbed with
    | false =>
        refine .inl ⟨?_, rfl, Bool.noConfusion⟩
        simp [discipline, refusal_failed, absorbed]
    | true =>
        refine .inr ⟨by simp [discipline, absorbed], fun _ => rfl, ?_⟩
        have stopped := permitted.2.2.2.2
        cases op with
        | processVmReadv | getThreadArea | rewindElf => exact tracked
        | kill =>
            rw [show phase.child = .stopped from stopped] at tracked
            exact .inr tracked
        | _ => cases absorbed
  · rw [answered]
    refine ⟨true, by rw [kernel.perform_log]; rfl, ?_⟩
    have ready := permitted.2.2.2.2
    cases op with
    | fork => exact .inr ⟨rfl, Bool.noConfusion, _, _, rfl⟩
    | waitpid =>
        rcases ready with going | doomed
        · rw [going] at tracked
          obtain ⟨resume, tracee, running⟩ := tracked
          have kept : (world.record .waitpid true).child = .running resume tracee := running
          rw [perform_waitpid kernel _ kept]
          cases kernel.report world.log.length resume tracee with
          | none =>
              refine .inr ⟨rfl, Bool.noConfusion, ?_⟩
              change phase.child.Matches world.child
              rw [going]
              exact ⟨resume, tracee, running⟩
          | some answer =>
              obtain ⟨report, after⟩ := answer
              refine .inr ⟨rfl, Bool.noConfusion, ?_⟩
              cases ended : report.isEnd with
              | true => simp [Phase.advance, ended, childAfter_ended, ChildPhase.Matches]
              | false => simp [Phase.advance, ended, going, childAfter_stopped, ChildPhase.Matches]
        · rw [doomed] at tracked
          rcases tracked with dead | ⟨tracee, stopped⟩
          · have kept : (world.record .waitpid true).child = .dead := dead
            rw [perform_waitpid_dead kernel _ kept]
            refine .inr ⟨rfl, Bool.noConfusion, ?_⟩
            change (if phase.child = .doomed ∨ _ then ChildPhase.gone else .stopped).Matches world.child
            rw [if_pos (.inl doomed)]
            exact dead
          · have kept : (world.record .waitpid true).child = .stopped tracee := stopped
            rw [perform_waitpid_stopped kernel _ kept]
            refine .inr ⟨rfl, Bool.noConfusion, ?_⟩
            change phase.child.Matches world.child
            rw [doomed]
            exact .inr ⟨tracee, stopped⟩
    | kill =>
        rw [show phase.child = .stopped from ready] at tracked
        obtain ⟨tracee, stopped⟩ := tracked
        have alive : (world.record .kill true).child.alive = true := by
          rw [record_child, stopped]
          rfl
        refine .inr ⟨rfl, Bool.noConfusion, .inl ?_⟩
        exact if_pos alive
    | getregs | setregs | peektext | poketext | getThreadArea =>
        have here : phase.child = .stopped := ready
        rw [here] at tracked
        obtain ⟨tracee, stopped⟩ := tracked
        have kept : ∀ op, (world.record op true).child = .stopped tracee := fun _ => stopped
        simp only [Kernel.perform, Kernel.onStopped, kept]
        refine .inr ⟨rfl, Bool.noConfusion, ?_⟩
        change phase.child.Matches (.stopped _)
        rw [here]
        exact ⟨_, rfl⟩
    | cont | singlestep =>
        have here : phase.child = .stopped := ready
        rw [here] at tracked
        obtain ⟨tracee, stopped⟩ := tracked
        have kept : ∀ op, (world.record op true).child = .stopped tracee := fun _ => stopped
        simp only [Kernel.perform, Kernel.onStopped, kept]
        refine .inr ⟨rfl, Bool.noConfusion, ?_⟩
        exact ⟨_, _, rfl⟩
    | seekElf offset =>
        by_cases forward : 0 ≤ offset
        · simp only [Kernel.perform, if_pos forward]
          exact .inr ⟨rfl, Bool.noConfusion, tracked⟩
        · simp only [Kernel.perform, if_neg forward]
          exact .inl ⟨by simp [discipline, Call.failed, Call.absorbed], rfl, fun _ => ⟨rfl, rfl⟩⟩
    | processVmReadv address size buffer =>
        exact .inr ⟨by simp [discipline, Call.absorbed], Bool.noConfusion, tracked⟩
    | _ => exact .inr ⟨rfl, Bool.noConfusion, tracked⟩

/-!
## The whole run
-/

/-- The protocol keeps up with the world, and the log is as it should be. -/
structure Tracks (phase : Phase) (world : World arch) : Prop where
  child : phase.child.Matches world.child
  killed : phase.child = .doomed → ∃ entry ∈ world.log, entry.call = .kill
  files : ∀ handle, held handle world.log = phase.holds handle
  untouched : phase.snapshot = .untouched →
    ∀ entry ∈ world.log, entry.call = .openSnapshot → entry.succeeded = false
  complete : phase.snapshot = .complete →
    ∃ entry ∈ world.log, entry.call = .closeSnapshot ∧ entry.succeeded = true
  order : ∀ (index : Nat) (entry : Entry arch), world.log[index]? = some entry →
    entry.InOrder (world.log.take index)
  failStop : ∀ (index : Nat) (entry : Entry arch), world.log[index]? = some entry → entry.Fatal →
    index + 1 = world.log.length
  fine : phase.status ≠ .refused → ∀ entry ∈ world.log, ¬ entry.Fatal
  waited : phase.child = .doomed → phase.status = .refused →
    ∃ entry, world.log.getLast? = some entry ∧ entry.call = .waitpid

private theorem tracks_initial :
    Tracks ⟨.absent, false, false, .untouched, .fine⟩ (World.initial arch) where
  child := rfl
  killed := nofun
  files := fun handle => by cases handle <;> rfl
  untouched := fun _ _ member => by cases member
  complete := nofun
  order := fun _ _ found => by simp [World.initial] at found
  failStop := fun _ _ found => by simp [World.initial] at found
  fine := fun _ _ member => by cases member
  waited := nofun

section Step

variable {phase : Phase} {op : Call arch} {world : World arch}

theorem Tracks.inOrder (tracks : Tracks phase world) (permitted : phase.permits op)
    (succeeded : Bool) : Entry.InOrder world.log ⟨op, world.child, succeeded⟩ where
  child := by
    have ready := permitted.2.2.2.2
    have matched := tracks.child
    cases op with
    | fork => rwa [show phase.child = .absent from ready] at matched
    | waitpid =>
        rcases ready with going | doomed
        · rw [going] at matched
          exact .inl matched
        · exact .inr (tracks.killed doomed)
    | malloc => trivial
    | _ => rwa [show phase.child = .stopped from ready] at matched
  needs := fun handle needed => by rw [tracks.files, permitted.2.1 handle needed]
  opens := fun handle opened => by rw [tracks.files, permitted.2.2.1 handle opened]

/-- A property of every entry and the calls before it is kept by appending one. -/
theorem getElem?_append_cases {log : List (Entry arch)} {entry found : Entry arch} {index : Nat}
    (here : (log ++ [entry])[index]? = some found) :
    (log[index]? = some found ∧ index < log.length) ∨ (index = log.length ∧ found = entry) := by
  rcases Nat.lt_trichotomy index log.length with inside | rfl | outside
  · rw [List.getElem?_append_left inside] at here
    exact .inl ⟨here, inside⟩
  · rw [List.getElem?_concat_length] at here
    exact .inr ⟨rfl, (Option.some.inj here).symm⟩
  · rw [List.getElem?_eq_none (by simp; omega)] at here
    cases here

theorem Tracks.answer (kernel : Kernel arch) (tracks : Tracks phase world)
    (permitted : phase.permits op) :
    Tracks ((discipline arch).next phase op (kernel.answer op world).1)
      (kernel.answer op world).2 := by
  obtain ⟨succeeded, log, moved⟩ := discipline_answer kernel permitted tracks.child
  have clean : ∀ entry ∈ world.log, ¬ entry.Fatal :=
    tracks.fine (by rw [permitted.1]; exact Status.noConfusion)
  have order : ∀ (index : Nat) (entry : Entry arch),
      (kernel.answer op world).2.log[index]? = some entry →
      entry.InOrder ((kernel.answer op world).2.log.take index) := by
    intro index entry here
    rw [log] at here ⊢
    rcases getElem?_append_cases here with ⟨old, inside⟩ | ⟨rfl, rfl⟩
    · rw [List.take_append_of_le_length inside.le]
      exact tracks.order index entry old
    · rw [List.take_left]
      exact tracks.inOrder permitted succeeded
  have failStop : ∀ (index : Nat) (entry : Entry arch),
      (kernel.answer op world).2.log[index]? = some entry → entry.Fatal →
      index + 1 = (kernel.answer op world).2.log.length := by
    intro index entry here fatal
    rw [log] at here ⊢
    rcases getElem?_append_cases here with ⟨old, _⟩ | ⟨rfl, rfl⟩
    · exact absurd fatal (clean entry (List.mem_of_getElem? old))
    · simp
  have grown : ∀ entry ∈ world.log, entry ∈ (kernel.answer op world).2.log := by
    intro entry member
    rw [log]
    exact List.mem_append_left _ member
  rcases moved with ⟨stuck, child, plain⟩ | ⟨advanced, absorbs, matched⟩
  · rw [stuck]
    refine ⟨by rw [child]; exact tracks.child, ?_, ?_, ?_, ?_, order, failStop, by simp, ?_⟩
    · intro doomed
      obtain ⟨entry, member, killed⟩ := tracks.killed doomed
      exact ⟨entry, grown entry member, killed⟩
    · intro handle
      change held handle _ = phase.holds handle
      rw [log, held_append, tracks.files]
      cases succeeded with
      | false => rfl
      | true => simp [plain rfl]
    · intro untouched entry member opened
      rw [log, List.mem_append, List.mem_singleton] at member
      rcases member with old | rfl
      · exact tracks.untouched untouched entry old opened
      · cases succeeded with
        | false => rfl
        | true =>
            have none := (plain rfl).1
            rw [show op = .openSnapshot from opened] at none
            cases none
    · intro complete
      obtain ⟨entry, member, closed⟩ := tracks.complete complete
      exact ⟨entry, grown entry member, closed⟩
    · intro doomed _
      refine ⟨_, by rw [log, List.getLast?_concat], ?_⟩
      have ready := permitted.2.2.2.2
      rw [show phase.child = .doomed from doomed] at ready
      cases op with
      | waitpid => rfl
      | malloc => simp at ready
      | _ => cases ready
  · rw [advanced]
    refine ⟨matched, ?_, ?_, ?_, ?_, order, failStop, ?_, fun _ refused => ?_⟩
    · intro doomed
      rcases advance_doomed doomed with rfl | before
      · exact ⟨_, by rw [log]; exact List.mem_append_right _ (List.mem_singleton_self _), rfl⟩
      · obtain ⟨entry, member, killed⟩ := tracks.killed before
        exact ⟨entry, grown entry member, killed⟩
    · intro handle
      rw [log, held_append, tracks.files, advance_holds]
      cases succeeded with
      | true => rfl
      | false => simp [absorbed_files (absorbs rfl)]
    · intro untouched entry member opened
      obtain ⟨other, before⟩ := advance_untouched untouched
      rw [log, List.mem_append, List.mem_singleton] at member
      rcases member with old | rfl
      · exact tracks.untouched before entry old opened
      · exact absurd opened other
    · intro complete
      rcases advance_complete complete with rfl | before
      · refine ⟨_, by rw [log]; exact List.mem_append_right _ (List.mem_singleton_self _), rfl, ?_⟩
        cases succeeded with
        | true => rfl
        | false => cases absorbs rfl
      · obtain ⟨entry, member, closed⟩ := tracks.complete before
        exact ⟨entry, grown entry member, closed⟩
    · intro _ entry member fatal
      rw [log, List.mem_append, List.mem_singleton] at member
      rcases member with old | rfl
      · exact clean entry old fatal
      · cases (absorbs fatal.1).symm.trans fatal.2
    · exact absurd refused (advance_status _ permitted.1)

end Step

/-- At the end of every run of `main` some state of the protocol keeps up with the world,
and it is one in which the program may end as it does. -/
theorem main_tracked (platform : Platform) (kernel : Kernel platform.arch) (locals : Locals)
    (argv : List (List Byte)) :
    ∃ phase, Tracks phase ((main platform locals argv).run kernel.answer (.initial platform.arch)).2 ∧
      Obeys.Ended Phase.Returns Phase.Ends
        ((main platform locals argv).run kernel.answer (.initial platform.arch)).1 phase :=
  (main_obeys platform locals argv).run_related kernel.answer Tracks
    (fun _ _ _ permitted tracks => tracks.answer kernel permitted) _ tracks_initial

/-- No failure goes unnoticed: a refused call whose failure is not absorbed is the last
call of the run, and the snapshotter does not report success, unless the call
is the `waitpid` after the snapshot was closed and the child killed. -/
theorem main_failStop (platform : Platform) (kernel : Kernel platform.arch) (locals : Locals)
    (argv : List (List Byte)) (result : Except Exit Exit) (final : World platform.arch)
    (ran : (main platform locals argv).run kernel.answer (.initial platform.arch) =
      (result, final)) (index : Nat) (entry : Entry platform.arch)
    (made : final.log[index]? = some entry) (refused : entry.succeeded = false)
    (matters : entry.call.absorbed = false) :
    index + 1 = final.log.length ∧
      ((∃ message, result = .error (.fatal message)) ∨ result = .error .failure ∨
        (entry.call = .waitpid ∧ result = .ok .success ∧
          (∃ earlier ∈ final.log, earlier.call = .closeSnapshot ∧ earlier.succeeded = true) ∧
          ∃ earlier ∈ final.log, earlier.call = .kill)) := by
  obtain ⟨phase, tracks, ended⟩ := main_tracked platform kernel locals argv
  rw [ran] at tracks ended
  have last : index + 1 = final.log.length :=
    tracks.failStop index entry made ⟨refused, matters⟩
  have status : phase.status = .refused := by
    by_contra fine
    exact tracks.fine fine entry (List.mem_of_getElem? made) ⟨refused, matters⟩
  refine ⟨last, ?_⟩
  cases result with
  | error code =>
      cases code with
      | fatal message => exact .inl ⟨message, rfl⟩
      | failure => exact .inr (.inl rfl)
      | success =>
          obtain rfl : phase = _ := ended
          cases status
      | hang => cases status.symm.trans ended
  | ok value =>
      cases value with
      | failure =>
          obtain rfl : phase = _ := ended
          cases status
      | success =>
          rcases ended with rfl | rfl
          · cases status
          · obtain ⟨waited, here, waits⟩ := tracks.waited rfl rfl
            rw [List.getLast?_eq_getElem?, show final.log.length - 1 = index by omega, made] at here
            cases here
            exact .inr (.inr ⟨waits, rfl, tracks.complete rfl, tracks.killed rfl⟩)
      | fatal message => exact ended.elim
      | hang => exact ended.elim

/-- The second call of the run, `fork`, is refused. -/
def forklessKernel : Kernel .x86_64 := { fixedKernel with fails := fun count _ => count == 1 }

theorem main_failStop_fork :
    ∃ final : World .x86_64, final.log.length = 2 ∧
      (main .x86_64 blankLocals targetArgv).run forklessKernel.answer (.initial .x86_64) =
        (.error (.fatal "fork failed"), final) := by
  obtain ⟨final, ran, made⟩ : ∃ final : World .x86_64,
      (main .x86_64 blankLocals targetArgv).run forklessKernel.answer (.initial .x86_64) =
        (.error (.fatal "fork failed"), final) ∧
      final.log[1]? = some ⟨.fork, .absent, false⟩ := ⟨_, rfl, rfl⟩
  have last := (main_failStop .x86_64 forklessKernel blankLocals targetArgv _ final ran 1 _ made
    rfl rfl).1
  exact ⟨final, last.symm, ran⟩

end ProcessBridge.Snapshotter
