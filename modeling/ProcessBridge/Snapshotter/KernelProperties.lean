import ProcessBridge.Snapshotter.Kernel

/-! Rules for reasoning about the calls of the snapshotter, and the account every
exit must give of the child it may leave behind. -/

set_option autoImplicit false

namespace ProcessBridge.Snapshotter

open Library Common Program

variable {arch : Arch}

def World.record (world : World arch) (call : Call arch) (succeeded : Bool) : World arch :=
  { world with log := world.log ++ [⟨call, world.child, succeeded⟩] }

section Record

variable (world : World arch) (op : Call arch) (succeeded : Bool)

@[simp] theorem record_child : (world.record op succeeded).child = world.child := rfl

@[simp] theorem record_reports : (world.record op succeeded).reports = world.reports := rfl

@[simp] theorem record_output : (world.record op succeeded).output = world.output := rfl

@[simp] theorem record_elfPosition :
    (world.record op succeeded).elfPosition = world.elfPosition := rfl

@[simp] theorem record_log :
    (world.record op succeeded).log = world.log ++ [⟨op, world.child, succeeded⟩] := rfl

end Record

/-- The kernel either refuses a call or performs it; both leave it in the log. -/
theorem Kernel.answer_cases (kernel : Kernel arch) (op : Call arch) (world : World arch) :
    (kernel.fails world.log.length op = true ∧
      kernel.answer op world = (kernel.refusal world.log.length op, world.record op false)) ∨
    (kernel.fails world.log.length op = false ∧
      kernel.answer op world = kernel.perform world.log.length op (world.record op true)) := by
  cases refused : kernel.fails world.log.length op with
  | true =>
      refine .inl ⟨rfl, ?_⟩
      simp only [Kernel.answer, refused]
      rfl
  | false =>
      refine .inr ⟨rfl, ?_⟩
      simp only [Kernel.answer, refused]
      rfl

theorem Kernel.perform_log (kernel : Kernel arch) (count : Nat) (op : Call arch)
    (world : World arch) : (kernel.perform count op world).2.log = world.log := by
  cases op with
  | waitpid =>
      simp only [Kernel.perform, Kernel.wait]
      repeat' split
      all_goals rfl
  | getregs | setregs | peektext | poketext | cont | singlestep | getThreadArea =>
      simp only [Kernel.perform, Kernel.onStopped]
      split <;> rfl
  | seekElf offset =>
      simp only [Kernel.perform]
      split <;> rfl
  | _ => rfl

theorem Kernel.perform_reports (kernel : Kernel arch) (count : Nat) (op : Call arch)
    (world : World arch) : world.reports ⊆ (kernel.perform count op world).2.reports := by
  cases op with
  | waitpid =>
      simp only [Kernel.perform, Kernel.wait]
      repeat' split
      all_goals first
        | exact List.Subset.refl _
        | exact List.subset_append_left _ _
  | getregs | setregs | peektext | poketext | cont | singlestep | getThreadArea =>
      simp only [Kernel.perform, Kernel.onStopped]
      split <;> exact List.Subset.refl _
  | seekElf offset =>
      simp only [Kernel.perform]
      split <;> exact List.Subset.refl _
  | _ => exact List.Subset.refl _

/-- Every call adds one entry to the log, its own. -/
theorem Kernel.answer_log (kernel : Kernel arch) (op : Call arch) (world : World arch) :
    ∃ succeeded, (kernel.answer op world).2.log = world.log ++ [⟨op, world.child, succeeded⟩] := by
  rcases kernel.answer_cases op world with ⟨_, answered⟩ | ⟨_, answered⟩
  · exact ⟨false, by rw [answered]; rfl⟩
  · exact ⟨true, by rw [answered, kernel.perform_log]; rfl⟩

theorem Kernel.answer_reports (kernel : Kernel arch) (op : Call arch) (world : World arch) :
    world.reports ⊆ (kernel.answer op world).2.reports := by
  rcases kernel.answer_cases op world with ⟨_, answered⟩ | ⟨_, answered⟩
  · rw [answered]
    exact List.Subset.refl _
  · rw [answered]
    exact kernel.perform_reports _ _ (world.record op true)

/-- What has been reported stays reported to the end of the run. -/
theorem run_reports (kernel : Kernel arch) {α : Type} (program : Sys arch α) (world : World arch) :
    world.reports ⊆ (program.run kernel.answer world).2.reports := by
  exact (uses_all program).run_preserves kernel.answer
    (fun later => world.reports ⊆ later.reports)
    (fun op later _ grown => List.Subset.trans grown (kernel.answer_reports op later))
    world (List.Subset.refl _)

section Stopped

variable (kernel : Kernel arch) (count : Nat) {world : World arch} {tracee : Tracee arch}

theorem perform_getregs (stopped : world.child = .stopped tracee) :
    kernel.perform count .getregs world = (some tracee.regs, world) := by
  simp only [Kernel.perform, Kernel.onStopped, stopped]
  rfl

theorem perform_setregs (stopped : world.child = .stopped tracee) (regs : arch.Regs) :
    kernel.perform count (.setregs regs) world =
      (true, { world with child := .stopped { tracee with regs } }) := by
  simp only [Kernel.perform, Kernel.onStopped, stopped]
  rfl

theorem perform_peektext (stopped : world.child = .stopped tracee)
    (address : BitVec arch.width) :
    kernel.perform count (.peektext address) world = (some (tracee.peek address), world) := by
  simp only [Kernel.perform, Kernel.onStopped, stopped]
  rfl

theorem perform_poketext (stopped : world.child = .stopped tracee)
    (address value : BitVec arch.width) :
    kernel.perform count (.poketext address value) world =
      (true, { world with child := .stopped (tracee.poke address value) }) := by
  simp only [Kernel.perform, Kernel.onStopped, stopped]
  rfl

theorem perform_cont (stopped : world.child = .stopped tracee) :
    kernel.perform count .cont world =
      (true, { world with child := .running .cont tracee }) := by
  simp only [Kernel.perform, Kernel.onStopped, stopped]
  rfl

theorem perform_singlestep (stopped : world.child = .stopped tracee) :
    kernel.perform count .singlestep world =
      (true, { world with child := .running .singlestep tracee }) := by
  simp only [Kernel.perform, Kernel.onStopped, stopped]
  rfl

end Stopped

/-- Waiting for a child that was set going: it reports, or the wait never ends. -/
theorem perform_waitpid (kernel : Kernel arch) (count : Nat) {world : World arch} {resume : Resume}
    {tracee : Tracee arch} (going : world.child = .running resume tracee) :
    kernel.perform count .waitpid world =
      match kernel.report count resume tracee with
      | some (report, after) =>
          (Waited.report report, { world with
            child := Kernel.childAfter report after
            reports := world.reports ++ [(resume, report, after)] })
      | none => (Waited.blocked, world) := by
  simp only [Kernel.perform, Kernel.wait, going]
  rfl

theorem childAfter_stopped {report : Report} (going : report.isEnd = false) (stop : Tracee arch) :
    Kernel.childAfter report stop = .stopped stop := by
  rw [Kernel.childAfter, going]
  rfl

theorem childAfter_ended {report : Report} (ended : report.isEnd = true) (stop : Tracee arch) :
    Kernel.childAfter report stop = .dead := if_pos ended

/-!
## Rules for checked calls
-/

section Rules

variable {kernel : Kernel arch} {α : Type} {pre : World arch → Prop}
  {exits : Exit → World arch → Prop}

theorem Triple.attempt {op : Call arch} {post : Answer op → World arch → Prop}
    (refused : ∀ world, pre world → kernel.fails world.log.length op = true →
      post (kernel.refusal world.log.length op) (world.record op false))
    (performed : ∀ world, pre world →
      post (kernel.perform world.log.length op (world.record op true)).1
        (kernel.perform world.log.length op (world.record op true)).2) :
    Triple kernel.answer pre (call op) post exits := by
  refine Triple.ask fun world holds => ?_
  rcases kernel.answer_cases op world with ⟨fails, answered⟩ | ⟨_, answered⟩
  · rw [answered]
    exact refused world holds fails
  · rw [answered]
    exact performed world holds

theorem Triple.call {op : Call arch} {post : Answer op → World arch → Prop}
    (refused : ∀ world, pre world →
      post (kernel.refusal world.log.length op) (world.record op false))
    (performed : ∀ world, pre world →
      post (kernel.perform world.log.length op (world.record op true)).1
        (kernel.perform world.log.length op (world.record op true)).2) :
    Triple kernel.answer pre (call op) post exits :=
  Triple.attempt (fun world holds _ => refused world holds) performed

theorem Triple.ensure {asked : Sys arch Bool} {message : String} {post : Unit → World arch → Prop}
    (answered : Triple kernel.answer pre asked
      (fun good world => if good then post () world else exits (.fatal message) world) exits) :
    Triple kernel.answer pre (ensure asked message) post exits := by
  refine Triple.bind _ answered fun good => ?_
  cases good with
  | true => exact Triple.pure fun world holds => by simpa using holds
  | false => exact Triple.exit fun world holds => by simpa using holds

theorem Triple.required {asked : Sys arch (Option α)} {message : String}
    {post : α → World arch → Prop}
    (answered : Triple kernel.answer pre asked
      (fun result world => match result with
        | some value => post value world
        | none => exits (.fatal message) world) exits) :
    Triple kernel.answer pre (required asked message) post exits := by
  refine Triple.bind _ answered fun result => ?_
  cases result with
  | some value => exact Triple.pure fun world holds => holds
  | none => exact Triple.exit fun world holds => holds

theorem Triple.exitIf {condition : Bool} {code : Exit} {post : Unit → World arch → Prop}
    (taken : condition = true → ∀ world, pre world → exits code world)
    (passed : condition = false → ∀ world, pre world → post () world) :
    Triple kernel.answer pre (exitIf condition code) post exits := by
  cases condition with
  | true => exact Triple.exit (taken rfl)
  | false => exact Triple.pure (passed rfl)

theorem Triple.exitIf_passed {condition : Bool} {code : Exit}
    (taken : condition = true → ∀ world, pre world → exits code world) :
    Triple kernel.answer pre (Snapshotter.exitIf condition code)
      (fun _ world => condition = false ∧ pre world) exits :=
  Triple.exitIf taken fun passed _ holds => ⟨passed, holds⟩

end Rules

/-!
## Which calls the checks make
-/

section Uses

variable {α : Type} {allowed : Call arch → Prop}

theorem Uses.call {op : Call arch} (permitted : allowed op) : (call op).Uses allowed :=
  Uses.ask permitted

theorem Uses.ensure {asked : Sys arch Bool} (uses : asked.Uses allowed) (message : String) :
    (ensure asked message).Uses allowed :=
  uses.bind fun _ => Uses.ite (.pure ()) (.exit _)

theorem Uses.required {asked : Sys arch (Option α)} (uses : asked.Uses allowed)
    (message : String) : (required asked message).Uses allowed := by
  refine uses.bind fun answer => ?_
  cases answer with
  | some value => exact .pure value
  | none => exact .exit _

theorem Uses.exitIf (condition : Bool) (code : Exit) :
    (exitIf condition code : Sys arch Unit).Uses allowed := Uses.ite (.exit code) (.pure ())

theorem Uses.waitpid (permitted : allowed .waitpid) (message : String) :
    (waitpid message : Sys arch Report).Uses allowed := by
  refine (Uses.ask permitted).bind fun waited => ?_
  cases waited with
  | report report => exact .pure report
  | failed => exact .exit _
  | blocked => exact .exit _

end Uses

/-!
## Runs of single calls
-/

theorem run_granted {kernel : Kernel arch} {op : Call arch} {world : World arch}
    (granted : kernel.fails world.log.length op = false) :
    (call op).run kernel.answer world =
      (.ok (kernel.perform world.log.length op (world.record op true)).1,
        (kernel.perform world.log.length op (world.record op true)).2) := by
  rcases kernel.answer_cases op world with ⟨refused, _⟩ | ⟨_, answered⟩
  · rw [granted] at refused
    cases refused
  · rw [call, run_ask, answered]

theorem run_refused {kernel : Kernel arch} {op : Call arch} {world : World arch}
    (refused : kernel.fails world.log.length op = true) :
    (call op).run kernel.answer world =
      (.ok (kernel.refusal world.log.length op), world.record op false) := by
  rcases kernel.answer_cases op world with ⟨_, answered⟩ | ⟨granted, _⟩
  · rw [call, run_ask, answered]
  · rw [refused] at granted
    cases granted

/-!
## Runs in which no call is refused
-/

/-- No call is refused. -/
def Kernel.Cooperates (kernel : Kernel arch) : Prop :=
  ∀ count op, kernel.fails count op = false

section Cooperative

variable {kernel : Kernel arch} (cooperates : kernel.Cooperates) {world : World arch}
  {tracee : Tracee arch} (message : String)

theorem run_required_ok {α : Type} {asked : Sys arch (Option α)} {value : α} {after : World arch}
    (answered : asked.run kernel.answer world = (.ok (some value), after)) :
    (required asked message).run kernel.answer world = (.ok value, after) := by
  rw [required, run_bind_ok answered]
  rfl

theorem run_required_none {α : Type} {asked : Sys arch (Option α)} {after : World arch}
    (answered : asked.run kernel.answer world = (.ok none, after)) :
    (required asked message).run kernel.answer world = (.error (.fatal message), after) := by
  rw [required, run_bind_ok answered]
  rfl

theorem run_ensure_ok {asked : Sys arch Bool} {after : World arch}
    (answered : asked.run kernel.answer world = (.ok true, after)) :
    (ensure asked message).run kernel.answer world = (.ok (), after) := by
  rw [ensure, run_bind_ok answered]
  rfl

include cooperates

theorem run_call (world : World arch) (op : Call arch) :
    (call op).run kernel.answer world =
      (.ok (kernel.perform world.log.length op (world.record op true)).1,
        (kernel.perform world.log.length op (world.record op true)).2) :=
  run_granted (cooperates _ op)

theorem run_getregs (stopped : world.child = .stopped tracee) :
    (required (call .getregs) message).run kernel.answer world =
      (.ok tracee.regs, world.record .getregs true) := by
  have kept : (world.record .getregs true).child = .stopped tracee := stopped
  have answered := run_call cooperates world .getregs
  rw [perform_getregs kernel _ kept] at answered
  exact run_required_ok _ answered

theorem run_setregs (stopped : world.child = .stopped tracee) (regs : arch.Regs) :
    (ensure (call (.setregs regs)) message).run kernel.answer world =
      (.ok (), { world.record (.setregs regs) true with child := .stopped { tracee with regs } }) := by
  have kept : (world.record (.setregs regs) true).child = .stopped tracee := stopped
  have answered := run_call cooperates world (.setregs regs)
  rw [perform_setregs kernel _ kept] at answered
  exact run_ensure_ok _ answered

theorem run_peektext (stopped : world.child = .stopped tracee) (address : BitVec arch.width) :
    (required (call (.peektext address)) message).run kernel.answer world =
      (.ok (tracee.peek address), world.record (.peektext address) true) := by
  have kept : (world.record (.peektext address) true).child = .stopped tracee := stopped
  have answered := run_call cooperates world (.peektext address)
  rw [perform_peektext kernel _ kept] at answered
  exact run_required_ok _ answered

theorem run_poketext (stopped : world.child = .stopped tracee) (address value : BitVec arch.width) :
    (ensure (call (.poketext address value)) message).run kernel.answer world =
      (.ok (), { world.record (.poketext address value) true with
        child := .stopped (tracee.poke address value) }) := by
  have kept : (world.record (.poketext address value) true).child = .stopped tracee := stopped
  have answered := run_call cooperates world (.poketext address value)
  rw [perform_poketext kernel _ kept] at answered
  exact run_ensure_ok _ answered

theorem run_cont (stopped : world.child = .stopped tracee) :
    (ensure (call .cont) message).run kernel.answer world =
      (.ok (), { world.record .cont true with child := .running .cont tracee }) := by
  have kept : (world.record .cont true).child = .stopped tracee := stopped
  have answered := run_call cooperates world .cont
  rw [perform_cont kernel _ kept] at answered
  exact run_ensure_ok _ answered

theorem run_waitpid {resume : Resume} (going : world.child = .running resume tracee)
    {report : Report} {after : Tracee arch}
    (reported : kernel.report world.log.length resume tracee = some (report, after)) :
    (waitpid message).run kernel.answer world =
      (.ok report, { world.record .waitpid true with
        child := Kernel.childAfter report after
        reports := world.reports ++ [(resume, report, after)] }) := by
  have kept : (world.record .waitpid true).child = .running resume tracee := going
  have answered := run_call cooperates world .waitpid
  rw [perform_waitpid kernel _ kept, reported] at answered
  rw [waitpid, run_bind_ok answered]
  rfl

end Cooperative

/-!
## What an exit leaves behind
-/

/-- A failing read of the child's memory is replaced by zeros, and the failing first
query for a thread area only tells the kernels apart; every other failure matters. -/
def Call.tolerated : Call arch → Bool
  | .processVmReadv _ _ _ => true
  | .getThreadArea index => index == 6
  | _ => false

/-- A failure, with the child alive, that the snapshotter does not absorb. -/
def Entry.Harmful (entry : Entry arch) : Prop :=
  entry.child.alive = true ∧ entry.succeeded = false ∧ entry.call.tolerated = false

def World.Spoiled (world : World arch) : Prop := ∃ entry ∈ world.log, entry.Harmful

theorem spoiled_record {world : World arch} {op : Call arch} (alive : world.child.alive = true)
    (matters : op.tolerated = false) : (world.record op false).Spoiled :=
  ⟨⟨op, world.child, false⟩, by simp, alive, rfl, matters⟩

/-- An exit is accounted for if the child is gone, or some failure or unusable
input is to blame, or the program in fact never ends. -/
def Accounted (unusable : Prop) (code : Exit) (world : World arch) : Prop :=
  code = .hang ∨ world.child.alive = false ∨ world.Spoiled ∨ unusable

theorem accounted_refused {unusable : Prop} {code : Exit} {world : World arch} {op : Call arch}
    (alive : world.child.alive = true) (matters : op.tolerated = false) :
    Accounted unusable code (world.record op false) :=
  .inr (.inr (.inl (spoiled_record alive matters)))

theorem Accounted.of_spoiled {unusable : Prop} {code : Exit} {world : World arch}
    (spoiled : world.Spoiled) : Accounted unusable code world := .inr (.inr (.inl spoiled))

theorem Kernel.answer_spoiled (kernel : Kernel arch) (op : Call arch) (world : World arch)
    (spoiled : world.Spoiled) : (kernel.answer op world).2.Spoiled := by
  obtain ⟨entry, member, harmful⟩ := spoiled
  obtain ⟨succeeded, log⟩ := kernel.answer_log op world
  exact ⟨entry, by rw [log]; exact List.mem_append_left _ member, harmful⟩

/-- Only failures that are absorbed leave no trace of harm. -/
theorem Kernel.unspoiled_run {kernel : Kernel arch}
    (absorbed : ∀ count op, kernel.fails count op = true → op.tolerated = true) {α : Type}
    (program : Sys arch α) {world : World arch} (clean : ¬ world.Spoiled) :
    ¬ (program.run kernel.answer world).2.Spoiled := by
  have kept : ∀ op (world : World arch), True → ¬ world.Spoiled →
      ¬ (kernel.answer op world).2.Spoiled := by
    intro op world _ before given
    obtain ⟨entry, member, harmful⟩ := given
    have older : entry ∉ world.log := fun old => before ⟨entry, old, harmful⟩
    rcases kernel.answer_cases op world with ⟨refused, answered⟩ | ⟨_, answered⟩
    · rw [answered, record_log, List.mem_append, List.mem_singleton] at member
      obtain rfl := member.resolve_left older
      cases (absorbed _ op refused).symm.trans harmful.2.2
    · rw [answered, kernel.perform_log, record_log, List.mem_append, List.mem_singleton] at member
      obtain rfl := member.resolve_left older
      cases harmful.2.1
  exact (uses_all program).run_preserves kernel.answer (fun world => ¬ world.Spoiled) kept world clean

theorem Kernel.Cooperates.unharmed {kernel : Kernel arch} (cooperates : kernel.Cooperates)
    {α : Type} (program : Sys arch α) :
    ∀ entry ∈ (program.run kernel.answer (.initial arch)).2.log, ¬ entry.Harmful := by
  have absorbed : ∀ count op, kernel.fails count op = true → op.tolerated = true := by
    intro count op refused
    rw [cooperates] at refused
    cases refused
  have clean : ¬ (World.initial arch).Spoiled := by
    intro given
    obtain ⟨entry, member, _⟩ := given
    cases member
  intro entry member harmful
  exact Kernel.unspoiled_run absorbed program clean ⟨entry, member, harmful⟩

/-- What excuses an exit: a refused call leads there, nothing leads away from it, and
every exit is then permitted. -/
structure Excuse (kernel : Kernel arch) (excused : World arch → Prop)
    (exits : Exit → World arch → Prop) : Prop where
  refused : ∀ (world : World arch) op, kernel.fails world.log.length op = true →
    world.child.alive = true → op.tolerated = false → excused (world.record op false)
  kept : ∀ op world, excused world → excused (kernel.answer op world).2
  exits : ∀ code world, excused world → exits code world

theorem Kernel.spoils (kernel : Kernel arch) {exits : Exit → World arch → Prop}
    (permitted : ∀ code (world : World arch), world.Spoiled → exits code world) :
    Excuse kernel World.Spoiled exits where
  refused := fun _ _ _ alive matters => spoiled_record alive matters
  kept := fun op world => kernel.answer_spoiled op world
  exits := permitted

theorem spoiled_excuse (kernel : Kernel arch) (unusable : Prop) :
    Excuse kernel World.Spoiled (Accounted unusable) :=
  kernel.spoils fun _ _ => Accounted.of_spoiled

/-- Whatever a program does once it is excused is excused. -/
theorem Triple.orExcused {kernel : Kernel arch} {excused : World arch → Prop}
    {exits : Exit → World arch → Prop} (excuse : Excuse kernel excused exits) {α : Type}
    {pre : World arch → Prop} {program : Sys arch α} (post : α → World arch → Prop)
    (holds : Triple kernel.answer pre program post exits) :
    Triple kernel.answer (fun world => pre world ∨ excused world) program
      (fun value world => post value world ∨ excused world) exits := by
  intro world given
  cases given with
  | inl start =>
      exact holds.strengthen (fun _ _ => .inl) (fun _ _ left => left) world start
  | inr already =>
      have kept := (uses_all program).preserves kernel.answer excused
        (fun op world _ => excuse.kept op world)
      exact kept.strengthen (fun _ _ => .inr) excuse.exits world already

/-- Once something has failed, whatever a program does is accounted for. -/
theorem Triple.orSpoiled {kernel : Kernel arch} {α : Type} {pre : World arch → Prop}
    {program : Sys arch α} (post : α → World arch → Prop) {unusable : Prop}
    (holds : Triple kernel.answer pre program post (Accounted unusable)) :
    Triple kernel.answer (fun world => pre world ∨ world.Spoiled) program
      (fun value world => post value world ∨ world.Spoiled) (Accounted unusable) :=
  Triple.orExcused (spoiled_excuse kernel unusable) post holds

/-- A run in which nothing has failed returns what it should, or exits for the one other
reason there is. -/
theorem Triple.unspoiled {kernel : Kernel arch} {α : Type} {pre : World arch → Prop}
    {program : Sys arch α} {found : α → Prop} {hopeless : Prop}
    (holds : Triple kernel.answer pre program (fun value after => found value ∨ after.Spoiled)
      (fun _ after => hopeless ∨ after.Spoiled)) {world : World arch} (start : pre world)
    (intact : ¬ (program.run kernel.answer world).2.Spoiled) :
    (∃ value, (program.run kernel.answer world).1 = .ok value ∧ found value) ∨
      (hopeless ∧ ∃ code, (program.run kernel.answer world).1 = .error code) := by
  have ends := holds world start
  cases result : program.run kernel.answer world with
  | mk outcome after =>
      rw [result] at ends intact
      cases outcome with
      | ok value => exact .inl ⟨value, rfl, ends.resolve_right intact⟩
      | error code => exact .inr ⟨ends.resolve_right intact, code, rfl⟩

end ProcessBridge.Snapshotter
