import ProcessBridge.Snapshotter.MainRuns

/-! Files that are left behind when writing them fails. Whichever call is refused, and
however much of a refused write has reached the file, it is the beginning of
the file that would have been written. -/

set_option autoImplicit false

namespace ProcessBridge.Snapshotter

open Library Common Program

variable {arch : Arch}

/-!
## Torn writes
-/

/-- The kernel's answers, where a refused write may still have written its first bytes;
the number of calls before it tells how many. -/
def Kernel.tearing (kernel : Kernel arch) (torn : Nat → Nat) :
    (op : Call arch) → World arch → Answer op × World arch
  | .write bytes, world =>
      if kernel.fails world.log.length (.write bytes) then
        (false, { world.record (.write bytes) false with
          output := world.output ++ bytes.take (torn world.log.length) })
      else kernel.answer (.write bytes) world
  | op, world => kernel.answer op world

/-- The same kernel without its refusals. A read of the child's memory that was refused
still delivers nothing. -/
def Kernel.granting (kernel : Kernel arch) : Kernel arch :=
  { kernel with
    fails := fun _ _ => false
    readv := fun count address size buffer =>
      if kernel.fails count (.processVmReadv address size buffer) then
        (none, (kernel.readv count address size buffer).2)
      else kernel.readv count address size buffer }

theorem granting_cooperates (kernel : Kernel arch) : kernel.granting.Cooperates := fun _ _ => rfl

theorem Kernel.Completes.granting {kernel : Kernel arch} {completed : Completed arch}
    (completes : kernel.Completes completed) : kernel.granting.Completes completed := by
  intro count address size buffer
  rw [completes count address size buffer]
  cases refused : kernel.fails count (.processVmReadv address size buffer) with
  | true => simp [Kernel.granting, refused]
  | false => simp [Kernel.granting, refused]

section Read

variable {kernel : Kernel arch} {count size : Nat} {address : BitVec arch.width} {buffer : Buffer}

private theorem granting_read_refused
    (refused : kernel.fails count (.processVmReadv address size buffer) = true)
    (child : Child arch) : kernel.granting.read child count address size buffer =
      kernel.refusal count (.processVmReadv address size buffer) := by
  cases child with
  | stopped tracee | running resume tracee | absent | dead =>
      simp [Kernel.read, Kernel.granting, Kernel.refusal, refused]

private theorem granting_read_granted
    (granted : kernel.fails count (.processVmReadv address size buffer) = false)
    (child : Child arch) : kernel.granting.read child count address size buffer =
      kernel.read child count address size buffer := by
  simp only [Kernel.read, Kernel.granting, granted, Bool.false_eq_true, if_false]

end Read

/-- Only writes are torn. -/
def Call.writes : Call arch → Bool
  | .write _ => true
  | _ => false

private theorem tearing_answer (kernel : Kernel arch) (torn : Nat → Nat) {op : Call arch}
    (other : op.writes = false) (world : World arch) :
    kernel.tearing torn op world = kernel.answer op world := by
  cases op with
  | write bytes => cases other
  | _ => rfl

private theorem tearing_run_log (kernel : Kernel arch) (torn : Nat → Nat) {α : Type}
    (program : Sys arch α) (world : World arch) :
    world.log <+: (program.run (kernel.tearing torn) world).2.log := by
  refine (uses_all program).run_preserves (kernel.tearing torn)
    (fun later => world.log <+: later.log) (fun op later _ grown => grown.trans ?_) world
    (List.prefix_refl _)
  obtain ⟨succeeded, log⟩ := kernel.answer_log op later
  have answered : later.log <+: (kernel.answer op later).2.log := ⟨_, log.symm⟩
  cases op with
  | write bytes =>
      simp only [Kernel.tearing]
      split
      · exact List.prefix_append _ _
      · exact answered
  | _ => exact answered

theorem Uses.run_tearing {α : Type} {program : Sys arch α}
    (uses : program.Uses fun op => op.writes = false) (kernel : Kernel arch) (torn : Nat → Nat)
    (world : World arch) :
    program.run (kernel.tearing torn) world = program.run kernel.answer world :=
  uses.run_congr (fun _ world other => tearing_answer kernel torn other world) world

/-!
## Up to the refusal
-/

/-- The worlds a program that fills the file cannot tell apart. -/
structure World.Alike (world other : World arch) : Prop where
  count : world.log.length = other.log.length
  output : world.output = other.output
  child : world.child = other.child

theorem World.Alike.refl (world : World arch) : world.Alike world := ⟨rfl, rfl, rfl⟩

/-- No call behind a refusal is permitted. -/
theorem refused_stuck {phase : Phase} {op : Call arch} {answer : Answer op}
    (failed : op.failed answer = true) (matters : op.absorbed = false) (later : Call arch) :
    ¬ (discipline arch).permits ((discipline arch).next phase op answer) later := by
  intro permitted
  have fine : ((discipline arch).next phase op answer).status = .fine := permitted.1
  simp only [discipline, failed, matters, and_self, if_true] at fine
  cases fine

theorem perform_fills (kernel : Kernel arch) {op : Call arch} (fills : op.fills = true)
    (matters : op.absorbed = false) {world other : World arch} (alike : world.Alike other) :
    (kernel.perform world.log.length op (world.record op true)).1 =
        (kernel.granting.perform other.log.length op (other.record op true)).1 ∧
      World.Alike (kernel.perform world.log.length op (world.record op true)).2
        (kernel.granting.perform other.log.length op (other.record op true)).2 := by
  have count := alike.count
  have output := alike.output
  have child := alike.child
  cases op with
  | openMaps =>
      exact ⟨by simp only [Kernel.perform, count]; rfl, by simp [Kernel.perform, count], output,
        child⟩
  | write bytes =>
      exact ⟨rfl, by simp [Kernel.perform, count], by simp [Kernel.perform, output], child⟩
  | getline | closeMaps | malloc | flush | closeSnapshot =>
      exact ⟨rfl, by simp [Kernel.perform, count], output, child⟩
  | processVmReadv => cases matters
  | _ => cases fills

theorem granting_answer (kernel : Kernel arch) (op : Call arch) (world : World arch) :
    kernel.granting.answer op world =
      kernel.granting.perform world.log.length op (world.record op true) := by
  rcases kernel.granting.answer_cases op world with ⟨refused, _⟩ | ⟨_, answered⟩
  · cases refused
  · exact answered

/-- What fills the file only ever adds to it. -/
theorem fills_extends (kernel : Kernel arch) {op : Call arch} (fills : op.fills = true)
    (world : World arch) : world.output <+: (kernel.answer op world).2.output := by
  rcases kernel.answer_cases op world with ⟨_, answered⟩ | ⟨_, answered⟩
  · rw [answered]
    exact List.prefix_refl _
  · rw [answered]
    cases op with
    | write bytes => exact List.prefix_append _ _
    | openMaps | getline | closeMaps | malloc | flush | closeSnapshot | processVmReadv =>
        exact List.prefix_refl _
    | _ => cases fills

/-- A failing read of the child's memory makes no difference. -/
theorem readv_agrees (kernel : Kernel arch) (address : BitVec arch.width) (size : Nat)
    (buffer : Buffer) {world other : World arch} (alike : world.Alike other) :
    (kernel.answer (.processVmReadv address size buffer) world).1 =
        (kernel.granting.answer (.processVmReadv address size buffer) other).1 ∧
      World.Alike (kernel.answer (.processVmReadv address size buffer) world).2
        (kernel.granting.answer (.processVmReadv address size buffer) other).2 := by
  have count := alike.count
  have kept : (world.record (.processVmReadv address size buffer) true).child =
      (other.record (.processVmReadv address size buffer) true).child := alike.child
  rw [granting_answer]
  rcases kernel.answer_cases (.processVmReadv address size buffer) world with
    ⟨refused, answered⟩ | ⟨granted, answered⟩
  · rw [answered]
    refine ⟨?_, by simp [Kernel.perform, count], alike.output, alike.child⟩
    rw [Kernel.perform, ← count, granting_read_refused refused]
  · rw [answered]
    refine ⟨?_, by simp [Kernel.perform, count], alike.output, alike.child⟩
    rw [Kernel.perform, Kernel.perform, ← count, granting_read_granted granted, kept]

/-- Both kernels answer alike, or one of them refuses; then it has written less. -/
theorem tearing_agrees (kernel : Kernel arch) (torn : Nat → Nat) (phase : Phase) (op : Call arch)
    (world other : World arch) (fills : op.fills = true) (alike : world.Alike other) :
    ((kernel.tearing torn op world).1 = (kernel.granting.answer op other).1 ∧
      (kernel.tearing torn op world).2.Alike (kernel.granting.answer op other).2) ∨
    ((∀ later, ¬ (discipline arch).permits
        ((discipline arch).next phase op (kernel.tearing torn op world).1) later) ∧
      (kernel.tearing torn op world).2.output <+: (kernel.granting.answer op other).2.output) := by
  cases absorbed : op.absorbed with
  | true =>
      cases op with
      | processVmReadv address size buffer => exact .inl (readv_agrees kernel address size buffer alike)
      | kill | getThreadArea | rewindElf => cases fills
      | _ => cases absorbed
  | false =>
      rcases kernel.answer_cases op world with ⟨refused, answered⟩ | ⟨granted, answered⟩
      · refine .inr ?_
        cases writes : op.writes with
        | true =>
            cases op with
            | write bytes =>
                simp only [Kernel.tearing, refused, if_true]
                refine ⟨refused_stuck rfl rfl, ?_⟩
                rw [granting_answer, alike.output]
                exact List.prefix_append_right_inj _ |>.mpr (List.take_prefix _ _)
            | _ => cases writes
        | false =>
            rw [tearing_answer kernel torn writes, answered]
            refine ⟨refused_stuck (refusal_failed kernel _ op) absorbed, ?_⟩
            rw [record_output, alike.output]
            exact fills_extends _ fills other
      · have same : kernel.tearing torn op world = kernel.answer op world := by
          cases op with
          | write bytes => simp only [Kernel.tearing, granted, Bool.false_eq_true, if_false]
          | _ => rfl
        rw [same, answered, granting_answer]
        exact .inl (perform_fills kernel fills absorbed alike)

/-- The file after a run among refusals is a beginning of the file after the run without
them, and everything that was there before is still there. -/
theorem interrupted_output {α : Type} {program : Sys arch α} {post : α → Phase → Prop} {phase : Phase}
    (obeys : Obeys (discipline arch) post Phase.Ends phase program)
    (uses : program.Uses (·.fills = true)) (kernel : Kernel arch) (torn : Nat → Nat)
    (world : World arch) :
    (program.run (kernel.tearing torn) world).2.output <+:
      (program.run kernel.granting.answer world).2.output := by
  rcases obeys.run_interrupted uses World.Alike (fun world other => world.output <+: other.output)
    (tearing_agrees kernel torn)
    (fun op _ other fills less => less.trans (fills_extends _ fills other)) (.refl world) with
    alike | less
  · rw [alike.output]
  · exact less

/-!
## The file of one run
-/

theorem dumpSnapshot_eq (stale : MapsEntry) (buffer : Buffer) (snapshot : List Byte) (pid : Nat) :
    (dumpSnapshot stale buffer snapshot pid : Sys arch Unit) =
      (ensure (call .openSnapshot) "fopen('%s') for writing failed" >>= fun _ =>
        fillSnapshot stale buffer snapshot pid) := rfl

/-- Where `dump_snapshot` fails, a beginning of the file is left, if anything. -/
theorem dumpSnapshot_interrupted (kernel : Kernel arch) (torn : Nat → Nat) {world : World arch}
    {captured : Tracee arch} (stopped : world.child = .stopped captured)
    (fresh : world.output = []) {pid : Nat} (small : pid < 2 ^ 31) (stale : MapsEntry)
    (buffer : Buffer) (snapshot : List Byte) {lines : List MapsLine}
    (parse : List.Forall₂ (fun text line => sscanfMaps text = some line)
      (kernel.maps (world.log.length + 2)) lines) :
    ((dumpSnapshot stale buffer snapshot pid).run (kernel.tearing torn) world).2.OpensAt
        world.log.length ∧
      ∃ whole lines,
        Written kernel.granting captured stale snapshot whole world.log.length lines ∧
        ((dumpSnapshot stale buffer snapshot pid).run (kernel.tearing torn) world).2.output <+:
          whole := by
  obtain ⟨_, _, _, runs⟩ :=
    dumpSnapshot_output kernel.granting world small buffer snapshot parse
  obtain ⟨after, returned, _⟩ := (runs stale).resolve_right fun refused =>
    refused.1 (granting_cooperates kernel)
  obtain ⟨_, found, written⟩ := dumpSnapshot_complete small stopped returned
  have asks : (call .openSnapshot : Sys arch Bool).Uses fun op => op.writes = false := Uses.ask rfl
  have opens := Uses.run_tearing (Uses.ensure asks "fopen('%s') for writing failed") kernel torn world
  have made : ∀ succeeded, ∀ later : World arch,
      later.log = world.log ++ [⟨.openSnapshot, world.child, succeeded⟩] →
      later.OpensAt world.log.length := fun succeeded later log =>
    ⟨_, by rw [log, List.getElem?_concat_length], rfl⟩
  rw [dumpSnapshot_eq] at returned ⊢
  rcases run_call_cases kernel .openSnapshot world with ⟨_, answered⟩ | answered
  · rw [run_ensure_false _ answered] at opens
    rw [run_bind_error opens]
    refine ⟨made false _ rfl, after.output, found, written, ?_⟩
    rw [record_output, fresh]
    exact List.nil_prefix
  · obtain ⟨opened, log, tearing, granting⟩ : ∃ opened : World arch,
        opened.log = world.log ++ [⟨.openSnapshot, world.child, true⟩] ∧
        (ensure (call .openSnapshot) "fopen('%s') for writing failed").run (kernel.tearing torn)
          world = (.ok (), opened) ∧
        (ensure (call .openSnapshot) "fopen('%s') for writing failed").run kernel.granting.answer
          world = (.ok (), opened) :=
      ⟨_, rfl, opens.trans (run_ensure_ok _ answered),
        run_ensure_ok _ (run_call (granting_cooperates kernel) world .openSnapshot)⟩
    have rest := interrupted_output
      (fillSnapshot_obeys stale buffer snapshot pid : Obeys _ _ _ (.atStop false _ _) _)
      (fillSnapshot_uses (fun _ fills => fills) stale buffer snapshot pid) kernel torn opened
    rw [run_bind_ok granting] at returned
    rw [returned] at rest
    rw [run_bind_ok tearing]
    exact ⟨(made true opened log).later (tearing_run_log kernel torn _ opened), after.output, found,
      written, rest⟩

/-!
## The file of the whole program
-/

/-- Everything but opening the file and writing to it. -/
def Call.spares : Call arch → Bool
  | .openSnapshot | .write _ => false
  | _ => true

private theorem spares_writes {op : Call arch} (spares : op.spares = true) : op.writes = false := by
  cases op with
  | write bytes => cases spares
  | _ => rfl

private theorem spares_output (kernel : Kernel arch) {op : Call arch} (spares : op.spares = true)
    (world : World arch) : (kernel.answer op world).2.output = world.output := by
  rcases kernel.answer_cases op world with ⟨_, answered⟩ | ⟨_, answered⟩
  · rw [answered]
    rfl
  · rw [answered]
    cases op with
    | openSnapshot | write => cases spares
    | waitpid =>
        simp only [Kernel.perform, Kernel.wait]
        repeat' split
        all_goals rfl
    | getregs | setregs | peektext | poketext | cont | singlestep | getThreadArea =>
        simp only [Kernel.perform, Kernel.onStopped]
        split
        all_goals rfl
    | seekElf offset =>
        simp only [Kernel.perform]
        split
        all_goals rfl
    | _ => rfl

section Spares

variable {α : Type} {program : Sys arch α} (uses : program.Uses (·.spares = true))
  (kernel : Kernel arch) (torn : Nat → Nat) (world : World arch)

include uses

theorem Uses.spares_tearing :
    program.run (kernel.tearing torn) world = program.run kernel.answer world :=
  Uses.run_tearing (uses.imp fun _ => spares_writes) kernel torn world

theorem Uses.spares_output :
    (program.run kernel.answer world).2.output = world.output :=
  uses.run_preserves kernel.answer (fun later => later.output = world.output)
    (fun _ later spares same => (Snapshotter.spares_output kernel spares later).trans same) world rfl

end Spares

/-- Torn writes leave the child alone, too. -/
theorem Uses.aside_tearing {α : Type} {program : Sys arch α} (uses : program.Uses (·.aside = true))
    (kernel : Kernel arch) (torn : Nat → Nat) (world : World arch) :
    (program.run (kernel.tearing torn) world).2.child = world.child ∧
      (program.run (kernel.tearing torn) world).2.reports = world.reports := by
  refine uses.run_preserves (kernel.tearing torn)
    (fun later => later.child = world.child ∧ later.reports = world.reports) ?_ world ⟨rfl, rfl⟩
  intro op later aside given
  have same := answer_aside kernel aside later
  cases op with
  | write bytes =>
      simp only [Kernel.tearing]
      split
      · exact given
      · exact ⟨same.1.trans given.1, same.2.trans given.2⟩
  | _ => exact ⟨same.1.trans given.1, same.2.trans given.2⟩

section Target

variable {platform : Platform}

/-- What a run of the snapshotter leaves of its file: nothing, or a beginning of a file
that holds one state of the child to its end. -/
def World.Leaves (kernel : Kernel platform.arch) (stale : MapsEntry)
    (addr : BitVec platform.arch.width) (final : World platform.arch) : Prop :=
  final.output = [] ∨
    ∃ captured state whole opened lines, Brought addr captured final.reports ∧
      platform.regs state = captured.regs ∧ final.OpensAt opened ∧
      Written kernel.granting captured stale (platform.bytes state) whole opened lines ∧
      final.output <+: whole

private theorem runTarget_leaves (kernel : Kernel platform.arch) (torn : Nat → Nat)
    (locals : Locals) (small : kernel.pid < 2 ^ 31)
    (parses : ∀ count, ∃ lines, List.Forall₂ (fun text line => sscanfMaps text = some line)
      (kernel.maps count) lines)
    (addr : BitVec platform.arch.width) {world : World platform.arch}
    (shown : world.Shows .absent [] []) (fresh : world.output = []) :
    ((runTarget platform locals addr).run (kernel.tearing torn) world).2.Leaves kernel
      locals.dumpEntry addr := by
  have reaching : (reachBreakpoint locals.imageEntry addr).Uses (·.spares = true) := by
    refine (reachBreakpoint_uses locals.imageEntry addr).imp fun op plain => ?_
    cases op with
    | _ => first | rfl | cases plain
  have creating : (createSnapshot locals.tls platform).Uses (·.spares = true) := by
    refine createSnapshot_uses ?_ ?_ locals.tls
    · rfl
    · exact fun _ => rfl
  have killing : (killChild : Sys platform.arch Unit).Uses (·.spares = true) := by
    refine killChild_uses.imp fun op known => ?_
    rcases known with rfl | rfl
    · rfl
    · rfl
  rw [runTarget_eq]
  have same := Uses.spares_tearing reaching kernel torn world
  have kept := Uses.spares_output reaching kernel world
  rcases reached : (reachBreakpoint locals.imageEntry addr).run kernel.answer world with
    ⟨code | pid, middle⟩
  · rw [reached] at same kept
    rw [run_bind_error same]
    exact .inl (kept.trans fresh)
  · rw [reached] at same kept
    obtain ⟨rfl, captured, stopped, brought⟩ :=
      (reachBreakpoint_triple kernel locals.imageEntry addr).returned shown reached
    rw [run_bind_ok same, captureAndDump, bind_assoc]
    have capturing := createSnapshot_triple False locals.tls platform kernel middle
      (⟨stopped, rfl, rfl⟩ : middle.Shows (.stopped captured) _ _)
    have same := Uses.spares_tearing creating kernel torn middle
    have still := (Uses.spares_output creating kernel middle).trans (kept.trans fresh)
    rcases created : (createSnapshot locals.tls platform).run kernel.answer middle with
      ⟨code | state, fetched⟩
    · rw [created] at same still
      rw [run_bind_error same]
      exact .inl still
    · rw [created] at same still capturing
      obtain ⟨regs, shown⟩ := capturing
      rw [run_bind_ok same, bind_assoc]
      obtain ⟨_, parse⟩ := parses (fetched.log.length + 2)
      obtain ⟨opens, whole, lines, written, less⟩ := dumpSnapshot_interrupted kernel torn
        shown.child still small locals.dumpEntry locals.buffer (platform.bytes state) parse
      obtain ⟨child, reports⟩ := Uses.aside_tearing (dumpSnapshot_uses locals.dumpEntry locals.buffer
        (platform.bytes state) kernel.pid) kernel torn fetched
      have leaves : ∀ final : World platform.arch, final.reports = middle.reports →
          final.OpensAt fetched.log.length → final.output <+: whole →
          final.Leaves kernel locals.dumpEntry addr := by
        intro final unchanged opened beginning
        exact .inr ⟨captured, state, whole, fetched.log.length, lines, unchanged ▸ brought, regs,
          opened, written, beginning⟩
      rcases dumped : (dumpSnapshot locals.dumpEntry locals.buffer (platform.bytes state)
        kernel.pid).run (kernel.tearing torn) fetched with ⟨code | _, after⟩
      · rw [dumped] at opens less child reports
        rw [run_bind_error dumped]
        exact leaves after (reports.trans shown.reports) opens less
      · rw [dumped] at opens less child reports
        rw [run_bind_ok dumped, pure_bind, Uses.spares_tearing killing]
        obtain ⟨unreported, unwritten⟩ := killChild_frame kernel (child.trans shown.child)
        refine leaves _ (unreported.trans (reports.trans shown.reports))
          (opens.later (run_log_grows kernel _ after)) ?_
        rw [unwritten]
        exact less

end Target

/-- Whatever is refused in a run of the snapshotter, and however much of a refused write
has been written, what is left of the file is nothing or a beginning of a
complete file: the state of the child at the breakpoint and every line of its
maps file, as they would have been written without the failure. -/
theorem main_leaves (platform : Platform) (kernel : Kernel platform.arch) (torn : Nat → Nat)
    (locals : Locals) (argv : List (List Byte)) (small : kernel.pid < 2 ^ 31)
    (parses : ∀ count, ∃ lines, List.Forall₂ (fun text line => sscanfMaps text = some line)
      (kernel.maps count) lines) :
    ((main platform locals argv).run (kernel.tearing torn) (.initial _)).2.output = [] ∨
    ∃ offset addr, argv[1]? = some offset ∧ parseOffset offset = some addr ∧
      ((main platform locals argv).run (kernel.tearing torn) (.initial _)).2.Leaves kernel
        locals.dumpEntry (addr.setWidth _) := by
  rcases main_cases platform locals argv with
    (same | ⟨_, same⟩) | ⟨offset, addr, given, parsed, same⟩
  · rw [same]
    exact .inl rfl
  · rw [same]
    exact .inl rfl
  · rw [same]
    have asks : (call .malloc : Sys platform.arch Bool).Uses (·.spares = true) := Uses.ask rfl
    have allocates := Uses.spares_tearing (Uses.ensure asks "malloc for child argv failed") kernel
      torn (.initial _)
    rcases run_malloc kernel "malloc for child argv failed" (.initial _) with refused | granted
    · rw [run_bind_error (allocates.trans refused)]
      exact .inl rfl
    · rw [run_bind_ok (allocates.trans granted), run_returning]
      exact .inr ⟨offset, addr, given, parsed, runTarget_leaves kernel torn locals small parses _
        ⟨rfl, rfl, rfl⟩ rfl⟩

end ProcessBridge.Snapshotter
