import ProcessBridge.Snapshotter.KernelProperties
import ProcessBridge.Snapshotter.SnapshotDump

/-! What ends up in the snapshot file when no call is refused, as a function of
the maps lines, the emitted content and the entry the iteration starts from. -/

set_option autoImplicit false

namespace ProcessBridge.Snapshotter

open Library Common Program

variable {arch : Arch}

/-!
## Programs that only write
-/

/-- The world after a program that only writes to the snapshot file. -/
structure World.Wrote (world : World arch) (bytes : List Byte) (calls : Nat)
    (after : World arch) : Prop where
  output : after.output = world.output ++ bytes
  log : after.log.length = world.log.length + calls
  child : after.child = world.child

/-- From every world with that child and `count` calls behind it the program returns
the same value, writes the same bytes and makes the same number of calls, unless
the kernel refuses one of them; that refusal stands in the log. -/
def Emits {α : Type} (kernel : Kernel arch) (child : Child arch) (program : Sys arch α)
    (count : Nat) (value : α) (bytes : List Byte) (calls : Nat) : Prop :=
  ∀ world : World arch, world.child = child → world.log.length = count →
    (∃ after, program.run kernel.answer world = (.ok value, after) ∧
      world.Wrote bytes calls after) ∨
    (¬ kernel.Cooperates ∧ ∃ code after, program.run kernel.answer world = (.error code, after) ∧
      (world.child.alive = true → after.Spoiled))

private theorem not_cooperates {kernel : Kernel arch} {count : Nat} {op : Call arch}
    (refused : kernel.fails count op = true) : ¬ kernel.Cooperates := by
  intro cooperates
  rw [cooperates] at refused
  cases refused

theorem run_call_cases (kernel : Kernel arch) (op : Call arch) (world : World arch) :
    (¬ kernel.Cooperates ∧ (call op).run kernel.answer world =
      (.ok (kernel.refusal world.log.length op), world.record op false)) ∨
    (call op).run kernel.answer world =
      (.ok (kernel.perform world.log.length op (world.record op true)).1,
        (kernel.perform world.log.length op (world.record op true)).2) := by
  rcases kernel.answer_cases op world with ⟨refused, answered⟩ | ⟨_, answered⟩
  · exact .inl ⟨not_cooperates refused, by rw [call, run_ask, answered]⟩
  · exact .inr (by rw [call, run_ask, answered])

namespace Emits

variable {α β : Type} {kernel : Kernel arch} {child : Child arch} {count : Nat}

theorem pure (value : α) : Emits kernel child (Pure.pure value : Sys arch α) count value [] 0 :=
  fun world _ _ => .inl ⟨world, rfl, by simp, rfl, rfl⟩

theorem bind {first : Sys arch α} {next : α → Sys arch β} {value : α} {result : β}
    {front back : List Byte} {calls more : Nat}
    (start : Emits kernel child first count value front calls)
    (rest : Emits kernel child (next value) (count + calls) result back more) :
    Emits kernel child (first >>= next) count result (front ++ back) (calls + more) := by
  intro world same here
  rcases start world same here with
    ⟨middle, returned, wrote⟩ | ⟨refuses, code, middle, stopped, spoiled⟩
  · have there : middle.log.length = count + calls := by rw [wrote.log, here]
    rcases rest middle (wrote.child.trans same) there with ⟨after, finished, wrote'⟩ | ⟨refuses, code, after, stopped, spoiled⟩
    · refine .inl ⟨after, (run_bind_ok returned).trans finished, ?_, ?_, ?_⟩
      · rw [wrote'.output, wrote.output, List.append_assoc]
      · rw [wrote'.log, wrote.log, Nat.add_assoc]
      · rw [wrote'.child, wrote.child]
    · rw [wrote.child] at spoiled
      exact .inr ⟨refuses, code, after, (run_bind_ok returned).trans stopped, spoiled⟩
  · exact .inr ⟨refuses, code, middle, run_bind_error stopped, spoiled⟩

private theorem ensure {asked : Sys arch Bool} {message : String} {bytes : List Byte} {calls : Nat}
    (answers : ∀ world : World arch, world.child = child → world.log.length = count →
      (¬ kernel.Cooperates ∧ ∃ after, asked.run kernel.answer world = (.ok false, after) ∧
        (world.child.alive = true → after.Spoiled)) ∨
      ∃ after, asked.run kernel.answer world = (.ok true, after) ∧ world.Wrote bytes calls after) :
    Emits kernel child (Snapshotter.ensure asked message) count () bytes calls := by
  intro world same here
  rcases answers world same here with ⟨refuses, after, answered, spoiled⟩ | ⟨after, answered, wrote⟩
  · refine .inr ⟨refuses, .fatal message, after, ?_, spoiled⟩
    rw [Snapshotter.ensure, run_bind_ok answered]
    rfl
  · exact .inl ⟨after, run_ensure_ok _ answered, wrote⟩

theorem write (bytes : List Byte) (message : String) :
    Emits kernel child (Snapshotter.ensure (call (.write bytes)) message) count () bytes 1 := by
  refine ensure fun world _ _ => ?_
  rcases run_call_cases kernel (.write bytes) world with ⟨refuses, answered⟩ | answered
  · exact .inl ⟨refuses, _, answered, fun alive => spoiled_record alive rfl⟩
  · exact .inr ⟨_, answered, rfl, by simp [Kernel.perform], rfl⟩

theorem getline (message : String) :
    Emits kernel child (Snapshotter.ensure (call .getline) message) count () [] 1 := by
  refine ensure fun world _ _ => ?_
  rcases run_call_cases kernel .getline world with ⟨refuses, answered⟩ | answered
  · exact .inl ⟨refuses, _, answered, fun alive => spoiled_record alive rfl⟩
  · exact .inr ⟨_, answered, by simp [Kernel.perform], by simp [Kernel.perform], rfl⟩

theorem closeMaps (message : String) :
    Emits kernel child (Snapshotter.ensure (call .closeMaps) message) count () [] 1 := by
  refine ensure fun world _ _ => ?_
  rcases run_call_cases kernel .closeMaps world with ⟨refuses, answered⟩ | answered
  · exact .inl ⟨refuses, _, answered, fun alive => spoiled_record alive rfl⟩
  · exact .inr ⟨_, answered, by simp [Kernel.perform], by simp [Kernel.perform], rfl⟩

theorem malloc (message : String) :
    Emits kernel child (Snapshotter.ensure (call .malloc) message) count () [] 1 := by
  refine ensure fun world _ _ => ?_
  rcases run_call_cases kernel .malloc world with ⟨refuses, answered⟩ | answered
  · exact .inl ⟨refuses, _, answered, fun alive => spoiled_record alive rfl⟩
  · exact .inr ⟨_, answered, by simp [Kernel.perform], by simp [Kernel.perform], rfl⟩

theorem closeSnapshot (message : String) :
    Emits kernel child (Snapshotter.ensure (call .closeSnapshot) message) count () [] 1 := by
  refine ensure fun world _ _ => ?_
  rcases run_call_cases kernel .closeSnapshot world with ⟨refuses, answered⟩ | answered
  · exact .inl ⟨refuses, _, answered, fun alive => spoiled_record alive rfl⟩
  · exact .inr ⟨_, answered, by simp [Kernel.perform], by simp [Kernel.perform], rfl⟩

end Emits

/-!
## The content of one mapping
-/

section Content

variable (kernel : Kernel arch) (child : Child arch)

/-- What the buffer holds after one read, in whatever way the read went. -/
def chunkBuffer (count : Nat) (address : BitVec arch.width) (chunk : Nat) (buffer : Buffer) :
    Buffer :=
  if kernel.fails count (.processVmReadv address chunk buffer) then
    (kernel.readv count address chunk buffer).2.zero chunk
  else
    let (result, filled) := kernel.read child count address chunk buffer
    if result = some chunk then filled else filled.zero chunk

theorem readChunk_emits (address : BitVec arch.width) (chunk : Nat) (buffer : Buffer)
    (count : Nat) : Emits kernel child (readChunk address chunk buffer) count
      (chunkBuffer kernel child count address chunk buffer) [] 1 := by
  intro world same here
  subst same here
  left
  cases refused : kernel.fails world.log.length (.processVmReadv address chunk buffer) with
  | true =>
      refine ⟨world.record (.processVmReadv address chunk buffer) false, ?_, by simp, by simp, rfl⟩
      rw [readChunk, run_bind_ok (run_refused refused), chunkBuffer, refused]
      rfl
  | false =>
      refine ⟨world.record (.processVmReadv address chunk buffer) true, ?_, by simp, by simp, rfl⟩
      rw [readChunk, run_bind_ok (run_granted refused), chunkBuffer, refused]
      simp only [Kernel.perform, record_child, Bool.false_eq_true, if_false]
      split
      · rfl
      · rfl

/-- The loop writes exactly as many bytes as the mapping has. -/
theorem copyContent_emits (readable : Bool) (address : BitVec arch.width) (remaining : Nat)
    (buffer : Buffer) (count : Nat) :
    ∃ final content calls, content.length = remaining ∧
      Emits kernel child (copyContent readable address remaining buffer) count final content calls := by
  induction remaining using Nat.strong_induction_on generalizing address buffer count with
  | h remaining ih =>
      unfold copyContent
      by_cases done : remaining = 0
      · rw [if_pos done]
        exact ⟨buffer, [], 0, done.symm, .pure buffer⟩
      · rw [if_neg done]
        generalize shape : (if remaining > bufferSize then bufferSize else remaining) = chunk
        have positive := bufferSize_pos
        have bounds : 0 < chunk ∧ chunk ≤ remaining ∧ chunk ≤ bufferSize := by
          rw [← shape]
          split <;> omega
        obtain ⟨filled, calls, reads⟩ : ∃ filled calls, Emits kernel child
            (if readable then readChunk address chunk buffer else Pure.pure buffer : Sys arch Buffer)
            count filled [] calls := by
          cases readable with
          | true => exact ⟨_, 1, readChunk_emits kernel child address chunk buffer count⟩
          | false => exact ⟨buffer, 0, .pure buffer⟩
        obtain ⟨final, content, more, length, copies⟩ := ih (remaining - chunk) (by omega)
          (address + BitVec.ofNat _ chunk) filled (count + calls + 1)
        refine ⟨final, _, _, ?_, reads.bind ((Emits.write _ _).bind copies)⟩
        simp only [List.nil_append, List.length_append, List.length_take, filled.property, length]
        omega

end Content

/-!
## Lines and headers
-/

private theorem cString_append_zero (text : List Byte) (clean : 0 ∉ text) (rest : List Byte) :
    cString (text ++ 0 :: rest) = text := by
  unfold cString
  rw [List.takeWhile_append_of_pos]
  · simp
  · intro byte member
    have different : byte ≠ 0 := fun zero => clean (zero ▸ member)
    simpa using different

def MapsLine.pathText (line : MapsLine) : List Byte :=
  match line.path with
  | some text => text.val
  | none => []

/-- The mapping is not written to the snapshot. -/
def MapsLine.special (line : MapsLine) : Bool := specialPaths.contains line.pathText

/-- As a C string the buffer holds the path of its own line, whatever is behind it. -/
theorem cString_fillEntry (entry : MapsEntry) (line : MapsLine) :
    cString (fillEntry entry line).path = line.pathText := by
  obtain ⟨start, limit, perms, offset, path⟩ := line
  cases path with
  | none => exact cString_append_zero [] (by simp) _
  | some text => exact cString_append_zero text.val text.property.2 _

def MapsLine.mappingSize (line : MapsLine) : Nat := (line.end - line.start).toNat

/-- What the loop writes for lines and their contents, the entry being reused from
line to line. -/
def emitted : MapsEntry → List (MapsLine × List Byte) → List Byte
  | _, [] => []
  | entry, (line, content) :: rest =>
      (if line.special then [] else (fillEntry entry line).bytes ++ content) ++
        emitted (fillEntry entry line) rest

section Loop

variable (kernel : Kernel arch) (child : Child arch)

/-- One mapping: its header and its content, or nothing. The content is decided by
the line alone, not by what else the entry holds. -/
theorem dumpMapping_emits (line : MapsLine) (buffer : Buffer) (count : Nat) :
    ∃ final content calls, content.length = line.mappingSize % 2 ^ arch.width ∧
      ∀ entry, Emits kernel child (dumpMapping (fillEntry entry line) buffer) count final
        (if line.special then [] else (fillEntry entry line).bytes ++ content) calls := by
  cases special : line.special with
  | true =>
      refine ⟨buffer, List.replicate (line.mappingSize % 2 ^ arch.width) 0, 0, by simp, ?_⟩
      intro entry
      have named : cString (fillEntry entry line).path ∈ specialPaths := by
        rw [cString_fillEntry]
        simpa [MapsLine.special] using special
      rw [dumpMapping, if_pos named]
      exact .pure buffer
  | false =>
      obtain ⟨final, content, calls, length, copies⟩ := copyContent_emits kernel child
        (decide (permission line.perms 0 0x72 ≠ 0)) (line.start.setWidth _)
        (line.mappingSize % 2 ^ arch.width)
        (if permission line.perms 0 0x72 = 0 then
          Buffer.zero buffer (min (line.mappingSize % 2 ^ arch.width) bufferSize) else buffer)
        (count + 1)
      refine ⟨final, content, 1 + calls, length, fun entry => ?_⟩
      have unnamed : cString (fillEntry entry line).path ∉ specialPaths := by
        rw [cString_fillEntry]
        simpa [MapsLine.special] using special
      rw [dumpMapping, if_neg unnamed]
      exact (Emits.write _ _).bind copies

theorem nextLine_emits {text : List Byte} {line : MapsLine} (parses : sscanfMaps text = some line)
    (entry : MapsEntry) (count : Nat) :
    Emits kernel child (nextLine entry text) count (fillEntry entry line) [] 1 := by
  have parsed : (parseMapsStr text entry : Sys arch MapsEntry) = pure (fillEntry entry line) := by
    simp only [parseMapsStr, parses]
  rw [nextLine, parsed]
  change Emits kernel child _ count _ ([] ++ []) (1 + 0)
  exact (Emits.getline _).bind (.pure (fillEntry entry line))

/-- The contents are decided by the lines, the kernel and the buffer; the entry
only shows in the headers. -/
theorem forEntries_emits {texts : List (List Byte)} {lines : List MapsLine}
    (parse : List.Forall₂ (fun text line => sscanfMaps text = some line) texts lines)
    (buffer : Buffer) (count : Nat) :
    ∃ (mappings : List (MapsLine × List Byte)) (final : Buffer) (calls : Nat),
      mappings.map Prod.fst = lines ∧
      (∀ mapping ∈ mappings, mapping.2.length = mapping.1.mappingSize % 2 ^ arch.width) ∧
      ∀ entry, Emits kernel child (forEntries dumpMapping entry texts buffer) count final
        (emitted entry mappings) calls := by
  induction parse generalizing buffer count with
  | nil =>
      refine ⟨[], buffer, 1 + 1 + 0, rfl, by simp, fun entry => ?_⟩
      change Emits kernel child _ count _ (([] ++ []) ++ []) _
      rw [forEntries, nextEnd]
      exact ((Emits.getline _).bind (Emits.closeMaps _)).bind (.pure buffer)
  | @cons text line texts lines parses _ ih =>
      obtain ⟨middle, content, calls, length, dumps⟩ :=
        dumpMapping_emits kernel child line buffer (count + 1)
      obtain ⟨mappings, final, more, same, lengths, loops⟩ := ih middle (count + 1 + calls)
      refine ⟨(line, content) :: mappings, final, 1 + (calls + more), by simp [same], ?_, fun entry => ?_⟩
      · exact List.forall_mem_cons.mpr ⟨length, lengths⟩
      · exact (nextLine_emits kernel child parses entry count).bind ((dumps entry).bind (loops _))

end Loop

/-!
## The whole file
-/

private theorem procPath_fits {pid : Nat} (small : pid < 2 ^ 31) :
    ("/proc/" ++ toString pid ++ "/maps").length < procBufSize := by
  have digits : (toString pid).length ≤ 10 := by
    rw [Nat.toString_eq_repr]
    exact (Nat.length_repr_le_iff (by decide)).mpr (lt_trans small (by decide))
  simp only [String.length_append, procBufSize]
  have front : "/proc/".length = 6 := by decide
  have back : "/maps".length = 5 := by decide
  omega

/-- The path of the maps file always fits. -/
theorem createMapsIter_eq (stale : MapsEntry) {pid : Nat} (small : pid < 2 ^ 31) :
    (createMapsIter stale pid : Sys arch MapsIter) =
      (required (call .openMaps) "fopen('%s') failed" >>= fun file => pure ⟨stale, file⟩) := by
  have fits : decide (procBufSize ≤ ("/proc/" ++ toString pid ++ "/maps").length) = false := by
    simpa using procPath_fits small
  rw [createMapsIter, fits]
  rfl

section File

variable (kernel : Kernel arch) (child : Child arch)

theorem createMapsIter_emits (stale : MapsEntry) {pid : Nat} (small : pid < 2 ^ 31) (count : Nat) :
    Emits kernel child (createMapsIter stale pid) count ⟨stale, kernel.maps count⟩ [] 1 := by
  intro world same here
  subst here
  rw [createMapsIter_eq stale small]
  rcases run_call_cases kernel .openMaps world with ⟨refuses, answered⟩ | answered
  · exact .inr ⟨refuses, _, _, run_bind_error (run_bind_ok answered),
      fun alive => spoiled_record alive rfl⟩
  · exact .inl ⟨_, run_bind_ok (run_required_ok _ answered), by simp [Kernel.perform],
      by simp [Kernel.perform], rfl⟩

theorem flush_emits (count : Nat) :
    Emits kernel child (do
      let flushed ← call .flush
      exitIf (!flushed) .failure) count () [] 1 := by
  intro world same here
  rcases run_call_cases kernel .flush world with ⟨refuses, answered⟩ | answered
  · exact .inr ⟨refuses, _, _, run_bind_ok answered, fun alive => spoiled_record alive rfl⟩
  · exact .inl ⟨_, run_bind_ok answered, by simp [Kernel.perform], by simp [Kernel.perform], rfl⟩

theorem dumpMappingsContent_emits {pid : Nat} (small : pid < 2 ^ 31) (buffer : Buffer)
    {count : Nat} {lines : List MapsLine}
    (parse : List.Forall₂ (fun text line => sscanfMaps text = some line) (kernel.maps count) lines) :
    ∃ (mappings : List (MapsLine × List Byte)) (calls : Nat),
      mappings.map Prod.fst = lines ∧
      (∀ mapping ∈ mappings, mapping.2.length = mapping.1.mappingSize % 2 ^ arch.width) ∧
      ∀ stale, Emits kernel child (dumpMappingsContent stale buffer pid) count ()
        (emitted stale mappings) calls := by
  obtain ⟨mappings, final, calls, same, lengths, loops⟩ :=
    forEntries_emits kernel child parse buffer (count + 1 + 1)
  refine ⟨mappings, 1 + (1 + (calls + 1)), same, lengths, fun stale => ?_⟩
  have bytes : emitted stale mappings = [] ++ ([] ++ (emitted stale mappings ++ [])) := by simp
  rw [bytes]
  exact (createMapsIter_emits kernel child stale small count).bind ((Emits.malloc _).bind
    ((loops stale).bind (flush_emits kernel child _)))

/-- The snapshot file: the process state, then what the mappings emit. A run that
does not get there has met a refusal. -/
theorem dumpSnapshot_output (world : World arch) {pid : Nat} (small : pid < 2 ^ 31)
    (buffer : Buffer) (snapshot : List Byte) {lines : List MapsLine}
    (parse : List.Forall₂ (fun text line => sscanfMaps text = some line)
      (kernel.maps (world.log.length + 2)) lines) :
    ∃ mappings : List (MapsLine × List Byte),
      mappings.map Prod.fst = lines ∧
      (∀ mapping ∈ mappings, mapping.2.length = mapping.1.mappingSize % 2 ^ arch.width) ∧
      ∀ stale,
        (∃ after, (dumpSnapshot stale buffer snapshot pid).run kernel.answer world = (.ok (), after) ∧
          after.output = snapshot ++ emitted stale mappings ∧ after.child = world.child) ∨
        (¬ kernel.Cooperates ∧ ∃ code after,
          (dumpSnapshot stale buffer snapshot pid).run kernel.answer world = (.error code, after) ∧
          (world.child.alive = true → after.Spoiled)) := by
  obtain ⟨mappings, calls, same, lengths, emits⟩ :=
    dumpMappingsContent_emits kernel world.child small buffer parse
  refine ⟨mappings, same, lengths, fun stale => ?_⟩
  rw [dumpSnapshot]
  rcases run_call_cases kernel .openSnapshot world with ⟨refuses, answered⟩ | answered
  · exact .inr ⟨refuses, _, _, run_bind_error (run_bind_ok answered),
      fun alive => spoiled_record alive rfl⟩
  · rw [run_bind_ok (run_ensure_ok _ answered)]
    -- the file has been truncated; from here on everything is appended
    generalize shape : (kernel.perform world.log.length .openSnapshot
      (world.record .openSnapshot true)).2 = opened
    have empty : opened.output = [] := by rw [← shape]; rfl
    have child : opened.child = world.child := by rw [← shape]; rfl
    have count : opened.log.length = world.log.length + 1 := by
      rw [← shape]
      simp [Kernel.perform]
    have closes : Emits kernel world.child (do
        dumpMappingsContent stale buffer pid
        ensure (call .closeSnapshot) "fclose('%s') failed") (world.log.length + 1 + 1) ()
        (emitted stale mappings ++ []) (calls + 1) :=
      (emits stale).bind (Emits.closeSnapshot _)
    have appends : Emits kernel world.child (do
        ensure (call (.write snapshot)) "fwrite of the snapshot header to '%s' failed"
        dumpMappingsContent stale buffer pid
        ensure (call .closeSnapshot) "fclose('%s') failed") (world.log.length + 1) ()
        (snapshot ++ (emitted stale mappings ++ [])) (1 + (calls + 1)) :=
      (Emits.write snapshot _).bind closes
    rcases appends opened child count with
      ⟨after, finished, wrote⟩ | ⟨refuses, code, after, stopped, spoiled⟩
    · refine .inl ⟨after, finished, ?_, wrote.child.trans child⟩
      rw [wrote.output, empty]
      simp
    · rw [child] at spoiled
      exact .inr ⟨refuses, code, after, stopped, spoiled⟩

theorem dumpSnapshot_written (world : World arch) {pid : Nat} (small : pid < 2 ^ 31)
    (buffer : Buffer) (snapshot : List Byte) {lines : List MapsLine}
    (parse : List.Forall₂ (fun text line => sscanfMaps text = some line)
      (kernel.maps (world.log.length + 2)) lines) {stale : MapsEntry} {after : World arch}
    (finished : (dumpSnapshot stale buffer snapshot pid).run kernel.answer world = (.ok (), after)) :
    ∃ mappings : List (MapsLine × List Byte),
      mappings.map Prod.fst = lines ∧
      (∀ mapping ∈ mappings, mapping.2.length = mapping.1.mappingSize % 2 ^ arch.width) ∧
      after.output = snapshot ++ emitted stale mappings := by
  obtain ⟨mappings, same, lengths, runs⟩ :=
    dumpSnapshot_output kernel world small buffer snapshot parse
  refine ⟨mappings, same, lengths, ?_⟩
  rcases runs stale with ⟨other, returned, output, _⟩ | ⟨_, _, _, stopped, _⟩
  · cases finished.symm.trans returned
    exact output
  · cases finished.symm.trans stopped

end File

/-!
## A small process
-/

/-- `00010000-00011000 rw-p 00000000 00:00 0`, one page without a path. -/
def anonymousText : List Byte :=
  [0x30, 0x30, 0x30, 0x31, 0x30, 0x30, 0x30, 0x30, 0x2D, 0x30, 0x30, 0x30, 0x31, 0x31, 0x30, 0x30,
    0x30, 0x20, 0x72, 0x77, 0x2D, 0x70, 0x20, 0x30, 0x30, 0x30, 0x30, 0x30, 0x30, 0x30, 0x30, 0x20,
    0x30, 0x30, 0x3A, 0x30, 0x30, 0x20, 0x30, 0x20, 0x0A]

def anonymousLine : MapsLine :=
  ⟨0x10000, 0x11000, [0x72, 0x77, 0x2D, 0x70], 0, none⟩

theorem anonymousText_parses : sscanfMaps anonymousText = some anonymousLine := by decide

/-- A kernel that refuses nothing, with one maps file and unreadable memory. -/
def mapsKernel (arch : Arch) (regs : arch.Regs) (maps : List (List Byte)) : Kernel arch where
  fails := fun _ _ => false
  pid := 1
  image := ⟨regs, fun _ => 0⟩
  report := fun _ _ _ => none
  threadArea := fun _ _ => default
  elf := []
  elfPath := []
  maps := fun _ => maps
  readv := fun _ _ _ buffer => (none, buffer)

theorem mapsKernel_cooperates (arch : Arch) (regs : arch.Regs) (maps : List (List Byte)) :
    (mapsKernel arch regs maps).Cooperates :=
  fun _ _ => rfl

def zeroBuffer : Buffer := ⟨List.replicate bufferSize 0, List.length_replicate⟩

def paintedEntry (paint : Byte) : MapsEntry where
  start := 0
  «end» := 0
  read := 0
  write := 0
  exec := 0
  shared := 0
  fileOffset := 0
  path := List.replicate maxPath paint
  pathSize := List.length_replicate

end ProcessBridge.Snapshotter
