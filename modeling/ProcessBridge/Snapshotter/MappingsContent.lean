import ProcessBridge.Snapshotter.SnapshotDumpProperties

/-! The bytes that `dump_mappings_content` writes for each mapping. One buffer
serves all chunks of all mappings; what is written is nevertheless the memory
of the child chunk by chunk, or zeros. -/

set_option autoImplicit false

namespace ProcessBridge.Snapshotter

open Library Common Program

variable {arch : Arch}

/-!
## A plain copy
-/

theorem memorySlice_length (memory : BitVec arch.width → Byte) (address : BitVec arch.width)
    (size : Nat) : (memorySlice memory address size).length = size := by
  rw [memorySlice, List.length_map, List.length_range]

def chunkCount (size : Nat) : Nat := (size + bufferSize - 1) / bufferSize

def chunkLength (size index : Nat) : Nat := min bufferSize (size - index * bufferSize)

/-- The read with the given number, address and size was complete. -/
abbrev Completed (arch : Arch) := Nat → BitVec arch.width → Nat → Bool

/-- The content of a mapping, chunk by chunk; between two reads stands one write. -/
def plainContent (memory : BitVec arch.width → Byte) (completed : Completed arch) (readable : Bool)
    (start : BitVec arch.width) (size count : Nat) : List Byte :=
  (List.range (chunkCount size)).flatMap fun index =>
    let address := start + BitVec.ofNat _ (index * bufferSize)
    let length := chunkLength size index
    if readable && completed (count + 2 * index) address length then
      memorySlice memory address length
    else List.replicate length 0

/-- The complete reads are those that the kernel grants and of which all bytes arrive.
How a read ends does not depend on what the buffer held. -/
def Kernel.Completes (kernel : Kernel arch) (completed : Completed arch) : Prop :=
  ∀ count address size buffer, completed count address size = true ↔
    kernel.fails count (.processVmReadv address size buffer) = false ∧
      (kernel.readv count address size buffer).1 = some size

/-!
## Chunks
-/

private theorem chunkCount_zero : chunkCount 0 = 0 := by decide

/-- The first chunk of a mapping and what remains behind it. -/
theorem chunkCount_step {size chunk : Nat} (positive : 0 < size)
    (first : chunk = min bufferSize size) : chunkCount size = chunkCount (size - chunk) + 1 := by
  have room := bufferSize_pos
  by_cases fits : size ≤ bufferSize
  · have whole : size - chunk = 0 := by omega
    have one : (size + bufferSize - 1) / bufferSize = 1 :=
      Nat.div_eq_of_lt_le (by omega) (by omega)
    rw [whole, chunkCount_zero, chunkCount, one]
  · have behind : size + bufferSize - 1 = size - chunk + bufferSize - 1 + bufferSize := by omega
    rw [chunkCount, chunkCount, behind, Nat.add_div_right _ room]

theorem chunkLength_zero (size : Nat) : chunkLength size 0 = min bufferSize size := by
  simp [chunkLength]

theorem chunkLength_succ (size index : Nat) :
    chunkLength size (index + 1) = chunkLength (size - bufferSize) index := by
  rw [chunkLength, chunkLength, Nat.succ_mul, Nat.add_comm, Nat.sub_add_eq]

section Content

variable {memory : BitVec arch.width → Byte} {completed : Completed arch} {kernel : Kernel arch}

/-- One chunk in front of the rest. -/
theorem plainContent_step (readable : Bool) (start : BitVec arch.width) {size chunk : Nat}
    (count : Nat) (positive : 0 < size) (first : chunk = min bufferSize size) :
    plainContent memory completed readable start size count =
      (if readable && completed count start chunk then memorySlice memory start chunk
        else List.replicate chunk 0) ++
      plainContent memory completed readable (start + BitVec.ofNat _ chunk) (size - chunk)
        (count + 2) := by
  have here : chunkLength size 0 = chunk := (chunkLength_zero size).trans first.symm
  have origin : start + BitVec.ofNat arch.width (0 * bufferSize) = start := by
    rw [Nat.zero_mul]
    exact BitVec.add_zero start
  rw [plainContent, chunkCount_step positive first, List.range_succ_eq_map, List.flatMap_cons,
    List.flatMap_map]
  simp only [origin, Nat.mul_zero, Nat.add_zero, here]
  congr 1
  by_cases fits : size ≤ bufferSize
  · have whole : size - chunk = 0 := by omega
    rw [whole, plainContent, chunkCount_zero, List.range_zero, List.flatMap_nil, List.flatMap_nil]
  · obtain rfl : chunk = bufferSize := by omega
    simp only [plainContent]
    congr 1
    funext index
    have address : start + BitVec.ofNat arch.width (Nat.succ index * bufferSize) =
        start + BitVec.ofNat _ bufferSize + BitVec.ofNat _ (index * bufferSize) := by
      rw [Nat.succ_mul, Nat.add_comm, BitVec.ofNat_add, BitVec.add_assoc]
    have number : count + 2 * Nat.succ index = count + 2 + 2 * index := by omega
    rw [address, number, Nat.succ_eq_add_one, chunkLength_succ]

theorem plainContent_length (readable : Bool) (start : BitVec arch.width) (size count : Nat) :
    (plainContent memory completed readable start size count).length = size := by
  induction size using Nat.strong_induction_on generalizing start count with
  | h size ih =>
      by_cases empty : size = 0
      · rw [empty, plainContent, chunkCount_zero, List.range_zero, List.flatMap_nil,
          List.length_nil]
      · have room := bufferSize_pos
        rw [plainContent_step readable start count (Nat.pos_of_ne_zero empty) rfl,
          List.length_append, ih _ (by omega)]
        have chunk : (if readable && completed count start (min bufferSize size) then
            memorySlice memory start (min bufferSize size)
            else List.replicate (min bufferSize size) 0).length = min bufferSize size := by
          split <;> simp [memorySlice_length]
        rw [chunk]
        omega

private theorem plainContent_single (readable : Bool) (start : BitVec arch.width) {size : Nat}
    (count : Nat) (positive : 0 < size) (fits : size ≤ bufferSize) :
    plainContent memory completed readable start size count =
      if readable && completed count start size then memorySlice memory start size
      else List.replicate size 0 := by
  have rest : plainContent memory completed readable (start + BitVec.ofNat _ size) (size - size)
      (count + 2) = [] :=
    List.eq_nil_of_length_eq_zero (by rw [plainContent_length, Nat.sub_self])
  rw [plainContent_step readable start count positive (Nat.min_eq_right fits).symm, rest,
    List.append_nil]

/-!
## The buffer
-/

theorem Buffer.zero_take (buffer : Buffer) {size chunk : Nat} (inside : chunk ≤ size)
    (fits : chunk ≤ bufferSize) : (buffer.zero size).val.take chunk = List.replicate chunk 0 := by
  have covered : chunk ≤ (List.replicate (min size bufferSize) (0 : Byte)).length := by
    rw [List.length_replicate]
    omega
  rw [Buffer.zero, List.take_append_of_le_length covered, List.take_replicate]
  congr 1
  omega

theorem Buffer.fill_take (buffer : Buffer) {bytes : List Byte} {size : Nat}
    (length : bytes.length = size) (fits : size ≤ bufferSize) :
    (buffer.fill bytes).val.take size = bytes := by
  rw [Buffer.fill, List.take_take, Nat.min_eq_left fits, List.take_left' length]

/-- After a read the used part of the buffer is the memory of the stopped child or zero,
whatever the buffer held before. -/
theorem chunkBuffer_take (completes : kernel.Completes completed) (tracee : Tracee arch)
    (count : Nat) (address : BitVec arch.width) {chunk : Nat} (fits : chunk ≤ bufferSize)
    (buffer : Buffer) :
    (chunkBuffer kernel (.stopped tracee) count address chunk buffer).val.take chunk =
      if completed count address chunk then memorySlice tracee.memory address chunk
      else List.replicate chunk 0 := by
  have zeros := fun bytes : Buffer => Buffer.zero_take bytes (le_refl chunk) fits
  have ends := completes count address chunk buffer
  rw [chunkBuffer, Kernel.read]
  cases refused : kernel.fails count (.processVmReadv address chunk buffer) with
  | true =>
      have partly : ¬ completed count address chunk = true := fun ended => by
        cases (ends.mp ended).1.symm.trans refused
      rw [if_pos rfl, if_neg partly, zeros]
  | false =>
      rw [if_neg Bool.false_ne_true]
      by_cases whole : (kernel.readv count address chunk buffer).1 = some chunk
      · simp only [whole, if_true, if_pos (ends.mpr ⟨refused, whole⟩),
          Buffer.fill_take _ (memorySlice_length _ _ _) fits]
      · have partly : ¬ completed count address chunk = true := fun ended =>
          whole (ends.mp ended).2
        simp only [if_neg whole, if_neg partly, zeros]

/-!
## The loops
-/

/-- How many calls the loop makes for the content of a mapping. -/
def contentCalls (readable : Bool) (size : Nat) : Nat :=
  chunkCount size * if readable then 2 else 1

private theorem contentCalls_step (readable : Bool) {size chunk : Nat} (positive : 0 < size)
    (first : chunk = min bufferSize size) :
    contentCalls readable size =
      (if readable then 1 else 0) + (1 + contentCalls readable (size - chunk)) := by
  rw [contentCalls, contentCalls, chunkCount_step positive first, Nat.succ_mul]
  cases readable <;> simp <;> omega

/-- Without reads the content is zero whatever is counted. -/
theorem plainContent_unreadable (start : BitVec arch.width) (size count other : Nat) :
    plainContent memory completed false start size count =
      plainContent memory completed false start size other := by
  simp only [plainContent, Bool.false_and]

private theorem readStep_plain (completes : kernel.Completes completed) (tracee : Tracee arch)
    (readable : Bool)
    (address : BitVec arch.width) {chunk : Nat} (fits : chunk ≤ bufferSize) (buffer : Buffer)
    (count : Nat) (cleared : readable = false → buffer.val.take chunk = List.replicate chunk 0) :
    ∃ filled, Emits kernel (.stopped tracee)
        (if readable then readChunk address chunk buffer else Pure.pure buffer : Sys arch Buffer)
        count filled [] (if readable then 1 else 0) ∧
      filled.val.take chunk = (if readable && completed count address chunk then
        memorySlice tracee.memory address chunk else List.replicate chunk 0) ∧
      (readable = false → filled = buffer) := by
  cases readable with
  | true =>
      refine ⟨chunkBuffer kernel (.stopped tracee) count address chunk buffer,
        readChunk_emits kernel _ address chunk buffer count, ?_, fun impossible => by cases impossible⟩
      rw [chunkBuffer_take completes tracee count address fits, Bool.true_and]
  | false =>
      refine ⟨buffer, .pure buffer, ?_, fun _ => rfl⟩
      rw [cleared rfl, Bool.false_and]
      rfl

private theorem copyContent_plain (completes : kernel.Completes completed) (tracee : Tracee arch)
    (readable : Bool)
    (address : BitVec arch.width) (remaining : Nat) (buffer : Buffer) (count : Nat)
    (cleared : readable = false →
      buffer.val.take (min bufferSize remaining) = List.replicate (min bufferSize remaining) 0) :
    ∃ final, Emits kernel (.stopped tracee) (copyContent readable address remaining buffer) count final
      (plainContent tracee.memory completed readable address remaining count)
      (contentCalls readable remaining) := by
  induction remaining using Nat.strong_induction_on generalizing address buffer count with
  | h remaining ih =>
      unfold copyContent
      by_cases done : remaining = 0
      · rw [if_pos done, done, plainContent, contentCalls, chunkCount_zero, Nat.zero_mul,
          List.range_zero, List.flatMap_nil]
        exact ⟨buffer, .pure buffer⟩
      · rw [if_neg done]
        have positive := Nat.pos_of_ne_zero done
        have room := bufferSize_pos
        generalize shape : (if remaining > bufferSize then bufferSize else remaining) = chunk
        have first : chunk = min bufferSize remaining := by
          rw [← shape]
          split <;> omega
        rw [← first] at cleared
        obtain ⟨filled, looked, taken, kept⟩ := readStep_plain completes tracee readable address
          (by omega : chunk ≤ bufferSize) buffer count cleared
        have stillCleared : readable = false → filled.val.take (min bufferSize (remaining - chunk)) =
            List.replicate (min bufferSize (remaining - chunk)) 0 := by
          intro unreadable
          have prefixed : min (min bufferSize (remaining - chunk)) chunk =
              min bufferSize (remaining - chunk) := by omega
          have shorter := congrArg (List.take (min bufferSize (remaining - chunk))) (cleared unreadable)
          rwa [List.take_take, List.take_replicate, prefixed, ← kept unreadable] at shorter
        obtain ⟨final, copies⟩ := ih (remaining - chunk) (by omega)
          (address + BitVec.ofNat _ chunk) filled (count + (if readable then 1 else 0) + 1)
          stillCleared
        have onward : plainContent tracee.memory completed readable (address + BitVec.ofNat _ chunk)
            (remaining - chunk) (count + (if readable then 1 else 0) + 1) =
            plainContent tracee.memory completed readable (address + BitVec.ofNat _ chunk)
              (remaining - chunk) (count + 2) := by
          cases readable with
          | true => rw [if_pos rfl, Nat.add_assoc]
          | false => exact plainContent_unreadable _ _ _ _
        rw [onward] at copies
        refine ⟨final, ?_⟩
        rw [plainContent_step readable address count positive first,
          contentCalls_step readable positive first, ← taken,
          ← List.nil_append (filled.val.take chunk ++ _)]
        exact looked.bind ((Emits.write _ _).bind copies)

end Content

/-!
## All mappings
-/

def MapsLine.readable (line : MapsLine) : Bool := decide (permission line.perms 0 0x72 ≠ 0)

/-- How many calls the body of the loop makes for a mapping. -/
def MapsLine.dumpCalls (arch : Arch) (line : MapsLine) : Nat :=
  if line.special then 0
  else 1 + contentCalls line.readable (line.mappingSize % 2 ^ arch.width)

/-- The lines with their contents. The count runs over all calls, so that every read
has its own number; a mapping's first read follows the calls for its line and
its header. -/
def plainMappings (memory : BitVec arch.width → Byte) (completed : Completed arch) :
    Nat → List MapsLine → List (MapsLine × List Byte)
  | _, [] => []
  | count, line :: rest =>
      (line, plainContent memory completed line.readable (line.start.setWidth _)
        (line.mappingSize % 2 ^ arch.width) (count + 2)) ::
        plainMappings memory completed (count + 1 + line.dumpCalls arch) rest

section Mappings

variable {memory : BitVec arch.width → Byte} {completed : Completed arch} {kernel : Kernel arch}

theorem plainMappings_lines (count : Nat) (lines : List MapsLine) :
    (plainMappings memory completed count lines).map Prod.fst = lines := by
  induction lines generalizing count with
  | nil => rfl
  | cons line rest ih => rw [plainMappings, List.map_cons, ih]

theorem plainMappings_length (count : Nat) (lines : List MapsLine) :
    ∀ mapping ∈ plainMappings memory completed count lines,
      mapping.2.length = mapping.1.mappingSize % 2 ^ arch.width := by
  induction lines generalizing count with
  | nil =>
      intro mapping member
      cases member
  | cons line rest ih =>
      rw [plainMappings]
      exact List.forall_mem_cons.mpr ⟨plainContent_length _ _ _ _, ih _⟩

private theorem dumpMapping_plain (completes : kernel.Completes completed) (tracee : Tracee arch)
    (line : MapsLine) (buffer : Buffer) (count : Nat) :
    ∃ final, ∀ entry, Emits kernel (.stopped tracee) (dumpMapping (fillEntry entry line) buffer) (count + 1) final
      (if line.special then [] else (fillEntry entry line).bytes ++
        plainContent tracee.memory completed line.readable (line.start.setWidth _)
          (line.mappingSize % 2 ^ arch.width) (count + 2)) (line.dumpCalls arch) := by
  cases special : line.special with
  | true =>
      refine ⟨buffer, fun entry => ?_⟩
      have named : cString (fillEntry entry line).path ∈ specialPaths := by
        rw [cString_fillEntry]
        simpa [MapsLine.special] using special
      rw [dumpMapping, if_pos named, MapsLine.dumpCalls, special]
      exact .pure buffer
  | false =>
      have cleared : line.readable = false → (if permission line.perms 0 0x72 = 0 then
          Buffer.zero buffer (min (line.mappingSize % 2 ^ arch.width) bufferSize)
          else buffer).val.take (min bufferSize (line.mappingSize % 2 ^ arch.width)) =
          List.replicate (min bufferSize (line.mappingSize % 2 ^ arch.width)) 0 := by
        intro unreadable
        rw [if_pos (by simpa [MapsLine.readable] using unreadable)]
        exact Buffer.zero_take buffer (by omega) (by omega)
      obtain ⟨final, copies⟩ := copyContent_plain completes tracee line.readable (line.start.setWidth _)
        (line.mappingSize % 2 ^ arch.width) _ (count + 1 + 1) cleared
      refine ⟨final, fun entry => ?_⟩
      have unnamed : cString (fillEntry entry line).path ∉ specialPaths := by
        rw [cString_fillEntry]
        simpa [MapsLine.special] using special
      rw [dumpMapping, if_neg unnamed, MapsLine.dumpCalls, special]
      exact (Emits.write _ _).bind copies

private theorem forEntries_plain (completes : kernel.Completes completed) (tracee : Tracee arch)
    {texts : List (List Byte)} {lines : List MapsLine}
    (parse : List.Forall₂ (fun text line => sscanfMaps text = some line) texts lines)
    (buffer : Buffer) (count : Nat) :
    ∃ final calls, ∀ entry, Emits kernel (.stopped tracee) (forEntries dumpMapping entry texts buffer) count final
      (emitted entry (plainMappings tracee.memory completed count lines)) calls := by
  induction parse generalizing buffer count with
  | nil =>
      refine ⟨buffer, 1 + 1 + 0, fun entry => ?_⟩
      change Emits kernel (.stopped tracee) _ count _ (([] ++ []) ++ []) _
      rw [forEntries, nextEnd]
      exact ((Emits.getline _).bind (Emits.closeMaps _)).bind (.pure buffer)
  | @cons text line texts lines parses _ ih =>
      obtain ⟨middle, dumps⟩ := dumpMapping_plain completes tracee line buffer count
      obtain ⟨final, more, loops⟩ := ih middle (count + 1 + line.dumpCalls arch)
      exact ⟨final, 1 + (line.dumpCalls arch + more), fun entry =>
        (nextLine_emits kernel _ parses entry count).bind ((dumps entry).bind (loops _))⟩

theorem dumpMappingsContent_plain (completes : kernel.Completes completed) (tracee : Tracee arch) {pid : Nat}
    (small : pid < 2 ^ 31) (stale : MapsEntry) (buffer : Buffer) {count : Nat}
    {lines : List MapsLine}
    (parse : List.Forall₂ (fun text line => sscanfMaps text = some line) (kernel.maps count) lines) :
    ∃ calls, Emits kernel (.stopped tracee) (dumpMappingsContent stale buffer pid) count ()
      (emitted stale (plainMappings tracee.memory completed (count + 2) lines)) calls := by
  obtain ⟨final, calls, loops⟩ := forEntries_plain completes tracee parse buffer (count + 2)
  refine ⟨1 + (1 + (calls + 1)), ?_⟩
  have bytes : emitted stale (plainMappings tracee.memory completed (count + 2) lines) =
      [] ++ ([] ++ (emitted stale (plainMappings tracee.memory completed (count + 2) lines) ++ [])) := by
    simp
  rw [bytes]
  exact (createMapsIter_emits kernel _ stale small count).bind ((Emits.malloc _).bind
    ((loops stale).bind (flush_emits kernel _ _)))

/-- A readable mapping of at most one buffer. -/
theorem emitted_page (stale : MapsEntry) {line : MapsLine} {count : Nat}
    (plain : line.special = false) (readable : line.readable = true)
    (positive : 0 < line.mappingSize % 2 ^ arch.width)
    (fits : line.mappingSize % 2 ^ arch.width ≤ bufferSize)
    (complete : completed (count + 2) (line.start.setWidth _)
      (line.mappingSize % 2 ^ arch.width) = true) :
    emitted stale (plainMappings memory completed count [line]) = (fillEntry stale line).bytes ++
      memorySlice memory (line.start.setWidth _) (line.mappingSize % 2 ^ arch.width) := by
  simp only [plainMappings, emitted, plain, readable, plainContent_single _ _ _ positive fits,
    complete, Bool.and_self, Bool.false_eq_true, if_true, if_false, List.append_nil]

end Mappings

/-- For every way the reads can go, `dump_mappings_content` writes for each mapping that
is not skipped its header and then exactly its size in bytes: chunk by chunk the
memory of the stopped child where the mapping is readable and the read was
complete, and zeros elsewhere. Neither the buffer nor the entry that the run
starts with shows in a content, and failing reads alone do not stop the run. -/
theorem dumpMappingsContent_content (kernel : Kernel arch) (completed : Completed arch)
    (world : World arch) (tracee : Tracee arch) (pid : Nat) (lines : List MapsLine)
    (stopped : world.child = .stopped tracee) (completes : kernel.Completes completed)
    (small : pid < 2 ^ 31)
    (parse : List.Forall₂ (fun text line => sscanfMaps text = some line)
      (kernel.maps world.log.length) lines)
    (sizes : ∀ line ∈ lines, line.mappingSize < 2 ^ arch.width) :
    ∃ mappings, mappings = plainMappings tracee.memory completed (world.log.length + 2) lines ∧
      mappings.map Prod.fst = lines ∧
      (∀ mapping ∈ mappings, mapping.2.length = (mapping.1.end - mapping.1.start).toNat) ∧
      ∀ stale buffer,
        (∀ after, (dumpMappingsContent stale buffer pid).run kernel.answer world = (.ok (), after) →
          after.output = world.output ++ emitted stale mappings) ∧
        (¬ world.Spoiled → (∀ count op, kernel.fails count op = true → op.tolerated = true) →
          ∃ after, (dumpMappingsContent stale buffer pid).run kernel.answer world =
            (.ok (), after)) := by
  have same : (plainMappings tracee.memory completed (world.log.length + 2) lines).map Prod.fst =
      lines := plainMappings_lines _ _
  refine ⟨_, rfl, same, ?_, ?_⟩
  · intro mapping member
    have listed : mapping.1 ∈ lines := by
      rw [← same]
      exact List.mem_map_of_mem member
    rw [plainMappings_length _ _ mapping member, Nat.mod_eq_of_lt (sizes _ listed)]
    rfl
  · intro stale buffer
    obtain ⟨calls, emits⟩ := dumpMappingsContent_plain completes tracee small stale buffer parse
    constructor
    · intro after finished
      rcases emits world stopped rfl with ⟨other, returned, wrote⟩ | ⟨_, code, other, ended, _⟩
      · cases finished.symm.trans returned
        exact wrote.output
      · cases finished.symm.trans ended
    · intro clean absorbed
      rcases emits world stopped rfl with ⟨after, returned, _⟩ | ⟨_, code, after, ended, spoiled⟩
      · exact ⟨after, returned⟩
      · have unspoiled := Kernel.unspoiled_run absorbed
          (dumpMappingsContent stale buffer pid : Sys arch Unit) clean
        rw [ended] at unspoiled
        exact absurd (spoiled (by rw [stopped]; rfl)) unspoiled

/-!
## A child with two mappings
-/

/-- A kernel with one maps file. Of a read that does not succeed half the bytes arrive. -/
def copyingKernel (maps : List (List Byte)) (reads : BitVec 64 → Bool) : Kernel .x86_64 :=
  { mapsKernel .x86_64 (default : PbX86_64Regs) maps with
    readv := fun _ address size buffer =>
      (if reads address then some size else some (size / 2), buffer.fill [0xFF]) }

private theorem copyingKernel_completes (maps : List (List Byte)) (reads : BitVec 64 → Bool) :
    (copyingKernel maps reads).Completes fun _ address size => reads address || size == 0 := by
  intro count address size buffer
  cases ended : reads address with
  | true => simp [copyingKernel, mapsKernel, ended]
  | false =>
      simp [copyingKernel, mapsKernel, ended]
      omega

private theorem memorySlice_painted (paint : Byte) (address : BitVec arch.width) (size : Nat) :
    memorySlice (fun _ => paint) address size = List.replicate size paint := by
  rw [memorySlice, List.map_const', List.length_range]

/-- `00010000-00111000 rw-p 00000000 00:00 0`, one page more than the buffer holds. -/
def largeText : List Byte :=
  [0x30, 0x30, 0x30, 0x31, 0x30, 0x30, 0x30, 0x30, 0x2D, 0x30, 0x30, 0x31, 0x31, 0x31, 0x30, 0x30,
    0x30, 0x20, 0x72, 0x77, 0x2D, 0x70, 0x20, 0x30, 0x30, 0x30, 0x30, 0x30, 0x30, 0x30, 0x30, 0x20,
    0x30, 0x30, 0x3A, 0x30, 0x30, 0x20, 0x30, 0x20, 0x0A]

def largeLine : MapsLine := ⟨0x10000, 0x111000, [0x72, 0x77, 0x2D, 0x70], 0, none⟩

/-- `00200000-00201000 ---p 00000000 00:00 0`, a page that must not be read. -/
def guardText : List Byte :=
  [0x30, 0x30, 0x32, 0x30, 0x30, 0x30, 0x30, 0x30, 0x2D, 0x30, 0x30, 0x32, 0x30, 0x31, 0x30, 0x30,
    0x30, 0x20, 0x2D, 0x2D, 0x2D, 0x70, 0x20, 0x30, 0x30, 0x30, 0x30, 0x30, 0x30, 0x30, 0x30, 0x20,
    0x30, 0x30, 0x3A, 0x30, 0x30, 0x20, 0x30, 0x20, 0x0A]

def guardLine : MapsLine := ⟨0x200000, 0x201000, [0x2D, 0x2D, 0x2D, 0x70], 0, none⟩

private theorem guarded_parse :
    List.Forall₂ (fun text line => sscanfMaps text = some line) [largeText, guardText]
      [largeLine, guardLine] :=
  .cons (by decide) (.cons (by decide) .nil)

/-- A mapping whose second chunk is not read. -/
theorem plainContent_large {memory : BitVec arch.width → Byte} {completed : Completed arch}
    {start : BitVec arch.width} {count : Nat} (first : completed count start bufferSize = true)
    (second : completed (count + 2) (start + BitVec.ofNat _ bufferSize) 4096 = false) :
    plainContent memory completed true start (bufferSize + 4096) count =
      memorySlice memory start bufferSize ++ List.replicate 4096 0 := by
  rw [plainContent_step true start count (by decide) (by decide : bufferSize = _), first,
    Nat.add_sub_cancel_left, plainContent_single true _ _ (by decide) (by decide), second]
  rfl

/-- The first chunk of a mapping is read, the read of its second one is short, and the
guard page behind it is not read at all. -/
theorem dumpMappingsContent_content_guarded :
    ∃ after, (dumpMappingsContent (paintedEntry 0) zeroBuffer 1).run
        (copyingKernel [largeText, guardText] fun address => address == 0x10000).answer
        ⟨[], [], .stopped ⟨(default : PbX86_64Regs), fun _ => 0x5A⟩, 0, []⟩ = (.ok (), after) ∧
      after.output =
        ((fillEntry (paintedEntry 0) largeLine).bytes ++
          (List.replicate bufferSize 0x5A ++ List.replicate 4096 0)) ++
        ((fillEntry (fillEntry (paintedEntry 0) largeLine) guardLine).bytes ++
          List.replicate 4096 0) := by
  obtain ⟨mappings, rfl, _, _, runs⟩ := dumpMappingsContent_content
    (copyingKernel [largeText, guardText] fun address => address == 0x10000) _
    ⟨[], [], .stopped ⟨(default : PbX86_64Regs), fun _ => 0x5A⟩, 0, []⟩ _ 1 [largeLine, guardLine]
    rfl (copyingKernel_completes _ _) (by decide) guarded_parse (by decide)
  obtain ⟨writes, returns⟩ := runs (paintedEntry 0) zeroBuffer
  obtain ⟨after, finished⟩ := returns (by rintro ⟨_, member, _⟩; cases member)
    (by intro count op refused; cases refused)
  refine ⟨after, finished, ?_⟩
  rw [writes after finished]
  have large : largeLine.mappingSize % 2 ^ Arch.x86_64.width = bufferSize + 4096 := by decide
  have guard : guardLine.mappingSize % 2 ^ Arch.x86_64.width = 4096 := by decide
  have readable : largeLine.readable = true ∧ guardLine.readable = false := by decide
  have plain : largeLine.special = false ∧ guardLine.special = false := by decide
  simp only [plainMappings, emitted, plain, large, guard, readable, Bool.false_eq_true, if_false,
    List.nil_append, List.append_nil]
  rw [plainContent_large (by decide) (by decide), memorySlice_painted,
    plainContent_single false _ _ (by decide) (by decide)]
  rfl

end ProcessBridge.Snapshotter
