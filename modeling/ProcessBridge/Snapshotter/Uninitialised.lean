import Mathlib.Data.List.Forall2
import ProcessBridge.Library.Parallel
import ProcessBridge.Snapshotter.MainRuns

/-! What the snapshotter's stack and heap held before decides nothing. Two runs that
differ in it make the same calls and end alike; their files differ at most in
bytes of the path buffer that nobody has written. -/

set_option autoImplicit false

namespace ProcessBridge.Snapshotter

open Library Common Program

variable {arch : Arch}

/-!
## Bytes that nobody has written
-/

section Bytes

variable {stale other : List Byte}

/-- The same byte, or what the two buffers held at one place. -/
def ByteAlike (stale other : List Byte) (byte twin : Byte) : Prop :=
  byte = twin ∨ (byte, twin) ∈ stale.zip other

abbrev BytesAlike (stale other : List Byte) : List Byte → List Byte → Prop :=
  List.Forall₂ (ByteAlike stale other)

theorem BytesAlike.refl (bytes : List Byte) : BytesAlike stale other bytes bytes :=
  List.forall₂_same.mpr fun _ _ => .inl rfl

theorem BytesAlike.buffers (length : stale.length = other.length) :
    BytesAlike stale other stale other :=
  List.forall₂_iff_zip.mpr ⟨length, .inr⟩

theorem BytesAlike.append {left right more twin : List Byte} (front : BytesAlike stale other left right)
    (back : BytesAlike stale other more twin) :
    BytesAlike stale other (left ++ more) (right ++ twin) := List.rel_append front back

/-- If the buffers held the same, there is no difference. -/
theorem BytesAlike.eq {bytes twin : List Byte} (alike : BytesAlike stale stale bytes twin) :
    bytes = twin := by
  induction alike with
  | nil => rfl
  | cons first _ ih =>
      rcases first with same | listed
      · rw [same, ih]
      · rw [List.zip, List.zipWith_self, List.mem_map] at listed
        obtain ⟨_, _, pair⟩ := listed
        cases pair
        rw [ih]

/-- Two entries into which the same line was filled. -/
structure EntriesAlike (stale other : List Byte) (entry twin : MapsEntry) : Prop where
  start : entry.start = twin.start
  limit : entry.end = twin.end
  read : entry.read = twin.read
  write : entry.write = twin.write
  exec : entry.exec = twin.exec
  shared : entry.shared = twin.shared
  fileOffset : entry.fileOffset = twin.fileOffset
  name : cString entry.path = cString twin.path
  path : BytesAlike stale other entry.path twin.path

theorem EntriesAlike.bytes {entry twin : MapsEntry} (alike : EntriesAlike stale other entry twin) :
    BytesAlike stale other entry.bytes twin.bytes := by
  unfold MapsEntry.bytes
  rw [alike.start, alike.limit, alike.read, alike.write, alike.exec, alike.shared, alike.fileOffset]
  exact (BytesAlike.refl _).append alike.path

private theorem storePath_alike {buffer twin : List Byte}
    (alike : BytesAlike stale other buffer twin) (path : Option PathText) :
    BytesAlike stale other (storePath buffer path) (storePath twin path) := by
  cases path with
  | none => exact .cons (.inl rfl) (List.forall₂_drop 1 alike)
  | some text => exact (BytesAlike.refl _).append (.cons (.inl rfl) (List.forall₂_drop _ alike))

private theorem fillEntry_alike {entry twin : MapsEntry}
    (alike : BytesAlike stale other entry.path twin.path)
    (line : MapsLine) : EntriesAlike stale other (fillEntry entry line) (fillEntry twin line) where
  start := rfl
  limit := rfl
  read := rfl
  write := rfl
  exec := rfl
  shared := rfl
  fileOffset := rfl
  name := (cString_fillEntry entry line).trans (cString_fillEntry twin line).symm
  path := storePath_alike alike line.path

end Bytes

/-!
## Calls
-/

section Calls

variable {stale other : List Byte}

/-- Calls that differ at most in bytes that nobody has written. -/
inductive Call.Alike (stale other : List Byte) : Call arch → Call arch → Prop where
  | same (op : Call arch) : Call.Alike stale other op op
  | write {bytes twin : List Byte} (alike : BytesAlike stale other bytes twin) :
      Call.Alike stale other (.write bytes) (.write twin)
  | read (address : BitVec arch.width) {size : Nat} (buffer twin : Buffer) (fits : size ≤ bufferSize) :
      Call.Alike stale other (.processVmReadv address size buffer) (.processVmReadv address size twin)

/-- The same answer; of a read, the same bytes where it was not short. -/
inductive AnswersAlike : (op twin : Call arch) → Answer op → Answer twin → Prop where
  | same (op : Call arch) (answer : Answer op) : AnswersAlike op op answer answer
  | write (bytes twin : List Byte) (done : Bool) : AnswersAlike (.write bytes) (.write twin) done done
  | read {address : BitVec arch.width} {size : Nat} {buffer twin : Buffer} (result : Option Nat)
      {left right : Buffer}
      (filled : result = some size → left.val.take size = right.val.take size) :
      AnswersAlike (.processVmReadv address size buffer) (.processVmReadv address size twin)
        (result, left) (result, right)

/-- How the calls of two runs correspond. -/
def unwritten (stale other : List Byte) : Pairing (Call arch) Answer :=
  ⟨Call.Alike stale other, AnswersAlike⟩

def Call.reads : Call arch → Bool
  | .processVmReadv _ _ _ => true
  | _ => false

theorem AnswersAlike.eq {op : Call arch} (plain : op.reads = false) {answer reply : Answer op}
    (alike : AnswersAlike op op answer reply) : answer = reply := by
  cases alike with
  | same => rfl
  | write => rfl
  | read => cases plain

/-- A program that is handed no such bytes is parallel to itself. -/
theorem parallel_self {α : Type} {program : Sys arch α} (uses : program.Uses (·.reads = false)) :
    Parallel (unwritten stale other) Eq program program :=
  .refl (uses.imp fun op plain => ⟨.same op, fun _ _ alike => AnswersAlike.eq plain alike⟩)

private theorem call_plain (op : Call arch) (plain : op.reads = false) : (call op).Uses
    (·.reads = false) :=
  Uses.call plain

end Calls

/-!
## Kernels
-/

/-- The kernel does not look at the bytes of a write, nor into a buffer before it fills
it. -/
structure Kernel.Blind (kernel : Kernel arch) : Prop where
  write : ∀ count bytes twin, bytes.length = twin.length →
    kernel.fails count (.write bytes) = kernel.fails count (.write twin)
  read : ∀ count address size buffer twin,
    kernel.fails count (.processVmReadv address size buffer) =
      kernel.fails count (.processVmReadv address size twin)
  result : ∀ count address size buffer twin,
    (kernel.readv count address size buffer).1 = (kernel.readv count address size twin).1
  filled : ∀ count address size buffer twin, size ≤ bufferSize →
    (kernel.readv count address size buffer).1 = some size →
    (kernel.readv count address size buffer).2.val.take size =
      (kernel.readv count address size twin).2.val.take size

structure Entry.Alike (stale other : List Byte) (entry twin : Entry arch) : Prop where
  call : Call.Alike stale other entry.call twin.call
  child : entry.child = twin.child
  succeeded : entry.succeeded = twin.succeeded

/-- Two worlds that differ at most in such bytes, in their files and in the calls they
remember. -/
structure World.Twins (stale other : List Byte) (world twin : World arch) : Prop where
  log : List.Forall₂ (Entry.Alike stale other) world.log twin.log
  reports : world.reports = twin.reports
  child : world.child = twin.child
  elfPosition : world.elfPosition = twin.elfPosition
  output : BytesAlike stale other world.output twin.output

section Kernels

variable {stale other : List Byte} {world twin : World arch}

theorem World.Twins.initial : World.Twins stale other (.initial arch) (.initial arch) :=
  ⟨.nil, rfl, rfl, rfl, .nil⟩

theorem World.Twins.record (alike : World.Twins stale other world twin) {op mate : Call arch}
    (calls : Call.Alike stale other op mate) (succeeded : Bool) :
    World.Twins stale other (world.record op succeeded) (twin.record mate succeeded) where
  log := List.rel_append alike.log (.cons ⟨calls, alike.child, rfl⟩ .nil)
  reports := alike.reports
  child := alike.child
  elfPosition := alike.elfPosition
  output := alike.output

/-- A call that is made in both worlds is performed alike. -/
theorem perform_twins (kernel : Kernel arch) (count : Nat) (op : Call arch)
    (alike : World.Twins stale other world twin) :
    (kernel.perform count op world).1 = (kernel.perform count op twin).1 ∧
      World.Twins stale other (kernel.perform count op world).2 (kernel.perform count op twin).2 := by
  obtain ⟨log, reports, child, elfPosition, output⟩ := world
  obtain ⟨twinLog, _, _, _, twinOutput⟩ := twin
  obtain ⟨logs, rfl, rfl, rfl, outputs⟩ := alike
  cases op with
  | waitpid =>
      simp only [Kernel.perform, Kernel.wait]
      cases child with
      | running resume tracee =>
          dsimp only
          cases kernel.report count resume tracee with
          | none => exact ⟨rfl, logs, rfl, rfl, rfl, outputs⟩
          | some reported => exact ⟨rfl, logs, rfl, rfl, rfl, outputs⟩
      | absent | stopped | dead => exact ⟨rfl, logs, rfl, rfl, rfl, outputs⟩
  | getregs | setregs | peektext | poketext | cont | singlestep | getThreadArea =>
      cases child with
      | _ => exact ⟨rfl, logs, rfl, rfl, rfl, outputs⟩
  | seekElf offset =>
      simp only [Kernel.perform]
      split
      · exact ⟨rfl, logs, rfl, rfl, rfl, outputs⟩
      · exact ⟨rfl, logs, rfl, rfl, rfl, outputs⟩
  | openSnapshot => exact ⟨rfl, logs, rfl, rfl, rfl, .nil⟩
  | write bytes => exact ⟨rfl, logs, rfl, rfl, rfl, outputs.append (.refl bytes)⟩
  | _ => exact ⟨rfl, logs, rfl, rfl, rfl, outputs⟩

private theorem refusal_alike (kernel : Kernel arch) (count : Nat) {op mate : Call arch}
    (calls : Call.Alike stale other op mate) :
    AnswersAlike op mate (kernel.refusal count op) (kernel.refusal count mate) := by
  cases calls with
  | same => exact .same op _
  | write => exact .write _ _ false
  | read => exact .read none fun complete => by cases complete

/-- What a complete read leaves in the buffer does not depend on what was there. -/
theorem Kernel.Blind.read_alike {kernel : Kernel arch} (blind : kernel.Blind) (count : Nat)
    (child : Child arch) (address : BitVec arch.width) {size : Nat} (buffer other : Buffer)
    (fits : size ≤ bufferSize) :
    AnswersAlike (.processVmReadv address size buffer) (.processVmReadv address size other)
      (kernel.read child count address size buffer)
      (kernel.read child count address size other) := by
  have result := blind.result count address size buffer other
  have filled := blind.filled count address size buffer other fits
  cases child with
  | stopped tracee =>
      simp only [Kernel.read, ← result]
      refine .read _ fun complete => ?_
      have length := memorySlice_length tracee.memory address size
      rw [if_pos complete, if_pos complete, Buffer.fill_take _ length fits,
        Buffer.fill_take _ length fits]
  | running resume tracee =>
      simp only [Kernel.read, ← result]
      exact .read _ filled
  | absent | dead => exact .read none fun complete => by cases complete

section Blind

variable {kernel : Kernel arch} (blind : kernel.Blind) {op mate : Call arch}
  (calls : Call.Alike stale other op mate)

include blind calls

theorem Kernel.Blind.fails (count : Nat) : kernel.fails count op = kernel.fails count mate := by
  cases calls with
  | same => rfl
  | write alike => exact blind.write count _ _ alike.length_eq
  | read address buffer twin fits => exact blind.read count address _ buffer twin

theorem Kernel.Blind.perform (count : Nat) (alike : World.Twins stale other world twin) :
    AnswersAlike op mate (kernel.perform count op world).1 (kernel.perform count mate twin).1 ∧
      World.Twins stale other (kernel.perform count op world).2
        (kernel.perform count mate twin).2 := by
  cases calls with
  | same =>
      obtain ⟨answered, performed⟩ := perform_twins kernel count op alike
      rw [answered]
      exact ⟨.same op _, performed⟩
  | write bytes =>
      exact ⟨.write _ _ true, alike.log, alike.reports, alike.child, alike.elfPosition,
        alike.output.append bytes⟩
  | @read address size buffer other fits =>
      refine ⟨?_, alike⟩
      simp only [Kernel.perform, alike.child]
      exact blind.read_alike count twin.child address buffer other fits

/-- Such a kernel answers corresponding calls alike. -/
theorem Kernel.Blind.answers (alike : World.Twins stale other world twin) :
    AnswersAlike op mate (kernel.answer op world).1 (kernel.answer mate twin).1 ∧
      World.Twins stale other (kernel.answer op world).2 (kernel.answer mate twin).2 := by
  have count : world.log.length = twin.log.length := alike.log.length_eq
  have fails := blind.fails calls world.log.length
  rcases kernel.answer_cases op world with ⟨refused, ours⟩ | ⟨granted, ours⟩
  · rcases kernel.answer_cases mate twin with ⟨_, theirs⟩ | ⟨granted, _⟩
    · rw [ours, theirs, ← count]
      exact ⟨refusal_alike kernel _ calls, alike.record calls false⟩
    · rw [fails, count, granted] at refused
      cases refused
  · rcases kernel.answer_cases mate twin with ⟨refused, _⟩ | ⟨_, theirs⟩
    · rw [fails, count, refused] at granted
      cases granted
    · rw [ours, theirs, ← count]
      exact blind.perform calls _ (alike.record calls true)

end Blind

end Kernels

/-!
## Functions
-/

section Functions

variable {stale other : List Byte}

private theorem nextLine_parallel {front back : List Byte} {entry twin : MapsEntry}
    (alike : BytesAlike front back entry.path twin.path) (text : List Byte) :
    Parallel (unwritten stale other) (EntriesAlike front back) (nextLine entry text : Sys arch MapsEntry)
      (nextLine twin text) := by
  have reads : (ensure (call .getline) "getline() on /proc/<pid>/maps failed" : Sys arch Unit).Uses
      (·.reads = false) := Uses.ensure (call_plain _ rfl) _
  refine (parallel_self reads).bind fun _ _ _ => ?_
  unfold parseMapsStr
  cases sscanfMaps text with
  | none => exact .exit _
  | some line => exact .pure (fillEntry_alike alike line)

theorem nextEnd_uses : (nextEnd : Sys arch Unit).Uses (·.reads = false) :=
  (Uses.ensure (call_plain _ rfl) _).bind fun _ => Uses.ensure (call_plain _ rfl) _

/-- The loop over the maps, from any two contents of the entry. -/
theorem forEntries_parallel {σ : Type} (states : σ → σ → Prop)
    {body : MapsEntry → σ → Sys arch σ} {front back : List Byte}
    (bodies : ∀ entry twin state mate, EntriesAlike front back entry twin → states state mate →
      Parallel (unwritten stale other) states (body entry state) (body twin mate))
    {entry twin : MapsEntry} (alike : BytesAlike front back entry.path twin.path)
    (texts : List (List Byte)) {state mate : σ} (start : states state mate) :
    Parallel (unwritten stale other) states (forEntries body entry texts state)
      (forEntries body twin texts mate) := by
  induction texts generalizing entry twin state mate with
  | nil => exact (parallel_self nextEnd_uses).bind fun _ _ _ => .pure start
  | cons text rest ih =>
      refine (nextLine_parallel alike text).bind fun entry twin filled => ?_
      exact (bodies entry twin state mate filled start).bind fun _ _ again => ih filled.path again

private theorem createMapsIter_parallel (entry twin : MapsEntry) (pid : Nat) :
    Parallel (unwritten stale other)
      (fun iter mate => iter.file = mate.file ∧
        BytesAlike entry.path twin.path iter.entry.path mate.entry.path)
      (createMapsIter entry pid : Sys arch MapsIter) (createMapsIter twin pid) := by
  refine (parallel_self (Uses.exitIf _ _)).bind fun _ _ _ => ?_
  refine (parallel_self (Uses.required (call_plain _ rfl) _)).bind fun file _ same => ?_
  cases same
  exact .pure ⟨rfl, .buffers (entry.pathSize.trans twin.pathSize.symm)⟩

private theorem locates_plain {op : Call arch} (locates : op.locates = true) :
    op.reads = false := by
  cases op with
  | _ => first | rfl | cases locates

private theorem getImageBaseViaElfInfo_parallel (entry twin : MapsEntry) (info : ElfInfo) :
    Parallel (unwritten stale other) Eq
      (getImageBaseViaElfInfo entry info : Sys arch (BitVec 64))
      (getImageBaseViaElfInfo twin info) := by
  refine (parallel_self (isPie_uses info)).bind fun pie _ same => ?_
  cases same
  refine .ite Iff.rfl (fun _ => ?_) fun _ => .pure rfl
  refine (parallel_self (minVaddrLoop_uses (fun _ => locates_plain) info _ _)).bind
    fun minVaddr _ same => ?_
  cases same
  refine (createMapsIter_parallel entry twin info.pid).bind fun iter mate iters => ?_
  obtain ⟨file, alike⟩ := iters
  rw [← file]
  refine (forEntries_parallel Eq ?_ alike iter.file rfl).bind fun lowest _ same => ?_
  · intro line mate state _ filled same
    cases same
    refine .pure ?_
    rw [lowestMapping, lowestMapping, filled.name, filled.start]
  · cases same
    exact parallel_self ((Uses.exitIf _ _).bind fun _ => .pure _)

private theorem getImageBase_parallel (entry twin : MapsEntry) (pid : Nat) :
    Parallel (unwritten stale other) Eq (getImageBase entry pid : Sys arch (BitVec 64))
      (getImageBase twin pid) := by
  refine (parallel_self (openElf_uses (fun _ => locates_plain) pid)).bind fun info _ same => ?_
  cases same
  refine (getImageBaseViaElfInfo_parallel entry twin info).bind fun imageBase _ same => ?_
  cases same
  exact parallel_self ((Uses.ensure (call_plain _ rfl) _).bind fun _ => .pure _)

/-- Of the buffer that is read into, what is used afterwards has been written. -/
theorem readChunk_parallel (address : BitVec arch.width) {chunk : Nat} (fits : chunk ≤ bufferSize)
    (buffer twin : Buffer) :
    Parallel (unwritten stale other) (fun left right => left.val.take chunk = right.val.take chunk)
      (readChunk address chunk buffer) (readChunk address chunk twin) := by
  have calls : Call.Alike stale other (.processVmReadv address chunk buffer)
      (.processVmReadv address chunk twin) := .read address buffer twin fits
  refine (Parallel.ask calls).bind fun answer reply alike => ?_
  cases alike with
  | same => exact .ite Iff.rfl (fun _ => .pure rfl) fun _ => .pure rfl
  | read result filled =>
      refine .ite Iff.rfl (fun complete => .pure (filled complete)) fun _ => .pure ?_
      rw [Buffer.zero_take _ le_rfl fits, Buffer.zero_take _ le_rfl fits]

private theorem write_parallel {bytes twin : List Byte} (alike : BytesAlike stale other bytes twin)
    (message : String) :
    Parallel (unwritten stale other) Eq (ensure (call (.write bytes)) message : Sys arch Unit)
      (ensure (call (.write twin)) message) := by
  have calls : Call.Alike stale other (.write bytes : Call arch) (.write twin) := .write alike
  refine (Parallel.ask calls).bind fun answer reply answers => ?_
  have same : answer = reply := by
    cases answers with
    | same | write => rfl
  cases same
  change Bool at answer
  cases answer with
  | true => exact .pure rfl
  | false => exact .exit _

private theorem copyContent_parallel (readable : Bool) (address : BitVec arch.width)
    (remaining : Nat) {buffer twin : Buffer}
    (agree : readable = false →
      buffer.val.take (min remaining bufferSize) = twin.val.take (min remaining bufferSize)) :
    Parallel (unwritten stale other) (fun _ _ => True) (copyContent readable address remaining buffer)
      (copyContent readable address remaining twin) := by
  induction remaining using Nat.strong_induction_on generalizing address buffer twin with
  | h remaining ih =>
      have positive := bufferSize_pos
      unfold copyContent
      refine .ite Iff.rfl (fun _ => .pure trivial) fun more => ?_
      have shape : (if remaining > bufferSize then bufferSize else remaining) =
          min remaining bufferSize := by
        split <;> omega
      rw [shape]
      have filled : Parallel (unwritten stale other)
          (fun left right => left.val.take (min remaining bufferSize) =
            right.val.take (min remaining bufferSize))
          (if readable then readChunk address (min remaining bufferSize) buffer else pure buffer)
          (if readable then readChunk address (min remaining bufferSize) twin else pure twin) := by
        cases readable with
        | true => exact readChunk_parallel address (Nat.min_le_right _ _) buffer twin
        | false => exact .pure (agree rfl)
      refine filled.bind fun left right same => ?_
      rw [same]
      refine (write_parallel (.refl _) _).bind fun _ _ _ => ih _ (by omega) _ fun _ => ?_
      have within : min (remaining - min remaining bufferSize) bufferSize ≤
          min remaining bufferSize := by omega
      have shorter := congrArg
        (List.take (min (remaining - min remaining bufferSize) bufferSize)) same
      rwa [List.take_take, List.take_take, Nat.min_eq_left within] at shorter

private theorem dumpMapping_parallel {entry twin : MapsEntry}
    (alike : EntriesAlike stale other entry twin) (buffer mate : Buffer) :
    Parallel (unwritten stale other) (fun _ _ => True) (dumpMapping entry buffer : Sys arch Buffer)
      (dumpMapping twin mate) := by
  have size : entry.mappingSize = twin.mappingSize := by
    rw [MapsEntry.mappingSize, MapsEntry.mappingSize, alike.start, alike.limit]
  unfold dumpMapping
  rw [alike.name, alike.read, alike.start, size]
  refine .ite Iff.rfl (fun _ => .pure trivial) fun _ => ?_
  refine (write_parallel alike.bytes _).bind fun _ _ _ => ?_
  refine copyContent_parallel _ _ _ fun unreadable => ?_
  have zeros : twin.read = 0 := not_not.mp (of_decide_eq_false unreadable)
  rw [if_pos zeros, if_pos zeros, Buffer.zero_take _ le_rfl (Nat.min_le_right _ _),
    Buffer.zero_take _ le_rfl (Nat.min_le_right _ _)]

private theorem dumpMappingsContent_parallel (entry twin : MapsEntry) (buffer mate : Buffer)
    (pid : Nat) :
    Parallel (unwritten entry.path twin.path) Eq
      (dumpMappingsContent entry buffer pid : Sys arch Unit) (dumpMappingsContent twin mate pid) := by
  refine (createMapsIter_parallel entry twin pid).bind fun iter other iters => ?_
  obtain ⟨file, alike⟩ := iters
  rw [← file]
  refine (parallel_self (Uses.ensure (call_plain _ rfl) _)).bind fun _ _ _ => ?_
  refine (forEntries_parallel (fun _ _ => True) ?_ alike iter.file trivial).bind fun _ _ _ => ?_
  · exact fun line mate left right filled _ => dumpMapping_parallel filled left right
  · exact parallel_self ((call_plain .flush rfl).bind fun _ => Uses.exitIf _ _)

private theorem dumpSnapshot_parallel (entry twin : MapsEntry) (buffer mate : Buffer)
    (snapshot : List Byte) (pid : Nat) :
    Parallel (unwritten entry.path twin.path) Eq
      (dumpSnapshot entry buffer snapshot pid : Sys arch Unit)
      (dumpSnapshot twin mate snapshot pid) := by
  refine (parallel_self (Uses.ensure (call_plain _ rfl) _)).bind fun _ _ _ => ?_
  refine (write_parallel (.refl _) _).bind fun _ _ _ => ?_
  refine (dumpMappingsContent_parallel entry twin buffer mate pid).bind fun _ _ _ => ?_
  exact parallel_self (Uses.ensure (call_plain _ rfl) _)

/-- The descriptors that were asked for do not depend on what was there before. -/
theorem fillTls_parallel (gdtEntryTlsMin : Nat) (indices : List Nat) {tls twin : Tls}
    (filled : Nat → Prop) (agree : ∀ slot, filled slot.val → tls slot = twin slot) :
    Parallel (unwritten stale other)
      (fun left right => ∀ slot, filled slot.val ∨ slot.val ∈ indices.map (· - gdtEntryTlsMin) →
        left slot = right slot)
      (fillTls gdtEntryTlsMin indices tls) (fillTls gdtEntryTlsMin indices twin) := by
  induction indices generalizing tls twin filled with
  | nil =>
      refine .pure fun slot known => agree slot (known.resolve_right ?_)
      exact List.not_mem_nil
  | cons index rest ih =>
      refine (parallel_self (Uses.required (call_plain _ rfl) _)).bind fun desc _ same => ?_
      cases same
      have now : ∀ slot, filled slot.val ∨ slot.val = index - gdtEntryTlsMin →
          Tls.set tls (index - gdtEntryTlsMin) desc slot =
            Tls.set twin (index - gdtEntryTlsMin) desc slot := by
        intro slot known
        unfold Tls.set
        split
        · rfl
        · next elsewhere => exact agree slot (known.resolve_right elsewhere)
      refine (ih (fun slot => filled slot ∨ slot = index - gdtEntryTlsMin) now).imp ?_
      intro left right done slot known
      rw [List.map_cons, List.mem_cons] at known
      exact done slot (or_assoc.mpr known)

private theorem readTls_parallel (tls twin : Tls) :
    Parallel (unwritten stale other) Eq (readTls tls) (readTls twin) := by
  refine (parallel_self (call_plain (.getThreadArea gdtEntryTlsMinTrueI386) rfl)).bind ?_
  intro answer reply same
  cases same
  cases answer with
  | none =>
      refine (fillTls_parallel _ _ (fun _ => False) fun _ => False.elim).imp ?_
      intro left right agree
      refine funext fun slot => agree slot (.inr ?_)
      revert slot
      decide
  | some desc =>
      have first : ∀ slot : Fin gdtEntryTlsEntries, slot.val = 0 →
          Tls.set tls 0 desc slot = Tls.set twin 0 desc slot := by
        intro slot zero
        rw [Tls.set, Tls.set, if_pos zero, if_pos zero]
      refine (fillTls_parallel _ _ (· = 0) first).imp ?_
      intro left right agree
      refine funext fun slot => agree slot ?_
      revert slot
      decide

private theorem createSnapshot_parallel {platform : Platform} {stale other : List Byte}
    (tls twin : Tls) :
    Parallel (unwritten stale other) Eq (createSnapshot tls platform) (createSnapshot twin platform) := by
  cases platform with
  | x86_64 =>
      exact parallel_self ((Uses.required (call_plain .getregs rfl) _).bind fun _ => .pure _)
  | i386 =>
      refine (parallel_self (Uses.required (call_plain .getregs rfl) _)).bind fun regs _ same => ?_
      cases same
      refine (readTls_parallel tls twin).bind fun filled _ same => ?_
      cases same
      exact .pure rfl

end Functions

/-!
## The program
-/

section Target

variable {platform : Platform} (locals other : Locals)

private theorem reachBreakpoint_parallel {stale twin : List Byte}
    (addr : BitVec platform.arch.width) :
    Parallel (unwritten stale twin) Eq (reachBreakpoint locals.imageEntry addr)
      (reachBreakpoint other.imageEntry addr) := by
  have driving : ∀ op : Call platform.arch, op.drives = true → op.reads = false := by
    intro op drives
    cases op with
    | _ => first | rfl | cases drives
  have arms : ∀ hookAddr : BitVec platform.arch.width,
      (createBreakpoint hookAddr).Uses (·.reads = false) :=
    fun hookAddr => createBreakpoint_uses hookAddr rfl fun _ => rfl
  refine (parallel_self (forkChild_uses rfl rfl)).bind fun pid _ same => ?_
  cases same
  refine (getImageBase_parallel locals.imageEntry other.imageEntry pid).bind fun base _ same => ?_
  cases same
  exact parallel_self ((arms _).bind fun breakpoint =>
    (executeUpToBreakpoint_uses driving breakpoint).bind fun _ => .pure pid)

private theorem captureAndDump_parallel (pid : Nat) :
    Parallel (unwritten locals.dumpEntry.path other.dumpEntry.path) Eq
      (captureAndDump platform locals.tls locals.dumpEntry locals.buffer pid)
      (captureAndDump platform other.tls other.dumpEntry other.buffer pid) := by
  refine (createSnapshot_parallel locals.tls other.tls).bind fun state _ same => ?_
  cases same
  refine (dumpSnapshot_parallel locals.dumpEntry other.dumpEntry locals.buffer other.buffer _
    pid).bind fun _ _ _ => ?_
  exact .pure rfl

private theorem runTarget_parallel (addr : BitVec platform.arch.width) :
    Parallel (unwritten locals.dumpEntry.path other.dumpEntry.path) Eq
      (runTarget platform locals addr) (runTarget platform other addr) := by
  have killing : ∀ op : Call platform.arch, op = .kill ∨ op = .waitpid → op.reads = false := by
    intro op known
    rcases known with rfl | rfl
    · rfl
    · rfl
  rw [runTarget_eq, runTarget_eq]
  refine (reachBreakpoint_parallel locals other addr).bind fun pid _ same => ?_
  cases same
  refine (captureAndDump_parallel locals other pid).bind fun _ _ _ => ?_
  exact parallel_self (killChild_uses.imp killing)

private theorem main_parallel (argv : List (List Byte)) :
    Parallel (unwritten locals.dumpEntry.path other.dumpEntry.path) Eq
      (main platform locals argv) (main platform other argv) := by
  unfold main
  split
  · split
    · exact .exit _
    · refine (parallel_self (Uses.ensure (call_plain .malloc rfl) _)).bind fun _ _ _ => ?_
      exact (runTarget_parallel locals other _).bind fun _ _ _ => .pure rfl
  · exact .pure rfl

end Target

/-- What the stack and the heap held before `main` began decides nothing: two runs that
differ in it make the same calls with the same success, on a child in the same
states, and end in the same way. Their files are equally long and differ at most
in bytes that the path buffer held from the beginning; if it held the same, the
files are the same. -/
theorem main_ignoresUninitialised (platform : Platform) (kernel : Kernel platform.arch)
    (locals other : Locals) (argv : List (List Byte)) (final twin : World platform.arch)
    (result mate : Except Exit Exit) (blind : kernel.Blind)
    (ran : (main platform locals argv).run kernel.answer (.initial _) = (result, final))
    (reran : (main platform other argv).run kernel.answer (.initial _) = (mate, twin)) :
    result = mate ∧ World.Twins locals.dumpEntry.path other.dumpEntry.path final twin ∧
      (locals.dumpEntry.path = other.dumpEntry.path → final.output = twin.output) := by
  obtain ⟨ends, twins⟩ := (main_parallel locals other argv).run kernel.answer (World.Twins _ _)
    (fun _ _ _ _ calls alike => blind.answers calls alike) World.Twins.initial
  rw [ran, reran] at ends twins
  refine ⟨ends.eq, twins, fun same => ?_⟩
  have alike := twins.output
  rw [same] at alike
  exact alike.eq

/-- `00010000-00011000 r-xp 00000000 00:00 0 /a`, the one page of the executable. -/
def imageText : List Byte :=
  [0x30, 0x30, 0x30, 0x31, 0x30, 0x30, 0x30, 0x30, 0x2D, 0x30, 0x30, 0x30, 0x31, 0x31, 0x30, 0x30,
    0x30, 0x20, 0x72, 0x2D, 0x78, 0x70, 0x20, 0x30, 0x30, 0x30, 0x30, 0x30, 0x30, 0x30, 0x30, 0x20,
    0x30, 0x30, 0x3A, 0x30, 0x30, 0x20, 0x30, 0x20, 0x2F, 0x61, 0x0A]

/-- A position independent executable on a 64-bit kernel, which does not know the thread
areas of a 32-bit one. -/
def pieKernel : Kernel .i386 where
  fails := fun _ op =>
    match op with
    | .getThreadArea index => index == gdtEntryTlsMinTrueI386
    | _ => false
  pid := 1
  image := ⟨(default : PbI386Regs), fun _ => 0x90⟩
  report := fun _ _ tracee => some (.stopped sigtrap, tracee.setIp (0x11001 : BitVec 32))
  threadArea := fun _ _ => default
  elf := elfMag ++ [0x01] ++ List.replicate 11 0 ++ [0x03, 0x00] ++ List.replicate 10 0 ++
    [0x34, 0x00, 0x00, 0x00] ++ List.replicate 10 0 ++ [0x20, 0x00, 0x01, 0x00] ++
    List.replicate 6 0 ++ [0x01, 0x00, 0x00, 0x00] ++ List.replicate 28 0
  elfPath := [0x2F, 0x61]
  maps := fun _ => [imageText]
  readv := fun _ _ size buffer => (some size, buffer.fill (List.replicate size 0))

private theorem pieKernel_blind : pieKernel.Blind where
  write := fun _ _ _ _ => rfl
  read := fun _ _ _ _ _ => rfl
  result := fun _ _ _ _ _ => rfl
  filled := by
    intro _ _ size buffer twin fits _
    have length : (List.replicate size (0 : Byte)).length = size := List.length_replicate
    exact (buffer.fill_take length fits).trans (twin.fill_take length fits).symm

/-- Other contents of everything that is not initialised. -/
def paintedLocals : Locals :=
  ⟨fun _ => ⟨1, 1, 1, 1⟩, paintedEntry 1, paintedEntry 1,
    ⟨List.replicate bufferSize 1, List.length_replicate⟩⟩

unseal copyContent in
private theorem pieKernel_ran :
    (∃ final, (main .i386 blankLocals targetArgv).run pieKernel.answer (.initial .i386) =
      (.ok .success, final) ∧ final.log.any (fun entry => entry.call.reads) = true) ∧
    ∃ twin, (main .i386 paintedLocals targetArgv).run pieKernel.answer (.initial .i386) =
      (.ok .success, twin) :=
  ⟨⟨_, rfl, rfl⟩, ⟨_, rfl⟩⟩

/-- A mapping is read and written by two runs that find nothing alike. -/
theorem main_ignoresUninitialised_pie :
    ∃ final twin : World .i386,
      (main .i386 blankLocals targetArgv).run pieKernel.answer (.initial .i386) =
        (.ok .success, final) ∧
      (main .i386 paintedLocals targetArgv).run pieKernel.answer (.initial .i386) =
        (.ok .success, twin) ∧
      final.log.any (fun entry => entry.call.reads) = true ∧
      World.Twins (paintedEntry 0).path (paintedEntry 1).path final twin := by
  obtain ⟨⟨final, ran, reads⟩, twin, reran⟩ := pieKernel_ran
  exact ⟨final, twin, ran, reran, reads, (main_ignoresUninitialised .i386 pieKernel _ _ _ final twin _ _
    pieKernel_blind ran reran).2.1⟩

end ProcessBridge.Snapshotter
