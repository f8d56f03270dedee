import ProcessBridge.Library.Numerals
import ProcessBridge.Snapshotter.HexScan
import ProcessBridge.Snapshotter.SnapshotDumpProperties

/-! The lines of `/proc/<pid>/maps` as the kernel prints them, and that the scan
of `parse_maps_str` takes every one of them apart again. -/

set_option autoImplicit false

namespace ProcessBridge.Snapshotter

open Library Common
open Program hiding call

/-!
## The lines of the kernel
-/

/-- What the kernel prints about one mapping. A path is kept apart from the inode by at
least one blank. -/
structure KernelMapping where
  start : BitVec 64
  «end» : BitVec 64
  read : Bool
  write : Bool
  exec : Bool
  shared : Bool
  fileOffset : BitVec 64
  major : Nat
  minor : Nat
  inode : Nat
  padding : Nat
  path : List Byte
  short : path.length < maxPath
  clean : ∀ byte ∈ path, byte ≠ 0 ∧ byte ≠ 0x0A
  visible : ∀ byte ∈ path.head?, isSpace byte = false
  apart : path ≠ [] → 0 < padding

namespace KernelMapping

def perms (mapping : KernelMapping) : List Byte :=
  [if mapping.read then 0x72 else 0x2D, if mapping.write then 0x77 else 0x2D,
    if mapping.exec then 0x78 else 0x2D, if mapping.shared then 0x73 else 0x70]

def device (mapping : KernelMapping) : List Byte :=
  zeroPadded 2 (numeral 16 mapping.major) ++ 0x3A :: zeroPadded 2 (numeral 16 mapping.minor)

/-- `%08lx-%08lx %c%c%c%c %08llx %02x:%02x %lu`, the padding and the path. -/
def text (mapping : KernelMapping) : List Byte :=
  zeroPadded 8 (numeral 16 mapping.start.toNat) ++ 0x2D ::
  (zeroPadded 8 (numeral 16 mapping.end.toNat) ++ 0x20 ::
  (mapping.perms ++ 0x20 ::
  (zeroPadded 8 (numeral 16 mapping.fileOffset.toNat) ++ 0x20 ::
  (mapping.device ++ 0x20 ::
  (numeral 10 mapping.inode ++ (List.replicate mapping.padding 0x20 ++ mapping.path))))))

def line (mapping : KernelMapping) : List Byte := mapping.text ++ [0x0A]

end KernelMapping

/-!
## Printed numbers
-/

private theorem hexDigit_digitByte : ∀ digit < 16, hexDigit
    (digitByte digit) = some digit := by decide

private theorem digitByte_visible : ∀ digit < 16,
    isSpace (digitByte digit) = false ∧ digitByte digit ≠ 0 ∧ digitByte digit ≠ 0x0A := by
  decide

/-- A byte that stands in a word of a line. -/
def Visible (byte : Byte) : Prop := isSpace byte = false ∧ byte ≠ 0 ∧ byte ≠ 0x0A

instance : DecidablePred Visible := fun byte =>
  inferInstanceAs (Decidable (isSpace byte = false ∧ byte ≠ 0 ∧ byte ≠ 0x0A))

private theorem zeroPadded_visible {base : Nat} (large : 1 < base) (small : base ≤ 16)
    (width number : Nat) :
    ∀ byte ∈ zeroPadded width (numeral base number), Visible byte := by
  intro byte member
  obtain ⟨digit, bound, rfl⟩ := zeroPadded_digits large member
  exact digitByte_visible digit (by omega)

private theorem zeroPadded_allHex (width number : Nat) : AllHex
    (zeroPadded width (numeral 16 number)) := by
  intro byte member
  obtain ⟨digit, bound, rfl⟩ := zeroPadded_digits (by decide) member
  rw [hexDigit_digitByte digit bound]
  rfl

private theorem hexValue_zeroPadded (width number : Nat) :
    hexValue (zeroPadded width (numeral 16 number)) = number := by
  refine foldl_zeroPadded (by decide) ?_ width number
  intro digit small
  rw [hexDigit_digitByte digit small]
  rfl

/-- A printed word of 64 bits is read back. -/
theorem scanHex_printed (value : BitVec 64) {rest : List Byte}
    (ends : ∀ byte ∈ rest.head?, (hexDigit byte).isSome = false) :
    scanHex (zeroPadded 8 (numeral 16 value.toNat) ++ rest) = some (value, rest) := by
  have long : 2 ≤ (zeroPadded 8 (numeral 16 value.toNat)).length :=
    le_trans (by decide) (zeroPadded_length 8 _)
  rw [scanHex_run (zeroPadded_allHex 8 _) long ends, hexValue_zeroPadded, hexNumber,
    if_neg (Nat.not_le.mpr value.isLt)]
  simp

/-!
## Taking a line apart
-/

namespace KernelMapping

variable (mapping : KernelMapping)

private theorem perms_visible : ∀ byte ∈ mapping.perms, Visible byte := by
  intro byte member
  simp only [perms, List.mem_cons, List.not_mem_nil, or_false] at member
  rcases member with rfl | rfl | rfl | rfl <;> split <;> decide

private theorem device_visible : ∀ byte ∈ mapping.device, Visible byte := by
  intro byte member
  rw [device, List.mem_append, List.mem_cons] at member
  rcases member with major | rfl | minor
  · exact zeroPadded_visible (by decide) le_rfl 2 _ byte major
  · decide
  · exact zeroPadded_visible (by decide) le_rfl 2 _ byte minor

private theorem inode_visible : ∀ byte ∈ numeral 10 mapping.inode, Visible byte := by
  intro byte member
  obtain ⟨digit, bound, rfl⟩ := numeral_digits (by decide) member
  exact digitByte_visible digit (by omega)

/-- No byte of a line ends it early. -/
theorem text_clean : ∀ byte ∈ mapping.text, byte ≠ 0 ∧ byte ≠ 0x0A := by
  intro byte member
  simp only [text, List.mem_append, List.mem_cons, List.mem_replicate] at member
  rcases member with number | rfl | number | rfl | perms | rfl | number | rfl | device | rfl |
    inode | ⟨_, rfl⟩ | path
  · exact (zeroPadded_visible (by decide) le_rfl 8 _ byte number).2
  · decide
  · exact (zeroPadded_visible (by decide) le_rfl 8 _ byte number).2
  · decide
  · exact (mapping.perms_visible byte perms).2
  · decide
  · exact (zeroPadded_visible (by decide) le_rfl 8 _ byte number).2
  · decide
  · exact (mapping.device_visible byte device).2
  · decide
  · exact (mapping.inode_visible byte inode).2
  · decide
  · exact mapping.clean byte path

private theorem cString_line : cString mapping.line = mapping.line := by
  apply List.takeWhile_eq_self_iff.mpr
  intro byte member
  rw [line, List.mem_append, List.mem_singleton] at member
  rcases member with inside | rfl
  · simpa using (mapping.text_clean byte inside).1
  · decide

/-- The path field of the scanned line. -/
def pathText : Option PathText :=
  if mapping.path = [] then none
  else some ⟨mapping.path, mapping.short, fun zero => (mapping.clean 0 zero).1 rfl⟩

private theorem scanPath_path :
    scanPath (skipSpace (List.replicate mapping.padding 0x20 ++ (mapping.path ++ [0x0A]))) =
      mapping.pathText := by
  rw [skipSpace_replicate]
  by_cases empty : mapping.path = []
  · rw [empty, pathText, if_pos empty]
    rfl
  · have unspaced : skipSpace (mapping.path ++ [0x0A]) = mapping.path ++ [0x0A] := by
      apply skipSpace_visible
      rw [List.head?_append_of_ne_nil _ empty]
      exact mapping.visible
    have run : (mapping.path ++ [0x0A]).takeWhile (fun byte => byte ≠ 0x0A ∧ byte ≠ 0) =
        mapping.path :=
      takeWhile_run (fun byte member => by
        obtain ⟨nonzero, noNewline⟩ := mapping.clean byte member
        exact decide_eq_true ⟨noNewline, nonzero⟩) (by simp)
    have fits : mapping.path.take (maxPath - 1) = mapping.path :=
      List.take_of_length_le (by have := mapping.short; omega)
    simp only [scanPath, unspaced, run, fits, pathText]

/-- The line behind the file offset. -/
def tail : List Byte :=
  0x20 :: (mapping.device ++ 0x20 :: (numeral 10 mapping.inode ++
    (List.replicate mapping.padding 0x20 ++ (mapping.path ++ [0x0A]))))

theorem line_eq :
    mapping.line = zeroPadded 8 (numeral 16 mapping.start.toNat) ++ 0x2D ::
      (zeroPadded 8 (numeral 16 mapping.end.toNat) ++ 0x20 :: (mapping.perms ++ 0x20 ::
      (zeroPadded 8 (numeral 16 mapping.fileOffset.toNat) ++ mapping.tail))) := by
  simp only [line, text, tail, List.append_assoc, List.cons_append]

private theorem scanTail_tail : scanTail mapping.tail = mapping.pathText := by
  have deviceWord : mapping.device ≠ [] := by simp [device]
  have ends : ∀ byte ∈ (List.replicate mapping.padding 0x20 ++ (mapping.path ++ [0x0A])).head?,
      isSpace byte = true := by
    intro byte member
    cases padding : mapping.padding with
    | zero =>
        have empty : mapping.path = [] := by
          by_contra path
          exact absurd (mapping.apart path) (by omega)
        simp [padding, empty] at member
        simp [← member, isSpace]
    | succ count =>
        simp [padding, List.replicate_succ] at member
        simp [← member, isSpace]
  have deviceSkipped : scanSkip mapping.tail = some (0x20 :: (numeral 10 mapping.inode ++
      (List.replicate mapping.padding 0x20 ++ (mapping.path ++ [0x0A])))) :=
    scanSkip_run (fun byte member => (mapping.device_visible byte member).1) deviceWord
      (by simp [isSpace])
  have inodeSkipped := scanSkip_run (fun byte member => (mapping.inode_visible byte member).1)
    (numeral_ne_nil 10 _) ends
  rw [scanTail, deviceSkipped, Option.bind_eq_bind, Option.bind_some, inodeSkipped]
  exact mapping.scanPath_path

def scanned : MapsLine where
  start := mapping.start
  «end» := mapping.end
  perms := mapping.perms
  fileOffset := mapping.fileOffset
  path := mapping.pathText

private theorem scanWord_perms (rest : List Byte) :
    scanWord 4 (0x20 :: (mapping.perms ++ 0x20 :: rest)) = some (mapping.perms, 0x20 :: rest) :=
  scanWord_run (fun byte member => (mapping.perms_visible byte member).1) (by simp [perms])
    (by simp [isSpace])

theorem sscanfMaps_line : sscanfMaps mapping.line = some mapping.scanned := by
  have blank : ∀ text : List Byte, scanHex (0x20 :: text) = scanHex text := fun _ => rfl
  have behindOffset : ∀ byte ∈ mapping.tail.head?, (hexDigit byte).isSome = false := by
    simp [tail, hexDigit]
  rw [sscanfMaps, cString_line, line_eq, scanHex_printed mapping.start (by simp [hexDigit])]
  simp only [Option.bind_eq_bind, Option.bind_some, scanLiteral, ↓reduceIte]
  rw [scanHex_printed mapping.end (by simp [hexDigit]), Option.bind_some, scanWord_perms,
    Option.bind_some, blank, scanHex_printed mapping.fileOffset behindOffset, Option.bind_some,
    scanTail_tail]
  rfl

end KernelMapping

/-!
## Entries
-/

/-- The entry says what the kernel printed; of the path it is the string that counts. -/
structure Describes (entry : MapsEntry) (mapping : KernelMapping) : Prop where
  start : entry.start = mapping.start
  «end» : entry.end = mapping.end
  fileOffset : entry.fileOffset = mapping.fileOffset
  read : entry.read = if mapping.read then 1 else 0
  write : entry.write = if mapping.write then 1 else 0
  exec : entry.exec = if mapping.exec then 1 else 0
  shared : entry.shared = if mapping.shared then 1 else 0
  path : cString entry.path = mapping.path

private theorem cString_storePath (buffer : List Byte) (mapping : KernelMapping) :
    cString (storePath buffer mapping.pathText) = mapping.path := by
  have stops : ∀ rest : List Byte, cString (mapping.path ++ 0 :: rest) = mapping.path := fun rest =>
    takeWhile_run (fun byte member => by simpa using (mapping.clean byte member).1) (by simp)
  unfold KernelMapping.pathText
  split
  · next empty =>
      rw [empty] at stops ⊢
      exact stops (buffer.drop 1)
  · exact stops _

private theorem permission_letter (letter other : Byte) (granted : Bool) (apart : other ≠ letter) :
    (if (if granted then letter else other) = letter then 1 else 0 : Byte) =
      if granted then 1 else 0 := by
  cases granted with
  | true => simp
  | false => simp [apart]

private theorem fillEntry_describes (stale : MapsEntry) (mapping : KernelMapping) :
    Describes (fillEntry stale mapping.scanned) mapping where
  start := rfl
  «end» := rfl
  fileOffset := rfl
  read := permission_letter 0x72 0x2D mapping.read (by decide)
  write := permission_letter 0x77 0x2D mapping.write (by decide)
  exec := permission_letter 0x78 0x2D mapping.exec (by decide)
  shared := permission_letter 0x73 0x70 mapping.shared (by decide)
  path := cString_storePath stale.path mapping

private theorem parseMapsStr_line {arch : Arch} (stale : MapsEntry) (mapping : KernelMapping) :
    (parseMapsStr mapping.line stale : Sys arch MapsEntry) =
      pure (fillEntry stale mapping.scanned) := by
  rw [parseMapsStr, mapping.sscanfMaps_line]

/-!
## The whole file
-/

section Iteration

variable {arch : Arch}

/-- The results of calling `next` until it returns `NULL`, at most `count` times. -/
def nextTimes : Nat → MapsIter → Sys arch (List (Option MapsEntry))
  | 0, _ => pure []
  | count + 1, iter => do
      match ← next iter with
      | none => pure [none]
      | some iter => do
          let later ← nextTimes count iter
          pure (some iter.entry :: later)

/-- The entries that the lines leave behind, each filled over the one before. -/
def entriesOf : MapsEntry → List KernelMapping → List MapsEntry
  | _, [] => []
  | stale, mapping :: rest =>
      fillEntry stale mapping.scanned :: entriesOf (fillEntry stale mapping.scanned) rest

private theorem entriesOf_describes (stale : MapsEntry) (mappings : List KernelMapping) :
    List.Forall₂ Describes (entriesOf stale mappings) mappings := by
  induction mappings generalizing stale with
  | nil => exact .nil
  | cons mapping rest ih => exact .cons (fillEntry_describes stale mapping) (ih _)

/-- Reading the file never fails. -/
def Kernel.ReadsMaps (kernel : Kernel arch) : Prop :=
  ∀ count, kernel.fails count .getline = false ∧ kernel.fails count .closeMaps = false

variable {kernel : Kernel arch}

private theorem run_getline (reads : kernel.ReadsMaps) (world : World arch) (message : String) :
    (ensure (call .getline) message).run kernel.answer world =
      (.ok (), world.record .getline true) :=
  run_ensure_ok message (run_granted (reads world.log.length).1)

private theorem run_closeMaps (reads : kernel.ReadsMaps) (world : World arch) (message : String) :
    (ensure (call .closeMaps) message).run kernel.answer world =
      (.ok (), world.record .closeMaps true) :=
  run_ensure_ok message (run_granted (reads world.log.length).2)

private theorem next_line (reads : kernel.ReadsMaps) (stale : MapsEntry) (mapping : KernelMapping)
    (rest : List (List Byte)) (world : World arch) :
    (next ⟨stale, mapping.line :: rest⟩).run kernel.answer world =
      (.ok (some ⟨fillEntry stale mapping.scanned, rest⟩), world.record .getline true) := by
  have parsed : (nextLine stale mapping.line).run kernel.answer world =
      (.ok (fillEntry stale mapping.scanned), world.record .getline true) := by
    rw [nextLine, run_bind_ok (run_getline reads world _), parseMapsStr_line]
    rfl
  rw [next, run_bind_ok parsed]
  rfl

private theorem next_end (reads : kernel.ReadsMaps) (stale : MapsEntry) (world : World arch) :
    (next ⟨stale, []⟩).run kernel.answer world =
      (.ok none, (world.record .getline true).record .closeMaps true) := by
  have closed : (nextEnd : Sys arch Unit).run kernel.answer world =
      (.ok (), (world.record .getline true).record .closeMaps true) := by
    rw [nextEnd, run_bind_ok (run_getline reads world _), run_closeMaps reads]
  rw [next, run_bind_ok closed]
  rfl

private theorem nextTimes_lines (reads : kernel.ReadsMaps) (stale : MapsEntry)
    (mappings : List KernelMapping) (world : World arch) :
    ∃ after, (nextTimes (mappings.length + 1) ⟨stale, mappings.map KernelMapping.line⟩).run
        kernel.answer world =
      (.ok ((entriesOf stale mappings).map some ++ [none]), after) := by
  induction mappings generalizing stale world with
  | nil =>
      refine ⟨(world.record .getline true).record .closeMaps true, ?_⟩
      rw [List.length_nil, nextTimes, List.map_nil, run_bind_ok (next_end reads stale world)]
      rfl
  | cons mapping rest ih =>
      obtain ⟨after, finished⟩ := ih (fillEntry stale mapping.scanned) (world.record .getline true)
      refine ⟨after, ?_⟩
      rw [List.length_cons, nextTimes, List.map_cons,
        run_bind_ok (next_line reads stale mapping _ world), run_bind_ok finished]
      rfl

end Iteration

/-- `parse_maps_str` takes every line of the kernel apart, whatever the entry held
before, and `next` yields the mappings of a file in their order, each once, and
then `NULL`. -/
theorem mapsLines_parsed (arch : Arch) :
    (∀ (stale : MapsEntry) (mapping : KernelMapping), ∃ entry,
      (parseMapsStr mapping.line stale : Sys arch MapsEntry) = pure entry ∧
        Describes entry mapping) ∧
    (∀ (kernel : Kernel arch) (stale : MapsEntry) (mappings : List KernelMapping)
      (world : World arch), kernel.ReadsMaps →
      ∃ entries after,
        (nextTimes (mappings.length + 1) ⟨stale, getlines (mappings.flatMap KernelMapping.line)⟩).run
          kernel.answer world = (.ok (entries.map some ++ [none]), after) ∧
        List.Forall₂ Describes entries mappings) := by
  constructor
  · intro stale mapping
    exact ⟨_, parseMapsStr_line stale mapping, fillEntry_describes stale mapping⟩
  · intro kernel stale mappings world reads
    have whole : ∀ text ∈ mappings.map KernelMapping.text, 0x0A ∉ text := by
      intro text member newline
      obtain ⟨mapping, _, rfl⟩ := List.mem_map.mp member
      exact (mapping.text_clean 0x0A newline).2 rfl
    have lines := getlines_lines whole
    rw [List.flatMap_map, List.map_map] at lines
    obtain ⟨after, finished⟩ := nextTimes_lines reads stale mappings world
    have file : getlines (mappings.flatMap KernelMapping.line) =
        mappings.map KernelMapping.line := lines
    rw [file]
    exact ⟨_, after, finished, entriesOf_describes stale mappings⟩

/-- A removed library and an anonymous mapping. -/
def deletedMapping : KernelMapping where
  start := 0x7f0000000000
  «end» := 0x7f0000001000
  read := true
  write := false
  exec := true
  shared := false
  fileOffset := 0x1000
  major := 8
  minor := 1
  inode := 1234
  padding := 18
  path := [0x2F, 0x61, 0x20, 0x28, 0x64, 0x65, 0x6C, 0x65, 0x74, 0x65, 0x64, 0x29]
  short := by decide
  clean := by decide
  visible := by decide
  apart := by decide

def anonymousMapping : KernelMapping :=
  { deletedMapping with
    fileOffset := 0, major := 0, minor := 0, inode := 0, padding := 1, path := []
    short := by decide, clean := by decide, visible := by decide, apart := by decide }

theorem mapsLines_parsed_deleted :
    ∃ first second after,
      (nextTimes 3 ⟨paintedEntry 1, getlines ([deletedMapping, anonymousMapping].flatMap
        KernelMapping.line)⟩).run (mapsKernel .x86_64 (default : PbX86_64Regs) []).answer (.initial .x86_64) =
        (.ok [some first, some second, none], after) ∧
      cString first.path = deletedMapping.path ∧ cString second.path = [] := by
  obtain ⟨entries, after, finished, described⟩ := (mapsLines_parsed .x86_64).2
    (mapsKernel .x86_64 (default : PbX86_64Regs) []) (paintedEntry 1) [deletedMapping, anonymousMapping]
    (.initial .x86_64) fun _ => ⟨rfl, rfl⟩
  cases described with
  | cons first rest =>
      cases rest with
      | cons second rest =>
          cases rest with
          | nil => exact ⟨_, _, after, finished, first.path, second.path⟩

end ProcessBridge.Snapshotter
