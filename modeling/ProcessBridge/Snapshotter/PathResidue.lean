import ProcessBridge.Snapshotter.MapsRendering

/-! What of the path buffer reaches the file. The parser stores a terminated string
in a reused buffer while the writer emits all of it, so the bytes behind the
terminator come from earlier lines and from the caller's stack. -/

set_option autoImplicit false

namespace ProcessBridge.Snapshotter

open Library Common Program

variable {arch : Arch}

/-- The path and its terminator fill the buffer. -/
def MapsLine.FillsPath (line : MapsLine) : Prop := line.pathText.length = maxPath - 1

instance (line : MapsLine) : Decidable line.FillsPath := inferInstanceAs (Decidable (_ = _))

theorem storePath_eq (buffer : List Byte) (line : MapsLine) :
    storePath buffer line.path = line.pathText ++ 0 :: buffer.drop (line.pathText.length + 1) := by
  obtain ⟨start, limit, perms, offset, path⟩ := line
  cases path with
  | none => rfl
  | some text => rfl

private theorem pathText_length_lt (line : MapsLine) : line.pathText.length < maxPath := by
  obtain ⟨start, limit, perms, offset, path⟩ := line
  cases path with
  | none => exact (by decide : 0 < maxPath)
  | some text => exact text.property.1

private theorem storePath_of_fills {line : MapsLine} (fills : line.FillsPath) {buffer : List Byte}
    (full : buffer.length = maxPath) : storePath buffer line.path = line.pathText ++ [0] := by
  have positive : 0 < maxPath := by decide
  have covered : buffer.length ≤ line.pathText.length + 1 := by
    rw [fills, full]
    omega
  rw [storePath_eq, List.drop_of_length_le covered]

/-- A shorter path leaves the last byte of the buffer alone. -/
theorem storePath_last {line : MapsLine} (short : ¬ line.FillsPath) (buffer : List Byte) :
    (storePath buffer line.path)[maxPath - 1]? = buffer[maxPath - 1]? := by
  have bound := pathText_length_lt line
  have apart : line.pathText.length + 1 ≤ maxPath - 1 := by
    unfold MapsLine.FillsPath at short
    omega
  rw [storePath_eq, List.getElem?_append_right (by omega)]
  obtain ⟨index, position⟩ : ∃ index, maxPath - 1 - line.pathText.length = index + 1 :=
    ⟨maxPath - 1 - line.pathText.length - 1, by omega⟩
  rw [position, List.getElem?_cons_succ, List.getElem?_drop]
  congr 1
  omega

private theorem fillEntry_bytes_inj {left right : MapsEntry} {line : MapsLine}
    (same : (fillEntry left line).bytes = (fillEntry right line).bytes) :
    storePath left.path line.path = storePath right.path line.path :=
  congrArg MapsEntry.path (MapsEntry.bytes_injective same)

private theorem painted_distinguish {line : MapsLine} (short : ¬ line.FillsPath) :
    (fillEntry (paintedEntry 0) line).bytes ≠ (fillEntry (paintedEntry 1) line).bytes := by
  intro same
  have last := congrArg (fun path : List Byte => path[maxPath - 1]?) (fillEntry_bytes_inj same)
  have inside : maxPath - 1 < maxPath := by decide
  simp only [storePath_last short, paintedEntry, List.getElem?_replicate, if_pos inside] at last
  exact absurd last (by decide)

/-- The header of a line is the same over every entry exactly if its path fills the
buffer. -/
theorem fillEntry_bytes_const_iff (line : MapsLine) :
    (∀ left right, (fillEntry left line).bytes = (fillEntry right line).bytes) ↔ line.FillsPath := by
  constructor
  · intro same
    by_contra short
    exact painted_distinguish short (same _ _)
  · intro fills left right
    have paths : storePath left.path line.path = storePath right.path line.path := by
      rw [storePath_of_fills fills left.pathSize, storePath_of_fills fills right.pathSize]
    simp only [MapsEntry.bytes, fillEntry, paths]

/-!
## Two runs
-/

def entryAfter (stale : MapsEntry) (before : List MapsLine) : MapsEntry :=
  before.foldl fillEntry stale

/-- The header that is written for a line after other lines. -/
def headerAfter (stale : MapsEntry) (before : List MapsLine) (line : MapsLine) : List Byte :=
  (fillEntry (entryAfter stale before) line).bytes

private theorem emitted_append (stale : MapsEntry) (front : List (MapsLine × List Byte))
    (line : MapsLine) (content : List Byte) (back : List (MapsLine × List Byte)) :
    emitted stale (front ++ (line, content) :: back) =
      emitted stale front ++
        (if line.special then [] else headerAfter stale (front.map Prod.fst) line ++ content) ++
        emitted (entryAfter stale (front.map Prod.fst ++ [line])) back := by
  induction front generalizing stale with
  | nil => rfl
  | cons first front ih =>
      simp only [List.cons_append, emitted, ih, List.map_cons, List.append_assoc]
      rfl

/-- Filled buffers make the whole file independent of the entry it started from. -/
theorem emitted_congr {mappings : List (MapsLine × List Byte)}
    (fills : ∀ mapping ∈ mappings, mapping.1.special = false → mapping.1.FillsPath)
    (left right : MapsEntry) : emitted left mappings = emitted right mappings := by
  induction mappings generalizing left right with
  | nil => rfl
  | cons mapping rest ih =>
      obtain ⟨line, content⟩ := mapping
      obtain ⟨first, others⟩ := List.forall_mem_cons.mp fills
      rw [emitted, emitted, ih others (fillEntry left line) (fillEntry right line)]
      cases special : line.special with
      | true => rfl
      | false =>
          have header := (fillEntry_bytes_const_iff line).mpr (first special) left right
          simp only [header]

def snapshotFile (kernel : Kernel arch) (world : World arch) (buffer : Buffer)
    (snapshot : List Byte) (pid : Nat) (stale : MapsEntry) : List Byte :=
  ((dumpSnapshot stale buffer snapshot pid).run kernel.answer world).2.output

theorem snapshotFile_eq {kernel : Kernel arch} (cooperates : kernel.Cooperates) (world : World arch)
    (buffer : Buffer) (snapshot : List Byte) {pid : Nat} (small : pid < 2 ^ 31)
    {lines : List MapsLine}
    (parse : List.Forall₂ (fun text line => sscanfMaps text = some line)
      (kernel.maps (world.log.length + 2)) lines) :
    ∃ mappings : List (MapsLine × List Byte), mappings.map Prod.fst = lines ∧
      ∀ stale, snapshotFile kernel world buffer snapshot pid stale =
        snapshot ++ emitted stale mappings := by
  obtain ⟨mappings, same, _, runs⟩ :=
    dumpSnapshot_output kernel world small buffer snapshot parse
  refine ⟨mappings, same, fun stale => ?_⟩
  rcases runs stale with ⟨after, finished, output, _⟩ | ⟨refuses, _⟩
  · rw [snapshotFile, finished]
    exact output
  · exact absurd cooperates refuses

/-- The file holds the header of every mapping that is written. Any two contents of the
uninitialised entry give the same file, and every header is decided by its own
line, exactly if the path of every mapping that is written fills its buffer. -/
theorem snapshotFile_ownLines_iff {kernel : Kernel arch} (cooperates : kernel.Cooperates)
    (world : World arch) (buffer : Buffer) (snapshot : List Byte) {pid : Nat} (small : pid < 2 ^ 31)
    {lines : List MapsLine}
    (parse : List.Forall₂ (fun text line => sscanfMaps text = some line)
      (kernel.maps (world.log.length + 2)) lines) :
    ∃ mappings : List (MapsLine × List Byte), mappings.map Prod.fst = lines ∧
      (∀ stale, snapshotFile kernel world buffer snapshot pid stale =
        snapshot ++ emitted stale mappings) ∧
      (∀ stale front line content back, mappings = front ++ (line, content) :: back →
        line.special = false → ∃ behind,
          snapshotFile kernel world buffer snapshot pid stale = snapshot ++ (emitted stale front ++
            (headerAfter stale (front.map Prod.fst) line ++ content) ++ behind)) ∧
      (((∀ left right, snapshotFile kernel world buffer snapshot pid left =
            snapshotFile kernel world buffer snapshot pid right) ∧
          ∀ line ∈ lines, line.special = false → ∀ left right leftBefore rightBefore,
            headerAfter left leftBefore line = headerAfter right rightBefore line) ↔
        ∀ line ∈ lines, line.special = false → line.FillsPath) := by
  obtain ⟨mappings, rfl, files⟩ := snapshotFile_eq cooperates world buffer snapshot small parse
  refine ⟨mappings, rfl, files, ?_, ?_⟩
  · intro stale front line content back split written
    refine ⟨emitted (entryAfter stale (front.map Prod.fst ++ [line])) back, ?_⟩
    rw [files, split, emitted_append, if_neg (by simp [written])]
  constructor
  · intro given line member written
    obtain ⟨_, own⟩ := given
    exact (fillEntry_bytes_const_iff line).mp fun left right =>
      own line member written left right [] []
  · intro fills
    refine ⟨fun left right => ?_, fun line member written left right leftBefore rightBefore => ?_⟩
    · have each : ∀ mapping ∈ mappings, mapping.1.special = false → mapping.1.FillsPath :=
        fun mapping member => fills mapping.1 (List.mem_map_of_mem member)
      rw [files, files, emitted_congr each left right]
    · exact (fillEntry_bytes_const_iff line).mpr (fills line member written) _ _

def blankRegs : PbX86_64Regs := default

/-- One anonymous page is enough to tell two stacks apart. -/
theorem snapshotFile_shows_stack :
    ¬ ∀ left right : MapsEntry,
      snapshotFile (mapsKernel .x86_64 blankRegs [anonymousText]) (.initial _) zeroBuffer [] 1 left =
        snapshotFile (mapsKernel .x86_64 blankRegs [anonymousText]) (.initial _) zeroBuffer [] 1 right := by
  intro same
  obtain ⟨mappings, lines, files⟩ := snapshotFile_eq (mapsKernel_cooperates .x86_64 blankRegs [anonymousText])
    (.initial _) zeroBuffer [] (by decide : 1 < 2 ^ 31) (.cons anonymousText_parses .nil)
  obtain ⟨⟨line, content⟩, rfl, only⟩ := List.map_eq_singleton_iff.mp lines
  simp only at only
  subst only
  have equal := same (paintedEntry 0) (paintedEntry 1)
  rw [files, files] at equal
  have short : ¬ anonymousLine.FillsPath := by decide
  have written : anonymousLine.special = false := by decide
  simp only [emitted, written, List.nil_append, Bool.false_eq_true, if_false, List.append_nil] at equal
  exact painted_distinguish short (List.append_cancel_right equal)

/-!
## Paths that fill the buffer
-/

def longPath (letter : Byte) : List Byte := 0x2F :: List.replicate 4094 letter

private theorem mem_longPath {letter byte : Byte} (member : byte ∈ longPath letter) :
    byte = 0x2F ∨ byte = letter := by
  rcases List.mem_cons.mp member with first | rest
  · exact .inl first
  · exact .inr (List.eq_of_mem_replicate rest)

/-- A page under a path of 4095 bytes. -/
def longMapping (start limit : BitVec 64) (letter : Byte) (clean : letter ≠ 0 ∧ letter ≠ 0x0A) :
    KernelMapping where
  start := start
  «end» := limit
  read := true
  write := false
  exec := true
  shared := false
  fileOffset := 0
  major := 8
  minor := 1
  inode := 1234
  padding := 1
  path := longPath letter
  short := by
    rw [longPath, List.length_cons, List.length_replicate]
    decide
  clean := by
    intro byte member
    rcases mem_longPath member with rfl | rfl
    · decide
    · exact clean
  visible := by
    intro byte member
    cases member
    rfl
  apart := fun _ => Nat.one_pos

private theorem longMapping_fills (start limit : BitVec 64) (letter : Byte)
    (clean : letter ≠ 0 ∧ letter ≠ 0x0A) :
    (longMapping start limit letter clean).scanned.FillsPath := by
  change (longPath letter).length = maxPath - 1
  rw [longPath, List.length_cons, List.length_replicate]
  rfl

def firstLong : KernelMapping := longMapping 0x10000 0x11000 0x61 (by decide)

def secondLong : KernelMapping := longMapping 0x20000 0x21000 0x62 (by decide)

private theorem longLines_parse :
    List.Forall₂ (fun text line => sscanfMaps text = some line) [firstLong.line, secondLong.line]
      [firstLong.scanned, secondLong.scanned] :=
  .cons firstLong.sscanfMaps_line (.cons secondLong.sscanfMaps_line .nil)

/-- Two pages under long paths: two stacks give the same file, in which the second header
is its own. -/
theorem snapshotFile_ownLines_long :
    firstLong.scanned.special = false ∧ secondLong.scanned.special = false ∧
    (∀ left right : MapsEntry,
      snapshotFile (mapsKernel .x86_64 blankRegs [firstLong.line, secondLong.line]) (.initial _)
          zeroBuffer [0x2A] 1 left =
        snapshotFile (mapsKernel .x86_64 blankRegs [firstLong.line, secondLong.line]) (.initial _)
          zeroBuffer [0x2A] 1 right) ∧
    ∀ stale : MapsEntry, ∃ front content,
      snapshotFile (mapsKernel .x86_64 blankRegs [firstLong.line, secondLong.line]) (.initial _)
          zeroBuffer [0x2A] 1 stale =
        [0x2A] ++ (front ++ ((fillEntry (paintedEntry 0) secondLong.scanned).bytes ++ content)) := by
  have first : firstLong.scanned.special = false := by decide
  have second : secondLong.scanned.special = false := by decide
  obtain ⟨mappings, lines, _, headers, exactly⟩ := snapshotFile_ownLines_iff
    (mapsKernel_cooperates .x86_64 blankRegs [firstLong.line, secondLong.line])
    (.initial _) zeroBuffer [0x2A] (by decide : 1 < 2 ^ 31) longLines_parse
  have fills : ∀ line ∈ [firstLong.scanned, secondLong.scanned], line.special = false →
      line.FillsPath := by
    intro line member _
    rcases List.mem_pair.mp member with rfl | rfl
    · exact longMapping_fills _ _ _ _
    · exact longMapping_fills _ _ _ _
  obtain ⟨same, own⟩ := exactly.mpr fills
  refine ⟨first, second, same, fun stale => ?_⟩
  obtain ⟨before, others, rfl, _, rest⟩ := List.map_eq_cons_iff.mp lines
  obtain ⟨⟨line, content⟩, rfl, rfl⟩ := List.map_eq_singleton_iff.mp rest
  obtain ⟨behind, file⟩ := headers stale [before] secondLong.scanned content [] rfl second
  have header := own secondLong.scanned (by simp) second stale (paintedEntry 0) [before.1] []
  refine ⟨emitted stale [before], content ++ behind, ?_⟩
  rw [file, List.map_singleton, header, List.append_assoc, List.append_assoc]
  rfl

end ProcessBridge.Snapshotter
