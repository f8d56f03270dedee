import ProcessBridge.Library.Minimum
import ProcessBridge.Snapshotter.BreakpointProperties
import ProcessBridge.Snapshotter.ProcessInfo
import ProcessBridge.Snapshotter.SnapshotDumpProperties

/-! Which executables and which maps let the snapshotter compute an image base while
the child is stopped; nothing but a refused call can then keep it from doing so. -/

set_option autoImplicit false

namespace ProcessBridge.Snapshotter

open Library Common Program

variable {arch : Arch}

def Kernel.elfInfo (kernel : Kernel arch) (elfClass : ElfClass) : ElfInfo :=
  ⟨elfClass, kernel.elf.take elfClass.ehdrSize, kernel.elfPath.take (maxPath - 1), kernel.pid⟩

/-- The executable is not position independent, or all its program headers are in
the file and its path is among the maps of the child. -/
def Kernel.Located (kernel : Kernel arch) (info : ElfInfo) : Prop :=
  info.ehdrType = etExec ∨
  (info.ehdrType = etDyn ∧
    (∀ index < info.ehdrPhnum, 0 ≤ phdrOffset arch info index ∧
      (phdrOffset arch info index).toNat + info.elfClass.phdrSize ≤ kernel.elf.length) ∧
    ∀ count, ∃ text ∈ kernel.maps count, ∃ line, sscanfMaps text = some line ∧
      line.pathText = cString info.path ∧ line.start.toNat < arch.sizeMax)

/-- Everything the snapshotter reads about the child makes sense to it. -/
structure Kernel.Usable (kernel : Kernel arch) : Prop where
  pid : kernel.pid < 2 ^ 31
  reports : ∀ count resume tracee report after,
    kernel.report count resume tracee = some (report, after) → ∀ status, report ≠ .other status
  ident : eiNident ≤ kernel.elf.length ∧ kernel.elf.take 4 = elfMag
  header : ∃ elfClass, elfClassOf (kernel.elf.take eiNident) = some elfClass ∧
    elfClass.ehdrSize ≤ kernel.elf.length ∧ kernel.Located (kernel.elfInfo elfClass)
  lines : ∀ count, ∃ lines,
    List.Forall₂ (fun text line => sscanfMaps text = some line) (kernel.maps count) lines

/-!
## Reading the executable
-/

section Reading

variable {kernel : Kernel arch} {tracee : Tracee arch} {conts : List (Child arch)}
  {reports : List (Resume × Report × Tracee arch)} {excused : World arch → Prop}
  {exits : Exit → World arch → Prop} (excuse : Excuse kernel excused exits)

theorem Excuse.shown (excuse : Excuse kernel excused exits) {world : World arch} {op : Call arch}
    (shown : world.Shows (.stopped tracee) conts reports)
    (refused : kernel.fails world.log.length op = true) (matters : op.tolerated = false)
    (code : Exit) : exits code (world.record op false) :=
  excuse.exits code _ (excuse.refused world op refused (by rw [shown.child]; rfl) matters)

/-- The child is stopped and the executable is read from a position. -/
def OnFile (tracee : Tracee arch) (conts : List (Child arch))
    (reports : List (Resume × Report × Tracee arch)) (position : Nat) (world : World arch) : Prop :=
  world.Shows (.stopped tracee) conts reports ∧ world.elfPosition = position

include excuse

theorem readElf_triple (size position : Nat) (message : String) :
    Triple kernel.answer (OnFile tracee conts reports position)
      (required (call (.readElf size)) message)
      (fun bytes world => bytes = (kernel.elf.drop position).take size ∧
        OnFile tracee conts reports (position + bytes.length) world) exits := by
  refine Triple.required (Triple.attempt
    (fun world held refused => excuse.shown held.1 refused rfl _) fun world held => ?_)
  obtain ⟨shown, rfl⟩ := held
  have kept : (world.record (.readElf size) true).Shows _ _ _ := shown.record rfl
  exact ⟨rfl, ⟨kept.child, kept.conts, kept.reports⟩, rfl⟩

theorem seekElf_triple {offset : Int} (positive : 0 ≤ offset) (message : String) :
    Triple kernel.answer (·.Shows (.stopped tracee) conts reports)
      (ensure (call (.seekElf offset)) message)
      (fun _ world => OnFile tracee conts reports offset.toNat world) exits := by
  refine Triple.ensure (Triple.attempt
    (fun world shown refused => excuse.shown shown refused rfl _) fun world shown => ?_)
  have kept : (world.record (.seekElf offset) true).Shows _ _ _ := shown.record rfl
  simp only [Kernel.perform, if_pos positive]
  exact ⟨⟨kept.child, kept.conts, kept.reports⟩, rfl⟩

theorem filenoElf_triple (message : String) :
    Triple kernel.answer (·.Shows (.stopped tracee) conts reports)
      (ensure (call .filenoElf) message)
      (fun _ world => world.Shows (.stopped tracee) conts reports) exits := by
  refine Triple.ensure (Triple.attempt
    (fun world shown refused => excuse.shown shown refused rfl _) fun world shown => ?_)
  have kept : (world.record .filenoElf true).Shows _ _ _ := shown.record rfl
  exact kept

theorem readlinkElf_triple (message : String) :
    Triple kernel.answer (·.Shows (.stopped tracee) conts reports)
      (required (call .readlinkElf) message)
      (fun target world => target = kernel.elfPath ∧
        world.Shows (.stopped tracee) conts reports) exits := by
  refine Triple.required (Triple.attempt
    (fun world shown refused => excuse.shown shown refused rfl _) fun world shown => ?_)
  have kept : (world.record .readlinkElf true).Shows _ _ _ := shown.record rfl
  exact ⟨rfl, kept⟩

theorem closeElf_triple (message : String) :
    Triple kernel.answer (·.Shows (.stopped tracee) conts reports)
      (ensure (call .closeElf) message)
      (fun _ world => world.Shows (.stopped tracee) conts reports) exits := by
  refine Triple.ensure (Triple.attempt
    (fun world shown refused => excuse.shown shown refused rfl _) fun world shown => ?_)
  have kept : (world.record .closeElf true).Shows _ _ _ := shown.record rfl
  exact kept

theorem readItem_triple {size position : Nat} (inside : position + size ≤ kernel.elf.length)
    (message : String) :
    Triple kernel.answer (OnFile tracee conts reports position) (readItem size message)
      (fun bytes world => bytes = (kernel.elf.drop position).take size ∧
        world.Shows (.stopped tracee) conts reports) exits := by
  refine Triple.bind _ (readElf_triple excuse size position message) fun bytes => ?_
  refine Triple.given fun read => ?_
  have full : bytes.length = size := by
    rw [read, List.length_take, List.length_drop]
    omega
  refine Triple.bind (fun _ world => world.Shows (.stopped tracee) conts reports)
    (Triple.exitIf (fun short => ?_) fun _ world held => held.1) fun _ =>
      Triple.pure fun world shown => ⟨read, shown⟩
  simp [full] at short

theorem detectElfClass_triple {elfClass : ElfClass}
    (ident : eiNident ≤ kernel.elf.length ∧ kernel.elf.take 4 = elfMag)
    (known : elfClassOf (kernel.elf.take eiNident) = some elfClass) :
    Triple kernel.answer (·.Shows (.stopped tracee) conts reports) detectElfClass
      (fun found world => found = elfClass ∧ world.Shows (.stopped tracee) conts reports)
      exits := by
  refine Triple.bind _ (seekElf_triple excuse le_rfl _) fun _ => ?_
  refine Triple.bind _ (readElf_triple excuse eiNident _ _) fun eIdent => Triple.given fun read => ?_
  rw [show (0 : Int).toNat = 0 from rfl, List.drop_zero] at read
  have full : eIdent.length = eiNident := by
    rw [read, List.length_take]
    exact min_eq_left ident.1
  have magic : eIdent.take 4 = elfMag := by
    rw [read, List.take_take]
    exact ident.2
  refine Triple.bind (fun _ world => world.Shows (.stopped tracee) conts reports)
    (Triple.exitIf (fun short => ?_) fun _ world held => held.1) fun _ => ?_
  · simp [full] at short
  refine Triple.bind (fun _ world => world.Shows (.stopped tracee) conts reports)
    (Triple.exitIf (fun wrong => ?_) fun _ world shown => shown) fun _ => ?_
  · simp [magic] at wrong
  rw [← read] at known
  simp only [known]
  exact Triple.pure fun world shown => ⟨rfl, shown⟩

/-- `open_elf` on a usable executable. A failure of `rewind` goes unnoticed. -/
theorem openElf_triple {elfClass : ElfClass}
    (ident : eiNident ≤ kernel.elf.length ∧ kernel.elf.take 4 = elfMag)
    (known : elfClassOf (kernel.elf.take eiNident) = some elfClass)
    (whole : elfClass.ehdrSize ≤ kernel.elf.length) :
    Triple kernel.answer (·.Shows (.stopped tracee) conts reports) (openElf kernel.pid)
      (fun info world => (info = kernel.elfInfo elfClass ∧
        world.Shows (.stopped tracee) conts reports) ∨ excused world) exits := by
  refine Triple.bind (fun _ world => world.Shows (.stopped tracee) conts reports)
    (Triple.ensure (Triple.attempt (fun world shown refused => excuse.shown shown refused rfl _)
      fun world shown => ?_)) fun _ => ?_
  · have kept : (world.record .openElf true).Shows _ _ _ := shown.record rfl
    exact ⟨kept.child, kept.conts, kept.reports⟩
  refine Triple.bind _ (detectElfClass_triple excuse ident known) fun found => ?_
  refine Triple.given fun same => ?_
  subst same
  refine Triple.bind (fun _ world => OnFile tracee conts reports 0 world ∨ excused world)
    (Triple.attempt
      (fun world shown refused =>
        .inr (excuse.refused world _ refused (by rw [shown.child]; rfl) rfl))
      fun world shown => .inl ?_) fun _ => Triple.orExcused excuse _ ?_
  · have kept : (world.record .rewindElf true).Shows _ _ _ := shown.record rfl
    exact ⟨⟨kept.child, kept.conts, kept.reports⟩, rfl⟩
  refine Triple.bind _ (readItem_triple excuse (by simpa using whole) _) fun ehdr =>
    Triple.given fun read => ?_
  rw [List.drop_zero] at read
  refine Triple.bind _ (filenoElf_triple excuse _) fun _ => ?_
  refine Triple.bind _ (readlinkElf_triple excuse _) fun target => Triple.given fun resolved => ?_
  refine Triple.pure fun world shown => ⟨?_, shown⟩
  rw [Kernel.elfInfo, read, resolved]

/-- What one program header does to the minimum. -/
def Kernel.lowerVaddr (kernel : Kernel arch) (info : ElfInfo) (minVaddr : BitVec 64)
    (index : Nat) : BitVec 64 :=
  let phdr := (kernel.elf.drop (phdrOffset arch info index).toNat).take info.elfClass.phdrSize
  let vaddr := BitVec.ofNat 64 (info.elfClass.phdrVaddr phdr)
  if ElfClass.phdrType phdr = ptLoad ∧ vaddr < minVaddr then vaddr else minVaddr

theorem phdrVaddr_triple (info : ElfInfo) {index : Nat} (positive : 0 ≤ phdrOffset arch info index)
    (fits : (phdrOffset arch info index).toNat + info.elfClass.phdrSize ≤ kernel.elf.length)
    (minVaddr : BitVec 64) :
    Triple kernel.answer (·.Shows (.stopped tracee) conts reports) (phdrVaddr info index minVaddr)
      (fun lower world => lower = kernel.lowerVaddr info minVaddr index ∧
        world.Shows (.stopped tracee) conts reports) exits := by
  refine Triple.bind _ (seekElf_triple excuse positive _) fun _ => ?_
  refine Triple.bind _ (readItem_triple excuse fits _) fun phdr => Triple.given fun read => ?_
  refine Triple.pure fun world shown => ⟨?_, shown⟩
  rw [Kernel.lowerVaddr, ← read]

theorem minVaddrLoop_triple (info : ElfInfo) {indices : List Nat}
    (inside : ∀ index ∈ indices, 0 ≤ phdrOffset arch info index ∧
      (phdrOffset arch info index).toNat + info.elfClass.phdrSize ≤ kernel.elf.length)
    (minVaddr : BitVec 64) :
    Triple kernel.answer (·.Shows (.stopped tracee) conts reports)
      (minVaddrLoop info indices minVaddr)
      (fun found world => found = indices.foldl (kernel.lowerVaddr info) minVaddr ∧
        world.Shows (.stopped tracee) conts reports) exits := by
  induction indices generalizing minVaddr with
  | nil => exact Triple.pure fun world shown => ⟨rfl, shown⟩
  | cons index rest ih =>
      obtain ⟨⟨positive, fits⟩, others⟩ := List.forall_mem_cons.mp inside
      refine Triple.bind _ (phdrVaddr_triple excuse info positive fits minVaddr) fun lower => ?_
      refine Triple.given fun same => ?_
      subst same
      exact ih others _

end Reading

/-!
## Reading the maps
-/

section Maps

variable {kernel : Kernel arch} {tracee : Tracee arch} {conts : List (Child arch)}
  {reports : List (Resume × Report × Tracee arch)} {excused : World arch → Prop}
  {exits : Exit → World arch → Prop} (excuse : Excuse kernel excused exits)
include excuse

theorem getline_triple (message : String) :
    Triple kernel.answer (·.Shows (.stopped tracee) conts reports)
      (ensure (call .getline) message)
      (fun _ world => world.Shows (.stopped tracee) conts reports) exits := by
  refine Triple.ensure (Triple.attempt
    (fun world shown refused => excuse.shown shown refused rfl _) fun world shown => ?_)
  have kept : (world.record .getline true).Shows _ _ _ := shown.record rfl
  exact kept

theorem closeMaps_triple (message : String) :
    Triple kernel.answer (·.Shows (.stopped tracee) conts reports)
      (ensure (call .closeMaps) message)
      (fun _ world => world.Shows (.stopped tracee) conts reports) exits := by
  refine Triple.ensure (Triple.attempt
    (fun world shown refused => excuse.shown shown refused rfl _) fun world shown => ?_)
  have kept : (world.record .closeMaps true).Shows _ _ _ := shown.record rfl
  exact kept

theorem openMaps_triple (message : String) :
    Triple kernel.answer (·.Shows (.stopped tracee) conts reports)
      (required (call .openMaps) message)
      (fun file world => (∃ count, file = kernel.maps count) ∧
        world.Shows (.stopped tracee) conts reports) exits := by
  refine Triple.required (Triple.attempt
    (fun world shown refused => excuse.shown shown refused rfl _) fun world shown => ?_)
  have kept : (world.record .openMaps true).Shows _ _ _ := shown.record rfl
  exact ⟨⟨_, rfl⟩, kept⟩

theorem nextLine_triple {text : List Byte} {line : MapsLine}
    (parses : sscanfMaps text = some line) (entry : MapsEntry) :
    Triple kernel.answer (·.Shows (.stopped tracee) conts reports) (nextLine entry text)
      (fun next world => next = fillEntry entry line ∧
        world.Shows (.stopped tracee) conts reports) exits := by
  have filled : (parseMapsStr text entry : Sys arch MapsEntry) = pure (fillEntry entry line) := by
    simp only [parseMapsStr, parses]
  refine Triple.bind _ (getline_triple excuse _) fun _ => ?_
  rw [filled]
  exact Triple.pure fun world shown => ⟨rfl, shown⟩

/-- A loop whose body only computes: the result is the fold over the lines. -/
theorem forEntries_triple {σ : Type} {body : MapsEntry → σ → Sys arch σ}
    {fold : σ → MapsLine → σ}
    (computes : ∀ entry line state, body (fillEntry entry line) state = pure (fold state line))
    {texts : List (List Byte)} {lines : List MapsLine}
    (parse : List.Forall₂ (fun text line => sscanfMaps text = some line) texts lines)
    (entry : MapsEntry) (state : σ) :
    Triple kernel.answer (·.Shows (.stopped tracee) conts reports)
      (forEntries body entry texts state)
      (fun result world => result = lines.foldl fold state ∧
        world.Shows (.stopped tracee) conts reports) exits := by
  induction parse generalizing entry state with
  | nil =>
      refine Triple.bind _ (Triple.bind _ (getline_triple excuse _) fun _ =>
        closeMaps_triple excuse _) fun _ => ?_
      exact Triple.pure fun world shown => ⟨rfl, shown⟩
  | @cons text line texts lines parses _ ih =>
      refine Triple.bind _ (nextLine_triple excuse parses entry) fun next => ?_
      refine Triple.given fun same => ?_
      subst same
      rw [computes, pure_bind]
      exact ih _ _

end Maps

/-!
## The image base
-/

def lowestLine (path : List Byte) (lowest : BitVec 64) (line : MapsLine) : BitVec 64 :=
  if line.pathText = cString path ∧ line.start < lowest then line.start else lowest

private theorem lowestMapping_fillEntry (path : List Byte) (entry : MapsEntry) (line : MapsLine)
    (lowest : BitVec 64) :
    lowestMapping path (fillEntry entry line) lowest = lowestLine path lowest line := by
  rw [lowestMapping, cString_fillEntry, lowestLine]
  rfl

theorem lowestLine_lowers (path : List Byte) :
    Lowers BitVec.toNat (fun line : MapsLine => line.pathText = cString path)
      (fun line => line.start.toNat) (lowestLine path) :=
  Lowers.of_replaces (fun _ _ named lower => if_pos ⟨named, lower⟩) fun _ _ other => if_neg other

/-- A line that names the executable bounds the result. -/
theorem foldl_lowestLine_le_start {path : List Byte} {lines : List MapsLine} {line : MapsLine}
    (member : line ∈ lines) (named : line.pathText = cString path) (lowest : BitVec 64) :
    (lines.foldl (lowestLine path) lowest).toNat ≤ line.start.toNat :=
  ((lowestLine_lowers path).le_foldl_iff _ lines lowest).mp le_rfl |>.2 line member named

private theorem parsed_mem {texts : List (List Byte)} {lines : List MapsLine}
    (parse : List.Forall₂ (fun text line => sscanfMaps text = some line) texts lines)
    {text : List Byte} {line : MapsLine} (member : text ∈ texts)
    (parses : sscanfMaps text = some line) : line ∈ lines := by
  induction parse with
  | nil => cases member
  | cons first _ ih =>
      rcases List.mem_cons.mp member with rfl | later
      · rw [first] at parses
        cases parses
        exact List.mem_cons_self
      · exact List.mem_cons_of_mem _ (ih later)

theorem sizeMax_toNat (arch : Arch) : (BitVec.ofNat 64 arch.sizeMax).toNat = arch.sizeMax := by
  have wide : 2 ^ arch.width ≤ 2 ^ 64 := Nat.pow_le_pow_right (by decide) arch.width_le
  have positive : 0 < 2 ^ arch.width := Nat.two_pow_pos _
  rw [BitVec.toNat_ofNat, Arch.sizeMax]
  exact Nat.mod_eq_of_lt (by omega)

section Base

variable {kernel : Kernel arch} {tracee : Tracee arch} {conts : List (Child arch)}
  {reports : List (Resume × Report × Tracee arch)} {excused : World arch → Prop}
  {exits : Exit → World arch → Prop} (excuse : Excuse kernel excused exits)

theorem isPie_triple {info : ElfInfo}
    (known : info.ehdrType = etExec ∨ info.ehdrType = etDyn) :
    Triple kernel.answer (·.Shows (.stopped tracee) conts reports) (isPie info)
      (fun pie world => pie = (info.ehdrType == etDyn) ∧
        world.Shows (.stopped tracee) conts reports) exits := by
  refine Triple.bind (fun _ world => world.Shows (.stopped tracee) conts reports)
    (Triple.exitIf (fun other => ?_) fun _ world shown => shown) fun _ =>
      Triple.pure fun world shown => ⟨rfl, shown⟩
  simp only [Bool.and_eq_true, bne_iff_ne] at other
  exact absurd known (by tauto)

theorem getImageBaseViaElfInfo_fixed (stale : MapsEntry) {info : ElfInfo}
    (fixed : info.ehdrType = etExec) :
    Triple kernel.answer (·.Shows (.stopped tracee) conts reports)
      (getImageBaseViaElfInfo stale info)
      (fun base world => base = 0 ∧ world.Shows (.stopped tracee) conts reports) exits := by
  refine Triple.bind _ (isPie_triple (.inl fixed)) fun pie => Triple.given fun same => ?_
  have absolute : pie = false := by rw [same, fixed]; rfl
  subst absolute
  exact Triple.pure fun world shown => ⟨rfl, shown⟩

include excuse

/-- The image base of a position-independent executable, if a mapping of it was found. -/
theorem getImageBaseViaElfInfo_dynamic (stale : MapsEntry) {info : ElfInfo}
    (dynamic : info.ehdrType = etDyn) (small : info.pid < 2 ^ 31)
    (headers : ∀ index < info.ehdrPhnum, 0 ≤ phdrOffset arch info index ∧
      (phdrOffset arch info index).toNat + info.elfClass.phdrSize ≤ kernel.elf.length)
    (parsed : ∀ count, ∃ lines,
      List.Forall₂ (fun text line => sscanfMaps text = some line) (kernel.maps count) lines)
    (missing : ∀ count lines,
      List.Forall₂ (fun text line => sscanfMaps text = some line) (kernel.maps count) lines →
      lines.foldl (lowestLine info.path) (BitVec.ofNat 64 arch.sizeMax) =
        BitVec.ofNat 64 arch.sizeMax →
      ∀ code (world : World arch), exits code world) :
    Triple kernel.answer (·.Shows (.stopped tracee) conts reports)
      (getImageBaseViaElfInfo stale info)
      (fun base world => (∃ count lines,
        List.Forall₂ (fun text line => sscanfMaps text = some line) (kernel.maps count) lines ∧
        lines.foldl (lowestLine info.path) (BitVec.ofNat 64 arch.sizeMax) ≠
          BitVec.ofNat 64 arch.sizeMax ∧
        base = lines.foldl (lowestLine info.path) (BitVec.ofNat 64 arch.sizeMax) -
          (List.range info.ehdrPhnum).foldl (kernel.lowerVaddr info)
            (BitVec.ofNat 64 arch.sizeMax)) ∧
        world.Shows (.stopped tracee) conts reports) exits := by
  simp only [getImageBaseViaElfInfo, createMapsIter_eq stale small, bind_assoc, pure_bind]
  refine Triple.bind _ (isPie_triple (.inr dynamic)) fun pie => Triple.given fun same => ?_
  have relative : pie = true := by rw [same, dynamic]; rfl
  subst relative
  refine Triple.bind _ (minVaddrLoop_triple excuse info
    (fun index member => headers index (List.mem_range.mp member)) _) fun minVaddr => ?_
  refine Triple.given fun lowest => ?_
  refine Triple.bind _ (openMaps_triple excuse _) fun file => ?_
  refine Triple.given fun ⟨count, listed⟩ => ?_
  subst listed
  obtain ⟨lines, parse⟩ := parsed count
  refine Triple.bind _ (forEntries_triple excuse (fun entry line lowest => congrArg pure
    (lowestMapping_fillEntry info.path entry line lowest)) parse stale _) fun minMapsAddr => ?_
  refine Triple.given fun folded => ?_
  refine Triple.bind (fun _ world => minMapsAddr ≠ BitVec.ofNat 64 arch.sizeMax ∧
    world.Shows (.stopped tracee) conts reports)
    (Triple.exitIf (fun none world _ => ?_) fun found world shown => ⟨?_, shown⟩) fun _ => ?_
  · rw [beq_iff_eq, folded] at none
    exact missing count lines parse none _ world
  · simpa using found
  · refine Triple.given fun found => Triple.pure fun world shown => ⟨⟨count, lines, parse, ?_⟩, shown⟩
    rw [← folded, ← lowest]
    exact ⟨found, rfl⟩

end Base

section Usable

variable {kernel : Kernel arch} {tracee : Tracee arch} {conts : List (Child arch)}
  {reports : List (Resume × Report × Tracee arch)}

theorem getImageBaseViaElfInfo_triple (usable : kernel.Usable) (stale : MapsEntry)
    {info : ElfInfo} (located : kernel.Located info) (small : info.pid < 2 ^ 31) :
    Triple kernel.answer (·.Shows (.stopped tracee) conts reports)
      (getImageBaseViaElfInfo stale info)
      (fun _ world => world.Shows (.stopped tracee) conts reports) (Accounted False) := by
  rcases located with fixed | ⟨dynamic, headers, mapped⟩
  · exact (getImageBaseViaElfInfo_fixed stale fixed).weaken_post fun _ _ held => held.2
  · refine (getImageBaseViaElfInfo_dynamic (spoiled_excuse kernel False) stale dynamic small headers
      usable.lines ?_).weaken_post fun _ _ held => held.2
    intro count lines parse missing
    -- the line of the executable keeps the minimum below its initial value
    obtain ⟨text, member, line, parses, named, below⟩ := mapped count
    have bound : (lines.foldl (lowestLine info.path) (BitVec.ofNat 64 arch.sizeMax)).toNat ≤
        line.start.toNat := foldl_lowestLine_le_start (parsed_mem parse member parses) named _
    rw [missing, sizeMax_toNat] at bound
    omega

theorem getImageBase_triple (usable : kernel.Usable) (stale : MapsEntry) :
    Triple kernel.answer (·.Shows (.stopped tracee) conts reports)
      (getImageBase stale kernel.pid)
      (fun _ world => world.Shows (.stopped tracee) conts reports ∨ world.Spoiled)
      (Accounted False) := by
  obtain ⟨elfClass, known, whole, located⟩ := usable.header
  have excuse := spoiled_excuse kernel False
  refine Triple.bind _ (openElf_triple excuse usable.ident known whole) fun info => ?_
  refine Triple.orSpoiled _ (Triple.given fun same => ?_)
  subst same
  refine Triple.bind _ (getImageBaseViaElfInfo_triple usable stale located usable.pid) fun base => ?_
  refine Triple.bind _ (closeElf_triple excuse _) fun _ => ?_
  exact Triple.pure fun world shown => shown

end Usable

end ProcessBridge.Snapshotter
