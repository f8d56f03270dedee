import ProcessBridge.Snapshotter.BreakpointRuns
import ProcessBridge.Snapshotter.MapsRendering
import ProcessBridge.Snapshotter.ProcessInfoProperties

/-! What `get_image_base` finds for an executable that the kernel has loaded. The
kernel rounds the address of a segment down to a page before it adds the load
bias; `get_min_vaddr` does not. -/

set_option autoImplicit false

namespace ProcessBridge.Snapshotter

open Library Common Program

variable {arch : Arch}

/-!
## The executable and its mappings
-/

def pageSize : Nat := 4096

def pageFloor (vaddr : Nat) : Nat := vaddr - vaddr % pageSize

private theorem pageFloor_mono {low high : Nat} (le : low ≤ high) :
    pageFloor low ≤ pageFloor high := by
  simp only [pageFloor, pageSize]
  omega

/-- The program header of an index, where the format places it. -/
def Kernel.phdrAt (kernel : Kernel arch) (info : ElfInfo) (index : Nat) : List Byte :=
  (kernel.elf.drop (info.ehdrPhoff + index * info.ehdrPhentsize)).take info.elfClass.phdrSize

/-- The addresses that the `PT_LOAD` segments ask for. -/
def Kernel.loadVaddrs (kernel : Kernel arch) (info : ElfInfo) : List Nat :=
  ((List.range info.ehdrPhnum).filter fun index =>
    ElfClass.phdrType (kernel.phdrAt info index) = ptLoad).map fun index =>
      info.elfClass.phdrVaddr (kernel.phdrAt info index)

/-- The file starts with a whole ELF header of a class. -/
structure Kernel.HasElf (kernel : Kernel arch) (elfClass : ElfClass) : Prop where
  ident : eiNident ≤ kernel.elf.length ∧ kernel.elf.take 4 = elfMag
  known : elfClassOf (kernel.elf.take eiNident) = some elfClass
  whole : elfClass.ehdrSize ≤ kernel.elf.length

/-- A listing shows every segment at the page the bias moves it to, and under the path of
the executable nothing below these pages. -/
structure ShowsImage (path : List Byte) (vaddrs : List Nat) (bias : Int)
    (mappings : List KernelMapping) : Prop where
  mapped : ∀ vaddr ∈ vaddrs, ∃ mapping ∈ mappings, mapping.path = path ∧
    (mapping.start.toNat : Int) = bias + pageFloor vaddr
  others : ∀ mapping ∈ mappings, mapping.path = path →
    ∃ vaddr ∈ vaddrs, bias + pageFloor vaddr ≤ mapping.start.toNat

/-- A position-independent executable is loaded at a bias. Its size is an `off_t`, since
`fopen` refuses a larger file. -/
structure Kernel.Loads (kernel : Kernel arch) (info : ElfInfo) (bias : Int) : Prop where
  dynamic : info.ehdrType = etDyn
  headers : ∀ index < info.ehdrPhnum,
    info.ehdrPhoff + index * info.ehdrPhentsize + info.elfClass.phdrSize ≤ kernel.elf.length
  size : kernel.elf.length < 2 ^ (arch.width - 1)
  path : kernel.elfPath.length < maxPath ∧ 0 ∉ kernel.elfPath
  aligned : (pageSize : Int) ∣ bias
  listed : ∀ count, ∃ mappings, kernel.maps count = mappings.map KernelMapping.line ∧
    ShowsImage kernel.elfPath (kernel.loadVaddrs info) bias mappings

/-!
## The lowest segment
-/

private theorem width_pos (arch : Arch) : 0 < arch.width := by
  have words := arch.wordSize_pos
  have width := arch.width_eq
  omega

private theorem two_pow_width (arch : Arch) : 2 ^ arch.width = 2 * 2 ^ (arch.width - 1) := by
  rw [← Nat.pow_succ', Nat.succ_eq_add_one, Nat.sub_add_cancel (width_pos arch)]

/-- `SIZE_MAX` is odd, so no page starts there. -/
theorem sizeMax_odd (arch : Arch) :
    ∃ half, 2 ^ arch.width = 2 * half ∧ arch.sizeMax = 2 * half - 1 ∧ 0 < half :=
  ⟨_, two_pow_width arch, by rw [Arch.sizeMax, two_pow_width], Nat.two_pow_pos _⟩

section Segments

variable {kernel : Kernel arch} {info : ElfInfo}

/-- Within a file that can be opened the conversions of the offset lose nothing. -/
theorem phdrOffset_eq {index : Nat}
    (small : info.ehdrPhoff + index * info.ehdrPhentsize < 2 ^ (arch.width - 1)) :
    phdrOffset arch info index = (info.ehdrPhoff + index * info.ehdrPhentsize : Nat) := by
  have double := two_pow_width arch
  have product : index * info.ehdrPhentsize % 2 ^ arch.width = index * info.ehdrPhentsize :=
    Nat.mod_eq_of_lt (by omega)
  have exact : (BitVec.ofNat arch.width (info.ehdrPhoff + index * info.ehdrPhentsize)).toNat =
      info.ehdrPhoff + index * info.ehdrPhentsize := by
    rw [BitVec.toNat_ofNat]
    exact Nat.mod_eq_of_lt (by omega)
  rw [phdrOffset, product, BitVec.toInt_eq_toNat_of_lt (by omega), exact]

private theorem lowerVaddr_lowers (kernel : Kernel arch) (info : ElfInfo) :
    Lowers BitVec.toNat
      (fun index => ElfClass.phdrType ((kernel.elf.drop (phdrOffset arch info index).toNat).take
        info.elfClass.phdrSize) = ptLoad)
      (fun index => (BitVec.ofNat 64 (info.elfClass.phdrVaddr
        ((kernel.elf.drop (phdrOffset arch info index).toNat).take
          info.elfClass.phdrSize))).toNat) (kernel.lowerVaddr info) :=
  Lowers.of_replaces (fun _ _ loaded lower => if_pos ⟨loaded, lower⟩) fun _ _ other => if_neg other

private theorem phdrVaddr_lt (elfClass : ElfClass) (phdr : List Byte) :
    elfClass.phdrVaddr phdr < 2 ^ 64 := by
  cases elfClass with
  | class32 => exact (fieldValue_lt 4 phdr 8).trans (by decide)
  | class64 => exact fieldValue_lt 8 phdr 16

theorem Kernel.Loads.header {bias : Int} (loads : kernel.Loads info bias) {index : Nat}
    (inside : index < info.ehdrPhnum) :
    phdrOffset arch info index = (info.ehdrPhoff + index * info.ehdrPhentsize : Nat) := by
  have fits := loads.headers index inside
  have size := loads.size
  exact phdrOffset_eq (by omega)

theorem Kernel.Loads.minVaddr {bias : Int} (loads : kernel.Loads info bias) {lowest : Nat}
    (least : (kernel.loadVaddrs info).min? = some lowest) :
    ((List.range info.ehdrPhnum).foldl (kernel.lowerVaddr info)
      (BitVec.ofNat 64 arch.sizeMax)).toNat = min arch.sizeMax lowest := by
  obtain ⟨attained, below⟩ := List.min?_eq_some_iff.mp least
  have same : ∀ index ∈ List.range info.ehdrPhnum,
      (kernel.elf.drop (phdrOffset arch info index).toNat).take info.elfClass.phdrSize =
        kernel.phdrAt info index := by
    intro index member
    rw [loads.header (List.mem_range.mp member), Int.toNat_natCast, Kernel.phdrAt]
  have value : ∀ phdr, (BitVec.ofNat 64 (info.elfClass.phdrVaddr phdr)).toNat =
      info.elfClass.phdrVaddr phdr := by
    intro phdr
    rw [BitVec.toNat_ofNat]
    exact Nat.mod_eq_of_lt (phdrVaddr_lt info.elfClass phdr)
  refine ((lowerVaddr_lowers kernel info).foldl_eq ?_ ?_ _).trans
    (congrArg (min · lowest) (sizeMax_toNat arch))
  · intro index member loaded
    rw [same index member] at loaded
    rw [value, same index member]
    exact below _ (List.mem_map.mpr ⟨index, List.mem_filter.mpr ⟨member, by simpa using loaded⟩, rfl⟩)
  · obtain ⟨index, member, rfl⟩ := List.mem_map.mp attained
    obtain ⟨inside, loaded⟩ := List.mem_filter.mp member
    refine ⟨index, inside, ?_, ?_⟩
    · rw [same index inside]
      exact of_decide_eq_true loaded
    · rw [value, same index inside]

end Segments

/-!
## The lowest mapping
-/

namespace KernelMapping

private theorem scanned_pathText (mapping : KernelMapping) :
    mapping.scanned.pathText = mapping.path := by
  by_cases empty : mapping.path = []
  · rw [MapsLine.pathText, scanned, pathText, if_pos empty, empty]
  · rw [MapsLine.pathText, scanned, pathText, if_neg empty]

private theorem scanned_all (mappings : List KernelMapping) :
    List.Forall₂ (fun text line => sscanfMaps text = some line) (mappings.map line)
      (mappings.map scanned) := by
  induction mappings with
  | nil => exact .nil
  | cons mapping rest ih => exact .cons mapping.sscanfMaps_line ih

private theorem scanned_unique {mappings : List KernelMapping} {lines : List MapsLine}
    (parse : List.Forall₂ (fun text line => sscanfMaps text = some line) (mappings.map line) lines) :
    lines = mappings.map scanned := by
  induction mappings generalizing lines with
  | nil =>
      cases parse
      rfl
  | cons mapping rest ih =>
      cases parse with
      | cons first others =>
          rw [mapping.sscanfMaps_line, Option.some.injEq] at first
          rw [List.map_cons, first, ih others]

end KernelMapping

theorem ShowsImage.minMapsAddr {path : List Byte} {vaddrs : List Nat} {bias : Int}
    {mappings : List KernelMapping} (shows : ShowsImage path vaddrs bias mappings) {lowest : Nat}
    (least : vaddrs.min? = some lowest) (plain : 0 ∉ path) :
    ((mappings.map KernelMapping.scanned).foldl (lowestLine path)
      (BitVec.ofNat 64 arch.sizeMax)).toNat = min arch.sizeMax (bias + pageFloor lowest).toNat := by
  obtain ⟨attained, below⟩ := List.min?_eq_some_iff.mp least
  have whole : cString path = path := by
    apply List.takeWhile_eq_self_iff.mpr
    intro byte member
    have text : byte ≠ 0 := fun zero => plain (zero ▸ member)
    simpa using text
  refine ((lowestLine_lowers path).foldl_eq ?_ ?_ _).trans
    (congrArg (min · (bias + pageFloor lowest).toNat) (sizeMax_toNat arch))
  · intro line member named
    obtain ⟨mapping, listed, rfl⟩ := List.mem_map.mp member
    rw [mapping.scanned_pathText, whole] at named
    obtain ⟨vaddr, wanted, bound⟩ := shows.others mapping listed named
    have floor := pageFloor_mono (below vaddr wanted)
    change (bias + pageFloor lowest).toNat ≤ mapping.start.toNat
    omega
  · obtain ⟨mapping, listed, named, start⟩ := shows.mapped lowest attained
    refine ⟨mapping.scanned, List.mem_map_of_mem listed, ?_, ?_⟩
    · rw [mapping.scanned_pathText, named, whole]
    · change mapping.start.toNat = (bias + pageFloor lowest).toNat
      omega

/-!
## The base
-/

/-- `get_image_base` answers with the bias, so that `main` does whatever it goes on to do at
the bias plus the offset it was given. -/
structure FindsBias (kernel : Kernel arch) (stale : MapsEntry) (world : World arch)
    (bias : Int) : Prop where
  base : ((getImageBase stale kernel.pid).run kernel.answer world).1 = .ok (BitVec.ofInt 64 bias)
  hook : ∀ (addr : BitVec arch.width) (rest : BitVec arch.width → Sys arch Unit),
    (do let imageBase ← getImageBase stale kernel.pid
        rest (imageBase.setWidth _ + addr)).run kernel.answer world =
      (rest (BitVec.ofInt _ (bias + addr.toNat))).run kernel.answer
        ((getImageBase stale kernel.pid).run kernel.answer world).2

theorem setWidth_ofInt_add (bias : Int) (addr : BitVec arch.width) :
    (BitVec.ofInt 64 bias).setWidth arch.width + addr = BitVec.ofInt _ (bias + addr.toNat) := by
  have wide : ((2 ^ arch.width : Nat) : Int) ∣ ((2 ^ 64 : Nat) : Int) :=
    Int.natCast_dvd_natCast.mpr (Nat.pow_dvd_pow 2 arch.width_le)
  have narrowed : (BitVec.ofInt 64 bias).setWidth arch.width = BitVec.ofInt arch.width bias := by
    apply BitVec.eq_of_toNat_eq
    rw [BitVec.toNat_setWidth, BitVec.toNat_ofInt, BitVec.toNat_ofInt]
    have low : bias % ((2 ^ 64 : Nat) : Int) % ((2 ^ arch.width : Nat) : Int) =
        bias % ((2 ^ arch.width : Nat) : Int) := Int.emod_emod_of_dvd bias wide
    have positive : 0 ≤ bias % ((2 ^ 64 : Nat) : Int) := Int.emod_nonneg _ (by decide)
    rw [← low, Int.toNat_emod positive (by omega), Int.toNat_natCast]
  rw [narrowed, BitVec.ofInt_add, BitVec.ofInt_natCast, BitVec.ofNat_toNat, BitVec.setWidth_eq]

theorem FindsBias.of_base {kernel : Kernel arch} {stale : MapsEntry} {world : World arch}
    {bias : Int}
    (base : ((getImageBase stale kernel.pid).run kernel.answer world).1 =
      .ok (BitVec.ofInt 64 bias)) : FindsBias kernel stale world bias := by
  refine ⟨base, fun addr rest => ?_⟩
  rw [run_bind_ok (Prod.ext base rfl), setWidth_ofInt_add]

/-- A difference is the bias exactly if it takes off what the bias was added to. -/
theorem sub_eq_ofInt_iff {high low : BitVec 64} {bias : Int} {floor : Nat}
    (start : (high.toNat : Int) = bias + floor) (small : floor < 2 ^ 64) :
    high - low = BitVec.ofInt 64 bias ↔ low.toNat = floor := by
  have bound := low.isLt
  rw [BitVec.sub_eq_iff_eq_add, ← BitVec.toNat_inj, BitVec.toNat_add, BitVec.toNat_ofInt]
  omega

section Triples

variable {kernel : Kernel arch} {tracee : Tracee arch} {conts : List (Child arch)}
  {reports : List (Resume × Report × Tracee arch)} {excused : World arch → Prop}
  {exits : Exit → World arch → Prop} (excuse : Excuse kernel excused exits)
  {elfClass : ElfClass} (readable : kernel.HasElf elfClass)
include excuse readable

private theorem getImageBase_of_info (stale : MapsEntry) {found : BitVec 64 → Prop}
    (computes : Triple kernel.answer (·.Shows (.stopped tracee) conts reports)
      (getImageBaseViaElfInfo stale (kernel.elfInfo elfClass))
      (fun base world => found base ∧ world.Shows (.stopped tracee) conts reports) exits) :
    Triple kernel.answer (·.Shows (.stopped tracee) conts reports) (getImageBase stale kernel.pid)
      (fun base world => found base ∨ excused world) exits := by
  refine Triple.bind _ (openElf_triple excuse readable.ident readable.known readable.whole)
    fun info => Triple.orExcused excuse _ (Triple.given fun same => ?_)
  subst same
  refine Triple.bind _ computes fun base => Triple.given fun right => ?_
  exact Triple.bind _ (closeElf_triple excuse _) fun _ => Triple.pure fun _ _ => right

theorem getImageBase_fixed (stale : MapsEntry)
    (fixed : (kernel.elfInfo elfClass).ehdrType = etExec) :
    Triple kernel.answer (·.Shows (.stopped tracee) conts reports) (getImageBase stale kernel.pid)
      (fun base world => base = 0 ∨ excused world) exits :=
  getImageBase_of_info excuse readable stale (getImageBaseViaElfInfo_fixed stale fixed)

private theorem getImageBase_dynamic (stale : MapsEntry) (small : kernel.pid < 2 ^ 31) {bias : Int}
    (loads : kernel.Loads (kernel.elfInfo elfClass) bias) {lowest : Nat}
    (least : (kernel.loadVaddrs (kernel.elfInfo elfClass)).min? = some lowest)
    (missing : arch.sizeMax ≤ (bias + pageFloor lowest).toNat →
      ∀ code (world : World arch), exits code world) :
    Triple kernel.answer (·.Shows (.stopped tracee) conts reports) (getImageBase stale kernel.pid)
      (fun base world => (∃ high low : BitVec 64, base = high - low ∧
        high.toNat = (bias + pageFloor lowest).toNat ∧ high.toNat < arch.sizeMax ∧
        low.toNat = min arch.sizeMax lowest) ∨ excused world) exits := by
  have path : (kernel.elfInfo elfClass).path = kernel.elfPath :=
    List.take_of_length_le (Nat.le_pred_of_lt loads.path.1)
  have lowestMap : ∀ count lines,
      List.Forall₂ (fun text line => sscanfMaps text = some line) (kernel.maps count) lines →
      (lines.foldl (lowestLine (kernel.elfInfo elfClass).path)
        (BitVec.ofNat 64 arch.sizeMax)).toNat =
        min arch.sizeMax (bias + pageFloor lowest).toNat := by
    intro count lines parse
    obtain ⟨mappings, printed, shows⟩ := loads.listed count
    rw [printed] at parse
    rw [KernelMapping.scanned_unique parse, path]
    exact shows.minMapsAddr least loads.path.2
  refine getImageBase_of_info excuse readable stale ?_
  refine (getImageBaseViaElfInfo_dynamic excuse stale loads.dynamic small ?_ ?_ ?_).weaken_post
    fun base world held => ⟨?_, held.2⟩
  · intro index inside
    have fits := loads.headers index inside
    rw [loads.header inside]
    omega
  · intro count
    obtain ⟨mappings, printed, _⟩ := loads.listed count
    rw [printed]
    exact ⟨_, KernelMapping.scanned_all mappings⟩
  · intro count lines parse none
    have value := lowestMap count lines parse
    rw [none, sizeMax_toNat] at value
    exact missing (by omega)
  · obtain ⟨⟨count, lines, parse, found, same⟩, _⟩ := held
    have value := lowestMap count lines parse
    have other : (lines.foldl (lowestLine (kernel.elfInfo elfClass).path)
        (BitVec.ofNat 64 arch.sizeMax)).toNat ≠ arch.sizeMax := fun equal =>
      found (BitVec.eq_of_toNat_eq (equal.trans (sizeMax_toNat arch).symm))
    exact ⟨_, _, same, by omega, by omega, loads.minVaddr least⟩

end Triples

section Condition

variable {kernel : Kernel arch} {info : ElfInfo} {bias : Int} (loads : kernel.Loads info bias)
  {lowest : Nat} (least : (kernel.loadVaddrs info).min? = some lowest)
include loads least

theorem Kernel.Loads.start_nonneg : 0 ≤ bias + pageFloor lowest := by
  obtain ⟨mappings, _, shows⟩ := loads.listed 0
  obtain ⟨mapping, _, _, start⟩ := shows.mapped lowest (List.min?_eq_some_iff.mp least).1
  omega

omit loads in
private theorem loadVaddrs_min_lt : lowest < 2 ^ 64 := by
  obtain ⟨index, _, rfl⟩ := List.mem_map.mp (List.min?_eq_some_iff.mp least).1
  exact phdrVaddr_lt info.elfClass _

/-- The difference of the two minima is the bias if the lowest segment starts a page and
is below the initial value of the search; that value is odd and starts no page. -/
theorem Kernel.Loads.difference_iff {high low : BitVec 64}
    (start : high.toNat = (bias + pageFloor lowest).toNat)
    (vaddr : low.toNat = min arch.sizeMax lowest) :
    high - low = BitVec.ofInt 64 bias ↔ lowest % pageSize = 0 ∧ lowest < 2 ^ arch.width := by
  have positive := loads.start_nonneg least
  have small := loadVaddrs_min_lt least
  obtain ⟨half, width, odd, _⟩ := sizeMax_odd arch
  have floor : pageFloor lowest ≤ lowest := Nat.sub_le _ _
  have moved : (high.toNat : Int) = bias + pageFloor lowest := by omega
  rw [sub_eq_ofInt_iff moved (by omega), vaddr, width]
  simp only [pageFloor, pageSize] at *
  omega

theorem Kernel.Loads.start_lt_iff (aligned : lowest % pageSize = 0) :
    (bias + pageFloor lowest).toNat < arch.sizeMax ↔ bias + lowest < 2 ^ arch.width := by
  have positive := loads.start_nonneg least
  obtain ⟨half, width, odd, _⟩ := sizeMax_odd arch
  obtain ⟨pages, rfl⟩ := loads.aligned
  have whole : (2 ^ arch.width : Int) = (2 ^ arch.width : Nat) := by push_cast; rfl
  rw [whole, width, odd]
  simp only [pageFloor, pageSize] at *
  omega

end Condition

/-- The two minima are subtracted, unless the search for a mapping never saw one below its
initial value. -/
theorem getImageBase_outcome {kernel : Kernel arch} {stale : MapsEntry} {world : World arch}
    {tracee : Tracee arch} (stopped : world.child = .stopped tracee) {elfClass : ElfClass}
    (readable : kernel.HasElf elfClass) (small : kernel.pid < 2 ^ 31)
    (intact : ¬ ((getImageBase stale kernel.pid).run kernel.answer world).2.Spoiled) {bias : Int}
    (loads : kernel.Loads (kernel.elfInfo elfClass) bias) {lowest : Nat}
    (least : (kernel.loadVaddrs (kernel.elfInfo elfClass)).min? = some lowest) :
    (∃ base, ((getImageBase stale kernel.pid).run kernel.answer world).1 = .ok base ∧
      ∃ high low : BitVec 64, base = high - low ∧
        high.toNat = (bias + pageFloor lowest).toNat ∧ high.toNat < arch.sizeMax ∧
        low.toNat = min arch.sizeMax lowest) ∨
    (arch.sizeMax ≤ (bias + pageFloor lowest).toNat ∧
      ∃ code, ((getImageBase stale kernel.pid).run kernel.answer world).1 = .error code) := by
  have shown : world.Shows (.stopped tracee) (contChildren world.log) world.reports :=
    ⟨stopped, rfl, rfl⟩
  have spoils : Excuse kernel World.Spoiled
      (fun _ after => arch.sizeMax ≤ (bias + pageFloor lowest).toNat ∨ after.Spoiled) :=
    kernel.spoils fun _ _ => .inr
  exact Triple.unspoiled (getImageBase_dynamic spoils readable stale small loads least
    fun missing _ _ => .inl missing) shown intact

/-- The bias is found exactly if the lowest segment starts at a page boundary and both its
address and the page it is mapped at are numbers of type `size_t`. -/
theorem getImageBase_findsBias_iff (kernel : Kernel arch) (stale : MapsEntry) {world : World arch}
    {tracee : Tracee arch} (stopped : world.child = .stopped tracee) {elfClass : ElfClass}
    (readable : kernel.HasElf elfClass) (small : kernel.pid < 2 ^ 31)
    (intact : ¬ ((getImageBase stale kernel.pid).run kernel.answer world).2.Spoiled) :
    ((kernel.elfInfo elfClass).ehdrType = etExec → FindsBias kernel stale world 0) ∧
    ∀ bias lowest, kernel.Loads (kernel.elfInfo elfClass) bias →
      (kernel.loadVaddrs (kernel.elfInfo elfClass)).min? = some lowest →
      (FindsBias kernel stale world bias ↔
        lowest % pageSize = 0 ∧ lowest < 2 ^ arch.width ∧ bias + lowest < 2 ^ arch.width) := by
  constructor
  · intro fixed
    have shown : world.Shows (.stopped tracee) (contChildren world.log) world.reports :=
      ⟨stopped, rfl, rfl⟩
    have spoils : Excuse kernel World.Spoiled (fun _ after => False ∨ after.Spoiled) :=
      kernel.spoils fun _ _ => .inr
    have ends := Triple.unspoiled (getImageBase_fixed spoils readable stale fixed) shown intact
    obtain ⟨base, returned, rfl⟩ := ends.resolve_right fun failed => failed.1
    exact FindsBias.of_base returned
  · intro bias lowest loads least
    rcases getImageBase_outcome stopped readable small intact loads least with
      ⟨base, returned, high, low, rfl, start, below, vaddr⟩ | ⟨missing, code, failed⟩
    · have finds : FindsBias kernel stale world bias ↔ high - low = BitVec.ofInt 64 bias := by
        refine ⟨fun finds => ?_, fun same => FindsBias.of_base (by rw [returned, same])⟩
        exact Except.ok.inj (returned.symm.trans finds.base)
      rw [finds, loads.difference_iff least start vaddr, ← and_assoc]
      refine ⟨fun held => ⟨held, ?_⟩, fun held => held.1⟩
      exact (loads.start_lt_iff least held.1).mp (start ▸ below)
    · refine ⟨fun finds => ?_, fun held => ?_⟩
      · rw [finds.base] at failed
        cases failed
      · have below := (loads.start_lt_iff least held.1).mpr held.2.2
        omega

/-- The program header of a segment of 256 bytes, whose place in the file and address agree
within a page. -/
def segmentHeader (vaddr : Nat) : List Byte :=
  littleBytes 4 ptLoad ++ littleBytes 4 5 ++ littleBytes 8 (vaddr % pageSize) ++
    littleBytes 8 vaddr ++ littleBytes 8 vaddr ++ littleBytes 8 0x100 ++ littleBytes 8 0x100 ++
    littleBytes 8 pageSize

/-- A position-independent executable with that segment. -/
def segmentElf (vaddr : Nat) : List Byte :=
  elfMag ++ [0x02] ++ List.replicate 11 0 ++ littleBytes 2 etDyn ++ List.replicate 14 0 ++
    littleBytes 8 64 ++ List.replicate 14 0 ++ littleBytes 2 56 ++ littleBytes 2 1 ++
    List.replicate 6 0 ++ segmentHeader vaddr ++ List.replicate 0x400 0x90

theorem segmentElf_length (vaddr : Nat) : (segmentElf vaddr).length = 0x478 := by
  simp only [segmentElf, segmentHeader, elfMag, List.length_append, List.length_replicate,
    littleBytes_length, List.length_cons, List.length_nil]

def segmentMapping : KernelMapping :=
  { deletedMapping with
    start := 0x555555555000, «end» := 0x555555556000, fileOffset := 0, path := [0x2F, 0x74]
    short := by decide, clean := by decide, visible := by decide, apart := by decide }

def segmentKernel (vaddr : Nat) : Kernel .x86_64 :=
  { trappingKernel with
    elf := segmentElf vaddr
    elfPath := [0x2F, 0x74]
    maps := fun _ => [segmentMapping.line] }

private theorem segmentKernel_hasElf (vaddr : Nat) : (segmentKernel vaddr).HasElf .class64 where
  ident := ⟨(by decide : eiNident ≤ 0x478).trans_eq (segmentElf_length vaddr).symm, rfl⟩
  known := rfl
  whole := (by decide : ElfClass.class64.ehdrSize ≤ 0x478).trans_eq (segmentElf_length vaddr).symm

private theorem segmentKernel_intact (vaddr : Nat) : ¬ ((getImageBase (paintedEntry 0)
    (segmentKernel vaddr).pid).run (segmentKernel vaddr).answer nopWorld).2.Spoiled := by
  refine Kernel.unspoiled_run (fun _ _ refused => ?_) _ fun spoiled => ?_
  · cases refused
  · obtain ⟨entry, member, _⟩ := spoiled
    cases member

/-- The page of a segment at `0x1234` is the page of one at `0x1000`. -/
theorem segmentKernel_loads {vaddr : Nat} (known : vaddr = 0x1000 ∨ vaddr = 0x1234) :
    (segmentKernel vaddr).Loads ((segmentKernel vaddr).elfInfo .class64) 0x555555554000 ∧
    ((segmentKernel vaddr).loadVaddrs ((segmentKernel vaddr).elfInfo .class64)).min? =
      some vaddr := by
  have vaddrs : (segmentKernel vaddr).loadVaddrs ((segmentKernel vaddr).elfInfo .class64) =
      [vaddr] := by
    rcases known with rfl | rfl <;> decide
  have page : (segmentMapping.start.toNat : Int) = 0x555555554000 + pageFloor vaddr := by
    rcases known with rfl | rfl <;> rfl
  have path : (segmentKernel vaddr).elfPath.length < maxPath ∧ 0 ∉ (segmentKernel vaddr).elfPath := by
    simp [segmentKernel, maxPath]
  have length : (segmentKernel vaddr).elf.length = 0x478 := segmentElf_length vaddr
  refine ⟨⟨rfl, ?_, ?_, path, by decide, fun _ => ⟨[segmentMapping], rfl, ?_, ?_⟩⟩, ?_⟩
  · rw [length]
    rcases known with rfl | rfl <;> decide
  · rw [length]
    decide
  · rw [vaddrs, List.forall_mem_singleton]
    exact ⟨segmentMapping, List.mem_singleton_self _, rfl, page⟩
  · rw [vaddrs, List.forall_mem_singleton]
    exact fun _ => ⟨vaddr, List.mem_singleton_self _, page.ge⟩
  · rw [vaddrs]
    rfl

/-- The segment at `0x1000` leads to its bias. -/
theorem getImageBase_findsBias_page :
    FindsBias (segmentKernel 0x1000) (paintedEntry 0) nopWorld 0x555555554000 := by
  obtain ⟨loads, least⟩ := segmentKernel_loads (.inl rfl)
  exact ((getImageBase_findsBias_iff (segmentKernel 0x1000) (paintedEntry 0) rfl
    (segmentKernel_hasElf 0x1000) (by decide) (segmentKernel_intact 0x1000)).2 _ _ loads least).mpr
      (by decide)

/-- A segment at `0x1234` makes the base `0x234` too low. -/
theorem getImageBase_misses_bias :
    (segmentKernel 0x1234).HasElf .class64 ∧
    (segmentKernel 0x1234).Loads ((segmentKernel 0x1234).elfInfo .class64) 0x555555554000 ∧
    ((segmentKernel 0x1234).loadVaddrs ((segmentKernel 0x1234).elfInfo .class64)).min? =
      some 0x1234 ∧
    ((getImageBase (paintedEntry 0) (segmentKernel 0x1234).pid).run
      (segmentKernel 0x1234).answer nopWorld).1 = .ok 0x555555553DCC ∧
    ¬ FindsBias (segmentKernel 0x1234) (paintedEntry 0) nopWorld 0x555555554000 := by
  obtain ⟨loads, least⟩ := segmentKernel_loads (.inr rfl)
  have ends := getImageBase_outcome rfl (segmentKernel_hasElf 0x1234) (by decide)
    (segmentKernel_intact 0x1234) loads least
  obtain ⟨base, returned, high, low, rfl, start, _, vaddr⟩ :=
    ends.resolve_right fun failed => absurd failed.1 (by decide)
  have computed : high - low = 0x555555553DCC := by
    obtain rfl : high = 0x555555555000 := BitVec.eq_of_toNat_eq start
    obtain rfl : low = 0x1234 := BitVec.eq_of_toNat_eq vaddr
    rfl
  rw [computed] at returned
  refine ⟨segmentKernel_hasElf 0x1234, loads, least, returned, fun finds => ?_⟩
  have same := Except.ok.inj (returned.symm.trans finds.base)
  exact absurd same (by decide)

end ProcessBridge.Snapshotter
