import ProcessBridge.Loader.Restore
import ProcessBridge.Snapshotter.SnapshotDumpProperties

/-! The file between the two programs. What the snapshotter writes is a process
state and a sequence of blocks, so the loader's decomposition of the file is
the one the snapshotter had in mind. -/

set_option autoImplicit false

namespace ProcessBridge.Snapshot

open Library Common Utilities Snapshotter Loader

/-!
## The process state
-/

/-- What `create_snapshot` hands to `dump_snapshot`, on either architecture. -/
inductive Captured where
  | x86_64 (state : LinuxX86_64ProcessState)
  | i386 (state : LinuxI386ProcessState)

namespace Captured

def arch : Captured → Arch
  | x86_64 _ => .x86_64
  | i386 _ => .i386

def mode : Captured → UcMode
  | x86_64 _ => .mode64
  | i386 _ => .mode32

def bytes : Captured → List Byte
  | x86_64 state => state.bytes
  | i386 state => state.bytes

def ip : Captured → BitVec 64
  | x86_64 state => state.regs.rip
  | i386 state => state.regs.eip.setWidth 64

/-- The matching `dump_gdt` takes it. -/
def Accepted : Captured → Prop
  | x86_64 state => X8664.GdtAccepts state.regs
  | i386 state => I386.GdtAccepts state

def HasTable : Captured → GdtArray → Prop
  | x86_64 _, table => table = X8664.gdtArray
  | i386 state, table => I386.fillGdt state = .ok table

/-- The processor takes the captured selectors. -/
def Enters (u : Unicorn) (uc : Engine) : Captured → Prop
  | x86_64 state => X8664.LoadsSelectors u state.regs
  | i386 state => ∀ table, I386.fillGdt state = .ok table → I386.EntersRing3 u uc state.regs table

theorem Enters.congr {u : Unicorn} {uc other : Engine} {captured : Captured}
    (enters : captured.Enters u uc) (same : other.segment = uc.segment) :
    captured.Enters u other := by
  cases captured with
  | x86_64 state => exact enters
  | i386 state =>
      intro table filled
      have loads := enters table filled
      exact ⟨fun ready mode held segments => loads.iret ready mode held (segments.trans same),
        loads.data⟩

variable (captured : Captured)

theorem mode_supported : captured.mode ≠ .mode16 := by
  cases captured with
  | x86_64 | i386 => exact UcMode.noConfusion

theorem bytes_length : captured.bytes.length = stateSize captured.mode := by
  cases captured with
  | x86_64 state => exact state.bytes_length
  | i386 state => exact state.bytes_length

/-- The loader restores a captured state over any memory that leaves the loader's own
pages free. -/
theorem dumpCpuState_ok {u : Unicorn} {uc : Engine} (mode : uc.mode = captured.mode)
    (free : PagesFree uc.mode uc.memory.regions) (accepted : captured.Accepted)
    (enters : captured.Enters u uc) :
    ∃ after table, captured.HasTable table ∧
      dumpCpuState u uc ⟨uc.mode, captured.bytes⟩ = .ok (captured.ip, after) ∧
      after.memory.regions = uc.memory.regions ++ [gdtRegion table] := by
  cases captured with
  | x86_64 state =>
      obtain ⟨after, returned⟩ := X8664.dumpX86_64CpuState_ok mode free.gdt accepted enters
      refine ⟨after, _, rfl, ?_, (X8664.dumpX86_64CpuState_ok_inv returned).2.2.2⟩
      simp only [dumpCpuState, mode, CpuState.x86_64, Captured.mode, bytes,
        LinuxX86_64ProcessState.ofBytes_bytes]
      exact returned
  | i386 state =>
      obtain ⟨table, filled⟩ := I386.fillGdt_ok_iff.mpr accepted
      obtain ⟨after, returned⟩ := I386.dumpI386CpuState_ok mode free.gdt
        (free.trampoline mode) filled (enters table filled)
      obtain ⟨other, otherFilled, regions⟩ := (I386.dumpI386CpuState_ok_inv returned).2.2.2
      refine ⟨after, other, otherFilled, ?_, regions⟩
      simp only [dumpCpuState, mode, CpuState.i386, Captured.mode, bytes,
        LinuxI386ProcessState.ofBytes_bytes]
      exact returned

/-- Of an accepted state, every failure is reported. -/
theorem dumpCpuState_fatalOnly {u : Unicorn} {uc : Engine} {mode : UcMode}
    (same : mode = captured.mode) (accepted : captured.Accepted) :
    FatalOnly (dumpCpuState u uc ⟨mode, captured.bytes⟩) := by
  subst same
  cases captured with
  | x86_64 state => exact X8664.dumpX86_64CpuState_fatalOnly _ _ _
  | i386 state =>
      change FatalOnly (I386.dumpI386CpuState u uc (.ofBytes state.bytes))
      rw [LinuxI386ProcessState.ofBytes_bytes]
      exact I386.dumpI386CpuState_fatalOnly u uc accepted

end Captured

/-!
## The mappings
-/

/-- Mappings as the kernel reports them: whole pages, not below `mmap_min_addr`,
inside the address space and apart from each other. -/
structure KernelLines (width : Nat) (lines : List MapsLine) : Prop where
  aligned : ∀ line ∈ lines, 0x1000 ∣ line.start.toNat ∧ 0x1000 ∣ line.end.toNat
  nonempty : ∀ line ∈ lines, line.start.toNat < line.end.toNat
  minAddr : ∀ line ∈ lines, 0x10000 ≤ line.start.toNat
  bounded : ∀ line ∈ lines, line.end.toNat ≤ 2 ^ width
  apart : lines.Pairwise fun left right =>
    left.end.toNat ≤ right.start.toNat ∨ right.end.toNat ≤ left.start.toNat

def linePerms (line : MapsLine) : UcProt :=
  ⟨decide (line.perms.getD 0 0 = 0x72), decide (line.perms.getD 1 0 = 0x77),
    decide (line.perms.getD 2 0 = 0x78)⟩

/-- The memory that a line and its content stand for. -/
def lineRegion (mapping : MapsLine × List Byte) : Region UcProt Byte :=
  ⟨mapping.1.start.toNat, linePerms mapping.1, mapping.2⟩

def kept (mappings : List (MapsLine × List Byte)) : List (MapsLine × List Byte) :=
  mappings.filter fun mapping => !mapping.1.special

private theorem entryPerms_fillEntry (entry : MapsEntry) (line : MapsLine) :
    entryPerms (fillEntry entry line) = linePerms line := by
  have letter : ∀ index byte, permission line.perms index byte ≠ 0 ↔
      line.perms.getD index 0 = byte := by
    intro index byte
    unfold permission
    split <;> simp_all
  simp only [entryPerms, fillEntry, linePerms, UcProt.mk.injEq]
  exact ⟨decide_eq_decide.mpr (letter 0 _), decide_eq_decide.mpr (letter 1 _),
    decide_eq_decide.mpr (letter 2 _)⟩

theorem mappingSize_eq {line : MapsLine} (ordered : line.start.toNat < line.end.toNat) :
    line.mappingSize = line.end.toNat - line.start.toNat := by
  have upper := line.end.isLt
  rw [MapsLine.mappingSize, BitVec.toNat_sub]
  omega

/-- What the snapshotter emits is a sequence of blocks, one for each mapping that is
written, and the path of each ends. -/
theorem emitted_blocks (stale : MapsEntry) {mappings : List (MapsLine × List Byte)}
    (sizes : ∀ mapping ∈ mappings, mapping.2.length = mapping.1.mappingSize) :
    ∃ blocks : List Block, emitted stale mappings = blocksBytes blocks ∧
      blocks.map Block.region = (kept mappings).map lineRegion ∧
      ∀ block ∈ blocks, 0 ∈ block.header.path := by
  induction mappings generalizing stale with
  | nil => exact ⟨[], rfl, rfl, by simp⟩
  | cons mapping rest ih =>
      obtain ⟨line, content⟩ := mapping
      obtain ⟨size, others⟩ := List.forall_mem_cons.mp sizes
      obtain ⟨blocks, same, regions, ended⟩ := ih (fillEntry stale line) others
      cases special : line.special with
      | true =>
          refine ⟨blocks, ?_, ?_, ended⟩
          · rw [emitted, if_pos special, List.nil_append, same]
          · rw [regions, kept, kept, List.filter_cons_of_neg (by simp [special])]
      | false =>
          refine ⟨⟨fillEntry stale line, content, size⟩ :: blocks, ?_, ?_,
            List.forall_mem_cons.mpr ⟨fillEntry_ended stale line, ended⟩⟩
          · rw [emitted, if_neg (by simp [special]), same]
            rfl
          · rw [List.map_cons, regions, kept, kept, List.filter_cons_of_pos (by simp [special]),
              List.map_cons, Block.region, lineRegion, entryPerms_fillEntry]
            rfl

theorem decomposes_of_lines {width : Nat} {memory : Memory} {state : List Byte}
    (positive : 0 < state.length) {mappings : List (MapsLine × List Byte)}
    (free : ∀ mapping ∈ kept mappings,
      memory.Free mapping.1.start.toNat mapping.1.mappingSize) (valid : KernelLines width (mappings.map Prod.fst))
    (sizes : ∀ mapping ∈ mappings, mapping.2.length = mapping.1.mappingSize) {blocks : List Block}
    (regions : blocks.map Block.region = (kept mappings).map lineRegion) :
    Decomposes memory state.length (state ++ blocksBytes blocks) state blocks := by
  have origin : ∀ block ∈ blocks, ∃ line, line ∈ mappings.map Prod.fst ∧
      line ∈ (kept mappings).map Prod.fst ∧ block.header.start.toNat = line.start.toNat ∧
      block.header.mappingSize = line.end.toNat - line.start.toNat := by
    intro block member
    have listed : block.region ∈ (kept mappings).map lineRegion := by
      rw [← regions]
      exact List.mem_map_of_mem member
    obtain ⟨mapping, keptMember, same⟩ := List.mem_map.mp listed
    have inside : mapping ∈ mappings := (List.mem_filter.mp keptMember).1
    refine ⟨mapping.1, List.mem_map_of_mem inside, List.mem_map_of_mem keptMember, ?_, ?_⟩
    · exact (congrArg Region.base same).symm
    · have length := congrArg (fun region => region.data.length) same
      simp only [lineRegion, Block.region, block.exact, sizes mapping inside] at length
      rw [← length]
      exact mappingSize_eq (valid.nonempty _ (List.mem_map_of_mem inside))
  have apart : ((kept mappings).map lineRegion).Pairwise Region.Disjoint := by
    rw [List.pairwise_map]
    have lines := List.pairwise_map.mp valid.apart
    refine ((List.Pairwise.and_mem.mp lines).sublist List.filter_sublist).imp ?_
    intro left right given
    obtain ⟨leftMember, rightMember, disjoint⟩ := given
    have leftSize := sizes left leftMember
    have rightSize := sizes right rightMember
    have leftOrder := valid.nonempty _ (List.mem_map_of_mem leftMember)
    have rightOrder := valid.nonempty _ (List.mem_map_of_mem rightMember)
    rw [mappingSize_eq leftOrder] at leftSize
    rw [mappingSize_eq rightOrder] at rightSize
    simp only [Region.Disjoint, Region.limit, lineRegion, leftSize, rightSize]
    omega
  refine ⟨?_, rfl, rfl, ?_, ?_, ?_, ?_, ?_⟩
  · intro nothing
    simp only [List.append_eq_nil_iff] at nothing
    rw [nothing.1] at positive
    simp at positive
  · intro block member
    obtain ⟨line, listed, _, _, size⟩ := origin block member
    have ordered := valid.nonempty line listed
    have aligned := valid.aligned line listed
    rw [size]
    exact ⟨by omega, Nat.dvd_sub aligned.2 aligned.1⟩
  · intro block member
    obtain ⟨line, listed, _, start, _⟩ := origin block member
    rw [start]
    exact (valid.aligned line listed).1
  · intro block member
    obtain ⟨line, listed, _, start, size⟩ := origin block member
    have ordered := valid.nonempty line listed
    have upper := valid.bounded line listed
    omega
  · intro block member
    obtain ⟨line, listed, written, start, size⟩ := origin block member
    obtain ⟨mapping, keptMember, rfl⟩ := List.mem_map.mp written
    rw [start, size, ← mappingSize_eq (valid.nonempty _ listed)]
    exact free mapping keptMember
  · rw [← regions] at apart
    exact List.pairwise_map.mp apart

/-- Contents have the length of their mapping: no size wraps around on either
architecture. -/
theorem sizes_exact {width : Nat} {mappings : List (MapsLine × List Byte)}
    (valid : KernelLines width (mappings.map Prod.fst))
    (lengths : ∀ mapping ∈ mappings, mapping.2.length = mapping.1.mappingSize % 2 ^ width) :
    ∀ mapping ∈ mappings, mapping.2.length = mapping.1.mappingSize := by
  intro mapping member
  have listed : mapping.1 ∈ mappings.map Prod.fst := List.mem_map_of_mem member
  have ordered := valid.nonempty _ listed
  have low := valid.minAddr _ listed
  have upper := valid.bounded _ listed
  rw [lengths mapping member, Nat.mod_eq_of_lt]
  rw [mappingSize_eq ordered]
  omega

/-!
## The round trip
-/

/-- The engine has nothing mapped where the mappings and the loader's own pages go. -/
structure Room (uc : Engine) (mappings : List (MapsLine × List Byte)) : Prop where
  free : ∀ mapping ∈ kept mappings, uc.memory.Free mapping.1.start.toNat mapping.1.mappingSize
  pages : PagesFree uc.mode uc.memory.regions

theorem Room.of_empty {uc : Engine} (empty : uc.memory.regions = [])
    (mappings : List (MapsLine × List Byte)) : Room uc mappings := by
  refine ⟨fun mapping _ region member => ?_, fun region member => ?_, fun _ region member => ?_⟩
  all_goals
    rw [empty] at member
    cases member

private theorem lineRegion_apart {width : Nat} {mappings : List (MapsLine × List Byte)}
    (valid : KernelLines width (mappings.map Prod.fst)) {region : Region UcProt Byte}
    (member : region ∈ (kept mappings).map lineRegion) {address size : Nat}
    (low : address + size ≤ 0x10000) : region.Apart address size := by
  obtain ⟨mapping, keptMember, rfl⟩ := List.mem_map.mp member
  have above := valid.minAddr _ (List.mem_map_of_mem (List.mem_filter.mp keptMember).1)
  exact .inl (le_trans low above)

theorem dumpSnapshot_blocks (level : LogLevel) (captured : Captured)
    (accepted : captured.Accepted) {u : Unicorn} {uc : Engine} (mode : uc.mode = captured.mode)
    (enters : captured.Enters u uc) {width : Nat} {mappings : List (MapsLine × List Byte)}
    (room : Room uc mappings) (valid : KernelLines width (mappings.map Prod.fst))
    (sizes : ∀ mapping ∈ mappings, mapping.2.length = mapping.1.mappingSize) {blocks : List Block}
    (regions : blocks.map Block.region = (kept mappings).map lineRegion)
    (ended : ∀ block ∈ blocks, 0 ∈ block.header.path) :
    ∃ loaded table, captured.HasTable table ∧
      Loader.dumpSnapshot level u uc (.sound (captured.bytes ++ blocksBytes blocks)) =
        .ok (captured.ip, loaded) ∧
      loaded.memory.regions =
        uc.memory.regions ++ (kept mappings).map lineRegion ++ [gdtRegion table] := by
  have supported : uc.mode ≠ .mode16 := mode ▸ captured.mode_supported
  have length : captured.bytes.length = stateSize uc.mode := mode ▸ captured.bytes_length
  have positive : 0 < captured.bytes.length := length ▸ stateSize_pos supported
  have decomposed := decomposes_of_lines positive room.free valid sizes regions
  rw [length] at decomposed
  have printable : ∀ block ∈ blocks, Printable level block.header :=
    fun block member _ => ended block member
  obtain ⟨final, read, loadedBlocks⟩ := loadSnapshot_of_decomposes supported decomposed printable
  have memory : final.uc.memory.regions =
      uc.memory.regions ++ (kept mappings).map lineRegion := by
    rw [loadedBlocks.memory, regions]
  have sameMode : final.uc.mode = uc.mode := by rw [loadedBlocks.uc]
  have sameSegments : final.uc.segment = uc.segment := by rw [loadedBlocks.uc]
  have free : PagesFree final.uc.mode final.uc.memory.regions := by
    rw [memory, sameMode]
    refine ⟨fun region member => ?_, fun mode32 region member => ?_⟩
    · rcases List.mem_append.mp member with before | own
      · exact room.pages.gdt region before
      · exact lineRegion_apart valid own (by decide)
    · rcases List.mem_append.mp member with before | own
      · exact room.pages.trampoline mode32 region before
      · exact lineRegion_apart valid own (by decide)
  obtain ⟨loaded, table, built, restored, restoredMemory⟩ := captured.dumpCpuState_ok
    (sameMode.trans mode) free accepted (enters.congr sameSegments)
  refine ⟨loaded, table, built, ?_, by rw [restoredMemory, memory]⟩
  rw [Loader.dumpSnapshot, read, ok_bind]
  rw [sameMode] at restored
  exact restored

/-- The bytes that `dump_snapshot` writes for a captured state and the mappings the
kernel reports are loaded into an empty engine of the same mode, which then
holds exactly those mappings and the page of the descriptor table. The level of
the log does not matter. -/
theorem dumpSnapshot_roundtrip (level : LogLevel) (captured : Captured) (accepted : captured.Accepted)
    (kernel : Kernel captured.arch) (world after : World captured.arch) (stale : MapsEntry)
    (buffer : Buffer) {pid : Nat} (small : pid < 2 ^ 31) {lines : List MapsLine}
    (parse : List.Forall₂ (fun text line => sscanfMaps text = some line)
      (kernel.maps (world.log.length + 2)) lines)
    (valid : KernelLines captured.arch.width lines)
    (written : (Snapshotter.dumpSnapshot stale buffer captured.bytes pid).run kernel.answer world =
      (.ok (), after))
    (u : Unicorn) (uc : Engine) (mode : uc.mode = captured.mode) (empty : uc.memory.regions = [])
    (enters : captured.Enters u uc) :
    ∃ (mappings : List (MapsLine × List Byte)) (loaded : Engine) (gdt : Region UcProt Byte),
      mappings.map Prod.fst = lines ∧
      after.output = captured.bytes ++ emitted stale mappings ∧
      (∀ mapping ∈ mappings, (lineRegion mapping).limit = mapping.1.end.toNat) ∧
      Loader.dumpSnapshot level u uc (.sound after.output) = .ok (captured.ip, loaded) ∧
      loaded.memory.regions = (kept mappings).map lineRegion ++ [gdt] ∧
      gdt.base = 0x3000 ∧ gdt.limit = 0x4000 ∧ gdt.perms = ⟨true, false, false⟩ := by
  obtain ⟨mappings, rfl, lengths, output⟩ :=
    dumpSnapshot_written kernel world small buffer captured.bytes parse written
  have sizes := sizes_exact valid lengths
  obtain ⟨blocks, same, regions, ended⟩ := emitted_blocks stale sizes
  obtain ⟨loaded, table, _, returned, memory⟩ :=
    dumpSnapshot_blocks level captured accepted mode enters (.of_empty empty mappings) valid sizes
      regions ended
  rw [empty, List.nil_append] at memory
  refine ⟨mappings, loaded, gdtRegion table, rfl, output, ?_, ?_, memory, rfl, ?_, rfl⟩
  · intro mapping member
    have ordered := valid.nonempty _ (List.mem_map_of_mem member)
    have size := sizes mapping member
    rw [mappingSize_eq ordered] at size
    simp only [Region.limit, lineRegion, size]
    omega
  · rw [output, same, returned]
  · simp [Region.limit, gdtRegion, pbGdtAddr, pbGdtSize]

/-- `00020000-00024000 r--p 00000000 00:00 0 [vvar]`. -/
def vvarText : List Byte :=
  [0x30, 0x30, 0x30, 0x32, 0x30, 0x30, 0x30, 0x30, 0x2D, 0x30, 0x30, 0x30, 0x32, 0x34, 0x30, 0x30,
    0x30, 0x20, 0x72, 0x2D, 0x2D, 0x70, 0x20, 0x30, 0x30, 0x30, 0x30, 0x30, 0x30, 0x30, 0x30, 0x20,
    0x30, 0x30, 0x3A, 0x30, 0x30, 0x20, 0x30, 0x20, 0x5B, 0x76, 0x76, 0x61, 0x72, 0x5D, 0x0A]

def vvarLine : MapsLine :=
  ⟨0x20000, 0x24000, [0x72, 0x2D, 0x2D, 0x70], 0,
    some ⟨[0x5B, 0x76, 0x76, 0x61, 0x72, 0x5D], by decide⟩⟩

/-- `00030000-00032000 r-xp 00001000 00:00 7 /a`. -/
def codeText : List Byte :=
  [0x30, 0x30, 0x30, 0x33, 0x30, 0x30, 0x30, 0x30, 0x2D, 0x30, 0x30, 0x30, 0x33, 0x32, 0x30, 0x30,
    0x30, 0x20, 0x72, 0x2D, 0x78, 0x70, 0x20, 0x30, 0x30, 0x30, 0x30, 0x31, 0x30, 0x30, 0x30, 0x20,
    0x30, 0x30, 0x3A, 0x30, 0x30, 0x20, 0x37, 0x20, 0x2F, 0x61, 0x0A]

def codeLine : MapsLine :=
  ⟨0x30000, 0x32000, [0x72, 0x2D, 0x78, 0x70], 0x1000, some ⟨[0x2F, 0x61], by decide⟩⟩

private theorem mixedTexts_parse :
    List.Forall₂ (fun text line => sscanfMaps text = some line) [anonymousText, vvarText, codeText]
      [anonymousLine, vvarLine, codeLine] :=
  .cons anonymousText_parses (.cons (by decide) (.cons (by decide) .nil))

private theorem mixedLines_valid : KernelLines 64 [anonymousLine, vvarLine, codeLine] := by
  refine ⟨?_, ?_, ?_, ?_, ?_⟩
  iterate 4 simpa using by decide
  simpa using by decide

/-- Of two mappings with one between them that is skipped, both arrive. -/
theorem dumpSnapshot_roundtrip_mixed :
    ∃ after loaded first second gdt,
      (Snapshotter.dumpSnapshot (paintedEntry 1) zeroBuffer flatX86_64State.bytes 1).run
        (mapsKernel .x86_64 flatX86_64State.regs [anonymousText, vvarText, codeText]).answer
          (.initial _) = (.ok (), after) ∧
      Loader.dumpSnapshot .debug .lenient (.opened .mode64) (.sound after.output) =
        .ok (0x401000, loaded) ∧
      loaded.memory.regions =
        [⟨0x10000, ⟨true, true, false⟩, first⟩, ⟨0x30000, ⟨true, false, true⟩, second⟩, gdt] := by
  obtain ⟨_, _, _, runs⟩ := dumpSnapshot_output
    (mapsKernel .x86_64 flatX86_64State.regs [anonymousText, vvarText, codeText]) (.initial _)
    (by decide : 1 < 2 ^ 31) zeroBuffer flatX86_64State.bytes mixedTexts_parse
  rcases runs (paintedEntry 1) with ⟨after, finished, _, _⟩ | ⟨refuses, _⟩
  · obtain ⟨mappings, loaded, gdt, lines, _, _, returned, memory, _⟩ :=
      dumpSnapshot_roundtrip .debug (.x86_64 flatX86_64State) flatX86_64State_accepted
        (mapsKernel .x86_64 flatX86_64State.regs [anonymousText, vvarText, codeText]) (.initial _)
        after (paintedEntry 1) zeroBuffer (by decide : 1 < 2 ^ 31) mixedTexts_parse
        mixedLines_valid finished .lenient (.opened .mode64) rfl rfl (fun _ _ _ _ => rfl)
    obtain ⟨⟨line, first⟩, others, rfl, rfl, behind⟩ := List.map_eq_cons_iff.mp lines
    obtain ⟨⟨line, skipped⟩, last, rfl, rfl, code⟩ := List.map_eq_cons_iff.mp behind
    obtain ⟨⟨line, second⟩, rfl, rfl⟩ := List.map_eq_singleton_iff.mp code
    exact ⟨after, loaded, first, second, gdt, finished, returned, memory⟩
  · exact absurd (mapsKernel_cooperates _ _ _) refuses

theorem anonymousLine_valid : KernelLines 64 [anonymousLine] := by
  refine ⟨?_, ?_, ?_, ?_, ?_⟩
  iterate 4 simpa using by decide
  exact List.pairwise_singleton _ _

theorem anonymousText_allParse :
    List.Forall₂ (fun text line => sscanfMaps text = some line) [anonymousText] [anonymousLine] :=
  .cons anonymousText_parses .nil

def anonymousRun (arch : Arch) (regs : arch.Regs) (state : List Byte) :
    Except Exit Unit × World arch :=
  (Snapshotter.dumpSnapshot (paintedEntry 0) zeroBuffer state 1).run
    (mapsKernel arch regs [anonymousText]).answer (.initial arch)

theorem anonymousRun_ok (arch : Arch) (regs : arch.Regs) (state : List Byte) :
    ∃ after content, anonymousRun arch regs state = (.ok (), after) ∧
      after.output = state ++ emitted (paintedEntry 0) [(anonymousLine, content)] := by
  obtain ⟨mappings, lines, _, runs⟩ := dumpSnapshot_output (mapsKernel arch regs [anonymousText])
    (.initial arch) (by decide : 1 < 2 ^ 31) zeroBuffer state anonymousText_allParse
  obtain ⟨⟨line, content⟩, rfl, rfl⟩ := List.map_eq_singleton_iff.mp lines
  rcases runs (paintedEntry 0) with ⟨after, finished, output, _⟩ | ⟨refuses, _⟩
  · exact ⟨after, content, finished, output⟩
  · exact absurd (mapsKernel_cooperates _ _ _) refuses

end ProcessBridge.Snapshot
