import ProcessBridge.Library.MemoryLookup
import ProcessBridge.Loader.Dump

/-! The functions the loader exports. Both end in `dump_snapshot`, one on the engine of
the caller and one on an engine of its own. -/

set_option autoImplicit false

namespace ProcessBridge.Loader

open Library Common Utilities

def pbRestoreSnapshot (level : LogLevel) (u : Unicorn) (uc : Engine) (file : SnapshotFile) :
    Except Halt (BitVec 64 × Engine) := do
  let (entryPoint, uc) ← dumpSnapshot level u uc file
  fatalIf (entryPoint = -1) "failed to dump snapshot"
  .ok (entryPoint, uc)

/-- `arch_mode_t`, as the numbers behind `uc_arch` and `uc_mode`. -/
structure ArchMode where
  arch : BitVec 32
  mode : BitVec 32
deriving DecidableEq, Repr

def ucArchX86 : BitVec 32 := 4

def UcMode.value : UcMode → BitVec 32
  | .mode16 => 2
  | .mode32 => 4
  | .mode64 => 8

def supportedArchModes : List ArchMode :=
  [⟨ucArchX86, UcMode.mode32.value⟩, ⟨ucArchX86, UcMode.mode64.value⟩]

/-- The engine pointer is set to `NULL` for an unsupported pair. An engine is opened
twice, and only the second one is ever used. -/
def pbCreateFromSnapshot (level : LogLevel) (u : Unicorn)
    (ucOpen : Nat → ArchMode → Except UcErr Engine) (archMode : ArchMode) (file : SnapshotFile) :
    Except Halt (BitVec 64 × Option Engine) :=
  if supportedArchModes.any (· = archMode) then do
    let _ ← pbUcCheck (ucOpen 0 archMode) "uc_open failed: %s"
    let uc ← pbUcCheck (ucOpen 1 archMode) "uc_open failed: %s"
    let (entryPoint, uc) ← pbRestoreSnapshot level u uc file
    .ok (entryPoint, some uc)
  else .ok (-1, none)

/-!
## Which processor states can be rebuilt
-/

namespace CpuState

/-- The matching `dump_gdt` takes the selectors. -/
def Accepted (state : CpuState) : Prop :=
  match state.mode with
  | .mode32 => I386.GdtAccepts state.i386
  | .mode64 => X8664.GdtAccepts state.x86_64.regs
  | .mode16 => False

def entryPoint (state : CpuState) : BitVec 64 :=
  match state.mode with
  | .mode32 => state.i386.regs.eip.setWidth 64
  | .mode64 => state.x86_64.regs.rip
  | .mode16 => -1

/-- The descriptor table that is built for the state. -/
def HasTable (state : CpuState) (table : GdtArray) : Prop :=
  match state.mode with
  | .mode32 => I386.fillGdt state.i386 = .ok table
  | .mode64 => table = X8664.gdtArray
  | .mode16 => False

theorem HasTable.unique {state : CpuState} {table other : GdtArray} (left : state.HasTable table)
    (right : state.HasTable other) : table = other := by
  unfold HasTable at left right
  cases mode : state.mode with
  | mode16 =>
      rw [mode] at left
      exact left.elim
  | mode32 =>
      rw [mode] at left right
      exact Except.ok.inj (left.symm.trans right)
  | mode64 =>
      rw [mode] at left right
      exact left.trans right.symm

/-- The processor takes the captured selectors. -/
def Taken (u : Unicorn) (uc : Engine) (state : CpuState) : Prop :=
  match state.mode with
  | .mode32 => ∀ table, I386.fillGdt state.i386 = .ok table →
      I386.EntersRing3 u uc state.i386.regs table
  | .mode64 => X8664.LoadsSelectors u state.x86_64.regs
  | .mode16 => False

theorem Taken.congr {u : Unicorn} {uc other : Engine} {state : CpuState} (taken : state.Taken u uc)
    (same : other.segment = uc.segment) : state.Taken u other := by
  unfold Taken at taken ⊢
  cases mode : state.mode with
  | mode16 =>
      rw [mode] at taken
      exact taken
  | mode32 =>
      rw [mode] at taken
      intro table filled
      have enters := taken table filled
      exact ⟨fun ready mode held segments => enters.iret ready mode held (segments.trans same),
        enters.data⟩
  | mode64 =>
      rw [mode] at taken
      exact taken

end CpuState

/-- The pages the loader uses itself are free. -/
structure PagesFree (mode : UcMode) (regions : List (Region UcProt Byte)) : Prop where
  gdt : ∀ region ∈ regions, region.Apart pbGdtAddr pbGdtSize
  trampoline : mode = .mode32 →
    ∀ region ∈ regions, region.Apart I386.pbTrampolineAddr I386.pbTrampolineSize

/-- The page a memory has gained was free before. -/
theorem apart_of_gained {memory : Memory} {front : List (Region UcProt Byte)}
    {last : Region UcProt Byte} (shape : memory.regions = front ++ [last]) :
    ∀ region ∈ front, region.Apart last.base last.data.length :=
  MemoryMap.front_apart shape le_rfl le_rfl

private theorem dumpI386CpuState_trampoline {u : Unicorn} {uc after : Engine}
    {state : LinuxI386ProcessState} {entry : BitVec 64}
    (returned : I386.dumpI386CpuState u uc state = .ok (entry, after)) :
    uc.memory.Free I386.pbTrampolineAddr I386.pbTrampolineSize := by
  obtain ⟨tabled, gdtOk, returned⟩ := bind_ok_iff.mp returned
  obtain ⟨written, regsOk, _⟩ := bind_ok_iff.mp returned
  obtain ⟨_, _, memory, rfl, shape⟩ := I386.dumpGdt_ok_inv gdtOk
  obtain ⟨staged, stagedShape, _⟩ := I386.dumpRegs_ok_inv regsOk
  have apart := apart_of_gained stagedShape
  rw [I386.trampolinePage_base, I386.trampolinePage_length] at apart
  intro region member
  refine apart region ?_
  change region ∈ memory.regions
  rw [shape]
  exact List.mem_append_left _ member

/-- Everything a returned `dump_cpu_state` says about the state it was given. -/
theorem dumpCpuState_inv {u : Unicorn} {uc after : Engine} {state : CpuState} {entry : BitVec 64}
    (supported : state.mode ≠ .mode16) (returned : dumpCpuState u uc state = .ok (entry, after)) :
    state.Accepted ∧ entry = state.entryPoint ∧ PagesFree state.mode uc.memory.regions ∧
      ∃ table, state.HasTable table ∧
        after.memory.regions = uc.memory.regions ++ [gdtRegion table] := by
  unfold dumpCpuState at returned
  unfold CpuState.Accepted CpuState.entryPoint CpuState.HasTable
  have gdt : ∀ {table}, after.memory.regions = uc.memory.regions ++ [gdtRegion table] →
      ∀ region ∈ uc.memory.regions, region.Apart pbGdtAddr pbGdtSize := by
    intro table shape
    have apart := apart_of_gained shape
    rwa [show (gdtRegion table).data.length = pbGdtSize from GdtArray.bytes_length table] at apart
  cases mode : state.mode with
  | mode16 => exact absurd mode supported
  | mode32 =>
      rw [mode] at returned
      obtain ⟨accepted, entered, _, table, filled, shape⟩ := I386.dumpI386CpuState_ok_inv returned
      exact ⟨accepted, entered, ⟨gdt shape, fun _ => dumpI386CpuState_trampoline returned⟩,
        table, filled, shape⟩
  | mode64 =>
      rw [mode] at returned
      obtain ⟨accepted, entered, _, shape⟩ := X8664.dumpX86_64CpuState_ok_inv returned
      exact ⟨accepted, entered, ⟨gdt shape, UcMode.noConfusion⟩, _, rfl, shape⟩

private theorem dumpCpuState_returns {u : Unicorn} {uc : Engine} {state : CpuState}
    (mode : uc.mode = state.mode) (accepted : state.Accepted) (taken : state.Taken u uc)
    (free : PagesFree state.mode uc.memory.regions) :
    ∃ after, dumpCpuState u uc state = .ok (state.entryPoint, after) := by
  unfold dumpCpuState CpuState.entryPoint
  unfold CpuState.Accepted at accepted
  unfold CpuState.Taken at taken
  cases which : state.mode with
  | mode16 =>
      rw [which] at accepted
      exact accepted.elim
  | mode32 =>
      rw [which] at accepted taken mode
      obtain ⟨table, filled⟩ := I386.fillGdt_ok_iff.mpr accepted
      exact I386.dumpI386CpuState_ok mode free.gdt (free.trampoline which) filled
        (taken table filled)
  | mode64 =>
      rw [which] at accepted taken mode
      exact X8664.dumpX86_64CpuState_ok mode free.gdt accepted taken

/-!
## Which files are restored
-/

variable {level : LogLevel}

/-- What a file has to be for an engine: the operating system gives all of it, it
decomposes into a process state and mappings whose paths the log can print,
these leave the loader's own pages free, and the state names segments the
loader knows and an address that is not the failure value. -/
structure Restorable (level : LogLevel) (uc : Engine) (file : SnapshotFile) (state : List Byte)
    (blocks : List Block) : Prop where
  sound : file.fault = none
  decomposes : Decomposes uc.memory (stateSize uc.mode) file.data state blocks
  printable : ∀ block ∈ blocks, Printable level block.header
  free : PagesFree uc.mode (uc.memory.regions ++ blocks.map Block.region)
  accepted : CpuState.Accepted ⟨uc.mode, state⟩
  entry : CpuState.entryPoint ⟨uc.mode, state⟩ ≠ -1

theorem Restorable.front {uc : Engine} {file : SnapshotFile} {state : List Byte}
    {blocks : List Block} (restorable : Restorable level uc file state blocks) :
    file.data.take (stateSize uc.mode) = state := by
  rw [restorable.decomposes.shape, ← restorable.decomposes.stateSize, List.take_left]

private theorem loadSnapshot_fault {uc : Engine} {file : SnapshotFile}
    {result : CpuState × LoadState}
    (returned : loadSnapshot level uc file = .ok result) : file.fault = none := by
  obtain ⟨_, opened, returned⟩ := bind_ok_iff.mp returned
  obtain ⟨_, stated, returned⟩ := bind_ok_iff.mp returned
  obtain ⟨_, _, returned⟩ := bind_ok_iff.mp returned
  obtain ⟨_, mapped, _⟩ := bind_ok_iff.mp returned
  rw [fatalIf_ok_iff] at opened stated mapped
  cases fault : file.fault with
  | none => rfl
  | some fault' =>
      cases fault' with
      | «open» => exact absurd fault opened
      | stat => exact absurd fault stated
      | mmap => exact absurd fault mapped

theorem SnapshotFile.eq_sound {file : SnapshotFile} (sound : file.fault = none) :
    file = .sound file.data := by
  cases file with
  | mk data fault =>
      cases sound
      rfl

theorem pbRestoreSnapshot_ok_iff {u : Unicorn} {uc after : Engine} {file : SnapshotFile}
    {entry : BitVec 64} :
    pbRestoreSnapshot level u uc file = .ok (entry, after) ↔
      dumpSnapshot level u uc file = .ok (entry, after) ∧ entry ≠ -1 := by
  unfold pbRestoreSnapshot
  cases dumpSnapshot level u uc file with
  | error halt =>
      rw [error_bind]
      simp
  | ok result =>
      obtain ⟨found, engine⟩ := result
      simp only [ok_bind, fatalIf]
      split
      · next failed =>
          rw [error_bind]
          simp only [reduceCtorEq, false_iff, not_and, not_not, Except.ok.injEq, Prod.mk.injEq]
          rintro ⟨rfl, _⟩
          exact failed
      · next fine =>
          rw [ok_bind]
          simp only [Except.ok.injEq, Prod.mk.injEq]
          constructor
          · rintro ⟨rfl, rfl⟩
            exact ⟨⟨rfl, rfl⟩, fine⟩
          · exact And.left

theorem pbRestoreSnapshot_inv {u : Unicorn} {uc after : Engine} {file : SnapshotFile}
    {entry : BitVec 64} (supported : uc.mode ≠ .mode16)
    (returned : pbRestoreSnapshot level u uc file = .ok (entry, after)) :
    ∃ state blocks table, Restorable level uc file state blocks ∧
      entry = CpuState.entryPoint ⟨uc.mode, state⟩ ∧ CpuState.HasTable ⟨uc.mode, state⟩ table ∧
      after.memory.regions = uc.memory.regions ++ blocks.map Block.region ++ [gdtRegion table] := by
  obtain ⟨dumped, valid⟩ := pbRestoreSnapshot_ok_iff.mp returned
  obtain ⟨⟨cpuState, loaded⟩, read, rebuilt⟩ := bind_ok_iff.mp dumped
  have sound := loadSnapshot_fault read
  rw [SnapshotFile.eq_sound sound] at read
  obtain ⟨state, blocks, decomposed, printable, rfl, loads⟩ :=
    decomposes_of_loadSnapshot supported read
  obtain ⟨accepted, rfl, free, table, built, shape⟩ := dumpCpuState_inv supported rebuilt
  rw [loads.memory] at free shape
  exact ⟨state, blocks, table, ⟨sound, decomposed, printable, free, accepted, valid⟩, rfl, built,
    shape⟩

theorem pbRestoreSnapshot_of_restorable {u : Unicorn} {uc : Engine} {file : SnapshotFile}
    {state : List Byte} {blocks : List Block} (supported : uc.mode ≠ .mode16)
    (restorable : Restorable level uc file state blocks)
    (taken : CpuState.Taken u uc ⟨uc.mode, state⟩) :
    ∃ after, pbRestoreSnapshot level u uc file =
      .ok (CpuState.entryPoint ⟨uc.mode, state⟩, after) := by
  obtain ⟨loaded, read, loads⟩ :=
    loadSnapshot_of_decomposes supported restorable.decomposes restorable.printable
  have segments : loaded.uc.segment = uc.segment := by rw [loads.uc]
  have mode : loaded.uc.mode = uc.mode := by rw [loads.uc]
  have free := restorable.free
  rw [← loads.memory] at free
  obtain ⟨after, rebuilt⟩ := dumpCpuState_returns mode restorable.accepted (taken.congr segments)
    free
  refine ⟨after, pbRestoreSnapshot_ok_iff.mpr ⟨?_, restorable.entry⟩⟩
  rw [dumpSnapshot, SnapshotFile.eq_sound restorable.sound, read]
  exact rebuilt

/-- Exactness of the whole loader. `pb_restore_snapshot` returns for exactly the files
that are restorable, provided the processor takes their selectors; it returns
the captured instruction pointer, and the engine has gained the mappings of the
file and the page of the descriptor table, behind everything it had. -/
theorem pbRestoreSnapshot_exact (level : LogLevel) (u : Unicorn) (uc : Engine)
    (file : SnapshotFile) (supported : uc.mode ≠ .mode16)
    (taken : CpuState.Taken u uc ⟨uc.mode, file.data.take (stateSize uc.mode)⟩) :
    ((∃ result, pbRestoreSnapshot level u uc file = .ok result) ↔
      ∃ state blocks, Restorable level uc file state blocks) ∧
    ∀ entry after, pbRestoreSnapshot level u uc file = .ok (entry, after) →
      ∃ state blocks table, Restorable level uc file state blocks ∧
        entry = CpuState.entryPoint ⟨uc.mode, state⟩ ∧ CpuState.HasTable ⟨uc.mode, state⟩ table ∧
        after.memory.regions =
          uc.memory.regions ++ blocks.map Block.region ++ [gdtRegion table] := by
  refine ⟨⟨?_, ?_⟩, fun entry after => pbRestoreSnapshot_inv supported⟩
  · intro returned
    obtain ⟨⟨entry, after⟩, returned⟩ := returned
    obtain ⟨state, blocks, _, restorable, _⟩ := pbRestoreSnapshot_inv supported returned
    exact ⟨state, blocks, restorable⟩
  · intro given
    obtain ⟨state, blocks, restorable⟩ := given
    rw [restorable.front] at taken
    obtain ⟨after, returned⟩ := pbRestoreSnapshot_of_restorable supported restorable taken
    exact ⟨_, returned⟩

/-- A page of zeros somewhere else, under a path of its own. -/
def otherPage : Block where
  header :=
    { start := 0x20000, «end» := 0x21000, read := 4, write := 0, exec := 0, shared := 1,
      fileOffset := 0x7000, path := 0x2F :: 0x61 :: List.replicate (maxPath - 2) 0,
      pathSize := by rw [List.length_cons, List.length_cons, List.length_replicate]; rfl }
  content := List.replicate 0x1000 0
  exact := by rw [List.length_replicate]; rfl

private theorem pages_printable (level : LogLevel) :
    ∀ block ∈ [zeroPage, otherPage], Printable level block.header := by
  have zero : (0 : Byte) ∈ zeroPage.header.path := List.mem_replicate.mpr ⟨by decide, rfl⟩
  have other : (0 : Byte) ∈ otherPage.header.path :=
    List.mem_cons_of_mem _ (List.mem_cons_of_mem _ (List.mem_replicate.mpr ⟨by decide, rfl⟩))
  intro block member debug
  rcases List.mem_pair.mp member with rfl | rfl
  · exact zero
  · exact other

private theorem pages_restorable (level : LogLevel) :
    Restorable level (.opened .mode64)
      (.sound (flatX86_64State.bytes ++ blocksBytes [zeroPage, otherPage])) flatX86_64State.bytes
      [zeroPage, otherPage] := by
  have zeroSize : zeroPage.header.mappingSize = 0x1000 := rfl
  have otherSize : otherPage.header.mappingSize = 0x1000 := rfl
  have zeroStart : zeroPage.header.start.toNat = 0x10000 := rfl
  have otherStart : otherPage.header.start.toNat = 0x20000 := rfl
  have apart : zeroPage.region.Disjoint otherPage.region := by
    rw [Block.disjoint_iff_apart, Region.Apart, Block.region_limit, zeroSize, zeroStart, otherStart]
    decide
  refine ⟨rfl, ⟨?_, rfl, ?_, ?_, ?_, ?_, ?_, ?_⟩, pages_printable _, ⟨?_, UcMode.noConfusion⟩, ?_,
    ?_⟩
  · intro empty
    have length := congrArg List.length (List.append_eq_nil_iff.mp empty).1
    rw [flatX86_64State.bytes_length] at length
    cases length
  · exact flatX86_64State.bytes_length
  · simp [zeroSize, otherSize]
  · simp [zeroStart, otherStart]
  · simp [zeroSize, otherSize, zeroStart, otherStart]
  · exact fun _ _ => Engine.opened_free .mode64 _ _
  · simpa using apart
  · have zero : zeroPage.region.Apart pbGdtAddr pbGdtSize := .inl (by decide)
    have other : otherPage.region.Apart pbGdtAddr pbGdtSize := .inl (by decide)
    simpa [Engine.opened, MemoryMap.empty] using ⟨zero, other⟩
  · change X8664.GdtAccepts (LinuxX86_64ProcessState.ofBytes flatX86_64State.bytes).regs
    rw [LinuxX86_64ProcessState.ofBytes_bytes]
    exact flatX86_64State_accepted
  · change (LinuxX86_64ProcessState.ofBytes flatX86_64State.bytes).regs.rip ≠ -1
    rw [LinuxX86_64ProcessState.ofBytes_bytes]
    decide

theorem pages_restored (level : LogLevel) :
    ∃ after, pbRestoreSnapshot level .lenient (.opened .mode64)
      (.sound (flatX86_64State.bytes ++ blocksBytes [zeroPage, otherPage])) =
        .ok (CpuState.entryPoint ⟨.mode64, flatX86_64State.bytes⟩, after) :=
  pbRestoreSnapshot_of_restorable UcMode.noConfusion (pages_restorable level) fun _ _ _ _ => rfl

theorem pbRestoreSnapshot_exact_pages :
    ∃ result, pbRestoreSnapshot .debug .lenient (.opened .mode64)
      (.sound (flatX86_64State.bytes ++ blocksBytes [zeroPage, otherPage])) = .ok result :=
  (pbRestoreSnapshot_exact .debug .lenient (.opened .mode64) _ UcMode.noConfusion
    fun _ _ _ _ => rfl).1.mpr ⟨_, _, pages_restorable _⟩

/-!
## Restoring once
-/

private theorem dumpCpuState_gdtMapped {u : Unicorn} {uc : Engine} {state : CpuState}
    (supported : state.mode ≠ .mode16) (mapped : ¬ uc.memory.Free pbGdtAddr pbGdtSize) :
    ∃ message, dumpCpuState u uc state = .error (.fatal message) := by
  have refused : ucMemMap uc pbGdtAddr pbGdtSize ⟨true, true, false⟩ = .error .map := by
    rcases ucMemMap_cases uc pbGdtAddr pbGdtSize ⟨true, true, false⟩ with ⟨free, _⟩ | ⟨_, failed⟩
    · exact absurd free.2.2.2.2 mapped
    · exact failed
  unfold dumpCpuState
  cases mode : state.mode with
  | mode16 => exact absurd mode supported
  | mode32 =>
      refine ⟨"failed to map gdt: %s", ?_⟩
      simp only [I386.dumpI386CpuState, I386.dumpGdt, refused, pbUcCheck, error_bind]
  | mode64 =>
      refine ⟨"failed to map gdt: %s", ?_⟩
      simp only [X8664.dumpX86_64CpuState, X8664.dumpGdt, refused, pbUcCheck, error_bind]

private theorem not_free_of_mapped {memory : Memory} (mapped : memory.lookup pbGdtAddr ≠ none) :
    ¬ memory.Free pbGdtAddr pbGdtSize := by
  intro free
  refine mapped (MemoryMap.lookup_eq_none_iff.mpr ?_)
  intro region member inside
  have positive : 0 < pbGdtSize := by decide
  have apart := free region member
  simp only [Region.Apart, Region.Contains] at apart inside
  omega

private theorem loadSnapshot_mode16 {uc : Engine} {file : SnapshotFile}
    {result : CpuState × LoadState}
    (mode : uc.mode = .mode16) : loadSnapshot level uc file ≠ .ok result := by
  intro returned
  obtain ⟨_, _, returned⟩ := bind_ok_iff.mp returned
  obtain ⟨_, _, returned⟩ := bind_ok_iff.mp returned
  obtain ⟨_, _, returned⟩ := bind_ok_iff.mp returned
  obtain ⟨_, _, returned⟩ := bind_ok_iff.mp returned
  obtain ⟨_, read, _⟩ := bind_ok_iff.mp returned
  rw [mode] at read
  cases read

/-- No file is loaded into an engine in which the page of the table is taken. -/
theorem dumpSnapshot_gdtMapped (level : LogLevel) (u : Unicorn) {uc : Engine}
    (file : SnapshotFile) (mapped : uc.memory.lookup pbGdtAddr ≠ none) :
    (∀ result, dumpSnapshot level u uc file ≠ .ok result) ∧
    (FilePrintable level uc file.data →
      ∃ message, dumpSnapshot level u uc file = .error (.fatal message)) := by
  unfold dumpSnapshot
  cases read : loadSnapshot level uc file with
  | error halt =>
      refine ⟨fun result => by simp, fun inside => ?_⟩
      obtain ⟨message, rfl⟩ := loadSnapshot_fatalOnly inside halt read
      exact ⟨message, rfl⟩
  | ok result =>
      obtain ⟨cpuState, loaded⟩ := result
      have supported : uc.mode ≠ .mode16 := fun mode => loadSnapshot_mode16 mode read
      rw [SnapshotFile.eq_sound (loadSnapshot_fault read)] at read
      obtain ⟨state, blocks, _, _, rfl, loads⟩ := decomposes_of_loadSnapshot supported read
      have taken : ¬ loaded.uc.memory.Free pbGdtAddr pbGdtSize := by
        refine fun free => not_free_of_mapped mapped fun region member => free region ?_
        rw [loads.memory]
        exact List.mem_append_left _ member
      obtain ⟨message, refused⟩ : ∃ message,
          dumpCpuState u loaded.uc ⟨uc.mode, state⟩ = .error (.fatal message) :=
        dumpCpuState_gdtMapped supported taken
      rw [ok_bind]
      constructor
      · intro result returned
        cases refused.symm.trans returned
      · exact fun _ => ⟨message, refused⟩

/-- An engine takes one snapshot in its life. Once a file is restored, every further
file is refused, whatever ran in between, as long as what is mapped stays
mapped; the refusal is fatal, unless the debug log has run past a path before. -/
theorem pbRestoreSnapshot_once (level : LogLevel) (u : Unicorn) (uc after : Engine)
    (file : SnapshotFile) (entry : BitVec 64)
    (restored : pbRestoreSnapshot level u uc file = .ok (entry, after)) (later : Engine)
    (kept : ∀ address, after.memory.lookup address ≠ none → later.memory.lookup address ≠ none)
    (again : SnapshotFile) :
    (∀ result, pbRestoreSnapshot level u later again ≠ .ok result) ∧
    (FilePrintable level later again.data →
      ∃ message, pbRestoreSnapshot level u later again = .error (.fatal message)) := by
  obtain ⟨dumped, _⟩ := pbRestoreSnapshot_ok_iff.mp restored
  obtain ⟨⟨cpuState, loaded⟩, read, _⟩ := bind_ok_iff.mp dumped
  have supported : uc.mode ≠ .mode16 := fun mode => loadSnapshot_mode16 mode read
  obtain ⟨_, _, table, _, _, _, shape⟩ := pbRestoreSnapshot_inv supported restored
  have mapped : after.memory.lookup pbGdtAddr ≠ none := by
    intro missing
    have member : gdtRegion table ∈ after.memory.regions := by simp [shape]
    refine MemoryMap.lookup_eq_none_iff.mp missing _ member ⟨le_rfl, ?_⟩
    simp [Region.limit, gdtRegion, pbGdtSize]
  obtain ⟨never, fatal⟩ := dumpSnapshot_gdtMapped level u again (kept _ mapped)
  constructor
  · intro result returned
    exact never _ (pbRestoreSnapshot_ok_iff.mp returned).1
  · intro inside
    obtain ⟨message, refused⟩ := fatal inside
    rw [pbRestoreSnapshot, refused]
    exact ⟨message, rfl⟩

theorem pbRestoreSnapshot_once_pages :
    ∃ entry after message, pbRestoreSnapshot .info .lenient (.opened .mode64)
        (.sound (flatX86_64State.bytes ++ blocksBytes [zeroPage, otherPage])) =
          .ok (entry, after) ∧
      pbRestoreSnapshot .info .lenient after
        (.sound (flatX86_64State.bytes ++ blocksBytes [zeroPage, otherPage])) =
          .error (.fatal message) := by
  obtain ⟨after, returned⟩ := pages_restored .info
  obtain ⟨message, refused⟩ := (pbRestoreSnapshot_once .info .lenient _ after _ _ returned after
    (fun _ mapped => mapped) _).2 LogLevel.noConfusion
  exact ⟨_, after, message, returned, refused⟩

/-!
## The order of the mappings
-/

theorem blocksBytes_injective {blocks others : List Block}
    (same : blocksBytes blocks = blocksBytes others) : blocks = others := by
  induction blocks generalizing others with
  | nil =>
      cases others with
      | nil => rfl
      | cons other rest =>
          have length := congrArg List.length same
          have positive := other.bytes_length_lower
          simp only [blocksBytes, List.flatMap_nil, List.length_nil, List.flatMap_cons,
            List.length_append] at length
          omega
  | cons block rest ih =>
      cases others with
      | nil =>
          have length := congrArg List.length same
          have positive := block.bytes_length_lower
          simp only [blocksBytes, List.flatMap_nil, List.length_nil, List.flatMap_cons,
            List.length_append] at length
          omega
      | cons other others =>
          simp only [blocksBytes, List.flatMap_cons] at same
          have here : StartsWith (block.bytes ++ rest.flatMap Block.bytes) 0 block :=
            startsWith_iff.mpr ⟨_, rfl⟩
          obtain rfl : block = other := here.unique (startsWith_iff.mpr ⟨_, same⟩)
          rw [ih (List.append_cancel_left same)]

/-- Files whose blocks give the same regions in another order are restorable together. The
headers may differ in what the loader does not use: the path, the offset in the
mapped file, whether the mapping was shared, and how a permission is spelled. -/
theorem Restorable.perm {uc : Engine} {data : List Byte} {state : List Byte}
    {blocks others : List Block} (restorable : Restorable level uc (.sound data) state blocks)
    (perm : (blocks.map Block.region).Perm (others.map Block.region))
    (printable : ∀ other ∈ others, Printable level other.header) :
    Restorable level uc (.sound (state ++ blocksBytes others)) state others := by
  have decomposes := restorable.decomposes
  have placed : ∀ other ∈ others, ∃ block ∈ blocks,
      block.header.start.toNat = other.header.start.toNat ∧
        block.header.mappingSize = other.header.mappingSize := by
    intro other member
    obtain ⟨block, old, same⟩ := List.mem_map.mp (perm.mem_iff.mpr (List.mem_map_of_mem member))
    refine ⟨block, old, congrArg Region.base same, ?_⟩
    have content := congrArg (fun region => region.data.length) same
    exact block.exact.symm.trans (content.trans other.exact)
  refine ⟨rfl, ⟨?_, rfl, decomposes.stateSize, ?_, ?_, ?_, ?_, ?_⟩, printable, ⟨?_, ?_⟩,
    restorable.accepted, restorable.entry⟩
  · intro empty
    obtain ⟨noState, noBlocks⟩ := List.append_eq_nil_iff.mp empty
    obtain rfl : others = [] := blocksBytes_injective noBlocks
    obtain rfl : blocks = [] := by simpa using perm.eq_nil
    refine decomposes.nonempty ?_
    rw [decomposes.shape, noState]
    rfl
  · intro other member
    obtain ⟨block, old, start, size⟩ := placed other member
    rw [← size]
    exact decomposes.sizes block old
  · intro other member
    obtain ⟨block, old, start, size⟩ := placed other member
    rw [← start]
    exact decomposes.aligned block old
  · intro other member
    obtain ⟨block, old, start, size⟩ := placed other member
    rw [← start, ← size]
    exact decomposes.bounded block old
  · intro other member
    obtain ⟨block, old, start, size⟩ := placed other member
    rw [← start, ← size]
    exact decomposes.fresh block old
  · have apart := decomposes.apart
    rw [← List.pairwise_map] at apart ⊢
    exact (perm.pairwise_iff fun disjoint => disjoint.symm).mp apart
  · intro region member
    exact restorable.free.gdt region ((perm.append_left _).mem_iff.mpr member)
  · intro mode region member
    exact restorable.free.trampoline mode region ((perm.append_left _).mem_iff.mpr member)

/-- The order of the mappings in a file does not matter, nor does anything in a header
but the range and the permissions, as long as the log can print the path:
another such file is restored as well, to the same entry point and to a memory
that holds the same at every address. -/
theorem pbRestoreSnapshot_perm (level : LogLevel) (u : Unicorn) (uc after : Engine)
    (state : List Byte) (blocks others : List Block) (entry : BitVec 64) (supported : uc.mode ≠ .mode16)
    (size : state.length = stateSize uc.mode) (taken : CpuState.Taken u uc ⟨uc.mode, state⟩)
    (perm : (blocks.map Block.region).Perm (others.map Block.region))
    (printable : ∀ other ∈ others, Printable level other.header)
    (restored : pbRestoreSnapshot level u uc (.sound (state ++ blocksBytes blocks)) =
      .ok (entry, after)) :
    ∃ again, pbRestoreSnapshot level u uc (.sound (state ++ blocksBytes others)) =
      .ok (entry, again) ∧ again.memory.Same after.memory := by
  obtain ⟨found, parts, table, restorable, rfl, built, shape⟩ :=
    pbRestoreSnapshot_inv supported restored
  obtain ⟨rfl, bytes⟩ : state = found ∧ blocksBytes blocks = blocksBytes parts :=
    List.append_inj restorable.decomposes.shape (size.trans restorable.decomposes.stateSize.symm)
  obtain rfl := blocksBytes_injective bytes
  have other := restorable.perm perm printable
  obtain ⟨again, returned⟩ := pbRestoreSnapshot_of_restorable supported other taken
  refine ⟨again, returned, ?_⟩
  obtain ⟨found, parts, second, restorable', _, built', shape'⟩ :=
    pbRestoreSnapshot_inv supported returned
  obtain ⟨rfl, bytes⟩ : state = found ∧ blocksBytes others = blocksBytes parts :=
    List.append_inj restorable'.decomposes.shape (size.trans restorable'.decomposes.stateSize.symm)
  obtain rfl := blocksBytes_injective bytes
  obtain rfl := built.unique built'
  apply MemoryMap.Same.of_perm
  rw [shape, shape']
  exact ((perm.symm.append_left _).append_right _)

theorem pbRestoreSnapshot_perm_pages :
    ∃ entry after again,
      pbRestoreSnapshot .debug .lenient (.opened .mode64)
        (.sound (flatX86_64State.bytes ++ blocksBytes [zeroPage, otherPage])) =
          .ok (entry, after) ∧
      pbRestoreSnapshot .debug .lenient (.opened .mode64)
        (.sound (flatX86_64State.bytes ++ blocksBytes [otherPage, zeroPage])) =
          .ok (entry, again) ∧ again.memory.Same after.memory := by
  obtain ⟨after, returned⟩ := pages_restored .debug
  have printable : ∀ other ∈ [otherPage, zeroPage], Printable .debug other.header :=
    fun other member => pages_printable .debug other (by simpa [or_comm] using member)
  obtain ⟨again, restored, same⟩ := pbRestoreSnapshot_perm .debug .lenient (.opened .mode64) after
    flatX86_64State.bytes [zeroPage, otherPage] [otherPage, zeroPage] _ UcMode.noConfusion
    flatX86_64State.bytes_length (fun _ _ _ _ => rfl) (List.Perm.swap _ _ _) printable returned
  exact ⟨_, after, again, returned, restored, same⟩

/-!
## Where the engine comes from
-/

theorem pbRestoreSnapshot_entry {u : Unicorn} {uc after : Engine} {file : SnapshotFile}
    {entry : BitVec 64} (returned : pbRestoreSnapshot level u uc file = .ok (entry, after)) :
    entry ≠ -1 :=
  (pbRestoreSnapshot_ok_iff.mp returned).2

/-- `uc_open` gives an engine of the requested mode with nothing mapped. -/
def OpensEmpty (ucOpen : Nat → ArchMode → Except UcErr Engine) : Prop :=
  ∀ count archMode uc, ucOpen count archMode = .ok uc →
    uc.mode.value = archMode.mode ∧ uc.memory.regions = []

theorem supportedArchModes_any_iff {archMode : ArchMode} :
    supportedArchModes.any (· = archMode) = true ↔ archMode ∈ supportedArchModes := by
  rw [List.any_eq_true]
  constructor
  · intro found
    obtain ⟨pair, member, same⟩ := found
    obtain rfl : pair = archMode := of_decide_eq_true same
    exact member
  · intro member
    exact ⟨archMode, member, decide_eq_true rfl⟩

private theorem supportedArchModes_value {archMode : ArchMode} {mode : UcMode}
    (supported : archMode ∈ supportedArchModes) (value : mode.value = archMode.mode) :
    mode ≠ .mode16 := by
  rintro rfl
  simp only [supportedArchModes, List.mem_cons, List.not_mem_nil, or_false] at supported
  rcases supported with rfl | rfl
  · cases value
  · cases value

/-- What `pb_create_from_snapshot` hands back. The failure value comes with no engine and
stands for an unsupported pair only; every other return value comes with an
engine that holds the file and nothing else. -/
theorem pbCreateFromSnapshot_returns (level : LogLevel) (u : Unicorn)
    (ucOpen : Nat → ArchMode → Except UcErr Engine) (opens : OpensEmpty ucOpen)
    (archMode : ArchMode) (file : SnapshotFile) (entry : BitVec 64) (engine : Option Engine)
    (returned : pbCreateFromSnapshot level u ucOpen archMode file = .ok (entry, engine)) :
    (entry = -1 ↔ archMode ∉ supportedArchModes) ∧
    (engine = none ↔ archMode ∉ supportedArchModes) ∧
    ∀ after, engine = some after →
      ∃ opened state blocks table, ucOpen 1 archMode = .ok opened ∧
        Restorable level opened file state blocks ∧ entry = CpuState.entryPoint ⟨opened.mode, state⟩ ∧
        CpuState.HasTable ⟨opened.mode, state⟩ table ∧
        after.memory.regions = blocks.map Block.region ++ [gdtRegion table] := by
  unfold pbCreateFromSnapshot at returned
  split at returned
  · next chosen =>
      have supported := supportedArchModes_any_iff.mp chosen
      obtain ⟨_, _, returned⟩ := bind_ok_iff.mp returned
      obtain ⟨opened, opening, returned⟩ := bind_ok_iff.mp returned
      obtain ⟨⟨found, after⟩, restored, returned⟩ := bind_ok_iff.mp returned
      cases returned
      rw [pbUcCheck_ok_iff] at opening
      obtain ⟨value, empty⟩ := opens 1 archMode opened opening
      have failed := pbRestoreSnapshot_entry restored
      refine ⟨?_, ?_, ?_⟩
      · exact iff_of_false failed fun unsupported => unsupported supported
      · exact iff_of_false (Option.some_ne_none _) fun unsupported => unsupported supported
      · intro other same
        cases same
        obtain ⟨state, blocks, table, restorable, entered, built, shape⟩ :=
          pbRestoreSnapshot_inv (supportedArchModes_value supported value) restored
        rw [empty, List.nil_append] at shape
        exact ⟨opened, state, blocks, table, opening, restorable, entered, built, shape⟩
  · next refused =>
      cases returned
      have unsupported : archMode ∉ supportedArchModes :=
        fun member => refused (supportedArchModes_any_iff.mpr member)
      refine ⟨?_, ?_, ?_⟩
      · exact iff_of_true rfl unsupported
      · exact iff_of_true rfl unsupported
      · intro after same
        cases same

def openingUnicorn (_count : Nat) (archMode : ArchMode) : Except UcErr Engine :=
  if archMode = ⟨ucArchX86, UcMode.mode64.value⟩ then .ok (.opened .mode64) else .error .nomem

private theorem openingUnicorn_opensEmpty : OpensEmpty openingUnicorn := by
  intro count archMode uc opened
  unfold openingUnicorn at opened
  split at opened
  · next same =>
      cases opened
      cases same
      exact ⟨rfl, rfl⟩
  · cases opened

theorem pbCreateFromSnapshot_returns_pages :
    ∃ entry after, pbCreateFromSnapshot .debug .lenient openingUnicorn
        ⟨ucArchX86, UcMode.mode64.value⟩
        (.sound (flatX86_64State.bytes ++ blocksBytes [zeroPage, otherPage])) =
          .ok (entry, some after) ∧ entry ≠ -1 := by
  obtain ⟨after, restored⟩ := pages_restored .debug
  obtain ⟨entry, returned⟩ : ∃ entry, pbCreateFromSnapshot .debug .lenient openingUnicorn
      ⟨ucArchX86, UcMode.mode64.value⟩
      (.sound (flatX86_64State.bytes ++ blocksBytes [zeroPage, otherPage])) =
        .ok (entry, some after) := by
    refine ⟨CpuState.entryPoint ⟨.mode64, flatX86_64State.bytes⟩, ?_⟩
    have supported : supportedArchModes.any (· = ⟨ucArchX86, UcMode.mode64.value⟩) = true := by decide
    have opened : ∀ count, openingUnicorn count ⟨ucArchX86, UcMode.mode64.value⟩ =
        .ok (.opened .mode64) := fun _ => rfl
    rw [pbCreateFromSnapshot, if_pos supported, opened, opened, pbUcCheck, ok_bind, ok_bind, restored]
    rfl
  have exact := pbCreateFromSnapshot_returns .debug .lenient openingUnicorn openingUnicorn_opensEmpty
    _ _ _ _ returned
  exact ⟨entry, after, returned, fun failed => exact.1.mp failed (by decide)⟩

end ProcessBridge.Loader
