import ProcessBridge.Snapshot.RoundTrip

/-! Snapshot files that end early. The loader sees the end of the file only where it
looks for the next block, so it accepts a file that stops between two blocks. -/

set_option autoImplicit false

namespace ProcessBridge.Snapshot

open Library Common Utilities Snapshotter Loader

variable {level : LogLevel}

/-- Blocks at the beginning of what was emitted are blocks that were emitted. -/
theorem emitted_prefix (stale : MapsEntry) {mappings : List (MapsLine × List Byte)}
    (sizes : ∀ mapping ∈ mappings, mapping.2.length = mapping.1.mappingSize) {blocks : List Block}
    {rest : List Byte} (same : emitted stale mappings = blocksBytes blocks ++ rest) :
    ∃ count, blocksBytes blocks = emitted stale (mappings.take count) := by
  induction mappings generalizing stale blocks with
  | nil =>
      refine ⟨0, ?_⟩
      have nothing := List.append_eq_nil_iff.mp same.symm
      exact nothing.1
  | cons mapping others ih =>
      obtain ⟨line, content⟩ := mapping
      obtain ⟨size, sizes⟩ := List.forall_mem_cons.mp sizes
      cases special : line.special with
      | true =>
          rw [emitted, if_pos special, List.nil_append] at same
          obtain ⟨count, shape⟩ := ih (fillEntry stale line) sizes same
          refine ⟨count + 1, ?_⟩
          rw [shape, List.take_succ_cons, emitted, if_pos special, List.nil_append]
      | false =>
          have written : ¬ line.special = true := by simp [special]
          cases blocks with
          | nil => exact ⟨0, rfl⟩
          | cons block blocks =>
              have own : StartsWith (emitted stale ((line, content) :: others)) 0
                  ⟨fillEntry stale line, content, size⟩ := by
                refine startsWith_iff.mpr ⟨emitted (fillEntry stale line) others, ?_⟩
                rw [emitted, if_neg written]
                rfl
              have found : StartsWith (emitted stale ((line, content) :: others)) 0 block := by
                refine startsWith_iff.mpr ⟨blocksBytes blocks ++ rest, ?_⟩
                rw [same, blocksBytes, List.flatMap_cons, List.append_assoc]
                rfl
              obtain rfl := found.unique own
              have behind : (fillEntry stale line).bytes ++ content ++
                  emitted (fillEntry stale line) others =
                  (fillEntry stale line).bytes ++ content ++ (blocksBytes blocks ++ rest) := by
                simpa only [emitted, if_neg written, blocksBytes, List.flatMap_cons, Block.bytes,
                  List.append_assoc] using same
              obtain ⟨count, shape⟩ := ih (fillEntry stale line) sizes
                (List.append_cancel_left behind)
              refine ⟨count + 1, ?_⟩
              rw [List.take_succ_cons, emitted, if_neg written, ← shape]
              rfl

private theorem emitted_take (stale : MapsEntry) (mappings : List (MapsLine × List Byte))
    (count : Nat) :
    (emitted stale mappings).take (emitted stale (mappings.take count)).length =
      emitted stale (mappings.take count) := by
  have starts : ∃ rest, emitted stale mappings = emitted stale (mappings.take count) ++ rest := by
    induction mappings generalizing stale count with
    | nil => exact ⟨[], by simp [emitted]⟩
    | cons mapping others ih =>
        obtain ⟨line, content⟩ := mapping
        cases count with
        | zero => exact ⟨_, rfl⟩
        | succ count =>
            obtain ⟨rest, shape⟩ := ih (fillEntry stale line) count
            refine ⟨rest, ?_⟩
            rw [List.take_succ_cons, emitted, emitted, shape, List.append_assoc]
  obtain ⟨rest, shape⟩ := starts
  rw [shape, List.take_left]

/-- The place right behind the process state and what was written for the first lines. -/
def boundary (state : List Byte) (stale : MapsEntry) (mappings : List (MapsLine × List Byte))
    (count : Nat) : Nat :=
  state.length + (emitted stale (mappings.take count)).length

theorem take_boundary (state : List Byte) (stale : MapsEntry)
    (mappings : List (MapsLine × List Byte)) (count : Nat) :
    (state ++ emitted stale mappings).take (boundary state stale mappings count) =
      state ++ emitted stale (mappings.take count) := by
  rw [boundary, List.take_length_add_append, emitted_take]

/-- The log can print whatever a cut leaves of the file. -/
theorem printable_cut {uc : Engine} {state : List Byte} (length : state.length = stateSize uc.mode)
    (stale : MapsEntry) {mappings : List (MapsLine × List Byte)}
    (sizes : ∀ mapping ∈ mappings, mapping.2.length = mapping.1.mappingSize) (cut : Nat) :
    FilePrintable level uc ((state ++ emitted stale mappings).take cut) := by
  obtain ⟨blocks, same, _, ended⟩ := emitted_blocks stale sizes
  have left : ((state ++ emitted stale mappings).take cut).drop (stateSize uc.mode) =
      (blocksBytes blocks).take (cut - stateSize uc.mode) := by
    rw [List.drop_take, ← length, List.drop_left, same]
  have printable : ∀ block ∈ blocks, Printable level block.header :=
    fun block member _ => ended block member
  rw [FilePrintable, left]
  exact logsInside_of_printable printable (List.take_append_drop _ _).symm _

/-- Whatever the loader gets through is a file cut between blocks, and the blocks before
the cut found their place. -/
theorem loadSnapshot_cut_inv {uc : Engine} (supported : uc.mode ≠ .mode16) {state : List Byte}
    (length : state.length = stateSize uc.mode) {stale : MapsEntry}
    {mappings : List (MapsLine × List Byte)}
    (sizes : ∀ mapping ∈ mappings, mapping.2.length = mapping.1.mappingSize) {cut : Nat}
    (inside : cut < (state ++ emitted stale mappings).length) {cpuState : CpuState}
    {final : LoadState}
    (returned : loadSnapshot level uc (.sound ((state ++ emitted stale mappings).take cut)) =
      .ok (cpuState, final)) :
    cpuState = ⟨uc.mode, state⟩ ∧ (∃ back, final.uc.memory.regions = uc.memory.regions ++ back) ∧
      ∃ count, cut = boundary state stale mappings count ∧
        ∀ mapping ∈ kept (mappings.take count),
          uc.memory.Free mapping.1.start.toNat mapping.1.mappingSize := by
  obtain ⟨front, blocks, decomposed, _, rfl, loaded⟩ :=
    decomposes_of_loadSnapshot supported returned
  have shape := decomposed.shape
  have enough : state.length ≤ cut := by
    have taken := congrArg List.length shape
    simp only [List.length_take, List.length_append, decomposed.stateSize] at taken inside
    omega
  obtain ⟨extra, rfl⟩ := Nat.exists_eq_add_of_le enough
  have sameSize : state.length = front.length := by rw [length, decomposed.stateSize]
  rw [List.take_length_add_append] at shape
  obtain ⟨rfl, full⟩ := List.append_inj shape sameSize
  obtain ⟨count, same⟩ := emitted_prefix stale sizes
    (by rw [← full, List.take_append_drop])
  refine ⟨rfl, ⟨_, loaded.memory⟩, count, ?_, ?_⟩
  · rw [List.length_append] at inside
    rw [boundary, ← same, ← full, List.length_take]
    omega
  · have fewer : ∀ mapping ∈ mappings.take count, mapping.2.length = mapping.1.mappingSize :=
      fun mapping member => sizes mapping (List.mem_of_mem_take member)
    obtain ⟨others, emittedBlocks, regions, _⟩ := emitted_blocks stale fewer
    obtain rfl := blocksBytes_injective (same.trans emittedBlocks)
    intro mapping member
    have listed : lineRegion mapping ∈ blocks.map Block.region := by
      rw [regions]
      exact List.mem_map_of_mem member
    obtain ⟨block, blockMember, region⟩ := List.mem_map.mp listed
    have start : block.header.start.toNat = mapping.1.start.toNat := congrArg Region.base region
    have size : block.header.mappingSize = mapping.1.mappingSize := by
      rw [← block.exact, ← fewer mapping (List.mem_filter.mp member).1]
      exact congrArg (fun region => region.data.length) region
    rw [← start, ← size]
    exact decomposed.fresh block blockMember

theorem KernelLines.take {width : Nat} {lines : List MapsLine} (valid : KernelLines width lines)
    (count : Nat) : KernelLines width (lines.take count) := by
  have members : ∀ line, line ∈ lines.take count → line ∈ lines :=
    fun _ member => List.mem_of_mem_take member
  exact ⟨fun line member => valid.aligned line (members line member),
    fun line member => valid.nonempty line (members line member),
    fun line member => valid.minAddr line (members line member),
    fun line member => valid.bounded line (members line member),
    valid.apart.sublist (List.take_sublist _ _)⟩

/-- A proper beginning of a snapshot file is rejected unless it stops right behind
the process state or right behind the content of a mapping. There, a state that
the loader takes is loaded with the mappings that are left, as long as the
engine has room for them. -/
theorem dumpSnapshot_truncated (level : LogLevel) (captured : Captured)
    (kernel : Kernel captured.arch) (world after : World captured.arch) (stale : MapsEntry)
    (buffer : Buffer) {pid : Nat} (small : pid < 2 ^ 31) {lines : List MapsLine}
    (parse : List.Forall₂ (fun text line => sscanfMaps text = some line)
      (kernel.maps (world.log.length + 2)) lines)
    (valid : KernelLines captured.arch.width lines)
    (written : (Snapshotter.dumpSnapshot stale buffer captured.bytes pid).run kernel.answer world =
      (.ok (), after))
    (u : Unicorn) (uc : Engine) (mode : uc.mode = captured.mode) :
    ∃ mappings : List (MapsLine × List Byte), mappings.map Prod.fst = lines ∧
      after.output = captured.bytes ++ emitted stale mappings ∧
      ∀ cut < after.output.length,
        ((∀ count, cut ≠ boundary captured.bytes stale mappings count) →
          ∃ message, Loader.dumpSnapshot level u uc (.sound (after.output.take cut)) =
            .error (.fatal message)) ∧
        (captured.Accepted → captured.Enters u uc →
          ((∃ message, Loader.dumpSnapshot level u uc (.sound (after.output.take cut)) =
              .error (.fatal message)) ↔
            ∀ count, cut = boundary captured.bytes stale mappings count →
              ¬ Room uc (mappings.take count))) := by
  obtain ⟨mappings, rfl, lengths, output⟩ :=
    dumpSnapshot_written kernel world small buffer captured.bytes parse written
  have sizes := sizes_exact valid lengths
  have supported : uc.mode ≠ .mode16 := mode ▸ captured.mode_supported
  have length : captured.bytes.length = stateSize uc.mode := mode ▸ captured.bytes_length
  refine ⟨mappings, rfl, output, fun cut inside => ?_⟩
  rw [output] at inside ⊢
  have printable : FilePrintable level uc ((captured.bytes ++ emitted stale mappings).take cut) :=
    printable_cut length stale sizes cut
  refine ⟨fun between => ?_, fun accepted enters => ⟨?_, fun noRoom => ?_⟩⟩
  · refine (dumpSnapshot_unloaded fun result returned => ?_).2 printable
    obtain ⟨_, _, count, place, _⟩ := loadSnapshot_cut_inv supported length sizes inside returned
    exact between count place
  · intro failed count place room
    subst place
    obtain ⟨message, failed⟩ := failed
    have fewer : ∀ mapping ∈ mappings.take count, mapping.2.length = mapping.1.mappingSize :=
      fun mapping member => sizes mapping (List.mem_of_mem_take member)
    have validFewer : KernelLines captured.arch.width ((mappings.take count).map Prod.fst) := by
      rw [List.map_take]
      exact valid.take count
    obtain ⟨blocks, same, regions, ended⟩ := emitted_blocks stale fewer
    obtain ⟨loaded, _, _, returned, _⟩ := dumpSnapshot_blocks level captured accepted mode enters
      room validFewer fewer regions ended
    rw [take_boundary, same, returned] at failed
    cases failed
  · cases loads : loadSnapshot level uc
        (.sound ((captured.bytes ++ emitted stale mappings).take cut)) with
    | error halt =>
        obtain ⟨message, rfl⟩ := loadSnapshot_fatalOnly printable halt loads
        exact ⟨message, by rw [Loader.dumpSnapshot, loads, error_bind]⟩
    | ok result =>
        obtain ⟨cpuState, final⟩ := result
        obtain ⟨rfl, ⟨back, shape⟩, count, place, free⟩ :=
          loadSnapshot_cut_inv supported length sizes inside loads
        cases restored : dumpCpuState u final.uc ⟨uc.mode, captured.bytes⟩ with
        | error halt =>
            obtain ⟨message, rfl⟩ := captured.dumpCpuState_fatalOnly mode accepted halt restored
            exact ⟨message, by rw [Loader.dumpSnapshot, loads, ok_bind]; exact restored⟩
        | ok entered =>
            obtain ⟨_, _, pages, _⟩ := dumpCpuState_inv supported restored
            rw [shape] at pages
            refine absurd ⟨free, ?_⟩ (noRoom count place)
            exact ⟨fun region member => pages.gdt region (List.mem_append_left _ member),
              fun mode32 region member =>
                pages.trampoline mode32 region (List.mem_append_left _ member)⟩

/-- The page of the run below is written, so its file goes on behind the process state. -/
private theorem behind_state (state content : List Byte) :
    state.length < (state ++ emitted (paintedEntry 0) [(anonymousLine, content)]).length := by
  have written : anonymousLine.special = false := by decide
  have positive : 0 < MapsEntry.size := by decide
  simp only [emitted, written, List.length_append, MapsEntry.bytes_length, Bool.false_eq_true,
    if_false, List.length_nil]
  omega

/-- The file of a process with one page, cut right behind the process state, is
loaded without complaint. -/
theorem dumpSnapshot_stateOnly_loads :
    ∃ after loaded,
      anonymousRun .x86_64 flatX86_64State.regs flatX86_64State.bytes = (.ok (), after) ∧
      216 < after.output.length ∧
      Loader.dumpSnapshot .debug .lenient (.opened .mode64) (.sound (after.output.take 216)) =
        .ok (0x401000, loaded) := by
  obtain ⟨after, content, finished, output⟩ :=
    anonymousRun_ok .x86_64 flatX86_64State.regs flatX86_64State.bytes
  have size : flatX86_64State.bytes.length = 216 := flatX86_64State.bytes_length
  have opened : (Engine.opened .mode64).mode = (Captured.x86_64 flatX86_64State).mode := rfl
  have enters : (Captured.x86_64 flatX86_64State).Enters .lenient (.opened .mode64) :=
    fun _ _ _ _ => rfl
  have noLines : KernelLines 64 (([] : List (MapsLine × List Byte)).map Prod.fst) :=
    ⟨by simp, by simp, by simp, by simp, .nil⟩
  have noBlocks : ([] : List Block).map Block.region = (kept []).map lineRegion := rfl
  obtain ⟨loaded, _, _, returned, _⟩ := dumpSnapshot_blocks .debug (.x86_64 flatX86_64State)
    flatX86_64State_accepted opened enters (.of_empty rfl []) noLines (by simp) noBlocks (by simp)
  refine ⟨after, loaded, finished, ?_, ?_⟩
  · rw [output, ← size]
    exact behind_state _ content
  · rw [output, List.take_left' size]
    rw [blocksBytes, List.flatMap_nil, List.append_nil] at returned
    exact returned

/-- A page where the loader puts its descriptor table. -/
def occupied : Region UcProt Byte :=
  ⟨pbGdtAddr, ⟨true, false, false⟩, List.replicate pbGdtSize 0⟩

private theorem occupied_mappable :
    (MemoryMap.empty : Memory).Mappable occupied.base occupied.data.length := by
  have length : occupied.data.length = pbGdtSize := List.length_replicate
  rw [length]
  exact ⟨by decide, by decide, by decide, by decide, Engine.opened_free .mode64 _ _⟩

def occupiedEngine : Engine :=
  { Engine.opened .mode64 with memory := MemoryMap.empty.extend occupied occupied_mappable }

private theorem occupiedEngine_noRoom (mappings : List (MapsLine × List Byte)) :
    ¬ Room occupiedEngine mappings := by
  intro room
  have apart : occupied.Apart pbGdtAddr pbGdtSize := room.pages.gdt occupied List.mem_cons_self
  have length : occupied.data.length = pbGdtSize := List.length_replicate
  rw [Region.Apart, Region.limit, length] at apart
  revert apart
  decide

/-- Inside the process state the cut is found by every engine; right behind it only by one
that has no room for the loader. -/
theorem dumpSnapshot_truncated_inState :
    ∃ after,
      anonymousRun .x86_64 flatX86_64State.regs flatX86_64State.bytes = (.ok (), after) ∧
      (∃ message, Loader.dumpSnapshot .debug .lenient (.opened .mode64)
        (.sound (after.output.take 100)) = .error (.fatal message)) ∧
      (∀ message, Loader.dumpSnapshot .debug .lenient (.opened .mode64)
        (.sound (after.output.take 216)) ≠ .error (.fatal message)) ∧
      ∃ message, Loader.dumpSnapshot .debug .lenient occupiedEngine
        (.sound (after.output.take 216)) = .error (.fatal message) := by
  obtain ⟨after, content, finished, output⟩ :=
    anonymousRun_ok .x86_64 flatX86_64State.regs flatX86_64State.bytes
  have size : (Captured.x86_64 flatX86_64State).bytes.length = 216 := flatX86_64State.bytes_length
  have inside : 216 < after.output.length := by
    rw [output, ← size]
    exact behind_state _ content
  have accepted : (Captured.x86_64 flatX86_64State).Accepted := flatX86_64State_accepted
  have cuts := fun uc mode => dumpSnapshot_truncated .debug (.x86_64 flatX86_64State)
    (mapsKernel .x86_64 flatX86_64State.regs [anonymousText]) (.initial _) after (paintedEntry 0)
    zeroBuffer (by decide : 1 < 2 ^ 31) anonymousText_allParse anonymousLine_valid finished
    .lenient uc mode
  obtain ⟨free, _, _, freeCuts⟩ := cuts (.opened .mode64) rfl
  obtain ⟨full, _, _, fullCuts⟩ := cuts occupiedEngine rfl
  refine ⟨after, finished, ?_, ?_, ?_⟩
  · refine (freeCuts 100 (by omega)).1 fun count => ?_
    rw [boundary, size]
    omega
  · intro message failed
    refine ((freeCuts 216 inside).2 accepted fun _ _ _ _ => rfl).mp ⟨message, failed⟩ 0 ?_ ?_
    · rw [boundary, List.take_zero, size]
      rfl
    · exact .of_empty rfl _
  · exact ((fullCuts 216 inside).2 accepted fun _ _ _ _ => rfl).mpr fun _ _ =>
      occupiedEngine_noRoom _

end ProcessBridge.Snapshot
