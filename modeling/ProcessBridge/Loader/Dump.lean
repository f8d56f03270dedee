import Mathlib.Logic.Relation
import ProcessBridge.Common.MapsEntry
import ProcessBridge.Loader.CpuStateDump
import ProcessBridge.Utilities.Log

/-! Loading a snapshot file: the process state, then one block per mapping until
the file ends. The format has no tag and no count, so the loader decides by
lengths alone. Reading past the end of the mapped file, and printing a path that
no NUL ends, are outcomes of their own, distinct from the fatal errors. -/

set_option autoImplicit false

namespace ProcessBridge.Loader

open Library Common Utilities

/-- Bytes copied out of the mapped file. -/
def fileBytes (data : List Byte) (offset size : Nat) :
    Except Halt { bytes : List Byte // bytes.length = size } :=
  if inside : offset + size ≤ data.length then
    .ok ⟨(data.drop offset).take size, by
      simp only [List.length_take, List.length_drop]
      omega⟩
  else .error .overread

/-- `read_bytes`: the bytes and the advanced offset, or nothing if too few remain. -/
def readBytes (data : List Byte) (offset size : Nat) :
    Except Halt (Option ({ bytes : List Byte // bytes.length = size } × Nat)) :=
  if offset > data.length ∨ size > data.length - offset then .ok none
  else do
    let bytes ← fileBytes data offset size
    .ok (some (bytes, offset + size))

def readVariant (data : List Byte) (mode : UcMode) (size : Nat) (message : String) :
    Except Halt (CpuState × Nat) := do
  match ← readBytes data 0 size with
  | none => .error (.fatal message)
  | some (bytes, offset) => .ok (⟨mode, bytes.val⟩, offset)

def readCpuState (data : List Byte) (mode : UcMode) : Except Halt (CpuState × Nat) :=
  match mode with
  | .mode32 => readVariant data mode LinuxI386ProcessState.size
      "snapshot is truncated while reading i386 process state"
  | .mode64 => readVariant data mode LinuxX86_64ProcessState.size
      "snapshot is truncated while reading x86_64 process state"
  | .mode16 => .error (.fatal "unsupported mode %d")

structure LoadState where
  offset : Nat
  uc : Engine
  mappingsLoaded : Nat

def entryPerms (entry : MapsEntry) : UcProt :=
  ⟨decide (entry.read ≠ 0), decide (entry.write ≠ 0), decide (entry.exec ≠ 0)⟩

/-- `LOG_DEBUG` of a header. `%s` reads up to a NUL, which a copied path need not hold;
then it goes on behind the entry. -/
def logMapping (level : LogLevel) (entry : MapsEntry) : Except Halt Unit :=
  if LogLevel.debug.value < level.value then .ok ()
  else if 0 ∈ entry.path then .ok ()
  else .error .unterminated

/-- The body of the loop, at a level of the log. -/
def loadMapping (level : LogLevel) (data : List Byte) (state : LoadState) :
    Except Halt LoadState := do
  match ← readBytes data state.offset MapsEntry.size with
  | none => .error (.fatal "snapshot is truncated while reading maps entry")
  | some (bytes, offset) =>
      let entry := MapsEntry.ofBytes bytes.val bytes.property
      logMapping level entry
      fatalIf (entry.mappingSize > data.length - offset)
        "mapping[%#lx - %#lx] claims %lu bytes,but only %zu remain in file"
      let uc ← pbUcCheck (ucMemMap state.uc entry.start.toNat entry.mappingSize ⟨false, true, false⟩)
        "failed to map mapping [%#lx-%#lx]: %s"
      let content ← fileBytes data offset entry.mappingSize
      let uc ← pbUcCheck (ucMemWrite uc entry.start.toNat content.val)
        "failed to load mapping [%#lx-%#lx]: %s"
      let uc ← pbUcCheck (ucMemProtect uc entry.start.toNat entry.mappingSize (entryPerms entry))
        "failed to restore permissions for mapping [%#lx-%#lx]: %s"
      .ok ⟨offset + entry.mappingSize, uc, state.mappingsLoaded + 1⟩

/-!
## One round of the loop
-/

/-- The log reads nothing but the header. -/
def Printable (level : LogLevel) (entry : MapsEntry) : Prop := level = .debug → 0 ∈ entry.path

theorem logMapping_cases (level : LogLevel) (entry : MapsEntry) :
    (Printable level entry ∧ logMapping level entry = .ok ()) ∨
    (¬ Printable level entry ∧ logMapping level entry = .error .unterminated) := by
  unfold logMapping Printable
  cases level with
  | debug =>
      by_cases ended : 0 ∈ entry.path
      · exact .inl ⟨fun _ => ended, by rw [if_neg (Nat.lt_irrefl _), if_pos ended]⟩
      · exact .inr ⟨fun printable => ended (printable rfl),
          by rw [if_neg (Nat.lt_irrefl _), if_neg ended]⟩
  | info | warn | error => exact .inl ⟨LogLevel.noConfusion, rfl⟩

theorem fileBytes_ok {data : List Byte} {offset size : Nat} (inside : offset + size ≤ data.length) :
    ∃ bytes, fileBytes data offset size = .ok bytes ∧ bytes.val = (data.drop offset).take size := by
  unfold fileBytes
  rw [dif_pos inside]
  exact ⟨_, rfl, rfl⟩

/-- The length check of `read_bytes` is exactly what keeps the copy inside the file. -/
theorem readBytes_cases (data : List Byte) (offset size : Nat) :
    (offset + size ≤ data.length ∧ ∃ bytes, bytes.val = (data.drop offset).take size ∧
      readBytes data offset size = .ok (some (bytes, offset + size))) ∨
    (data.length < offset + size ∧ readBytes data offset size = .ok none) := by
  unfold readBytes
  by_cases short : offset > data.length ∨ size > data.length - offset
  · rw [if_pos short]
    exact .inr ⟨by omega, rfl⟩
  · rw [if_neg short]
    have inside : offset + size ≤ data.length := by omega
    obtain ⟨bytes, copied, same⟩ := fileBytes_ok inside
    rw [copied]
    exact .inl ⟨inside, bytes, same, rfl⟩

/-- A header with the bytes that follow it. -/
structure Block where
  header : MapsEntry
  content : List Byte
  exact : content.length = header.mappingSize

namespace Block

def bytes (block : Block) : List Byte := block.header.bytes ++ block.content

def region (block : Block) : Region UcProt Byte :=
  ⟨block.header.start.toNat, entryPerms block.header, block.content⟩

theorem bytes_length (block : Block) :
    block.bytes.length = MapsEntry.size + block.header.mappingSize := by
  rw [bytes, List.length_append, MapsEntry.bytes_length, block.exact]

theorem bytes_length_lower (block : Block) : 4124 ≤ block.bytes.length := by
  rw [bytes_length]
  exact Nat.le_add_right _ _

end Block

/-- The unread part of the file starts with the block. -/
def StartsWith (data : List Byte) (offset : Nat) (block : Block) : Prop :=
  offset + block.bytes.length ≤ data.length ∧
    (data.drop offset).take block.bytes.length = block.bytes

theorem startsWith_iff {data : List Byte} {offset : Nat} {block : Block} :
    StartsWith data offset block ↔ ∃ rest, data.drop offset = block.bytes ++ rest := by
  have positive := block.bytes_length_lower
  constructor
  · intro given
    obtain ⟨_, here⟩ := given
    refine ⟨(data.drop offset).drop block.bytes.length, ?_⟩
    conv_lhs => rw [← List.take_append_drop block.bytes.length (data.drop offset), here]
  · intro given
    obtain ⟨rest, here⟩ := given
    have length := congrArg List.length here
    simp only [List.length_drop, List.length_append] at length
    refine ⟨by omega, ?_⟩
    rw [here, List.take_left]

/-- The unread part of the file starts with the header. -/
def HeaderAt (data : List Byte) (offset : Nat) (header : MapsEntry) : Prop :=
  ∃ rest, data.drop offset = header.bytes ++ rest

theorem StartsWith.headerAt {data : List Byte} {offset : Nat} {block : Block}
    (starts : StartsWith data offset block) : HeaderAt data offset block.header := by
  obtain ⟨rest, shape⟩ := startsWith_iff.mp starts
  exact ⟨block.content ++ rest, by rw [shape, Block.bytes, List.append_assoc]⟩

theorem HeaderAt.unique {data : List Byte} {offset : Nat} {left right : MapsEntry}
    (leftStarts : HeaderAt data offset left) (rightStarts : HeaderAt data offset right) :
    left = right := by
  obtain ⟨leftRest, leftShape⟩ := leftStarts
  obtain ⟨rightRest, rightShape⟩ := rightStarts
  have same := leftShape.symm.trans rightShape
  exact MapsEntry.bytes_injective (List.append_inj same (by simp)).1

/-- Blocks carry their own length: no other block starts at the same place. -/
theorem StartsWith.unique {data : List Byte} {offset : Nat} {left right : Block}
    (leftStarts : StartsWith data offset left) (rightStarts : StartsWith data offset right) :
    left = right := by
  obtain ⟨leftRest, leftShape⟩ := startsWith_iff.mp leftStarts
  obtain ⟨rightRest, rightShape⟩ := startsWith_iff.mp rightStarts
  have same : left.header.bytes ++ (left.content ++ leftRest) =
      right.header.bytes ++ (right.content ++ rightRest) := by
    simpa only [Block.bytes, List.append_assoc] using leftShape.symm.trans rightShape
  have header := leftStarts.headerAt.unique rightStarts.headerAt
  have tails := (List.append_inj same (by simp)).2
  have content := (List.append_inj tails (by rw [left.exact, right.exact, header])).1
  cases left
  cases right
  simp_all

private theorem headerAt_ofBytes {data : List Byte} {offset : Nat}
    {bytes : { bytes : List Byte // bytes.length = MapsEntry.size }}
    (here : bytes.val = (data.drop offset).take MapsEntry.size) :
    HeaderAt data offset (MapsEntry.ofBytes bytes.val bytes.property) := by
  refine ⟨(data.drop offset).drop MapsEntry.size, ?_⟩
  rw [MapsEntry.bytes_ofBytes, here, List.take_append_drop]

private theorem exists_startsWith {data : List Byte} {offset : Nat}
    {bytes : { bytes : List Byte // bytes.length = MapsEntry.size }}
    (here : bytes.val = (data.drop offset).take MapsEntry.size) {entry : MapsEntry}
    (decoded : entry = MapsEntry.ofBytes bytes.val bytes.property)
    (inside : offset + MapsEntry.size + entry.mappingSize ≤ data.length) :
    ∃ block : Block, StartsWith data offset block ∧ block.header = entry ∧
      block.content = (data.drop (offset + MapsEntry.size)).take entry.mappingSize := by
  have exact : ((data.drop (offset + MapsEntry.size)).take entry.mappingSize).length =
      entry.mappingSize := by
    simp only [List.length_take, List.length_drop]
    omega
  have front : entry.bytes = (data.drop offset).take MapsEntry.size := by
    rw [decoded, MapsEntry.bytes_ofBytes, here]
  refine ⟨⟨entry, _, exact⟩, ⟨?_, ?_⟩, rfl, rfl⟩
  · rw [Block.bytes_length]
    simpa only [Nat.add_assoc] using inside
  · rw [Block.bytes_length, Block.bytes]
    simp only
    rw [List.take_add, List.drop_drop, front]

theorem fillMapping_ok (uc : Engine) {front : List (Region UcProt Byte)} {start size : Nat}
    (shape : uc.memory.regions =
      front ++ [⟨start, ⟨false, true, false⟩, List.replicate size 0⟩])
    (perms : UcProt) (content : List Byte) (full : content.length = size) :
    ∃ written filled : Memory, ucMemWrite uc start content = .ok { uc with memory := written } ∧
      ucMemProtect { uc with memory := written } start size perms =
        .ok { uc with memory := filled } ∧
      filled.regions = front ++ [⟨start, perms, content⟩] := by
  obtain ⟨written, writeOk, writtenShape⟩ := MemoryMap.write?_last shape start content le_rfl
    (by simp [Region.limit, full])
  have replaced : Region.overlay start content
      ⟨start, ⟨false, true, false⟩, List.replicate size 0⟩ =
        (⟨start, ⟨false, true, false⟩, content⟩ : Region UcProt Byte) :=
    Region.overlay_whole rfl (by simp [full])
  rw [replaced] at writtenShape
  obtain ⟨filled, protectOk, filledShape⟩ := MemoryMap.protect?_last writtenShape perms
  simp only [full] at protectOk
  have guarded : ucMemProtect { uc with memory := written } start size perms =
      .ok { uc with memory := filled } := ucMemProtect_ok protectOk
  exact ⟨written, filled, ucMemWrite_ok writeOk, guarded, filledShape⟩

def LoadState.after (state : LoadState) (block : Block) (memory : Memory) : LoadState :=
  ⟨state.offset + block.bytes.length, { state.uc with memory }, state.mappingsLoaded + 1⟩

/-- A round loads the block at the offset if there is one, its path can be printed and
its place is free. It is fatal for want of a block or a place, and the log runs
past a path that cannot be printed. -/
theorem loadMapping_cases (level : LogLevel) (data : List Byte) (state : LoadState) :
    (∃ block memory, StartsWith data state.offset block ∧ Printable level block.header ∧
      state.uc.memory.Mappable block.header.start.toNat block.header.mappingSize ∧
      memory.regions = state.uc.memory.regions ++ [block.region] ∧
      loadMapping level data state = .ok (state.after block memory)) ∨
    ((∀ block, StartsWith data state.offset block →
      ¬ state.uc.memory.Mappable block.header.start.toNat block.header.mappingSize) ∧
      (∀ header, HeaderAt data state.offset header → Printable level header) ∧
      ∃ message, loadMapping level data state = .error (.fatal message)) ∨
    (∃ header, HeaderAt data state.offset header ∧ ¬ Printable level header ∧
      loadMapping level data state = .error .unterminated) := by
  unfold loadMapping
  rcases readBytes_cases data state.offset MapsEntry.size with
    ⟨_, bytes, here, read⟩ | ⟨short, read⟩
  · rw [read, ok_bind]
    simp only
    have headed := headerAt_ofBytes here
    generalize decoded : MapsEntry.ofBytes bytes.val bytes.property = entry at headed
    have unique : ∀ block, StartsWith data state.offset block → block.header = entry :=
      fun block starts => starts.headerAt.unique headed
    rcases logMapping_cases level entry with ⟨printable, logged⟩ | ⟨endless, stopped⟩
    · rw [logged, ok_bind]
      have printables : ∀ header, HeaderAt data state.offset header → Printable level header := by
        intro header other
        rwa [other.unique headed]
      by_cases fits : state.offset + MapsEntry.size + entry.mappingSize ≤ data.length
      · rw [fatalIf, if_neg (by omega), ok_bind]
        obtain ⟨block, starts, rfl, content⟩ := exists_startsWith here decoded.symm fits
        rcases ucMemMap_cases state.uc block.header.start.toNat block.header.mappingSize
            ⟨false, true, false⟩ with ⟨mappable, mapped, mapOk, shape⟩ | ⟨refused, mapFails⟩
        · obtain ⟨copy, copied, same⟩ := fileBytes_ok fits
          have full : copy.val = block.content := same.trans content.symm
          obtain ⟨written, filled, writeOk, protectOk, filledShape⟩ := fillMapping_ok
            { state.uc with memory := mapped } shape (entryPerms block.header) block.content
            block.exact
          refine .inl ⟨block, filled, starts, printable, mappable, filledShape, ?_⟩
          rw [mapOk, pbUcCheck, ok_bind, copied, ok_bind, full, writeOk, pbUcCheck, ok_bind,
            protectOk, pbUcCheck, ok_bind, LoadState.after, Block.bytes_length, Nat.add_assoc]
        · refine .inr (.inl ⟨?_, printables, ?_⟩)
          · intro other otherStarts
            rwa [unique other otherStarts]
          · rw [mapFails, pbUcCheck, error_bind]
            exact ⟨_, rfl⟩
      · rw [fatalIf, if_pos (by omega), error_bind]
        refine .inr (.inl ⟨?_, printables, _, rfl⟩)
        intro block starts
        have inside := starts.1
        rw [Block.bytes_length, unique block starts] at inside
        omega
    · rw [stopped, error_bind]
      exact .inr (.inr ⟨entry, headed, endless, rfl⟩)
  · rw [read, ok_bind]
    have long : ∀ header, ¬ HeaderAt data state.offset header := by
      rintro header ⟨rest, shape⟩
      have length := congrArg List.length shape
      simp only [List.length_drop, List.length_append, MapsEntry.bytes_length] at length
      have positive : 0 < MapsEntry.size := by decide
      omega
    refine .inr (.inl ⟨?_, ?_, _, rfl⟩)
    · exact fun block starts => absurd starts.headerAt (long block.header)
    · exact fun header found => absurd found (long header)

theorem loadMapping_ok_inv {level : LogLevel} {data : List Byte} {state next : LoadState}
    (loaded : loadMapping level data state = .ok next) :
    ∃ block memory, StartsWith data state.offset block ∧ Printable level block.header ∧
      state.uc.memory.Mappable block.header.start.toNat block.header.mappingSize ∧
      memory.regions = state.uc.memory.regions ++ [block.region] ∧
      next = state.after block memory := by
  rcases loadMapping_cases level data state with
    ⟨block, memory, starts, printable, mappable, regions, result⟩ | ⟨_, _, _, failed⟩ |
      ⟨_, _, _, failed⟩
  · exact ⟨block, memory, starts, printable, mappable, regions,
      Except.ok.inj (loaded.symm.trans result)⟩
  · cases loaded.symm.trans failed
  · cases loaded.symm.trans failed

/-- A round that loads something moves the offset by at least one header and never
past the end of the file. -/
theorem loadMapping_offset {level : LogLevel} {data : List Byte} {state next : LoadState}
    (loaded : loadMapping level data state = .ok next) :
    state.offset + MapsEntry.size ≤ next.offset ∧ next.offset ≤ data.length := by
  obtain ⟨block, _, starts, _, _, _, rfl⟩ := loadMapping_ok_inv loaded
  exact ⟨Nat.add_le_add_left block.bytes_length_lower _, starts.1⟩

/-!
## The loop
-/

/-- `while (offset < file_size)`. -/
def loadMappings (level : LogLevel) (data : List Byte) (state : LoadState) :
    Except Halt LoadState :=
  if state.offset < data.length then
    match round : loadMapping level data state with
    | .error halt => .error halt
    | .ok next =>
        have _advanced := loadMapping_offset round
        loadMappings level data next
  else .ok state
termination_by data.length - state.offset
decreasing_by
  simp only [MapsEntry.size] at _advanced
  omega

variable {level : LogLevel}

private theorem loadMappings_done {data : List Byte} {state : LoadState}
    (done : data.length ≤ state.offset) : loadMappings level data state = .ok state := by
  rw [loadMappings, if_neg (by omega)]

private theorem loadMappings_next {data : List Byte} {state next : LoadState}
    (more : state.offset < data.length) (round : loadMapping level data state = .ok next) :
    loadMappings level data state = loadMappings level data next := by
  rw [loadMappings, if_pos more]
  split
  · next failed => cases failed.symm.trans round
  · next other loaded =>
      cases loaded.symm.trans round
      rfl

private theorem loadMappings_stop {data : List Byte} {state : LoadState} {halt : Halt}
    (more : state.offset < data.length) (round : loadMapping level data state = .error halt) :
    loadMappings level data state = .error halt := by
  rw [loadMappings, if_pos more]
  split
  · next other failed =>
      cases failed.symm.trans round
      rfl
  · next loaded => cases loaded.symm.trans round

/-- One turn of the loop, as a transition between the states at its head. -/
def LoopStep (level : LogLevel) (data : List Byte) (state next : LoadState) : Prop :=
  state.offset < data.length ∧ loadMapping level data state = .ok next

private theorem loopStep_offset_le {data : List Byte} {start state : LoadState}
    (inside : start.offset ≤ data.length)
    (reached : Relation.ReflTransGen (LoopStep level data) start state) :
    state.offset ≤ data.length := by
  induction reached with
  | refl => exact inside
  | tail _ step _ => exact (loadMapping_offset step.2).2

/-- Blocks that the loop accepts one after the other over a memory. -/
def Acceptable : List (Region UcProt Byte) → List Block → Prop
  | _, [] => True
  | regions, block :: rest =>
      (0 < block.header.mappingSize ∧ 0x1000 ∣ block.header.start.toNat ∧
        0x1000 ∣ block.header.mappingSize ∧
        block.header.start.toNat + block.header.mappingSize ≤ 2 ^ 64 ∧
        ∀ region ∈ regions,
          region.Apart block.header.start.toNat block.header.mappingSize) ∧
      Acceptable (regions ++ [block.region]) rest

def blocksBytes (blocks : List Block) : List Byte := blocks.flatMap Block.bytes

structure LoadState.Loaded (start : LoadState) (blocks : List Block) (final : LoadState) : Prop where
  offset : final.offset = start.offset + (blocksBytes blocks).length
  uc : final.uc = { start.uc with memory := final.uc.memory }
  memory : final.uc.memory.regions = start.uc.memory.regions ++ blocks.map Block.region
  mappingsLoaded : final.mappingsLoaded = start.mappingsLoaded + blocks.length

theorem LoadState.Loaded.nil (state : LoadState) : state.Loaded [] state :=
  ⟨rfl, rfl, by simp, rfl⟩

theorem LoadState.Loaded.cons {state final : LoadState} {block : Block} {memory : Memory}
    {rest : List Block} (shape : memory.regions = state.uc.memory.regions ++ [block.region])
    (loaded : (state.after block memory).Loaded rest final) : state.Loaded (block :: rest) final := by
  obtain ⟨offset, uc, regions, count⟩ := loaded
  refine ⟨?_, uc, ?_, ?_⟩
  · rw [offset, blocksBytes, blocksBytes, List.flatMap_cons, List.length_append, ← Nat.add_assoc]
    rfl
  · rw [regions]
    simp [LoadState.after, shape]
  · rw [count]
    simp only [LoadState.after, List.length_cons]
    omega

theorem LoadState.Loaded.unique {state left right : LoadState} {blocks : List Block}
    (leftLoaded : state.Loaded blocks left) (rightLoaded : state.Loaded blocks right) :
    left = right := by
  have memory : left.uc.memory = right.uc.memory :=
    MemoryMap.ext (leftLoaded.memory.trans rightLoaded.memory.symm)
  have uc : left.uc = right.uc := by
    rw [leftLoaded.uc, rightLoaded.uc, memory]
  have offset := leftLoaded.offset.trans rightLoaded.offset.symm
  have count := leftLoaded.mappingsLoaded.trans rightLoaded.mappingsLoaded.symm
  cases left
  cases right
  simp_all

theorem StartsWith.drop_eq {data : List Byte} {offset : Nat} {block : Block}
    (starts : StartsWith data offset block) :
    data.drop offset = block.bytes ++ data.drop (offset + block.bytes.length) := by
  obtain ⟨rest, shape⟩ := startsWith_iff.mp starts
  rw [← List.drop_drop, shape, List.drop_left]

/-- Soundness: a loop that finishes has read a sequence of acceptable blocks. -/
theorem loadMappings_sound {data : List Byte} {state final : LoadState}
    (inside : state.offset ≤ data.length) (finished : loadMappings level data state = .ok final) :
    ∃ blocks, data.drop state.offset = blocksBytes blocks ∧
      Acceptable state.uc.memory.regions blocks ∧
      (∀ block ∈ blocks, Printable level block.header) ∧ state.Loaded blocks final := by
  fun_induction loadMappings level data state with
  | case1 state more halt round => cases finished
  | case2 state more next round advanced ih =>
      obtain ⟨blocks, shape, acceptable, printables, loaded⟩ := ih advanced.2 finished
      obtain ⟨block, memory, starts, printable, mappable, regions, rfl⟩ := loadMapping_ok_inv round
      refine ⟨block :: blocks, ?_, ⟨mappable, ?_⟩, ?_, loaded.cons regions⟩
      · rw [starts.drop_eq, blocksBytes, List.flatMap_cons]
        exact congrArg _ shape
      · rwa [← regions]
      · exact List.forall_mem_cons.mpr ⟨printable, printables⟩
  | case3 state done =>
      cases finished
      refine ⟨[], ?_, trivial, by simp, .nil final⟩
      rw [List.drop_of_length_le (by omega)]
      rfl

theorem StartsWith.behind {data : List Byte} {offset : Nat} {block : Block} {rest : List Byte}
    (starts : StartsWith data offset block) (shape : data.drop offset = block.bytes ++ rest) :
    data.drop (offset + block.bytes.length) = rest := by
  rw [starts.drop_eq] at shape
  exact List.append_cancel_left shape

theorem StartsWith.more {data : List Byte} {offset : Nat} {block : Block}
    (starts : StartsWith data offset block) : offset < data.length := by
  have positive := block.bytes_length_lower
  have upper := starts.1
  omega

/-- Completeness: acceptable blocks up to the end of the file are all loaded. -/
theorem loadMappings_complete {data : List Byte} (state : LoadState) {blocks : List Block}
    (inside : state.offset ≤ data.length) (shape : data.drop state.offset = blocksBytes blocks)
    (acceptable : Acceptable state.uc.memory.regions blocks)
    (printable : ∀ block ∈ blocks, Printable level block.header) :
    ∃ final, loadMappings level data state = .ok final ∧ state.Loaded blocks final := by
  induction blocks generalizing state with
  | nil =>
      have length := congrArg List.length shape
      simp only [List.length_drop, blocksBytes, List.flatMap_nil, List.length_nil] at length
      exact ⟨state, loadMappings_done (by omega), .nil state⟩
  | cons block rest ih =>
      have starts : StartsWith data state.offset block := startsWith_iff.mpr ⟨_, shape⟩
      obtain ⟨mappable, acceptable⟩ := acceptable
      obtain ⟨first, others⟩ := List.forall_mem_cons.mp printable
      rcases loadMapping_cases level data state with
        ⟨other, memory, otherStarts, _, _, regions, result⟩ | ⟨refused, _⟩ |
          ⟨header, found, endless, _⟩
      · obtain rfl : other = block := otherStarts.unique starts
        have advanced : (state.after other memory).offset ≤ data.length := starts.1
        rw [← regions] at acceptable
        obtain ⟨final, finished, loaded⟩ :=
          ih (state.after other memory) advanced (starts.behind shape) acceptable others
        exact ⟨final, (loadMappings_next starts.more result).trans finished, loaded.cons regions⟩
      · exact absurd mappable (refused block starts)
      · rw [found.unique starts.headerAt] at endless
        exact absurd first endless

/-!
## What the log prints
-/

/-- In what is left of a file, every header behind blocks that the loop accepts holds the
NUL that ends its path. -/
def PathsEnd (regions : List (Region UcProt Byte)) (data : List Byte) : Prop :=
  ∀ (blocks : List Block) (header : MapsEntry) (rest : List Byte),
    data = blocksBytes blocks ++ header.bytes ++ rest →
      Acceptable regions blocks → 0 ∈ header.path

/-- The log stays inside the headers it prints. -/
def LogsInside (level : LogLevel) (regions : List (Region UcProt Byte)) (data : List Byte) : Prop :=
  level = .debug → PathsEnd regions data

theorem LogsInside.head {regions : List (Region UcProt Byte)} {data : List Byte} {offset : Nat}
    {header : MapsEntry} (inside : LogsInside level regions (data.drop offset))
    (found : HeaderAt data offset header) : Printable level header := by
  intro debug
  obtain ⟨rest, shape⟩ := found
  exact inside debug [] header rest shape trivial

theorem LogsInside.tail {memory : Memory} {block : Block} {rest : List Byte}
    (inside : LogsInside level memory.regions (block.bytes ++ rest))
    (mappable : memory.Mappable block.header.start.toNat block.header.mappingSize) :
    LogsInside level (memory.regions ++ [block.region]) rest := by
  intro debug blocks header behind shape acceptable
  refine inside debug (block :: blocks) header behind ?_ ⟨mappable, acceptable⟩
  simp only [shape, blocksBytes, List.flatMap_cons, List.append_assoc]

theorem LogsInside.printable {memory : Memory} {blocks : List Block}
    (inside : LogsInside level memory.regions (blocksBytes blocks))
    (acceptable : Acceptable memory.regions blocks) :
    ∀ block ∈ blocks, Printable level block.header := by
  intro block member debug
  obtain ⟨front, back, rfl⟩ := List.append_of_mem member
  refine inside debug front block.header (block.content ++ blocksBytes back) ?_ ?_
  · simp [blocksBytes, Block.bytes]
  · clear inside member
    generalize memory.regions = regions at acceptable
    induction front generalizing regions with
    | nil => trivial
    | cons first front ih => exact ⟨acceptable.1, ih _ acceptable.2⟩

/-- Wherever a header is found behind blocks, it is one of the headers of the file. -/
theorem header_of_blocksBytes {blocks others : List Block} {header : MapsEntry} {rest : List Byte}
    (same : blocksBytes blocks = blocksBytes others ++ header.bytes ++ rest) :
    ∃ block ∈ blocks, block.header = header := by
  induction others generalizing blocks with
  | nil =>
      cases blocks with
      | nil =>
          have length := congrArg List.length same
          simp [blocksBytes, MapsEntry.size] at length
          omega
      | cons block blocks =>
          refine ⟨block, List.mem_cons_self, ?_⟩
          have first : HeaderAt (blocksBytes (block :: blocks)) 0 block.header :=
            ⟨block.content ++ blocksBytes blocks, by simp [blocksBytes, Block.bytes]⟩
          exact first.unique ⟨rest, same⟩
  | cons other others ih =>
      have second : StartsWith (blocksBytes blocks) 0 other := startsWith_iff.mpr
        ⟨blocksBytes others ++ header.bytes ++ rest, by
          rw [List.drop_zero, same]
          simp only [blocksBytes, List.flatMap_cons, List.append_assoc]⟩
      cases blocks with
      | nil => exact absurd second.more (Nat.lt_irrefl 0)
      | cons block blocks =>
          have first : StartsWith (blocksBytes (block :: blocks)) 0 block :=
            startsWith_iff.mpr ⟨blocksBytes blocks, rfl⟩
          obtain rfl := first.unique second
          have behind : blocksBytes blocks = blocksBytes others ++ header.bytes ++ rest := by
            simp only [blocksBytes, List.flatMap_cons, List.append_assoc] at same ⊢
            exact List.append_cancel_left same
          obtain ⟨found, member, rfl⟩ := ih behind
          exact ⟨found, List.mem_cons_of_mem _ member, rfl⟩

/-- The headers of a file decide about every beginning of it. -/
theorem logsInside_of_printable {blocks : List Block}
    (printable : ∀ block ∈ blocks, Printable level block.header) {data tail : List Byte}
    (shape : blocksBytes blocks = data ++ tail) (regions : List (Region UcProt Byte)) :
    LogsInside level regions data := by
  intro debug others header rest found _
  have whole : blocksBytes blocks = blocksBytes others ++ header.bytes ++ (rest ++ tail) := by
    rw [shape, found, List.append_assoc _ rest]
  obtain ⟨block, member, rfl⟩ := header_of_blocksBytes whole
  exact printable block member debug

theorem loadMappings_fatalOnly {data : List Byte} {state : LoadState}
    (inside : LogsInside level state.uc.memory.regions (data.drop state.offset)) :
    FatalOnly (loadMappings level data state) := by
  fun_induction loadMappings level data state with
  | case1 state more halt round =>
      intro other stopped
      cases stopped
      rcases loadMapping_cases level data state with
        ⟨_, _, _, _, _, _, loaded⟩ | ⟨_, _, message, failed⟩ | ⟨header, found, endless, _⟩
      · cases loaded.symm.trans round
      · cases failed.symm.trans round
        exact ⟨message, rfl⟩
      · exact absurd (inside.head found) endless
  | case2 state more next round advanced ih =>
      obtain ⟨block, memory, starts, _, mappable, regions, rfl⟩ := loadMapping_ok_inv round
      refine ih ?_
      rw [starts.drop_eq] at inside
      rw [LoadState.after, regions]
      exact inside.tail mappable
  | case3 state done => exact .ok state

/-- A header without a NUL that the loop gets to stops it in the log. -/
theorem loadMappings_unterminated {data : List Byte} (state : LoadState) {blocks : List Block}
    {header : MapsEntry} {rest : List Byte}
    (shape : data.drop state.offset = blocksBytes blocks ++ header.bytes ++ rest)
    (acceptable : Acceptable state.uc.memory.regions blocks) (endless : 0 ∉ header.path) :
    loadMappings .debug data state = .error .unterminated := by
  induction blocks generalizing state with
  | nil =>
      have found : HeaderAt data state.offset header := ⟨rest, shape⟩
      have more : state.offset < data.length := by
        have length := congrArg List.length shape
        simp [blocksBytes, MapsEntry.size] at length
        omega
      rcases loadMapping_cases .debug data state with
        ⟨block, _, starts, printable, _⟩ | ⟨_, printable, _⟩ | ⟨_, _, _, stopped⟩
      · rw [starts.headerAt.unique found] at printable
        exact absurd (printable rfl) endless
      · exact absurd (printable header found rfl) endless
      · exact loadMappings_stop more stopped
  | cons block others ih =>
      have ahead : data.drop state.offset =
          block.bytes ++ (blocksBytes others ++ header.bytes ++ rest) := by
        rw [shape]
        simp only [blocksBytes, List.flatMap_cons, List.append_assoc]
      have starts : StartsWith data state.offset block := startsWith_iff.mpr ⟨_, ahead⟩
      obtain ⟨mappable, acceptable⟩ := acceptable
      rcases loadMapping_cases .debug data state with
        ⟨other, memory, otherStarts, _, _, regions, result⟩ | ⟨refused, _⟩ | ⟨_, _, _, stopped⟩
      · obtain rfl : other = block := otherStarts.unique starts
        rw [← regions] at acceptable
        rw [loadMappings_next starts.more result]
        exact ih (state.after other memory) (starts.behind ahead) acceptable
      · exact absurd mappable (refused block starts)
      · exact loadMappings_stop starts.more stopped

/-!
## The whole file
-/

inductive FileFault where
  | open
  | stat
  | mmap
deriving DecidableEq, Repr

/-- The snapshot file as the operating system presents it. -/
structure SnapshotFile where
  data : List Byte
  fault : Option FileFault

def SnapshotFile.sound (data : List Byte) : SnapshotFile := ⟨data, none⟩

/-- Everything `dump_snapshot` does before it calls `dump_cpu_state`. -/
def loadSnapshot (level : LogLevel) (uc : Engine) (file : SnapshotFile) :
    Except Halt (CpuState × LoadState) := do
  fatalIf (file.fault = some .open) "failed to open snapshot file '%s'"
  fatalIf (file.fault = some .stat) "failed to stat snapshot file '%s'"
  fatalIf (file.data.length = 0) "snapshot file '%s' is empty"
  fatalIf (file.fault = some .mmap) "failed to mmap snapshot file '%s'"
  let (cpuState, offset) ← readCpuState file.data uc.mode
  let state ← loadMappings level file.data ⟨offset, uc, 0⟩
  .ok (cpuState, state)

/-- `dump_snapshot`, with the level of the log that the environment asks for. -/
def dumpSnapshot (level : LogLevel) (u : Unicorn) (uc : Engine) (file : SnapshotFile) :
    Except Halt (BitVec 64 × Engine) := do
  let (cpuState, state) ← loadSnapshot level uc file
  dumpCpuState u state.uc cpuState

def stateSize : UcMode → Nat
  | .mode32 => LinuxI386ProcessState.size
  | .mode64 => LinuxX86_64ProcessState.size
  | .mode16 => 0

/-- The log stays inside the headers of a file that goes into the engine. -/
abbrev FilePrintable (level : LogLevel) (uc : Engine) (data : List Byte) : Prop :=
  LogsInside level uc.memory.regions (data.drop (stateSize uc.mode))

theorem stateSize_pos {mode : UcMode} (supported : mode ≠ .mode16) : 0 < stateSize mode := by
  cases mode with
  | mode16 => exact absurd rfl supported
  | mode32 | mode64 => decide

theorem readVariant_cases (data : List Byte) (mode : UcMode) (size : Nat) (message : String) :
    (size ≤ data.length ∧ readVariant data mode size message = .ok (⟨mode, data.take size⟩, size)) ∨
    (data.length < size ∧ readVariant data mode size message = .error (.fatal message)) := by
  unfold readVariant
  rcases readBytes_cases data 0 size with ⟨inside, bytes, here, read⟩ | ⟨short, read⟩
  · refine .inl ⟨by omega, ?_⟩
    rw [read, ok_bind]
    simp only [here, List.drop_zero, Nat.zero_add]
  · refine .inr ⟨by omega, ?_⟩
    rw [read, ok_bind]

theorem readCpuState_cases (data : List Byte) {mode : UcMode} (supported : mode ≠ .mode16) :
    (stateSize mode ≤ data.length ∧
      readCpuState data mode = .ok (⟨mode, data.take (stateSize mode)⟩, stateSize mode)) ∨
    (data.length < stateSize mode ∧ ∃ message, readCpuState data mode = .error (.fatal message)) := by
  cases mode with
  | mode16 => exact absurd rfl supported
  | mode32 | mode64 =>
      rcases readVariant_cases data _ _ _ with ⟨enough, read⟩ | ⟨short, failed⟩
      · exact .inl ⟨enough, read⟩
      · exact .inr ⟨short, _, failed⟩

theorem readCpuState_fatalOnly (data : List Byte) (mode : UcMode) :
    FatalOnly (readCpuState data mode) := by
  intro halt stopped
  by_cases supported : mode = .mode16
  · subst supported
    cases stopped
    exact ⟨_, rfl⟩
  · rcases readCpuState_cases data supported with ⟨_, read⟩ | ⟨_, message, failed⟩
    · rw [read] at stopped
      cases stopped
    · rw [failed] at stopped
      cases stopped
      exact ⟨message, rfl⟩

private theorem readCpuState_offset {data : List Byte} {mode : UcMode} {cpuState : CpuState}
    {offset : Nat}
    (read : readCpuState data mode = .ok (cpuState, offset)) : offset = stateSize mode := by
  by_cases supported : mode = .mode16
  · subst supported
    cases read
  · rcases readCpuState_cases data supported with ⟨_, found⟩ | ⟨_, _, failed⟩
    · cases read.symm.trans found
      rfl
    · cases read.symm.trans failed

theorem loadSnapshot_fatalOnly {uc : Engine} {file : SnapshotFile}
    (inside : FilePrintable level uc file.data) : FatalOnly (loadSnapshot level uc file) := by
  refine .bind (.fatalIf _ _) fun _ _ => .bind (.fatalIf _ _) fun _ _ =>
    .bind (.fatalIf _ _) fun _ _ => .bind (.fatalIf _ _) fun _ _ =>
      .bind (readCpuState_fatalOnly _ _) fun result read => .bind ?_ fun _ _ => .ok _
  obtain ⟨cpuState, offset⟩ := result
  obtain rfl := readCpuState_offset read
  exact loadMappings_fatalOnly inside

/-- A run of the loader that does not get past the file ends as the file does. -/
theorem dumpSnapshot_unloaded {u : Unicorn} {uc : Engine} {data : List Byte}
    (never : ∀ result, loadSnapshot level uc (.sound data) ≠ .ok result) :
    (∀ result, dumpSnapshot level u uc (.sound data) ≠ .ok result) ∧
    (FilePrintable level uc data →
      ∃ message, dumpSnapshot level u uc (.sound data) = .error (.fatal message)) := by
  constructor
  · intro result returned
    obtain ⟨loaded, read, _⟩ := bind_ok_iff.mp returned
    exact never loaded read
  · intro inside
    cases read : loadSnapshot level uc (.sound data) with
    | ok result => exact absurd read (never result)
    | error halt =>
        obtain ⟨message, rfl⟩ := loadSnapshot_fatalOnly inside halt read
        exact ⟨message, by rw [dumpSnapshot, read, error_bind]⟩

/-!
## Which files are accepted
-/

/-- The file is a process state followed by blocks that fit a memory: whole,
aligned pages inside the address space, apart from what is mapped and from
each other. -/
structure Decomposes (memory : Memory) (size : Nat) (data state : List Byte)
    (blocks : List Block) : Prop where
  nonempty : data ≠ []
  shape : data = state ++ blocksBytes blocks
  stateSize : state.length = size
  sizes : ∀ block ∈ blocks, 0 < block.header.mappingSize ∧ 0x1000 ∣ block.header.mappingSize
  aligned : ∀ block ∈ blocks, 0x1000 ∣ block.header.start.toNat
  bounded : ∀ block ∈ blocks, block.header.start.toNat + block.header.mappingSize ≤ 2 ^ 64
  fresh : ∀ block ∈ blocks, memory.Free block.header.start.toNat block.header.mappingSize
  apart : blocks.Pairwise fun earlier later => earlier.region.Disjoint later.region

theorem Block.region_limit (block : Block) :
    block.region.limit = block.header.start.toNat + block.header.mappingSize := by
  simp [Block.region, Region.limit, block.exact]

theorem Block.disjoint_iff_apart {earlier later : Block} :
    earlier.region.Disjoint later.region ↔
      earlier.region.Apart later.header.start.toNat later.header.mappingSize := by
  rw [Region.Disjoint, Region.Apart, later.region_limit]
  exact or_comm

theorem acceptable_iff {regions : List (Region UcProt Byte)} {blocks : List Block} :
    Acceptable regions blocks ↔
      (∀ block ∈ blocks, (0 < block.header.mappingSize ∧ 0x1000 ∣ block.header.mappingSize) ∧
        0x1000 ∣ block.header.start.toNat ∧
        block.header.start.toNat + block.header.mappingSize ≤ 2 ^ 64 ∧
        ∀ region ∈ regions,
          region.Apart block.header.start.toNat block.header.mappingSize) ∧
      blocks.Pairwise fun earlier later => earlier.region.Disjoint later.region := by
  induction blocks generalizing regions with
  | nil => simp [Acceptable]
  | cons block rest ih =>
      simp only [Acceptable, ih, List.forall_mem_cons, List.pairwise_cons, List.mem_append,
        List.mem_singleton, or_imp, forall_and, forall_eq, Block.disjoint_iff_apart]
      tauto

theorem Decomposes.acceptable {memory : Memory} {size : Nat} {data state : List Byte}
    {blocks : List Block} (decomposed : Decomposes memory size data state blocks) :
    Acceptable memory.regions blocks :=
  acceptable_iff.mpr ⟨fun block member => ⟨decomposed.sizes block member,
    decomposed.aligned block member, decomposed.bounded block member,
    decomposed.fresh block member⟩, decomposed.apart⟩

theorem Decomposes.drop_eq {memory : Memory} {size : Nat} {data state : List Byte}
    {blocks : List Block} (decomposed : Decomposes memory size data state blocks) :
    data.drop size = blocksBytes blocks := by
  rw [decomposed.shape, ← decomposed.stateSize, List.drop_left]

/-- A file long enough for the state goes into the loop. -/
private theorem loadSnapshot_enough {uc : Engine} {data : List Byte}
    (supported : uc.mode ≠ .mode16) (enough : stateSize uc.mode ≤ data.length) :
    loadSnapshot level uc (.sound data) =
      (loadMappings level data ⟨stateSize uc.mode, uc, 0⟩).map
        fun final => (⟨uc.mode, data.take (stateSize uc.mode)⟩, final) := by
  have positive := stateSize_pos supported
  have nonempty : ¬ data.length = 0 := by omega
  rcases readCpuState_cases data supported with ⟨_, read⟩ | ⟨short, _⟩
  · simp only [loadSnapshot, SnapshotFile.sound, fatalIf, nonempty, reduceCtorEq, ↓reduceIte,
      ok_bind, read]
    cases loadMappings level data ⟨stateSize uc.mode, uc, 0⟩ with
    | ok final => rfl
    | error halt => rfl
  · omega

theorem loadSnapshot_sound_iff {uc : Engine} {data : List Byte} (supported : uc.mode ≠ .mode16)
    {cpuState : CpuState} {final : LoadState} :
    loadSnapshot level uc (.sound data) = .ok (cpuState, final) ↔
      stateSize uc.mode ≤ data.length ∧ cpuState = ⟨uc.mode, data.take (stateSize uc.mode)⟩ ∧
        loadMappings level data ⟨stateSize uc.mode, uc, 0⟩ = .ok final := by
  constructor
  · intro returned
    obtain ⟨_, _, returned⟩ := bind_ok_iff.mp returned
    obtain ⟨_, _, returned⟩ := bind_ok_iff.mp returned
    obtain ⟨_, _, returned⟩ := bind_ok_iff.mp returned
    obtain ⟨_, _, returned⟩ := bind_ok_iff.mp returned
    obtain ⟨⟨_, _⟩, read, returned⟩ := bind_ok_iff.mp returned
    obtain ⟨_, finished, returned⟩ := bind_ok_iff.mp returned
    cases returned
    rcases readCpuState_cases data supported with ⟨enough, expected⟩ | ⟨_, _, failed⟩
    · cases read.symm.trans expected
      exact ⟨enough, rfl, finished⟩
    · cases read.symm.trans failed
  · intro given
    obtain ⟨enough, rfl, finished⟩ := given
    rw [loadSnapshot_enough supported enough, finished]
    rfl

theorem loadSnapshot_of_decomposes {uc : Engine} {data state : List Byte} {blocks : List Block}
    (supported : uc.mode ≠ .mode16)
    (decomposed : Decomposes uc.memory (stateSize uc.mode) data state blocks)
    (printable : ∀ block ∈ blocks, Printable level block.header) :
    ∃ final, loadSnapshot level uc (.sound data) = .ok (⟨uc.mode, state⟩, final) ∧
      LoadState.Loaded ⟨stateSize uc.mode, uc, 0⟩ blocks final := by
  have behind := decomposed.drop_eq
  have acceptable := decomposed.acceptable
  obtain ⟨_, shape, size⟩ := decomposed
  have front : data.take (stateSize uc.mode) = state := by
    rw [shape, ← size, List.take_left]
  have length := congrArg List.length shape
  rw [List.length_append] at length
  have enough : stateSize uc.mode ≤ data.length := by omega
  obtain ⟨final, finished, loaded⟩ :=
    loadMappings_complete ⟨stateSize uc.mode, uc, 0⟩ enough behind acceptable printable
  exact ⟨final, (loadSnapshot_sound_iff supported).mpr ⟨enough, by rw [front], finished⟩, loaded⟩

theorem decomposes_of_loadSnapshot {uc : Engine} {data : List Byte} {cpuState : CpuState}
    {final : LoadState} (supported : uc.mode ≠ .mode16)
    (returned : loadSnapshot level uc (.sound data) = .ok (cpuState, final)) :
    ∃ state blocks, Decomposes uc.memory (stateSize uc.mode) data state blocks ∧
      (∀ block ∈ blocks, Printable level block.header) ∧
      cpuState = ⟨uc.mode, state⟩ ∧ LoadState.Loaded ⟨stateSize uc.mode, uc, 0⟩ blocks final := by
  obtain ⟨enough, rfl, finished⟩ := (loadSnapshot_sound_iff supported).mp returned
  obtain ⟨blocks, shape, acceptable, printable, loaded⟩ := loadMappings_sound enough finished
  obtain ⟨placed, apart⟩ := acceptable_iff.mp acceptable
  have positive := stateSize_pos supported
  refine ⟨data.take (stateSize uc.mode), blocks, ⟨?_, ?_, ?_, ?_, ?_, ?_, ?_, apart⟩, printable, rfl,
    loaded⟩
  · rintro rfl
    simp at enough
    omega
  · rw [← shape, List.take_append_drop]
  · simpa using enough
  · exact fun block member => (placed block member).1
  · exact fun block member => (placed block member).2.1
  · exact fun block member => (placed block member).2.2.1
  · exact fun block member => (placed block member).2.2.2

/-- What the loader is to do with any string of bytes: `dump_cpu_state` is reached for
exactly the strings that decompose, with exactly their regions added to memory;
every other string ends in `LOG_FATAL`, so nothing outside is ever read; and the
offset never passes the end. -/
structure LoadsExactly (level : LogLevel) (uc : Engine) (data : List Byte) : Prop where
  accepts : ∀ cpuState final, loadSnapshot level uc (.sound data) = .ok (cpuState, final) ↔
    ∃ state blocks, Decomposes uc.memory (stateSize uc.mode) data state blocks ∧
      cpuState = ⟨uc.mode, state⟩ ∧ final.offset = data.length ∧
      final.mappingsLoaded = blocks.length ∧ final.uc = { uc with memory := final.uc.memory } ∧
      final.uc.memory.regions = uc.memory.regions ++ blocks.map Block.region
  refuses : ∀ halt, loadSnapshot level uc (.sound data) = .error halt →
    ∃ message, halt = .fatal message
  stays : ∀ state, stateSize uc.mode ≤ data.length →
    Relation.ReflTransGen (LoopStep level data) ⟨stateSize uc.mode, uc, 0⟩ state →
      state.offset ≤ data.length

private theorem loadsExactly_of_printable {uc : Engine} {data : List Byte}
    (supported : uc.mode ≠ .mode16)
    (inside : FilePrintable level uc data) : LoadsExactly level uc data := by
  refine ⟨?_, loadSnapshot_fatalOnly inside, fun state enough => loopStep_offset_le enough⟩
  intro cpuState final
  have length : ∀ {state blocks}, Decomposes uc.memory (stateSize uc.mode) data state blocks →
      data.length = stateSize uc.mode + (blocksBytes blocks).length := by
    intro state blocks decomposed
    rw [decomposed.shape, List.length_append, decomposed.stateSize]
  constructor
  · intro returned
    obtain ⟨state, blocks, decomposed, _, rfl, loaded⟩ :=
      decomposes_of_loadSnapshot supported returned
    refine ⟨state, blocks, decomposed, rfl, ?_, ?_, loaded.uc, loaded.memory⟩
    · rw [loaded.offset, length decomposed]
    · simpa using loaded.mappingsLoaded
  · intro given
    obtain ⟨state, blocks, decomposed, rfl, offset, count, sameUc, regions⟩ := given
    rw [FilePrintable, decomposed.drop_eq] at inside
    obtain ⟨reached, returned, loaded⟩ := loadSnapshot_of_decomposes supported decomposed
      (inside.printable decomposed.acceptable)
    have expected : LoadState.Loaded ⟨stateSize uc.mode, uc, 0⟩ blocks final :=
      ⟨by rw [offset, length decomposed], sameUc, regions, by simp [count]⟩
    rw [returned, loaded.unique expected]

private theorem loadSnapshot_unterminated {uc : Engine} {data : List Byte}
    (supported : uc.mode ≠ .mode16)
    {blocks : List Block} {header : MapsEntry} {rest : List Byte}
    (shape : data.drop (stateSize uc.mode) = blocksBytes blocks ++ header.bytes ++ rest)
    (acceptable : Acceptable uc.memory.regions blocks) (endless : 0 ∉ header.path) :
    loadSnapshot .debug uc (.sound data) = .error .unterminated := by
  have stopped := loadMappings_unterminated ⟨stateSize uc.mode, uc, 0⟩ shape acceptable endless
  have length := congrArg List.length shape
  simp only [List.length_drop, List.length_append, MapsEntry.bytes_length, MapsEntry.size] at length
  rw [loadSnapshot_enough supported (by omega), stopped]
  rfl

/-- The loader is exact and safe for exactly the strings whose headers the log can print:
above the debug level all of them, at that level those in which every header it
gets to holds a NUL. -/
theorem loadSnapshot_exact_iff (level : LogLevel) (uc : Engine) (data : List Byte)
    (supported : uc.mode ≠ .mode16) :
    LoadsExactly level uc data ↔ FilePrintable level uc data := by
  constructor
  · intro exactly debug blocks header rest shape acceptable
    subst debug
    by_contra endless
    obtain ⟨message, impossible⟩ := exactly.refuses _
      (loadSnapshot_unterminated supported shape acceptable endless)
    cases impossible
  · exact loadsExactly_of_printable supported

def zeroPage : Block where
  header :=
    { start := 0x10000, «end» := 0x11000, read := 1, write := 1, exec := 0, shared := 0,
      fileOffset := 0, path := List.replicate maxPath 0, pathSize := List.length_replicate }
  content := List.replicate 0x1000 0
  exact := by rw [List.length_replicate]; rfl

private theorem zeroPage_decomposes :
    Decomposes (Engine.opened .mode64).memory (stateSize .mode64)
      (flatX86_64State.bytes ++ blocksBytes [zeroPage]) flatX86_64State.bytes [zeroPage] := by
  have start : zeroPage.header.start.toNat = 0x10000 := rfl
  have size : zeroPage.header.mappingSize = 0x1000 := rfl
  refine ⟨?_, rfl, flatX86_64State.bytes_length, ?_, ?_, ?_, ?_, ?_⟩
  · simp [blocksBytes, Block.bytes, MapsEntry.bytes, littleBytes]
  · simp [size]
  · simp [start]
  · simp [start, size]
  · exact fun _ _ => Engine.opened_free .mode64 _ _
  · simp

/-- The debug log prints the path of this page, and the page is loaded. -/
theorem loadSnapshot_exact_iff_zeroPage :
    ∃ final, loadSnapshot .debug (.opened .mode64)
        (.sound (flatX86_64State.bytes ++ blocksBytes [zeroPage])) =
          .ok (⟨.mode64, flatX86_64State.bytes⟩, final) ∧
      final.uc.memory.regions = [zeroPage.region] := by
  have mappable : (MemoryMap.empty : Memory).Mappable zeroPage.region.base
      zeroPage.region.data.length := by
    have length : zeroPage.region.data.length = 0x1000 := List.length_replicate
    rw [length]
    exact ⟨by decide, by decide, by decide, by decide, Engine.opened_free .mode64 _ _⟩
  have ended : (0 : Byte) ∈ zeroPage.header.path :=
    List.mem_replicate.mpr ⟨by decide, rfl⟩
  have inside : FilePrintable .debug (.opened .mode64)
      (flatX86_64State.bytes ++ blocksBytes [zeroPage]) := by
    have printable : ∀ block ∈ [zeroPage], Printable .debug block.header := by
      simpa [Printable] using ended
    exact zeroPage_decomposes.drop_eq ▸
      logsInside_of_printable printable (List.append_nil _).symm _
  have exactly := (loadSnapshot_exact_iff .debug (.opened .mode64)
    (flatX86_64State.bytes ++ blocksBytes [zeroPage]) UcMode.noConfusion).mpr inside
  refine ⟨⟨(flatX86_64State.bytes ++ blocksBytes [zeroPage]).length,
    { Engine.opened .mode64 with memory := MemoryMap.empty.extend zeroPage.region mappable }, 1⟩,
    ?_, rfl⟩
  exact (exactly.accepts _ _).mpr
    ⟨flatX86_64State.bytes, [zeroPage], zeroPage_decomposes, rfl, rfl, rfl, rfl, rfl⟩

/-- The page of zeros under a path of 4096 letters. -/
def endlessPage : Block where
  header := { zeroPage.header with
    path := List.replicate maxPath 0x61, pathSize := List.length_replicate }
  content := zeroPage.content
  exact := zeroPage.exact

/-- One header without a NUL makes the debug log read on behind it. -/
theorem loadSnapshot_debug_endlessPage :
    loadSnapshot .debug (.opened .mode64)
        (.sound (flatX86_64State.bytes ++ blocksBytes [endlessPage])) = .error .unterminated ∧
      ¬ LoadsExactly .debug (.opened .mode64)
        (flatX86_64State.bytes ++ blocksBytes [endlessPage]) := by
  have stopped : loadSnapshot .debug (.opened .mode64)
      (.sound (flatX86_64State.bytes ++ blocksBytes [endlessPage])) = .error .unterminated := by
    have size : flatX86_64State.bytes.length = stateSize .mode64 := flatX86_64State.bytes_length
    have shape : (flatX86_64State.bytes ++ blocksBytes [endlessPage]).drop (stateSize .mode64) =
        blocksBytes [] ++ endlessPage.header.bytes ++ endlessPage.content := by
      rw [← size, List.drop_left]
      simp [blocksBytes, Block.bytes]
    have endless : (0 : Byte) ∉ endlessPage.header.path := by
      intro ended
      exact absurd (List.eq_of_mem_replicate ended) (by decide)
    exact loadSnapshot_unterminated UcMode.noConfusion shape trivial endless
  refine ⟨stopped, fun exactly => ?_⟩
  obtain ⟨message, impossible⟩ := exactly.refuses _ stopped
  cases impossible

end ProcessBridge.Loader
