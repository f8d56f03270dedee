import ProcessBridge.Library.MemoryLookup
import ProcessBridge.Snapshot.RoundTrip
import ProcessBridge.Snapshotter.Arrival

/-! From the traced program to the emulator. The snapshotter is run on an arbitrary
child and its file is loaded into an engine; the engine then shows the child as
it would have been without either program. -/

set_option autoImplicit false

namespace ProcessBridge.Snapshot

open Library Common Utilities Snapshotter Loader

/-!
## Contents, byte by byte
-/

section Contents

variable {arch : Arch} {memory : BitVec arch.width → Byte} {completed : Completed arch}

/-- The lines, each with the number that its first read has if it is made. -/
def firstReads (arch : Arch) : Nat → List MapsLine → List (Nat × MapsLine)
  | _, [] => []
  | count, line :: rest =>
      (count + 2, line) :: firstReads arch (count + 1 + line.dumpCalls arch) rest

/-- One byte of a copied mapping: that of the child if the mapping is readable and the
read that was made for its chunk was complete, and zero otherwise. -/
def lineByte (memory : BitVec arch.width → Byte) (completed : Completed arch) (line : MapsLine)
    (number index : Nat) : Byte :=
  let chunk := index / bufferSize
  let first := line.start.setWidth arch.width + BitVec.ofNat _ (chunk * bufferSize)
  let length := chunkLength (line.mappingSize % 2 ^ arch.width) chunk
  if line.readable && completed (number + 2 * chunk) first length then
    memory (line.start.setWidth arch.width + BitVec.ofNat _ index)
  else 0

theorem plainMappings_eq (count : Nat) (lines : List MapsLine) :
    plainMappings memory completed count lines = (firstReads arch count lines).map fun read =>
      (read.2, plainContent memory completed read.2.readable (read.2.start.setWidth _)
        (read.2.mappingSize % 2 ^ arch.width) read.1) := by
  induction lines generalizing count with
  | nil => rfl
  | cons line rest ih => rw [plainMappings, firstReads, List.map_cons, ih]

private theorem memorySlice_getElem? (start : BitVec arch.width) {size index : Nat}
    (inside : index < size) :
    (memorySlice memory start size)[index]? = some (memory (start + BitVec.ofNat _ index)) := by
  rw [memorySlice, List.getElem?_map, List.getElem?_range inside, Option.map_some]

private theorem plainContent_getElem? (readable : Bool) (start : BitVec arch.width)
    (size count index : Nat) (inside : index < size) :
    (plainContent memory completed readable start size count)[index]? =
      some (if readable && completed (count + 2 * (index / bufferSize))
          (start + BitVec.ofNat _ (index / bufferSize * bufferSize))
          (chunkLength size (index / bufferSize)) then
        memory (start + BitVec.ofNat _ index) else 0) := by
  induction size using Nat.strong_induction_on generalizing start count index with
  | h size ih =>
      have room := bufferSize_pos
      have positive : 0 < size := by omega
      rw [plainContent_step readable _ count positive rfl]
      by_cases first : index < min bufferSize size
      · have chunk : index / bufferSize = 0 := Nat.div_eq_of_lt (by omega)
        have origin : start + BitVec.ofNat arch.width 0 = start := BitVec.add_zero start
        rw [chunk, Nat.zero_mul, Nat.mul_zero, Nat.add_zero, origin, chunkLength_zero]
        cases readable && completed count start (min bufferSize size) with
        | true =>
            rw [if_pos rfl, if_pos rfl, List.getElem?_append_left (by simpa [memorySlice_length] using first),
              memorySlice_getElem? _ first]
        | false =>
            rw [if_neg Bool.false_ne_true, if_neg Bool.false_ne_true,
              List.getElem?_append_left (by simpa using first), List.getElem?_replicate, if_pos first]
      · have full : min bufferSize size = bufferSize := by omega
        have behind : (if readable && completed count start (min bufferSize size) then
            memorySlice memory start (min bufferSize size)
            else List.replicate (min bufferSize size) 0).length = bufferSize := by
          split <;> simp [memorySlice_length, full]
        obtain ⟨later, rfl⟩ := Nat.exists_eq_add_of_le (show bufferSize ≤ index by omega)
        have number : count + 2 + 2 * (later / bufferSize) =
            count + 2 * (later / bufferSize + 1) := by omega
        have shift : ∀ offset, start + BitVec.ofNat arch.width bufferSize + BitVec.ofNat _ offset =
            start + BitVec.ofNat _ (bufferSize + offset) := by
          intro offset
          rw [BitVec.ofNat_add, BitVec.add_assoc]
        have next : (bufferSize + later) / bufferSize = later / bufferSize + 1 :=
          Nat.add_div_left _ room
        have place : bufferSize + later / bufferSize * bufferSize =
            (later / bufferSize + 1) * bufferSize := by rw [Nat.succ_mul, Nat.add_comm]
        rw [List.getElem?_append_right (by omega), behind, Nat.add_sub_cancel_left, full,
          ih (size - bufferSize) (by omega) _ _ _ (by omega), number, shift, shift, next, place,
          ← chunkLength_succ]

private theorem lineContent_getElem? (line : MapsLine) (number index : Nat)
    (inside : index < line.mappingSize % 2 ^ arch.width) :
    (plainContent memory completed line.readable (line.start.setWidth arch.width)
      (line.mappingSize % 2 ^ arch.width) number)[index]? =
      some (lineByte memory completed line number index) :=
  plainContent_getElem? _ _ _ _ _ inside

end Contents

/-!
## The memory of the engine
-/

/-- The engine's memory shows the child through its maps lines: each line that is written
is there with its permissions and its bytes, and there is nothing else but the
page of the descriptor table. The number counts the calls before the first line. -/
structure ShowsChild {arch : Arch} (engine : Memory) (memory : BitVec arch.width → Byte)
    (completed : Completed arch) (count : Nat) (lines : List MapsLine) : Prop where
  mapped : ∀ number line, (number, line) ∈ firstReads arch count lines → line.special = false →
    ∀ address, line.start.toNat ≤ address → address < line.end.toNat →
      engine.lookup address =
        some (linePerms line, lineByte memory completed line number (address - line.start.toNat))
  unmapped : ∀ address, (∀ line ∈ lines, line.special = false →
    address < line.start.toNat ∨ line.end.toNat ≤ address) →
    address < pbGdtAddr ∨ pbGdtAddr + pbGdtSize ≤ address → engine.lookup address = none

section Memory

variable {arch : Arch} {memory : BitVec arch.width → Byte} {completed : Completed arch}
  {lines : List MapsLine} {count : Nat}

private theorem gdtRegion_limit (table : GdtArray) :
    (gdtRegion table).base = pbGdtAddr ∧ (gdtRegion table).limit = pbGdtAddr + pbGdtSize := by
  simp [gdtRegion, Region.limit, pbGdtAddr, pbGdtSize]

private theorem plainMappings_listed {mapping : MapsLine × List Byte}
    (member : mapping ∈ plainMappings memory completed count lines) : mapping.1 ∈ lines := by
  have same : (plainMappings memory completed count lines).map Prod.fst = lines :=
    plainMappings_lines count lines
  rw [← same]
  exact List.mem_map_of_mem member

/-- A content is as long as its mapping, so its region ends where the line says. -/
theorem lineRegion_contains (valid : KernelLines arch.width lines) {mapping : MapsLine × List Byte}
    (member : mapping ∈ plainMappings memory completed count lines) (address : Nat) :
    (lineRegion mapping).Contains address ↔
      mapping.1.start.toNat ≤ address ∧ address < mapping.1.end.toNat := by
  have listed := plainMappings_listed member
  have sizes := sizes_exact (by rwa [plainMappings_lines]) (plainMappings_length count lines)
    mapping member
  have ordered := valid.nonempty _ listed
  rw [mappingSize_eq ordered] at sizes
  simp only [Region.Contains, Region.limit, lineRegion, sizes]
  omega

private theorem showsChild_of_regions (valid : KernelLines arch.width lines) {engine : Memory}
    {table : GdtArray}
    (regions : engine.regions =
      (kept (plainMappings memory completed count lines)).map lineRegion ++ [gdtRegion table]) :
    ShowsChild engine memory completed count lines where
  mapped := by
    intro number line listed ordinary address lower upper
    have member : (line, plainContent memory completed line.readable (line.start.setWidth _)
        (line.mappingSize % 2 ^ arch.width) number) ∈
        plainMappings memory completed count lines := by
      rw [plainMappings_eq]
      exact List.mem_map_of_mem listed
    have keeps : _ ∈ kept (plainMappings memory completed count lines) :=
      List.mem_filter.mpr ⟨member, by simpa using ordinary⟩
    have there := List.mem_append_left [gdtRegion table] (List.mem_map_of_mem (f := lineRegion) keeps)
    rw [← regions] at there
    have inside := (lineRegion_contains valid member address).mpr ⟨lower, upper⟩
    have size : address - line.start.toNat < line.mappingSize % 2 ^ arch.width := by
      have bound := inside.2
      simp only [Region.limit, lineRegion, plainContent_length] at bound
      omega
    exact MemoryMap.lookup_eq_some_iff.mpr
      ⟨_, there, inside, rfl, lineContent_getElem? line number _ size⟩
  unmapped := by
    intro address outside noTable
    refine MemoryMap.lookup_eq_none_iff.mpr fun region member inside => ?_
    rw [regions, List.mem_append, List.mem_singleton] at member
    rcases member with mapped | rfl
    · obtain ⟨mapping, keeps, rfl⟩ := List.mem_map.mp mapped
      obtain ⟨old, ordinary⟩ := List.mem_filter.mp keeps
      have listed := plainMappings_listed old
      have bounds := (lineRegion_contains valid old address).mp inside
      rcases outside mapping.1 listed (by simpa using ordinary) with below | above
      · omega
      · omega
    · obtain ⟨base, limit⟩ := gdtRegion_limit table
      rw [Region.Contains, base, limit] at inside
      omega

end Memory

/-!
## The registers of the engine
-/

section Registers

/-- The engine holds the registers of a child; of `eflags` those bits that are the
program's own. -/
def HoldsRegs (u : Unicorn) (engine : Engine) : (platform : Platform) → platform.arch.Regs → Prop
  | .x86_64, (regs : PbX86_64Regs) =>
      (∀ pair ∈ X8664.carried regs, ucRegRead engine pair.1 = pair.2) ∧
        engine.eflags &&& u.eflagsMask = regs.eflags.setWidth 32 &&& u.eflagsMask
  | .i386, (regs : PbI386Regs) =>
      (∀ pair ∈ I386.carried regs, ucRegRead engine pair.1 = pair.2.setWidth 64) ∧
        engine.eflags &&& u.eflagsMask = regs.eflags &&& u.eflagsMask

/-- The segment registers hold selectors, which have sixteen bits. -/
def Selectors16 : (platform : Platform) → platform.arch.Regs → Prop
  | .x86_64, (regs : PbX86_64Regs) => X8664.Selectors16 regs
  | .i386, (regs : PbI386Regs) => I386.Selectors16 regs

/-- The mode of an engine that emulates the platform. -/
def engineMode : Platform → UcMode
  | .x86_64 => .mode64
  | .i386 => .mode32

theorem engineMode_supported (platform : Platform) : engineMode platform ≠ .mode16 := by
  cases platform with
  | x86_64 | i386 => exact UcMode.noConfusion

variable {platform : Platform} {state : platform.ProcessState} {u : Unicorn} {uc after : Engine}
  {entry : BitVec 64}

theorem state_length (platform : Platform) (state : platform.ProcessState) :
    (platform.bytes state).length = stateSize (engineMode platform) := by
  cases platform with
  | x86_64 => exact LinuxX86_64ProcessState.bytes_length state
  | i386 => exact LinuxI386ProcessState.bytes_length state

private theorem dumpCpuState_shows (narrow : Selectors16 platform (platform.regs state))
    (returned : dumpCpuState u uc ⟨engineMode platform, platform.bytes state⟩ = .ok (entry, after)) :
    entry = (platform.arch.ip (platform.regs state)).setWidth 64 ∧
      HoldsRegs u after platform (platform.regs state) ∧
      ∃ table, after.memory.regions = uc.memory.regions ++ [gdtRegion table] := by
  cases platform with
  | x86_64 =>
      change LinuxX86_64ProcessState at state
      change X8664.dumpX86_64CpuState u uc (.ofBytes state.bytes) = _ at returned
      rw [LinuxX86_64ProcessState.ofBytes_bytes] at returned
      obtain ⟨_, entered, restores, _⟩ := X8664.dumpX86_64CpuState_ok_inv returned
      have restored := restores narrow
      refine ⟨?_, ⟨restored.registers, restored.eflags⟩, _, restored.memory⟩
      rw [entered]
      exact (BitVec.setWidth_eq _).symm
  | i386 =>
      change LinuxI386ProcessState at state
      change I386.dumpI386CpuState u uc (.ofBytes state.bytes) = _ at returned
      rw [LinuxI386ProcessState.ofBytes_bytes] at returned
      obtain ⟨_, entered, restores, _⟩ := I386.dumpI386CpuState_ok_inv returned
      have restored := restores narrow
      obtain ⟨table, _, regions⟩ := restored.memory
      exact ⟨entered, ⟨restored.registers, restored.eflags⟩, table, regions⟩

end Registers

/-!
## Both programs
-/

section Both

variable {platform : Platform} {kernel : Kernel platform.arch}

/-- Loading a process state and mappings gives the state of the child they were written
from. -/
theorem emitted_shows {stale : MapsEntry} {state : platform.ProcessState} {count : Nat}
    {lines : List MapsLine} {memory : BitVec platform.arch.width → Byte}
    {completed : Completed platform.arch} {level : LogLevel} {u : Unicorn} {uc after : Engine}
    {entry : BitVec 64} (valid : KernelLines platform.arch.width lines)
    (narrow : Selectors16 platform (platform.regs state)) (mode : uc.mode = engineMode platform)
    (empty : uc.memory.regions = [])
    (returned : Loader.dumpSnapshot level u uc (.sound (platform.bytes state ++
      emitted stale (plainMappings memory completed count lines))) = .ok (entry, after)) :
    entry = (platform.arch.ip (platform.regs state)).setWidth 64 ∧
      HoldsRegs u after platform (platform.regs state) ∧
      ShowsChild after.memory memory completed count lines := by
  have supported : uc.mode ≠ .mode16 := mode ▸ engineMode_supported platform
  have length : (platform.bytes state).length = stateSize uc.mode := by
    rw [mode, state_length]
  have positive : 0 < (platform.bytes state).length := length ▸ stateSize_pos supported
  have same : (plainMappings memory completed count lines).map Prod.fst = lines :=
    plainMappings_lines _ _
  have sizes := sizes_exact (by rwa [same]) (plainMappings_length count lines)
  obtain ⟨blocks, emits, regions, ended⟩ := emitted_blocks stale sizes
  have room : Room uc (plainMappings memory completed count lines) := .of_empty empty _
  have decomposed := decomposes_of_lines positive room.free (by rwa [same]) sizes regions
  rw [length, ← emits] at decomposed
  have printable : ∀ block ∈ blocks, Printable level block.header :=
    fun block member _ => ended block member
  obtain ⟨loaded, read, loads⟩ := loadSnapshot_of_decomposes supported decomposed printable
  rw [Loader.dumpSnapshot, read, ok_bind, mode] at returned
  obtain ⟨entered, holds, table, final⟩ := dumpCpuState_shows narrow returned
  have shape : after.memory.regions = (kept (plainMappings memory completed count
      lines)).map lineRegion ++ [gdtRegion table] := by
    rw [final, loads.memory, empty, List.nil_append, regions]
  exact ⟨entered, holds, showsChild_of_regions valid shape⟩

/-- What the snapshotter writes of any child that does not look at the breakpoint is
loaded as the child would have been, undisturbed, at its first arrival there:
execution starts at the breakpoint with the registers of the child, and memory
shows the child through its maps file. -/
theorem snapshot_restores_undisturbed (platform : Platform) (kernel : Kernel platform.arch)
    (machine : Machine platform.arch) (locals : Locals) (argv : List (List Byte))
    (final : World platform.arch) (hookAddr : BitVec platform.arch.width)
    (start arrived : Tracee platform.arch) (steps : Nat) (completed : Completed platform.arch)
    (level : LogLevel) (u : Unicorn) (uc after : Engine) (entry : BitVec 64)
    (small : kernel.pid < 2 ^ 31)
    (ran : (main platform locals argv).run kernel.answer (.initial platform.arch) =
      (.ok .success, final))
    (armed : (hookAddr, Child.stopped start) ∈ peeks final.log)
    (follows : kernel.Follows machine) (ignores : machine.Ignores hookAddr)
    (away : start.ip ≠ hookAddr) (runs : machine.Runs hookAddr start steps arrived)
    (here : arrived.ip = hookAddr) (narrow : Selectors16 platform arrived.regs)
    (completes : kernel.Completes completed)
    (valid : ∀ count lines, List.Forall₂ (fun text line => sscanfMaps text = some line)
      (kernel.maps count) lines → KernelLines platform.arch.width lines)
    (mode : uc.mode = engineMode platform) (empty : uc.memory.regions = [])
    (returned : Loader.dumpSnapshot level u uc (.sound final.output) = .ok (entry, after)) :
    entry = hookAddr.setWidth 64 ∧ HoldsRegs u after platform arrived.regs ∧
      ∃ opened lines, final.OpensAt opened ∧
        List.Forall₂ (fun text line => sscanfMaps text = some line)
          (kernel.maps (opened + 2)) lines ∧
        ShowsChild after.memory arrived.memory completed (opened + 4) lines := by
  obtain ⟨state, opened, lines, regs, opens, written⟩ :=
    main_undisturbed small ran armed follows ignores away runs here
  rw [← regs] at narrow
  rw [written.contents completed completes] at returned
  obtain ⟨entered, holds, shows⟩ := emitted_shows (valid _ lines written.parse) narrow mode empty
    returned
  rw [regs] at entered holds
  have stands : platform.arch.ip arrived.regs = hookAddr := here
  rw [stands] at entered
  exact ⟨entered, holds, opened, lines, opens, written.parse, shows⟩

end Both

/-!
## A small program
-/

/-- The breakpoint lies on the page that the program's maps file lists. -/
def pageHook : BitVec Arch.x86_64.width := 0x10800

def pageArgv : List (List Byte) :=
  [[0x73], [0x31, 0x30, 0x38, 0x30, 0x30], [0x2E, 0x2F, 0x74]]

theorem pageOffset_parses : parseOffset [0x31, 0x30, 0x38, 0x30, 0x30] = some 0x10800 := by decide

/-- A program of `nop`s that jumps to the breakpoint, and a kernel that lets it. -/
def jumpImage : Tracee .x86_64 := ⟨{ flatX86_64State.regs with rip := 0 }, fun _ => 0x90⟩

def jumpTarget : Kernel .x86_64 :=
  { copyingKernel [anonymousText] fun _ => true with
    image := jumpImage
    elf := fixedKernel.elf
    report := fun _ resume tracee =>
      match resume with
      | .exec => some (.stopped sigtrap, tracee)
      | _ => some (jumpReport pageHook tracee) }

theorem jumpTarget_follows : jumpTarget.Follows (jumpMachine pageHook) :=
  ⟨(jumpKernel_follows (by decide)).traps, (jumpKernel_follows (by decide)).ends⟩

theorem jumpImage_runs :
    (jumpMachine pageHook).Runs pageHook jumpImage 1 (jumpImage.setIp pageHook) :=
  .step (by decide) (by decide) rfl (.refl _)

theorem jumpImage_narrow : X8664.Selectors16 (jumpImage.setIp pageHook).regs :=
  ⟨by decide, by decide, by decide, by decide, by decide, by decide⟩

theorem jumpTarget_completes : jumpTarget.Completes fun _ _ _ => true := by
  intro count address size buffer
  simp [jumpTarget, copyingKernel, mapsKernel]

def jumpState : LinuxX86_64ProcessState := ⟨{ flatX86_64State.regs with rip := 0x10800 }⟩

-- the copy of the page is evaluated with the rest of the run
unseal copyContent in
private theorem jumpTarget_ran :
    ∃ final : World .x86_64,
      (main .x86_64 blankLocals pageArgv).run jumpTarget.answer (.initial .x86_64) =
        (.ok .success, final) ∧
      peeks final.log = [(pageHook, .stopped jumpImage)] :=
  ⟨_, rfl, rfl⟩

private theorem jumpTarget_armed {final : World .x86_64}
    (listed : peeks final.log = [(pageHook, .stopped jumpImage)]) :
    (pageHook, Child.stopped jumpImage) ∈ peeks final.log := by
  rw [listed]
  exact List.mem_singleton_self _

/-- Its maps file has one line. -/
theorem anonymousText_lines {lines : List MapsLine}
    (parsed : List.Forall₂ (fun text line => sscanfMaps text = some line) [anonymousText] lines) :
    lines = [anonymousLine] := by
  cases parsed with
  | cons first rest =>
      cases rest
      cases anonymousText_parses.symm.trans first
      rfl

private theorem anonymousLines_valid : ∀ (count : Nat) (lines : List MapsLine),
    List.Forall₂ (fun text line => sscanfMaps text = some line) (jumpTarget.maps count) lines →
      KernelLines 64 lines := by
  intro count lines parsed
  rw [anonymousText_lines parsed]
  exact anonymousLine_valid

theorem jumpState_accepted : X8664.GdtAccepts jumpState.regs :=
  ⟨by decide, by decide, by decide, by decide, by decide⟩

/-- Any file with that line is loaded. -/
theorem jumpState_loads {content : List Byte} (size : content.length = anonymousLine.mappingSize) :
    ∃ loaded, Loader.dumpSnapshot .debug .lenient (.opened .mode64) (.sound (jumpState.bytes ++
        emitted blankLocals.dumpEntry [(anonymousLine, content)])) = .ok (0x10800, loaded) ∧
      lineRegion (anonymousLine, content) ∈ loaded.memory.regions := by
  have sizes : ∀ mapping ∈ [(anonymousLine, content)],
      mapping.2.length = mapping.1.mappingSize := by
    simpa using size
  have opened : (Engine.opened .mode64).mode = (Captured.x86_64 jumpState).mode := rfl
  have enters : (Captured.x86_64 jumpState).Enters .lenient (.opened .mode64) :=
    fun _ _ _ _ => rfl
  obtain ⟨blocks, emits, regions, ended⟩ := emitted_blocks blankLocals.dumpEntry sizes
  have empty : (Engine.opened .mode64).memory.regions = [] := rfl
  obtain ⟨loaded, table, _, returned, mapped⟩ := dumpSnapshot_blocks .debug (.x86_64 jumpState)
    jumpState_accepted opened enters (.of_empty empty _) anonymousLine_valid sizes regions ended
  rw [empty, List.nil_append] at mapped
  have keeps : (anonymousLine, content) ∈ kept [(anonymousLine, content)] := List.mem_cons_self
  rw [← emits] at returned
  exact ⟨loaded, returned, mapped ▸ List.mem_append_left _ (List.mem_map_of_mem keeps)⟩

/-- The state of that child and its page. -/
theorem jumpTarget_output {final : World .x86_64}
    (ran : (main .x86_64 blankLocals pageArgv).run jumpTarget.answer (.initial .x86_64) =
      (.ok .success, final))
    (armed : (pageHook, Child.stopped jumpImage) ∈ peeks final.log) :
    ∃ content : List Byte, content.length = anonymousLine.mappingSize ∧
      final.output = jumpState.bytes ++
        emitted blankLocals.dumpEntry [(anonymousLine, content)] := by
  have away : jumpImage.ip ≠ pageHook := by decide
  obtain ⟨⟨regs⟩, opened, lines, same, _, written⟩ :=
    @main_undisturbed .x86_64 jumpTarget blankLocals pageArgv final (by decide) ran _ _ _ _ _ armed
      jumpTarget_follows (jumpMachine_ignores pageHook) away jumpImage_runs (Tracee.ip_setIp _ _)
  obtain rfl : regs = jumpState.regs := same
  cases anonymousText_lines written.parse
  exact ⟨_, plainContent_length _ _ _ _, written.contents _ jumpTarget_completes⟩

/-- The emulator starts that program at the breakpoint, on the page of `nop`s that was
there before the breakpoint was. -/
theorem snapshot_restores_jump :
    ∃ (final : World .x86_64) (loaded : Engine),
      (main .x86_64 blankLocals pageArgv).run jumpTarget.answer (.initial .x86_64) =
        (.ok .success, final) ∧
      Loader.dumpSnapshot .debug .lenient (.opened .mode64) (.sound final.output) =
        .ok (0x10800, loaded) ∧
      HoldsRegs .lenient loaded .x86_64 (jumpImage.setIp pageHook).regs ∧
      loaded.memory.lookup 0x10800 = some (⟨true, true, false⟩, 0x90) := by
  obtain ⟨final, ran, listed⟩ := jumpTarget_ran
  have armed := jumpTarget_armed listed
  obtain ⟨content, size, output⟩ := jumpTarget_output ran armed
  obtain ⟨loaded, returned, _⟩ := jumpState_loads size
  rw [← output] at returned
  obtain ⟨_, holds, opened, lines, _, parsed, shows⟩ :=
    snapshot_restores_undisturbed .x86_64 jumpTarget (jumpMachine pageHook) blankLocals pageArgv
      final pageHook jumpImage (jumpImage.setIp pageHook) 1 _ .debug .lenient (.opened .mode64) loaded
      0x10800 (by decide : 1 < 2 ^ 31) ran armed jumpTarget_follows (jumpMachine_ignores pageHook)
      (by decide : (0 : BitVec 64) ≠ 0x10800) jumpImage_runs (Tracee.ip_setIp _ _) jumpImage_narrow
      jumpTarget_completes anonymousLines_valid rfl rfl returned
  cases anonymousText_lines parsed
  exact ⟨final, loaded, ran, returned, holds,
    shows.mapped _ anonymousLine List.mem_cons_self (by decide) 0x10800 (by decide) (by decide)⟩

end ProcessBridge.Snapshot
