import ProcessBridge.Loader.RegWrites

/-! Restoring the state of a 32-bit process. The engine starts in ring 0, so the
user code and stack segments are entered by executing one `iret` from a scratch
page; the data segments follow, because the return may clear them. -/

set_option autoImplicit false

namespace ProcessBridge.Loader.I386

open Library Common

def compatibilityGdtEntryDefaultUser32Cs : Nat := 4

def trueGdtEntryDefaultUserCs : Nat := 14

def pbTrampolineAddr : Nat := 0x2000

def pbTrampolineSize : Nat := 0x1000

def codeDesc : BitVec 64 := gdtEntryInit (descCode32 ||| descUser) 0 0xfffff

/-- The data descriptor that goes with the code segment of the captured kernel. -/
def dataDesc (regs : PbI386Regs) : Except Halt (BitVec 64) :=
  if regs.xcs >>> 3 = BitVec.ofNat 32 compatibilityGdtEntryDefaultUser32Cs then
    .ok (gdtEntryInit (descData64 ||| descUser) 0 0xfffff)
  else if regs.xcs >>> 3 = BitVec.ofNat 32 trueGdtEntryDefaultUserCs then
    .ok (gdtEntryInit (descData32 ||| descUser) 0 0xfffff)
  else .error (.fatal "cs is not the default user cs")

def storeTls (state : LinuxI386ProcessState) :
    List (Fin gdtEntryTlsEntries) → GdtArray → Except Halt GdtArray
  | [], table => .ok table
  | slot :: rest, table => do
      let table ← table.store (state.tls slot).entryNumber.toNat
        (userDescToRealDesc (state.tls slot))
      storeTls state rest table

/-- The checks of `dump_gdt` and its stores into `gdt_array`. -/
def fillGdt (state : LinuxI386ProcessState) : Except Halt GdtArray := do
  let regs := state.regs
  fatalIf (regs.xcs &&& 0x4 ≠ 0 ∨ regs.xds &&& 0x4 ≠ 0 ∨ regs.xes &&& 0x4 ≠ 0 ∨
    regs.xfs &&& 0x4 ≠ 0 ∨ regs.xgs &&& 0x4 ≠ 0 ∨ regs.xss &&& 0x4 ≠ 0) "ldt not supported"
  let data ← dataDesc regs
  let table ← GdtArray.zero.store (regs.xcs >>> 3).toNat codeDesc
  let table ← table.store (regs.xss >>> 3).toNat data
  storeTls state (List.finRange gdtEntryTlsEntries) table

def dumpGdt (uc : Engine) (state : LinuxI386ProcessState) : Except Halt Engine := do
  let uc ← pbUcCheck (ucMemMap uc pbGdtAddr pbGdtSize ⟨true, true, false⟩) "failed to map gdt: %s"
  let table ← fillGdt state
  installGdt uc table

def iretFrame (regs : PbI386Regs) : IretFrame where
  eip := regs.eip
  cs := regs.xcs
  eflags := regs.eflags
  esp := regs.esp
  ss := regs.xss

def frameAddr : Nat := pbTrampolineAddr + pbTrampolineSize / 2

def enterRing3 (u : Unicorn) (uc : Engine) (state : LinuxI386ProcessState) :
    Except Halt Engine := do
  let uc ← pbUcCheck (ucMemMap uc pbTrampolineAddr pbTrampolineSize ⟨true, true, true⟩)
    "failed to map ring3 trampoline"
  let uc ← pbUcCheck (ucMemWrite uc pbTrampolineAddr [0xCF])
    "failed to write ring3 trampoline stub"
  let uc ← pbUcCheck (ucMemWrite uc frameAddr (iretFrame state.regs).bytes)
    "failed to write ring3 iret frame"
  let uc ← pbUcCheck (ucRegWrite u uc (.dword .sp) (BitVec.ofNat 64 frameAddr))
    "failed to set up ring3 trampoline stack pointer"
  let uc ← pbUcCheck (ucEmuStart u uc pbTrampolineAddr) "failed to execute ring3 iret trampoline"
  pbUcCheck (ucMemUnmap uc pbTrampolineAddr pbTrampolineSize) "failed to unmap ring3 trampoline"

def gprWrites (regs : PbI386Regs) : List RegWrite :=
  [⟨.dword .bx, regs.ebx.setWidth 64, "failed to write ebx"⟩,
    ⟨.dword .cx, regs.ecx.setWidth 64, "failed to write ecx"⟩,
    ⟨.dword .dx, regs.edx.setWidth 64, "failed to write edx"⟩,
    ⟨.dword .si, regs.esi.setWidth 64, "failed to write esi"⟩,
    ⟨.dword .di, regs.edi.setWidth 64, "failed to write edi"⟩,
    ⟨.dword .bp, regs.ebp.setWidth 64, "failed to write ebp"⟩,
    ⟨.dword .ax, regs.eax.setWidth 64, "failed to write eax"⟩]

def segmentWrites (regs : PbI386Regs) : List RegWrite :=
  [⟨.seg .ds, regs.xds.setWidth 64, "failed to write xds"⟩,
    ⟨.seg .es, regs.xes.setWidth 64, "failed to write xes"⟩,
    ⟨.seg .fs, regs.xfs.setWidth 64, "failed to write xfs"⟩,
    ⟨.seg .gs, regs.xgs.setWidth 64, "failed to write xgs"⟩]

def dumpRegs (u : Unicorn) (uc : Engine) (state : LinuxI386ProcessState) : Except Halt Engine := do
  let uc ← writeRegs u uc (gprWrites state.regs)
  let uc ← enterRing3 u uc state
  writeRegs u uc (segmentWrites state.regs)

def dumpI386CpuState (u : Unicorn) (uc : Engine) (state : LinuxI386ProcessState) :
    Except Halt (BitVec 64 × Engine) := do
  let uc ← dumpGdt uc state
  let uc ← dumpRegs u uc state
  .ok (ucRegRead uc .eip, uc)

/-!
## The descriptor table
-/

theorem store_ok_iff {table stored : GdtArray} {index : Nat} {descriptor : BitVec 64} :
    table.store index descriptor = .ok stored ↔
      ∃ inside : index < 512, stored = table.set index descriptor inside := by
  unfold GdtArray.store
  split
  · next inside =>
      constructor
      · intro kept
        cases kept
        exact ⟨inside, rfl⟩
      · intro given
        obtain ⟨_, rfl⟩ := given
        rfl
  · next outside =>
      constructor
      · intro kept
        cases kept
      · intro given
        obtain ⟨inside, _⟩ := given
        exact absurd inside outside

def entryOf (state : LinuxI386ProcessState) (slot : Fin gdtEntryTlsEntries) : Nat :=
  (state.tls slot).entryNumber.toNat

theorem storeTls_other {state : LinuxI386ProcessState} {slots : List (Fin gdtEntryTlsEntries)}
    {table filled : GdtArray} (stored : storeTls state slots table = .ok filled) {index : Nat}
    (unnamed : ∀ slot ∈ slots, entryOf state slot ≠ index) : filled[index]? = table[index]? := by
  induction slots generalizing table with
  | nil =>
      cases stored
      rfl
  | cons slot rest ih =>
      obtain ⟨middle, kept, others⟩ := bind_ok_iff.mp stored
      obtain ⟨_, rfl⟩ := store_ok_iff.mp kept
      rw [ih others fun slot member => unnamed slot (List.mem_cons_of_mem _ member)]
      exact Vector.getElem?_set_ne _ (unnamed slot (by simp))

/-- The last slot that names an entry decides its descriptor. -/
theorem storeTls_last {state : LinuxI386ProcessState}
    {before behind : List (Fin gdtEntryTlsEntries)} {slot : Fin gdtEntryTlsEntries}
    {table filled : GdtArray} (stored : storeTls state (before ++ slot :: behind) table = .ok filled)
    (latest : ∀ later ∈ behind, entryOf state later ≠ entryOf state slot) :
    filled[entryOf state slot]? = some (userDescToRealDesc (state.tls slot)) := by
  induction before generalizing table with
  | nil =>
      obtain ⟨middle, kept, others⟩ := bind_ok_iff.mp stored
      obtain ⟨inside, rfl⟩ := store_ok_iff.mp kept
      rw [storeTls_other others latest]
      exact Vector.getElem?_set_self _
  | cons first before ih =>
      obtain ⟨middle, _, others⟩ := bind_ok_iff.mp stored
      exact ih others

theorem storeTls_ok_iff {state : LinuxI386ProcessState} {slots : List (Fin gdtEntryTlsEntries)}
    {table : GdtArray} :
    (∃ filled, storeTls state slots table = .ok filled) ↔
      ∀ slot ∈ slots, entryOf state slot < 512 := by
  induction slots generalizing table with
  | nil => simp [storeTls]
  | cons slot rest ih =>
      simp only [storeTls, bind_ok_iff, store_ok_iff, List.forall_mem_cons]
      constructor
      · intro given
        obtain ⟨filled, _, ⟨inside, rfl⟩, others⟩ := given
        exact ⟨inside, ih.mp ⟨filled, others⟩⟩
      · intro given
        obtain ⟨inside, others⟩ := given
        obtain ⟨filled, stored⟩ := ih.mpr others
        exact ⟨filled, _, ⟨inside, rfl⟩, stored⟩

/-- The states for which `dump_gdt` rebuilds a table: no local descriptors, a
known code segment, and every stored entry inside the page. -/
structure GdtAccepts (state : LinuxI386ProcessState) : Prop where
  noLdt : state.regs.xcs &&& 0x4 = 0 ∧ state.regs.xds &&& 0x4 = 0 ∧ state.regs.xes &&& 0x4 = 0 ∧
    state.regs.xfs &&& 0x4 = 0 ∧ state.regs.xgs &&& 0x4 = 0 ∧ state.regs.xss &&& 0x4 = 0
  xcs : state.regs.xcs >>> 3 = BitVec.ofNat 32 compatibilityGdtEntryDefaultUser32Cs ∨
    state.regs.xcs >>> 3 = BitVec.ofNat 32 trueGdtEntryDefaultUserCs
  xss : (state.regs.xss >>> 3).toNat < 512
  tls : ∀ slot, entryOf state slot < 512

theorem dataDesc_ok_iff {regs : PbI386Regs} :
    (∃ data, dataDesc regs = .ok data) ↔
      regs.xcs >>> 3 = BitVec.ofNat 32 compatibilityGdtEntryDefaultUser32Cs ∨
        regs.xcs >>> 3 = BitVec.ofNat 32 trueGdtEntryDefaultUserCs := by
  unfold dataDesc
  split
  · next compatible => simp [compatible]
  · next incompatible =>
      split
      · next native => simp [native]
      · next foreign => simp [incompatible, foreign]

private theorem slots_split (slot : Fin gdtEntryTlsEntries) :
    ∃ before behind, List.finRange gdtEntryTlsEntries = before ++ slot :: behind ∧
      ∀ later ∈ behind, slot < later := by
  match slot with
  | 0 => exact ⟨[], [1, 2], rfl, by decide⟩
  | 1 => exact ⟨[0], [2], rfl, by decide⟩
  | 2 => exact ⟨[0, 1], [], rfl, by decide⟩

theorem fillGdt_ok_iff {state : LinuxI386ProcessState} :
    (∃ table, fillGdt state = .ok table) ↔ GdtAccepts state := by
  have slots : (∀ slot ∈ List.finRange gdtEntryTlsEntries, entryOf state slot < 512) ↔
      ∀ slot, entryOf state slot < 512 := by
    simp only [List.mem_finRange, forall_const]
  simp only [fillGdt, bind_ok_iff, fatalIf_ok_iff, store_ok_iff]
  constructor
  · intro given
    obtain ⟨table, _, noLdt, data, known, _, ⟨_, rfl⟩, _, ⟨ssInside, rfl⟩, stored⟩ := given
    exact ⟨by simpa only [not_or, not_not] using noLdt, dataDesc_ok_iff.mp ⟨data, known⟩, ssInside,
      slots.mp (storeTls_ok_iff.mp ⟨table, stored⟩)⟩
  · intro given
    obtain ⟨noLdt, xcs, xss, tls⟩ := given
    obtain ⟨data, known⟩ := dataDesc_ok_iff.mpr xcs
    have csInside : (state.regs.xcs >>> 3).toNat < 512 := by
      rcases xcs with compatible | native
      · rw [compatible]
        decide
      · rw [native]
        decide
    obtain ⟨table, stored⟩ := storeTls_ok_iff.mpr (slots.mpr tls)
    exact ⟨table, (), by simpa only [not_or, not_not] using noLdt, data, known, _,
      ⟨csInside, rfl⟩, _, ⟨xss, rfl⟩, stored⟩

theorem enterRing3_fatalOnly (u : Unicorn) (uc : Engine) (state : LinuxI386ProcessState) :
    FatalOnly (enterRing3 u uc state) :=
  .bind (.pbUcCheck _ _) fun _ _ => .bind (.pbUcCheck _ _) fun _ _ =>
    .bind (.pbUcCheck _ _) fun _ _ => .bind (.pbUcCheck _ _) fun _ _ =>
      .bind (.pbUcCheck _ _) fun _ _ => .pbUcCheck _ _

/-- Behind the stores into the table, every failure is reported. -/
theorem dumpI386CpuState_fatalOnly (u : Unicorn) (uc : Engine) {state : LinuxI386ProcessState}
    (accepted : GdtAccepts state) : FatalOnly (dumpI386CpuState u uc state) := by
  obtain ⟨table, filled⟩ := fillGdt_ok_iff.mpr accepted
  have gdt : FatalOnly (dumpGdt uc state) := by
    refine .bind (.pbUcCheck _ _) fun mapped _ => ?_
    rw [filled, ok_bind]
    exact installGdt_fatalOnly mapped table
  exact .bind gdt fun _ _ => .bind (.bind (writeRegs_fatalOnly _ _ _) fun _ _ =>
    .bind (enterRing3_fatalOnly _ _ _) fun _ _ => writeRegs_fatalOnly _ _ _) fun _ _ => .ok _

theorem dumpGdt_ok_inv {uc after : Engine} {state : LinuxI386ProcessState}
    (returned : dumpGdt uc state = .ok after) :
    ∃ table, fillGdt state = .ok table ∧ ∃ memory : Memory, after = uc.withGdt memory ∧
      memory.regions = uc.memory.regions ++ [gdtRegion table] := by
  rw [dumpGdt, bind_ok_iff] at returned
  obtain ⟨mapped, mapOk, returned⟩ := returned
  rw [pbUcCheck_ok_iff] at mapOk
  obtain ⟨table, filled, installed⟩ := bind_ok_iff.mp returned
  rcases ucMemMap_cases uc pbGdtAddr pbGdtSize ⟨true, true, false⟩ with
    ⟨_, memory, created, shape⟩ | ⟨_, failed⟩
  · rw [created] at mapOk
    cases mapOk
    obtain ⟨final, installOk, finalShape⟩ :=
      installGdt_ok { uc with memory } List.length_replicate shape table
    rw [installOk] at installed
    cases installed
    exact ⟨table, filled, final, rfl, finalShape⟩
  · rw [failed] at mapOk
    cases mapOk

theorem dumpGdt_ok {uc : Engine} {state : LinuxI386ProcessState}
    (free : uc.memory.Free pbGdtAddr pbGdtSize) (accepted : GdtAccepts state) :
    ∃ after, dumpGdt uc state = .ok after := by
  have mappable : uc.memory.Mappable pbGdtAddr pbGdtSize :=
    ⟨by decide, by decide, by decide, by decide, free⟩
  obtain ⟨table, filled⟩ := fillGdt_ok_iff.mpr accepted
  rcases ucMemMap_cases uc pbGdtAddr pbGdtSize ⟨true, true, false⟩ with
    ⟨_, memory, created, shape⟩ | ⟨refused, _⟩
  · obtain ⟨final, installOk, _⟩ :=
      installGdt_ok { uc with memory } List.length_replicate shape table
    refine ⟨Engine.withGdt { uc with memory } final, ?_⟩
    rw [dumpGdt, created, pbUcCheck, ok_bind, filled, ok_bind, installOk]
  · exact absurd mappable refused

/-- No later slot has the same table entry. The kernel numbers the slots of a process
consecutively, so this is true of every slot of a captured state. -/
def LastOfEntry (state : LinuxI386ProcessState) (slot : Fin gdtEntryTlsEntries) : Prop :=
  ∀ later, slot < later → entryOf state later ≠ entryOf state slot

theorem fillGdt_tls {state : LinuxI386ProcessState} {table : GdtArray}
    (filled : fillGdt state = .ok table) {slot : Fin gdtEntryTlsEntries}
    (last : LastOfEntry state slot) :
    table[entryOf state slot]? = some (userDescToRealDesc (state.tls slot)) := by
  simp only [fillGdt, bind_ok_iff] at filled
  obtain ⟨_, _, _, _, _, _, _, _, stored⟩ := filled
  obtain ⟨before, behind, order, increasing⟩ := slots_split slot
  rw [order] at stored
  exact storeTls_last stored fun later member => last later (increasing later member)

/-!
## Entering ring 3
-/

/-- The engine at the moment the `iret` executes. -/
def trampolineReady (uc : Engine) (memory : Memory) : Engine :=
  { uc with
    memory
    gpr := Function.update uc.gpr .sp
      ((uc.gpr .sp).extractLsb' 32 32 ++ (BitVec.ofNat 64 frameAddr).setWidth 32) }

def trampolineStub : Region UcProt Byte :=
  Region.overlay pbTrampolineAddr [0xCF]
    ⟨pbTrampolineAddr, ⟨true, true, true⟩, List.replicate pbTrampolineSize 0⟩

/-- What the scratch page holds before the `iret`. -/
def trampolinePage (regs : PbI386Regs) : Region UcProt Byte :=
  trampolineStub.overlay frameAddr (iretFrame regs).bytes

theorem iretFrame_length (regs : PbI386Regs) : (iretFrame regs).bytes.length = 20 := by
  simp [IretFrame.bytes]

@[simp] theorem trampolineStub_base : trampolineStub.base = pbTrampolineAddr := rfl

@[simp] theorem trampolineStub_length : trampolineStub.data.length = pbTrampolineSize := by
  rw [trampolineStub, Region.overlay_length, List.length_replicate]

private theorem trampolineStub_limit :
    trampolineStub.limit = pbTrampolineAddr + pbTrampolineSize := by
  rw [Region.limit, trampolineStub_base, trampolineStub_length]

@[simp] theorem trampolinePage_base (regs : PbI386Regs) :
    (trampolinePage regs).base = pbTrampolineAddr := rfl

@[simp] theorem trampolinePage_length (regs : PbI386Regs) :
    (trampolinePage regs).data.length = pbTrampolineSize := by
  rw [trampolinePage, Region.overlay_length, trampolineStub_length]

private theorem trampolinePage_limit (regs : PbI386Regs) :
    (trampolinePage regs).limit = pbTrampolineAddr + pbTrampolineSize := by
  rw [Region.limit, trampolinePage_base, trampolinePage_length]

private theorem frameAddr_lower : pbTrampolineAddr ≤ frameAddr := Nat.le_add_right _ _

private theorem frameAddr_upper : frameAddr + 20 ≤ pbTrampolineAddr + pbTrampolineSize := by decide

private theorem trampolinePage_opcode (regs : PbI386Regs) :
    (trampolinePage regs).data[0]? = some 0xCF := by
  have before : trampolineStub.base + 0 < frameAddr := by decide
  rw [trampolinePage, Region.overlay_getElem?_before before]
  exact Region.overlay_first
    (.mk pbTrampolineAddr (UcProt.mk true true true) (List.replicate pbTrampolineSize 0)) 0xCF
    (by rw [List.length_replicate]; decide)

private theorem trampolinePage_frame (regs : PbI386Regs) :
    ((trampolinePage regs).data.drop (frameAddr - pbTrampolineAddr)).take 20 =
      (iretFrame regs).bytes := by
  have upper : frameAddr + (iretFrame regs).bytes.length ≤ trampolineStub.limit := by
    rw [iretFrame_length, trampolineStub_limit]
    exact frameAddr_upper
  have slice := Region.overlay_slice trampolineStub frameAddr_lower upper
  rwa [iretFrame_length] at slice

private theorem ucEmuStart_trampoline (u : Unicorn) {uc : Engine} {regs : PbI386Regs}
    {memory : Memory} (staged : memory.regions = uc.memory.regions ++ [trampolinePage regs]) :
    ucEmuStart u (trampolineReady uc memory) pbTrampolineAddr =
      if u.refusesIret (trampolineReady uc memory) (iretFrame regs) then .error .exception
      else .ok ((trampolineReady uc memory).afterIret u (iretFrame regs)) := by
  have member : trampolinePage regs ∈ memory.regions := by simp [staged]
  have inside : (trampolinePage regs).Contains pbTrampolineAddr := by
    rw [Region.Contains, trampolinePage_base, trampolinePage_limit]
    decide
  have fetched : memory.lookup pbTrampolineAddr = some (⟨true, true, true⟩, 0xCF) := by
    rw [MemoryMap.lookup_region member inside, trampolinePage_base, Nat.sub_self,
      trampolinePage_opcode]
    rfl
  have popped : memory.read? frameAddr 20 = some (iretFrame regs).bytes := by
    rw [MemoryMap.read?_region member frameAddr 20 frameAddr_lower
      (by rw [trampolinePage_limit]; exact frameAddr_upper), trampolinePage_base,
      trampolinePage_frame]
  have stack : (((trampolineReady uc memory).gpr .sp).setWidth 32).toNat = frameAddr := by
    simp only [trampolineReady, Function.update_self, BitVec.setWidth_append_eq_right]
    rfl
  have inPlace : (trampolineReady uc memory).memory = memory := rfl
  rw [ucEmuStart, stack, inPlace, fetched, popped]
  simp [IretFrame.ofBytes_bytes]

private theorem trampoline_staged (uc : Engine) (regs : PbI386Regs)
    (free : uc.memory.Free pbTrampolineAddr pbTrampolineSize) :
    ∃ mapped written staged : Memory,
      ucMemMap uc pbTrampolineAddr pbTrampolineSize ⟨true, true, true⟩ =
        .ok { uc with memory := mapped } ∧
      ucMemWrite { uc with memory := mapped } pbTrampolineAddr [0xCF] =
        .ok { uc with memory := written } ∧
      ucMemWrite { uc with memory := written } frameAddr (iretFrame regs).bytes =
        .ok { uc with memory := staged } ∧
      staged.regions = uc.memory.regions ++ [trampolinePage regs] := by
  have mappable : uc.memory.Mappable pbTrampolineAddr pbTrampolineSize :=
    ⟨by decide, by decide, by decide, by decide, free⟩
  rcases ucMemMap_cases uc pbTrampolineAddr pbTrampolineSize ⟨true, true, true⟩ with
    ⟨_, mapped, created, shape⟩ | ⟨refused, _⟩
  · obtain ⟨written, stubOk, stubShape⟩ := MemoryMap.write?_last shape pbTrampolineAddr [0xCF]
      le_rfl (by rw [Region.limit, List.length_replicate]; decide)
    change written.regions = uc.memory.regions ++ [trampolineStub] at stubShape
    obtain ⟨staged, frameOk, frameShape⟩ := MemoryMap.write?_last stubShape frameAddr
      (iretFrame regs).bytes frameAddr_lower
      (by rw [iretFrame_length, trampolineStub_limit]; exact frameAddr_upper)
    have stub : ucMemWrite { uc with memory := mapped } pbTrampolineAddr [0xCF] =
        .ok { uc with memory := written } := ucMemWrite_ok stubOk
    have frame : ucMemWrite { uc with memory := written } frameAddr (iretFrame regs).bytes =
        .ok { uc with memory := staged } := ucMemWrite_ok frameOk
    exact ⟨mapped, written, staged, created, stub, frame, frameShape⟩
  · exact absurd mappable refused

private theorem trampoline_removed {uc after : Engine} {regs : PbI386Regs}
    (staged : after.memory.regions = uc.memory.regions ++ [trampolinePage regs]) :
    ucMemUnmap after pbTrampolineAddr pbTrampolineSize = .ok { after with memory := uc.memory } := by
  obtain ⟨removed, unmapped, shape⟩ := MemoryMap.unmap?_last staged
  have same : removed = uc.memory := MemoryMap.ext shape
  subst same
  rw [trampolinePage_length, trampolinePage_base] at unmapped
  exact ucMemUnmap_ok unmapped

def ring3Engine (u : Unicorn) (uc : Engine) (staged : Memory) (regs : PbI386Regs) : Engine :=
  { (trampolineReady uc staged).afterIret u (iretFrame regs) with memory := uc.memory }

section Trampoline

variable (u : Unicorn) (uc : Engine) (staged : Memory) (regs : PbI386Regs)

@[simp] theorem trampolineReady_memory : (trampolineReady uc staged).memory = staged := rfl

@[simp] theorem trampolineReady_gdtrBase :
    (trampolineReady uc staged).gdtrBase = uc.gdtrBase := rfl

@[simp] theorem trampolineReady_gdtrLimit :
    (trampolineReady uc staged).gdtrLimit = uc.gdtrLimit := rfl

@[simp] theorem ring3Engine_memory : (ring3Engine u uc staged regs).memory = uc.memory := rfl

@[simp] theorem ring3Engine_gdtrBase : (ring3Engine u uc staged regs).gdtrBase = uc.gdtrBase := rfl

@[simp] theorem ring3Engine_gdtrLimit :
    (ring3Engine u uc staged regs).gdtrLimit = uc.gdtrLimit := rfl

end Trampoline

private theorem trampoline_holdsGdt (u : Unicorn) {uc : Engine} {staged : Memory}
    {regs : PbI386Regs} {table : GdtArray} (held : uc.HoldsGdt table)
    (shape : staged.regions = uc.memory.regions ++ [trampolinePage regs]) :
    (trampolineReady uc staged).HoldsGdt table ∧ (ring3Engine u uc staged regs).HoldsGdt table := by
  constructor
  · refine ⟨by simpa using held.base, by simpa using held.limit, ?_⟩
    rw [trampolineReady_memory, shape]
    exact List.mem_append_left _ held.mapped
  · exact ⟨by simpa using held.base, by simpa using held.limit, by simpa using held.mapped⟩

/-- `enter_ring3` fails only if the page is taken or the processor refuses the return. -/
theorem enterRing3_ok_iff {u : Unicorn} {uc after : Engine} {state : LinuxI386ProcessState} :
    enterRing3 u uc state = .ok after ↔
      ∃ staged : Memory, staged.regions = uc.memory.regions ++ [trampolinePage state.regs] ∧
        u.refusesIret (trampolineReady uc staged) (iretFrame state.regs) = false ∧
        after = ring3Engine u uc staged state.regs := by
  by_cases free : uc.memory.Free pbTrampolineAddr pbTrampolineSize
  · obtain ⟨mapped, written, staged, mapOk, stubOk, frameOk, shape⟩ :=
      trampoline_staged uc state.regs free
    have stackOk : ucRegWrite u { uc with memory := staged } (.dword .sp)
        (BitVec.ofNat 64 frameAddr) = .ok (trampolineReady uc staged) := rfl
    have unique : ∀ other : Memory,
        other.regions = uc.memory.regions ++ [trampolinePage state.regs] → other = staged :=
      fun other otherShape => MemoryMap.ext (otherShape.trans shape.symm)
    rw [enterRing3, mapOk, pbUcCheck, ok_bind, stubOk, pbUcCheck, ok_bind, frameOk, pbUcCheck,
      ok_bind, stackOk, pbUcCheck, ok_bind, ucEmuStart_trampoline u shape]
    cases refused : u.refusesIret (trampolineReady uc staged) (iretFrame state.regs) with
    | true =>
        constructor
        · intro returned
          cases returned
        · intro given
          obtain ⟨other, otherShape, taken, _⟩ := given
          rw [unique other otherShape, refused] at taken
          cases taken
    | false =>
        have unmapped : ucMemUnmap ((trampolineReady uc staged).afterIret u (iretFrame state.regs))
            pbTrampolineAddr pbTrampolineSize = .ok (ring3Engine u uc staged state.regs) :=
          trampoline_removed shape
        rw [if_neg (by simp), pbUcCheck, ok_bind, unmapped, pbUcCheck]
        constructor
        · intro returned
          cases returned
          exact ⟨staged, shape, refused, rfl⟩
        · intro given
          obtain ⟨other, otherShape, _, rfl⟩ := given
          rw [unique other otherShape]
  · rcases ucMemMap_cases uc pbTrampolineAddr pbTrampolineSize ⟨true, true, true⟩ with
      ⟨mappable, _⟩ | ⟨_, failed⟩
    · exact absurd mappable.2.2.2.2 free
    · rw [enterRing3, failed, pbUcCheck, error_bind]
      constructor
      · intro returned
        cases returned
      · intro given
        obtain ⟨staged, shape, _, _⟩ := given
        refine absurd ?_ free
        intro region member
        have apart := MemoryMap.front_apart shape le_rfl
          (by rw [trampolinePage_base, trampolinePage_limit]) region member
        exact apart

/-!
## Register restoration
-/

/-- Selectors as the kernel reports them: sixteen bits in a wider field. -/
structure Selectors16 (regs : PbI386Regs) : Prop where
  xcs : regs.xcs.toNat < 2 ^ 16
  xss : regs.xss.toNat < 2 ^ 16
  xds : regs.xds.toNat < 2 ^ 16
  xes : regs.xes.toNat < 2 ^ 16
  xfs : regs.xfs.toNat < 2 ^ 16
  xgs : regs.xgs.toNat < 2 ^ 16

/-- The registers a snapshot carries with their captured values, except for
`eflags`, of which the processor may own some bits. -/
def carried (regs : PbI386Regs) : List (UcReg × BitVec 32) :=
  [(.dword .ax, regs.eax), (.dword .bx, regs.ebx), (.dword .cx, regs.ecx), (.dword .dx, regs.edx),
    (.dword .si, regs.esi), (.dword .di, regs.edi), (.dword .bp, regs.ebp), (.dword .sp, regs.esp),
    (.eip, regs.eip), (.seg .cs, regs.xcs), (.seg .ss, regs.xss), (.seg .ds, regs.xds),
    (.seg .es, regs.xes), (.seg .fs, regs.xfs), (.seg .gs, regs.xgs)]

def selectorOf (regs : PbI386Regs) : SegReg → BitVec 16
  | .cs => regs.xcs.setWidth 16
  | .ss => regs.xss.setWidth 16
  | .ds => regs.xds.setWidth 16
  | .es => regs.xes.setWidth 16
  | .fs => regs.xfs.setWidth 16
  | .gs => regs.xgs.setWidth 16

/-- The engine `dump_regs` ends with: general registers, the return to ring 3,
then the data segments. -/
def restoredEngine (u : Unicorn) (uc : Engine) (staged : Memory) (regs : PbI386Regs) : Engine :=
  (segmentWrites regs).foldl (Engine.put u)
    (ring3Engine u ((gprWrites regs).foldl (Engine.put u) uc) staged regs)

private theorem restored_carried (u : Unicorn) (uc : Engine) (staged : Memory) {regs : PbI386Regs}
    (narrow : Selectors16 regs) :
    ∀ pair ∈ carried regs,
      ucRegRead (restoredEngine u uc staged regs) pair.1 = pair.2.setWidth 64 := by
  have low : ∀ high value : BitVec 32, (high ++ value : BitVec 64).setWidth 32 = value :=
    fun _ _ => BitVec.setWidth_append_eq_right
  have wide : ∀ value : BitVec 32, value.toNat < 2 ^ 16 →
      (value.setWidth 16).setWidth 64 = value.setWidth 64 := by
    intro value small
    apply BitVec.eq_of_toNat_eq
    simp only [BitVec.toNat_setWidth]
    omega
  simp [carried, restoredEngine, segmentWrites, gprWrites, ring3Engine, trampolineReady,
    iretFrame, Engine.afterIret, Engine.put, ucRegRead, Engine.setGpr, Engine.loadSelector,
    Engine.setSegment, Function.update_apply, low, wide _ narrow.xcs, wide _ narrow.xss,
    wide _ narrow.xds, wide _ narrow.xes, wide _ narrow.xfs, wide _ narrow.xgs]

private theorem restored_ip (u : Unicorn) (uc : Engine) (staged : Memory) (regs : PbI386Regs) :
    ucRegRead (restoredEngine u uc staged regs) .eip = regs.eip.setWidth 64 := by
  simp [restoredEngine, segmentWrites, ring3Engine, iretFrame, Engine.afterIret, Engine.put,
    ucRegRead, Engine.loadSelector, Engine.setSegment]

private theorem restored_eflags (u : Unicorn) (uc : Engine) (staged : Memory) (regs : PbI386Regs) :
    (restoredEngine u uc staged regs).eflags &&& u.eflagsMask = regs.eflags &&& u.eflagsMask := by
  simp [restoredEngine, segmentWrites, ring3Engine, iretFrame, Engine.afterIret, Engine.put,
    Engine.loadSelector, Engine.setSegment, Unicorn.loadEflags_masked]

private theorem restored_memory (u : Unicorn) (uc : Engine) (staged : Memory) (regs : PbI386Regs) :
    (restoredEngine u uc staged regs).memory = uc.memory := by
  rw [restoredEngine, (foldl_put_frame _ _ _).1, ring3Engine_memory, (foldl_put_frame _ _ _).1]

/-- Each segment is loaded from the installed table: code and stack by the
return, before its page is removed, the others after it. -/
theorem segmentWrites_segment (u : Unicorn) {uc : Engine} {staged : Memory} {regs : PbI386Regs}
    {table : GdtArray} (held : uc.HoldsGdt table)
    (shape : staged.regions = uc.memory.regions ++ [trampolinePage regs]) (which : SegReg) :
    ∃ loading : Engine, loading.HoldsGdt table ∧
      ((segmentWrites regs).foldl (Engine.put u) (ring3Engine u uc staged regs)).segment which =
        ⟨selectorOf regs which, loading.hiddenBase (selectorOf regs which)⟩ := by
  obtain ⟨before, behind⟩ := trampoline_holdsGdt u held shape
  simp only [segmentWrites, List.foldl_cons, List.foldl_nil, Engine.put, segment_loadSelector,
    hiddenBase_loadSelector]
  cases which with
  | cs | ss => exact ⟨_, before, by simp [selectorOf, ring3Engine, Engine.afterIret, iretFrame]⟩
  | ds | es | fs | gs => exact ⟨_, behind, by simp [selectorOf]⟩

private theorem restored_segment (u : Unicorn) {uc : Engine} {staged : Memory} {regs : PbI386Regs}
    {table : GdtArray} (held : uc.HoldsGdt table)
    (shape : staged.regions = uc.memory.regions ++ [trampolinePage regs]) (which : SegReg) :
    ∃ loading : Engine, loading.HoldsGdt table ∧
      (restoredEngine u uc staged regs).segment which =
        ⟨selectorOf regs which, loading.hiddenBase (selectorOf regs which)⟩ := by
  have memory := (foldl_put_frame u uc (gprWrites regs)).1
  rw [← memory] at shape
  exact segmentWrites_segment u (held.foldl_put u (gprWrites regs)) shape which

/-- A selector that is not null and whose index is the entry of a captured slot. -/
def NamesSlot (state : LinuxI386ProcessState) (selector : BitVec 16)
    (slot : Fin gdtEntryTlsEntries) : Prop :=
  selector &&& 0xFFFC ≠ 0 ∧ selector.toNat / 8 = entryOf state slot

private theorem hiddenBase_tls {uc : Engine} {state : LinuxI386ProcessState} {table : GdtArray}
    (filled : fillGdt state = .ok table) (held : uc.HoldsGdt table) {selector : BitVec 16}
    {slot : Fin gdtEntryTlsEntries} (last : LastOfEntry state slot)
    (named : NamesSlot state selector slot) :
    uc.hiddenBase selector = (state.tls slot).baseAddr.setWidth 64 := by
  have stored := fillGdt_tls filled last
  obtain ⟨inside, entry⟩ := Vector.getElem?_eq_some_iff.mp stored
  have bounded : selector.toNat / 8 < 512 := named.2.trans_lt inside
  have found : table[selector.toNat / 8] = userDescToRealDesc (state.tls slot) := by
    simpa only [named.2] using entry
  rw [Engine.hiddenBase, if_neg named.1, held.descriptorAt selector bounded, found,
    descriptorBase_userDesc]

/-- Everything `dump_i386_cpu_state` leaves behind when it returns. -/
structure Restores (u : Unicorn) (uc after : Engine) (state : LinuxI386ProcessState) : Prop where
  registers : ∀ pair ∈ carried state.regs, ucRegRead after pair.1 = pair.2.setWidth 64
  eflags : after.eflags &&& u.eflagsMask = state.regs.eflags &&& u.eflagsMask
  tlsBase : ∀ which slot, NamesSlot state (selectorOf state.regs which) slot →
    LastOfEntry state slot → (after.segment which).base = (state.tls slot).baseAddr.setWidth 64
  memory : ∃ table, fillGdt state = .ok table ∧
    after.memory.regions = uc.memory.regions ++ [gdtRegion table]

theorem dumpRegs_ok_inv {u : Unicorn} {uc after : Engine} {state : LinuxI386ProcessState}
    (returned : dumpRegs u uc state = .ok after) :
    ∃ staged : Memory, staged.regions = uc.memory.regions ++ [trampolinePage state.regs] ∧
      after = restoredEngine u uc staged state.regs := by
  obtain ⟨general, gprOk, returned⟩ := bind_ok_iff.mp returned
  obtain ⟨entered, ringOk, segmentOk⟩ := bind_ok_iff.mp returned
  obtain ⟨_, rfl⟩ := writeRegs_ok_iff.mp gprOk
  obtain ⟨staged, shape, _, rfl⟩ := enterRing3_ok_iff.mp ringOk
  obtain ⟨_, rfl⟩ := writeRegs_ok_iff.mp segmentOk
  rw [(foldl_put_frame _ _ _).1] at shape
  exact ⟨staged, shape, rfl⟩

theorem dumpI386CpuState_ok_inv {u : Unicorn} {uc after : Engine}
    {state : LinuxI386ProcessState} {entry : BitVec 64}
    (returned : dumpI386CpuState u uc state = .ok (entry, after)) :
    GdtAccepts state ∧ entry = state.regs.eip.setWidth 64 ∧
      (Selectors16 state.regs → Restores u uc after state) ∧
      ∃ table, fillGdt state = .ok table ∧
        after.memory.regions = uc.memory.regions ++ [gdtRegion table] := by
  obtain ⟨tabled, gdtOk, returned⟩ := bind_ok_iff.mp returned
  obtain ⟨written, regsOk, returned⟩ := bind_ok_iff.mp returned
  cases returned
  obtain ⟨table, filled, memory, rfl, shape⟩ := dumpGdt_ok_inv gdtOk
  obtain ⟨staged, stagedShape, rfl⟩ := dumpRegs_ok_inv regsOk
  have held : (uc.withGdt memory).HoldsGdt table := ⟨rfl, rfl, by simp [Engine.withGdt, shape]⟩
  have regions := (congrArg MemoryMap.regions
    (restored_memory u (uc.withGdt memory) staged state.regs)).trans shape
  refine ⟨fillGdt_ok_iff.mp ⟨table, filled⟩, restored_ip _ _ _ _, fun narrow => ?_, table, filled,
    regions⟩
  refine ⟨restored_carried _ _ _ narrow, restored_eflags _ _ _ _, ?_, table, filled, regions⟩
  intro which slot named last
  obtain ⟨loading, loaded, segment⟩ := restored_segment u held stagedShape which
  rw [segment]
  exact hiddenBase_tls filled loaded last named

/-!
## When restoring succeeds
-/

/-- The processor returns to the captured code and stack segments, and at that
privilege takes the captured data segments, while the rebuilt table is in use. -/
structure EntersRing3 (u : Unicorn) (uc : Engine) (regs : PbI386Regs) (table : GdtArray) : Prop where
  iret : ∀ ready : Engine, ready.mode = .mode32 → ready.HoldsGdt table →
    ready.segment = uc.segment → u.refusesIret ready (iretFrame regs) = false
  data : ∀ (ready : Engine) which, SegReg.isData which → ready.mode = .mode32 →
    ready.HoldsGdt table → (ready.segment .cs).selector = selectorOf regs .cs →
    u.refusesSelector ready which (selectorOf regs which) = false

private theorem gprWrites_segment (u : Unicorn) (uc : Engine) (regs : PbI386Regs) :
    ((gprWrites regs).foldl (Engine.put u) uc).segment = uc.segment := by
  simp [gprWrites, Engine.put, Engine.setGpr]

private theorem gprWrites_taken (u : Unicorn) (uc : Engine) (regs : PbI386Regs) :
    u.TakesAll uc (gprWrites regs) := by
  simp [gprWrites, Unicorn.TakesAll, Unicorn.Takes]

private theorem segmentWrites_data {regs : PbI386Regs} :
    ∀ write ∈ segmentWrites regs, ∃ which, write.reg = .seg which ∧ SegReg.isData which ∧
      write.value.setWidth 16 = selectorOf regs which := by
  simp [segmentWrites, selectorOf, SegReg.isData]

private theorem segmentWrites_taken {u : Unicorn} {uc ready : Engine} {regs : PbI386Regs}
    {table : GdtArray} (enters : EntersRing3 u uc regs table) (mode : ready.mode = .mode32)
    (held : ready.HoldsGdt table) (code : (ready.segment .cs).selector = selectorOf regs .cs) :
    u.TakesAll ready (segmentWrites regs) := by
  apply takesAll_of_stable (fun uc => uc.mode = .mode32 ∧ uc.HoldsGdt table ∧
    (uc.segment .cs).selector = selectorOf regs .cs) ⟨mode, held, code⟩
  · intro uc write member given
    obtain ⟨mode, held, code⟩ := given
    refine ⟨by simpa using mode, held.foldl_put u [write], ?_⟩
    obtain ⟨which, chosen, data, _⟩ := segmentWrites_data write member
    have other : SegReg.cs ≠ which := by
      rintro rfl
      cases data
    rw [Engine.put, chosen]
    simpa only [segment_loadSelector, other, ↓reduceIte] using code
  · intro uc write member given segment chosen
    obtain ⟨mode, held, code⟩ := given
    obtain ⟨which, reg, data, value⟩ := segmentWrites_data write member
    obtain rfl : which = segment := by simpa [reg] using chosen
    rw [value]
    exact enters.data uc which data mode held code

private theorem trampoline_free {uc : Engine} {memory : Memory} {table : GdtArray}
    (free : uc.memory.Free pbTrampolineAddr pbTrampolineSize)
    (shape : memory.regions = uc.memory.regions ++ [gdtRegion table]) :
    memory.Free pbTrampolineAddr pbTrampolineSize := by
  intro region member
  rw [shape, List.mem_append, List.mem_singleton] at member
  rcases member with old | rfl
  · exact free region old
  · left
    change pbTrampolineAddr + pbTrampolineSize ≤ pbGdtAddr
    decide

theorem enterRing3_ok {u : Unicorn} {uc origin : Engine} {state : LinuxI386ProcessState}
    {table : GdtArray} (mode : uc.mode = .mode32)
    (free : uc.memory.Free pbTrampolineAddr pbTrampolineSize) (held : uc.HoldsGdt table)
    (segments : uc.segment = origin.segment) (enters : EntersRing3 u origin state.regs table) :
    ∃ staged, enterRing3 u uc state = .ok (ring3Engine u uc staged state.regs) ∧
      u.TakesAll (ring3Engine u uc staged state.regs) (segmentWrites state.regs) := by
  obtain ⟨_, _, staged, _, _, _, shape⟩ := trampoline_staged uc state.regs free
  obtain ⟨before, behind⟩ := trampoline_holdsGdt u held shape
  have taken := enters.iret (trampolineReady uc staged) mode before segments
  refine ⟨staged, enterRing3_ok_iff.mpr ⟨staged, shape, taken, rfl⟩, ?_⟩
  exact segmentWrites_taken enters mode behind rfl

theorem dumpRegs_ok {u : Unicorn} {uc : Engine} {state : LinuxI386ProcessState} {table : GdtArray}
    (mode : uc.mode = .mode32) (free : uc.memory.Free pbTrampolineAddr pbTrampolineSize)
    (held : uc.HoldsGdt table) (enters : EntersRing3 u uc state.regs table) :
    ∃ staged, dumpRegs u uc state = .ok (restoredEngine u uc staged state.regs) := by
  obtain ⟨memory, sameMode, _⟩ := foldl_put_frame u uc (gprWrites state.regs)
  rw [← memory] at free
  rw [← sameMode] at mode
  obtain ⟨staged, ringOk, taken⟩ := enterRing3_ok mode free
    (held.foldl_put u (gprWrites state.regs)) (gprWrites_segment u uc state.regs) enters
  refine ⟨staged, ?_⟩
  rw [dumpRegs, writeRegs_ok_iff.mpr ⟨gprWrites_taken u uc state.regs, rfl⟩, ok_bind, ringOk,
    ok_bind]
  exact writeRegs_ok_iff.mpr ⟨taken, rfl⟩

theorem dumpI386CpuState_ok {u : Unicorn} {uc : Engine} {state : LinuxI386ProcessState}
    {table : GdtArray} (mode : uc.mode = .mode32) (gdtFree : uc.memory.Free pbGdtAddr pbGdtSize)
    (trampolineFree : uc.memory.Free pbTrampolineAddr pbTrampolineSize)
    (filled : fillGdt state = .ok table) (enters : EntersRing3 u uc state.regs table) :
    ∃ after, dumpI386CpuState u uc state = .ok (state.regs.eip.setWidth 64, after) := by
  obtain ⟨tabled, gdtOk⟩ := dumpGdt_ok gdtFree (fillGdt_ok_iff.mp ⟨table, filled⟩)
  obtain ⟨other, otherFilled, memory, rfl, shape⟩ := dumpGdt_ok_inv gdtOk
  obtain rfl : table = other := Except.ok.inj (filled.symm.trans otherFilled)
  have sameMode : (uc.withGdt memory).mode = .mode32 := mode
  have held : (uc.withGdt memory).HoldsGdt table := ⟨rfl, rfl, by simp [Engine.withGdt, shape]⟩
  have entersTabled : EntersRing3 u (uc.withGdt memory) state.regs table :=
    ⟨enters.iret, enters.data⟩
  obtain ⟨staged, regsOk⟩ := dumpRegs_ok sameMode (trampoline_free trampolineFree shape) held
    entersTabled
  refine ⟨restoredEngine u (uc.withGdt memory) staged state.regs, ?_⟩
  rw [dumpI386CpuState, gdtOk, ok_bind, regsOk, ok_bind, restored_ip]

end ProcessBridge.Loader.I386
