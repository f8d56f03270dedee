import ProcessBridge.Loader.Restore
import ProcessBridge.Snapshot.Bridge
import ProcessBridge.Snapshot.TlsRoundTrip
import ProcessBridge.Snapshotter.Progress

/-! Both programs to their ends. Under conditions on the child, the executable and the
processor alone, the snapshotter returns, the loader takes its file, and the
emulated program is the traced one. -/

set_option autoImplicit false

namespace ProcessBridge.Snapshot

open Library Common Utilities Snapshotter Loader
open Program hiding call

/-!
## The snapshotter
-/

/-- What the kernel lets the snapshotter capture of a stopped child. -/
def Delivers : (platform : Platform) → Kernel platform.arch → Tracee platform.arch →
    platform.ProcessState → Prop
  | .x86_64, _, (tracee : Tracee .x86_64), (state : LinuxX86_64ProcessState) =>
      state = ⟨tracee.regs⟩
  | .i386, (kernel : Kernel .i386), (tracee : Tracee .i386), (state : LinuxI386ProcessState) =>
      ∃ layout slots, ServesTls kernel layout slots ∧
        state = ⟨tracee.regs, capturedTls layout slots⟩

private theorem createSnapshotX86_64_run {kernel : Kernel .x86_64} {world : World .x86_64}
    {tracee : Tracee .x86_64} (stopped : world.child = .stopped tracee)
    (granted : kernel.fails world.log.length .getregs = false) :
    createSnapshotX86_64.run kernel.answer world =
      (.ok ⟨tracee.regs⟩, world.record .getregs true) := by
  have kept : (world.record .getregs true).child = .stopped tracee := stopped
  have answered := run_granted granted
  rw [perform_getregs kernel _ kept] at answered
  rw [createSnapshotX86_64, run_bind_ok (run_required_ok _ answered)]
  rfl

section Returns

variable {platform : Platform} {kernel : Kernel platform.arch} (grants : kernel.Grants)
  {world : World platform.arch} {tracee : Tracee platform.arch} {state : platform.ProcessState}

theorem Delivers.regs (delivers : Delivers platform kernel tracee state) :
    platform.regs state = tracee.regs := by
  cases platform with
  | x86_64 =>
      cases delivers
      rfl
  | i386 =>
      obtain ⟨_, _, _, rfl⟩ := delivers
      rfl

include grants

private theorem createSnapshot_delivers (delivers : Delivers platform kernel tracee state)
    (stopped : world.child = .stopped tracee) (uninitialised : Tls) :
    ∃ after, (createSnapshot uninitialised platform).run kernel.answer world = (.ok state, after) ∧
      after.child = .stopped tracee := by
  have uses : (createSnapshot uninitialised platform).Uses (·.aside = true) := by
    refine createSnapshot_uses ?_ ?_ uninitialised
    · rfl
    · exact fun _ => rfl
  have child := (Uses.aside uses kernel world).child
  suffices returned : ((createSnapshot uninitialised platform).run kernel.answer world).1 = .ok state from
    ⟨_, Prod.ext returned rfl, child.trans stopped⟩
  have granted := grants world.log.length .getregs rfl
  cases platform with
  | x86_64 =>
      cases delivers
      exact congrArg Prod.fst (createSnapshotX86_64_run stopped granted)
  | i386 =>
      obtain ⟨layout, slots, served, rfl⟩ := delivers
      obtain ⟨after, finished⟩ := createSnapshotI386_run served uninitialised stopped granted
      exact congrArg Prod.fst finished

/-- The snapshotter returns, and its file is complete. -/
theorem main_returns (locals : Locals) {name offset child : List Byte} {rest : List (List Byte)}
    {addr : BitVec 64} {machine : Machine platform.arch} {hookAddr : BitVec platform.arch.width}
    {start arrived : Tracee platform.arch} {steps signal : Nat} {elfClass : ElfClass} {bias : Int}
    (parsed : parseOffset offset = some addr)
    (first : ∀ count, kernel.report count .exec kernel.image = some (.stopped signal, start))
    (readable : kernel.HasElf elfClass) (small : kernel.pid < 2 ^ 31)
    (places : kernel.Places elfClass bias)
    (place : hookAddr = BitVec.ofInt _ (bias + (addr.setWidth platform.arch.width).toNat))
    (follows : kernel.Follows machine) (ignores : machine.Ignores hookAddr)
    (away : start.ip ≠ hookAddr) (runs : machine.Runs hookAddr start steps arrived)
    (here : arrived.ip = hookAddr) (delivers : Delivers platform kernel arrived state)
    (parses : ∀ count, ∃ lines, List.Forall₂ (fun text line => sscanfMaps text = some line)
      (kernel.maps count) lines) :
    ∃ final opened lines,
      (main platform locals (name :: offset :: child :: rest)).run kernel.answer (.initial _) =
        (.ok .success, final) ∧ final.OpensAt opened ∧
      Written kernel arrived locals.dumpEntry (platform.bytes state) final.output opened lines := by
  have calm := granting_cooperates kernel
  have clean : ¬ ((World.initial platform.arch).record .malloc true).Spoiled := by
    intro spoiled
    obtain ⟨entry, member, harmful⟩ := spoiled
    rw [record_log, World.initial, List.nil_append, List.mem_singleton] at member
    subst member
    cases harmful.1
  obtain ⟨middle, reached, stopped⟩ := reachBreakpoint_arrives calm clean first
    ⟨readable.ident, readable.known, readable.whole⟩ small places.granting place
    ⟨follows.traps, follows.ends⟩ ignores away runs here locals.imageEntry
  have driving : (reachBreakpoint locals.imageEntry (addr.setWidth platform.arch.width)).Uses
      (·.optional = false) := by
    refine (reachBreakpoint_uses _ _).imp fun op plain => ?_
    cases op with
    | _ => first | rfl | cases plain
  have killing : (killChild : Sys platform.arch Unit).Uses (·.optional = false) := by
    refine killChild_uses.imp fun op known => ?_
    rcases known with rfl | rfl
    · rfl
    · rfl
  rw [← grants.run driving] at reached
  obtain ⟨fetched, captured, still⟩ := createSnapshot_delivers grants delivers stopped locals.tls
  obtain ⟨_, parse⟩ := parses (fetched.log.length + 2)
  obtain ⟨dumped, dumps, kept⟩ := grants.dumpSnapshot small locals.dumpEntry locals.buffer
    (platform.bytes state) parse
  obtain ⟨final, kills, unchanged⟩ := run_killChild calm (kept.trans still)
  rw [← grants.run killing] at kills
  obtain ⟨opens, lines, written⟩ := dumpSnapshot_complete small still dumps
  have grown := run_log_grows kernel killChild dumped
  rw [kills] at grown
  have target := runTarget_run platform locals reached captured dumps kills
  refine ⟨final, fetched.log.length, lines,
    main_run platform locals parsed (grants _ _ rfl) target, opens.later grown, ?_⟩
  rwa [unchanged]

end Returns

/-!
## The loader
-/

section Accepts

variable {platform : Platform} {state : platform.ProcessState}

private theorem entryPoint_bytes (platform : Platform) (state : platform.ProcessState) :
    CpuState.entryPoint ⟨engineMode platform, platform.bytes state⟩ =
      (platform.arch.ip (platform.regs state)).setWidth 64 := by
  cases platform with
  | x86_64 =>
      change LinuxX86_64ProcessState at state
      change (LinuxX86_64ProcessState.ofBytes state.bytes).regs.rip = _
      rw [LinuxX86_64ProcessState.ofBytes_bytes]
      exact (BitVec.setWidth_eq _).symm
  | i386 =>
      change LinuxI386ProcessState at state
      change (LinuxI386ProcessState.ofBytes state.bytes).regs.eip.setWidth 64 = _
      rw [LinuxI386ProcessState.ofBytes_bytes]
      rfl

/-- Mappings that the kernel reports lie above the pages of the loader. -/
theorem pagesFree_of_lines {width : Nat} {lines : List MapsLine} {mappings : List (MapsLine × List Byte)}
    (mode : UcMode) (valid : KernelLines width lines) (listed : mappings.map Prod.fst = lines) :
    PagesFree mode ((kept mappings).map lineRegion) := by
  have above : ∀ region ∈ (kept mappings).map lineRegion, 0x10000 ≤ region.base := by
    intro region member
    obtain ⟨mapping, keeps, rfl⟩ := List.mem_map.mp member
    refine valid.minAddr mapping.1 ?_
    rw [← listed]
    exact List.mem_map_of_mem (List.mem_filter.mp keeps).1
  constructor
  · intro region member
    exact .inl (le_trans (by decide) (above region member))
  · intro _ region member
    exact .inl (le_trans (by decide) (above region member))

/-- A file that the snapshotter wrote to its end is one the loader restores. -/
theorem written_restorable {kernel : Kernel platform.arch} {stale : MapsEntry} {output : List Byte}
    {captured : Tracee platform.arch} {opened : Nat} {lines : List MapsLine} {uc : Engine}
    (level : LogLevel) (written : Written kernel captured stale (platform.bytes state) output opened lines)
    (valid : KernelLines platform.arch.width lines) (mode : uc.mode = engineMode platform)
    (empty : uc.memory.regions = [])
    (accepted : CpuState.Accepted ⟨engineMode platform, platform.bytes state⟩)
    (entry : (platform.arch.ip (platform.regs state)).setWidth 64 ≠ (-1 : BitVec 64)) :
    ∃ blocks, Restorable level uc (.sound output) (platform.bytes state) blocks := by
  obtain ⟨mappings, listed, lengths, rfl⟩ := written.mappings
  have supported : uc.mode ≠ .mode16 := mode ▸ engineMode_supported platform
  have length : (platform.bytes state).length = stateSize uc.mode := by
    rw [mode, state_length]
  have positive : 0 < (platform.bytes state).length := length ▸ stateSize_pos supported
  have sizes := sizes_exact (by rwa [listed]) lengths
  obtain ⟨blocks, emits, regions, ended⟩ := emitted_blocks stale sizes
  have room : Room uc mappings := .of_empty empty _
  have decomposed := decomposes_of_lines positive room.free (by rwa [listed]) sizes regions
  rw [length, ← emits] at decomposed
  refine ⟨blocks, rfl, decomposed, fun block member _ => ended block member, ?_, ?_, ?_⟩
  · rw [empty, List.nil_append, regions]
    exact pagesFree_of_lines uc.mode valid listed
  · rwa [mode]
  · rwa [mode, entryPoint_bytes]

end Accepts

/-!
## Both
-/

/-- The whole transfer, on conditions that speak of the child, its executable, the kernel
and the processor but of neither program. The child is a deterministic machine that
does not look at the breakpoint and comes by it; the kernel grants all but reads
of the child's memory; the maps file is well formed; the loader knows the child's
segments. Then the snapshotter returns, the loader takes its file, and execution
starts at the breakpoint with the registers and the memory of the child. -/
theorem snapshot_transfers (platform : Platform) (kernel : Kernel platform.arch)
    (machine : Machine platform.arch) (locals : Locals) (name offset child : List Byte)
    (rest : List (List Byte)) (addr : BitVec 64) (hookAddr : BitVec platform.arch.width)
    (start arrived : Tracee platform.arch) (state : platform.ProcessState) (steps signal : Nat)
    (elfClass : ElfClass) (bias : Int) (completed : Completed platform.arch) (level : LogLevel)
    (u : Unicorn) (uc : Engine)
    (grants : kernel.Grants) (small : kernel.pid < 2 ^ 31)
    (parsed : parseOffset offset = some addr)
    (readable : kernel.HasElf elfClass) (places : kernel.Places elfClass bias)
    (place : hookAddr = BitVec.ofInt _ (bias + (addr.setWidth platform.arch.width).toNat))
    (first : ∀ count, kernel.report count .exec kernel.image = some (.stopped signal, start))
    (follows : kernel.Follows machine) (ignores : machine.Ignores hookAddr)
    (away : start.ip ≠ hookAddr) (runs : machine.Runs hookAddr start steps arrived)
    (here : arrived.ip = hookAddr) (delivers : Delivers platform kernel arrived state)
    (completes : kernel.Completes completed)
    (parses : ∀ count, ∃ lines, KernelLines platform.arch.width lines ∧
      List.Forall₂ (fun text line => sscanfMaps text = some line) (kernel.maps count) lines)
    (narrow : Selectors16 platform arrived.regs) (mode : uc.mode = engineMode platform)
    (empty : uc.memory.regions = [])
    (accepted : CpuState.Accepted ⟨engineMode platform, platform.bytes state⟩)
    (taken : CpuState.Taken u uc ⟨engineMode platform, platform.bytes state⟩)
    (entry : hookAddr.setWidth 64 ≠ (-1 : BitVec 64)) :
    ∃ final loaded opened lines,
      (main platform locals (name :: offset :: child :: rest)).run kernel.answer (.initial _) =
        (.ok .success, final) ∧
      pbRestoreSnapshot level u uc (.sound final.output) = .ok (hookAddr.setWidth 64, loaded) ∧
      HoldsRegs u loaded platform arrived.regs ∧
      final.OpensAt opened ∧
      List.Forall₂ (fun text line => sscanfMaps text = some line)
        (kernel.maps (opened + 2)) lines ∧
      ShowsChild loaded.memory arrived.memory completed (opened + 4) lines := by
  obtain ⟨final, opened, lines, ran, opens, written⟩ :=
    main_returns grants locals parsed first readable small places place follows ignores away runs
      here delivers fun count => (parses count).imp fun _ => And.right
  have supported : uc.mode ≠ .mode16 := mode ▸ engineMode_supported platform
  have regs := delivers.regs
  have counter : platform.arch.ip arrived.regs = hookAddr := here
  have valid : KernelLines platform.arch.width lines := by
    obtain ⟨listed, valid, parse⟩ := parses (opened + 2)
    have unique : Relator.RightUnique fun text line => sscanfMaps text = some line :=
      fun _ _ _ left right => Option.some.inj (left.symm.trans right)
    rwa [← unique.forall₂ parse written.parse]
  obtain ⟨blocks, restorable⟩ := written_restorable level written valid mode empty accepted
    (by rwa [regs, counter])
  obtain ⟨loaded, returned⟩ := pbRestoreSnapshot_of_restorable supported restorable
    (by rwa [mode])
  rw [mode, entryPoint_bytes, regs, counter] at returned
  have dumped := (pbRestoreSnapshot_ok_iff.mp returned).1
  rw [written.contents completed completes] at dumped
  obtain ⟨_, holds, shows⟩ := emitted_shows valid (by rwa [regs]) mode empty dumped
  rw [regs] at holds
  exact ⟨final, loaded, opened, lines, ran, returned, holds, opens, written.parse, shows⟩

private theorem jumpTarget_hasElf : jumpTarget.HasElf .class64 :=
  ⟨by decide, by decide, by decide⟩

private theorem jumpState_taken (uc : Engine) :
    CpuState.Accepted ⟨.mode64, jumpState.bytes⟩ ∧
      CpuState.Taken .lenient uc ⟨.mode64, jumpState.bytes⟩ := by
  have regs : (CpuState.x86_64 ⟨.mode64, jumpState.bytes⟩).regs = jumpState.regs := by
    rw [CpuState.x86_64, LinuxX86_64ProcessState.ofBytes_bytes]
  have takes : X8664.LoadsSelectors .lenient jumpState.regs := fun _ _ _ _ => rfl
  rw [← regs] at takes
  have accepts := jumpState_accepted
  rw [← regs] at accepts
  exact ⟨accepts, takes⟩

/-- The small program is transferred, the page with the breakpoint as it was. -/
theorem snapshot_transfers_jump :
    ∃ (final : World .x86_64) (loaded : Engine),
      (main .x86_64 blankLocals pageArgv).run jumpTarget.answer (.initial .x86_64) =
        (.ok .success, final) ∧
      pbRestoreSnapshot .debug .lenient (.opened .mode64) (.sound final.output) =
        .ok (0x10800, loaded) ∧
      HoldsRegs .lenient loaded .x86_64 (jumpImage.setIp pageHook).regs ∧
      loaded.memory.lookup 0x10800 = some (⟨true, true, false⟩, 0x90) := by
  obtain ⟨accepted, taken⟩ := jumpState_taken (.opened .mode64)
  have place : pageHook = BitVec.ofInt 64 (0 + (0x10800 : BitVec 64).toNat) := rfl
  obtain ⟨final, loaded, opened, lines, ran, returned, holds, _, parsed, shows⟩ :=
    snapshot_transfers .x86_64 jumpTarget (jumpMachine pageHook) blankLocals _ _ _ _ 0x10800 pageHook
      jumpImage (jumpImage.setIp pageHook) jumpState 1 sigtrap .class64 0 _ .debug .lenient
      (.opened .mode64) (fun _ _ _ => rfl) (by decide : 1 < 2 ^ 31) pageOffset_parses jumpTarget_hasElf (.fixed rfl)
      place (fun _ => rfl) jumpTarget_follows (jumpMachine_ignores pageHook)
      (by decide : (0 : BitVec 64) ≠ 0x10800) jumpImage_runs (Tracee.ip_setIp _ _) rfl
      jumpTarget_completes (fun _ => ⟨_, anonymousLine_valid, anonymousText_allParse⟩)
      jumpImage_narrow rfl rfl accepted taken (by decide)
  cases anonymousText_lines parsed
  exact ⟨final, loaded, ran, returned, holds,
    shows.mapped _ anonymousLine List.mem_cons_self (by decide) 0x10800 (by decide) (by decide)⟩

end ProcessBridge.Snapshot
