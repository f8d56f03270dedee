import ProcessBridge.Snapshot.Bridge
import ProcessBridge.Snapshot.Truncation
import ProcessBridge.Snapshotter.Interrupted

/-! Files of runs that failed, read by the loader. It may take such a file, but what it
then shows of the child is right: only mappings from the end of the maps file
can be missing. -/

set_option autoImplicit false

namespace ProcessBridge.Snapshot

open Library Common Utilities Snapshotter Loader

section Fragments

variable {platform : Platform} {memory : BitVec platform.arch.width → Byte}
  {completed : Completed platform.arch}

private theorem plainMappings_take (count : Nat) (lines : List MapsLine) (number : Nat) :
    (plainMappings memory completed count lines).take number =
      plainMappings memory completed count (lines.take number) := by
  induction lines generalizing count number with
  | nil => simp [plainMappings]
  | cons line rest ih =>
      cases number with
      | zero => rfl
      | succ number => simp only [plainMappings, List.take_succ_cons, ih]

/-- What the loader takes of a file's beginning holds whole mappings only. -/
theorem fragment_shape {stale : MapsEntry} {state : platform.ProcessState} {count : Nat}
    {lines : List MapsLine} {left : List Byte} {level : LogLevel} {uc : Engine}
    {result : CpuState × LoadState} (valid : KernelLines platform.arch.width lines) (mode : uc.mode = engineMode platform)
    (beginning : left <+: platform.bytes state ++
      emitted stale (plainMappings memory completed count lines))
    (returned : loadSnapshot level uc (.sound left) = .ok result) :
    ∃ number, left = platform.bytes state ++
      emitted stale (plainMappings memory completed count (lines.take number)) := by
  have supported : uc.mode ≠ .mode16 := mode ▸ engineMode_supported platform
  have length : (platform.bytes state).length = stateSize uc.mode := by rw [mode, state_length]
  have listed : (plainMappings memory completed count lines).map Prod.fst = lines :=
    plainMappings_lines _ _
  have sizes := sizes_exact (by rwa [listed]) (plainMappings_length count lines)
  have cut := List.prefix_iff_eq_take.mp beginning
  by_cases inside : left.length < (platform.bytes state ++
      emitted stale (plainMappings memory completed count lines)).length
  · rw [cut] at returned
    obtain ⟨_, _, number, place, _⟩ := loadSnapshot_cut_inv supported length sizes inside returned
    refine ⟨number, ?_⟩
    rw [cut, place, take_boundary, plainMappings_take]
  · refine ⟨lines.length, ?_⟩
    rw [List.take_length]
    exact beginning.eq_of_length_le (Nat.le_of_not_lt inside)

/-- The selectors of a child do not depend on its instruction pointer. -/
theorem selectors16_setIp {regs : platform.arch.Regs} (narrow : Selectors16 platform regs)
    (value : BitVec platform.arch.width) :
    Selectors16 platform (platform.arch.setIp regs value) := by
  cases platform with
  | x86_64 =>
      obtain ⟨cs, ss, ds, es, fs, gs⟩ : X8664.Selectors16 regs := narrow
      exact (⟨cs, ss, ds, es, fs, gs⟩ : X8664.Selectors16 (Arch.x86_64.setIp regs value))
  | i386 =>
      obtain ⟨xcs, xss, xds, xes, xfs, xgs⟩ : I386.Selectors16 regs := narrow
      exact (⟨xcs, xss, xds, xes, xfs, xgs⟩ : I386.Selectors16 (Arch.i386.setIp regs value))

end Fragments

/-- Whatever is refused in a run of the snapshotter, however much of a refused write was
written and however much of the file has reached the disk: if the loader takes
what is left, execution starts where the child stood, with the registers it
had, and memory shows that child through its maps file but for mappings at the
end. -/
theorem snapshot_interrupted (platform : Platform) (kernel : Kernel platform.arch)
    (torn : Nat → Nat) (locals : Locals) (argv : List (List Byte)) (final : World platform.arch)
    (completed : Completed platform.arch) (left : List Byte) (level : LogLevel) (u : Unicorn)
    (uc after : Engine) (entry : BitVec 64) (small : kernel.pid < 2 ^ 31)
    (parses : ∀ count, ∃ lines, List.Forall₂ (fun text line => sscanfMaps text = some line)
      (kernel.maps count) lines)
    (valid : ∀ count lines, List.Forall₂ (fun text line => sscanfMaps text = some line)
      (kernel.maps count) lines → KernelLines platform.arch.width lines)
    (completes : kernel.Completes completed)
    (ran : ((main platform locals argv).run (kernel.tearing torn) (.initial _)).2 = final)
    (narrow : ∀ report ∈ final.reports, Selectors16 platform report.2.2.regs)
    (beginning : left <+: final.output) (mode : uc.mode = engineMode platform)
    (empty : uc.memory.regions = [])
    (returned : Loader.dumpSnapshot level u uc (.sound left) = .ok (entry, after)) :
    ∃ offset addr captured opened lines number, argv[1]? = some offset ∧
      parseOffset offset = some addr ∧ Brought (addr.setWidth _) captured final.reports ∧
      final.OpensAt opened ∧
      List.Forall₂ (fun text line => sscanfMaps text = some line)
        (kernel.maps (opened + 2)) lines ∧
      entry = captured.ip.setWidth 64 ∧ HoldsRegs u after platform captured.regs ∧
      ShowsChild after.memory captured.memory completed (opened + 4) (lines.take number) := by
  obtain ⟨result, loaded, _⟩ := bind_ok_iff.mp returned
  have something : final.output ≠ [] := by
    intro nothing
    obtain ⟨_, _, decomposed, _⟩ :=
      decomposes_of_loadSnapshot (mode ▸ engineMode_supported platform) loaded
    rw [nothing] at beginning
    exact decomposed.nonempty (List.prefix_nil.mp beginning)
  have leaves := main_leaves platform kernel torn locals argv small parses
  rw [ran] at leaves
  obtain ⟨offset, addr, given, parsed, leaves⟩ := leaves.resolve_left something
  obtain ⟨captured, state, whole, opened, lines, brought, regs, opens, written, less⟩ :=
    leaves.resolve_left something
  have listed := valid _ lines written.parse
  have selectors : Selectors16 platform (platform.regs state) := by
    obtain ⟨_, _, last, _, stop, steps, reported, _, _, rewinds⟩ := brought
    have member : (Resume.cont, last, stop) ∈ final.reports := by simp [reported]
    rw [regs, rewinds.regs]
    exact selectors16_setIp (narrow _ member) _
  rw [written.contents completed completes.granting] at less
  obtain ⟨number, rfl⟩ := fragment_shape listed mode (beginning.trans less) loaded
  obtain ⟨entered, holds, shows⟩ := emitted_shows (listed.take number) selectors mode empty returned
  rw [regs] at entered holds
  exact ⟨offset, addr, captured, opened, lines, number, given, parsed, brought, opens,
    written.parse, entered, holds, shows⟩

/-!
## A full disk
-/

/-- The program of `nop`s again, with a guard page behind its own; of the header of the
guard page seven bytes are written. -/
def tornTarget : Kernel .x86_64 :=
  { jumpTarget with
    maps := fun _ => [anonymousText, guardText]
    fails := fun count op => op.writes && decide (count = 29) }

unseal copyContent in
theorem tornTarget_ran :
    ∃ (final : World .x86_64) (message : String) (filled : Buffer),
      (main .x86_64 blankLocals pageArgv).run (tornTarget.tearing fun _ => 7)
        (.initial .x86_64) = (.error (.fatal message), final) ∧
      final.output = jumpState.bytes ++ (fillEntry blankLocals.dumpEntry anonymousLine).bytes ++
        filled.val.take 4096 ++
        (fillEntry (fillEntry blankLocals.dumpEntry anonymousLine) guardLine).bytes.take 7 ∧
      final.reports.map (fun report => (report.2.2.regs, report.2.2.memory 0x10000)) =
        [(jumpImage.regs, 0x90), ((jumpImage.setIp (pageHook + 1)).regs, 0x90)] :=
  ⟨_, _, _, rfl, rfl, rfl⟩

theorem tornTarget_completes : tornTarget.Completes fun _ _ _ => true := by
  intro count address size buffer
  simp [tornTarget, jumpTarget, copyingKernel, mapsKernel, Call.writes]

theorem tornTarget_parse :
    List.Forall₂ (fun text line => sscanfMaps text = some line) [anonymousText, guardText]
      [anonymousLine, guardLine] :=
  .cons anonymousText_parses (.cons (by decide) .nil)

theorem tornLines_valid : KernelLines 64 [anonymousLine, guardLine] where
  aligned := by decide
  nonempty := by decide
  minAddr := by decide
  bounded := by decide
  apart := by decide

theorem tornTarget_lines {lines : List MapsLine}
    (parsed : List.Forall₂ (fun text line => sscanfMaps text = some line)
      [anonymousText, guardText] lines) : lines = [anonymousLine, guardLine] := by
  have unique : Relator.RightUnique fun text line => sscanfMaps text = some line :=
    fun _ _ _ left right => Option.some.inj (left.symm.trans right)
  exact unique.forall₂ parsed tornTarget_parse

theorem tornTarget_reported {reports : List (Resume × Report × Tracee .x86_64)}
    (listed : reports.map (fun report => (report.2.2.regs, report.2.2.memory 0x10000)) =
      [(jumpImage.regs, 0x90), ((jumpImage.setIp (pageHook + 1)).regs, 0x90)]) :
    ∀ report ∈ reports, X8664.Selectors16 report.2.2.regs ∧ report.2.2.memory 0x10000 = 0x90 := by
  intro report member
  have known : (report.2.2.regs, report.2.2.memory 0x10000) ∈
      [(jumpImage.regs, 0x90), ((jumpImage.setIp (pageHook + 1)).regs, (0x90 : Byte))] :=
    listed ▸ List.mem_map_of_mem member
  rw [List.mem_cons, List.mem_singleton, Prod.mk.injEq, Prod.mk.injEq] at known
  rcases known with ⟨same, byte⟩ | ⟨same, byte⟩
  · rw [same]
    exact ⟨⟨by decide, by decide, by decide, by decide, by decide, by decide⟩, byte⟩
  · rw [same]
    exact ⟨⟨by decide, by decide, by decide, by decide, by decide, by decide⟩, byte⟩

/-- No byte of a child at the breakpoint is of another origin. -/
theorem Brought.memory_eq {arch : Arch} {addr : BitVec arch.width} {captured : Tracee arch}
    {reports : List (Resume × Report × Tracee arch)} (brought : Brought addr captured reports)
    {location : BitVec arch.width} {byte : Byte}
    (shown : ∀ report ∈ reports, report.2.2.memory location = byte) :
    captured.memory location = byte := by
  obtain ⟨base, first, last, original, stop, steps, reported, _, _, rewinds⟩ := brought
  by_cases inside : (location - (base.setWidth _ + addr)).toNat < arch.wordSize
  · rw [rewinds.inside location inside]
    exact shown (.exec, first, original) (by simp [reported])
  · rw [rewinds.outside location inside]
    exact shown (.cont, last, stop) (by simp [reported])

/-- If all that reaches the disk is the process state and the first mapping, the loader
takes it, and the child's page is there. -/
theorem snapshot_interrupted_torn :
    ∃ (final : World .x86_64) (message : String) (left : List Byte) (loaded : Engine),
      (main .x86_64 blankLocals pageArgv).run (tornTarget.tearing fun _ => 7)
        (.initial .x86_64) = (.error (.fatal message), final) ∧
      left <+: final.output ∧ left ≠ final.output ∧
      Loader.dumpSnapshot .debug .lenient (.opened .mode64) (.sound left) = .ok (0x10800, loaded) ∧
      loaded.memory.lookup 0x10000 = some (⟨true, true, false⟩, 0x90) ∧
      ∃ captured : Tracee .x86_64, Brought pageHook captured final.reports ∧
        HoldsRegs .lenient loaded .x86_64 captured.regs := by
  obtain ⟨final, message, filled, ran, output, reports⟩ := tornTarget_ran
  have size : (filled.val.take 4096).length = anonymousLine.mappingSize := by
    rw [List.length_take, filled.property]
    decide
  obtain ⟨loaded, returned, mapped⟩ := jumpState_loads size
  have file : emitted blankLocals.dumpEntry [(anonymousLine, filled.val.take 4096)] =
      (fillEntry blankLocals.dumpEntry anonymousLine).bytes ++ filled.val.take 4096 := by
    have plain : anonymousLine.special = false := by decide
    simp only [emitted, plain, Bool.false_eq_true, if_false, List.append_nil]
  rw [file, ← List.append_assoc] at returned
  have beginning : jumpState.bytes ++ (fillEntry blankLocals.dumpEntry anonymousLine).bytes ++
      filled.val.take 4096 <+: final.output := by
    rw [output]
    exact List.prefix_append _ _
  have more : jumpState.bytes ++ (fillEntry blankLocals.dumpEntry anonymousLine).bytes ++
      filled.val.take 4096 ≠ final.output := by
    rw [output]
    intro whole
    cases List.append_cancel_left ((List.append_nil _).trans whole)
  obtain ⟨offset, addr, captured, opened, lines, number, given, parsed, brought, _, parse, _, holds,
      shows⟩ :=
    snapshot_interrupted .x86_64 tornTarget (fun _ => 7) blankLocals pageArgv final _ _ .debug
      .lenient (.opened .mode64) loaded 0x10800 (by decide : 1 < 2 ^ 31) (fun _ => ⟨_, tornTarget_parse⟩)
      (fun _ lines parsed => by rw [tornTarget_lines parsed]; exact tornLines_valid)
      tornTarget_completes (congrArg Prod.snd ran)
      (fun report member => (tornTarget_reported reports report member).1) beginning rfl rfl returned
  obtain rfl : offset = _ := (Option.some.inj given).symm
  obtain rfl : addr = 0x10800 := (Option.some.inj (pageOffset_parses.symm.trans parsed)).symm
  cases tornTarget_lines parse
  have inside : (lineRegion (anonymousLine, filled.val.take 4096)).Contains 0x10000 := by
    have first : anonymousLine.start.toNat = 0x10000 := by decide
    have whole : anonymousLine.mappingSize = 0x1000 := by decide
    simp only [Region.Contains, Region.limit, lineRegion, size, first, whole]
    omega
  have page : loaded.memory.lookup 0x10000 = some (⟨true, true, false⟩,
      captured.memory 0x10000) := by
    cases number with
    | zero =>
        have missing := shows.unmapped 0x10000 (fun _ member => by cases member) (.inr (by decide))
        exact absurd inside (MemoryMap.lookup_eq_none_iff.mp missing _ mapped)
    | succ more =>
        exact shows.mapped _ anonymousLine List.mem_cons_self (by decide) 0x10000 (by decide)
          (by decide)
  have byte : captured.memory 0x10000 = 0x90 := Brought.memory_eq brought fun report member =>
    (tornTarget_reported reports report member).2
  exact ⟨final, message, _, loaded, ran, beginning, more, returned, byte ▸ page, captured, brought,
    holds⟩

end ProcessBridge.Snapshot
