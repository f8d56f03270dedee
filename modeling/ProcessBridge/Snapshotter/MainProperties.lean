import ProcessBridge.Snapshotter.Main
import ProcessBridge.Snapshotter.ProcessInfoProperties
import ProcessBridge.Snapshotter.SnapshotRuns

/-! The child at the end of the snapshotter. Only the last lines of `main` and the
child itself end its life; every other way out leaves it to the kernel, which
detaches it and lets it run. -/

set_option autoImplicit false

namespace ProcessBridge.Snapshotter

open Library Common Program

section Target

variable {platform : Platform} {kernel : Kernel platform.arch} {tracee : Tracee platform.arch}
  {conts : List (Child platform.arch)} {reports : List (Resume × Report × Tracee platform.arch)}

theorem dumpSnapshot_triple (usable : kernel.Usable) (stale : MapsEntry) (buffer : Buffer)
    (snapshot : List Byte) :
    Triple kernel.answer (·.Shows (.stopped tracee) conts reports)
      (dumpSnapshot stale buffer snapshot kernel.pid)
      (fun _ world => world.child = .stopped tracee) (Accounted False) := by
  intro world shown
  obtain ⟨lines, parse⟩ := usable.lines (world.log.length + 2)
  obtain ⟨_, _, _, runs⟩ := dumpSnapshot_output kernel world usable.pid buffer snapshot parse
  rcases runs stale with ⟨after, finished, _, child⟩ | ⟨_, code, after, stopped, spoiled⟩
  · rw [finished]
    exact child.trans shown.child
  · rw [stopped]
    exact Accounted.of_spoiled (spoiled (by rw [shown.child]; rfl))

/-- The last two calls: what is left of the child is dead. -/
theorem killChild_triple :
    Triple kernel.answer (fun world => world.child = .stopped tracee)
      (do
        let _ ← call .kill
        match ← call .waitpid with
        | .blocked => .exit .hang
        | .failed | .report _ => pure ())
      (fun _ world => world.child.alive = false ∨ world.Spoiled) (Accounted False) := by
  refine Triple.bind (fun _ world => world.child = .dead ∨ world.Spoiled)
    (Triple.call (fun world stopped => .inr (spoiled_record (by rw [stopped]; rfl) rfl))
      fun world stopped => .inl ?_) fun _ => ?_
  · have alive : (world.record .kill true).child.alive = true := by
      rw [record_child, stopped]
      rfl
    simp only [Kernel.perform, alive, if_true]
  · refine Triple.bind _ (Triple.orSpoiled (fun _ world => world.child = .dead)
      (Triple.call (fun world dead => dead) fun world dead => ?_)) fun waited => ?_
    · have kept : (world.record .waitpid true).child = .dead := dead
      simp only [Kernel.perform, Kernel.wait, kept]
    · have done : ∀ world : World platform.arch, world.child = .dead ∨ world.Spoiled →
          world.child.alive = false ∨ world.Spoiled := by
        rintro world (dead | spoiled)
        · exact .inl (by rw [dead]; rfl)
        · exact .inr spoiled
      cases waited with
      | blocked => exact Triple.exit fun _ _ => .inl rfl
      | failed => exact Triple.pure done
      | report report => exact Triple.pure done

theorem runTarget_triple (usable : kernel.Usable) (locals : Locals)
    (addr : BitVec platform.arch.width) :
    Triple kernel.answer (·.Shows .absent [] []) (runTarget platform locals addr)
      (fun _ world => world.child.alive = false ∨ world.Spoiled) (Accounted False) := by
  refine Triple.bind _ (forkChild_triple kernel fun _ _ _ _ _ reported =>
    absurd rfl (usable.reports _ _ _ _ _ reported _)) fun pid => Triple.given fun same => ?_
  subst same
  refine Triple.exists_pre fun report => Triple.exists_pre fun tracee => ?_
  refine Triple.bind _ (getImageBase_triple usable locals.imageEntry) fun imageBase => ?_
  refine (Triple.orSpoiled (fun _ world => world.child.alive = false ∨ world.Spoiled)
    ?_).weaken_post fun _ world ended => by tauto
  refine Triple.bind _ ((createBreakpoint_triple False _).strengthen
    (fun _ _ holds => holds) fun _ _ left => left.2) fun breakpoint => Triple.given fun _ => ?_
  refine Triple.bind _ ((executeUpToBreakpoint_triple False breakpoint).strengthen
    (fun _ _ holds => holds) fun _ _ left => left.2) fun _ => ?_
  refine Triple.exists_pre fun resumed => Triple.given fun _ => ?_
  refine Triple.exists_pre fun steps => Triple.exists_pre fun last => ?_
  refine Triple.exists_pre fun stop => Triple.given fun _ => Triple.given fun _ => ?_
  refine Triple.bind _ (createSnapshot_triple False locals.tls platform kernel) fun snapshot =>
    Triple.given fun _ => ?_
  exact Triple.bind _ (dumpSnapshot_triple usable _ _ _) fun _ => killChild_triple

/-- However `main` ends, the child is gone unless a call has failed. -/
theorem main_triple (usable : kernel.Usable) (locals : Locals) (argv : List (List Byte)) :
    Triple kernel.answer (·.Shows .absent [] []) (main platform locals argv)
      (fun _ world => world.child.alive = false ∨ world.Spoiled) (Accounted False) := by
  have absent : ∀ world : World platform.arch, world.Shows .absent [] [] →
      world.child.alive = false := by
    intro world shown
    rw [shown.child]
    rfl
  unfold main
  split
  · split
    · exact Triple.exit fun world shown => .inr (.inl (absent world shown))
    · refine Triple.bind (fun _ world => world.Shows .absent [] []) (Triple.ensure (Triple.call
        (fun world shown => .inr (.inl (absent world shown))) fun world shown => ?_)) fun _ => ?_
      · have kept : (world.record .malloc true).Shows _ _ _ := shown.record rfl
        exact kept
      · refine Triple.bind _ (runTarget_triple usable locals _) fun _ => ?_
        exact Triple.pure fun world ended => ended
  · exact Triple.pure fun world shown => .inl (absent world shown)

end Target

/-- When the snapshotter ends, the child is dead, provided that what it reads about the
child is usable and no call that it makes while the child is alive fails, other
than the two whose failure it absorbs. -/
theorem main_childDead (platform : Platform) (kernel : Kernel platform.arch) (locals : Locals)
    (argv : List (List Byte)) (result : Except Exit Exit) (final : World platform.arch)
    (ran : (main platform locals argv).run kernel.answer (.initial platform.arch) = (result, final))
    (ends : result ≠ .error .hang) (usable : kernel.Usable)
    (unharmed : ∀ entry ∈ final.log, ¬ entry.Harmful) : final.child.alive = false := by
  have clean : ¬ final.Spoiled := by
    intro given
    obtain ⟨entry, member, harmful⟩ := given
    exact unharmed entry member harmful
  have fresh : (World.initial platform.arch).Shows .absent [] [] := ⟨rfl, rfl, rfl⟩
  have ending := main_triple usable locals argv _ fresh
  rw [ran] at ending
  cases result with
  | ok value => exact ending.resolve_right clean
  | error code =>
      rcases ending with rfl | dead | spoiled | impossible
      · exact absurd rfl ends
      · exact dead
      · exact absurd spoiled clean
      · exact impossible.elim

def blankLocals : Locals := ⟨fun _ => default, paintedEntry 0, paintedEntry 0, zeroBuffer⟩

def targetArgv : List (List Byte) :=
  [[0x73], [0x31, 0x30, 0x30, 0x30], [0x2E, 0x2F, 0x74, 0x61, 0x72, 0x67, 0x65, 0x74]]

/-- The target is a shell script: it runs, but it is no ELF file. -/
def scriptKernel : Kernel .x86_64 :=
  { trappingKernel with
    elf := [0x23, 0x21, 0x2F, 0x62, 0x69, 0x6E, 0x2F, 0x73, 0x68, 0x0A, 0x73, 0x6C, 0x65, 0x65, 0x70,
      0x20, 0x39, 0x39, 0x0A] }

/-- The script is still there when the snapshotter has given up on it. -/
theorem main_leavesChildAlive :
    ∃ final, (main .x86_64 blankLocals targetArgv).run scriptKernel.answer (.initial .x86_64) =
        (.error (.fatal "not an ELF file (bad magic bytes)"), final) ∧
      final.child.alive = true :=
  ⟨_, rfl, rfl⟩

/-- An executable that is linked to its addresses, and a page of memory that is read. -/
def fixedKernel : Kernel .x86_64 :=
  { trappingKernel with
    elf := elfMag ++ [0x02] ++ List.replicate 11 0 ++ [0x02, 0x00] ++ List.replicate 46 0
    maps := fun _ => [anonymousText]
    readv := fun _ _ size buffer => (some size, buffer) }

private theorem fixedKernel_usable : fixedKernel.Usable where
  pid := by decide
  reports := by
    rintro _ _ _ _ _ reported status rfl
    cases reported
  ident := by decide
  header := ⟨.class64, by decide, by decide, .inl (by decide)⟩
  lines := fun _ => ⟨[anonymousLine], .cons anonymousText_parses .nil⟩

-- the copy of the page is evaluated with the rest of the run
unseal copyContent in
theorem fixedKernel_ran : ∃ final, (main .x86_64 blankLocals targetArgv).run fixedKernel.answer
    (.initial .x86_64) = (.ok .success, final) := ⟨_, rfl⟩

theorem main_childDead_fixed :
    ∃ final, (main .x86_64 blankLocals targetArgv).run fixedKernel.answer (.initial .x86_64) =
        (.ok .success, final) ∧ final.child.alive = false := by
  obtain ⟨final, ran⟩ := fixedKernel_ran
  have cooperates : fixedKernel.Cooperates := fun _ _ => rfl
  have unharmed := cooperates.unharmed (main .x86_64 blankLocals targetArgv)
  rw [ran] at unharmed
  exact ⟨final, ran, main_childDead .x86_64 fixedKernel blankLocals targetArgv _ final ran
    (by simp) fixedKernel_usable unharmed⟩

end ProcessBridge.Snapshotter
