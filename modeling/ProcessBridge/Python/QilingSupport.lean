import ProcessBridge.Loader.Restore

/-! The Python package around the loader: `restore_snapshot`, and the Qiling instance
that is emptied before a snapshot goes into it. -/

set_option autoImplicit false

namespace ProcessBridge.Python

open Library Common Utilities Loader

/-- How a call from Python can fail; after `halted` the native call never returns. -/
inductive Raised where
  | halted (halt : Halt)
  | runtimeError (message : String)
  | ucError (code : UcErr)
deriving DecidableEq, Repr

def pbFail : BitVec 64 := BitVec.ofNat 64 (2 ^ 64 - 1)

def restoreSnapshot (level : LogLevel) (u : Unicorn) (uc : Engine) (file : SnapshotFile) :
    Except Raised (BitVec 64 × Engine) :=
  match pbRestoreSnapshot level u uc file with
  | .error halt => .error (.halted halt)
  | .ok (entry, uc) =>
      if entry = pbFail then .error (.runtimeError "pb_restore_snapshot failed for %r")
      else .ok (entry, uc)

/-- What the loop unpacks of an element of `ql.mem.map_info`. -/
structure MapInfo where
  lbound : Nat
  ubound : Nat
deriving DecidableEq, Repr

def MapInfo.Contains (info : MapInfo) (address : Nat) : Prop :=
  info.lbound ≤ address ∧ address < info.ubound

/-- A Qiling instance, as far as the package looks at it. -/
structure Qiling where
  uc : Engine
  mapInfo : List MapInfo

/-- `ql.mem.unmap`, which belongs to Qiling. -/
abbrev Unmap := Qiling → Nat → Nat → Except Raised Qiling

/-- The loop over a copy of the list. -/
def unmapAll (unmap : Unmap) (ql : Qiling) : List MapInfo → Except Raised Qiling
  | [] => .ok ql
  | info :: rest =>
      match unmap ql info.lbound (info.ubound - info.lbound) with
      | .error raised => .error raised
      | .ok ql => unmapAll unmap ql rest

def makeQilingFromSnapshot (level : LogLevel) (u : Unicorn) (unmap : Unmap) (ql : Qiling)
    (file : SnapshotFile) : Except Raised (Qiling × BitVec 64) := do
  let ql ← unmapAll unmap ql ql.mapInfo
  let (entry, uc) ← restoreSnapshot level u ql.uc file
  .ok ({ ql with uc }, entry)

/-!
## Emptying the instance
-/

/-- What Qiling keeps: `map_info` lists the mapped addresses of the engine in whole
pages, each in one element. -/
structure Mirrors (memory : Memory) (infos : List MapInfo) : Prop where
  aligned : ∀ info ∈ infos, 0x1000 ∣ info.lbound ∧ 0x1000 ∣ info.ubound
  ordered : ∀ info ∈ infos, info.lbound ≤ info.ubound
  mapped : ∀ address, memory.lookup address ≠ none ↔ ∃ info ∈ infos, info.Contains address
  apart : infos.Pairwise fun left right => left.ubound ≤ right.lbound ∨ right.ubound ≤ left.lbound

/-- Removing one element leaves a memory that the others list. -/
theorem Mirrors.unmap {memory : Memory} {info : MapInfo} {rest : List MapInfo}
    (mirrors : Mirrors memory (info :: rest)) :
    ∃ after, memory.unmap? info.lbound (info.ubound - info.lbound) = some after ∧
      Mirrors after rest := by
  obtain ⟨lower, upper⟩ := mirrors.aligned info List.mem_cons_self
  have ordered := mirrors.ordered info List.mem_cons_self
  have covered : memory.Covered info.lbound (info.ubound - info.lbound) := by
    rw [MemoryMap.covered_iff]
    intro index inside
    exact (mirrors.mapped _).mpr ⟨info, List.mem_cons_self, by omega, by omega⟩
  obtain ⟨after, removed⟩ := MemoryMap.unmap?_covered lower (Nat.dvd_sub upper lower) covered
  have apart := List.pairwise_cons.mp mirrors.apart
  refine ⟨after, removed, ⟨?_, ?_, ?_, apart.2⟩⟩
  · exact fun other member => mirrors.aligned other (List.mem_cons_of_mem _ member)
  · exact fun other member => mirrors.ordered other (List.mem_cons_of_mem _ member)
  · intro address
    have listed := mirrors.mapped address
    rw [MemoryMap.lookup_unmap removed]
    constructor
    · intro found
      split at found
      · exact absurd rfl found
      · next outside =>
          obtain ⟨other, member, inside⟩ := listed.mp found
          rcases List.mem_cons.mp member with rfl | later
          · obtain ⟨above, below⟩ := inside
            omega
          · exact ⟨other, later, inside⟩
    · intro found
      obtain ⟨other, member, inside⟩ := found
      have away := apart.1 other member
      have above := inside.1
      have below := inside.2
      rw [if_neg (by omega)]
      exact listed.mpr ⟨other, List.mem_cons_of_mem _ member, inside⟩

/-- What the loop relies on: a range that the engine can unmap is unmapped there, and
nothing else changes in the engine. -/
def UnmapsEngine (unmap : Unmap) : Prop :=
  ∀ ql address size uc, ucMemUnmap ql.uc address size = .ok uc →
    ∃ infos, unmap ql address size = .ok ⟨uc, infos⟩

/-- The loop empties the memory, in whatever order the elements come, and touches
nothing else of the engine. -/
theorem unmapAll_clears {unmap : Unmap} (unmaps : UnmapsEngine unmap) {ql : Qiling}
    {infos : List MapInfo} (mirrors : Mirrors ql.uc.memory infos) :
    ∃ left, unmapAll unmap ql infos = .ok ⟨{ ql.uc with memory := .empty }, left⟩ := by
  induction infos generalizing ql with
  | nil =>
      have nothing : ∀ address, ql.uc.memory.lookup address = none := by
        intro address
        by_contra mapped
        obtain ⟨_, member, _⟩ := (mirrors.mapped address).mp mapped
        cases member
      have empty : ql.uc.memory = .empty := MemoryMap.ext (MemoryMap.regions_eq_nil nothing)
      exact ⟨ql.mapInfo, by rw [unmapAll, ← empty]⟩
  | cons info rest ih =>
      obtain ⟨after, removed, listed⟩ := mirrors.unmap
      obtain ⟨infos, unmapped⟩ := unmaps ql _ _ _ (ucMemUnmap_ok removed)
      have cleared : ∃ left, unmapAll unmap ⟨{ ql.uc with memory := after }, infos⟩ rest =
          .ok ⟨{ ql.uc with memory := .empty }, left⟩ := ih listed
      rw [unmapAll, unmapped]
      exact cleared

/-- The package restores a snapshot into a Qiling instance exactly as the loader does into
an engine with nothing mapped, whatever Qiling has set up there. No failure
reaches the Python caller as an exception: the native call does not return. -/
theorem makeQilingFromSnapshot_exact (level : LogLevel) (u : Unicorn) (unmap : Unmap)
    (unmaps : UnmapsEngine unmap) (ql : Qiling) (file : SnapshotFile)
    (mirrors : Mirrors ql.uc.memory ql.mapInfo) :
    (∀ entry after, (∃ infos,
        makeQilingFromSnapshot level u unmap ql file = .ok (⟨after, infos⟩, entry)) ↔
      pbRestoreSnapshot level u { ql.uc with memory := .empty } file = .ok (entry, after)) ∧
    ∀ raised, makeQilingFromSnapshot level u unmap ql file = .error raised →
      ∃ halt, raised = .halted halt := by
  obtain ⟨left, cleared⟩ := unmapAll_clears unmaps mirrors
  unfold makeQilingFromSnapshot restoreSnapshot
  rw [cleared, ok_bind]
  cases restored : pbRestoreSnapshot level u { ql.uc with memory := .empty } file with
  | error halt =>
      refine ⟨fun entry after => by simp, ?_⟩
      intro raised stopped
      cases stopped
      exact ⟨halt, rfl⟩
  | ok result =>
      obtain ⟨entry, after⟩ := result
      have fine : entry ≠ pbFail := pbRestoreSnapshot_entry restored
      simp only [if_neg fine, ok_bind]
      refine ⟨fun _ _ => by simp [and_comm], ?_⟩
      intro raised stopped
      cases stopped

/-- A Qiling instance with one page, which it lists. -/
def pageQiling : Qiling where
  uc := { Engine.opened .mode64 with
    memory := MemoryMap.empty.extend zeroPage.region (by
      have length : zeroPage.region.data.length = 0x1000 := List.length_replicate
      rw [length]
      exact ⟨by decide, by decide, by decide, by decide, Engine.opened_free .mode64 _ _⟩) }
  mapInfo := [⟨0x10000, 0x11000⟩]

private theorem pageQiling_mirrors : Mirrors pageQiling.uc.memory pageQiling.mapInfo := by
  have regions : pageQiling.uc.memory.regions = [zeroPage.region] := rfl
  have limit : zeroPage.region.limit = 0x11000 := by
    rw [Block.region_limit]
    rfl
  have base : zeroPage.region.base = 0x10000 := rfl
  refine ⟨?_, ?_, ?_, List.pairwise_singleton _ _⟩
  · simp [pageQiling]
  · simp [pageQiling]
  · intro address
    rw [Ne, MemoryMap.lookup_eq_none_iff, regions]
    simp [Region.Contains, limit, base, pageQiling, MapInfo.Contains]

/-- Qiling drops the element from its list and has the engine unmap the range. -/
def dropAndUnmap : Unmap := fun ql address size =>
  match ucMemUnmap ql.uc address size with
  | .error code => .error (.ucError code)
  | .ok uc => .ok ⟨uc, ql.mapInfo.filter fun info => info ≠ ⟨address, address + size⟩⟩

private theorem dropAndUnmap_unmapsEngine : UnmapsEngine dropAndUnmap := by
  intro ql address size uc unmapped
  exact ⟨_, by rw [dropAndUnmap, unmapped]⟩

theorem makeQilingFromSnapshot_exact_pages :
    ∃ result, makeQilingFromSnapshot .debug .lenient dropAndUnmap pageQiling
      (.sound (flatX86_64State.bytes ++ blocksBytes [zeroPage, otherPage])) = .ok result := by
  obtain ⟨after, restored⟩ := pages_restored .debug
  obtain ⟨infos, made⟩ := ((makeQilingFromSnapshot_exact .debug .lenient dropAndUnmap
    dropAndUnmap_unmapsEngine pageQiling _ pageQiling_mirrors).1 _ after).mpr restored
  exact ⟨_, made⟩

end ProcessBridge.Python
