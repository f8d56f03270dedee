import Mathlib.Data.List.Perm.Basic
import ProcessBridge.Library.MemoryMap

/-! Memory as it looks from inside: at each address there is nothing, or a cell with
permissions. The order of the regions does not show. -/

set_option autoImplicit false

namespace ProcessBridge.Library

namespace Region

variable {P α : Type} {region piece : Region P α} {border address : Nat} {perms : P} {cell : α}

/-- The region holds a cell at an address. -/
def Holds (region : Region P α) (address : Nat) (perms : P) (cell : α) : Prop :=
  region.Contains address ∧ region.perms = perms ∧ region.data[address - region.base]? = some cell

theorem holds_of_cut (within : piece ∈ region.cut border) (holds : piece.Holds address perms cell) :
    region.Holds address perms cell := by
  obtain ⟨inside, rfl, here⟩ := holds
  unfold cut at within
  split at within
  · next between =>
      simp only [List.mem_cons, List.not_mem_nil, or_false] at within
      rcases within with rfl | rfl
      · simp only [Contains, limit, List.length_take] at inside between
        refine ⟨⟨inside.1, by simp only [limit]; omega⟩, rfl, ?_⟩
        dsimp only at here
        rwa [List.getElem?_take_of_lt (by omega)] at here
      · simp only [Contains, limit, List.length_drop] at inside between
        refine ⟨⟨by omega, by simp only [limit]; omega⟩, rfl, ?_⟩
        dsimp only at here
        rwa [List.getElem?_drop, show border - region.base + (address - border) =
          address - region.base by omega] at here
  · obtain rfl := List.mem_singleton.mp within
    exact ⟨inside, rfl, here⟩

theorem cut_of_holds (border : Nat) (holds : region.Holds address perms cell) :
    ∃ piece ∈ region.cut border, piece.Holds address perms cell := by
  obtain ⟨inside, rfl, here⟩ := holds
  unfold cut
  split
  · next between =>
      simp only [Contains, limit] at inside between
      by_cases before : address < border
      · refine ⟨_, List.mem_cons_self, ⟨inside.1, ?_⟩, rfl, ?_⟩
        · simp only [limit, List.length_take]
          omega
        · dsimp only
          rwa [List.getElem?_take_of_lt (by omega)]
      · have behind : border ≤ address := by omega
        refine ⟨_, List.mem_cons_of_mem _ (List.mem_singleton_self _), ⟨behind, ?_⟩, rfl, ?_⟩
        · simp only [limit, List.length_drop]
          omega
        · dsimp only
          rwa [List.getElem?_drop, show border - region.base + (address - border) =
            address - region.base by omega]
  · exact ⟨region, List.mem_singleton_self _, inside, rfl, here⟩

/-- No piece lies on both sides of the border. -/
theorem cut_separates (within : piece ∈ region.cut border) :
    piece.limit ≤ border ∨ border ≤ piece.base := by
  unfold cut at within
  split at within
  · next between =>
      simp only [limit] at between
      simp only [List.mem_cons, List.not_mem_nil, or_false] at within
      rcases within with rfl | rfl
      · left
        simp only [limit, List.length_take]
        omega
      · exact .inr le_rfl
  · next outside =>
      obtain rfl := List.mem_singleton.mp within
      omega

end Region

namespace MemoryMap

variable {page bound : Nat} {P α : Type} {memory other : MemoryMap page bound P α} {address : Nat}

theorem lookup_eq_some_iff {perms : P} {cell : α} :
    memory.lookup address = some (perms, cell) ↔
      ∃ region ∈ memory.regions, region.Holds address perms cell := by
  constructor
  · intro found
    obtain ⟨region, here, cellFound⟩ := Option.bind_eq_some_iff.mp found
    obtain ⟨value, stored, same⟩ := Option.map_eq_some_iff.mp cellFound
    have inside : region.Contains address := by simpa using List.find?_some here
    cases same
    exact ⟨region, List.mem_of_find?_eq_some here, inside, rfl, stored⟩
  · intro given
    obtain ⟨region, member, inside, rfl, here⟩ := given
    rw [lookup_region member inside, here, Option.map_some]

theorem lookup_eq_none_iff :
    memory.lookup address = none ↔ ∀ region ∈ memory.regions, ¬ region.Contains address := by
  constructor
  · intro missing region member inside
    have bounds := inside
    rw [lookup_region member inside, Option.map_eq_none_iff, List.getElem?_eq_none_iff] at missing
    simp only [Region.Contains, Region.limit] at bounds
    omega
  · intro outside
    rw [lookup, List.find?_eq_none.mpr fun region member => by simpa using outside region member,
      Option.bind_none]

/-- Two memories that hold the same at every address. -/
def Same (memory other : MemoryMap page bound P α) : Prop :=
  ∀ address, memory.lookup address = other.lookup address

theorem Same.of_perm (perm : memory.regions.Perm other.regions) : memory.Same other := by
  intro address
  cases found : other.lookup address with
  | none =>
      rw [lookup_eq_none_iff] at found ⊢
      exact fun region member => found region (perm.mem_iff.mp member)
  | some entry =>
      obtain ⟨perms, cell⟩ := entry
      obtain ⟨region, member, here⟩ := lookup_eq_some_iff.mp found
      exact lookup_eq_some_iff.mpr ⟨region, perm.mem_iff.mpr member, here⟩

/-!
## Removing ranges
-/

theorem covered_iff {base size : Nat} :
    memory.Covered base size ↔
      ∀ index, index < size → memory.lookup (base + index) ≠ none := by
  constructor
  · intro covered index inside missing
    obtain ⟨region, member, here⟩ := covered index inside
    exact lookup_eq_none_iff.mp missing region member here
  · intro mapped index inside
    by_contra uncovered
    refine mapped index inside (lookup_eq_none_iff.mpr ?_)
    intro region member here
    exact uncovered ⟨region, member, here⟩

theorem regions_eq_nil (nothing : ∀ address, memory.lookup address = none) :
    memory.regions = [] := by
  cases shape : memory.regions with
  | nil => rfl
  | cons region rest =>
      have member : region ∈ memory.regions := by simp [shape]
      have positive := (memory.wellFormed region member).nonempty
      have inside : region.Contains region.base := ⟨le_rfl, by simp only [Region.limit]; omega⟩
      exact absurd inside (lookup_eq_none_iff.mp (nothing region.base) region member)

/-- Cutting regions moves nothing. -/
theorem cut_lookup {border : Nat} {aligned : page ∣ border} {perms : P} {cell : α} :
    (memory.cut border aligned).lookup address = some (perms, cell) ↔
      memory.lookup address = some (perms, cell) := by
  rw [lookup_eq_some_iff, lookup_eq_some_iff]
  constructor
  · intro found
    obtain ⟨piece, member, here⟩ := found
    obtain ⟨region, old, within⟩ := List.mem_flatMap.mp member
    exact ⟨region, old, Region.holds_of_cut within here⟩
  · intro found
    obtain ⟨region, member, here⟩ := found
    obtain ⟨piece, within, there⟩ := Region.cut_of_holds border here
    exact ⟨piece, List.mem_flatMap.mpr ⟨region, member, within⟩, there⟩

/-- After a range is removed nothing is mapped in it, and everything else is as it was. -/
theorem lookup_unmap {base size : Nat} (removed : memory.unmap? base size = some other) :
    other.lookup address =
      if base ≤ address ∧ address < base + size then none else memory.lookup address := by
  unfold unmap? at removed
  split at removed
  · next allowed =>
      cases removed
      generalize lower : memory.cut base allowed.1.1 = first
      generalize upper : first.cut (base + size) (Nat.dvd_add allowed.1.1 allowed.1.2) = pieces
      -- both borders are cuts, so a piece inside the range is removed as a whole
      have parted : ∀ region ∈ pieces.regions, (region.limit ≤ base ∨ base ≤ region.base) ∧
          (region.limit ≤ base + size ∨ base + size ≤ region.base) := by
        intro region member
        subst upper
        obtain ⟨whole, old, within⟩ := List.mem_flatMap.mp member
        subst lower
        obtain ⟨_, _, inside⟩ := List.mem_flatMap.mp old
        obtain ⟨below, above⟩ := Region.cut_within within
        rcases Region.cut_separates inside with before | behind
        · exact ⟨.inl (by omega), Region.cut_separates within⟩
        · exact ⟨.inr (by omega), Region.cut_separates within⟩
      by_cases inside : base ≤ address ∧ address < base + size
      · rw [if_pos inside, lookup_eq_none_iff]
        intro region member here
        obtain ⟨old, outside⟩ := List.mem_filter.mp member
        have sides := parted region old
        have bounds := of_decide_eq_true outside
        simp only [Region.Contains] at here
        omega
      · rw [if_neg inside]
        apply Option.ext
        intro entry
        obtain ⟨perms, cell⟩ := entry
        have same : pieces.lookup address = some (perms, cell) ↔
            memory.lookup address = some (perms, cell) := by
          rw [← upper, cut_lookup, ← lower, cut_lookup]
        rw [← same, lookup_eq_some_iff, lookup_eq_some_iff]
        constructor
        · intro found
          obtain ⟨region, member, holds⟩ := found
          exact ⟨region, List.mem_of_mem_filter member, holds⟩
        · intro found
          obtain ⟨region, member, holds⟩ := found
          refine ⟨region, List.mem_filter.mpr ⟨member, decide_eq_true ?_⟩, holds⟩
          have bounds := holds.1
          simp only [Region.Contains] at bounds
          omega
  · cases removed

theorem unmap?_covered {base size : Nat} (lower : page ∣ base) (upper : page ∣ size)
    (covered : memory.Covered base size) : ∃ after, memory.unmap? base size = some after := by
  rw [unmap?, dif_pos ⟨⟨lower, upper⟩, covered⟩]
  exact ⟨_, rfl⟩

end MemoryMap

end ProcessBridge.Library
