import Mathlib.Data.List.Basic
import Mathlib.Data.List.Pairwise
import Mathlib.Tactic.Linarith

/-! Paged memory maps as ordered lists of disjoint regions. A map carries the
proof that its regions are nonempty, whole pages, inside the address space and
pairwise disjoint, so no operation can produce overlapping memory. Protecting
or unmapping part of a region first cuts it at the borders of the range. -/

set_option autoImplicit false

namespace ProcessBridge.Library

structure Region (P α : Type) where
  base : Nat
  perms : P
  data : List α
deriving DecidableEq, Repr

namespace Region

variable {P α : Type}

def limit (region : Region P α) : Nat := region.base + region.data.length

def Contains (region : Region P α) (address : Nat) : Prop :=
  region.base ≤ address ∧ address < region.limit

instance (region : Region P α) (address : Nat) : Decidable (region.Contains address) :=
  inferInstanceAs (Decidable (_ ∧ _))

/-- The region lies wholly before or wholly after a range of addresses. -/
def Apart (base size : Nat) (region : Region P α) : Prop :=
  base + size ≤ region.base ∨ region.limit ≤ base

instance (base size : Nat) (region : Region P α) : Decidable (region.Apart base size) :=
  inferInstanceAs (Decidable (_ ∨ _))

def Disjoint (left right : Region P α) : Prop :=
  left.limit ≤ right.base ∨ right.limit ≤ left.base

structure WellFormed (page bound : Nat) (region : Region P α) : Prop where
  nonempty : 0 < region.data.length
  aligned : page ∣ region.base
  whole : page ∣ region.data.length
  bounded : region.limit ≤ bound

/-- Replace the cells that a run of bytes written at `base` reaches. -/
def overlay (base : Nat) (bytes : List α) (region : Region P α) : Region P α :=
  { region with
    data := region.data.mapIdx fun index cell =>
      if base ≤ region.base + index then bytes.getD (region.base + index - base) cell else cell }

@[simp] theorem overlay_length (base : Nat) (bytes : List α) (region : Region P α) :
    (region.overlay base bytes).data.length = region.data.length := by
  simp [overlay]

theorem overlay_of_apart {base : Nat} {bytes : List α} {region : Region P α}
    (apart : region.Apart base bytes.length) : region.overlay base bytes = region := by
  have same : (region.overlay base bytes).data = region.data := by
    apply List.ext_getElem (by simp)
    intro index inside _
    simp only [overlay, List.getElem_mapIdx]
    split
    · next reached =>
        rw [List.getD_eq_getElem?_getD, List.getElem?_eq_none, Option.getD_none]
        rcases apart with before | after
        · omega
        · simp only [overlay_length] at inside
          simp only [limit] at after
          omega
    · rfl
  cases region
  simpa only [overlay, Region.mk.injEq, true_and] using same

theorem overlay_whole {base : Nat} {region : Region P α} {bytes : List α}
    (here : base = region.base) (full : bytes.length = region.data.length) :
    region.overlay base bytes = { region with data := bytes } := by
  subst here
  have same : (region.overlay region.base bytes).data = bytes := by
    apply List.ext_getElem (by simp [full])
    intro index _ inside
    simp [overlay, inside]
  cases region
  simpa only [overlay, Region.mk.injEq, true_and] using same

/-- What was written is what a read of the same range returns. -/
theorem overlay_slice (region : Region P α) {base : Nat} {bytes : List α}
    (lower : region.base ≤ base) (upper : base + bytes.length ≤ region.limit) :
    ((region.overlay base bytes).data.drop (base - region.base)).take bytes.length = bytes := by
  simp only [limit] at upper
  apply List.ext_getElem
  · simp only [List.length_take, List.length_drop, overlay_length]
    omega
  · intro index _ inside
    have reached : base ≤ region.base + (base - region.base + index) := by omega
    have position : region.base + (base - region.base + index) - base = index := by omega
    simp only [List.getElem_take, List.getElem_drop, overlay, List.getElem_mapIdx, reached,
      ↓reduceIte, position]
    rw [List.getD_eq_getElem?_getD, List.getElem?_eq_getElem inside]
    rfl

theorem overlay_first (region : Region P α) (cell : α) (nonempty : 0 < region.data.length) :
    (region.overlay region.base [cell]).data[0]? = some cell := by
  simp [overlay, List.getElem?_mapIdx, List.getElem?_eq_getElem nonempty]

theorem overlay_getElem?_before {base index : Nat} {bytes : List α} {region : Region P α}
    (before : region.base + index < base) :
    (region.overlay base bytes).data[index]? = region.data[index]? := by
  have unreached : ¬ base ≤ region.base + index := by omega
  simp [overlay, List.getElem?_mapIdx, unreached]

/-- The pieces of a region on the two sides of an address. -/
def cut (address : Nat) (region : Region P α) : List (Region P α) :=
  if region.base < address ∧ address < region.limit then
    [⟨region.base, region.perms, region.data.take (address - region.base)⟩,
      ⟨address, region.perms, region.data.drop (address - region.base)⟩]
  else [region]

theorem cut_eq_self {address : Nat} {region : Region P α}
    (outside : address ≤ region.base ∨ region.limit ≤ address) : region.cut address = [region] := by
  unfold cut
  rw [if_neg (by omega)]

theorem cut_within {address : Nat} {region piece : Region P α} (member : piece ∈ region.cut address) :
    region.base ≤ piece.base ∧ piece.limit ≤ region.limit := by
  unfold cut at member
  split at member
  · next inside =>
      simp only [limit] at inside
      simp only [List.mem_cons, List.not_mem_nil, or_false] at member
      rcases member with rfl | rfl
      · simp only [limit, List.length_take]; omega
      · simp only [limit, List.length_drop]; omega
  · obtain rfl := List.mem_singleton.mp member
    exact ⟨le_rfl, le_rfl⟩

theorem cut_disjoint (address : Nat) (region : Region P α) :
    (region.cut address).Pairwise Disjoint := by
  unfold cut
  split
  · next inside =>
      simp only [limit] at inside
      simp only [List.pairwise_cons, List.mem_singleton, forall_eq, List.not_mem_nil,
        IsEmpty.forall_iff, implies_true, List.Pairwise.nil, and_true]
      left
      simp only [limit, List.length_take]
      omega
  · exact List.pairwise_singleton _ _

theorem cut_wellFormed {page bound address : Nat} {region : Region P α}
    (valid : region.WellFormed page bound) (aligned : page ∣ address) :
    ∀ piece ∈ region.cut address, piece.WellFormed page bound := by
  intro piece member
  obtain ⟨nonempty, baseAligned, whole, bounded⟩ := valid
  unfold cut at member
  split at member
  · next inside =>
      simp only [limit] at inside bounded
      have front : page ∣ address - region.base := Nat.dvd_sub aligned baseAligned
      simp only [List.mem_cons, List.not_mem_nil, or_false] at member
      rcases member with rfl | rfl
      · refine ⟨?_, baseAligned, ?_, ?_⟩
        · simp only [List.length_take]; omega
        · simp only [List.length_take]
          rwa [Nat.min_eq_left (by omega)]
        · simp only [limit, List.length_take]; omega
      · refine ⟨?_, aligned, ?_, ?_⟩
        · simp only [List.length_drop]; omega
        · simp only [List.length_drop]
          exact Nat.dvd_sub whole front
        · simp only [limit, List.length_drop]; omega
  · obtain rfl := List.mem_singleton.mp member
    exact ⟨nonempty, baseAligned, whole, bounded⟩

end Region

@[ext] structure MemoryMap (page bound : Nat) (P α : Type) where
  regions : List (Region P α)
  wellFormed : ∀ region ∈ regions, region.WellFormed page bound
  disjoint : regions.Pairwise Region.Disjoint

namespace MemoryMap

variable {page bound : Nat} {P α : Type}

def empty : MemoryMap page bound P α where
  regions := []
  wellFormed := by simp
  disjoint := List.Pairwise.nil

def Free (memory : MemoryMap page bound P α) (base size : Nat) : Prop :=
  ∀ region ∈ memory.regions, region.Apart base size

instance (memory : MemoryMap page bound P α) (base size : Nat) : Decidable (memory.Free base size) :=
  inferInstanceAs (Decidable (∀ _ ∈ _, _))

/-- The conditions under which a new region may be created. -/
def Mappable (memory : MemoryMap page bound P α) (base size : Nat) : Prop :=
  0 < size ∧ page ∣ base ∧ page ∣ size ∧ base + size ≤ bound ∧ memory.Free base size

instance (memory : MemoryMap page bound P α) (base size : Nat) :
    Decidable (memory.Mappable base size) :=
  inferInstanceAs (Decidable (_ ∧ _))

def extend (memory : MemoryMap page bound P α) (region : Region P α)
    (mappable : memory.Mappable region.base region.data.length) : MemoryMap page bound P α where
  regions := memory.regions ++ [region]
  wellFormed := by
    intro candidate member
    rcases List.mem_append.mp member with old | new
    · exact memory.wellFormed candidate old
    · obtain rfl := List.mem_singleton.mp new
      exact ⟨mappable.1, mappable.2.1, mappable.2.2.1, mappable.2.2.2.1⟩
  disjoint := by
    rw [List.pairwise_append]
    refine ⟨memory.disjoint, List.pairwise_singleton _ _, ?_⟩
    intro old member new new_eq
    obtain rfl := List.mem_singleton.mp new_eq
    exact (mappable.2.2.2.2 old member).symm

/-- Create a region of `size` cells holding `fill`. -/
def map? (memory : MemoryMap page bound P α) (base size : Nat) (perms : P) (fill : α) :
    Option (MemoryMap page bound P α) :=
  if mappable : memory.Mappable base size then
    some (memory.extend ⟨base, perms, List.replicate size fill⟩
      (by simpa only [List.length_replicate] using mappable))
  else none

/-- Every address of the range belongs to some region. -/
def Covered (memory : MemoryMap page bound P α) (base size : Nat) : Prop :=
  ∀ index < size, ∃ region ∈ memory.regions, region.Contains (base + index)

instance (memory : MemoryMap page bound P α) (base size : Nat) :
    Decidable (memory.Covered base size) :=
  inferInstanceAs (Decidable (∀ index < size, ∃ region ∈ memory.regions, _))

def reshape (memory : MemoryMap page bound P α) (change : Region P α → Region P α)
    (base_eq : ∀ region, (change region).base = region.base)
    (length_eq : ∀ region, (change region).data.length = region.data.length) :
    MemoryMap page bound P α where
  regions := memory.regions.map change
  wellFormed := by
    intro candidate member
    obtain ⟨region, old, rfl⟩ := List.mem_map.mp member
    obtain ⟨nonempty, aligned, whole, bounded⟩ := memory.wellFormed region old
    refine ⟨?_, ?_, ?_, ?_⟩
    · rwa [length_eq]
    · rwa [base_eq]
    · rwa [length_eq]
    · simpa only [Region.limit, base_eq, length_eq] using bounded
  disjoint := by
    rw [List.pairwise_map]
    refine memory.disjoint.imp ?_
    intro left right apart
    simpa only [Region.Disjoint, Region.limit, base_eq, length_eq] using apart

/-- Store bytes at an address; permissions do not apply to the host. -/
def write? (memory : MemoryMap page bound P α) (base : Nat) (bytes : List α) :
    Option (MemoryMap page bound P α) :=
  if memory.Covered base bytes.length then
    some (memory.reshape (Region.overlay base bytes) (fun _ => rfl) (fun _ => by simp))
  else none

/-- Split regions so that none straddles the address. -/
def cut (memory : MemoryMap page bound P α) (address : Nat) (aligned : page ∣ address) :
    MemoryMap page bound P α where
  regions := memory.regions.flatMap (Region.cut address)
  wellFormed := by
    intro piece member
    obtain ⟨region, old, within⟩ := List.mem_flatMap.mp member
    exact Region.cut_wellFormed (memory.wellFormed region old) aligned piece within
  disjoint := by
    rw [List.pairwise_flatMap]
    refine ⟨fun region _ => Region.cut_disjoint address region, ?_⟩
    refine memory.disjoint.imp ?_
    intro left right apart leftPiece leftMember rightPiece rightMember
    obtain ⟨leftLower, leftUpper⟩ := Region.cut_within leftMember
    obtain ⟨rightLower, rightUpper⟩ := Region.cut_within rightMember
    rcases apart with before | after
    · exact .inl (by omega)
    · exact .inr (by omega)

/-- Set the permissions of every region inside a range of whole pages. -/
def protect? (memory : MemoryMap page bound P α) (base size : Nat) (perms : P) :
    Option (MemoryMap page bound P α) :=
  if allowed : (page ∣ base ∧ page ∣ size) ∧ memory.Covered base size then
    some (((memory.cut base allowed.1.1).cut (base + size)
        (Nat.dvd_add allowed.1.1 allowed.1.2)).reshape
      (fun region => if base ≤ region.base ∧ region.limit ≤ base + size
        then { region with perms } else region)
      (fun region => by split <;> rfl) (fun region => by split <;> rfl))
  else none

def retain (memory : MemoryMap page bound P α) (keep : Region P α → Bool) :
    MemoryMap page bound P α where
  regions := memory.regions.filter keep
  wellFormed := fun region member => memory.wellFormed region (List.mem_of_mem_filter member)
  disjoint := memory.disjoint.filter _

/-- Remove every region inside a range of whole pages. -/
def unmap? (memory : MemoryMap page bound P α) (base size : Nat) :
    Option (MemoryMap page bound P α) :=
  if allowed : (page ∣ base ∧ page ∣ size) ∧ memory.Covered base size then
    some (((memory.cut base allowed.1.1).cut (base + size)
        (Nat.dvd_add allowed.1.1 allowed.1.2)).retain
      fun region => decide (¬ (base ≤ region.base ∧ region.limit ≤ base + size)))
  else none

def lookup (memory : MemoryMap page bound P α) (address : Nat) : Option (P × α) :=
  (memory.regions.find? fun region => decide (region.Contains address)).bind fun region =>
    (region.data[address - region.base]?).map fun cell => (region.perms, cell)

def read? (memory : MemoryMap page bound P α) (base size : Nat) : Option (List α) :=
  (List.range size).mapM fun index => (memory.lookup (base + index)).map Prod.snd

/-!
## The most recently created region
-/

section LastRegion

variable {memory after : MemoryMap page bound P α} {front : List (Region P α)} {last : Region P α}

theorem map?_eq_some_iff {base size : Nat} {perms : P} {fill : α} :
    memory.map? base size perms fill = some after ↔
      memory.Mappable base size ∧
        after.regions = memory.regions ++ [⟨base, perms, List.replicate size fill⟩] := by
  unfold map?
  constructor
  · intro mapped
    split at mapped
    · next mappable =>
        cases mapped
        exact ⟨mappable, rfl⟩
    · cases mapped
  · intro given
    obtain ⟨mappable, shape⟩ := given
    rw [dif_pos mappable, Option.some.injEq]
    exact MemoryMap.ext shape.symm

theorem map?_eq_none_iff {base size : Nat} {perms : P} {fill : α} :
    memory.map? base size perms fill = none ↔ ¬ memory.Mappable base size := by
  unfold map?
  split
  · next mappable => simp [mappable]
  · next refused => simp [refused]

/-- The older regions lie apart from any range inside the last one. -/
theorem front_apart (shape : memory.regions = front ++ [last]) {base size : Nat}
    (lower : last.base ≤ base) (upper : base + size ≤ last.limit) :
    ∀ region ∈ front, region.Apart base size := by
  intro region member
  have pairwise := memory.disjoint
  rw [shape, List.pairwise_append] at pairwise
  rcases pairwise.2.2 region member last (by simp) with before | behind
  · exact .inr (by omega)
  · exact .inl (by omega)

theorem covered_last (shape : memory.regions = front ++ [last]) {base size : Nat}
    (lower : last.base ≤ base) (upper : base + size ≤ last.limit) : memory.Covered base size := by
  intro index inside
  exact ⟨last, by simp [shape], by omega, by omega⟩

theorem write?_last (shape : memory.regions = front ++ [last]) (base : Nat) (bytes : List α)
    (lower : last.base ≤ base) (upper : base + bytes.length ≤ last.limit) :
    ∃ written, memory.write? base bytes = some written ∧
      written.regions = front ++ [last.overlay base bytes] := by
  refine ⟨_, by rw [write?, if_pos (covered_last shape lower upper)], ?_⟩
  have kept : front.map (Region.overlay base bytes) = front := by
    rw [List.map_congr_left
      (fun region member => Region.overlay_of_apart (front_apart shape lower upper region member))]
    simp
  simp only [reshape, shape, List.map_append, kept, List.map_cons, List.map_nil]

private theorem cut_border (shape : memory.regions = front ++ [last]) {address : Nat}
    (aligned : page ∣ address)
    (border : address = last.base ∨ address = last.base + last.data.length) :
    memory.cut address aligned = memory := by
  apply MemoryMap.ext
  have whole : ∀ region ∈ memory.regions, region.cut address = [region] := by
    intro region member
    rw [shape, List.mem_append, List.mem_singleton] at member
    rcases member with old | rfl
    · have upper : last.base + last.data.length ≤ last.limit := le_rfl
      have apart := front_apart shape (le_refl last.base) upper region old
      have positive : 0 < last.data.length :=
        (memory.wellFormed last (by simp [shape])).nonempty
      apply Region.cut_eq_self
      simp only [Region.Apart, Region.limit] at apart ⊢
      omega
    · exact Region.cut_eq_self (by simp only [Region.limit]; omega)
  change memory.regions.flatMap (Region.cut address) = memory.regions
  rw [List.flatMap_congr whole]
  simp

private theorem cut_borders (shape : memory.regions = front ++ [last])
    (lower : page ∣ last.base) (upper : page ∣ last.base + last.data.length) :
    (memory.cut last.base lower).cut (last.base + last.data.length) upper = memory := by
  rw [cut_border shape lower (.inl rfl), cut_border shape upper (.inr rfl)]

private theorem front_outside (shape : memory.regions = front ++ [last]) :
    ∀ region ∈ front, ¬ (last.base ≤ region.base ∧ region.limit ≤ last.base + last.data.length) := by
  intro region member inside
  have upper : last.base + last.data.length ≤ last.limit := le_rfl
  have apart := front_apart shape (le_refl last.base) upper region member
  have positive := (memory.wellFormed region (by simp [shape, member])).nonempty
  simp only [Region.Apart, Region.limit] at apart inside
  omega

private theorem last_allowed (shape : memory.regions = front ++ [last]) :
    (page ∣ last.base ∧ page ∣ last.data.length) ∧ memory.Covered last.base last.data.length := by
  have valid := memory.wellFormed last (by simp [shape])
  exact ⟨⟨valid.aligned, valid.whole⟩, covered_last shape le_rfl le_rfl⟩

theorem protect?_last (shape : memory.regions = front ++ [last]) (perms : P) :
    ∃ guarded, memory.protect? last.base last.data.length perms = some guarded ∧
      guarded.regions = front ++ [{ last with perms }] := by
  refine ⟨_, by rw [protect?, dif_pos (last_allowed shape)], ?_⟩
  rw [cut_borders shape]
  have kept : front.map (fun region : Region P α =>
      if last.base ≤ region.base ∧ region.limit ≤ last.base + last.data.length
        then { region with perms } else region) = front := by
    rw [List.map_congr_left (fun region member => if_neg (front_outside shape region member))]
    simp
  simp only [reshape, shape, List.map_append, kept, List.map_cons, List.map_nil]
  rw [if_pos ⟨le_rfl, le_rfl⟩]

theorem unmap?_last (shape : memory.regions = front ++ [last]) :
    ∃ removed, memory.unmap? last.base last.data.length = some removed ∧
      removed.regions = front := by
  refine ⟨_, by rw [unmap?, dif_pos (last_allowed shape)], ?_⟩
  rw [cut_borders shape]
  have kept : front.filter (fun region : Region P α =>
      decide (¬ (last.base ≤ region.base ∧ region.limit ≤ last.base + last.data.length))) = front := by
    rw [List.filter_eq_self]
    intro region member
    simpa only [decide_eq_true_eq] using front_outside shape region member
  simp only [retain, shape, List.filter_append, kept]
  simp [Region.limit]

end LastRegion

theorem find?_region {memory : MemoryMap page bound P α} {region : Region P α} {address : Nat}
    (member : region ∈ memory.regions) (inside : region.Contains address) :
    (memory.regions.find? fun region => decide (region.Contains address)) = some region := by
  obtain ⟨before, behind, shape⟩ := List.append_of_mem member
  have pairwise := memory.disjoint
  rw [shape, List.pairwise_append] at pairwise
  rw [shape, List.find?_append]
  have absent : before.find? (fun region => decide (region.Contains address)) = none := by
    rw [List.find?_eq_none]
    intro other old found
    have apart := pairwise.2.2 other old region (by simp)
    have within : other.Contains address := of_decide_eq_true found
    simp only [Region.Contains, Region.Disjoint] at apart inside within
    omega
  rw [absent, Option.none_or, List.find?_cons_of_pos (by simpa using inside)]

theorem lookup_region {memory : MemoryMap page bound P α} {region : Region P α} {address : Nat}
    (member : region ∈ memory.regions) (inside : region.Contains address) :
    memory.lookup address =
      (region.data[address - region.base]?).map fun cell => (region.perms, cell) := by
  rw [lookup, find?_region member inside, Option.bind_some]

/-- Reading inside one region returns a slice of its cells. -/
theorem read?_region {memory : MemoryMap page bound P α} {region : Region P α}
    (member : region ∈ memory.regions) (base size : Nat) (lower : region.base ≤ base)
    (upper : base + size ≤ region.limit) :
    memory.read? base size = some ((region.data.drop (base - region.base)).take size) := by
  unfold read?
  induction size generalizing base with
  | zero => simp
  | succ size ih =>
      have here : base - region.base < region.data.length := by
        simp only [Region.limit] at upper
        omega
      have tail := ih (base + 1) (by omega) (by omega)
      rw [List.range_succ_eq_map, List.mapM_cons, List.mapM_map]
      have shifted : (fun index => (memory.lookup (base + index)).map Prod.snd) ∘ Nat.succ =
          fun index => (memory.lookup (base + 1 + index)).map Prod.snd := by
        funext index
        simp only [Function.comp_apply, Nat.succ_eq_add_one]
        congr 2
        omega
      rw [shifted, tail, Nat.add_zero, lookup_region member ⟨lower, by omega⟩,
        List.getElem?_eq_getElem here]
      have next : base + 1 - region.base = base - region.base + 1 := by omega
      simp only [Option.map_some, bind, Option.bind_some, pure, next]
      rw [List.drop_eq_getElem_cons here, List.take_succ_cons]

end MemoryMap

end ProcessBridge.Library
