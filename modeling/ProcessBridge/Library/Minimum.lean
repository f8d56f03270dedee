import Mathlib.Order.MinMax

/-! Loops that keep the lowest key of the items they select. The state of the loop is
left open; only what it measures matters. -/

set_option autoImplicit false

namespace ProcessBridge.Library

section Minimum

variable {α σ ι : Type} [LinearOrder α]

/-- A step lowers what the state measures to the key of a selected item, and no further. -/
def Lowers (measure : σ → α) (selects : ι → Prop) (key : ι → α) (step : σ → ι → σ) : Prop :=
  ∀ bound state item, bound ≤ measure (step state item) ↔
    bound ≤ measure state ∧ (selects item → bound ≤ key item)

variable {measure : σ → α} {selects : ι → Prop} {key : ι → α} {step : σ → ι → σ}

/-- The usual loop body: replace the state by the value of a selected item that is lower. -/
theorem Lowers.of_replaces {value : ι → σ}
    (replaced : ∀ state item, selects item → measure (value item) < measure state →
      step state item = value item)
    (kept : ∀ state item, ¬ (selects item ∧ measure (value item) < measure state) →
      step state item = state) :
    Lowers measure selects (fun item => measure (value item)) step := by
  intro bound state item
  by_cases selected : selects item
  · by_cases lower : measure (value item) < measure state
    · rw [replaced state item selected lower]
      exact ⟨fun bounded => ⟨bounded.trans lower.le, fun _ => bounded⟩,
        fun bounded => bounded.2 selected⟩
    · rw [kept state item fun held => lower held.2]
      exact ⟨fun bounded => ⟨bounded, fun _ => bounded.trans (not_lt.mp lower)⟩,
        fun bounded => bounded.1⟩
  · rw [kept state item fun held => selected held.1]
    exact ⟨fun bounded => ⟨bounded, fun held => absurd held selected⟩, fun bounded => bounded.1⟩

section Fold

variable (lowers : Lowers measure selects key step)
include lowers

theorem Lowers.le_foldl_iff (bound : α) (items : List ι) (state : σ) :
    bound ≤ measure (items.foldl step state) ↔
      bound ≤ measure state ∧ ∀ item ∈ items, selects item → bound ≤ key item := by
  induction items generalizing state with
  | nil => simp
  | cons item rest ih =>
      rw [List.foldl_cons, ih, lowers, List.forall_mem_cons, and_assoc]

/-- The result is attained by an item unless the start was lower. -/
theorem Lowers.foldl_eq {items : List ι} {least : α}
    (below : ∀ item ∈ items, selects item → least ≤ key item)
    (attained : ∃ item ∈ items, selects item ∧ key item = least) (state : σ) :
    measure (items.foldl step state) = min (measure state) least := by
  apply eq_of_forall_le_iff
  intro bound
  rw [lowers.le_foldl_iff, le_min_iff]
  refine and_congr_right fun _ => ⟨fun all => ?_, fun lower item member selected => ?_⟩
  · obtain ⟨item, member, selected, rfl⟩ := attained
    exact all item member selected
  · exact lower.trans (below item member selected)

end Fold

end Minimum

end ProcessBridge.Library
