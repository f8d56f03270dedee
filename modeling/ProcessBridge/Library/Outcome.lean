import Mathlib.Data.List.Basic

/-! Inversion of computations that may stop early. -/

set_option autoImplicit false

namespace ProcessBridge.Library

variable {ε α β : Type}

theorem bind_ok_iff {first : Except ε α} {next : α → Except ε β} {result : β} :
    (first >>= next) = .ok result ↔ ∃ value, first = .ok value ∧ next value = .ok result := by
  cases first with
  | error stop => simp [bind, Except.bind]
  | ok value => simp [bind, Except.bind]

theorem bind_error_iff {first : Except ε α} {next : α → Except ε β} {stop : ε} :
    (first >>= next) = .error stop ↔
      first = .error stop ∨ ∃ value, first = .ok value ∧ next value = .error stop := by
  cases first with
  | error earlier => simp [bind, Except.bind]
  | ok value => simp [bind, Except.bind]

@[simp] theorem ok_bind (value : α) (next : α → Except ε β) :
    ((Except.ok value : Except ε α) >>= next) = next value := rfl

@[simp] theorem error_bind (stop : ε) (next : α → Except ε β) :
    ((Except.error stop : Except ε α) >>= next) = .error stop := rfl

end ProcessBridge.Library
