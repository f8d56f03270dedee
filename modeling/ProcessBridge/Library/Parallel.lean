import ProcessBridge.Library.Program

/-! Two programs side by side. They run in parallel if their calls correspond, however
they are answered as long as the answers correspond, and if they end alike. Then
no handler that respects the correspondence can tell their runs apart. -/

set_option autoImplicit false

namespace ProcessBridge.Library

/-- Which calls correspond, and which of their answers do. -/
structure Pairing (Op : Type) (Answer : Op → Type) where
  calls : Op → Op → Prop
  answers : (op twin : Op) → Answer op → Answer twin → Prop

namespace Program

variable {Op : Type} {Answer : Op → Type} {ε σ α β γ δ : Type}

inductive Parallel (pairing : Pairing Op Answer) (values : α → β → Prop) :
    Program Op Answer ε α → Program Op Answer ε β → Prop where
  | done {value : α} {twin : β} (same : values value twin) :
      Parallel pairing values (.done value) (.done twin)
  | exit (code : ε) : Parallel pairing values (.exit code) (.exit code)
  | call {op twin : Op} {next : Answer op → Program Op Answer ε α}
      {other : Answer twin → Program Op Answer ε β} (calls : pairing.calls op twin)
      (rest : ∀ answer reply, pairing.answers op twin answer reply →
        Parallel pairing values (next answer) (other reply)) :
      Parallel pairing values (.call op next) (.call twin other)

/-- How two results correspond: values as they do, exits if they are the same. -/
def SameEnd (values : α → β → Prop) : Except ε α → Except ε β → Prop
  | .ok value, .ok twin => values value twin
  | .error code, .error other => code = other
  | .ok _, .error _ | .error _, .ok _ => False

theorem SameEnd.eq {result twin : Except ε α} (same : SameEnd Eq result twin) : result = twin := by
  cases result with
  | error code =>
      cases twin with
      | error other => exact congrArg Except.error same
      | ok value => exact same.elim
  | ok value =>
      cases twin with
      | error other => exact same.elim
      | ok other => exact congrArg Except.ok same

namespace Parallel

variable {pairing : Pairing Op Answer} {values : α → β → Prop} {ends : γ → δ → Prop}

theorem pure {value : α} {twin : β} (same : values value twin) :
    Parallel pairing values (Pure.pure value : Program Op Answer ε α)
      (Pure.pure twin : Program Op Answer ε β) := .done same

theorem ask {op twin : Op} (calls : pairing.calls op twin) :
    Parallel pairing (pairing.answers op twin) (Program.ask op : Program Op Answer ε (Answer op))
      (Program.ask twin) :=
  .call calls fun _ _ answers => .done answers

theorem bind {first : Program Op Answer ε α} {second : Program Op Answer ε β}
    {next : α → Program Op Answer ε γ} {other : β → Program Op Answer ε δ}
    (start : Parallel pairing values first second)
    (rest : ∀ value twin, values value twin → Parallel pairing ends (next value) (other twin)) :
    Parallel pairing ends (first >>= next) (second >>= other) := by
  induction start with
  | done same => exact rest _ _ same
  | exit code => exact .exit code
  | call calls _ ih => exact .call calls ih

theorem imp {wider : α → β → Prop} {first : Program Op Answer ε α} {second : Program Op Answer ε β}
    (parallel : Parallel pairing values first second)
    (implied : ∀ value twin, values value twin → wider value twin) :
    Parallel pairing wider first second := by
  induction parallel with
  | done same => exact .done (implied _ _ same)
  | exit code => exact .exit code
  | call calls _ ih => exact .call calls ih

/-- The branches are taken together. -/
theorem ite {condition twin : Prop} [Decidable condition] [Decidable twin]
    {left right : Program Op Answer ε α} {leftTwin rightTwin : Program Op Answer ε β}
    (together : condition ↔ twin) (positive : condition → Parallel pairing values left leftTwin)
    (negative : ¬ condition → Parallel pairing values right rightTwin) :
    Parallel pairing values (if condition then left else right)
      (if twin then leftTwin else rightTwin) := by
  by_cases holds : condition
  · rw [if_pos holds, if_pos (together.mp holds)]
    exact positive holds
  · rw [if_neg holds, if_neg (fun other => holds (together.mpr other))]
    exact negative holds

/-- A program is parallel to itself if its calls correspond to themselves and their
answers to nothing else. -/
theorem refl {program : Program Op Answer ε α}
    (uses : program.Uses fun op => pairing.calls op op ∧
      ∀ answer reply, pairing.answers op op answer reply → answer = reply) :
    Parallel pairing Eq program program := by
  induction program with
  | done value => exact .done rfl
  | exit code => exact .exit code
  | call op next ih =>
      obtain ⟨⟨calls, alone⟩, rest⟩ := uses
      refine .call calls fun answer reply answers => ?_
      cases alone answer reply answers
      exact ih answer (rest answer)

/-- Runs of parallel programs end alike, in worlds that are alike. -/
theorem run {first : Program Op Answer ε α} {second : Program Op Answer ε β}
    (parallel : Parallel pairing values first second) (handler : (op : Op) → σ → Answer op × σ)
    (alike : σ → σ → Prop)
    (respects : ∀ op twin world other, pairing.calls op twin → alike world other →
      pairing.answers op twin (handler op world).1 (handler twin other).1 ∧
        alike (handler op world).2 (handler twin other).2)
    {world other : σ} (start : alike world other) :
    SameEnd values (first.run handler world).1 (second.run handler other).1 ∧
      alike (first.run handler world).2 (second.run handler other).2 := by
  induction parallel generalizing world other with
  | done same => exact ⟨same, start⟩
  | exit code => exact ⟨rfl, start⟩
  | call calls _ ih =>
      obtain ⟨answers, still⟩ := respects _ _ world other calls start
      exact ih _ _ answers still

end Parallel

end Program

end ProcessBridge.Library
