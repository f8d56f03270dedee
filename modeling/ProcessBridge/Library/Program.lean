import Mathlib.Tactic.TypeStar

/-! Programs that interact with their surroundings one call at a time. A program
is a tree: it returns, exits, or makes a call and continues with the answer.
A handler says how each call is answered and what it does to the world, so one
program text can be run against every possible behaviour of its surroundings. -/

set_option autoImplicit false

namespace ProcessBridge.Library

inductive Program (Op : Type) (Answer : Op → Type) (ε α : Type) where
  | done (value : α)
  | exit (code : ε)
  | call (op : Op) (next : Answer op → Program Op Answer ε α)

namespace Program

variable {Op : Type} {Answer : Op → Type} {ε σ α β : Type}

/-- Continue with the value of the first program; an exit is final. -/
def bind (first : Program Op Answer ε α) (next : α → Program Op Answer ε β) :
    Program Op Answer ε β :=
  match first with
  | .done value => next value
  | .exit code => .exit code
  | .call op answered => .call op fun answer => (answered answer).bind next

instance : Monad (Program Op Answer ε) where
  pure := .done
  bind := bind

theorem bind_assoc {γ : Type} (first : Program Op Answer ε α)
    (second : α → Program Op Answer ε β) (third : β → Program Op Answer ε γ) :
    first >>= second >>= third = first >>= fun value => second value >>= third := by
  induction first with
  | done value => rfl
  | exit code => rfl
  | call op answered ih => exact congrArg (Program.call op) (funext ih)

theorem pure_bind (value : α) (next : α → Program Op Answer ε β) :
    (Pure.pure value : Program Op Answer ε α) >>= next = next value := rfl

def ask (op : Op) : Program Op Answer ε (Answer op) := .call op .done

def run (handler : (op : Op) → σ → Answer op × σ) :
    Program Op Answer ε α → σ → Except ε α × σ
  | .done value, world => (.ok value, world)
  | .exit code, world => (.error code, world)
  | .call op next, world => (next (handler op world).1).run handler (handler op world).2

variable {handler : (op : Op) → σ → Answer op × σ}

@[simp] theorem run_pure (value : α) (world : σ) :
    (Pure.pure value : Program Op Answer ε α).run handler world = (.ok value, world) := rfl

@[simp] theorem run_ask (op : Op) (world : σ) :
    (ask op : Program Op Answer ε (Answer op)).run handler world =
      (.ok (handler op world).1, (handler op world).2) := rfl

theorem run_bind (first : Program Op Answer ε α) (next : α → Program Op Answer ε β) (world : σ) :
    (first >>= next).run handler world =
      match first.run handler world with
      | (.ok value, middle) => (next value).run handler middle
      | (.error code, middle) => (.error code, middle) := by
  induction first generalizing world with
  | done value => rfl
  | exit code => rfl
  | call op answered ih => exact ih _ _

theorem run_bind_ok {first : Program Op Answer ε α} {next : α → Program Op Answer ε β}
    {world middle : σ} {value : α} (returned : first.run handler world = (.ok value, middle)) :
    (first >>= next).run handler world = (next value).run handler middle := by
  rw [run_bind, returned]

theorem run_bind_error {first : Program Op Answer ε α} {next : α → Program Op Answer ε β}
    {world middle : σ} {code : ε} (exited : first.run handler world = (.error code, middle)) :
    (first >>= next).run handler world = (.error code, middle) := by
  rw [run_bind, exited]

theorem run_bind_ok_iff {first : Program Op Answer ε α} {next : α → Program Op Answer ε β}
    {world after : σ} {result : β} :
    (first >>= next).run handler world = (.ok result, after) ↔
      ∃ value middle, first.run handler world = (.ok value, middle) ∧
        (next value).run handler middle = (.ok result, after) := by
  rw [run_bind]
  rcases first.run handler world with ⟨code | value, middle⟩
  · simp
  · simp only [Prod.mk.injEq, Except.ok.injEq]
    constructor
    · intro finished
      exact ⟨value, middle, ⟨rfl, rfl⟩, finished⟩
    · intro given
      obtain ⟨_, _, ⟨rfl, rfl⟩, finished⟩ := given
      exact finished

/-!
## Pre- and postconditions
-/

/-- From every world that satisfies `pre` the program ends in one that satisfies
`post` if it returns and `exits` if it exits. -/
def Triple (handler : (op : Op) → σ → Answer op × σ) (pre : σ → Prop)
    (program : Program Op Answer ε α) (post : α → σ → Prop) (exits : ε → σ → Prop) : Prop :=
  ∀ world, pre world →
    match program.run handler world with
    | (.ok value, after) => post value after
    | (.error code, after) => exits code after

namespace Triple

variable {pre : σ → Prop} {exits : ε → σ → Prop}

theorem pure {value : α} {post : α → σ → Prop} (holds : ∀ world, pre world → post value world) :
    Triple handler pre (Pure.pure value : Program Op Answer ε α) post exits := holds

theorem exit {code : ε} {post : α → σ → Prop} (holds : ∀ world, pre world → exits code world) :
    Triple handler pre (Program.exit code : Program Op Answer ε α) post exits := holds

theorem ask {op : Op} {post : Answer op → σ → Prop}
    (holds : ∀ world, pre world → post (handler op world).1 (handler op world).2) :
    Triple handler pre (Program.ask op : Program Op Answer ε (Answer op)) post exits := holds

theorem bind (middle : α → σ → Prop) {first : Program Op Answer ε α}
    {next : α → Program Op Answer ε β} {post : β → σ → Prop}
    (start : Triple handler pre first middle exits)
    (rest : ∀ value, Triple handler (middle value) (next value) post exits) :
    Triple handler pre (first >>= next) post exits := by
  intro world holds
  have reached := start world holds
  rw [run_bind]
  rcases result : first.run handler world with ⟨code | value, after⟩
  · simpa only [result] using reached
  · rw [result] at reached
    exact rest value after reached

theorem weaken {strong : σ → Prop} {program : Program Op Answer ε α} {post : α → σ → Prop}
    (implied : ∀ world, strong world → pre world) (holds : Triple handler pre program post exits) :
    Triple handler strong program post exits :=
  fun world start => holds world (implied world start)

/-- What a triple says about one run that returns. -/
theorem returned {program : Program Op Answer ε α} {post : α → σ → Prop}
    (holds : Triple handler pre program post exits) {world after : σ} {value : α} (start : pre world)
    (ran : program.run handler world = (.ok value, after)) : post value after := by
  have reached := holds world start
  rwa [ran] at reached

theorem ended {program : Program Op Answer ε α} {ending : σ → Prop}
    (holds : Triple handler pre program (fun _ => ending) (fun _ => ending)) {world : σ}
    (start : pre world) : ending (program.run handler world).2 := by
  have reached := holds world start
  rcases result : program.run handler world with ⟨code | value, after⟩
  · rwa [result] at reached
  · rwa [result] at reached

theorem pointwise {program : Program Op Answer ε α} {post : α → σ → Prop}
    (holds : ∀ world, pre world → Triple handler (· = world) program post exits) :
    Triple handler pre program post exits :=
  fun world start => holds world start world rfl

/-- A fact that does not depend on the world may be assumed outside. -/
theorem given {fact : Prop} {program : Program Op Answer ε α} {post : α → σ → Prop}
    (holds : fact → Triple handler pre program post exits) :
    Triple handler (fun world => fact ∧ pre world) program post exits :=
  fun world start => holds start.1 world start.2

theorem exists_pre {ι : Type} {family : ι → σ → Prop} {program : Program Op Answer ε α}
    {post : α → σ → Prop} (holds : ∀ index, Triple handler (family index) program post exits) :
    Triple handler (fun world => ∃ index, family index world) program post exits :=
  fun world ⟨index, start⟩ => holds index world start

theorem ite {condition : Prop} [Decidable condition] {left right : Program Op Answer ε α}
    {post : α → σ → Prop} (positive : condition → Triple handler pre left post exits)
    (negative : ¬ condition → Triple handler pre right post exits) :
    Triple handler pre (if condition then left else right) post exits := by
  by_cases holds : condition
  · rw [if_pos holds]
    exact positive holds
  · rw [if_neg holds]
    exact negative holds

theorem strengthen {program : Program Op Answer ε α} {post weaker : α → σ → Prop}
    {exitsWeaker : ε → σ → Prop} (holds : Triple handler pre program post exits)
    (returns : ∀ value world, post value world → weaker value world)
    (leaves : ∀ code world, exits code world → exitsWeaker code world) :
    Triple handler pre program weaker exitsWeaker := by
  intro world start
  have reached := holds world start
  rcases result : program.run handler world with ⟨code | value, after⟩
  · rw [result] at reached
    exact leaves code after reached
  · rw [result] at reached
    exact returns value after reached

theorem weaken_post {program : Program Op Answer ε α} {post weaker : α → σ → Prop}
    (holds : Triple handler pre program post exits)
    (returns : ∀ value world, post value world → weaker value world) :
    Triple handler pre program weaker exits :=
  holds.strengthen returns fun _ _ left => left

theorem and {program : Program Op Answer ε α} {also : σ → Prop} {post alsoPost : α → σ → Prop}
    {alsoExits : ε → σ → Prop} (left : Triple handler pre program post exits)
    (right : Triple handler also program alsoPost alsoExits) :
    Triple handler (fun world => pre world ∧ also world) program
      (fun value world => post value world ∧ alsoPost value world)
      (fun code world => exits code world ∧ alsoExits code world) := by
  intro world ⟨first, second⟩
  have leftEnd := left world first
  have rightEnd := right world second
  rcases result : program.run handler world with ⟨code | value, after⟩
  · rw [result] at leftEnd rightEnd
    exact ⟨leftEnd, rightEnd⟩
  · rw [result] at leftEnd rightEnd
    exact ⟨leftEnd, rightEnd⟩

end Triple

/-!
## Calls a program can make
-/

/-- Every call the program can make, whatever it is answered, is allowed. -/
def Uses (allowed : Op → Prop) : Program Op Answer ε α → Prop
  | .done _ => True
  | .exit _ => True
  | .call op next => allowed op ∧ ∀ answer, (next answer).Uses allowed

namespace Uses

variable {allowed : Op → Prop}

theorem pure (value : α) : (Pure.pure value : Program Op Answer ε α).Uses allowed := trivial

theorem exit (code : ε) : (Program.exit code : Program Op Answer ε α).Uses allowed := trivial

theorem ask {op : Op} (permitted : allowed op) :
    (Program.ask op : Program Op Answer ε (Answer op)).Uses allowed :=
  ⟨permitted, fun _ => trivial⟩

theorem bind {first : Program Op Answer ε α} {next : α → Program Op Answer ε β}
    (start : first.Uses allowed) (rest : ∀ value, (next value).Uses allowed) :
    (first >>= next).Uses allowed := by
  induction first with
  | done value => exact rest value
  | exit code => trivial
  | call op answered ih => exact ⟨start.1, fun answer => ih answer (start.2 answer)⟩

theorem ite {condition : Prop} [Decidable condition] {left right : Program Op Answer ε α}
    (positive : left.Uses allowed) (negative : right.Uses allowed) :
    (if condition then left else right : Program Op Answer ε α).Uses allowed := by
  split
  · exact positive
  · exact negative

theorem imp {wider : Op → Prop} {program : Program Op Answer ε α} (uses : program.Uses allowed)
    (implied : ∀ op, allowed op → wider op) : program.Uses wider := by
  induction program with
  | done value => trivial
  | exit code => trivial
  | call op next ih => exact ⟨implied op uses.1, fun answer => ih answer (uses.2 answer)⟩

/-- What every allowed call preserves, a whole run preserves. -/
theorem run_preserves {program : Program Op Answer ε α} (uses : program.Uses allowed)
    (handler : (op : Op) → σ → Answer op × σ) (invariant : σ → Prop)
    (kept : ∀ op world, allowed op → invariant world → invariant (handler op world).2)
    (world : σ) (start : invariant world) : invariant (program.run handler world).2 := by
  induction program generalizing world with
  | done value => exact start
  | exit code => exact start
  | call op next ih => exact ih _ (uses.2 _) _ (kept op world uses.1 start)

/-- Worlds that the allowed calls cannot tell apart are not told apart by a run. -/
theorem run_alike {program : Program Op Answer ε α} (uses : program.Uses allowed)
    (handler other : (op : Op) → σ → Answer op × σ) (alike : σ → σ → Prop)
    (agrees : ∀ op world twin, allowed op → alike world twin →
      (handler op world).1 = (other op twin).1 ∧ alike (handler op world).2 (other op twin).2)
    {world twin : σ} (start : alike world twin) :
    (program.run handler world).1 = (program.run other twin).1 ∧
      alike (program.run handler world).2 (program.run other twin).2 := by
  induction program generalizing world twin with
  | done value => exact ⟨rfl, start⟩
  | exit code => exact ⟨rfl, start⟩
  | call op next ih =>
      obtain ⟨same, still⟩ := agrees op world twin uses.1 start
      have step := ih (handler op world).1 (uses.2 _) still
      change ((next (handler op world).1).run handler (handler op world).2).1 =
          ((next (other op twin).1).run other (other op twin).2).1 ∧
        alike ((next (handler op world).1).run handler (handler op world).2).2
          ((next (other op twin).1).run other (other op twin).2).2
      rw [same] at step ⊢
      exact step

/-- Handlers that agree on the allowed calls give the same run. -/
theorem run_congr {program : Program Op Answer ε α} (uses : program.Uses allowed)
    {handler other : (op : Op) → σ → Answer op × σ}
    (agrees : ∀ op world, allowed op → handler op world = other op world) (world : σ) :
    program.run handler world = program.run other world := by
  obtain ⟨same, after⟩ := uses.run_alike handler other Eq (fun op world twin permitted start => by
    subst start
    rw [agrees op world permitted]
    exact ⟨rfl, rfl⟩) (rfl : world = world)
  exact Prod.ext same after

theorem preserves {program : Program Op Answer ε α} (uses : program.Uses allowed)
    (handler : (op : Op) → σ → Answer op × σ) (invariant : σ → Prop)
    (kept : ∀ op world, allowed op → invariant world → invariant (handler op world).2) :
    Triple handler invariant program (fun _ => invariant) (fun _ => invariant) := by
  intro world start
  have finished := uses.run_preserves handler invariant kept world start
  rcases result : program.run handler world with ⟨code | value, after⟩
  · rwa [result] at finished
  · rwa [result] at finished

end Uses

theorem uses_all (program : Program Op Answer ε α) : program.Uses fun _ => True := by
  induction program with
  | done value => trivial
  | exit code => trivial
  | call op next ih => exact ⟨trivial, ih⟩

end Program

end ProcessBridge.Library
