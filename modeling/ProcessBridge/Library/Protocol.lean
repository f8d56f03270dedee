import ProcessBridge.Library.Program

/-! Protocols for programs that interact by calls. A protocol says which calls are
permitted in a state and which state each answer leads to. A program that
obeys it does so whatever it is answered, so the protocol's states can be
followed along every run. -/

set_option autoImplicit false

namespace ProcessBridge.Library

structure Protocol (Op : Type) (Answer : Op → Type) (S : Type) where
  permits : S → Op → Prop
  next : S → (op : Op) → Answer op → S

namespace Program

variable {Op : Type} {Answer : Op → Type} {ε σ S α β : Type}

/-- Every call is permitted where it is made, whatever the answers were; the program
returns only in states that satisfy `post` and exits only in states that
satisfy `exits`. -/
inductive Obeys (protocol : Protocol Op Answer S) (post : α → S → Prop) (exits : ε → S → Prop) :
    S → Program Op Answer ε α → Prop where
  | done {state : S} {value : α} (holds : post value state) :
      Obeys protocol post exits state (.done value)
  | exit {state : S} {code : ε} (holds : exits code state) :
      Obeys protocol post exits state (.exit code)
  | call {state : S} {op : Op} {next : Answer op → Program Op Answer ε α}
      (permitted : protocol.permits state op)
      (rest : ∀ answer, Obeys protocol post exits (protocol.next state op answer) (next answer)) :
      Obeys protocol post exits state (.call op next)

namespace Obeys

variable {protocol : Protocol Op Answer S} {post : α → S → Prop} {exits : ε → S → Prop} {state : S}

theorem pure {value : α} (holds : post value state) :
    Obeys protocol post exits state (Pure.pure value : Program Op Answer ε α) := .done holds

theorem ask {op : Op} {post : Answer op → S → Prop} (permitted : protocol.permits state op)
    (holds : ∀ answer, post answer (protocol.next state op answer)) :
    Obeys protocol post exits state (Program.ask op : Program Op Answer ε (Answer op)) :=
  .call permitted fun answer => .done (holds answer)

theorem bind (middle : α → S → Prop) {first : Program Op Answer ε α}
    {next : α → Program Op Answer ε β} {post : β → S → Prop}
    (start : Obeys protocol middle exits state first)
    (rest : ∀ value state, middle value state → Obeys protocol post exits state (next value)) :
    Obeys protocol post exits state (first >>= next) := by
  induction start with
  | done holds => exact rest _ _ holds
  | exit holds => exact .exit holds
  | call permitted _ ih => exact .call permitted ih

/-- A program that leaves the protocol in one state for each value it returns. -/
theorem andThen (reached : α → S) {first : Program Op Answer ε α}
    {next : α → Program Op Answer ε β} {post : β → S → Prop}
    (start : Obeys protocol (fun value after => after = reached value) exits state first)
    (rest : ∀ value, Obeys protocol post exits (reached value) (next value)) :
    Obeys protocol post exits state (first >>= next) := by
  refine start.bind _ fun value after arrived => ?_
  rw [arrived]
  exact rest value

theorem weaken {weaker : α → S → Prop} {program : Program Op Answer ε α}
    (obeys : Obeys protocol post exits state program)
    (returns : ∀ value state, post value state → weaker value state) :
    Obeys protocol weaker exits state program := by
  induction obeys with
  | done holds => exact .done (returns _ _ holds)
  | exit holds => exact .exit holds
  | call permitted _ ih => exact .call permitted ih

theorem ite {condition : Prop} [Decidable condition] {left right : Program Op Answer ε α}
    (positive : condition → Obeys protocol post exits state left)
    (negative : ¬ condition → Obeys protocol post exits state right) :
    Obeys protocol post exits state (if condition then left else right) := by
  by_cases holds : condition
  · rw [if_pos holds]
    exact positive holds
  · rw [if_neg holds]
    exact negative holds

/-- The state in which a run has ended fits the way it has ended. -/
def Ended (post : α → S → Prop) (exits : ε → S → Prop) : Except ε α → S → Prop
  | .ok value, state => post value state
  | .error code, state => exits code state

/-- A relation between protocol states and worlds that every permitted call preserves
holds at the end of every run, between the world it ends in and a state in
which the program may end. -/
theorem run_related {program : Program Op Answer ε α}
    (obeys : Obeys protocol post exits state program)
    (handler : (op : Op) → σ → Answer op × σ) (related : S → σ → Prop)
    (kept : ∀ state op world, protocol.permits state op → related state world →
      related (protocol.next state op (handler op world).1) (handler op world).2)
    (world : σ) (start : related state world) :
    ∃ final, related final (program.run handler world).2 ∧
      Ended post exits (program.run handler world).1 final := by
  induction obeys generalizing world with
  | done holds => exact ⟨_, start, holds⟩
  | exit holds => exact ⟨_, start, holds⟩
  | call permitted _ ih => exact ih _ _ (kept _ _ world permitted start)

/-- A program that is at the end of its protocol makes no more calls. -/
theorem run_stuck {program : Program Op Answer ε α} (obeys : Obeys protocol post exits state program)
    (stuck : ∀ op, ¬ protocol.permits state op) (handler : (op : Op) → σ → Answer op × σ)
    (world : σ) : (program.run handler world).2 = world := by
  cases obeys with
  | done _ => rfl
  | exit _ => rfl
  | call permitted _ => exact absurd permitted (stuck _)

/-- Two handlers that agree until one of them brings the protocol to its end. What the
other one goes on to do only adds to it. -/
theorem run_interrupted {program : Program Op Answer ε α}
    (obeys : Obeys protocol post exits state program) {allowed : Op → Prop}
    (uses : program.Uses allowed) {faulty sound : (op : Op) → σ → Answer op × σ}
    (alike below : σ → σ → Prop)
    (agrees : ∀ state op world other, allowed op → alike world other →
      ((faulty op world).1 = (sound op other).1 ∧ alike (faulty op world).2 (sound op other).2) ∨
      ((∀ later, ¬ protocol.permits (protocol.next state op (faulty op world).1) later) ∧
        below (faulty op world).2 (sound op other).2))
    (grows : ∀ op world other, allowed op → below world other → below world (sound op other).2)
    {world other : σ} (start : alike world other) :
    alike (program.run faulty world).2 (program.run sound other).2 ∨
      below (program.run faulty world).2 (program.run sound other).2 := by
  induction obeys generalizing world other with
  | done _ => exact .inl start
  | exit _ => exact .inl start
  | @call state op next permitted rest ih =>
      change alike ((next (faulty op world).1).run faulty (faulty op world).2).2
          ((next (sound op other).1).run sound (sound op other).2).2 ∨
        below ((next (faulty op world).1).run faulty (faulty op world).2).2
          ((next (sound op other).1).run sound (sound op other).2).2
      rcases agrees state op world other uses.1 start with ⟨same, still⟩ | ⟨stuck, less⟩
      · have step := ih (faulty op world).1 (uses.2 _) still
        rw [same] at step ⊢
        exact step
      · rw [(rest _).run_stuck stuck]
        exact .inr ((uses.2 _).run_preserves sound (below (faulty op world).2)
          (fun op later permitted given => grows op _ later permitted given) _ less)

end Obeys

end Program

end ProcessBridge.Library
