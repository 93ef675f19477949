import Mathlib.Tactic.Common

/-!
Programs over a state that may fail and keep the state they fail in
(`EStateM`): what is left behind, what a triple says of one execution, and the
loop that repeats a program until it stops.
-/
namespace Programs
open Std.Do
variable {ε σ α : Type}

/-- The state a program leaves behind, failed or not. -/
def final : EStateM.Result ε σ α → σ
  | .ok _ s => s
  | .error _ s => s

/-- The value of an execution that succeeds. -/
def value : EStateM.Result ε σ α → Option α
  | .ok a _ => some a
  | .error _ _ => none

theorem ran_of_value {r : EStateM.Result ε σ α} {a : α} (succeeded : value r = some a) : r = .ok a (final r) := by
  cases r with
  | ok b s =>
    obtain rfl := Option.some.inj succeeded
    rfl
  | error e s => simp [value] at succeeded

/-- What holds of an execution: `Q` of its value and state if it succeeds, `X`
    of its error and state if it fails. -/
def Ends (r : EStateM.Result ε σ α) (Q : α → σ → Prop) (X : ε → σ → Prop) : Prop :=
  match r with
  | .ok a s => Q a s
  | .error e s => X e s

/-- A triple, read as a fact about the execution from one state. -/
theorem ends_of_triple {m : EStateM ε σ α} {P : σ → Prop} {Q : α → σ → Prop} {X : ε → σ → Prop} {s : σ}
    (triple : ⦃fun t => ⌜P t⌝⦄ m ⦃post⟨fun a t => ⌜Q a t⌝,fun e t => ⌜X e t⌝⟩⦄) (here : P s) : Ends (m s) Q X := by
  have ran := triple s here
  cases done : m s with
  | ok a t => simpa [Ends,WP.wp,PredTrans.apply,EStateM.run,done] using ran
  | error e t => simpa [Ends,WP.wp,PredTrans.apply,EStateM.run,done] using ran

/-- Executions that end well from every state that `P` allows make a triple. -/
theorem triple_of_ends {m : EStateM ε σ α} {P : σ → Prop} {Q : α → σ → Prop} {X : ε → σ → Prop}
    (ends : ∀ s, P s → Ends (m s) Q X) :
    ⦃fun t => ⌜P t⌝⦄ m ⦃post⟨fun a t => ⌜Q a t⌝,fun e t => ⌜X e t⌝⟩⦄ := by
  intro s allowed
  have ran := ends s allowed
  cases done : m s with
  | ok a t => simpa [Ends,WP.wp,PredTrans.apply,EStateM.run,done] using ran
  | error e t => simpa [Ends,WP.wp,PredTrans.apply,EStateM.run,done] using ran

theorem Ends.mono {r : EStateM.Result ε σ α} {Q Q' : α → σ → Prop} {X X' : ε → σ → Prop} (ends : Ends r Q X)
    (success : ∀ a s, Q a s → Q' a s) (failure : ∀ e s, X e s → X' e s) : Ends r Q' X' := by
  cases r with
  | ok a s => exact success a s ends
  | error e s => exact failure e s ends

theorem Ends.and {r : EStateM.Result ε σ α} {Q Q' : α → σ → Prop} {X X' : ε → σ → Prop} (one : Ends r Q X)
    (other : Ends r Q' X') : Ends r (fun a s => Q a s ∧ Q' a s) (fun e s => X e s ∧ X' e s) := by
  cases r with
  | ok a s => exact ⟨one,other⟩
  | error e s => exact ⟨one,other⟩

/-- What holds of both ends holds of the state left behind. -/
theorem Ends.final {r : EStateM.Result ε σ α} {Q : α → σ → Prop} {X : ε → σ → Prop} {P : σ → Prop} (ends : Ends r Q X)
    (success : ∀ a s, Q a s → P s) (failure : ∀ e s, X e s → P s) : P (Programs.final r) := by
  cases r with
  | ok a s => exact success a s ends
  | error e s => exact failure e s ends

theorem run_get (s : σ) : (get : EStateM ε σ σ) s = .ok s s := rfl

theorem run_modify (f : σ → σ) (s : σ) : (modify f : EStateM ε σ PUnit) s = .ok ⟨⟩ (f s) := rfl

section
variable {β : Type} {m : EStateM ε σ α} {k : α → EStateM ε σ β} {s t : σ}

/-- A program that succeeds goes on from the state it leaves. -/
theorem bind_ok {a : α} (ran : m s = .ok a t) : (m >>= k) s = k a t := by
  simp only [bind,EStateM.bind,ran]

theorem bind_error {e : ε} (ran : m s = .error e t) : (m >>= k) s = .error e t := by
  simp only [bind,EStateM.bind,ran]

/-- A value that is only returned changes no state. -/
theorem final_bind_pure (b : β) : final ((m >>= fun _ => pure b) s) = final (m s) := by
  cases ran : m s with
  | ok a t => rw [bind_ok ran]; rfl
  | error e t => rw [bind_error ran]; rfl

end

end Programs
