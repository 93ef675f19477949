import Mathlib.Data.List.Forall2
import PostGraph.Lib.Runs

/-!
Two machines that take actions which look the same. If their states stay related from
action to action, unless one of them lets something out, then so they do over a run
(`Run.tandem`). Where each state keeps a list, the entries of the two lists are related
in pairs, which goes on for the entries that are replaced or removed in the same place.
-/
namespace Tandems
open Runs
variable {State State' Action Action' Look α β : Type*}

/-- What a step lets out stays out. -/
theorem Run.tandem {step : State → Action → Option State} {step' : State' → Action' → Option State'}
    {ok : State → Action → Prop} {start s : State} {start' : State'} {as : List Action} {bs : List Action'}
    {look : Action → Look} {look' : Action' → Look} {R : State → State' → Prop} {out : State → Prop}
    (run : Run step ok start as s) (same : bs.map look' = as.map look) (begins : R start start')
    (keeps : ∀ s a s' t b, step s a = some s' → look' b = look a → R s t → (∃ t', step' t b = some t' ∧ R s' t') ∨ out s')
    (lasts : ∀ s a s', step s a = some s' → out s → out s') :
    (∃ t, Run step' (fun _ _ => True) start' bs t ∧ R s t) ∨ out s := by
  induction run generalizing bs with
  | start =>
    obtain rfl : bs = [] := by simpa using same
    exact .inl ⟨start',.start,begins⟩
  | @next as a s s' _ _ stepped ih =>
    rw [List.map_append,List.map_singleton] at same
    obtain ⟨bs,last,rfl,before,one⟩ := List.map_eq_append_iff.mp same
    obtain ⟨b,rfl,alike⟩ := List.map_eq_singleton_iff.mp one
    rcases ih before with ⟨t,before,related⟩ | escaped
    · refine (keeps s a s' t b stepped alike related).imp ?_ id
      rintro ⟨t',stepped',related'⟩
      exact ⟨t',.next before trivial stepped',related'⟩
    · exact .inr (lasts s a s' stepped escaped)

section
variable {R : α → β → Prop} {l : List α} {m : List β} {a : α} {b : β} {i : Nat}

theorem forall₂_getElem? (related : List.Forall₂ R l m) (here : l[i]? = some a) : ∃ b, m[i]? = some b ∧ R a b := by
  induction related generalizing i with
  | nil => simp at here
  | cons first _ ih =>
    cases i with
    | zero =>
      obtain rfl := by simpa using here
      exact ⟨_,rfl,first⟩
    | succ i => exact ih here

theorem forall₂_set (related : List.Forall₂ R l m) (i : Nat) (new : R a b) : List.Forall₂ R (l.set i a) (m.set i b) := by
  induction related generalizing i with
  | nil => exact .nil
  | cons first later ih =>
    cases i with
    | zero => exact .cons new later
    | succ i => exact .cons first (ih i)

theorem forall₂_eraseIdx (related : List.Forall₂ R l m) (i : Nat) :
    List.Forall₂ R (l.eraseIdx i) (m.eraseIdx i) := by
  induction related generalizing i with
  | nil => exact .nil
  | cons first later ih =>
    cases i with
    | zero => exact later
    | succ i => exact .cons first (ih i)

end

end Tandems
