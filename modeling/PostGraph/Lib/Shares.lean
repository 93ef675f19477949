import Mathlib.Tactic.Common
import PostGraph.Lib.Projections
import PostGraph.Lib.Runs

/-!
A machine that many parties use, with the things of all of them in one list. What
is one party's is numbered within its share of the list (`rank`), and a run has
an own part for each party. If that part can be taken alone, by a machine in a
related state, then it is a run of that machine (`Run.alone`).
-/
namespace Shares
open Projections Runs

section
variable {α : Type*} {xs : List α} {i : Nat} {x y : α} {mine : α → Bool}

/-- The number of a member among those of the party. -/
def rank (mine : α → Bool) (xs : List α) (i : Nat) : Nat := (xs.take i).countP mine

theorem split_at (here : xs[i]? = some x) : ∃ before after, xs = before ++ x :: after ∧ before.length = i := by
  obtain ⟨inside,rfl⟩ := List.getElem?_eq_some_iff.mp here
  exact ⟨xs.take i,xs.drop (i + 1),by simp,List.length_take_of_le (Nat.le_of_lt inside)⟩

theorem rank_append (before after : List α) : rank mine (before ++ after) before.length = (before.filter mine).length := by
  rw [rank,List.take_left,List.countP_eq_length_filter]

theorem share_member (here : xs[i]? = some x) (own : mine x = true) : (xs.filter mine)[rank mine xs i]? = some x := by
  obtain ⟨before,after,rfl,rfl⟩ := split_at here
  rw [rank_append,List.filter_append,List.filter_cons_of_pos own]
  simp

theorem share_replace (here : xs[i]? = some x) (own : mine x = true) (still : mine y = true) :
    (xs.set i y).filter mine = (xs.filter mine).set (rank mine xs i) y := by
  obtain ⟨before,after,rfl,rfl⟩ := split_at here
  rw [rank_append,List.set_append_right _ _ (Nat.le_refl _),Nat.sub_self,List.set_cons_zero]
  rw [List.filter_append,List.filter_append,List.filter_cons_of_pos own,List.filter_cons_of_pos still]
  rw [List.set_append_right _ _ (Nat.le_refl _),Nat.sub_self,List.set_cons_zero]

theorem share_leave (here : xs[i]? = some x) (own : mine x = true) :
    (xs.eraseIdx i).filter mine = (xs.filter mine).eraseIdx (rank mine xs i) := by
  obtain ⟨before,after,rfl,rfl⟩ := split_at here
  rw [rank_append,List.eraseIdx_append_of_length_le (Nat.le_refl _),Nat.sub_self,List.eraseIdx_cons_zero]
  rw [List.filter_append,List.filter_append,List.filter_cons_of_pos own]
  rw [List.eraseIdx_append_of_length_le (Nat.le_refl _),Nat.sub_self,List.eraseIdx_cons_zero]

theorem share_replace_other (here : xs[i]? = some x) (other : mine x = false) (still : mine y = false) :
    (xs.set i y).filter mine = xs.filter mine := by
  obtain ⟨before,after,rfl,rfl⟩ := split_at here
  rw [List.set_append_right _ _ (Nat.le_refl _),Nat.sub_self,List.set_cons_zero]
  simp [List.filter_append,other,still]

theorem share_leave_other (here : xs[i]? = some x) (other : mine x = false) :
    (xs.eraseIdx i).filter mine = xs.filter mine := by
  obtain ⟨before,after,rfl,rfl⟩ := split_at here
  rw [List.eraseIdx_append_of_length_le (Nat.le_refl _),Nat.sub_self,List.eraseIdx_cons_zero]
  simp [List.filter_append,other]

end

variable {State Action Alone Own : Type*} {step : State → Action → Option State} {ok : State → Action → Prop}
  {step' : Alone → Own → Option Alone} {ok' : Alone → Own → Prop} {part : State → Action → Option Own}

/-- The own parts of the actions, each where it is taken. -/
def own (step : State → Action → Option State) (part : State → Action → Option Own) :
    State → List Action → List Own
  | _, [] => []
  | s, a :: as => (part s a).toList ++ (step s a).elim [] fun s' => own step part s' as

theorem own_append {s s' : State} {as : List Action} (ran : exec step s as = some s') (bs : List Action) :
    own step part s (as ++ bs) = own step part s as ++ own step part s' bs := by
  induction as generalizing s with
  | nil =>
    obtain rfl : s = s' := by simpa [exec] using ran
    rfl
  | cons a as ih =>
    cases stepped : step s a with
    | none => simp [exec,stepped] at ran
    | some t => simp [own,stepped,ih (by simpa [exec,stepped] using ran)]

theorem own_next {start s : State} {as : List Action} (run : Run step ok start as s) (a : Action) :
    own step part start (as ++ [a]) = own step part start as ++ (part s a).toList := by
  rw [own_append run.exec]
  cases stepped : step s a <;> simp [own,stepped]

/-- The state that some actions lead to, where those that cannot be taken do nothing. -/
def advance (step : State → Action → Option State) (s : State) (a : Action) : State := (step s a).getD s

theorem foldl_of_run {start s : State} {as : List Action} (run : Run step ok start as s) :
    as.foldl (advance step) start = s := by
  induction run with
  | start => rfl
  | next run allowed stepped ih => simp [ih,advance,stepped]

/-- A relation that the actions of others keep, and the own ones if they are taken alone as
    well, makes the own part of a run one of the second machine. -/
theorem alone_of_run {start s : State} {start' : Alone} {as : List Action} {R : State → Alone → Prop}
    (run : Run step ok start as s) (related : R start start')
    (foreign : ∀ s a s' t, step s a = some s' → part s a = none → R s t → R s' t)
    (same : ∀ s a s' t b, step s a = some s' → part s a = some b → ok' t b → R s t →
      ∃ t', step' t b = some t' ∧ R s' t')
    (allowed : Along (advance step') ok' start' (own step part start as)) :
    ∃ t, Run step' ok' start' (own step part start as) t ∧ R s t := by
  induction run with
  | start => exact ⟨start',.start,related⟩
  | @next as a s s' run _ stepped ih =>
    rw [own_next run] at allowed ⊢
    obtain ⟨before,last⟩ := along_append.mp allowed
    obtain ⟨t,ran,related⟩ := ih before
    cases mine : part s a with
    | none =>
      rw [Option.toList_none,List.append_nil]
      exact ⟨t,ran,foreign s a s' t stepped mine related⟩
    | some b =>
      rw [mine,foldl_of_run ran] at last
      obtain ⟨t',stepped',related'⟩ := same s a s' t b stepped mine last.1 related
      exact ⟨t',ran.next last.1 stepped',related'⟩

end Shares
