import Mathlib.Algebra.GroupWithZero.Nat
import Mathlib.Data.List.Perm.Basic
import Mathlib.Tactic.Common

/-!
Lists whose members come and go: how the number of members with a property
changes when one member leaves (`countP_leave`) or is replaced
(`countP_replace`), whatever its place.
-/
namespace Counts
variable {α : Type*} {xs : List α} {i : Nat} {x y : α} (p : α → Bool)

theorem countP_leave (here : xs[i]? = some x) :
    xs.countP p = (xs.eraseIdx i).countP p + if p x then 1 else 0 := by
  obtain ⟨inside,rfl⟩ := List.getElem?_eq_some_iff.mp here
  rw [← (List.getElem_cons_eraseIdx_perm inside).countP_eq p,List.countP_cons]

theorem countP_replace (here : xs[i]? = some x) :
    (xs.set i y).countP p + (if p x then 1 else 0) = xs.countP p + if p y then 1 else 0 := by
  obtain ⟨inside,rfl⟩ := List.getElem?_eq_some_iff.mp here
  rw [(List.set_perm_cons_eraseIdx inside y).countP_eq p,List.countP_cons,countP_leave p here]
  omega

/-- A member replaced by another one with the same image. -/
theorem map_replace {β : Type*} (f : α → β) (here : xs[i]? = some x) (same : f y = f x) :
    (xs.set i y).map f = xs.map f := by
  obtain ⟨inside,rfl⟩ := List.getElem?_eq_some_iff.mp here
  have within : i < (xs.map f).length := by simpa using inside
  have itself : (xs.map f).set i (xs.map f)[i] = xs.map f := List.set_getElem_self within
  rw [List.map_set,same]
  simpa using itself

/-- Two properties that exclude each other, within a third one. -/
theorem countP_add_le (p q r : α → Bool) (left : ∀ x, p x = true → r x = true ∧ q x = false)
    (right : ∀ x, q x = true → r x = true) : xs.countP p + xs.countP q ≤ xs.countP r := by
  induction xs with
  | nil => simp
  | cons x xs ih =>
    simp only [List.countP_cons]
    cases first : p x with
    | true =>
      obtain ⟨within,other⟩ := left x first
      simp only [within,other,if_true]
      simp
      omega
    | false =>
      cases second : q x with
      | true =>
        simp only [right x second,if_true]
        simp
        omega
      | false =>
        simp
        omega

theorem sum_leave (f : α → Nat) (here : xs[i]? = some x) : (xs.map f).sum = ((xs.eraseIdx i).map f).sum + f x := by
  obtain ⟨inside,rfl⟩ := List.getElem?_eq_some_iff.mp here
  rw [← ((List.getElem_cons_eraseIdx_perm inside).map f).sum_nat,List.map_cons,List.sum_cons,Nat.add_comm]

theorem sum_replace (f : α → Nat) (here : xs[i]? = some x) : ((xs.set i y).map f).sum + f x = (xs.map f).sum + f y := by
  obtain ⟨inside,rfl⟩ := List.getElem?_eq_some_iff.mp here
  rw [((List.set_perm_cons_eraseIdx inside y).map f).sum_nat,List.map_cons,List.sum_cons,sum_leave f here]
  omega

end Counts
