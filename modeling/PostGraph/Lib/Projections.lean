import Mathlib.Data.List.Basic
import Mathlib.Data.List.Pairwise
import Mathlib.Order.Basic
import Mathlib.Tactic.Common

/-!
Machines that many parties call, each call at its time, and what one party sees
of a run: the answers to its own calls. If the state of a run stays related to
that of another machine which takes the party's own calls alone, the party sees
the same of both (`seen_alone`); so it sees the same of any two runs with the
same calls of its own.
-/
namespace Projections
variable {State Alone Call Answer Time : Type*}

/-- The answers to the calls of the party. -/
def seen (step : State → Call → Option Answer × State) (own : Call → Bool) : State → List Call → List Answer
  | _, [] => []
  | s, c :: cs => (if own c then (step s c).1.toList else []) ++ seen step own (step s c).2 cs

/-- Each call of a run from a state meets `ok` where it is made. -/
def Along (step : State → Call → State) (ok : State → Call → Prop) : State → List Call → Prop
  | _, [] => True
  | s, c :: cs => ok s c ∧ Along step ok (step s c) cs

/-- No call comes before an earlier one. -/
def Ordered [LE Time] (time : Call → Time) (cs : List Call) : Prop := cs.Pairwise fun c d => time c ≤ time d

/-- Calls may be made in the place of one and of those after it, at its time. -/
theorem Ordered.instead [Preorder Time] {time : Call → Time} {before after ds : List Call} {c : Call}
    (ordered : Ordered time (before ++ c :: after)) (now : ∀ d ∈ ds, time d = time c) : Ordered time (before ++ ds) := by
  obtain ⟨earlier,-,until_then⟩ := List.pairwise_append.mp ordered
  refine List.pairwise_append.mpr ⟨earlier,List.pairwise_of_forall_mem_list ?_,?_⟩
  · intro d member e member'
    rw [now d member,now e member']
  · intro b member d member'
    rw [now d member']
    exact until_then b member c (by simp)

section
variable {step : State → Call → State} {ok : State → Call → Prop} {s : State} {c : Call} {before cs : List Call}

theorem along_append : Along step ok s (before ++ cs) ↔ Along step ok s before ∧ Along step ok (before.foldl step s) cs := by
  induction before generalizing s with
  | nil => simp [Along]
  | cons c before ih => simp only [List.cons_append,Along,List.foldl_cons,ih,and_assoc]

theorem along_of_always (always : ∀ c ∈ cs, ∀ s, ok s c) : Along step ok s cs := by
  induction cs generalizing s with
  | nil => trivial
  | cons c cs ih => exact ⟨always c (by simp) s,ih fun d member => always d (by simp [member])⟩

/-- Where not every call meets `ok`, there is a first one that does not. -/
theorem first_failure (fails : ¬ Along step ok s cs) :
    ∃ before c after, cs = before ++ c :: after ∧ Along step ok s before ∧ ¬ ok (before.foldl step s) c := by
  induction cs generalizing s with
  | nil => exact absurd trivial fails
  | cons c cs ih =>
    by_cases holds : ok s c
    · obtain ⟨before,d,after,rfl,along,broken⟩ := ih fun along => fails ⟨holds,along⟩
      exact ⟨c :: before,d,after,rfl,⟨holds,along⟩,broken⟩
    · exact ⟨[],c,cs,rfl,trivial,holds⟩

end

variable {step : State → Call → Option Answer × State} {own : Call → Bool}

theorem seen_append (s : State) (cs ds : List Call) :
    seen step own s (cs ++ ds) = seen step own s cs ++ seen step own (cs.foldl (fun s c => (step s c).2) s) ds := by
  induction cs generalizing s with
  | nil => rfl
  | cons c cs ih => simp only [List.cons_append,seen,List.foldl_cons,ih,List.append_assoc]

/-- A relation that calls of others keep, and own calls keep and answer alike, gives the
    party the same answers with and without the calls of others. -/
theorem seen_alone [Preorder Time] {time : Call → Time} {step' : Alone → Call → Option Answer × Alone}
    {ok : Alone → Call → Prop} {R : Time → State → Alone → Prop}
    (foreign : ∀ now s l c, own c = false → now ≤ time c → R now s l → R (time c) (step s c).2 l)
    (same : ∀ now s l c, own c = true → now ≤ time c → ok l c → R now s l →
      (step s c).1 = (step' l c).1 ∧ R (time c) (step s c).2 (step' l c).2)
    {now : Time} {s : State} {l : Alone} (related : R now s l) {cs : List Call} (later : ∀ c ∈ cs, now ≤ time c)
    (ordered : Ordered time cs) (along : Along (fun l c => (step' l c).2) ok l (cs.filter own)) :
    seen step own s cs = seen step' own l (cs.filter own) := by
  induction cs generalizing now s l with
  | nil => rfl
  | cons c cs ih =>
    obtain ⟨after,ordered⟩ := List.pairwise_cons.mp ordered
    have due := later c (by simp)
    cases mine : own c with
    | false =>
      rw [List.filter_cons_of_neg (by simp [mine])] at along ⊢
      simp only [seen,mine,Bool.false_eq_true,if_false,List.nil_append]
      exact ih (foreign now s l c mine due related) after ordered along
    | true =>
      rw [List.filter_cons_of_pos mine] at along ⊢
      obtain ⟨alike,related⟩ := same now s l c mine due along.1 related
      simp only [seen,mine,if_true,alike]
      rw [ih related after ordered along.2]

end Projections
