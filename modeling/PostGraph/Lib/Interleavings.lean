import Mathlib.Data.List.Basic
import Mathlib.Tactic.Common

/-!
Several parties that add to one list, in any order. `Interleaves parts t` says
what each party added, and leaves open when. A list grows as a party goes on
(`Interleaves.extend`); what is said of an event and of those before it in its
part is said in the list as well (`Interleaves.event`).
-/
namespace Interleavings
variable {α : Type*} {parts : List (List α)} {part news t past rest : List α} {e : α} {i : Nat}

/-- The events of one party, among events with the numbers of their parties. -/
def own (i : Nat) (owned : List (Nat × α)) : List α := (owned.filter fun entry => entry.1 = i).map Prod.snd

/-- `t` consists of the events of the parties, those of each party in their order. -/
def Interleaves (parts : List (List α)) (t : List α) : Prop :=
  ∃ owned : List (Nat × α), owned.map Prod.snd = t ∧ ∀ i, own i owned = (parts[i]?).getD []

theorem own_append (i : Nat) (owned owned' : List (Nat × α)) : own i (owned ++ owned') = own i owned ++ own i owned' := by
  simp [own]

theorem own_cons_self (entry : Nat × α) (owned : List (Nat × α)) :
    own entry.1 (entry :: owned) = entry.2 :: own entry.1 owned := by
  simp [own]

/-- Events of one party only. -/
theorem own_mine (i j : Nat) (news : List α) : own j (news.map fun e => (i,e)) = if i = j then news else [] := by
  by_cases same : i = j
  · simp [own,same,List.filter_map,Function.comp_def]
  · simp [own,same,List.filter_map,Function.comp_def]

theorem own_sublist (i : Nat) (owned : List (Nat × α)) : (own i owned).Sublist (owned.map Prod.snd) :=
  List.filter_sublist.map _

theorem interleaves_nil : Interleaves ([] : List (List α)) [] := ⟨[],rfl,by simp [own]⟩

/-- A party that has not added anything yet. -/
theorem Interleaves.enter (made : Interleaves parts t) : Interleaves (parts ++ [[]]) t := by
  obtain ⟨owned,all,each⟩ := made
  refine ⟨owned,all,?_⟩
  intro i
  rw [each i]
  rcases Nat.lt_trichotomy i parts.length with before | new | after
  · rw [List.getElem?_append_left before]
  · simp [new]
  · rw [List.getElem?_eq_none (by omega),List.getElem?_eq_none (by simp; omega)]

/-- A party goes on. -/
theorem Interleaves.extend (made : Interleaves parts t) (here : parts[i]? = some part) (news : List α) :
    Interleaves (parts.set i (part ++ news)) (t ++ news) := by
  obtain ⟨owned,all,each⟩ := made
  obtain ⟨inside,-⟩ := List.getElem?_eq_some_iff.mp here
  refine ⟨owned ++ news.map fun e => (i,e),by simp [all,Function.comp_def],?_⟩
  intro j
  rw [own_append,own_mine,each j]
  by_cases same : i = j
  · subst same
    rw [here,List.getElem?_set_self inside]
    simp
  · simp [same]

/-- Where an event stands in the list and in the part of its party: what comes before it there
    comes before it here. -/
theorem Interleaves.event (made : Interleaves parts t) (split : t = past ++ e :: rest) :
    ∃ (i : Nat) (before after : List α), parts[i]? = some (before ++ e :: after) ∧ before.Sublist past ∧
      after.Sublist rest := by
  obtain ⟨owned,all,each⟩ := made
  rw [split] at all
  obtain ⟨earlier,tail,rfl,rfl,later⟩ := List.map_eq_append_iff.mp all
  obtain ⟨entry,others,rfl,rfl,rfl⟩ := List.map_eq_cons_iff.mp later
  refine ⟨entry.1,own entry.1 earlier,own entry.1 others,?_,own_sublist _ _,own_sublist _ _⟩
  have mine := each entry.1
  rw [own_append,own_cons_self] at mine
  cases here : parts[entry.1]? with
  | none => simp [here] at mine
  | some part => simpa [here] using mine.symm

theorem Interleaves.part_sublist (made : Interleaves parts t) (here : parts[i]? = some part) : part.Sublist t := by
  obtain ⟨owned,rfl,each⟩ := made
  have mine := each i
  rw [here,Option.getD_some] at mine
  exact mine ▸ own_sublist i owned

end Interleavings
