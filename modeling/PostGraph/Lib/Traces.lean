import Mathlib.Data.List.Basic

/-!
Traces of events, oldest first. A property of an event against the events that
precede it is stated once (`Always`) and proved as a trace grows: event by event
(`always_snoc`), or by a stretch of events of which it asks nothing
(`always_quiet`).
-/
namespace Traces
variable {Event : Type*} {P Q : List Event → Event → Prop} {t u : List Event}

/-- Every event of the trace satisfies `P` against the events before it. -/
def Always (P : List Event → Event → Prop) (t : List Event) : Prop :=
  ∀ past e rest, t = past ++ e :: rest → P past e

theorem always_nil : Always P [] := by
  intro past e rest split
  simp at split

theorem Always.left (all : Always P (t ++ u)) : Always P t := by
  intro past e rest split
  exact all past e (rest ++ u) (by simp [split])

/-- A longer trace: the events added are judged against everything before them. -/
theorem always_append : Always P (t ++ u) ↔ Always P t ∧ Always (fun past => P (t ++ past)) u := by
  constructor
  · intro all
    refine ⟨all.left,?_⟩
    intro past e rest split
    exact all (t ++ past) e rest (by simp [split])
  · rintro ⟨before,after⟩ past e rest split
    rcases List.append_eq_append_iff.mp split with ⟨more,pastIs,later⟩ | ⟨more,tIs,later⟩
    · rw [pastIs]
      exact after more e rest later
    · cases more with
      | nil => exact (by simpa using tIs) ▸ (by simpa using after [] e rest (by simpa using later.symm))
      | cons first others =>
        obtain ⟨rfl,-⟩ : e = first ∧ rest = others ++ u := by simpa using later
        exact before past e others tIs

theorem always_singleton {e : Event} : Always P [e] ↔ P [] e := by
  constructor
  · intro all; exact all [] e [] rfl
  · intro holds past f rest split
    cases past with
    | nil => obtain ⟨rfl,-⟩ : e = f ∧ [] = rest := by simpa using split
             exact holds
    | cons _ _ => simp at split

theorem always_snoc {e : Event} : Always P (t ++ [e]) ↔ Always P t ∧ P t e := by
  rw [always_append,always_singleton,List.append_nil]

theorem always_cons {e : Event} : Always P (e :: u) ↔ P [] e ∧ Always (fun past => P (e :: past)) u := by
  rw [← List.singleton_append,always_append,always_singleton]
  rfl

/-- Events of which `P` asks nothing extend the trace freely. -/
theorem always_quiet (before : Always P t) (quiet : ∀ e ∈ u, ∀ past, P past e) : Always P (t ++ u) := by
  rw [always_append]
  refine ⟨before,?_⟩
  intro past e rest split
  exact quiet e (by simp [split]) _

end Traces
