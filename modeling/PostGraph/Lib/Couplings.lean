import PostGraph.Lib.Programs

/-!
Two executions of one program over a state that may fail (`EStateM`), from states
that are related: they end alike. Programs that treat related states alike are
closed under the ways programs are put together.
-/
namespace Couplings
open Programs
set_option autoImplicit false
variable {ε σ α β : Type} {R E : σ → σ → Prop} {m : EStateM ε σ α} {k : α → EStateM ε σ β} {f : σ → σ} {s t : σ}

/-- Both executions succeed with the same value, in states that `R` relates, or both
    fail with the same error, in states that `E` relates. -/
def EndsAlike (R E : σ → σ → Prop) : EStateM.Result ε σ α → EStateM.Result ε σ α → Prop
  | .ok a s, .ok b t => a = b ∧ R s t
  | .error e s, .error f t => e = f ∧ E s t
  | _, _ => False

/-- The program treats states that `R` relates alike. -/
def Alike (R E : σ → σ → Prop) (m : EStateM ε σ α) : Prop := ∀ s t, R s t → EndsAlike R E (m s) (m t)

theorem EndsAlike.mono {R' E' : σ → σ → Prop} {r r' : EStateM.Result ε σ α} (ends : EndsAlike R E r r')
    (success : ∀ s t, R s t → R' s t) (failure : ∀ s t, E s t → E' s t) : EndsAlike R' E' r r' := by
  cases r with
  | ok a s =>
    cases r' with
    | ok b t => exact ⟨ends.1,success s t ends.2⟩
    | error f t => exact False.elim ends
  | error e s =>
    cases r' with
    | ok b t => exact False.elim ends
    | error f t => exact ⟨ends.1,failure s t ends.2⟩

theorem EndsAlike.bind (ends : EndsAlike R E (m s) (m t)) (next : ∀ a, Alike R E (k a)) :
    EndsAlike R E ((m >>= k) s) ((m >>= k) t) := by
  simp only [Bind.bind,EStateM.bind]
  cases first : m s with
  | ok a s' =>
    cases second : m t with
    | ok b t' =>
      rw [first,second] at ends
      obtain ⟨rfl,related⟩ := ends
      exact next a s' t' related
    | error f t' => rw [first,second] at ends; exact False.elim ends
  | error e s' =>
    cases second : m t with
    | ok b t' => rw [first,second] at ends; exact False.elim ends
    | error f t' => rw [first,second] at ends; exact ends

theorem alike_bind (first : Alike R E m) (next : ∀ a, Alike R E (k a)) : Alike R E (m >>= k) :=
  fun s t related => (first s t related).bind next

theorem alike_pure (a : α) : Alike R E (pure a : EStateM ε σ α) := fun _ _ related => ⟨rfl,related⟩

theorem alike_throw (weaker : ∀ s t, R s t → E s t) (e : ε) : Alike R E (throw e : EStateM ε σ α) :=
  fun s t related => ⟨rfl,weaker s t related⟩

/-- A program that goes on with what it reads from the state must go on alike. -/
theorem alike_get {k : σ → EStateM ε σ β} (same : ∀ s t, R s t → k s = k t) (next : ∀ s, Alike R E (k s)) :
    Alike R E (get >>= k) := by
  intro s t related
  have goesOn : (get >>= k) t = k s t := congrFun (same s t related).symm t
  rw [goesOn]
  exact next s s t related

theorem alike_modify (kept : ∀ s t, R s t → R (f s) (f t)) : Alike R E (modify f : EStateM ε σ PUnit) :=
  fun s t related => ⟨rfl,kept s t related⟩

/-! ### As far as nothing escapes

What two programs do may differ where one of them ends in a state of `X`. -/

variable {X Y : σ → Prop}

/-- The program treats related states alike, unless it leaves `X` behind in the one
    or `Y` in the other. -/
def AlikeUnless (R E : σ → σ → Prop) (X Y : σ → Prop) (m : EStateM ε σ α) : Prop :=
  ∀ s t, R s t → EndsAlike R E (m s) (m t) ∨ X (final (m s)) ∨ Y (final (m t))

theorem Alike.unless (alike : Alike R E m) : AlikeUnless R E X Y m := fun s t related => .inl (alike s t related)

theorem unless_get {k : σ → EStateM ε σ β} (same : ∀ s t, R s t → k s = k t) (next : ∀ s, AlikeUnless R E X Y (k s)) :
    AlikeUnless R E X Y (get >>= k) := by
  intro s t related
  have goesOn : (get >>= k) t = k s t := congrFun (same s t related).symm t
  rw [goesOn]
  exact next s s t related

/-- What comes after a program may escape. -/
theorem unless_bind (first : Alike R E m) (next : ∀ a, AlikeUnless R E X Y (k a)) : AlikeUnless R E X Y (m >>= k) := by
  intro s t related
  have ends := first s t related
  simp only [Bind.bind,EStateM.bind]
  cases ran : m s with
  | ok a s' =>
    cases ran' : m t with
    | ok b t' =>
      rw [ran,ran'] at ends
      obtain ⟨rfl,related'⟩ := ends
      exact next a s' t' related'
    | error f t' => rw [ran,ran'] at ends; exact False.elim ends
  | error e s' =>
    cases ran' : m t with
    | ok b t' => rw [ran,ran'] at ends; exact False.elim ends
    | error f t' => rw [ran,ran'] at ends; exact .inl ends

/-- What comes after an escape is to keep it. -/
theorem AlikeUnless.bind (first : AlikeUnless R E X Y m) (next : ∀ a, AlikeUnless R E X Y (k a))
    (kept : ∀ a s, X s → X (final (k a s))) (kept' : ∀ a s, Y s → Y (final (k a s))) :
    AlikeUnless R E X Y (m >>= k) := by
  have lasts {Z : σ → Prop} (stays : ∀ a s, Z s → Z (final (k a s))) (s : σ) (escaped : Z (final (m s))) :
      Z (final ((m >>= k) s)) := by
    simp only [Bind.bind,EStateM.bind]
    cases ran : m s with
    | ok a s' =>
      rw [ran] at escaped
      exact stays a s' escaped
    | error e s' =>
      rw [ran] at escaped
      exact escaped
  intro s t related
  rcases first s t related with ends | escaped | escaped
  · simp only [Bind.bind,EStateM.bind]
    cases ran : m s with
    | ok a s' =>
      cases ran' : m t with
      | ok b t' =>
        rw [ran,ran'] at ends
        obtain ⟨rfl,related'⟩ := ends
        exact next a s' t' related'
      | error f t' => rw [ran,ran'] at ends; exact False.elim ends
    | error e s' =>
      cases ran' : m t with
      | ok b t' => rw [ran,ran'] at ends; exact False.elim ends
      | error f t' => rw [ran,ran'] at ends; exact .inl ends
  · exact .inr (.inl (lasts kept s escaped))
  · exact .inr (.inr (lasts kept' t escaped))

/-- A state relates to itself as far as `P` holds of it: what a program treats alike
    under this relation, it keeps `P` of. -/
theorem ends_of_unless {P Q : σ → Prop} (alike : AlikeUnless (fun s t => s = t ∧ P s) (fun s t => s = t ∧ Q s)
    (fun _ => False) (fun _ => False) m) (holds : P s) : Ends (m s) (fun _ t => P t) (fun _ t => Q t) := by
  rcases alike s s ⟨rfl,holds⟩ with ends | escaped | escaped
  · cases ran : m s with
    | ok a t =>
      rw [ran] at ends
      exact ends.2.2
    | error e t =>
      rw [ran] at ends
      exact ends.2.2
  · exact escaped.elim
  · exact escaped.elim

/-- And the other way round. -/
theorem alike_of_ends {P Q : σ → Prop} (keeps : ∀ s, P s → Ends (m s) (fun _ t => P t) (fun _ t => Q t)) :
    Alike (fun s t => s = t ∧ P s) (fun s t => s = t ∧ Q s) m := by
  rintro s _ ⟨rfl,holds⟩
  have ends := keeps s holds
  cases ran : m s with
  | ok a t =>
    rw [ran] at ends
    exact ⟨rfl,rfl,ends⟩
  | error e t =>
    rw [ran] at ends
    exact ⟨rfl,rfl,ends⟩

end Couplings
