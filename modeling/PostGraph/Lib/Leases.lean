import Mathlib.Data.List.Basic
import Mathlib.Tactic.Common

/-!
Values that are leased: granted at a time, and valid for a number of units of time
from then. A check that drops the fraction of a unit lets a value pass for up to one
unit too long (`passes_iff`), and is right about every age but those (`passed_valid`).
-/
namespace Leases
variable {Value : Type*}

/-- A value, the units that it is valid for, and when it was granted, in ticks. -/
structure Lease (Value : Type*) where
  value : Value
  span : Nat
  granted : Nat
  deriving DecidableEq

/-- How old a lease is; one that is yet to be granted has no age. -/
def Lease.age (self : Lease Value) (now : Nat) : Nat := now - self.granted

variable (unit : Nat)

/-- The span is not over, with `unit` ticks to a unit. -/
def Lease.Valid (self : Lease Value) (now : Nat) : Prop := self.age now ≤ self.span * unit

/-- The whole units of the age are within the span. -/
def Lease.Passes (self : Lease Value) (now : Nat) : Prop := self.age now / unit ≤ self.span

/-- The whole units of the age are just the span, and a fraction of one comes on top. -/
def Lease.Overstays (self : Lease Value) (now : Nat) : Prop := self.age now / unit = self.span ∧ self.age now % unit ≠ 0

instance (self : Lease Value) (now : Nat) : Decidable (self.Valid unit now) := inferInstanceAs (Decidable (_ ≤ _))
instance (self : Lease Value) (now : Nat) : Decidable (self.Passes unit now) := inferInstanceAs (Decidable (_ ≤ _))
instance (self : Lease Value) (now : Nat) : Decidable (self.Overstays unit now) := inferInstanceAs (Decidable (_ ∧ _))

variable {unit} {lease : Lease Value} {now : Nat}

theorem Lease.Valid.passes (valid : lease.Valid unit now) : lease.Passes unit now :=
  Nat.div_le_of_le_mul ((Nat.mul_comm _ _) ▸ valid)

theorem Lease.Overstays.passes (overstays : lease.Overstays unit now) : lease.Passes unit now := Nat.le_of_eq overstays.1

theorem passes_iff (positive : 0 < unit) : lease.Passes unit now ↔ lease.age now < (lease.span + 1) * unit := by
  rw [Lease.Passes,← Nat.lt_succ_iff,Nat.div_lt_iff_lt_mul positive]

/-- A lease that passes is valid unless it overstays. -/
theorem passed_valid (positive : 0 < unit) (passes : lease.Passes unit now) :
    lease.Valid unit now ↔ ¬ lease.Overstays unit now := by
  have parts := Nat.div_add_mod' (lease.age now) unit
  constructor
  · rintro valid ⟨whole,fraction⟩
    rw [Lease.Valid,← whole] at valid
    omega
  · intro stays
    rcases Nat.lt_or_eq_of_le passes with fewer | whole
    · exact Nat.le_of_lt ((Nat.div_lt_iff_lt_mul positive).mp fewer)
    · have fraction : lease.age now % unit = 0 := by
        by_contra fraction
        exact stays ⟨whole,fraction⟩
      rw [Lease.Valid,← whole]
      omega

end Leases
