import PostGraph.Lib.Runs
import Mathlib.Data.List.Basic
import Mathlib.Tactic.Common

/-!
Machines whose state is read through registers, each with values of its own. An action
writes some of the registers and leaves the others, so that after a run each of them
holds what the last action that writes it left there.
-/
namespace Registers
open Runs
set_option autoImplicit false
universe u

/-- What the registers of a state hold, and what an action writes to them where it is
    allowed. -/
structure Bank {State Action : Type u} (step : State → Action → Option State) (ok : State → Action → Prop) {Key : Type u}
    (Value : Key → Type u) where
  read : State → (key : Key) → Value key
  writes : Action → (key : Key) → Option (Value key)
  lawful : ∀ {s a s'}, ok s a → step s a = some s' → ∀ key, read s' key = (writes a key).getD (read s key)

variable {State Action Key : Type u} {step : State → Action → Option State} {ok : State → Action → Prop}
  {Value : Key → Type u} (r : Bank step ok Value) {as bs : List Action} {a b : Action} {key : Key} {s s' t : State}

/-- The last value that is written to a register. -/
def Bank.last (as : List Action) (key : Key) : Option (Value key) := as.reverse.findSome? fun a => r.writes a key

end Registers
