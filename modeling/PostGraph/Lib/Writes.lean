import Mathlib.Data.List.Basic
import Mathlib.Tactic.Common

/-!
Maps that are written one key at a time, and the history of their writes: under
each key a map holds what the last write to that key left there (`held`).
-/
namespace Writes
variable {Key Value : Type*}

inductive Write (Key Value : Type*)
  | Put (key : Key) (value : Value)
  | Erase (key : Key)
  deriving DecidableEq

def Write.key : Write Key Value → Key
  | Put key _ => key
  | Erase key => key

/-- What a write leaves under its key. -/
def Write.value : Write Key Value → Option Value
  | Put _ value => some value
  | Erase _ => none

variable [DecidableEq Key] {history : List (Write Key Value)} {key : Key} {value : Value}

/-- The last write to a key, in a history with the oldest write first. -/
def latest (history : List (Write Key Value)) (key : Key) : Option (Write Key Value) :=
  history.reverse.find? fun write => write.key = key

/-- What the history leaves under a key. -/
def held (history : List (Write Key Value)) (key : Key) : Option Value := (latest history key).bind Write.value

theorem latest_snoc (write : Write Key Value) :
    latest (history ++ [write]) key = if write.key = key then some write else latest history key := by
  by_cases same : write.key = key
  · simp [latest,same]
  · simp [latest,same]

theorem held_nil : held ([] : List (Write Key Value)) key = none := rfl

theorem held_put (written : Key) : held (history ++ [.Put written value]) key =
    if written = key then some value else held history key := by
  by_cases same : written = key
  · simp [held,latest_snoc,Write.key,Write.value,same]
  · simp [held,latest_snoc,Write.key,same]

theorem held_erase (written : Key) : held (history ++ [Write.Erase written]) key =
    if written = key then none else held history key := by
  by_cases same : written = key
  · simp [held,latest_snoc,Write.key,Write.value,same]
  · simp [held,latest_snoc,Write.key,same]

/-- A value is held if the last write to its key put it there. -/
theorem held_eq_some : held history key = some value ↔ latest history key = some (.Put key value) := by
  constructor
  · intro holds
    obtain ⟨write,last,written⟩ := Option.bind_eq_some_iff.mp holds
    have same : write.key = key := by simpa using List.find?_some last
    cases write with
    | Put written' value' =>
      obtain rfl : value' = value := Option.some.inj written
      obtain rfl : written' = key := same
      exact last
    | Erase written' => simp [Write.value] at written
  · intro last
    rw [held,last]
    rfl

end Writes
