import Mathlib.Data.List.AList
import Mathlib.Tactic.Common

/-!
Trees of values, as a self-describing text format has them, and the records that
are read from them and written to them: fields go by their names, some may be
missing, and those without a value can be left out. What is written is read
back (`required_record`, `optional_record`, `map_of_map`).
-/
namespace Values
set_option autoImplicit false

/-- What a scalar stands for, where that does not depend on who reads it. -/
inductive Kind
  | Null
  | Bool (value : Bool)
  | Number (value : Nat)
  | Other
  deriving DecidableEq

inductive Value
  | Scalar (text : List Char) (kind : Kind)
  | Sequence (items : List Value)
  | Mapping (entries : List (Value × Value))

/-- The fields of a record by their names, in the order of the text. -/
abbrev Fields : Type := List (List Char × Value)

variable {α : Type}

/-! ### Reading -/

namespace Value

/-- Every scalar can be read as a text. -/
def text : Value → Option (List Char)
  | .Scalar text _ => some text
  | _ => none

def bool : Value → Option Bool
  | .Scalar _ (.Bool value) => some value
  | _ => none

def number (bound : Nat) : Value → Option (Fin bound)
  | .Scalar _ (.Number value) => if small : value < bound then some ⟨value,small⟩ else none
  | _ => none

/-- Nothing written is an empty list, as it is an empty map and a record without fields. -/
def list (read : Value → Option α) : Value → Option (List α)
  | .Sequence items => items.mapM read
  | .Scalar [] .Null => some []
  | _ => none

def option (read : Value → Option α) : Value → Option (Option α)
  | .Scalar _ .Null => some none
  | value => (read value).map some

def entry (read : Value → Option α) (entry : Value × Value) : Option (Sigma fun _ : List Char => α) := do
  return ⟨← entry.1.text,← read entry.2⟩

/-- Of two entries with one key, the later one counts. -/
def collect : List (Sigma fun _ : List Char => α) → AList fun _ : List Char => α
  | [] => ∅
  | entry :: entries => if entry.1 ∈ collect entries then collect entries else (collect entries).insert entry.1 entry.2

def map (read : Value → Option α) : Value → Option (AList fun _ : List Char => α)
  | .Mapping entries => (entries.mapM (entry read)).map collect
  | .Scalar [] .Null => some ∅
  | _ => none

/-- The fields of a record, whether it knows them or not. The values can also be listed in the
    order of the fields, of which the last have a default and can be missing. -/
def fields (names : List (List Char)) (defaults : Nat) : Value → Option Fields
  | .Mapping entries => entries.mapM fun entry => entry.1.text.map fun name => (name,entry.2)
  | .Sequence items =>
    if items.length ≤ names.length ∧ names.length ≤ items.length + defaults then some (names.zip items) else none
  | .Scalar [] .Null => some []
  | _ => none

end Value

namespace Fields

/-- The value of a field that goes by these names, if it is there; it is not there twice. -/
def find (fields : Fields) (names : List (List Char)) : Option (Option Value) :=
  match fields.filter fun field => field.1 ∈ names with
  | [] => some none
  | [field] => some (some field.2)
  | _ => none

def required (fields : Fields) (read : Value → Option α) (names : List (List Char)) : Option α :=
  (fields.find names).bind fun found => found.bind read

def defaulted (fields : Fields) (default : α) (read : Value → Option α) (names : List (List Char)) : Option α :=
  (fields.find names).bind fun found => (found.map read).getD (some default)

/-- A field without a value can be missing, or be given as null. -/
def optional (fields : Fields) (read : Value → Option α) (names : List (List Char)) : Option (Option α) :=
  fields.defaulted none (Value.option read) names

end Fields

/-! ### Writing -/

namespace Value

def of_text (text : List Char) : Value := .Scalar text .Other

def of_bool (value : Bool) : Value := .Scalar (if value then "true" else "false").toList (.Bool value)

def of_number (value : Nat) : Value := .Scalar (Nat.toDigits 10 value) (.Number value)

def of_map (write : α → Value) (map : AList fun _ : List Char => α) : Value :=
  .Mapping (map.entries.map fun entry => (of_text entry.1,write entry.2))

/-- The fields that have a value; the others are skipped. -/
def present (written : List (List Char × Option Value)) : Fields :=
  written.filterMap fun field => field.2.map fun value => (field.1,value)

def record (written : List (List Char × Option Value)) : Value :=
  .Mapping ((present written).map fun field => (of_text field.1,field.2))

end Value

/-! ### What is written is read -/

section
variable {read : Value → Option α} {write : α → Value}

theorem text_of_text (text : List Char) : (Value.of_text text).text = some text := rfl

theorem bool_of_bool (value : Bool) : (Value.of_bool value).bool = some value := rfl

theorem number_of_number {bound value : Nat} (small : value < bound) :
    (Value.of_number value).number bound = some ⟨value,small⟩ := dif_pos small

theorem list_of_list (kept : ∀ a, read (write a) = some a) (items : List α) :
    (Value.Sequence (items.map write)).list read = some items := by
  simp only [Value.list]
  induction items with
  | nil => rfl
  | cons item items ih => simp [List.mapM_cons,kept,ih]

theorem option_of_some {value : Value} {a : α} (kept : read value = some a)
    (filled : ∀ text, value ≠ .Scalar text .Null) : value.option read = some (some a) := by
  unfold Value.option
  split
  · exact absurd rfl (filled _)
  · rw [kept,Option.map_some]

theorem collect_entries {entries : List (Sigma fun _ : List Char => α)} (distinct : entries.NodupKeys) :
    (Value.collect entries).entries = entries := by
  induction entries with
  | nil => rfl
  | cons entry entries ih =>
    obtain ⟨other,distinct⟩ := List.nodupKeys_cons.mp distinct
    have later := ih distinct
    have absent : entry.1 ∉ Value.collect entries := by
      rwa [AList.mem_keys,AList.keys,later]
    calc (Value.collect (entry :: entries)).entries
      _ = ((Value.collect entries).insert entry.1 entry.2).entries := by rw [Value.collect,if_neg absent]
      _ = entry :: entries := by rw [AList.entries_insert_of_notMem absent,later]

theorem map_of_map (kept : ∀ a, read (write a) = some a) (map : AList fun _ : List Char => α) :
    (Value.of_map write map).map read = some map := by
  have entries (known : List (Sigma fun _ : List Char => α)) :
      (known.map fun entry => (Value.of_text entry.1,write entry.2)).mapM (Value.entry read) = some known := by
    induction known with
    | nil => rfl
    | cons entry known ih => simp [List.mapM_cons,Value.entry,text_of_text,kept,ih]
  rw [Value.of_map,Value.map,entries,Option.map_some,Option.some.injEq]
  exact AList.ext (collect_entries map.nodupKeys)

/-- The fields of a record are those that were written. -/
theorem fields_record (names : List (List Char)) (defaults : Nat) (written : List (List Char × Option Value)) :
    (Value.record written).fields names defaults = some (Value.present written) := by
  simp only [Value.record,Value.fields]
  induction Value.present written with
  | nil => rfl
  | cons field fields ih => simp [List.mapM_cons,text_of_text,ih]

end

section
variable {written : List (List Char × Option Value)} {name : List Char} {aliases : List (List Char)}

theorem present_absent {names : List (List Char)} (absent : ∀ name ∈ names, name ∉ written.map Prod.fst) :
    (Value.present written).filter (fun field => field.1 ∈ names) = [] := by
  rw [List.filter_eq_nil_iff]
  intro field member
  obtain ⟨source,there,made⟩ := List.mem_filterMap.mp member
  obtain ⟨value,-,rfl⟩ := Option.map_eq_some_iff.mp made
  intro listed
  exact absent source.1 (of_decide_eq_true listed) (List.mem_map_of_mem there)

/-- A field is found with the value it was written with, if its other names are those of
    no field. -/
theorem find_record {value : Option Value} (distinct : (written.map Prod.fst).Nodup) (member : (name,value) ∈ written)
    (free : ∀ label ∈ aliases, label ∉ written.map Prod.fst) :
    (Value.present written).find (name :: aliases) = some value := by
  have found : (Value.present written).filter (fun field => field.1 ∈ name :: aliases) =
      (value.map fun value => (name,value)).toList := by
    induction written with
    | nil => simp at member
    | cons field written ih =>
      obtain ⟨unique,distinct⟩ := List.nodup_cons.mp distinct
      have free' : ∀ label ∈ aliases, label ∉ written.map Prod.fst := fun label listed there =>
        free label listed (List.mem_cons_of_mem _ there)
      rcases List.mem_cons.mp member with rfl | later
      · have absent : ∀ next ∈ name :: aliases, next ∉ written.map Prod.fst :=
          List.forall_mem_cons.mpr ⟨unique,free'⟩
        have rest := present_absent absent
        cases value with
        | none => exact rest
        | some value => simpa [Value.present] using rest
      · have apart : field.1 ∉ name :: aliases := by
          intro listed
          rcases List.mem_cons.mp listed with same | listed
          · exact unique (same ▸ List.mem_map_of_mem later)
          · exact free field.1 listed (List.mem_cons_self ..)
        have rest := ih distinct later free'
        obtain ⟨first,content⟩ := field
        cases content with
        | none => exact rest
        | some content =>
          rw [Value.present,List.filterMap_cons,Option.map_some,List.filter_cons,if_neg (by simpa using apart)]
          exact rest
  rw [Fields.find,found]
  cases value <;> rfl

variable {read : Value → Option α}

theorem required_record (name : List Char) (aliases : List (List Char)) {value : Value} {a : α}
    (distinct : (written.map Prod.fst).Nodup) (free : ∀ label ∈ aliases, label ∉ written.map Prod.fst)
    (member : (name,some value) ∈ written) (kept : read value = some a) :
    (Value.present written).required read (name :: aliases) = some a := by
  rw [Fields.required,find_record distinct member free]
  exact kept

/-- A field without a value is skipped, and read as such. -/
theorem optional_record (name : List Char) {write : α → Value} {a : Option α}
    (distinct : (written.map Prod.fst).Nodup) (member : (name,a.map write) ∈ written) (kept : ∀ a, read (write a) = some a)
    (filled : ∀ a text, write a ≠ .Scalar text .Null) :
    (Value.present written).optional read [name] = some a := by
  rw [Fields.optional,Fields.defaulted,find_record distinct member (by simp)]
  cases a with
  | none => rfl
  | some a => exact option_of_some (kept a) (filled a)

end
end Values
