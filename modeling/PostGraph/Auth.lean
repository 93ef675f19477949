import Mathlib.Data.List.AList
import PostGraph.Text

/-!
User authentication: the password hashes of the configured users.
-/
namespace PostGraph
set_option autoImplicit false

/-- The `argon2` crate: its password hashes, their texts, and the hash of a
    password with a salt that is drawn at random. -/
class Argon2 where
  PasswordHash : Type
  new : Text → Option PasswordHash
  to_string : PasswordHash → Text
  hash_password : (salt password : Bytes) → Option PasswordHash
  verify_password : (password : Bytes) → PasswordHash → Bool

abbrev HashMap (α : Type) : Type := AList fun _ : Text => α

/-- Entries with different keys that are put into a map one by one are all there, in the same order. -/
theorem entries_collect {α β : Type} (read : α → Option β) {entries : List (Sigma fun _ : Text => α)}
    (distinct : entries.NodupKeys) :
    (entries.foldr (fun entry (users : HashMap β) => ((read entry.2).map (users.insert entry.1)).getD users) ∅).entries =
      entries.filterMap fun entry => (read entry.2).map fun value => ⟨entry.1,value⟩ := by
  induction entries with
  | nil => rfl
  | cons entry entries ih =>
    obtain ⟨other,distinct⟩ := List.nodupKeys_cons.mp distinct
    have later := ih distinct
    rw [List.foldr_cons,List.filterMap_cons]
    cases known : read entry.2 with
    | none => simpa using later
    | some value =>
      have absent : entry.1 ∉ entries.foldr (fun entry (users : HashMap β) =>
          ((read entry.2).map (users.insert entry.1)).getD users) ∅ := by
        rw [AList.mem_keys,AList.keys,later]
        intro member
        obtain ⟨found,there,same⟩ := List.mem_map.mp member
        obtain ⟨source,present,made⟩ := List.mem_filterMap.mp there
        obtain ⟨value',-,rfl⟩ := Option.map_eq_some_iff.mp made
        exact other (same ▸ List.mem_map_of_mem present)
      simp only [Option.map_some,Option.getD_some,AList.entries_insert_of_notMem absent,later]

structure UserAuth [Argon2] where
  users : HashMap Argon2.PasswordHash

namespace UserAuth
variable [Argon2]

def new : UserAuth := ⟨∅⟩

def serialize (self : UserAuth) : HashMap Text :=
  self.users.entries.foldr (fun entry users => users.insert entry.1 (Argon2.to_string entry.2)) ∅

def deserialize (users : HashMap Text) : UserAuth where
  users := users.entries.foldr (fun entry users =>
    match Argon2.new entry.2 with
    | some hash => users.insert entry.1 hash
    | none => users) ∅

def set_user_password (self : UserAuth) (username password : Text) (salt : Bytes) : Except Text UserAuth :=
  match Argon2.hash_password salt (Utf8.encode password) with
  | some hash => .ok ⟨self.users.insert username hash⟩
  | none => .error "could not set password".toList

def remove_user (self : UserAuth) (username : Text) : Except Text UserAuth :=
  if username ∈ self.users then .ok ⟨self.users.erase username⟩ else .error "User not found".toList

def has_user (self : UserAuth) (username : Text) : Bool := (self.users.lookup username).isSome

def has_users (self : UserAuth) : Bool := !self.users.entries.isEmpty

def verify_user_password (self : UserAuth) (username password : Text) : Except Text Unit :=
  match self.users.lookup username with
  | none => .error ("user ".toList ++ username ++ " not found".toList)
  | some hash =>
    if Argon2.verify_password (Utf8.encode password) hash then .ok () else .error "invalid password".toList

/-- Loading keeps a user if it accepts the hash of one. -/
theorem has_users_deserialize (users : HashMap Text) :
    (deserialize users).has_users = true ↔ ∃ entry ∈ users.entries, (Argon2.new entry.2).isSome = true := by
  unfold has_users deserialize
  induction users.entries with
  | nil => simp
  | cons entry entries ih =>
    simp only [List.foldr_cons,List.mem_cons,exists_eq_or_imp]
    cases read : Argon2.new entry.2 with
    | some hash => simp
    | none => simpa using ih

theorem serialize_entries (self : UserAuth) : self.serialize.entries =
    self.users.entries.map fun entry => ⟨entry.1,Argon2.to_string entry.2⟩ := by
  have collected := entries_collect (fun hash => some (Argon2.to_string hash)) self.users.nodupKeys
  exact collected.trans (congrFun List.filterMap_eq_map _)

theorem deserialize_entries (users : HashMap Text) : (deserialize users).users.entries =
    users.entries.filterMap fun entry => (Argon2.new entry.2).map fun hash => ⟨entry.1,hash⟩ := by
  rw [← entries_collect Argon2.new users.nodupKeys]
  unfold deserialize
  congr 4
  funext entry users
  cases Argon2.new entry.2 <;> rfl

/-- Loading what was saved gives the users back, if hash texts do so. -/
theorem deserialize_serialize (texts : ∀ hash : Argon2.PasswordHash, Argon2.new (Argon2.to_string hash) = some hash)
    (self : UserAuth) : deserialize self.serialize = self := by
  have same : (deserialize self.serialize).users.entries = self.users.entries := by
    rw [deserialize_entries,serialize_entries,List.filterMap_map]
    simp [texts]
  cases self
  exact congrArg UserAuth.mk (AList.ext same)

section
variable {self auth : UserAuth} {username password : Text} {salt : Bytes}

theorem verify_user_password_ok : self.verify_user_password username password = .ok () ↔
    ∃ hash, self.users.lookup username = some hash ∧ Argon2.verify_password (Utf8.encode password) hash = true := by
  unfold verify_user_password
  cases self.users.lookup username with
  | none => exact iff_of_false nofun nofun
  | some hash =>
    simp only [Option.some.injEq,exists_eq_left']
    split_ifs with verified
    · exact iff_of_true rfl verified
    · exact iff_of_false nofun verified

theorem set_user_password_ok : self.set_user_password username password salt = .ok auth ↔
    ∃ hash, Argon2.hash_password salt (Utf8.encode password) = some hash ∧
      auth = ⟨self.users.insert username hash⟩ := by
  unfold set_user_password
  cases Argon2.hash_password salt (Utf8.encode password) with
  | none => exact iff_of_false nofun nofun
  | some hash => simp [eq_comm]

theorem remove_user_ok : self.remove_user username = .ok auth ↔
    username ∈ self.users ∧ auth = ⟨self.users.erase username⟩ := by
  unfold remove_user
  split_ifs with known
  · simp [known,eq_comm]
  · exact iff_of_false nofun fun removed => known removed.1

theorem has_users_iff : self.has_users = true ↔ ∃ username, self.has_user username = true := by
  simp only [has_users,has_user,AList.lookup_isSome]
  constructor
  · intro some
    cases known : self.users.entries with
    | nil => simp [known] at some
    | cons entry entries => exact ⟨entry.1,AList.mem_keys.mpr (by simp [AList.keys,known])⟩
  · rintro ⟨username,member⟩
    cases known : self.users.entries with
    | nil => simp [AList.mem_keys,AList.keys,known] at member
    | cons entry entries => rfl

end
end UserAuth
end PostGraph
