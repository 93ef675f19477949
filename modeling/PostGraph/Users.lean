import PostGraph.Auth
import PostGraph.Lib.Writes

/-!
The users' store under any sequence of operations, some of which fail, with
reloads in between: it holds exactly the users whose last successful operation
set a password, and verifies exactly that password.
-/
namespace PostGraph
open Writes
set_option autoImplicit false

/-- A hash is verified by the password that it was made of and by no other, and its text
    is read back as the same hash. -/
structure Argon2.Lawful [Argon2] : Prop where
  exact : ∀ salt password (hash : PasswordHash), hash_password salt password = some hash →
    ∀ other, verify_password other hash = true ↔ other = password
  texts : ∀ hash : PasswordHash, new (to_string hash) = some hash

/-- What is done to the store. Setting a password draws a salt. -/
inductive StoreAction
  | Set (username password : Text) (salt : Bytes)
  | Remove (username : Text)
  /-- The store is serialized and deserialized. -/
  | Reload

/-- A store, and the operations on it that succeeded, oldest first. -/
structure Store [Argon2] where
  auth : UserAuth
  done : List (Write Text Text)

namespace Store
variable [Argon2]

def empty : Store := ⟨UserAuth.new,[]⟩

/-- What an operation leaves: one that fails leaves the store as it was. -/
def finish (self : Store) (write : Write Text Text) : Except Text UserAuth → Store
  | .ok auth => ⟨auth,self.done ++ [write]⟩
  | .error _ => self

def step (self : Store) : StoreAction → Store
  | .Set username password salt =>
    self.finish (.Put username password) (self.auth.set_user_password username password salt)
  | .Remove username => self.finish (.Erase username) (self.auth.remove_user username)
  | .Reload => { self with auth := .deserialize self.auth.serialize }

/-- What holds of a user: it has a password and a hash that verifies just that one, or
    neither. -/
def Holds (password : Option Text) (hash : Option Argon2.PasswordHash) : Prop :=
  (password = none ∧ hash = none) ∨ ∃ known kept, password = some known ∧ hash = some kept ∧
    ∀ other, Argon2.verify_password (Utf8.encode other) kept = true ↔ other = known

/-- The store refines the map of users to passwords that its history leaves. -/
def Refines (self : Store) : Prop := ∀ username, Holds (held self.done username) (self.auth.users.lookup username)

theorem refines_empty : empty.Refines := fun _ => .inl ⟨held_nil,rfl⟩

section
variable {self : Store}

theorem Refines.finish {write : Write Text Text} {outcome : Except Text UserAuth} (refines : self.Refines)
    (written : ∀ auth, outcome = .ok auth → Refines ⟨auth,self.done ++ [write]⟩) : (self.finish write outcome).Refines := by
  cases outcome with
  | ok auth => exact written auth rfl
  | error err => exact refines

theorem Refines.step (refines : self.Refines) (lawful : Argon2.Lawful) (action : StoreAction) :
    (self.step action).Refines := by
  cases action with
  | Set username password salt =>
    refine refines.finish ?_
    intro auth set user
    obtain ⟨hash,made,rfl⟩ := UserAuth.set_user_password_ok.mp set
    rw [held_put]
    by_cases same : username = user
    · subst same
      refine .inr ⟨password,hash,if_pos rfl,AList.lookup_insert _,?_⟩
      intro other
      rw [lawful.exact salt _ hash made]
      exact Utf8.encode_injective.eq_iff
    · rw [if_neg same,AList.lookup_insert_ne (Ne.symm same)]
      exact refines user
  | Remove username =>
    refine refines.finish ?_
    intro auth removed user
    obtain ⟨-,rfl⟩ := UserAuth.remove_user_ok.mp removed
    rw [held_erase]
    by_cases same : username = user
    · subst same
      exact .inl ⟨if_pos rfl,AList.lookup_erase _ _⟩
    · rw [if_neg same,AList.lookup_erase_ne (Ne.symm same)]
      exact refines user
  | Reload =>
    intro user
    simp only [Store.step,UserAuth.deserialize_serialize lawful.texts]
    exact refines user

theorem Refines.run (refines : self.Refines) (lawful : Argon2.Lawful) (actions : List StoreAction) :
    (actions.foldl Store.step self).Refines := by
  induction actions generalizing self with
  | nil => exact refines
  | cons action actions ih => exact ih (refines.step lawful action)

theorem Refines.verifies (refines : self.Refines) (username password : Text) :
    self.auth.verify_user_password username password = .ok () ↔ held self.done username = some password := by
  rw [UserAuth.verify_user_password_ok]
  rcases refines username with ⟨absent,unknown⟩ | ⟨known,hash,present,kept,exact⟩
  · simp [absent,unknown]
  · simp only [present,kept,Option.some.injEq,exists_eq_left',exact]
    exact eq_comm

theorem Refines.has_user (refines : self.Refines) (username : Text) :
    self.auth.has_user username = true ↔ ∃ password, held self.done username = some password := by
  rw [UserAuth.has_user]
  rcases refines username with ⟨absent,unknown⟩ | ⟨known,hash,present,kept,-⟩
  · simp [absent,unknown]
  · simp [present,kept]

end
end Store

/-- Whatever is done to a store that starts empty, a password is verified exactly if
    it was set by the last successful operation on the user, and there is a user
    exactly if its last successful operation set a password. -/
theorem user_store_law [Argon2] (lawful : Argon2.Lawful)
    (actions : List StoreAction) {store : Store} (ran : actions.foldl Store.step .empty = store) :
    (∀ username password, store.auth.verify_user_password username password = .ok () ↔
      latest store.done username = some (.Put username password)) ∧
    (∀ username, store.auth.has_user username = true ↔
      ∃ password, latest store.done username = some (.Put username password)) ∧
    (store.auth.has_users = true ↔ ∃ username password, latest store.done username = some (.Put username password)) := by
  have refines : store.Refines := ran ▸ Store.refines_empty.run lawful actions
  refine ⟨?_,?_,?_⟩
  · intro username password
    rw [refines.verifies,held_eq_some]
  · intro username
    simp only [refines.has_user,held_eq_some]
  · rw [UserAuth.has_users_iff]
    simp only [refines.has_user,held_eq_some]

section

/-- The salt "saltsaltsaltsalt", and the hash that argon2id with its default parameters
    makes of the password "b". -/
def sampleSalt : Bytes := ascii "saltsaltsaltsalt"
def sampleHash : Text :=
  "$argon2id$v=19$m=19456,t=2,p=1$c2FsdHNhbHRzYWx0c2FsdA$+MpiDIHvqAUergxAY2ENorsJDoaGilnjPYDuJ268GHY".toList

/-- Hash texts start with '$'; `sampleHash` is verified by its password. -/
local instance sampleArgon2 : Argon2 where
  PasswordHash := { text : Text // text.head? = some '$' }
  new text := if hashed : text.head? = some '$' then some ⟨text,hashed⟩ else none
  to_string hash := hash.val
  hash_password salt password :=
    if salt = sampleSalt ∧ password = ascii "b" then some ⟨sampleHash,by decide +kernel⟩ else none
  verify_password password known := known.val = sampleHash ∧ password = ascii "b"

/-- A user is added and a reload follows; the removal of another one fails. -/
theorem user_store_law_sample :
    ([.Set "a".toList "b".toList sampleSalt,.Reload,.Remove "c".toList].foldl Store.step .empty).auth.verify_user_password
      "a".toList "b".toList = .ok () := by
  refine ((user_store_law ⟨?_,?_⟩ _ rfl).1 _ _).mpr (by decide +kernel)
  · intro salt password hash made other
    obtain ⟨⟨-,rfl⟩,rfl⟩ : (salt = sampleSalt ∧ password = ascii "b") ∧ _ := by
      simpa [Argon2.hash_password,sampleArgon2] using made
    simp [Argon2.verify_password]
  · intro hash
    exact dif_pos hash.property

end
end PostGraph
