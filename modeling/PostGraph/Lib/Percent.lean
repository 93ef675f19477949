import Mathlib.Data.Char
import PostGraph.Lib.Utf8

/-!
Percent encoding: a '%' and two hexadecimal digits stand for a byte, anything else for
itself. Escaping characters does not change what a text stands for (`decode_escape`),
and a text stands for itself exactly if it holds no escape (`decode_eq_iff`).
-/
namespace Percent
set_option autoImplicit false

/-- A hexadecimal digit, in either case. -/
def value (c : Char) : Option Nat :=
  if '0' ≤ c ∧ c ≤ '9' then some (c.toNat - 48)
  else if 'a' ≤ c ∧ c ≤ 'f' then some (c.toNat - 87)
  else if 'A' ≤ c ∧ c ≤ 'F' then some (c.toNat - 55) else none

def digit (n : Nat) : Char := (Nat.digitChar n).toUpper

/-- The byte that two characters name after a '%'. -/
def named (high low : Char) : Option UInt8 := do
  return .ofNat (16 * (← value high) + (← value low))

/-- What a text stands for. -/
def decode : List Char → List UInt8
  | '%' :: high :: low :: rest =>
    match named high low with
    | some byte => byte :: decode rest
    | none => 37 :: decode (high :: low :: rest)
  | c :: rest => String.utf8EncodeChar c ++ decode rest
  | [] => []

def triple (byte : UInt8) : List Char := ['%',digit (byte.toNat / 16),digit (byte.toNat % 16)]

/-- The bytes of some characters escaped. -/
def escape (escaped : Char → Bool) (text : List Char) : List Char :=
  text.flatMap fun c => if escaped c then (String.utf8EncodeChar c).flatMap triple else [c]

/-- There is no escape anywhere in the text. -/
def Unescaped (text : List Char) : Prop :=
  ∀ before high low after, text = before ++ '%' :: high :: low :: after → named high low = none

/-- The byte that a text begins with, after a '%'. -/
def front : List Char → Option UInt8
  | high :: low :: _ => named high low
  | _ => none

/-! ### Reading an escape -/

theorem value_digit : ∀ n < 16, value (digit n) = some n := by decide

theorem value_range {c : Char} (digit : value c ≠ none) : ' ' < c ∧ c < '~' := by
  unfold value at digit
  split_ifs at digit with decimal lower upper
  · exact ⟨lt_of_lt_of_le (by decide) decimal.1,lt_of_le_of_lt decimal.2 (by decide)⟩
  · exact ⟨lt_of_lt_of_le (by decide) lower.1,lt_of_le_of_lt lower.2 (by decide)⟩
  · exact ⟨lt_of_lt_of_le (by decide) upper.1,lt_of_le_of_lt upper.2 (by decide)⟩
  · exact absurd rfl digit

@[simp] theorem value_percent : value '%' = none := by decide

theorem named_digits (byte : UInt8) : named (digit (byte.toNat / 16)) (digit (byte.toNat % 16)) = some byte := by
  have fits : byte.toNat < 256 := byte.toNat_lt
  have whole : 16 * (byte.toNat / 16) + byte.toNat % 16 = byte.toNat := Nat.div_add_mod _ _
  rw [named,value_digit _ (show byte.toNat / 16 < 16 by omega),value_digit _ (show byte.toNat % 16 < 16 by omega)]
  exact congrArg some (by rw [whole,UInt8.ofNat_toNat])

theorem named_isSome {high low : Char} {byte : UInt8} (found : named high low = some byte) :
    value high ≠ none ∧ value low ≠ none := by
  unfold named at found
  cases first : value high <;> cases second : value low <;> simp [first,second] at found ⊢

theorem decode_other {c : Char} (other : c ≠ '%') (rest : List Char) :
    decode (c :: rest) = String.utf8EncodeChar c ++ decode rest := by
  rw [decode]
  exact fun _ _ _ mark _ => other mark

theorem decode_percent {rest : List Char} (bare : front rest = none) : decode ('%' :: rest) = 37 :: decode rest := by
  rcases rest with _ | ⟨high,_ | ⟨low,rest⟩⟩
  · rfl
  · rfl
  · have none : named high low = none := bare
    rw [decode,none]

theorem decode_named {high low : Char} {byte : UInt8} (found : named high low = some byte) (rest : List Char) :
    decode ('%' :: high :: low :: rest) = byte :: decode rest := by
  rw [decode,found]

theorem decode_triples (bytes : List UInt8) (rest : List Char) :
    decode (bytes.flatMap triple ++ rest) = bytes ++ decode rest := by
  induction bytes with
  | nil => rfl
  | cons byte bytes ih =>
    have first : decode (triple byte ++ (bytes.flatMap triple ++ rest)) = byte :: decode (bytes.flatMap triple ++ rest) :=
      decode_named (named_digits byte) _
    rw [List.flatMap_cons,List.append_assoc,first,ih,List.cons_append]

/-! ### Escaping -/

section
variable {escaped : Char → Bool}

theorem escape_cons (c : Char) (rest : List Char) : escape escaped (c :: rest) =
    (if escaped c then (String.utf8EncodeChar c).flatMap triple else [c]) ++ escape escaped rest :=
  List.flatMap_cons

theorem escape_kept {c : Char} (kept : escaped c = false) (rest : List Char) :
    escape escaped (c :: rest) = c :: escape escaped rest := by
  rw [escape_cons,kept]
  rfl

/-- An escaped character begins with a '%'. -/
theorem escape_escaped {c : Char} (held : escaped c = true) (rest : List Char) :
    ∃ after, escape escaped (c :: rest) = '%' :: after := by
  obtain ⟨byte,bytes,some⟩ := List.exists_cons_of_ne_nil (String.utf8EncodeChar_ne_nil (c := c))
  rw [escape_cons,held,if_pos rfl,some]
  exact ⟨_,rfl⟩

theorem escape_id {text : List Char} (kept : ∀ c ∈ text, escaped c = false) : escape escaped text = text := by
  induction text with
  | nil => rfl
  | cons c rest ih =>
    rw [escape_kept (kept c (by simp)),ih fun c' member => kept c' (by simp [member])]

/-- Escaping makes no escape where there was none. -/
theorem front_escape {rest : List Char} (bare : front rest = none) : front (escape escaped rest) = none := by
  have marked (after : List Char) : front ('%' :: after) = none := by
    cases after <;> simp [front,named]
  rcases rest with _ | ⟨high,rest⟩
  · rfl
  cases first : escaped high with
  | true =>
    obtain ⟨after,same⟩ := escape_escaped first rest
    rw [same,marked]
  | false =>
    rw [escape_kept first]
    rcases rest with _ | ⟨low,rest⟩
    · rfl
    cases second : escaped low with
    | true =>
      obtain ⟨after,same⟩ := escape_escaped second rest
      rw [same]
      simp [front,named]
    | false =>
      rw [escape_kept second]
      exact bare

/-- Escaping changes nothing in what a text stands for, if it spares escapes. -/
theorem decode_escape (spares : ∀ c, escaped c = true → c ≠ '%' ∧ value c = none) (text : List Char) :
    decode (escape escaped text) = decode text := by
  have percent : escaped '%' = false := by
    cases held : escaped '%' with
    | false => rfl
    | true => exact absurd rfl (spares '%' held).1
  have digits {c : Char} (named : value c ≠ none) : escaped c = false := by
    cases held : escaped c with
    | false => rfl
    | true => exact absurd (spares c held).2 named
  induction text using decode.induct with
  | case1 high low rest byte found ih =>
    obtain ⟨first,second⟩ := named_isSome found
    rw [escape_kept percent,escape_kept (digits first),escape_kept (digits second),decode_named found,decode_named found,ih]
  | case2 high low rest unnamed ih =>
    have bare : front (high :: low :: rest) = none := unnamed
    rw [escape_kept percent,decode_percent (front_escape bare),decode_percent bare,ih]
  | case3 c rest none ih =>
    by_cases mark : c = '%'
    · subst mark
      have bare : front rest = .none := by
        rcases rest with _ | ⟨high,_ | ⟨low,rest⟩⟩
        · rfl
        · rfl
        · exact absurd rfl fun same => none high low rest rfl same
      rw [escape_kept percent,decode_percent (front_escape bare),decode_percent bare,ih]
    · rw [decode_other mark]
      cases held : escaped c with
      | true => rw [escape_cons,held,if_pos rfl,decode_triples,ih]
      | false => rw [escape_kept held,decode_other mark,ih]
  | case4 => rfl

end

/-! ### Texts that stand for themselves -/

theorem unescaped_cons {c : Char} {rest : List Char} :
    Unescaped (c :: rest) ↔ (c = '%' → front rest = none) ∧ Unescaped rest := by
  constructor
  · intro unescaped
    refine ⟨?_,fun before high low after same => unescaped (c :: before) high low after (by simp [same])⟩
    rintro rfl
    rcases rest with _ | ⟨high,_ | ⟨low,rest⟩⟩
    · rfl
    · rfl
    · exact unescaped [] high low rest rfl
  · rintro ⟨first,later⟩ before high low after same
    cases before with
    | nil =>
      obtain ⟨mark,rfl⟩ := List.cons.inj same
      exact first mark
    | cons c' before =>
      obtain ⟨-,rfl⟩ := List.cons.inj same
      exact later before high low after rfl

theorem unescaped_of_absent {text : List Char} (absent : '%' ∉ text) : Unescaped text := by
  rintro before high low after rfl
  exact absurd (by simp) absent

theorem length_decode_le (text : List Char) : (decode text).length ≤ (Utf8.encode text).length := by
  induction text using decode.induct with
  | case1 high low rest byte found ih =>
    have mark := Char.utf8Size_pos '%'
    rw [decode_named found]
    simp only [Utf8.encode_cons,List.length_append,List.length_cons,String.length_utf8EncodeChar]
    omega
  | case2 high low rest unnamed ih =>
    have bare : front (high :: low :: rest) = none := unnamed
    rw [decode_percent bare,Utf8.encode_cons,List.length_append,List.length_cons]
    exact Nat.add_comm 1 _ ▸ Nat.add_le_add_left ih 1
  | case3 c rest none ih =>
    rw [decode,Utf8.encode_cons,List.length_append,List.length_append]
    · omega
    · exact none
  | case4 => simp [decode]

/-- A text stands for itself exactly if there is no escape in it. -/
theorem decode_eq_iff {text : List Char} : decode text = Utf8.encode text ↔ Unescaped text := by
  induction text with
  | nil => exact iff_of_true rfl (unescaped_of_absent (by simp))
  | cons c rest ih =>
    rw [unescaped_cons,← ih]
    by_cases mark : c = '%'
    · subst mark
      cases first : front rest with
      | none =>
        rw [decode_percent first,Utf8.encode_cons]
        simp [show String.utf8EncodeChar '%' = [37] by decide]
      | some byte =>
        refine iff_of_false ?_ (by simp)
        rcases rest with _ | ⟨high,_ | ⟨low,rest⟩⟩
        · cases first
        · cases first
        intro same
        rw [decode_named first] at same
        have longer := congrArg List.length same
        have shorter := length_decode_le rest
        have mark := Char.utf8Size_pos '%'
        have digits := Char.utf8Size_pos high
        simp only [Utf8.encode_cons,List.length_append,List.length_cons,String.length_utf8EncodeChar] at longer
        omega
    · rw [decode_other mark,Utf8.encode_cons,List.append_cancel_left_eq]
      simp [mark]

end Percent
