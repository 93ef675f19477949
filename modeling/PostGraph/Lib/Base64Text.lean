import Mathlib.Data.List.Basic
import Mathlib.Tactic.Common

/-!
Base64 with the standard alphabet and padding: three bytes are four digits of six bits.
Decoding takes what encoding makes, and back (`decode_encode`).
-/
namespace Base64Text

def PAD : UInt8 := 61

def digit (value : Nat) : UInt8 :=
  if value < 26 then UInt8.ofNat (65 + value)
  else if value < 52 then UInt8.ofNat (71 + value)
  else if value < 62 then UInt8.ofNat (value - 4)
  else if value = 62 then 43
  else 47

def value (digit : UInt8) : Option Nat :=
  let n := digit.toNat
  if 65 ≤ n ∧ n ≤ 90 then some (n - 65)
  else if 97 ≤ n ∧ n ≤ 122 then some (n - 71)
  else if 48 ≤ n ∧ n ≤ 57 then some (n + 4)
  else if n = 43 then some 62
  else if n = 47 then some 63
  else none

def encode : List UInt8 → List UInt8
  | [] => []
  | [a] => [digit (a.toNat / 4),digit (a.toNat % 4 * 16),PAD,PAD]
  | [a,b] => [digit (a.toNat / 4),digit (a.toNat % 4 * 16 + b.toNat / 16),digit (b.toNat % 16 * 4),PAD]
  | a :: b :: c :: rest =>
    digit (a.toNat / 4) :: digit (a.toNat % 4 * 16 + b.toNat / 16) :: digit (b.toNat % 16 * 4 + c.toNat / 64) ::
      digit (c.toNat % 64) :: encode rest

/-- Padding is allowed in the last group only, and the bits it stands for are zero. -/
def decode : List UInt8 → Option (List UInt8)
  | [] => some []
  | w :: x :: y :: z :: rest => do
    let w ← value w
    let x ← value x
    let a := UInt8.ofNat (w * 4 + x / 16)
    if y = PAD ∧ z = PAD ∧ rest = [] then
      if x % 16 = 0 then some [a] else none
    else
      let y ← value y
      let b := UInt8.ofNat (x % 16 * 16 + y / 4)
      if z = PAD ∧ rest = [] then
        if y % 4 = 0 then some [a,b] else none
      else
        let z ← value z
        let more ← decode rest
        some (a :: b :: UInt8.ofNat (y % 4 * 64 + z) :: more)
  | _ => none

theorem value_digit : ∀ v < 64, value (digit v) = some v := by decide

theorem digit_not_pad : ∀ v < 64, digit v ≠ PAD := by decide

private theorem byte_of {n : Nat} (a : UInt8) (same : n = a.toNat) : UInt8.ofNat n = a := by
  rw [same,UInt8.ofNat_toNat]

theorem decode_encode (bytes : List UInt8) : decode (encode bytes) = some bytes := by
  fun_induction encode bytes with
  | case1 => rfl
  | case2 a =>
    have small := a.toNat_lt
    rw [decode]
    simp only [value_digit (a.toNat / 4) (by omega),value_digit (a.toNat % 4 * 16) (by omega),Option.bind_eq_bind,
      Option.bind_some,and_self,if_true]
    rw [if_pos (by omega),byte_of a (by omega)]
  | case3 a b =>
    have small := a.toNat_lt
    have small' := b.toNat_lt
    rw [decode]
    simp only [value_digit (a.toNat / 4) (by omega),value_digit (a.toNat % 4 * 16 + b.toNat / 16) (by omega),
      value_digit (b.toNat % 16 * 4) (by omega),digit_not_pad (b.toNat % 16 * 4) (by omega),Option.bind_eq_bind,
      Option.bind_some,and_self,if_true,false_and,if_false]
    rw [if_pos (by omega),byte_of a (by omega),byte_of b (by omega)]
  | case4 a b c rest ih =>
    have small := a.toNat_lt
    have small' := b.toNat_lt
    have small'' := c.toNat_lt
    rw [decode]
    simp only [value_digit (a.toNat / 4) (by omega),value_digit (a.toNat % 4 * 16 + b.toNat / 16) (by omega),
      value_digit (b.toNat % 16 * 4 + c.toNat / 64) (by omega),value_digit (c.toNat % 64) (by omega),
      digit_not_pad (b.toNat % 16 * 4 + c.toNat / 64) (by omega),digit_not_pad (c.toNat % 64) (by omega),ih,
      Option.bind_eq_bind,Option.bind_some,false_and,if_false]
    rw [byte_of a (by omega),byte_of b (by omega),byte_of c (by omega)]

/-- The text is of letters, digits, '+', '/' and '='. -/
theorem encode_alphabet (bytes : List UInt8) : ∀ b ∈ encode bytes, (value b).isSome ∨ b = PAD := by
  have known {v : Nat} (small : v < 64) : (value (digit v)).isSome ∨ digit v = PAD := .inl (by simp [value_digit v small])
  fun_induction encode bytes with
  | case1 => simp
  | case2 a =>
    have small := a.toNat_lt
    simp [known (show a.toNat / 4 < 64 by omega),known (show a.toNat % 4 * 16 < 64 by omega)]
  | case3 a b =>
    have small := a.toNat_lt
    have small' := b.toNat_lt
    simp [known (show a.toNat / 4 < 64 by omega),known (show a.toNat % 4 * 16 + b.toNat / 16 < 64 by omega),
      known (show b.toNat % 16 * 4 < 64 by omega)]
  | case4 a b c rest ih =>
    have small := a.toNat_lt
    have small' := b.toNat_lt
    have small'' := c.toNat_lt
    simpa [known (show a.toNat / 4 < 64 by omega),known (show a.toNat % 4 * 16 + b.toNat / 16 < 64 by omega),
      known (show b.toNat % 16 * 4 + c.toNat / 64 < 64 by omega),known (show c.toNat % 64 < 64 by omega)] using ih

end Base64Text
