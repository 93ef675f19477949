import Mathlib.Data.List.Basic
import Mathlib.Tactic.Common

/-!
Lossy decoding of UTF-8, one byte at a time: well-formed sequences become their
character, and each maximal ill-formed sequence becomes one U+FFFD. Decoding
what `encode` produced gives the text back (`lossy_encode`).
-/
namespace Utf8

def encode (text : List Char) : List UInt8 := text.flatMap String.utf8EncodeChar

def replacement : Char := Char.ofNat 0xFFFD

/-- Where the decoder stands between bytes: before a character, or inside one
    with `need` more bytes after the next, which must lie from `low` to `high`,
    and the bits `acc` read so far. -/
inductive State
  | Start
  | Inside (need low high acc : Nat)

/-- The first byte of a character: what it completes, and the state after it. -/
def first (b : Nat) : List Char × State :=
  if b < 0x80 then ([Char.ofNat b],.Start)
  else if 0xC2 ≤ b ∧ b ≤ 0xDF then ([],.Inside 0 0x80 0xBF (b - 0xC0))
  else if b = 0xE0 then ([],.Inside 1 0xA0 0xBF (b - 0xE0))
  else if b = 0xED then ([],.Inside 1 0x80 0x9F (b - 0xE0))
  else if 0xE1 ≤ b ∧ b ≤ 0xEF then ([],.Inside 1 0x80 0xBF (b - 0xE0))
  else if b = 0xF0 then ([],.Inside 2 0x90 0xBF (b - 0xF0))
  else if 0xF1 ≤ b ∧ b ≤ 0xF3 then ([],.Inside 2 0x80 0xBF (b - 0xF0))
  else if b = 0xF4 then ([],.Inside 2 0x80 0x8F (b - 0xF0))
  else ([replacement],.Start)

/-- One byte. A byte that cannot continue the character ends it and is read
    again as a first byte. -/
def step : State → Nat → List Char × State
  | .Start, b => first b
  | .Inside need low high acc, b =>
    if low ≤ b ∧ b ≤ high then
      match need with
      | 0 => ([Char.ofNat (acc * 64 + (b - 0x80))],.Start)
      | more + 1 => ([],.Inside more 0x80 0xBF (acc * 64 + (b - 0x80)))
    else (replacement :: (first b).1,(first b).2)

/-- Decoding from a state; a character cut off by the end is ill-formed. -/
def lossyFrom : State → List UInt8 → List Char
  | .Start, [] => []
  | .Inside _ _ _ _, [] => [replacement]
  | state, b :: rest => (step state b.toNat).1 ++ lossyFrom (step state b.toNat).2 rest

def lossy (bytes : List UInt8) : List Char := lossyFrom .Start bytes

@[simp] theorem encode_nil : encode [] = [] := rfl

@[simp] theorem encode_cons (c : Char) (text : List Char) :
    encode (c :: text) = String.utf8EncodeChar c ++ encode text := rfl

@[simp] theorem encode_append (left right : List Char) : encode (left ++ right) = encode left ++ encode right := by
  simp [encode]

theorem lossyFrom_cons (state : State) (b : UInt8) (rest : List UInt8) :
    lossyFrom state (b :: rest) = (step state b.toNat).1 ++ lossyFrom (step state b.toNat).2 rest := by
  cases state <;> rfl

private theorem lossyFrom_ofNat (state : State) {n : Nat} (fits : n < 256) (rest : List UInt8) :
    lossyFrom state (UInt8.ofNat n :: rest) = (step state n).1 ++ lossyFrom (step state n).2 rest := by
  have value : (UInt8.ofNat n).toNat = n := by simp [UInt8.toNat_ofNat']; omega
  rw [lossyFrom_cons,value]

private theorem char_range (c : Char) : c.toNat < 0xD800 ∨ 0xDFFF < c.toNat ∧ c.toNat < 0x110000 := by
  have valid := c.valid
  simpa [UInt32.isValidChar,Nat.isValidChar] using valid

private theorem lead_three (lead second : Nat) (low : 0xE0 ≤ lead) (high : lead ≤ 0xEF)
    (tail : 0x80 ≤ second ∧ second ≤ 0xBF) (short : lead = 0xE0 → 0xA0 ≤ second)
    (surrogate : lead = 0xED → second ≤ 0x9F) :
    (first lead).1 = [] ∧
      step (first lead).2 second = ([],.Inside 0 0x80 0xBF ((lead - 0xE0) * 64 + (second - 0x80))) := by
  have notAscii : ¬ lead < 0x80 := by omega
  have notTwo : ¬ (0xC2 ≤ lead ∧ lead ≤ 0xDF) := by omega
  by_cases e0 : lead = 0xE0
  · have range : 0xA0 ≤ second ∧ second ≤ 0xBF := ⟨short e0,tail.2⟩
    simp [first,e0,step,range]
  · by_cases ed : lead = 0xED
    · have range : 0x80 ≤ second ∧ second ≤ 0x9F := ⟨tail.1,surrogate ed⟩
      simp [first,ed,step,range]
    · have range : 0xE1 ≤ lead ∧ lead ≤ 0xEF := by omega
      simp [first,notAscii,notTwo,e0,ed,range,step,tail]

private theorem lead_four (lead second : Nat) (low : 0xF0 ≤ lead) (high : lead ≤ 0xF4)
    (tail : 0x80 ≤ second ∧ second ≤ 0xBF) (short : lead = 0xF0 → 0x90 ≤ second)
    (large : lead = 0xF4 → second ≤ 0x8F) :
    (first lead).1 = [] ∧
      step (first lead).2 second = ([],.Inside 1 0x80 0xBF ((lead - 0xF0) * 64 + (second - 0x80))) := by
  have notAscii : ¬ lead < 0x80 := by omega
  have notTwo : ¬ (0xC2 ≤ lead ∧ lead ≤ 0xDF) := by omega
  have notThree : ¬ (0xE1 ≤ lead ∧ lead ≤ 0xEF) := by omega
  have notE0 : ¬ lead = 0xE0 := by omega
  have notEd : ¬ lead = 0xED := by omega
  by_cases f0 : lead = 0xF0
  · have range : 0x90 ≤ second ∧ second ≤ 0xBF := ⟨short f0,tail.2⟩
    simp [first,f0,step,range]
  · by_cases f4 : lead = 0xF4
    · have range : 0x80 ≤ second ∧ second ≤ 0x8F := ⟨tail.1,large f4⟩
      simp [first,f4,step,range]
    · have range : 0xF1 ≤ lead ∧ lead ≤ 0xF3 := by omega
      simp [first,notAscii,notTwo,notThree,notE0,notEd,f0,range,step,tail]

/-- The bytes of one character decode to it, whatever follows. -/
theorem lossy_char (c : Char) (rest : List UInt8) :
    lossyFrom .Start (String.utf8EncodeChar c ++ rest) = c :: lossyFrom .Start rest := by
  have range := char_range c
  have back : Char.ofNat c.toNat = c := Char.ofNat_toNat c
  obtain ⟨v,vIs⟩ : ∃ v, c.toNat = v := ⟨_,rfl⟩
  have vIs' : c.val.toNat = v := vIs
  rw [vIs] at range back
  unfold String.utf8EncodeChar
  simp only [vIs']
  split
  · have ascii : v < 0x80 := by omega
    rw [List.cons_append,List.nil_append,lossyFrom_ofNat _ (by omega)]
    simp [step,first,ascii,back]
  · split
    · rename_i big small
      have lead : 0xC2 ≤ v / 64 % 32 + 0xC0 ∧ v / 64 % 32 + 0xC0 ≤ 0xDF := by omega
      have notAscii : ¬ v / 64 % 32 + 0xC0 < 0x80 := by omega
      have tail : 0x80 ≤ v % 64 + 0x80 ∧ v % 64 + 0x80 ≤ 0xBF := by omega
      have value : (v / 64 % 32 + 0xC0 - 0xC0) * 64 + (v % 64 + 0x80 - 0x80) = v := by omega
      simp only [List.cons_append,List.nil_append]
      rw [lossyFrom_ofNat _ (by omega)]
      simp only [step,first,notAscii,lead,if_false,if_true,and_self,List.nil_append]
      rw [lossyFrom_ofNat _ (by omega)]
      simp only [step,tail,and_self,if_true,value,back,List.cons_append,List.nil_append]
    · split
      · obtain ⟨none,inside⟩ := lead_three (v / 4096 % 16 + 0xE0) (v / 64 % 64 + 0x80)
          (by omega) (by omega) (by omega) (by omega) (by omega)
        have tail : 0x80 ≤ v % 64 + 0x80 ∧ v % 64 + 0x80 ≤ 0xBF := by omega
        have value : ((v / 4096 % 16 + 0xE0 - 0xE0) * 64 + (v / 64 % 64 + 0x80 - 0x80)) * 64 +
            (v % 64 + 0x80 - 0x80) = v := by omega
        simp only [List.cons_append,List.nil_append]
        rw [lossyFrom_ofNat _ (by omega),lossyFrom_ofNat _ (by omega),lossyFrom_ofNat _ (by omega)]
        simp only [step] at none inside ⊢
        simp only [none,inside,tail,and_self,if_true,value,back,List.cons_append,List.nil_append]
      · obtain ⟨none,inside⟩ := lead_four (v / 262144 % 8 + 0xF0) (v / 4096 % 64 + 0x80)
          (by omega) (by omega) (by omega) (by omega) (by omega)
        have third : 0x80 ≤ v / 64 % 64 + 0x80 ∧ v / 64 % 64 + 0x80 ≤ 0xBF := by omega
        have tail : 0x80 ≤ v % 64 + 0x80 ∧ v % 64 + 0x80 ≤ 0xBF := by omega
        have value : (((v / 262144 % 8 + 0xF0 - 0xF0) * 64 + (v / 4096 % 64 + 0x80 - 0x80)) * 64 +
            (v / 64 % 64 + 0x80 - 0x80)) * 64 + (v % 64 + 0x80 - 0x80) = v := by omega
        simp only [List.cons_append,List.nil_append]
        rw [lossyFrom_ofNat _ (by omega),lossyFrom_ofNat _ (by omega),lossyFrom_ofNat _ (by omega),
          lossyFrom_ofNat _ (by omega)]
        simp only [step] at none inside ⊢
        simp only [none,inside,third,tail,and_self,if_true,value,back,List.cons_append,List.nil_append]

theorem lossy_encode (text : List Char) : lossy (encode text) = text := by
  have all : ∀ text, lossyFrom .Start (encode text) = text := by
    intro text
    induction text with
    | nil => rfl
    | cons c text ih => rw [encode_cons,lossy_char,ih]
  exact all text

theorem encode_injective : Function.Injective encode := Function.LeftInverse.injective lossy_encode

end Utf8
