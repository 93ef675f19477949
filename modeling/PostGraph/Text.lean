import PostGraph.Lib.Utf8

/-!
Bytes and texts as the program handles them: the functions of `str`, `[u8]` and
`memchr` that the parsers call. A `String` is the list of its characters, which
Lean and Rust both take to be the Unicode scalar values.
-/
namespace PostGraph

abbrev Bytes := List UInt8
abbrev Text := List Char

/-- The bytes of an ASCII literal `b"..."`. -/
def ascii (literal : String) : Bytes := literal.toList.map fun c => UInt8.ofNat c.toNat

abbrev LF : UInt8 := 10
abbrev CR : UInt8 := 13
abbrev SPACE : UInt8 := 32
abbrev DOT : UInt8 := 46
abbrev CRLF : Bytes := [CR,LF]

/-- `char::is_whitespace`, the Unicode property White_Space. -/
def is_whitespace (c : Char) : Bool :=
  let n := c.toNat
  (9 ≤ n && n ≤ 13) || n == 0x20 || n == 0x85 || n == 0xA0 || n == 0x1680 || (0x2000 ≤ n && n ≤ 0x200A) ||
    n == 0x2028 || n == 0x2029 || n == 0x202F || n == 0x205F || n == 0x3000

/-- What is left when `drop` is stripped from both ends. -/
def trimBy {α : Type} (drop : α → Bool) (xs : List α) : List α :=
  ((xs.dropWhile drop).reverse.dropWhile drop).reverse

def trim (t : Text) : Text := trimBy is_whitespace t

/-- `u8::is_ascii_whitespace`, which `[u8]::trim_ascii` strips. -/
def is_ascii_whitespace (b : UInt8) : Bool := b == 9 || b == 10 || b == 12 || b == 13 || b == 32
def trim_ascii (bytes : Bytes) : Bytes := trimBy is_ascii_whitespace bytes

def strip_prefix {α : Type} [DecidableEq α] (start xs : List α) : Option (List α) :=
  if start <+: xs then some (xs.drop start.length) else none
def strip_suffix {α : Type} [DecidableEq α] (ending xs : List α) : Option (List α) :=
  if ending <:+ xs then some (xs.take (xs.length - ending.length)) else none

/-- `u8::to_ascii_uppercase` -/
def upper (b : UInt8) : UInt8 := if 97 ≤ b ∧ b ≤ 122 then b - 32 else b
def to_ascii_uppercase (bytes : Bytes) : Bytes := bytes.map upper
def eq_ignore_ascii_case (a b : UInt8) : Bool := upper a == upper b

/-- `String::from_utf8_lossy` -/
def from_utf8_lossy (bytes : Bytes) : Text := Utf8.lossy bytes

def memchr (needle : UInt8) (haystack : Bytes) : Option Nat := haystack.findIdx? (· == needle)

/-- `{}` of an unsigned number. -/
def decimal (n : Nat) : Text := Nat.toDigits 10 n

/-- The standard engine of the `base64` crate. -/
class Base64 where
  encode : Bytes → Bytes
  decode : Bytes → Option Bytes

section
variable {α : Type} {drop : α → Bool} {xs ws : List α}

theorem dropWhile_fixed (first : ∀ x ∈ xs.head?, drop x = false) : xs.dropWhile drop = xs := by
  cases xs with
  | nil => rfl
  | cons x rest => simp [first x (by simp)]

theorem trimBy_lead (lead : ∀ w ∈ ws, drop w = true) (first : ∀ x ∈ xs.head?, drop x = false)
    (last : ∀ x ∈ xs.getLast?, drop x = false) : trimBy drop (ws ++ xs) = xs := by
  have skipped : (ws ++ xs).dropWhile drop = xs := by
    rw [List.dropWhile_append_of_pos lead,dropWhile_fixed first]
  rw [trimBy,skipped,dropWhile_fixed (by simpa using last),List.reverse_reverse]

theorem trimBy_fixed (first : ∀ x ∈ xs.head?, drop x = false) (last : ∀ x ∈ xs.getLast?, drop x = false) :
    trimBy drop xs = xs := by
  have lead : ∀ w ∈ ([] : List α), drop w = true := by simp
  exact trimBy_lead lead first last

/-- What has nothing to be stripped comes out of the blanks around it. -/
theorem trimBy_between {ws' : List α} (lead : ∀ w ∈ ws, drop w = true) (kept : ∀ x ∈ xs, drop x = false)
    (trail : ∀ w ∈ ws', drop w = true) : trimBy drop (ws ++ xs ++ ws') = xs := by
  rw [trimBy,List.append_assoc,List.dropWhile_append_of_pos lead]
  cases xs with
  | nil =>
    have none : ws'.dropWhile drop = [] := by
      rw [← List.append_nil ws',List.dropWhile_append_of_pos trail]
      rfl
    simp [none]
  | cons x rest =>
    have front : (x :: rest ++ ws').dropWhile drop = x :: rest ++ ws' := dropWhile_fixed (by simpa using kept x)
    rw [front,List.reverse_append,List.dropWhile_append_of_pos (by simpa using trail),dropWhile_fixed,
      List.reverse_reverse]
    intro y last
    exact kept y (List.mem_reverse.mp (List.mem_of_mem_head? last))

theorem trimBy_ends (drop : α → Bool) (xs : List α) :
    (∀ x ∈ (trimBy drop xs).head?, drop x = false) ∧ ∀ x ∈ (trimBy drop xs).getLast?, drop x = false := by
  constructor
  · intro x begins
    obtain ⟨rest,split⟩ : trimBy drop xs <+: xs.dropWhile drop := by
      rw [trimBy,← List.reverse_suffix,List.reverse_reverse]
      exact List.dropWhile_suffix drop
    have kept := List.head?_dropWhile_not drop xs
    rw [← split,List.head?_append,Option.mem_def.mp begins] at kept
    exact kept
  · intro x ends
    rw [trimBy,List.getLast?_reverse] at ends
    have kept := List.head?_dropWhile_not drop (xs.dropWhile drop).reverse
    rw [Option.mem_def.mp ends] at kept
    exact kept

/-- What was stripped has nothing left to be stripped. -/
theorem trimBy_trimBy (drop : α → Bool) (xs : List α) : trimBy drop (trimBy drop xs) = trimBy drop xs :=
  trimBy_fixed (trimBy_ends drop xs).1 (trimBy_ends drop xs).2

private theorem filter_dropWhile (drop : α → Bool) (xs : List α) :
    (xs.dropWhile drop).filter (!drop ·) = xs.filter (!drop ·) := by
  induction xs with
  | nil => rfl
  | cons x rest ih => cases dropped : drop x <;> simp [dropped,ih]

/-- Stripping takes nothing but what is to be stripped. -/
theorem filter_trimBy (drop : α → Bool) (xs : List α) :
    (trimBy drop xs).filter (!drop ·) = xs.filter (!drop ·) := by
  rw [trimBy,List.filter_reverse,filter_dropWhile,List.filter_reverse,List.reverse_reverse,filter_dropWhile]

theorem trimBy_eq_nil : trimBy drop xs = [] ↔ xs.filter (!drop ·) = [] := by
  rw [← filter_trimBy]
  constructor
  · intro none
    rw [none,List.filter_nil]
  · intro none
    cases left : trimBy drop xs with
    | nil => rfl
    | cons x rest =>
      have kept := (trimBy_ends drop xs).1 x (by simp [left])
      simp [left,kept] at none

private theorem mem_dropWhile {x : α} (member : x ∈ xs) (kept : drop x = false) : x ∈ xs.dropWhile drop := by
  induction xs with
  | nil => simp at member
  | cons y rest ih =>
    rw [List.dropWhile_cons]
    split
    · rename_i dropped
      rcases List.mem_cons.mp member with rfl | later
      · simp [kept] at dropped
      · exact ih later
    · exact member

/-- What is not to be stripped stays. -/
theorem mem_trimBy {x : α} (member : x ∈ xs) (kept : drop x = false) : x ∈ trimBy drop xs := by
  rw [trimBy,List.mem_reverse]
  exact mem_dropWhile (List.mem_reverse.mpr (mem_dropWhile member kept)) kept

variable [DecidableEq α]

@[simp] theorem strip_prefix_append (start : List α) : strip_prefix start (start ++ xs) = some xs := by
  unfold strip_prefix
  simp

theorem strip_prefix_cons (x y : α) : strip_prefix [x] (y :: xs) = if x = y then some xs else none := by
  unfold strip_prefix
  simp

@[simp] theorem strip_suffix_append (ending : List α) : strip_suffix ending (xs ++ ending) = some xs := by
  simp [strip_suffix]

theorem strip_suffix_other {ending : List α} {x : α} (last : xs.getLast? = some x) (other : x ∉ ending)
    (some : ending ≠ []) : strip_suffix ending xs = none := by
  unfold strip_suffix
  rw [if_neg]
  rintro ⟨front,rfl⟩
  obtain ⟨lead,y,rfl⟩ := (List.eq_nil_or_concat ending).resolve_left some
  obtain rfl : y = x := by simpa [List.concat_eq_append,← List.append_assoc] using last
  simp at other

end

/-- The first byte that is the needle, with nothing equal to it before. -/
theorem memchr_append {needle : UInt8} {before : Bytes} (absent : needle ∉ before) (rest : Bytes) :
    memchr needle (before ++ needle :: rest) = some before.length := by
  induction before with
  | nil => simp [memchr,List.findIdx?_cons]
  | cons b before ih =>
    obtain ⟨other,later⟩ : needle ≠ b ∧ needle ∉ before := by simpa using absent
    have step := ih later
    simp only [memchr,List.cons_append,List.findIdx?_cons,List.length_cons] at step ⊢
    simp [step,Ne.symm other]

theorem memchr_absent {needle : UInt8} {haystack : Bytes} (absent : needle ∉ haystack) :
    memchr needle haystack = none := by
  simp only [memchr,List.findIdx?_eq_none_iff,beq_eq_false_iff_ne]
  rintro b member rfl
  exact absent member

/-! ### Encoded texts -/

/-- A byte of the encoding below 0x80 is an ASCII character of the text. -/
theorem mem_encode_ascii {text : Text} {b : UInt8} (small : b.toNat < 0x80) (member : b ∈ Utf8.encode text) :
    Char.ofNat b.toNat ∈ text := by
  obtain ⟨c,present,byte⟩ := List.mem_flatMap.mp member
  have code : b.toNat = c.val.toNat := by
    unfold String.utf8EncodeChar at byte
    simp only at byte
    split_ifs at byte <;> simp only [List.mem_cons,List.not_mem_nil,or_false] at byte
    · rw [byte,UInt8.toNat_ofNat']
      omega
    · rcases byte with rfl | rfl <;> rw [UInt8.toNat_ofNat'] at small <;> omega
    · rcases byte with rfl | rfl | rfl <;> rw [UInt8.toNat_ofNat'] at small <;> omega
    · rcases byte with rfl | rfl | rfl | rfl <;> rw [UInt8.toNat_ofNat'] at small <;> omega
  have same : Char.ofNat b.toNat = c := by rw [code]; exact Char.ofNat_toNat c
  exact same ▸ present

end PostGraph
