import PostGraph.Framing

/-!
One reply line, written by the session and read by the client. A line break in the
message ends the line early, and a message that is empty loses the hyphen of a reply
that is to be continued.
-/
namespace PostGraph
open Session
set_option autoImplicit false

/-- What a client makes of a reply line: a code of three digits, and unless the line
    ends there a space or a hyphen and the text. -/
def read_reply (bytes : Bytes) : Option Response := do
  let line ← strip_suffix CRLF bytes
  let text := from_utf8_lossy line
  let digits := text.take 3
  if OneLine text ∧ digits.length = 3 ∧ digits.all Char.isDigit then
    let code := Nat.ofDigitChars 10 digits 0
    match text.drop 3 with
    | [] => some ⟨code,[],false⟩
    | ' ' :: message => some ⟨code,message,false⟩
    | '-' :: message => some ⟨code,message,true⟩
    | _ => none
  else none

/-- One line: the only line break is the CRLF at its end. -/
def SingleLine (bytes : Bytes) : Prop := ∃ content, bytes = content ++ CRLF ∧ CR ∉ content ∧ LF ∉ content

section
variable {text message : Text} {response : Response}

theorem mem_encode {c : Char} (small : c.toNat < 0x80) (member : c ∈ text) : UInt8.ofNat c.toNat ∈ Utf8.encode text := by
  refine List.mem_flatMap.mpr ⟨c,member,?_⟩
  have short : c.val.toNat ≤ 127 := Nat.le_of_lt_succ small
  unfold String.utf8EncodeChar
  simp only [short,if_true]
  exact List.mem_singleton.mpr rfl

theorem singleLine_iff : SingleLine (reply_bytes response) ↔ OneLine response.line := by
  constructor
  · rintro ⟨content,same,unreturned,unbroken⟩
    obtain rfl : Utf8.encode response.line = content := List.append_cancel_right same
    exact ⟨fun member => unreturned (mem_encode (by decide) member),fun member => unbroken (mem_encode (by decide) member)⟩
  · intro single
    exact ⟨Utf8.encode response.line,rfl,single.encoded⟩

theorem oneLine_line : OneLine response.line ↔ OneLine response.message := by
  have delimiter : OneLine (if response.message = [] then [] else if response.has_next then ['-'] else [' ']) := by
    split_ifs <;> decide
  simp only [Response.line,oneLine_append,oneLine_decimal,delimiter,true_and]

theorem decimal_length {code : Nat} (low : 100 ≤ code) (high : code < 1000) : (decimal code).length = 3 := by
  have short : (decimal code).length ≤ 3 := (Nat.length_toDigits_le_iff (by omega) (by omega)).mpr high
  have long : ¬ (decimal code).length ≤ 2 := by
    intro shorter
    have small : code < 10 ^ 2 := (Nat.length_toDigits_le_iff (by omega) (by omega)).mp shorter
    omega
  omega

theorem decimal_digits (code : Nat) : (decimal code).all Char.isDigit = true := by
  rw [List.all_eq_true]
  intro c member
  exact Nat.isDigit_of_mem_toDigits (by decide) (by decide) member

/-- A message of one line is read back, but an empty one always as the last line. -/
theorem read_reply_bytes (low : 100 ≤ response.code) (high : response.code < 1000) (single : OneLine response.message) :
    read_reply (reply_bytes response) =
      some { response with has_next := if response.message = [] then false else response.has_next } := by
  have line : OneLine response.line := oneLine_line.mpr single
  have code : response.line.take 3 = decimal response.code := by
    rw [Response.line,List.append_assoc]
    exact List.take_left' (decimal_length low high)
  have rest : response.line.drop 3 =
      (if response.message = [] then [] else if response.has_next then ['-'] else [' ']) ++ response.message := by
    rw [Response.line,List.append_assoc]
    exact List.drop_left' (decimal_length low high)
  have value : Nat.ofDigitChars 10 (decimal response.code) 0 = response.code := Nat.ofDigitChars_ten_toDigits
  have written : strip_suffix CRLF (reply_bytes response) = some (Utf8.encode response.line) := strip_suffix_append CRLF
  have decoded : from_utf8_lossy (Utf8.encode response.line) = response.line := Utf8.lossy_encode _
  simp only [read_reply,written,Option.bind_eq_bind,Option.bind_some,decoded,code,rest,value,line,decimal_digits,
    decimal_length low high,and_self,if_true]
  by_cases empty : response.message = []
  · simp [empty]
  · cases response.has_next <;> simp [empty]

/-- A reply is written as one line that is read back as the reply, exactly if its
    message has no line break, and is not empty where the reply is continued. -/
theorem reply_read_iff (response : Response) (low : 100 ≤ response.code) (high : response.code < 1000) :
    SingleLine (reply_bytes response) ∧ read_reply (reply_bytes response) = some response ↔
      OneLine response.message ∧ (response.message = [] → response.has_next = false) := by
  rw [singleLine_iff,oneLine_line]
  refine and_congr_right fun single => ?_
  rw [read_reply_bytes low high single]
  constructor
  · intro same empty
    have flag := congrArg Response.has_next (Option.some.inj same)
    simpa [empty] using flag.symm
  · intro final
    by_cases empty : response.message = []
    · cases response
      simp_all
    · simp [empty]

theorem reply_read_sample : SingleLine (reply_bytes OK) ∧ read_reply (reply_bytes OK) = some OK :=
  (reply_read_iff OK (by decide) (by decide)).mpr ⟨by decide,by simp [OK,Response.fixed]⟩

end

section
attribute [local instance] Sample.argon2 Sample.base64

/-- A session of a server with an empty name. -/
def sampleNameless : Session ProxyHandler ProxyEffect :=
  .new (.new_plain (Sample.sends "EHLO x\r\n") none) { Sample.config .None with server_name := [] }

/-- The greeting of a server without a name is read as the whole reply, and a handler's
    error that holds a line break as more than one line. -/
theorem reply_line_misread : .Reply (.new_continued 250 []) ∈ (Programs.final (handle 1 sampleNameless)).trace ∧
    read_reply (reply_bytes (.new_continued 250 [])) = some (.new 250 []) ∧
    ¬ SingleLine (reply_bytes (MAIL_HANDLER_ERROR.extend "x\r\n250 2.0.0 Mail accepted".toList)) := by
  refine ⟨by decide +kernel,by decide +kernel,?_⟩
  rw [singleLine_iff,oneLine_line]
  decide +kernel

end
end PostGraph
