import PostGraph.Framing
import PostGraph.MailCommand

/-!
SMTP commands as a client writes them. The parser reads back every command that
can be written, whatever the case of its keywords and the end of its line, and
what it accepts it accepts again when it is written out.
-/
namespace PostGraph
set_option autoImplicit false

/-- How keywords are spelled: in any case. -/
structure Spelling where
  spell : Bytes → Bytes
  same : ∀ keyword, to_ascii_uppercase (spell keyword) = to_ascii_uppercase keyword

/-- Keywords as they are. -/
def Spelling.plain : Spelling := ⟨id,fun _ => rfl⟩

namespace Command

/-- A command as its line without the end: the verb, a space and the argument. -/
def render (spelling : Spelling) : Command → Bytes
  | Hello domain extended => spelling.spell (ascii (if extended then "EHLO" else "HELO")) ++ SPACE :: Utf8.encode domain
  | Help => spelling.spell (ascii "HELP")
  | StartTls => spelling.spell (ascii "STARTTLS")
  | Authenticate method initial => spelling.spell (ascii "AUTH") ++ SPACE ::
      (spelling.spell method.name ++ initial.elim [] fun response => SPACE :: response)
  | Mail sender => spelling.spell (ascii "MAIL") ++ SPACE :: (spelling.spell (ascii "FROM:") ++ Utf8.encode sender)
  | Recipient recipient =>
    spelling.spell (ascii "RCPT") ++ SPACE :: (spelling.spell (ascii "TO:") ++ Utf8.encode recipient)
  | Data => spelling.spell (ascii "DATA")
  | Reset => spelling.spell (ascii "RSET")
  | NoOp => spelling.spell (ascii "NOOP")
  | Quit => spelling.spell (ascii "QUIT")

end Command

section
variable {verb keyword line input : Bytes} {spelling : Spelling} {command : Command}

/-- Other bytes than letters are spelled as they are. -/
theorem Spelling.absent {b : UInt8} (fixed : upper b = b) (absent : b ∉ to_ascii_uppercase keyword) :
    b ∉ spelling.spell keyword := by
  intro member
  have mapped : upper b ∈ to_ascii_uppercase (spelling.spell keyword) := List.mem_map_of_mem member
  rw [spelling.same,fixed] at mapped
  exact absent mapped

theorem split_bare (absent : SPACE ∉ line) : split_none_or_once line SPACE = (line,none) := by
  have nowhere : line.findIdx? (· == SPACE) = none := memchr_absent absent
  simp only [split_none_or_once,nowhere]

theorem split_verb (absent : SPACE ∉ to_ascii_uppercase keyword) (arg : Bytes) :
    split_none_or_once (spelling.spell keyword ++ SPACE :: arg) SPACE = (spelling.spell keyword,some arg) :=
  split_none_or_once_append (spelling.absent rfl absent) arg

theorem split_bare_verb (absent : SPACE ∉ to_ascii_uppercase keyword) :
    split_none_or_once (spelling.spell keyword) SPACE = (spelling.spell keyword,none) :=
  split_bare (spelling.absent rfl absent)

/-- The parser on the line of a command, once the line end is stripped. -/
theorem parse_render (trimmed : command.Trimmed) (stripped : strip_line_end input = command.render spelling) :
    Command.parse input = .ok command := by
  unfold Command.parse
  rw [stripped]
  cases command with
  | Hello domain extended =>
    have same : trim domain = domain := trimmed domain rfl
    have verb : SPACE ∉ to_ascii_uppercase (ascii (if extended then "EHLO" else "HELO")) := by cases extended <;> decide
    rw [Command.render,split_verb verb]
    simp only [spelling.same,from_utf8_lossy,Utf8.lossy_encode,same]
    cases extended <;> rfl
  | Authenticate method initial =>
    have name : SPACE ∉ to_ascii_uppercase method.name := by cases method <;> decide
    rw [Command.render,split_verb (by decide)]
    simp only [spelling.same]
    cases initial with
    | none =>
      rw [Option.elim_none,List.append_nil,split_bare_verb name]
      simp only [spelling.same]
      cases method <;> rfl
    | some response =>
      rw [Option.elim_some,split_verb name]
      simp only [spelling.same]
      cases method <;> rfl
  | Mail sender =>
    have same : trim sender = sender := trimmed sender rfl
    have stripped := strip_prefix_case_insensitive_append (spelling.same (ascii "FROM:")) (by decide) (Utf8.encode sender)
    rw [Command.render,split_verb (by decide)]
    simp only [spelling.same,Option.bind_some]
    have keyword : to_ascii_uppercase (ascii "FROM:") = ascii "FROM:" := by decide
    rw [keyword] at stripped
    simp only [stripped,from_utf8_lossy,Utf8.lossy_encode,same]
    rfl
  | Recipient recipient =>
    have same : trim recipient = recipient := trimmed recipient rfl
    have stripped := strip_prefix_case_insensitive_append (spelling.same (ascii "TO:")) (by decide) (Utf8.encode recipient)
    have keyword : to_ascii_uppercase (ascii "TO:") = ascii "TO:" := by decide
    rw [keyword] at stripped
    rw [Command.render,split_verb (by decide)]
    simp only [spelling.same,Option.bind_some,stripped,from_utf8_lossy,Utf8.lossy_encode,same]
    rfl
  | Help | StartTls | Data | Reset | NoOp | Quit =>
    rw [Command.render,split_bare_verb (by decide)]
    simp only [spelling.same]
    rfl

/-! ### Line ends -/

/-- Bytes without line breaks. -/
def Unbroken (bytes : Bytes) : Prop := CR ∉ bytes ∧ LF ∉ bytes

instance (bytes : Bytes) : Decidable (Unbroken bytes) := inferInstanceAs (Decidable (_ ∧ _))

theorem Unbroken.append {left right : Bytes} (first : Unbroken left) (second : Unbroken right) : Unbroken (left ++ right) :=
  ⟨by simp [first.1,second.1],by simp [first.2,second.2]⟩

theorem Unbroken.space (unbroken : Unbroken line) : Unbroken (SPACE :: line) :=
  (by decide : Unbroken [SPACE]).append unbroken

theorem Spelling.unbroken (plain : Unbroken (to_ascii_uppercase keyword)) : Unbroken (spelling.spell keyword) :=
  ⟨spelling.absent rfl plain.1,spelling.absent rfl plain.2⟩

theorem strip_line_end_unbroken {ending : Bytes} (plain : Unbroken line) (known : ending ∈ [CRLF,[LF],[]]) :
    strip_line_end (line ++ ending) = line := by
  have unended : strip_suffix CRLF line = none ∧ strip_suffix [LF] line = none := by
    rcases List.eq_nil_or_concat line with rfl | ⟨front,last,rfl⟩
    · decide
    · have ends : (front.concat last).getLast? = some last := by simp
      have member : last ∈ front.concat last := by simp
      have unreturned : CR ≠ last := fun same => plain.1 (same ▸ member)
      have unbroken : LF ≠ last := fun same => plain.2 (same ▸ member)
      exact ⟨strip_suffix_other ends (by simp [Ne.symm unreturned,Ne.symm unbroken]) (by simp),
        strip_suffix_other ends (by simp [Ne.symm unbroken]) (by simp)⟩
  simp only [List.mem_cons,List.not_mem_nil,or_false] at known
  rcases known with rfl | rfl | rfl
  · exact strip_line_end_crlf line
  · have bare : strip_suffix CRLF (line ++ [LF]) = none := by
      unfold strip_suffix
      rw [if_neg]
      rintro ⟨front,same⟩
      have returned : front ++ [CR] = line := List.append_cancel_right (by simpa using same)
      exact plain.1 (returned ▸ by simp)
    simp [strip_line_end,bare]
  · simp [strip_line_end,unended]

/-- A command that can be sent: its text has no blanks at its ends and no line breaks, and an
    initial response has no line breaks. -/
structure Command.Sendable (command : Command) : Prop where
  ends : ∀ text ∈ command.text, (∀ c ∈ text.head?, is_whitespace c = false) ∧ ∀ c ∈ text.getLast?, is_whitespace c = false
  single : ∀ text ∈ command.text, OneLine text
  response : ∀ method response, command = .Authenticate method (some response) → Unbroken response

theorem Command.Sendable.trimmed (sendable : command.Sendable) : command.Trimmed := by
  intro text present
  obtain ⟨first,last⟩ := sendable.ends text present
  exact trimBy_fixed first last

theorem Command.Sendable.unbroken (sendable : command.Sendable) : Unbroken (command.render spelling) := by
  cases command with
  | Hello domain extended =>
    have verb : Unbroken (to_ascii_uppercase (ascii (if extended then "EHLO" else "HELO"))) := by cases extended <;> decide
    exact (Spelling.unbroken verb).append (Unbroken.space (sendable.single domain rfl).encoded)
  | Authenticate method initial =>
    have name : Unbroken (to_ascii_uppercase method.name) := by cases method <;> decide
    refine (Spelling.unbroken (by decide)).append (Unbroken.space ((Spelling.unbroken name).append ?_))
    cases initial with
    | none => decide
    | some response => exact (sendable.response method response rfl).space
  | Mail sender =>
    exact (Spelling.unbroken (by decide)).append
      ((Spelling.unbroken (by decide)).append (sendable.single sender rfl).encoded).space
  | Recipient recipient =>
    exact (Spelling.unbroken (by decide)).append
      ((Spelling.unbroken (by decide)).append (sendable.single recipient rfl).encoded).space
  | Help | StartTls | Data | Reset | NoOp | Quit => exact Spelling.unbroken (by decide)

/-- However its keywords are spelled and its line ends, a command that is written out is
    parsed as the command. What is parsed from any line, written out with a CRLF, is
    parsed as the same command again. -/
theorem parse_inverts_render (spelling : Spelling) (command : Command) :
    (command.Sendable → ∀ ending ∈ [CRLF,[LF],[]], Command.parse (command.render spelling ++ ending) = .ok command) ∧
    ∀ line, Command.parse line = .ok command → Command.parse (command.render spelling ++ CRLF) = .ok command := by
  constructor
  · intro sendable ending known
    exact parse_render sendable.trimmed (strip_line_end_unbroken sendable.unbroken known)
  · intro line parsed
    exact parse_render (parse_trimmed parsed) (strip_line_end_crlf _)

end

/-- EHLO in mixed case. -/
def sampleSpelling : Spelling where
  spell keyword := if keyword = ascii "EHLO" then ascii "ehLo" else keyword
  same keyword := by
    split
    · next same => rw [same]; decide
    · rfl

theorem parse_inverts_render_sample : Command.parse (ascii "ehLo my host\n") = .ok (.Hello "my host".toList true) ∧
    Command.parse ((Command.Hello "my host".toList true).render .plain ++ CRLF) = .ok (.Hello "my host".toList true) := by
  have sendable : (Command.Hello "my host".toList true).Sendable := by
    refine ⟨?_,?_,by simp⟩
    · intro text present
      obtain rfl : "my host".toList = text := Option.some.inj present
      have first : "my host".toList.head? = some 'm' := by decide
      have last : "my host".toList.getLast? = some 't' := by decide
      rw [first,last]
      constructor
      · rintro _ ⟨⟩
        decide
      · rintro _ ⟨⟩
        decide
    · intro text present
      obtain rfl : "my host".toList = text := Option.some.inj present
      decide
  have rendered : (Command.Hello "my host".toList true).render sampleSpelling ++ [LF] = ascii "ehLo my host\n" := by decide
  have parsed := (parse_inverts_render sampleSpelling _).1 sendable [LF] (by simp)
  rw [rendered] at parsed
  exact ⟨parsed,(parse_inverts_render .plain _).2 _ parsed⟩

end PostGraph
