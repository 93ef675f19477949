import PostGraph.Text

/-!
SMTP commands and their parser.
-/
namespace PostGraph

inductive AuthMethod
  | Plain
  | Login
  deriving DecidableEq

def AuthMethod.name : AuthMethod → Bytes
  | .Plain => ascii "PLAIN"
  | .Login => ascii "LOGIN"

inductive Command
  | Hello (domain : Text) (extended : Bool)
  | Help
  | StartTls
  | Authenticate (method : AuthMethod) (initial : Option Bytes)
  | Mail (sender : Text)
  | Recipient (recipient : Text)
  | Data
  | Reset
  | NoOp
  | Quit
  deriving DecidableEq

def strip_prefix_case_insensitive (input start : Bytes) : Option Bytes :=
  if input.length < start.length then none
  else if (input.take start.length).zip start |>.all fun (a,b) => eq_ignore_ascii_case a b then
    some (input.drop start.length)
  else none

/-- Split the input at the first delimiter; without one, all of it comes first. -/
def split_none_or_once (input : Bytes) (delimiter : UInt8) : Bytes × Option Bytes :=
  match input.findIdx? (· == delimiter) with
  | some pos => (input.take pos,some (input.drop (pos + 1)))
  | none => (input,none)

def strip_line_end (input : Bytes) : Bytes :=
  (strip_suffix CRLF input <|> strip_suffix [LF] input).getD input

/-- A command that takes no arguments. -/
private def parse_bare (arg : Option Bytes) (command : Command) (err : String) : Except Text Command :=
  if arg.isSome then .error err.toList else .ok command

/-- `Command::parse` on a line; CRLF is stripped, if present. -/
def Command.parse (input : Bytes) : Except Text Command :=
  let (verb,arg) := split_none_or_once (strip_line_end input) SPACE
  let verb := to_ascii_uppercase verb
  if verb = ascii "HELO" then
    match arg with
    | none => .error "HELO requires domain".toList
    | some domain => .ok (.Hello (trim (from_utf8_lossy domain)) false)
  else if verb = ascii "EHLO" then
    match arg with
    | none => .error "HELO requires domain".toList
    | some domain => .ok (.Hello (trim (from_utf8_lossy domain)) true)
  else if verb = ascii "HELP" then .ok .Help
  else if verb = ascii "STARTTLS" then parse_bare arg .StartTls "STARTTLS takes no arguments"
  else if verb = ascii "AUTH" then
    match arg with
    | none => .error "AUTH requires mechanism".toList
    | some arg =>
      let (mechanism,initial) := split_none_or_once arg SPACE
      let mechanism := to_ascii_uppercase mechanism
      if mechanism = ascii "PLAIN" then .ok (.Authenticate .Plain initial)
      else if mechanism = ascii "LOGIN" then .ok (.Authenticate .Login initial)
      else .error "unsupported AUTH mechanism".toList
  else if verb = ascii "MAIL" then
    match arg.bind fun arg => strip_prefix_case_insensitive arg (ascii "FROM:") with
    | none => .error "MAIL requires FROM".toList
    | some sender => .ok (.Mail (trim (from_utf8_lossy sender)))
  else if verb = ascii "RCPT" then
    match arg.bind fun arg => strip_prefix_case_insensitive arg (ascii "TO:") with
    | none => .error "RCPT requires TO".toList
    | some recipient => .ok (.Recipient (trim (from_utf8_lossy recipient)))
  else if verb = ascii "DATA" then parse_bare arg .Data "DATA takes no arguments"
  else if verb = ascii "RSET" then parse_bare arg .Reset "RSET takes no arguments"
  else if verb = ascii "NOOP" then parse_bare arg .NoOp "NOOP takes no arguments"
  else if verb = ascii "QUIT" then parse_bare arg .Quit "QUIT takes no arguments"
  else .error "unrecognized command".toList

/-- What is said of a line that is no command. -/
def parse_errors : List Text :=
  ["HELO requires domain","STARTTLS takes no arguments","AUTH requires mechanism","unsupported AUTH mechanism",
    "MAIL requires FROM","RCPT requires TO","DATA takes no arguments","RSET takes no arguments",
    "NOOP takes no arguments","QUIT takes no arguments","unrecognized command"].map String.toList

/-- The text of a command, if it has one. -/
def Command.text : Command → Option Text
  | Hello domain _ => some domain
  | Mail sender => some sender
  | Recipient recipient => some recipient
  | _ => none

/-- The text of a command has no blanks at its ends. -/
def Command.Trimmed (command : Command) : Prop := ∀ text ∈ command.text, trim text = text

/-- The parser gives no other error than these, and trims the text of a command. -/
private def Sound : Except Text Command → Prop
  | .ok command => command.Trimmed
  | .error err => err ∈ parse_errors

private theorem sound_ite {p : Prop} [Decidable p] {yes no : Except Text Command} (first : Sound yes)
    (later : Sound no) : Sound (if p then yes else no) := by
  split
  · exact first
  · exact later

private theorem sound_trimmed {command : Command} {text : Text} (holds : command.text = some (trim text)) :
    Sound (.ok command) := by
  intro kept present
  obtain rfl : trim text = kept := by simpa [holds] using present
  exact trimBy_trimBy is_whitespace text

private theorem sound_bare {command : Command} (bare : command.text = none) : Sound (.ok command) := by
  intro text present
  simp [bare] at present

private theorem sound_error {err : Text} (known : err ∈ parse_errors) : Sound (.error err) := known

private theorem parse_sound (input : Bytes) : Sound (Command.parse input) := by
  unfold Command.parse parse_bare
  repeat' first
    | refine sound_ite ?_ ?_
    | exact sound_bare rfl
    | exact sound_trimmed rfl
    | exact sound_error (by decide)
    | split

theorem parse_error_known {input : Bytes} {err : Text} (parsed : Command.parse input = .error err) :
    err ∈ parse_errors := by
  have sound := parse_sound input
  rwa [parsed] at sound

theorem parse_trimmed {input : Bytes} {command : Command} (parsed : Command.parse input = .ok command) :
    command.Trimmed := by
  have sound := parse_sound input
  rwa [parsed] at sound

-- The verb is read in any case, the argument as it is.
example : Command.parse (ascii "mail From:<alice@example.com>\r\n") =
    .ok (.Mail "<alice@example.com>".toList) := by decide

end PostGraph
