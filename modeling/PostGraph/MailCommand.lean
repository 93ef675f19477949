import PostGraph.Proxy
import PostGraph.Turns

/-!
The MAIL command of a client that uses the extensions of the EHLO reply. The
parameters are not split off the mailbox, so the sender is the mailbox exactly if
there are none (and no blank at an end of the mailbox).
-/
namespace PostGraph
open Std.Do Programs Session
set_option mvcgen.warning false
set_option autoImplicit false

/-- A mailbox as it stands between '<' and '>'. -/
structure Mailbox where
  text : Text
  nonempty : text ≠ []
  plain : ∀ c ∈ text, c ∉ [' ','\r','\n','<','>']

/-- The parameters of MAIL that belong to the extensions SIZE and 8BITMIME. -/
inductive MailParameter
  | Size (first : Fin 10) (others : List (Fin 10))
  | Body (eight : Bool)

def MailParameter.text : MailParameter → Text
  | Size first others => "SIZE=".toList ++ (first :: others).map fun (digit : Fin 10) => Nat.digitChar digit
  | Body true => "BODY=8BITMIME".toList
  | Body false => "BODY=7BIT".toList

/-- What stands after FROM: and blanks. -/
def mail_argument (mailbox : Mailbox) (parameters : List MailParameter) : Text :=
  '<' :: (mailbox.text ++ '>' :: parameters.flatMap fun parameter => ' ' :: parameter.text)

def mail_line (verb keyword : Bytes) (blanks : Text) (mailbox : Mailbox) (parameters : List MailParameter) : Bytes :=
  verb ++ SPACE :: (keyword ++ Utf8.encode (blanks ++ mail_argument mailbox parameters)) ++ CRLF

/-! ### Parsing -/

theorem split_none_or_once_append {before : Bytes} {delimiter : UInt8} (absent : delimiter ∉ before) (after : Bytes) :
    split_none_or_once (before ++ delimiter :: after) delimiter = (before,some after) := by
  have found : (before ++ delimiter :: after).findIdx? (· == delimiter) = some before.length :=
    memchr_append absent after
  simp only [split_none_or_once,found]
  rw [List.take_left' rfl,List.append_cons,List.drop_left' (by simp)]

theorem strip_prefix_case_insensitive_append {keyword start : Bytes} (same : to_ascii_uppercase keyword = start)
    (upper_start : start.map upper = start) (rest : Bytes) :
    strip_prefix_case_insensitive (keyword ++ rest) start = some rest := by
  have lengths : keyword.length = start.length := by rw [← same]; simp [to_ascii_uppercase]
  have equal : (keyword.zip start).all (fun pair => eq_ignore_ascii_case pair.1 pair.2) = true := by
    subst same
    clear lengths
    induction keyword with
    | nil => rfl
    | cons b keyword ih =>
      obtain ⟨head,tail⟩ : upper (upper b) = upper b ∧ (keyword.map upper).map upper = keyword.map upper := by
        simpa [to_ascii_uppercase] using upper_start
      have later := ih (by simpa [to_ascii_uppercase] using tail)
      simp only [to_ascii_uppercase,List.map_cons,List.zip_cons_cons,List.all_cons,eq_ignore_ascii_case] at later ⊢
      simp [head,later]
  unfold strip_prefix_case_insensitive
  rw [if_neg (by simp [lengths]),← lengths,List.take_left' rfl,if_pos equal,List.drop_left' rfl]

theorem strip_line_end_crlf (line : Bytes) : strip_line_end (line ++ CRLF) = line := by
  simp [strip_line_end]

/-- A MAIL command is parsed to its argument, without blanks around it. -/
theorem parse_mail {verb keyword : Bytes} (text : Text) (mail : to_ascii_uppercase verb = ascii "MAIL")
    (sender : to_ascii_uppercase keyword = ascii "FROM:") :
    Command.parse (verb ++ SPACE :: (keyword ++ Utf8.encode text) ++ CRLF) = .ok (.Mail (trim text)) := by
  have absent : SPACE ∉ verb := by
    intro member
    have mapped : upper SPACE ∈ to_ascii_uppercase verb := List.mem_map_of_mem member
    rw [mail] at mapped
    exact absurd mapped (by decide)
  have stripped := strip_prefix_case_insensitive_append sender (by decide) (Utf8.encode text)
  unfold Command.parse
  rw [strip_line_end_crlf,split_none_or_once_append absent]
  simp only [mail,stripped,Option.bind_some,from_utf8_lossy,Utf8.lossy_encode]
  rfl

/-! ### The sender -/

theorem digitChar_plain : ∀ digit : Fin 10, is_whitespace (Nat.digitChar digit) = false ∧ Nat.digitChar digit ≠ '>' ∧
    Nat.digitChar digit ≠ '\n' := by
  decide

theorem MailParameter.text_size (first : Fin 10) (others : List (Fin 10)) : (Size first others).text =
    "SIZE=".toList ++ (first :: others).map fun (digit : Fin 10) => Nat.digitChar digit := rfl

/-- A parameter ends with a letter or a digit. -/
theorem MailParameter.text_last (parameter : MailParameter) :
    ∃ c, parameter.text.getLast? = some c ∧ is_whitespace c = false ∧ c ≠ '>' := by
  cases parameter with
  | Size first others =>
    obtain ⟨front,last,split⟩ := (List.eq_nil_or_concat (first :: others)).resolve_left (by simp)
    refine ⟨Nat.digitChar last,?_,(digitChar_plain last).1,(digitChar_plain last).2.1⟩
    rw [text_size,split,List.concat_eq_append,List.map_append,← List.append_assoc]
    exact List.getLast?_concat
  | Body eight =>
    cases eight with
    | true => exact ⟨'E',by decide +kernel,by decide,by decide⟩
    | false => exact ⟨'T',by decide +kernel,by decide,by decide⟩

theorem MailParameter.text_line (parameter : MailParameter) : '\n' ∉ parameter.text := by
  cases parameter with
  | Size first others =>
    simp only [text_size,List.mem_append,List.mem_map,not_or,not_exists,not_and]
    exact ⟨by decide,fun digit _ => (digitChar_plain digit).2.2⟩
  | Body eight => cases eight <;> decide +kernel

variable (mailbox : Mailbox) (parameters : List MailParameter)

theorem mail_argument_last : ∃ c, (mail_argument mailbox parameters).getLast? = some c ∧ is_whitespace c = false ∧
    (parameters ≠ [] → c ≠ '>') := by
  rcases List.eq_nil_or_concat parameters with rfl | ⟨front,last,rfl⟩
  · have split : mail_argument mailbox [] = ('<' :: mailbox.text) ++ ['>'] := rfl
    exact ⟨'>',by rw [split]; exact List.getLast?_concat,by decide,by simp⟩
  · obtain ⟨c,ends,solid,other⟩ := last.text_last
    refine ⟨c,?_,solid,fun _ => other⟩
    obtain ⟨lead,split⟩ := List.getLast?_eq_some_iff.mp ends
    have whole : mail_argument mailbox (front.concat last) = '<' :: (mailbox.text ++ '>' ::
        ((front.flatMap fun parameter => ' ' :: parameter.text) ++ ' ' :: lead)) ++ [c] := by
      simp [mail_argument,split]
    rw [whole]
    exact List.getLast?_concat

theorem trim_mail_argument (blanks : Text) (blank : ∀ c ∈ blanks, c = ' ' ∨ c = '\t') :
    trim (blanks ++ mail_argument mailbox parameters) = mail_argument mailbox parameters := by
  obtain ⟨c,ends,solid,-⟩ := mail_argument_last mailbox parameters
  refine trimBy_lead ?_ (by simp [mail_argument]; decide) (by simpa [ends] using solid)
  intro c member
  rcases blank c member with rfl | rfl <;> decide

/-- The sender is the mailbox if there is nothing to keep it from it. -/
theorem normalize_mail_argument : normalize_address (mail_argument mailbox parameters) = mailbox.text ↔
    parameters = [] ∧ trim mailbox.text = mailbox.text := by
  obtain ⟨c,ends,solid,other⟩ := mail_argument_last mailbox parameters
  have trimmed := trim_mail_argument mailbox parameters [] (by simp)
  have opened : strip_prefix ['<'] (mail_argument mailbox parameters) =
      some (mailbox.text ++ '>' :: parameters.flatMap fun parameter => ' ' :: parameter.text) :=
    strip_prefix_append ['<']
  rw [List.nil_append] at trimmed
  simp only [normalize_address,trimmed,opened,Option.getD_some]
  by_cases none : parameters = []
  · subst none
    have closed : strip_suffix ['>'] (mailbox.text ++ ['>']) = some mailbox.text := strip_suffix_append ['>']
    simp [closed]
  · refine iff_of_false ?_ (fun both => none both.1)
    have last : (mailbox.text ++ '>' :: parameters.flatMap fun parameter => ' ' :: parameter.text).getLast? = some c := by
      rw [← ends,mail_argument,List.getLast?_cons_of_ne_nil (by simp)]
    rw [strip_suffix_other last (by simpa using other none) (by simp),Option.getD_none]
    intro same
    have kept : '>' ∈ mailbox.text := same ▸ mem_trimBy (by simp) (by decide)
    exact mailbox.plain '>' kept (by simp)

theorem mail_line_isLine {verb keyword : Bytes} {blanks : Text} (mail : to_ascii_uppercase verb = ascii "MAIL")
    (sender : to_ascii_uppercase keyword = ascii "FROM:") (blank : ∀ c ∈ blanks, c = ' ' ∨ c = '\t') :
    IsLine (mail_line verb keyword blanks mailbox parameters) := by
  have unmarked {word start : Bytes} (same : to_ascii_uppercase word = start) (absent : LF ∉ start) : LF ∉ word := by
    intro member
    exact absent (same ▸ List.mem_map_of_mem (f := upper) member)
  have text : '\n' ∉ blanks ++ mail_argument mailbox parameters := by
    simp only [mail_argument,List.mem_append,List.mem_cons,List.mem_flatMap,not_or,not_exists,not_and]
    refine ⟨fun member => ?_,by decide,fun member => mailbox.plain _ member (by simp),by decide,?_⟩
    · rcases blank _ member with same | same <;> simp at same
    · exact fun parameter _ => ⟨by decide,parameter.text_line⟩
  refine ⟨verb ++ SPACE :: (keyword ++ Utf8.encode (blanks ++ mail_argument mailbox parameters)) ++ [CR],
    by simp [mail_line],?_⟩
  simp only [List.mem_append,List.mem_cons,not_or]
  exact ⟨⟨unmarked mail (by decide),by decide,unmarked sender (by decide),
      fun member => text (mem_encode_ascii (by decide) member)⟩,
    by decide⟩

section
variable {H Effect : Type}

/-- MAIL of a client that is greeted and authenticated opens an envelope. -/
theorem handle_mail_opens (sender : Text) :
    ⦃fun (t : Session H Effect) => ⌜t.state.phase = .Greeted ∧ t.is_authenticated = true⌝⦄ handle_mail sender
    ⦃post⟨fun _ t => ⌜t.state.phase = .Envelope ∧ t.state.current_mail = Mail.empty.set_sender sender⌝,
      fun _ t => ⌜t.state.phase = .Envelope ∧ t.state.current_mail = Mail.empty.set_sender sender⌝⟩⦄ := by
  have replied (t u : Session H Effect) (events : List (Event Effect)) (did : Did t events u) : u.state = t.state :=
    congrArg View.state did.2
  unfold handle_mail
  mvcgen [reply_spec]
  case vc5 _ _ _ _ _ u =>
    intro did
    rw [replied _ u _ did]
    exact ⟨rfl,rfl⟩
  case vc6 _ _ _ _ _ u =>
    intro did
    rw [replied _ u _ did]
    exact ⟨rfl,rfl⟩
  all_goals simp_all [SessionState.in_phase]

variable [Handler H Effect] [Base64]

theorem handle_line_command {s : Session H Effect} {line : Bytes} {command : Command} (phase : s.state.phase ≠ .Data)
    (parsed : Command.parse line = .ok command) :
    handle_line line s = handle_command command { s with trace := s.trace ++ [Event.Parse line] } := by
  have command : s.state.in_phase .Data = false := by simp [SessionState.in_phase,phase]
  simp only [handle_line,bind,EStateM.bind,run_get,command,Bool.false_eq_true,if_false,
    log,run_modify,parsed]

theorem handle_line_mail {s : Session H Effect} {line : Bytes} {sender : Text} (greeted : s.state.phase = .Greeted)
    (authenticated : s.is_authenticated = true) (parsed : Command.parse line = .ok (.Mail sender)) :
    (final (handle_line line s)).state.phase = .Envelope ∧
      (final (handle_line line s)).state.current_mail = Mail.empty.set_sender sender := by
  rw [handle_line_command (by simp [greeted]) parsed]
  have opens := ends_of_triple (handle_mail_opens sender) (s := { s with trace := s.trace ++ [Event.Parse line] })
    ⟨greeted,authenticated⟩
  simp only [handle_command,bind,EStateM.bind]
  cases ran : handle_mail sender { s with trace := s.trace ++ [Event.Parse line] } with
  | ok _ t =>
    rw [ran] at opens
    exact opens
  | error err t =>
    rw [ran] at opens
    exact opens

/-- A line sets the sender: an envelope is opened with it. -/
def SetsSender (s : Session H Effect) (sender : Text) : Prop :=
  (final (turn s)).state.phase = .Envelope ∧ (final (turn s)).state.current_mail.sender = sender

instance (s : Session H Effect) (sender : Text) : Decidable (SetsSender s sender) :=
  inferInstanceAs (Decidable (_ ∧ _))

/-- A MAIL command that a greeted and authenticated client sends sets the sender to
    the mailbox exactly if it has no parameters, no white space at an end of the
    mailbox, and no more bytes than a line may have. -/
theorem mail_sets_sender_iff (s : Session H Effect) (verb keyword rest : Bytes) (blanks : Text)
    (mail : to_ascii_uppercase verb = ascii "MAIL") (sender : to_ascii_uppercase keyword = ascii "FROM:")
    (blank : ∀ c ∈ blanks, c = ' ' ∨ c = '\t') (greeted : s.state.phase = .Greeted)
    (authenticated : s.is_authenticated = true)
    (sent : s.pending = mail_line verb keyword blanks mailbox parameters ++ rest) :
    SetsSender s mailbox.text ↔ parameters = [] ∧ trim mailbox.text = mailbox.text ∧
      (mail_line verb keyword blanks mailbox parameters).length ≤ MAX_LINE_LENGTH := by
  have whole := mail_line_isLine mailbox parameters mail sender blank
  by_cases short : (mail_line verb keyword blanks mailbox parameters).length ≤ MAX_LINE_LENGTH
  · obtain ⟨r,read,⟨-,view⟩,-⟩ := read_line_complete sent whole short
    have state : r.state = s.state := congrArg View.state view
    have passed : r.is_authenticated = true := by rw [← is_authenticated_view,view,is_authenticated_view,authenticated]
    have parsed : Command.parse (mail_line verb keyword blanks mailbox parameters) =
        .ok (.Mail (mail_argument mailbox parameters)) := by
      rw [← trim_mail_argument mailbox parameters blanks blank]
      exact parse_mail _ mail sender
    obtain ⟨opened,current⟩ := handle_line_mail (state ▸ greeted) passed parsed
    rw [SetsSender,turn_eq read,current]
    simpa [opened,short,Mail.set_sender] using normalize_mail_argument mailbox parameters
  · refine iff_of_false ?_ (fun all => short all.2.2)
    have unread (line : Bytes) (t : Session H Effect) : read_line s ≠ .ok (some line) t := by
      intro read
      obtain ⟨complete,fits,split⟩ := read_line_sound read
      obtain ⟨rfl,-⟩ := complete.unique whole (split.symm.trans sent)
      exact short fits
    obtain ⟨err,t,turned,-,view⟩ := turn_silent unread
    rintro ⟨opened,-⟩
    have state : t.state = s.state := congrArg View.state view
    simp [turned,final,state,greeted] at opened

end

section
attribute [local instance] Sample.argon2 Sample.base64

/-- A session in which "a" has logged in after EHLO, with the given text to come. -/
def sampleGreeted (text : String) : Session ProxyHandler ProxyEffect :=
  final (Session.handle 2 (.new (.new_plain (Sample.sends ("EHLO x\r\nAUTH PLAIN AGEAYg==\r\n" ++ text)) none)
    (Sample.config .Always)))

def sampleMailbox : Mailbox := ⟨"a".toList,by decide,by
  intro c member
  obtain rfl : c = 'a' := by simpa using member
  simp⟩

/-- The size that EHLO asks for gets into the sender. -/
theorem mail_keeps_parameters : .Reply (.new 250 "SIZE 1000".toList) ∈ (sampleGreeted "MAIL FROM:<a> SIZE=4\r\n").trace ∧
    (sampleGreeted "MAIL FROM:<a> SIZE=4\r\n").state.phase = .Greeted ∧
    (sampleGreeted "MAIL FROM:<a> SIZE=4\r\n").is_authenticated = true ∧
    (sampleGreeted "MAIL FROM:<a> SIZE=4\r\n").pending =
      mail_line (ascii "MAIL") (ascii "FROM:") [] sampleMailbox [.Size 4 []] ++ [] ∧
    (final (turn (sampleGreeted "MAIL FROM:<a> SIZE=4\r\n"))).state.current_mail.sender = "a> SIZE=4".toList ∧
    ¬ SetsSender (sampleGreeted "MAIL FROM:<a> SIZE=4\r\n") sampleMailbox.text := by
  decide +kernel

theorem mail_sets_sender_sample : SetsSender (sampleGreeted "mail From:  <a>\r\n") sampleMailbox.text :=
  (mail_sets_sender_iff sampleMailbox [] (sampleGreeted "mail From:  <a>\r\n") (ascii "mail") (ascii "From:") []
    "  ".toList (by decide) (by decide) (by simp) (by decide +kernel) (by decide +kernel) (by decide +kernel)).mpr
    ⟨rfl,by decide,by decide +kernel⟩

end
end PostGraph
