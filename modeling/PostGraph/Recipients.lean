import PostGraph.Proxy
import PostGraph.Transactions

/-!
The recipients of the mails that are handed to the handler. They are the arguments of the
RCPT commands that were accepted, normalized, and nothing asks that there be one or
that it name somebody; so a mail has proper recipients exactly if the client gave
such arguments.
-/
namespace PostGraph
open Traces Programs Session
set_option autoImplicit false

/-! ### Arguments that name nobody -/

/-- An argument with nothing but blanks, at most one '<' and, behind it, at most one '>'. -/
def Nameless (argument : Text) : Prop :=
  argument.filter (!is_whitespace ·) ∈ [[],['<'],['>'],['<','>']]

instance (argument : Text) : Decidable (Nameless argument) := inferInstanceAs (Decidable (_ ∈ _))

section
variable {x : Char} {t : Text}

/-- A text without the character that opens it. -/
def unopened (x : Char) (t : Text) : Text := strip_prefix [x] t |>.getD t

@[simp] theorem unopened_nil : unopened x [] = [] := rfl

@[simp] theorem unopened_cons (y : Char) : unopened x (y :: t) = if x = y then t else y :: t := by
  rw [unopened,strip_prefix_cons]
  split <;> rfl

/-- A visible character in front of a text is the first that is visible of it. -/
theorem unopened_filter (first : ∀ y ∈ t.head?, is_whitespace y = false) :
    (unopened x t).filter (!is_whitespace ·) = unopened x (t.filter (!is_whitespace ·)) := by
  cases t with
  | nil => rfl
  | cons y rest =>
    have visible := first y rfl
    by_cases same : x = y
    · subst same
      simp [visible]
    · simp [visible,same]

/-- A visible character at the end of a text is the last that is visible of it. -/
theorem strip_suffix_filter (last : ∀ y ∈ t.getLast?, is_whitespace y = false) :
    ((strip_suffix [x] t).getD t).filter (!is_whitespace ·) =
      (strip_suffix [x] (t.filter (!is_whitespace ·))).getD (t.filter (!is_whitespace ·)) := by
  rcases List.eq_nil_or_concat t with rfl | ⟨rest,y,rfl⟩
  · rfl
  · rw [List.concat_eq_append] at last ⊢
    have visible := last y (by simp)
    have kept : (rest ++ [y]).filter (!is_whitespace ·) = rest.filter (!is_whitespace ·) ++ [y] := by simp [visible]
    rw [kept]
    by_cases same : x = y
    · subst same
      rw [strip_suffix_append,strip_suffix_append]
      rfl
    · have other : y ∉ [x] := by simpa using Ne.symm same
      rw [strip_suffix_other (by simp) other (by simp),strip_suffix_other (by simp) other (by simp)]
      exact kept

/-- What is behind the first character ends as before. -/
theorem unopened_getLast {y : Char} (ends : y ∈ (unopened x t).getLast?) : y ∈ t.getLast? := by
  cases t with
  | nil => exact ends
  | cons z rest =>
    by_cases same : x = z
    · subst same
      cases rest with
      | nil => simp at ends
      | cons next others => simpa using ends
    · simpa [same] using ends

theorem strip_suffix_nil : (strip_suffix [x] t).getD t = [] ↔ t = [] ∨ t = [x] := by
  rcases List.eq_nil_or_concat t with rfl | ⟨rest,y,rfl⟩
  · simp [strip_suffix]
  · rw [List.concat_eq_append]
    by_cases same : x = y
    · subst same
      simp
    · have other : y ∉ [x] := by simpa using Ne.symm same
      rw [strip_suffix_other (by simp) other (by simp)]
      refine iff_of_false (by simp) ?_
      rintro (none | one)
      · simp at none
      · have ends := congrArg List.getLast? one
        exact same (by simpa using ends.symm)

end

/-- Normalizing leaves nothing exactly of the arguments that name nobody. -/
theorem normalize_address_nil {argument : Text} : normalize_address argument = [] ↔ Nameless argument := by
  obtain ⟨first,last⟩ := trimBy_ends is_whitespace argument
  unfold normalize_address
  simp only [trim,← unopened.eq_def]
  rw [trimBy_eq_nil,strip_suffix_filter fun y ends => last y (unopened_getLast ends),unopened_filter first,
    filter_trimBy,strip_suffix_nil,Nameless]
  cases argument.filter (!is_whitespace ·) with
  | nil => simp
  | cons y rest =>
    by_cases bracket : '<' = y
    · subst bracket
      simp
    · simp [bracket,Ne.symm bracket]

/-! ### What the client gave -/

def give (arguments : List Text) : Command → List Text
  | .Mail _ => []
  | .Recipient recipient => arguments ++ [recipient]
  | _ => arguments

/-- The arguments of the RCPT commands since the last MAIL command. -/
def given (commands : List Command) : List Text := commands.foldl give []

variable {H Effect : Type}

/-- A mail that is handed over has recipients, and none of them is empty. -/
def Addressed (_ : List (Event Effect)) : Event Effect → Prop
  | .OnMail mail _ => mail.recipients ≠ [] ∧ [] ∉ mail.recipients
  | _ => True

/-- When a mail is handed over, RCPT commands were accepted since the last MAIL command,
    and each of them named somebody. -/
def Named (past : List (Event Effect)) : Event Effect → Prop
  | .OnMail _ _ => given (accepted past) ≠ [] ∧ ∀ argument ∈ given (accepted past), ¬ Nameless argument
  | _ => True

section
variable {past : List (Event Effect)} {mail : Mail} {line : Bytes} {e : Event Effect}

/-- Without a MAIL command the arguments add up. -/
theorem give_later {arguments : List Text} {commands : List Command} (single : ∀ other, .Mail other ∉ commands) :
    (commands.foldl give arguments).map normalize_address =
      arguments.map normalize_address ++ recipients commands := by
  induction commands generalizing arguments with
  | nil => simp [recipients]
  | cons command commands ih =>
    rw [List.foldl_cons,ih fun other member => single other (by simp [member])]
    cases command with
    | Mail other => exact absurd (by simp) (single other)
    | Recipient recipient => simp [give,recipients]
    | _ => simp [give,recipients]

theorem accepted_parsed (t u : List (Event Effect)) :
    accepted (t ++ Event.Parse line :: u) = accepted t ++ accepted (.Parse line :: u) := by
  induction t with
  | nil => rfl
  | cons e rest ih =>
    cases e with
    | Parse parsed =>
      have same : answered parsed (rest ++ Event.Parse line :: u) = answered parsed rest := by
        cases rest with
        | nil => rfl
        | cons next _ => cases next <;> rfl
      simp only [List.cons_append,accepted,same,ih,List.append_assoc]
    | _ => simpa only [List.cons_append,accepted] using ih

/-- The recipients of a mail are what the client gave, normalized. -/
theorem delivered_given (delivered : Delivered past mail) :
    mail.recipients = (given (accepted past)).map normalize_address := by
  obtain ⟨before,last,effects,rfl,-,-,enveloped,-⟩ := delivered
  obtain ⟨start,line,response,sender,after,rfl,code,parsed,single,-,-,known⟩ := enveloped
  have silent : accepted (effects.map Event.Effect) = [] := accepted_none (by simp)
  have opened : accepted (Event.Parse line :: .Reply response :: after) = .Mail sender :: accepted after := by
    simp [accepted,answered,code,parsed,Except.toOption]
  rw [accepted_received,silent,List.append_nil,accepted_parsed,opened,given,List.foldl_append,List.foldl_cons,
    give_later single,known]
  rfl

/-- A mail of a completed transaction is addressed exactly if the client named somebody
    each time, and at least once. -/
theorem addressed_iff_named (hands : HandsOver past e) : Addressed past e ↔ Named past e := by
  cases e with
  | OnMail mail result =>
    have known := delivered_given hands
    rw [Addressed,Named,known]
    refine and_congr (not_congr List.map_eq_nil_iff) ?_
    rw [List.mem_map]
    constructor
    · intro unnamed argument member nameless
      exact unnamed ⟨argument,member,normalize_address_nil.mpr nameless⟩
    · rintro named ⟨argument,member,empty⟩
      exact named argument member (normalize_address_nil.mp empty)
  | _ => exact Iff.rfl

end

/-- In every session, whatever the client sends and however the callbacks go, the mails
    that are handed over have recipients, none of them empty, exactly if RCPT
    commands were accepted for each of them and none had an argument that names
    nobody. -/
theorem recipients_proper_iff [Base64] [Handler H Effect] (connection : Connection) (config : SessionConfig H)
    (n : Nat) :
    Always Addressed (final (Session.handle n (.new connection config : Session H Effect))).trace ↔
      Always Named (final (Session.handle n (.new connection config : Session H Effect))).trace := by
  have settled : Settled (final (Session.handle n (.new connection config : Session H Effect))).trace :=
    handle_always transaction_invariant connection config settled_nil (transaction_init connection config) n
  constructor
  · intro addressed past e rest split
    exact (addressed_iff_named (settled.1 past e rest split)).mp (addressed past e rest split)
  · intro named past e rest split
    exact (addressed_iff_named (settled.1 past e rest split)).mpr (named past e rest split)

section
attribute [local instance] Sample.argon2 Sample.base64

def sampleMailing (recipient : String) : Session ProxyHandler ProxyEffect :=
  .new (.new_plain (Sample.sends ("HELO x\r\nMAIL FROM:<a>\r\n" ++ recipient ++ "DATA\r\nhi\r\n.\r\n")) none)
    (Sample.config .None)

/-- A mail is handed over after no RCPT command, and another one to nobody. -/
theorem mail_without_recipient :
    ¬ Always Addressed (final (Session.handle 6 (sampleMailing ""))).trace ∧
      ¬ Always Addressed (final (Session.handle 7 (sampleMailing "RCPT TO:<>\r\n"))).trace := by
  have missing : Event.OnMail ⟨"a".toList,[],ascii "hi\r\n"⟩ (.ok ()) ∈
      (final (Session.handle 6 (sampleMailing ""))).trace := by decide +kernel
  have empty : Event.OnMail ⟨"a".toList,[[]],ascii "hi\r\n"⟩ (.ok ()) ∈
      (final (Session.handle 7 (sampleMailing "RCPT TO:<>\r\n"))).trace := by decide +kernel
  constructor
  · intro addressed
    obtain ⟨past,rest,split⟩ := List.append_of_mem missing
    exact (addressed past _ rest split).1 rfl
  · intro addressed
    obtain ⟨past,rest,split⟩ := List.append_of_mem empty
    exact (addressed past _ rest split).2 (by simp)

end
end PostGraph
