import PostGraph.Lib.Traces
import PostGraph.Turns

/-!
The mails that a session hands to its handler, judged by the trace alone: the
sender is that of the last MAIL command that was accepted, the recipients those of
the RCPT commands since, and the data what was received since the last 354 reply.
Nothing of an earlier, reset or refused transaction gets into a mail.
-/
namespace PostGraph
open Traces Programs Session
set_option autoImplicit false

variable {H Effect : Type}

/-- The command of a line, if it is answered 250 at once. -/
def answered (line : Bytes) : List (Event Effect) → List Command
  | .Reply response :: _ => if response.code = 250 then (Command.parse line).toOption.toList else []
  | _ => []

/-- The commands that were answered 250 at once, in order. -/
def accepted : List (Event Effect) → List Command
  | [] => []
  | .Parse line :: rest => answered line rest ++ accepted rest
  | _ :: rest => accepted rest

def recipients (commands : List Command) : List Text :=
  commands.filterMap fun
    | .Recipient recipient => some (normalize_address recipient)
    | _ => none

/-- RSET and an upgrade start the session over. -/
def Restarts : Event Effect → Prop
  | .TlsStarted => True
  | .Parse line => Command.parse line = .ok .Reset
  | _ => False

/-- HELO / EHLO was accepted, and the session did not start over since. -/
def Welcomed (past : List (Event Effect)) : Prop :=
  ∃ before domain extended after, past = before ++ Event.OnHello domain extended (.ok .Ok) :: after ∧
    ∀ e ∈ after, ¬ Restarts e

/-- Sender and recipients are those of the last MAIL command answered 250 and of
    the RCPT commands answered 250 since; no mail was handed over since, and the
    session did not start over. -/
def Enveloped (past : List (Event Effect)) (mail : Mail) : Prop :=
  ∃ before line response sender after, past = before ++ Event.Parse line :: .Reply response :: after ∧
    response.code = 250 ∧ Command.parse line = .ok (.Mail sender) ∧ (∀ other, .Mail other ∉ accepted after) ∧
    (∀ e ∈ after, ¬ Restarts e ∧ ∀ mail result, e ≠ .OnMail mail result) ∧
    mail.sender = normalize_address sender ∧ mail.recipients = recipients (accepted after)

/-- The data is that of the lines received since the last 354 reply. -/
def Captured (past : List (Event Effect)) (data : Bytes) : Prop :=
  ∃ before response, ∃ lines : List Bytes, past = before ++ Event.Reply response :: lines.map .Received ∧ response.code = 354 ∧
    (∀ line ∈ lines, is_data_end line = false) ∧ data = (lines.map unstuff).flatten

/-- The last line received ends the data of the mail. -/
def Delivered (past : List (Event Effect)) (mail : Mail) : Prop :=
  ∃ before last, ∃ effects : List Effect, past = before ++ Event.Received last :: effects.map .Effect ∧ is_data_end last = true ∧
    Welcomed before ∧ Enveloped before mail ∧ Captured before mail.data

/-- What is handed over is the mail of the transaction that was just completed. -/
def HandsOver (past : List (Event Effect)) : Event Effect → Prop
  | .OnMail mail _ => Delivered past mail
  | _ => True

def reply_of : Event Effect → Option Response
  | .Reply response => some response
  | _ => none

/-- The last reply is a 354: lines are captured as data. -/
def Capturing (past : List (Event Effect)) : Prop :=
  ∃ response ∈ (past.filterMap reply_of).getLast?, response.code = 354

/-- Every end of data leads to a call of `on_mail`, before anything else but
    effects of that call. -/
def Answers (trace : List (Event Effect)) : Prop :=
  ∀ past line rest, trace = past ++ Event.Received line :: rest → Capturing past → is_data_end line = true →
    ∃ (effects : List Effect) (mail : Mail) (result : Except Text Unit) (later : List (Event Effect)),
      rest = effects.map .Effect ++ Event.OnMail mail result :: later

/-- Mails are handed over at the ends of data, and only there. -/
def Settled (trace : List (Event Effect)) : Prop := Always HandsOver trace ∧ Answers trace

/-! ### Reading a longer trace -/

section
variable {past t u events : List (Event Effect)} {line : Bytes} {mail : Mail}

theorem accepted_received : accepted (t ++ Event.Received line :: u) = accepted t ++ accepted u := by
  induction t with
  | nil => rfl
  | cons e rest ih =>
    cases e with
    | Parse parsed =>
      have same : answered parsed (rest ++ Event.Received line :: u) = answered parsed rest := by
        cases rest with
        | nil => rfl
        | cons next _ => cases next <;> rfl
      simp [accepted,same,ih]
    | _ => simpa [accepted] using ih

/-- Without a line that is parsed no command is accepted. -/
theorem accepted_none (unparsed : ∀ parsed, .Parse parsed ∉ events) : accepted events = [] := by
  induction events with
  | nil => rfl
  | cons e rest ih =>
    have later := ih fun parsed member => unparsed parsed (by simp [member])
    cases e with
    | Parse parsed => exact absurd (by simp) (unparsed parsed)
    | _ => simpa [accepted] using later

/-- Only the command that is parsed can be accepted. -/
theorem accepted_parse {command other : Command} (parsed : Command.parse line = .ok command)
    (unparsed : ∀ parsed, .Parse parsed ∉ events) (member : other ∈ accepted (.Parse line :: events)) :
    other = command := by
  rw [accepted,accepted_none unparsed,List.append_nil] at member
  unfold answered at member
  split at member
  · split_ifs at member
    · simpa [parsed,Except.toOption] using member
    · simp at member
  · simp at member

theorem accepted_refused (unparsed : ∀ parsed, .Parse parsed ∉ events)
    (codes : ∀ response, .Reply response ∈ events → response.code ≠ 250) : accepted (.Parse line :: events) = [] := by
  rw [accepted,accepted_none unparsed,List.append_nil]
  unfold answered
  split
  · exact if_neg (codes _ (by simp))
  · rfl

theorem capturing_snoc (response : Response) : Capturing (t ++ [Event.Reply response]) ↔ response.code = 354 := by
  simp [Capturing,reply_of]

theorem capturing_silent (silent : ∀ e ∈ u, reply_of e = none) : Capturing (t ++ u) ↔ Capturing t := by
  rw [Capturing,List.filterMap_append,List.filterMap_eq_nil_iff.mpr silent,List.append_nil]
  rfl

/-- Replies other than 354 do not start the capture. -/
theorem not_capturing (idle : ¬ Capturing t) (codes : ∀ response, .Reply response ∈ u → response.code ≠ 354) :
    ¬ Capturing (t ++ u) := by
  rintro ⟨response,last,code⟩
  rw [List.filterMap_append,List.getLast?_append] at last
  cases replied : (u.filterMap reply_of).getLast? with
  | none => exact idle ⟨response,by simpa [replied] using last,code⟩
  | some reply =>
    obtain rfl : reply = response := by simpa [replied] using last
    obtain ⟨e,member,same⟩ := List.mem_filterMap.mp (List.mem_of_getLast? replied)
    cases e with
    | Reply _ =>
      obtain rfl := Option.some.inj same
      exact codes _ member code
    | _ => simp [reply_of] at same

theorem Welcomed.later (welcomed : Welcomed past) (lasting : ∀ e ∈ events, ¬ Restarts e) :
    Welcomed (past ++ events) := by
  obtain ⟨before,domain,extended,after,split,quiet⟩ := welcomed
  refine ⟨before,domain,extended,after ++ events,by simp [split],?_⟩
  intro e member
  exact (List.mem_append.mp member).elim (quiet e) (lasting e)

/-- A line and what it leads to add the recipients that were accepted. -/
theorem Enveloped.later {mail' : Mail} (enveloped : Enveloped past mail)
    (lasting : ∀ e ∈ events, ¬ Restarts e ∧ ∀ mail result, e ≠ .OnMail mail result)
    (single : ∀ other, .Mail other ∉ accepted events) (sender : mail'.sender = mail.sender)
    (added : mail'.recipients = mail.recipients ++ recipients (accepted events)) :
    Enveloped (past ++ Event.Received line :: events) mail' := by
  obtain ⟨before,first,response,from',after,split,code,parsed,last,quiet,same,known⟩ := enveloped
  refine ⟨before,first,response,from',after ++ Event.Received line :: events,by simp [split],code,parsed,?_,?_,?_,?_⟩
  · intro other member
    rw [accepted_received] at member
    exact (List.mem_append.mp member).elim (last other) (single other)
  · intro e member
    rcases List.mem_append.mp member with old | new
    · exact quiet e old
    · rcases List.mem_cons.mp new with rfl | later
      · exact ⟨id,by simp⟩
      · exact lasting e later
  · rw [sender,same]
  · rw [added,known,accepted_received,recipients,recipients,recipients,List.filterMap_append]

theorem Answers.turn (before : Answers past)
    (ended : Capturing past → is_data_end line = true →
      ∃ (effects : List Effect) (mail : Mail) (result : Except Text Unit) (later : List (Event Effect)),
        events = effects.map .Effect ++ Event.OnMail mail result :: later)
    (exchanged : (∀ line, .Received line ∉ events) ∨
      ¬ Capturing past ∧ ∀ response, .Reply response ∈ events → response.code ≠ 354) :
    Answers (past ++ Event.Received line :: events) := by
  intro lead next rest split capturing done
  rcases List.append_eq_append_iff.mp split with ⟨more,leadIs,here⟩ | ⟨more,pastIs,here⟩
  · cases more with
    | nil =>
      obtain ⟨rfl,rfl⟩ : line = next ∧ events = rest := by simpa using here
      exact ended (by simpa [leadIs] using capturing) done
    | cons first others =>
      obtain ⟨rfl,inner⟩ : .Received line = first ∧ events = others ++ Event.Received next :: rest := by simpa using here
      rcases exchanged with none | ⟨idle,codes⟩
      · exact absurd (by simp [inner]) (none next)
      · refine absurd capturing ?_
        rw [leadIs]
        refine not_capturing idle ?_
        intro response member
        exact codes response (by simpa [inner] using Or.inl (by simpa using member))
  · cases more with
    | nil =>
      obtain ⟨rfl,rfl⟩ : next = line ∧ rest = events := by simpa using here
      exact ended (by simpa [pastIs] using capturing) done
    | cons first others =>
      obtain ⟨rfl,restIs⟩ : .Received next = first ∧ rest = others ++ Event.Received line :: events := by simpa using here
      obtain ⟨effects,mail,result,later,found⟩ := before lead next others pastIs capturing done
      exact ⟨effects,mail,result,later ++ Event.Received line :: events,by simp [restIs,found]⟩

end

/-! ### Along a session -/

/-- What the session knows of the transaction, given what happened. -/
structure Transaction (v : View H) (past : List (Event Effect)) : Prop where
  settled : Settled past
  capturing : Capturing past ↔ v.state.phase = .Data
  welcomed : v.state.phase ≠ .Connected → Welcomed past
  enveloped : v.state.phase = .Envelope ∨ v.state.phase = .Data → Enveloped past v.state.current_mail
  fresh : v.state.phase = .Envelope → v.state.current_mail.data = []
  captured : v.state.phase = .Data → Captured past v.state.current_mail.data

/-- Events that leave the transaction as it is. -/
def Ordinary : Event Effect → Prop
  | .Parse line => Command.parse line ≠ .ok .Reset
  | .Reply response => response.code ≠ 354
  | .OnMail _ _ => False
  | .TlsStarted => False
  | _ => True

section
variable {v v' : View H} {past events : List (Event Effect)} {line : Bytes} {e : Event Effect}

theorem Ordinary.lasting (ordinary : Ordinary e) : ¬ Restarts e ∧ ∀ mail result, e ≠ .OnMail mail result := by
  cases e <;> simp_all [Ordinary,Restarts]

theorem ordinary_coded {codes : List Nat} (coded : e.Coded codes) (other : 354 ∉ codes) : Ordinary e := by
  cases coded with
  | reply response code => exact fun same => other (same ▸ code)

theorem coded_unparsed {codes : List Nat} (coded : e.Coded codes) (parsed : Bytes) : e ≠ .Parse parsed := by
  cases coded
  simp

theorem handshake_unparsed (handshake : e.Handshake) (parsed : Bytes) : e ≠ .Parse parsed := by
  cases handshake <;> simp

theorem ordinary_handshake (handshake : e.Handshake) : Ordinary e := by
  cases handshake with
  | received _ => trivial
  | challenge response code => simp [Ordinary,code]

theorem Settled.turn (settled : Settled past) (unmailed : ∀ e ∈ events, ∀ mail result, e ≠ .OnMail mail result)
    (early : Capturing past → is_data_end line = false)
    (exchanged : (∀ line, .Received line ∉ events) ∨
      ¬ Capturing past ∧ ∀ response, .Reply response ∈ events → response.code ≠ 354) :
    Settled (past ++ Event.Received line :: events) := by
  refine ⟨always_quiet settled.1 ?_,settled.2.turn (fun capturing done => ?_) exchanged⟩
  · intro e member before
    rcases List.mem_cons.mp member with rfl | later
    · trivial
    · cases e with
      | OnMail mail result => exact absurd rfl (unmailed _ later mail result)
      | _ => trivial
  · simp [early capturing] at done

/-- Outside the data, ordinary events keep what is known of the transaction. -/
theorem Transaction.ordinary (transaction : Transaction v past) (command : v.state.phase ≠ .Data)
    (ordinary : ∀ e ∈ events, Ordinary e) (commands : ∀ c ∈ accepted events, ∀ a, c ≠ .Mail a ∧ c ≠ .Recipient a)
    (phase : v'.state.phase = v.state.phase) (mail : v'.state.current_mail = v.state.current_mail) :
    Transaction v' (past ++ Event.Received line :: events) := by
  have idle : ¬ Capturing past := fun capturing => command (transaction.capturing.mp capturing)
  have codes : ∀ response, .Reply response ∈ events → response.code ≠ 354 := fun response member => ordinary _ member
  have none : recipients (accepted events) = [] := by
    refine List.filterMap_eq_nil_iff.mpr ?_
    intro c member
    cases c with
    | Recipient recipient => exact absurd rfl (commands _ member recipient).2
    | _ => rfl
  refine ⟨?_,?_,?_,?_,?_,?_⟩
  · exact transaction.settled.turn (fun e member => (ordinary e member).lasting.2) (fun capturing => absurd capturing idle)
      (.inr ⟨idle,codes⟩)
  · rw [phase]
    refine iff_of_false (not_capturing idle ?_) command
    intro response member
    exact codes response (by simpa using member)
  · intro greeted
    refine (transaction.welcomed (phase ▸ greeted)).later ?_
    intro e member
    rcases List.mem_cons.mp member with rfl | later
    · exact id
    · exact (ordinary e later).lasting.1
  · intro inside
    rw [mail]
    exact (transaction.enveloped (phase ▸ inside)).later (fun e member => (ordinary e member).lasting)
      (fun other member => absurd rfl (commands _ member other).1) rfl (by rw [none,List.append_nil])
  · intro envelope
    exact mail ▸ transaction.fresh (phase ▸ envelope)
  · intro data
    exact absurd (phase ▸ data) command

theorem Transaction.handed {mail : Mail} (effects : List Effect) (result : Except Text Unit)
    (replied : List (Event Effect)) (transaction : Transaction v past) (data : v.state.phase = .Data)
    (done : is_data_end line = true)
    (current : v.state.current_mail = mail) (replies : ∀ e ∈ replied, ∃ response, e = .Reply response) :
    Settled (past ++ Event.Received line :: (effects.map .Effect ++ Event.OnMail mail result :: replied)) := by
  have delivered : Delivered (past ++ Event.Received line :: effects.map .Effect) mail :=
    ⟨past,line,effects,rfl,done,transaction.welcomed (by simp [data]),current ▸ transaction.enveloped (.inr data),
      current ▸ transaction.captured data⟩
  have effected : Always HandsOver (past ++ Event.Received line :: effects.map .Effect) :=
    always_quiet transaction.settled.1 (by simp [HandsOver])
  have whole : Always HandsOver (past ++ Event.Received line :: effects.map .Effect ++ [Event.OnMail mail result] ++ replied) := by
    refine always_quiet (always_snoc.mpr ⟨effected,delivered⟩) ?_
    intro e member before
    obtain ⟨response,rfl⟩ := replies e member
    trivial
  refine ⟨by simpa using whole,transaction.settled.2.turn ?_ (.inl ?_)⟩
  · exact fun _ _ => ⟨effects,mail,result,replied,rfl⟩
  · intro next member
    rcases List.mem_append.mp member with effect | called
    · simp at effect
    · obtain ⟨response,same⟩ := replies _ (by simpa using called)
      simp at same

/-! One lemma for each kind of turn -/

theorem Transaction.idle (transaction : Transaction v past) (command : v.state.phase ≠ .Data) : ¬ Capturing past :=
  fun capturing => command (transaction.capturing.mp capturing)

/-- A turn without a call of `on_mail`. -/
theorem Transaction.close (transaction : Transaction v past) (command : v.state.phase ≠ .Data)
    (ordinary : ∀ e ∈ events, Ordinary e) : Settled (past ++ Event.Received line :: events) :=
  transaction.settled.turn (fun e member => (ordinary e member).lasting.2)
    (fun capturing => absurd capturing (transaction.idle command)) (.inr ⟨transaction.idle command,fun _ member => ordinary _ member⟩)

theorem Transaction.capture (transaction : Transaction v past) (data : v.state.phase = .Data) (more : is_data_end line = false) :
    Transaction { v with state.current_mail := v.state.current_mail.append_data (unstuff line) } (past ++ [Event.Received line]) := by
  refine ⟨?_,?_,?_,?_,?_,?_⟩
  · exact transaction.settled.turn (by simp) (fun _ => more) (.inl (by simp))
  · rw [capturing_silent (by simp [reply_of])]
    exact transaction.capturing
  · intro greeted
    exact (transaction.welcomed greeted).later (by simp [Restarts])
  · intro inside
    exact (transaction.enveloped inside).later (by simp) (by simp [accepted]) rfl
      (by simp [accepted,recipients,Mail.append_data])
  · intro envelope
    simp [data] at envelope
  · intro _
    obtain ⟨before,response,lines,split,code,inner,known⟩ := transaction.captured data
    refine ⟨before,response,lines ++ [line],by simp [split],code,?_,by simp [Mail.append_data,known]⟩
    simpa [or_imp,forall_and,more] using inner

theorem Transaction.deliver (transaction : Transaction v past) (handler : H) (effects : List Effect) (result : Except Text Unit)
    (data : v.state.phase = .Data) (done : is_data_end line = true) :
    Transaction { v with config.handler := handler, state.current_mail := .empty, state.phase := .Greeted }
      (past ++ Event.Received line :: (effects.map .Effect ++ [Event.OnMail v.state.current_mail result,.Reply (mail_reply result)])) := by
  have settled := transaction.handed effects result [.Reply (mail_reply result)] data done rfl (by simp)
  have welcomed : Welcomed (past ++ Event.Received line :: (effects.map .Effect ++
      [Event.OnMail v.state.current_mail result,.Reply (mail_reply result)])) :=
    (transaction.welcomed (by simp [data])).later (by simp [or_imp,forall_and,Restarts])
  have code : (mail_reply result).code ≠ 354 := by
    cases result with
    | error err => simp [mail_reply,MAIL_HANDLER_ERROR,Response.fixed]
    | ok _ => simp [mail_reply,MAIL_ACCEPTED,Response.fixed]
  have stopped := (capturing_snoc (t := past ++ Event.Received line :: (effects.map .Effect ++
    [Event.OnMail v.state.current_mail result])) _).not.mpr code
  refine ⟨settled,?_,fun _ => welcomed,by simp,by simp,by simp⟩
  simpa using stopped

theorem Transaction.refuse (transaction : Transaction v past) {handshake : List (Event Effect)} {response : Response}
    (command : v.state.phase ≠ .Data) (other : Command.parse line ≠ .ok .Reset) (exchanged : ∀ e ∈ handshake, e.Handshake)
    (code : 500 ≤ response.code) :
    Transaction v (past ++ Event.Received line :: (Event.Parse line :: handshake ++ [Event.Reply response])) := by
  have exchanges : ∀ e ∈ handshake, Ordinary e := fun e member => ordinary_handshake (exchanged e member)
  have large : response.code ≠ 354 := by omega
  have unaccepted : accepted (Event.Parse line :: (handshake ++ [Event.Reply response])) = [] := by
    apply accepted_refused
    · intro parsed member
      exact handshake_unparsed (exchanged _ (by simpa using member)) parsed rfl
    · intro reply member
      rcases List.mem_append.mp member with inner | last
      · cases exchanged _ inner with
        | challenge _ challenge => omega
      · obtain rfl : reply = response := by simpa using last
        omega
  refine transaction.ordinary command ?_ ?_ rfl rfl
  · simpa [or_imp,forall_and,Ordinary,other,large] using exchanges
  · simp [unaccepted]

theorem Transaction.greet (transaction : Transaction v past) {domain : Text} {extended : Bool} {responses : List (Event Effect)}
    (handler : H) (effects : List Effect) (parsed : Command.parse line = .ok (.Hello domain extended))
    (phase : v.state.phase = .Connected) (codes : ∀ e ∈ responses, e.Coded [250]) :
    Transaction { v with config.handler := handler, state.phase := .Greeted } (past ++ Event.Received line ::
      (Event.Parse line :: effects.map .Effect ++ Event.OnHello domain extended (.ok .Ok) :: responses)) := by
  have command : v.state.phase ≠ .Data := by simp [phase]
  have coded : ∀ e ∈ responses, Ordinary e := fun e member => ordinary_coded (codes e member) (by decide)
  refine ⟨?_,?_,?_,by simp,by simp,by simp⟩
  · exact transaction.close command (by simpa [or_imp,forall_and,Ordinary,parsed] using coded)
  · refine iff_of_false (not_capturing (transaction.idle command) ?_) (by simp)
    intro response member
    exact coded (.Reply response) (by simpa using member)
  · intro _
    refine ⟨past ++ Event.Received line :: .Parse line :: effects.map .Effect,domain,extended,responses,by simp,?_⟩
    intro e member
    exact (coded e member).lasting.1

theorem Transaction.inform (transaction : Transaction v past) {command : Command} {responses : List (Event Effect)}
    (parsed : Command.parse line = .ok command) (which : command = .Help ∨ command = .NoOp) (phase : v.state.phase ≠ .Data)
    (codes : ∀ e ∈ responses, e.Coded [250,214]) :
    Transaction v (past ++ Event.Received line :: .Parse line :: responses) := by
  have coded : ∀ e ∈ responses, Ordinary e := fun e member => ordinary_coded (codes e member) (by decide)
  have other : command ≠ .Reset := by rcases which with rfl | rfl <;> simp
  refine transaction.ordinary phase ?_ ?_ rfl rfl
  · simpa [Ordinary,parsed,other] using coded
  · intro c member a
    obtain rfl := accepted_parse parsed (fun line member => coded_unparsed (codes _ member) line rfl) member
    rcases which with rfl | rfl <;> simp

/-- A session that starts over, by RSET or an upgrade. -/
theorem Transaction.restart (transaction : Transaction v past) (v' : View H) (command : v.state.phase ≠ .Data)
    (unmailed : ∀ e ∈ events, ∀ mail result, e ≠ .OnMail mail result) (unread : ∀ line, .Received line ∉ events)
    (codes : ∀ response, .Reply response ∈ events → response.code ≠ 354) (fresh : v'.state = .new) :
    Transaction v' (past ++ Event.Received line :: events) := by
  have settled : Settled (past ++ Event.Received line :: events) :=
    transaction.settled.turn unmailed (fun capturing => absurd capturing (transaction.idle command)) (.inl unread)
  refine ⟨settled,?_,?_,?_,?_,?_⟩
  · exact iff_of_false (not_capturing (transaction.idle command) (by simpa using codes)) (by simp [fresh,SessionState.new])
  all_goals simp [fresh,SessionState.new]

theorem Transaction.authenticate (transaction : Transaction v past) {method : AuthMethod} {initial : Option Bytes}
    {handshake : List (Event Effect)} {username password : Text} (handler : H) (effects : List Effect)
    (result : Except Text LoginResult) (parsed : Command.parse line = .ok (.Authenticate method initial))
    (phase : v.state.phase = .Greeted) (exchanged : ∀ e ∈ handshake, e.Handshake) :
    Transaction { v with config.handler := handler, state.is_authenticated := true } (past ++ Event.Received line ::
      (Event.Parse line :: handshake ++ (effects.map .Effect ++ [Event.OnLogin username password result,.Reply AUTH_OK]))) := by
  have exchanges : ∀ e ∈ handshake, Ordinary e := fun e member => ordinary_handshake (exchanged e member)
  refine transaction.ordinary (by simp [phase]) ?_ ?_ rfl rfl
  · simpa [or_imp,forall_and,Ordinary,parsed,AUTH_OK,Response.fixed] using exchanges
  · intro c member a
    have unparsed : ∀ line, .Parse line ∉ handshake :=
      fun line inner => handshake_unparsed (exchanged _ inner) line rfl
    rw [List.cons_append] at member
    obtain rfl := accepted_parse parsed (by simpa using unparsed) member
    simp

theorem Transaction.mail {sender : Text} (transaction : Transaction v past) (parsed : Command.parse line = .ok (.Mail sender))
    (phase : v.state.phase = .Greeted) :
    Transaction { v with state.current_mail := Mail.empty.set_sender sender, state.phase := .Envelope }
      (past ++ [Event.Received line,.Parse line,.Reply OK]) := by
  have command : v.state.phase ≠ .Data := by simp [phase]
  refine ⟨?_,?_,?_,?_,fun _ => rfl,by simp⟩
  · exact transaction.close command (by simp [Ordinary,parsed,OK,Response.fixed])
  · exact iff_of_false (not_capturing (transaction.idle command) (by simp [OK,Response.fixed])) (by simp)
  · intro _
    exact (transaction.welcomed (by simp [phase])).later (by simp [Restarts,parsed])
  · intro _
    exact ⟨past ++ [Event.Received line],line,OK,sender,[],by simp,rfl,parsed,by simp [accepted],by simp,rfl,rfl⟩

theorem Transaction.recipient {recipient : Text} (transaction : Transaction v past)
    (parsed : Command.parse line = .ok (.Recipient recipient)) (phase : v.state.phase = .Envelope) :
    Transaction { v with state.current_mail := v.state.current_mail.add_recipient recipient }
      (past ++ [Event.Received line,.Parse line,.Reply OK]) := by
  have command : v.state.phase ≠ .Data := by simp [phase]
  have added : accepted ([.Parse line,.Reply OK] : List (Event Effect)) = [.Recipient recipient] := by
    simp [accepted,answered,parsed,OK,Response.fixed,Except.toOption]
  refine ⟨?_,?_,?_,?_,?_,by simp [phase]⟩
  · exact transaction.close command (by simp [Ordinary,parsed,OK,Response.fixed])
  · exact iff_of_false (not_capturing (transaction.idle command) (by simp [OK,Response.fixed])) command
  · intro greeted
    exact (transaction.welcomed greeted).later (by simp [Restarts,parsed])
  · intro inside
    exact (transaction.enveloped inside).later (by simp [Restarts,parsed]) (by simp [added]) rfl (by rw [added]; rfl)
  · exact transaction.fresh

theorem Transaction.data (transaction : Transaction v past) (parsed : Command.parse line = .ok .Data)
    (phase : v.state.phase = .Envelope) :
    Transaction { v with state.phase := .Data } (past ++ [Event.Received line,.Parse line,.Reply DATA_START]) := by
  have command : v.state.phase ≠ .Data := by simp [phase]
  refine ⟨?_,?_,?_,?_,by simp,?_⟩
  · exact transaction.settled.turn (by simp) (fun capturing => absurd capturing (transaction.idle command)) (.inl (by simp))
  · have started := capturing_snoc (t := past ++ [Event.Received line,.Parse line]) DATA_START
    simpa [DATA_START,Response.fixed] using started
  · intro _
    exact (transaction.welcomed (by simp [phase])).later (by simp [Restarts,parsed])
  · intro _
    refine (transaction.enveloped (.inl phase)).later (by simp [Restarts,parsed]) ?_ rfl ?_
    · simp [accepted,answered,DATA_START,Response.fixed]
    · simp [accepted,answered,DATA_START,Response.fixed,recipients]
  · intro _
    exact ⟨past ++ [Event.Received line,.Parse line],DATA_START,[],by simp,rfl,by simp,transaction.fresh phase⟩

theorem Transaction.drop (transaction : Transaction v past) (quiet : ∀ e ∈ events, e.Quiet)
    (early : v.state.phase = .Data → is_data_end line = false ∧ ∀ line, .Received line ∉ events) :
    Settled (past ++ Event.Received line :: events) := by
  refine transaction.settled.turn ?_ (fun capturing => (early (transaction.capturing.mp capturing)).1) ?_
  · rintro e member mail result rfl
    cases quiet _ member
  · by_cases data : v.state.phase = .Data
    · exact .inl (early data).2
    · refine .inr ⟨transaction.idle data,?_⟩
      intro response member
      cases quiet _ member
      assumption

end

theorem transaction_invariant [Handler H Effect] :
    Invariant (fun (v : View H) (past : List (Event Effect)) => Transaction v past) (Settled) where
  always transaction := transaction.settled
  step := by
    intro v past line events outcome v' transaction step
    have keep {v' : View H} {trace : List (Event Effect)} (known : Transaction v' trace) :
        Settled trace ∧ (Outcome.Continue = .Continue → Transaction v' trace) := ⟨known.settled,fun _ => known⟩
    cases step with
    | captured data more fits => exact keep (transaction.capture data more)
    | delivered called data done ran =>
      exact keep (transaction.deliver called.handler called.effects called.result data done)
    | undelivered called v' data done ran config =>
      exact ⟨transaction.handed called.effects called.result [] data done rfl (by simp),by simp⟩
    | refused handshake response command other exchanged code =>
      exact keep (transaction.refuse command other exchanged code)
    | greeted domain extended called responses parsed phase ran accepted codes =>
      rw [accepted]
      exact keep (transaction.greet called.handler called.effects parsed phase codes)
    | ungreeted domain extended called responses v' parsed phase ran codes config =>
      have coded : ∀ e ∈ responses, Ordinary e := fun e member => ordinary_coded (codes e member) (by decide)
      exact ⟨transaction.close (by simp [phase]) (by simpa [or_imp,forall_and,Ordinary,parsed] using coded),by simp⟩
    | informed command responses parsed which phase codes => exact keep (transaction.inform parsed which phase codes)
    | upgraded parsed phase supported =>
      refine keep (transaction.restart _ (by simp [phase]) (by simp) (by simp) ?_ rfl)
      simp [START_TLS,Response.fixed]
    | authenticated method initial handshake username password called parsed phase permitted exchanged ran accepted =>
      exact keep (transaction.authenticate called.handler called.effects called.result parsed phase exchanged)
    | unauthenticated method initial handshake last username password called v' parsed phase permitted exchanged ran
        answer config =>
      have exchanges : ∀ e ∈ handshake, Ordinary e := fun e member => ordinary_handshake (exchanged e member)
      have ending : ∀ e ∈ last, Ordinary e := by
        rcases answer with rfl | ⟨rfl,-⟩
        · simp
        · simp [Ordinary,AUTH_FAIL,Response.fixed]
      refine ⟨transaction.close (by simp [phase]) ?_,by simp⟩
      simpa [or_imp,forall_and,Ordinary,parsed] using ⟨exchanges,ending⟩
    | mail sender parsed phase authenticated => exact keep (transaction.mail parsed phase)
    | recipient recipient parsed phase authenticated => exact keep (transaction.recipient parsed phase)
    | data parsed phase authenticated => exact keep (transaction.data parsed phase)
    | reset called parsed phase ran =>
      refine keep (transaction.restart _ phase (by simp [or_imp,forall_and]) (by simp) ?_ rfl)
      simp [RESET,Response.fixed]
    | quit parsed phase => exact ⟨transaction.close phase (by simp [Ordinary,parsed,GOODBYE,Response.fixed]),by simp⟩
    | dropped events v' quiet config early => exact ⟨transaction.drop quiet early,by simp⟩

theorem settled_nil : Settled ([] : List (Event Effect)) :=
  ⟨always_nil,fun past line rest split => by simp at split⟩

theorem transaction_init (connection : Connection) (config : SessionConfig H) :
    Transaction (Session.new connection config : Session H Effect).view
      ([.Reply (.banner config.server_name)] : List (Event Effect)) := by
  refine ⟨⟨always_singleton.mpr trivial,?_⟩,?_,?_,?_,?_,?_⟩
  · intro past line rest split
    cases past <;> simp at split
  · exact iff_of_false (by simp [Capturing,reply_of,Response.banner]) (by simp [Session.new,SessionState.new])
  all_goals simp [Session.new,SessionState.new]

/-- In every session, whatever the client sends and however the callbacks go, the
    handler gets a mail at every end of data and at no other time, and the mail is
    the one of the transaction that ends there: its sender from the last MAIL
    command answered 250, its recipients from the RCPT commands answered 250 since,
    its data from the lines received since the last 354 reply. Since the last start
    of the session, by RSET or an upgrade too, HELO / EHLO was accepted. -/
theorem mail_is_of_its_transaction [Base64] [Handler H Effect] (connection : Connection) (config : SessionConfig H)
    (n : Nat) :
    Always HandsOver (final (Session.handle n (.new connection config : Session H Effect))).trace ∧
      Answers (final (Session.handle n (.new connection config : Session H Effect))).trace :=
  handle_always transaction_invariant connection config settled_nil (transaction_init connection config) n

end PostGraph
