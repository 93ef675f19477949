import PostGraph.Exchanges
import PostGraph.RoundTrip
import PostGraph.Upgrade

/-!
A client that keeps to the protocol gets its mails through. Its lines may arrive in
any pieces and ahead of the replies; as long as no write fails, every mail is
handed over once, as it was, and in order, and the session ends with QUIT.
-/
namespace PostGraph
open Programs Session
set_option autoImplicit false

section
variable {H Effect : Type}

/-- No write to the client fails. -/
def Unblocked (s : Session H Effect) : Prop := ∀ n, s.Writable n

/-- A line that is read and parsed as a command. -/
structure Spoken (line : Bytes) (command : Command) : Prop where
  complete : IsLine line
  fits : line.length ≤ MAX_LINE_LENGTH
  parsed : Command.parse line = .ok command

/-- A session that has gone on for some turns. -/
structure Goes [Handler H Effect] [Base64] (s : Session H Effect) (turns : Nat) (events : List (Event Effect))
    (t : Session H Effect) : Prop where
  looped : ∀ m, loop (turns + m) s = loop m t
  trace : t.trace = s.trace ++ events
  unblocked : Unblocked t

variable {s t u : Session H Effect} {events later : List (Event Effect)} {line rest : Bytes}

theorem Unblocked.reply (unblocked : Unblocked s) (response : Response) :
    ∃ t, reply response s = .ok () t ∧ Did s [.Reply response] t ∧ t.pending = s.pending ∧ Unblocked t := by
  obtain ⟨t,replied,did,incoming,-⟩ := reply_writable (unblocked 1) response
  refine ⟨t,replied,did,pending_of_incoming incoming,?_⟩
  intro n
  obtain ⟨t',replied',-,-,writable⟩ := reply_writable (unblocked (n + 1)) response
  rw [replied] at replied'
  obtain rfl : t = t' := by simpa using replied'
  exact writable

variable [Handler H Effect] [Base64] {n m : Nat} {command : Command}

theorem Goes.trans (first : Goes s n events t) (second : Goes t m later u) : Goes s (n + m) (events ++ later) u where
  looped k := by rw [Nat.add_assoc,first.looped,second.looped]
  trace := by rw [second.trace,first.trace,List.append_assoc]
  unblocked := second.unblocked

theorem goes_of_turn (turned : turn s = .ok .Continue t) (trace : t.trace = s.trace ++ events)
    (unblocked : Unblocked t) : Goes s 1 events t where
  looped k := by
    rw [Nat.add_comm,loop]
    exact bind_ok turned
  trace := trace
  unblocked := unblocked

/-- A turn of a session whose client says a command. -/
theorem turn_spoken (unblocked : Unblocked s) (spoken : Spoken line command) (phase : s.state.phase ≠ .Data)
    (sent : s.pending = line ++ rest) :
    ∃ r, turn s = handle_command command r ∧ Did s [.Received line,.Parse line] r ∧ r.pending = rest ∧ Unblocked r := by
  obtain ⟨r,reads,left,ran⟩ := turn_reads phase sent spoken.complete spoken.fits spoken.parsed
  have parsing : Did r [.Parse line] { r with trace := r.trace ++ [Event.Parse line] } := ⟨rfl,rfl⟩
  exact ⟨_,ran,reads.did.trans parsing,left,fun n => reads.writable n (unblocked n)⟩

/-- A command that changes the state and is answered with one reply. -/
theorem goes_updating (unblocked : Unblocked s) (spoken : Spoken line command) (phase : s.state.phase ≠ .Data)
    (sent : s.pending = line ++ rest) (f : SessionState → SessionState) (response : Response)
    (runs : ∀ r : Session H Effect, r.view = s.view → handle_command command r = (do
      modify fun s : Session H Effect => { s with state := f s.state }
      reply response
      return .Continue : SessionM H Effect Control) r) :
    ∃ t, Goes s 1 [.Received line,.Parse line,.Reply response] t ∧ t.state = f s.state ∧ t.config = s.config ∧
      t.pending = rest := by
  obtain ⟨r,turned,did,left,open'⟩ := turn_spoken unblocked spoken phase sent
  have state : r.state = s.state := congrArg View.state did.2
  let updated : Session H Effect := { r with state := f r.state }
  obtain ⟨t,replied,did',pending,open''⟩ := Unblocked.reply (s := updated) open' response
  refine ⟨t,goes_of_turn ?_ ?_ open'',?_,?_,pending.trans left⟩
  · rw [turned,runs r did.2]
    exact bind_ok replied
  · simp [did'.1,updated,did.1]
  · have same : t.state = updated.state := congrArg View.state did'.2
    simp [same,updated,state]
  · exact (congrArg View.config did'.2).trans (congrArg View.config did.2)

/-! ### The commands of a mail -/

omit [Handler H Effect] [Base64] in
theorem admitted_of_view {r : Session H Effect} {phase : Phase} (same : r.view = s.view) (here : s.state.phase = phase)
    (authenticated : s.is_authenticated = true) : r.state.in_phase phase = true ∧ r.is_authenticated = true := by
  have state : r.state = s.state := congrArg View.state same
  refine ⟨by simp [SessionState.in_phase,state,here],?_⟩
  rw [← is_authenticated_view,same,is_authenticated_view,authenticated]

theorem goes_mail {sender : Text} (unblocked : Unblocked s) (spoken : Spoken line (.Mail sender))
    (greeted : s.state.phase = .Greeted) (authenticated : s.is_authenticated = true) (sent : s.pending = line ++ rest) :
    ∃ t, Goes s 1 [.Received line,.Parse line,.Reply OK] t ∧
      t.state = { s.state with current_mail := Mail.empty.set_sender sender, phase := .Envelope } ∧
      t.config = s.config ∧ t.pending = rest := by
  refine goes_updating unblocked spoken (by simp [greeted]) sent
    (fun state => { state with current_mail := Mail.empty.set_sender sender, phase := .Envelope }) OK ?_
  intro r same
  obtain ⟨phase,passed⟩ := admitted_of_view same greeted authenticated
  simp only [handle_command,handle_mail,bind,EStateM.bind,run_get,run_modify,phase,passed,Bool.not_true,Bool.false_eq_true,
    if_false]

theorem goes_recipient {recipient : Text} (unblocked : Unblocked s) (spoken : Spoken line (.Recipient recipient))
    (inside : s.state.phase = .Envelope) (authenticated : s.is_authenticated = true) (sent : s.pending = line ++ rest) :
    ∃ t, Goes s 1 [.Received line,.Parse line,.Reply OK] t ∧
      t.state = { s.state with current_mail := s.state.current_mail.add_recipient recipient } ∧
      t.config = s.config ∧ t.pending = rest := by
  refine goes_updating unblocked spoken (by simp [inside]) sent
    (fun state => { state with current_mail := state.current_mail.add_recipient recipient }) OK ?_
  intro r same
  obtain ⟨phase,passed⟩ := admitted_of_view same inside authenticated
  simp only [handle_command,handle_recipient,bind,EStateM.bind,run_get,run_modify,phase,passed,Bool.not_true,
    Bool.false_eq_true,if_false]

theorem goes_data (unblocked : Unblocked s) (spoken : Spoken line .Data) (inside : s.state.phase = .Envelope)
    (authenticated : s.is_authenticated = true) (sent : s.pending = line ++ rest) :
    ∃ t, Goes s 1 [.Received line,.Parse line,.Reply DATA_START] t ∧ t.state = { s.state with phase := .Data } ∧
      t.config = s.config ∧ t.pending = rest := by
  refine goes_updating unblocked spoken (by simp [inside]) sent (fun state => { state with phase := .Data }) DATA_START ?_
  intro r same
  obtain ⟨phase,passed⟩ := admitted_of_view same inside authenticated
  simp only [handle_command,handle_data_command,bind,EStateM.bind,run_get,run_modify,phase,passed,Bool.not_true,
    Bool.false_eq_true,if_false]

/-- An effect of the handler, or the call of it that a mail is for. -/
def is_handover : Event Effect → Bool
  | .Effect _ => true
  | .OnMail _ _ => true
  | _ => false

theorem goes_recipients {lines : List Bytes} {recipients : List Text} (unblocked : Unblocked s)
    (spoken : List.Forall₂ (fun line recipient => Spoken line (.Recipient recipient)) lines recipients)
    (inside : s.state.phase = .Envelope) (authenticated : s.is_authenticated = true)
    (sent : s.pending = lines.flatten ++ rest) :
    ∃ events t, Goes s lines.length events t ∧ events.filter is_handover = [] ∧
      t.state = { s.state with
        current_mail.recipients := s.state.current_mail.recipients ++ recipients.map normalize_address } ∧
      t.config = s.config ∧ t.pending = rest := by
  induction spoken generalizing s with
  | nil => exact ⟨[],s,⟨by simp,by simp,unblocked⟩,rfl,by simp,rfl,by simpa using sent⟩
  | @cons line recipient lines recipients first _ ih =>
    obtain ⟨r,goes,state,config,left⟩ := goes_recipient unblocked first inside authenticated (by simpa using sent)
    have same : r.is_authenticated = s.is_authenticated := by simp [Session.is_authenticated,state,config]
    obtain ⟨events,t,goes',silent,state',config',left'⟩ :=
      ih goes.unblocked (by rw [state]; exact inside) (same.trans authenticated) left
    refine ⟨_,t,Nat.add_comm 1 lines.length ▸ goes.trans goes',?_,?_,config'.trans config,left'⟩
    · simp [silent,is_handover]
    · simp [state',state,Mail.add_recipient]

/-- The end of the data: the mail is handed over, and the session awaits the next one. -/
theorem goes_data_end (unblocked : Unblocked s) (data : s.state.phase = .Data)
    (terminator : line = DOT :: CRLF ∨ line = [DOT,LF]) (sent : s.pending = line ++ rest)
    {called : Called H Effect Unit} (ran : Handler.on_mail s.config.handler s.state.current_mail = called) :
    ∃ t, Goes s 1 (Event.Received line :: (called.effects.map .Effect ++
        [Event.OnMail s.state.current_mail called.result,.Reply (mail_reply called.result)])) t ∧
      t.state = { s.state with current_mail := .empty, phase := .Greeted } ∧
      t.config = { s.config with handler := called.handler } ∧ t.pending = rest := by
  have ends : is_data_end line = true := by rcases terminator with rfl | rfl <;> rfl
  have whole : IsLine line := by
    rcases terminator with rfl | rfl
    · exact ⟨[DOT,CR],rfl,by decide⟩
    · exact ⟨[DOT],rfl,by decide⟩
  have short : line.length ≤ MAX_LINE_LENGTH := by rcases terminator with rfl | rfl <;> decide
  obtain ⟨r,read,did,left⟩ := read_line_complete sent whole short
  have state : r.state = s.state := congrArg View.state did.2
  have config : r.config = s.config := congrArg View.config did.2
  let handed : Session H Effect := { r with
    config.handler := called.handler
    trace := r.trace ++ (called.effects.map .Effect ++ [Event.OnMail r.state.current_mail called.result]) }
  have calls : on_mail r.state.current_mail r = .ok called.result handed := by
    have ran' : Handler.on_mail r.config.handler r.state.current_mail = called := by rw [config,state,ran]
    simp only [handed,← ran']
    rfl
  obtain ⟨t,replied,did',pending,open'⟩ := Unblocked.reply (s := handed)
    (fun n => (reads_of read).writable n (unblocked n)) (mail_reply called.result)
  have delivered : handle_data_line line r =
      .ok () { t with state := { t.state with current_mail := .empty, phase := .Greeted } } := by
    have ended : handle_data line r = .ok .DataEnd r := by
      simp only [handle_data,ends,if_true]
      rfl
    rw [handle_data_line,bind_ok ended]
    refine (bind_ok (run_get r)).trans ((bind_ok calls).trans ?_)
    cases result : called.result with
    | error err =>
      rw [result] at replied
      exact bind_ok replied
    | ok _ =>
      rw [result] at replied
      exact bind_ok replied
  refine ⟨{ t with state := { t.state with current_mail := .empty, phase := .Greeted } },goes_of_turn ?_ ?_ open',?_,?_,
    pending.trans left⟩
  · rw [turn_eq read,handle_line_data (by rw [state]; exact data),bind_ok delivered]
    rfl
  · simp [did'.1,handed,did.1,state]
  · have same : t.state = handed.state := congrArg View.state did'.2
    simp [same,handed,state]
  · have same : t.config = handed.config := congrArg View.config did'.2
    simp [same,handed,config]

/-! ### Mails -/

/-- How a client sends a mail, command by command and line by line, without waiting for the
    replies. -/
structure Letter where
  sender : Text
  recipients : List Text
  lines : List Bytes
  mail_line : Bytes
  recipient_lines : List Bytes
  data_line : Bytes
  last : Bytes
  opens : Spoken mail_line (.Mail sender)
  names : List.Forall₂ (fun line recipient => Spoken line (.Recipient recipient)) recipient_lines recipients
  starts : Spoken data_line .Data
  readable : Readable lines
  ends : last = DOT :: CRLF ∨ last = [DOT,LF]

namespace Letter

def mail (self : Letter) : Mail :=
  ⟨normalize_address self.sender,self.recipients.map normalize_address,self.lines.flatten⟩

def bytes (self : Letter) : Bytes :=
  self.mail_line ++ (self.recipient_lines.flatten ++ (self.data_line ++ ((self.lines.map stuff).flatten ++ self.last)))

end Letter

variable (Effect) in
/-- The calls of the handler for mails one after the other: the effects, the calls, and the
    handler that is left. -/
def hand_over : H → List Mail → List (Event Effect) × H
  | handler, [] => ([],handler)
  | handler, mail :: mails =>
    let called : Called H Effect Unit := Handler.on_mail handler mail
    let (events,handler) := hand_over called.handler mails
    (called.effects.map .Effect ++ Event.OnMail mail called.result :: events,handler)

theorem goes_letter (letter : Letter) (fits : letter.mail.data.length ≤ s.config.max_message_size)
    (unblocked : Unblocked s) (greeted : s.state.phase = .Greeted) (authenticated : s.is_authenticated = true)
    (sent : s.pending = letter.bytes ++ rest) {called : Called H Effect Unit}
    (ran : Handler.on_mail s.config.handler letter.mail = called) :
    ∃ k events t, Goes s k events t ∧
      events.filter is_handover = called.effects.map .Effect ++ [Event.OnMail letter.mail called.result] ∧
      t.state = { s.state with current_mail := .empty } ∧ t.config = { s.config with handler := called.handler } ∧
      t.pending = rest := by
  obtain ⟨r₁,goes₁,state₁,config₁,left₁⟩ := goes_mail unblocked letter.opens greeted authenticated
    (show s.pending = letter.mail_line ++ (letter.recipient_lines.flatten ++
      (letter.data_line ++ ((letter.lines.map stuff).flatten ++ (letter.last ++ rest)))) by simp [sent,Letter.bytes])
  have passed₁ : r₁.is_authenticated = true := by simpa [Session.is_authenticated,state₁,config₁] using authenticated
  obtain ⟨events,r₂,goes₂,silent,state₂,config₂,left₂⟩ :=
    goes_recipients goes₁.unblocked letter.names (by rw [state₁]) passed₁ left₁
  have passed₂ : r₂.is_authenticated = true := by simpa [Session.is_authenticated,state₂,config₂] using passed₁
  obtain ⟨r₃,goes₃,state₃,config₃,left₃⟩ := goes_data goes₂.unblocked letter.starts (by rw [state₂,state₁]) passed₂ left₂
  have same := kept_stuffed letter.lines
  have envelope : r₃.state.current_mail = { letter.mail with data := [] } := by
    simp [state₃,state₂,state₁,Mail.set_sender,Mail.empty,Letter.mail]
  have config : r₃.config = s.config := config₃.trans (config₂.trans config₁)
  obtain ⟨r₄,looped₄,left₄,trace₄,config₄,state₄,writable₄⟩ :=
    loop_captured (letter.lines.map stuff) (letter.last ++ rest) (by rw [state₃]) left₃ letter.readable.stuffed
      (by rw [same,envelope,config]; simpa [Mail.data_length,Letter.mail] using fits)
  have goes₄ : Goes r₃ letter.lines.length ((letter.lines.map stuff).map .Received) r₄ :=
    ⟨by simpa using looped₄,trace₄,fun n => writable₄ n (goes₃.unblocked n)⟩
  have whole : r₄.state.current_mail = letter.mail := by
    rw [state₄,same]
    simp [envelope,Mail.append_data,Letter.mail]
  obtain ⟨t,goes₅,state₅,config₅,left₅⟩ := goes_data_end goes₄.unblocked (by rw [state₄,state₃]) letter.ends left₄
    (show Handler.on_mail r₄.config.handler r₄.state.current_mail = called by rw [whole,config₄,config,ran])
  refine ⟨_,_,t,(((goes₁.trans goes₂).trans goes₃).trans goes₄).trans goes₅,?_,?_,?_,left₅⟩
  · have captured : ((letter.lines.map stuff).map .Received : List (Event Effect)).filter is_handover = [] := by
      simp [is_handover]
    have effects : (called.effects.map Event.Effect).filter is_handover = called.effects.map Event.Effect := by
      simp [is_handover]
    simp only [List.filter_append,List.filter_cons,List.filter_nil,silent,captured,effects,whole,is_handover,
      Bool.false_eq_true,if_false,if_true,List.nil_append]
  · simp [state₅,state₄,state₃,state₂,state₁,greeted]
  · rw [config₅,config₄,config]

/-- Mails that are sent one after the other are handed over one after the other, whatever
    comes of each. -/
theorem goes_letters (letters : List Letter)
    (fit : ∀ letter ∈ letters, letter.mail.data.length ≤ s.config.max_message_size) (unblocked : Unblocked s)
    (greeted : s.state.phase = .Greeted) (authenticated : s.is_authenticated = true)
    (sent : s.pending = (letters.map Letter.bytes).flatten ++ rest) :
    ∃ k events t, Goes s k events t ∧
      events.filter is_handover = (hand_over Effect s.config.handler (letters.map Letter.mail)).1 ∧
      t.state.phase = .Greeted ∧ t.is_authenticated = true ∧ t.pending = rest := by
  induction letters generalizing s with
  | nil => exact ⟨0,[],s,⟨by simp,by simp,unblocked⟩,rfl,greeted,authenticated,by simpa using sent⟩
  | cons letter letters ih =>
    obtain ⟨k,events,r,goes,first,state,config,left⟩ := goes_letter letter (fit letter (by simp)) unblocked greeted
      authenticated (show s.pending = letter.bytes ++ ((letters.map Letter.bytes).flatten ++ rest) by simp [sent]) rfl
    have passed : r.is_authenticated = true := by simpa [Session.is_authenticated,SessionConfig.has_auth,state,config] using authenticated
    obtain ⟨k',events',t,goes',others,phase,passed',left'⟩ :=
      ih (fun letter member => by rw [config]; exact fit letter (by simp [member])) goes.unblocked
        (by rw [state]; exact greeted) passed left
    refine ⟨_,_,t,goes.trans goes',?_,phase,passed',left'⟩
    rw [List.filter_append,first,others,config]
    simp [hand_over]

/-! ### The way to the mails -/

variable (Effect) in
/-- The handler accepts every HELO, without effects. -/
def Welcoming (handler : H) : Prop :=
  ∀ domain extended, (Handler.on_hello handler domain extended : Called H Effect HelloResult) = ⟨.ok .Ok,handler,[]⟩

omit [Handler H Effect] [Base64] in
theorem Unblocked.reply_features (features : List Text) (unblocked : Unblocked s) :
    ∃ (responses : List Response) (t : Session H Effect), reply_features features s = .ok () t ∧
      Did s (responses.map .Reply) t ∧ t.pending = s.pending ∧ Unblocked t := by
  induction features generalizing s with
  | nil => exact ⟨[],s,rfl,did_refl s,rfl,unblocked⟩
  | cons feature features ih =>
    cases features with
    | nil =>
      obtain ⟨t,replied,did,pending,open'⟩ := unblocked.reply (.new 250 feature)
      exact ⟨[_],t,replied,did,pending,open'⟩
    | cons next features =>
      obtain ⟨r,replied,did,pending,open'⟩ := unblocked.reply (.new_continued 250 feature)
      obtain ⟨responses,t,ran,did',pending',open''⟩ := ih open'
      exact ⟨_ :: responses,t,(bind_ok replied).trans ran,did.trans did',pending'.trans pending,open''⟩

omit [Handler H Effect] [Base64] in
theorem Unblocked.reply_hello (extended : Bool) (unblocked : Unblocked s) :
    ∃ (responses : List Response) (t : Session H Effect), reply_hello extended s = .ok () t ∧
      Did s (responses.map .Reply) t ∧ t.pending = s.pending ∧ Unblocked t := by
  cases extended with
  | false =>
    obtain ⟨t,replied,did,pending,open'⟩ := unblocked.reply (.new 250 s.config.server_name)
    exact ⟨[_],t,(bind_ok (run_get s)).trans replied,did,pending,open'⟩
  | true =>
    obtain ⟨r,replied,did,pending,open'⟩ := unblocked.reply (.new_continued 250 s.config.server_name)
    obtain ⟨c,connected⟩ := (open' 0).connected
    have tls : Session.supports_tls r = .ok c.supports_tls r := by
      simp only [Session.supports_tls,get_connection,bind,EStateM.bind,run_get,connected]
      rfl
    obtain ⟨responses,t,ran,did',pending',open''⟩ := open'.reply_features (["8BITMIME".toList] ++
      (if c.supports_tls then ["STARTTLS".toList] else []) ++
      (if s.config.has_auth then ["AUTH PLAIN LOGIN".toList] else []) ++
      ["SIZE ".toList ++ decimal s.config.max_message_size])
    refine ⟨_ :: responses,t,?_,did.trans did',pending'.trans pending,open''⟩
    exact (bind_ok (run_get s)).trans ((bind_ok replied).trans ((bind_ok tls).trans ran))

theorem goes_hello {domain : Text} {extended : Bool} (unblocked : Unblocked s)
    (welcoming : Welcoming Effect s.config.handler) (spoken : Spoken line (.Hello domain extended))
    (fresh : s.state = .new) (sent : s.pending = line ++ rest) :
    ∃ events t, Goes s 1 events t ∧ events.filter is_handover = [] ∧ t.state = { s.state with phase := .Greeted } ∧
      t.config = s.config ∧ t.pending = rest ∧ t.connection.any Connection.is_tls = s.connection.any Connection.is_tls := by
  obtain ⟨r,turned,did,left,open'⟩ := turn_spoken unblocked spoken (by simp [fresh,SessionState.new]) sent
  have state : r.state = s.state := congrArg View.state did.2
  have config : r.config = s.config := congrArg View.config did.2
  have phase : r.state.in_phase .Connected = true := by rw [state,fresh]; rfl
  let greeted : Session H Effect := { r with trace := r.trace ++ [Event.OnHello domain extended (.ok .Ok)] }
  have called : on_hello domain extended r = .ok (.ok .Ok) greeted := by
    have ran : (Handler.on_hello r.config.handler domain extended : Called H Effect HelloResult) =
        ⟨.ok .Ok,r.config.handler,[]⟩ := by rw [config,welcoming]
    simp only [on_hello,PostGraph.Session.called,bind,EStateM.bind,run_get,ran]
    rfl
  obtain ⟨responses,t,replied,did',pending,open''⟩ := Unblocked.reply_hello (s := greeted) extended open'
  refine ⟨[Event.Received line,.Parse line] ++ ([Event.OnHello domain extended (.ok .Ok)] ++ responses.map .Reply),
    { t with state := { t.state with phase := .Greeted } },goes_of_turn ?_ ?_ open'',?_,?_,?_,pending.trans left,?_⟩
  · rw [turned]
    show (handle_hello domain extended >>= fun _ => pure Control.Continue) r = _
    have ran : handle_hello domain extended r = .ok () { t with state := { t.state with phase := .Greeted } } := by
      simp only [handle_hello,bind,EStateM.bind,run_get,phase,Bool.not_true,Bool.false_eq_true,if_false,called,pure,
        replied,run_modify]
    exact bind_ok ran
  · simp [did'.1,greeted,did.1]
  · simp [is_handover]
  · have same : t.state = greeted.state := congrArg View.state did'.2
    simp [same,greeted,state]
  · have same : t.config = greeted.config := congrArg View.config did'.2
    simp [same,greeted,config]
  · exact (congrArg View.is_tls did'.2).trans (congrArg View.is_tls did.2)

omit [Handler H Effect] [Base64] in
/-- A challenge that is answered. -/
theorem Unblocked.ask {answer : Bytes} (challenge : Response) (unblocked : Unblocked s) (sent : s.pending = answer ++ rest)
    (complete : IsLine answer) (fits : answer.length ≤ MAX_LINE_LENGTH) :
    ∃ t, ask challenge s = .ok (some answer) t ∧ Did s [.Reply challenge,.Received answer] t ∧ t.pending = rest ∧
      Unblocked t := by
  obtain ⟨t,asked,did,left,-⟩ := ask_answered challenge (unblocked 1) sent complete fits
  refine ⟨t,asked,did,left,?_⟩
  intro n
  obtain ⟨t',asked',-,-,writable⟩ := ask_answered challenge (unblocked (n + 1)) sent complete fits
  rw [asked] at asked'
  obtain rfl : t = t' := by simpa using asked'
  exact writable

omit [Handler H Effect] in
/-- Each exchange leads to the credentials, and leaves what the client sent after it. -/
theorem Exchange.completes (engine : Engine) {method : AuthMethod} {initial : Option Bytes}
    {responses answers : List Bytes} {username password : Text} (exchange : Exchange username password method initial responses)
    (formed : List.Forall₂ AnswerLine responses answers) (sent : s.pending = answers.flatten ++ rest)
    (lines : ∀ answer ∈ answers, IsLine answer ∧ answer.length ≤ MAX_LINE_LENGTH) (unblocked : Unblocked s) :
    ∃ events t, handle_auth method initial s = .ok (.Ok username password) t ∧ Did s events t ∧
      events.filter is_handover = [] ∧ t.pending = rest ∧ Unblocked t := by
  cases exchange with
  | plain authzid bare =>
    exact ⟨[],s,by rw [handle_auth_plain,plain_arrives bare (decode_initial engine _)],did_refl s,rfl,
      by simpa [List.forall₂_nil_left_iff.mp formed] using sent,unblocked⟩
  | plain_challenge authzid bare =>
    obtain ⟨answer,_,answered,none,rfl⟩ := List.forall₂_cons_left_iff.mp formed
    obtain rfl := List.forall₂_nil_left_iff.mp none
    obtain ⟨complete,fits⟩ := lines answer (by simp)
    obtain ⟨t,asked,did,left,open'⟩ := unblocked.ask (first_challenge .Plain) (by simpa using sent) complete fits
    refine ⟨_,t,?_,did,rfl,left,open'⟩
    rw [handle_auth_asks asked,handle_auth_plain,plain_arrives bare (decode_answer engine answered)]
  | login =>
    obtain ⟨answer,_,answered,none,rfl⟩ := List.forall₂_cons_left_iff.mp formed
    obtain rfl := List.forall₂_nil_left_iff.mp none
    obtain ⟨complete,fits⟩ := lines answer (by simp)
    obtain ⟨t,asked,did,left,open'⟩ := unblocked.ask AUTH_CHALLENGE_LOGIN_PASSWORD (by simpa using sent) complete fits
    refine ⟨_,t,?_,did,rfl,left,open'⟩
    rw [handle_auth_login (decode_initial engine _) asked,decode_answer engine answered]
    simp only [from_utf8_lossy,Utf8.lossy_encode]
  | login_challenges =>
    obtain ⟨first,_,answered,more,rfl⟩ := List.forall₂_cons_left_iff.mp formed
    obtain ⟨second,_,answered',none,rfl⟩ := List.forall₂_cons_left_iff.mp more
    obtain rfl := List.forall₂_nil_left_iff.mp none
    obtain ⟨complete,fits⟩ := lines first (by simp)
    obtain ⟨complete',fits'⟩ := lines second (by simp)
    obtain ⟨r,asked,did,left,open'⟩ := unblocked.ask (first_challenge .Login)
      (show s.pending = first ++ (second ++ rest) by simpa using sent) complete fits
    obtain ⟨t,asked',did',left',open''⟩ := open'.ask AUTH_CHALLENGE_LOGIN_PASSWORD left complete' fits'
    refine ⟨_,t,?_,did.trans did',rfl,left',open''⟩
    rw [handle_auth_asks asked,handle_auth_login (decode_answer engine answered) asked',decode_answer engine answered']
    simp only [from_utf8_lossy,Utf8.lossy_encode]

/-- How a client logs in. -/
structure ClientLogin (username password : Text) where
  method : AuthMethod
  initial : Option Bytes
  responses : List Bytes
  answers : List Bytes
  line : Bytes
  spoken : Spoken line (.Authenticate method initial)
  exchange : Exchange username password method initial responses
  formed : List.Forall₂ AnswerLine responses answers
  short : ∀ answer ∈ answers, answer.length ≤ MAX_LINE_LENGTH

def ClientLogin.bytes {username password : Text} (self : ClientLogin username password) : Bytes :=
  self.line ++ self.answers.flatten

/-- A login with credentials that the handler accepts. -/
theorem goes_login (engine : Engine) {username password : Text} (credentials : ClientLogin username password)
    (unblocked : Unblocked s) (greeted : s.state.phase = .Greeted) (permitted : Permitted s)
    (sent : s.pending = credentials.bytes ++ rest) {handler : H}
    (accepts : (Handler.on_login s.config.handler username password : Called H Effect LoginResult) = ⟨.ok .Ok,handler,[]⟩) :
    ∃ events t, Goes s 1 events t ∧ events.filter is_handover = [] ∧
      t.state = { s.state with is_authenticated := true } ∧ t.config = { s.config with handler := handler } ∧
      t.pending = rest := by
  obtain ⟨spoken,exchange,formed⟩ := And.intro credentials.spoken (And.intro credentials.exchange credentials.formed)
  obtain ⟨r₁,turned,did₁,left₁,open₁⟩ := turn_spoken unblocked spoken (by simp [greeted])
    (show s.pending = credentials.line ++ (credentials.answers.flatten ++ rest) by simp [sent,ClientLogin.bytes])
  have accepted : r₁.view.refusal (.ok (.Authenticate credentials.method credentials.initial)) = none :=
    did₁.2 ▸ permitted_accepts greeted permitted
  have lines : ∀ answer ∈ credentials.answers, IsLine answer ∧ answer.length ≤ MAX_LINE_LENGTH := by
    intro answer member
    obtain ⟨response,known,answered⟩ := answered_by formed member
    obtain ⟨bytes,rfl⟩ := exchange.encoded response known
    exact ⟨isLine_answer engine answered,credentials.short answer member⟩
  obtain ⟨events,r₂,handshake,did₂,silent,left₂,open₂⟩ := exchange.completes engine formed left₁ lines open₁
  have state : r₂.state = s.state := congrArg View.state (did₁.trans did₂).2
  have config : r₂.config = s.config := congrArg View.config (did₁.trans did₂).2
  let logged : Session H Effect := { r₂ with
    config.handler := handler, trace := r₂.trace ++ [Event.OnLogin username password (.ok .Ok)] }
  have called : on_login username password r₂ = .ok (.ok .Ok) logged := by
    have ran : (Handler.on_login r₂.config.handler username password : Called H Effect LoginResult) =
        ⟨.ok .Ok,handler,[]⟩ := by rw [config,accepts]
    simp only [on_login,PostGraph.Session.called,bind,EStateM.bind,run_get,ran]
    rfl
  obtain ⟨t,replied,did₃,pending,open₃⟩ := Unblocked.reply (s := logged) open₂ AUTH_OK
  refine ⟨[Event.Received credentials.line,.Parse credentials.line] ++
      (events ++ [Event.OnLogin username password (.ok .Ok),.Reply AUTH_OK]),
    { t with state := { t.state with is_authenticated := true } },goes_of_turn ?_ ?_ open₃,?_,?_,?_,pending.trans left₂⟩
  · have ran : login username password r₂ = .ok () { t with state := { t.state with is_authenticated := true } } := by
      rw [login,bind_ok called]
      exact bind_ok replied
    have authenticated : handle_authenticate credentials.method credentials.initial r₁ =
        .ok () { t with state := { t.state with is_authenticated := true } } := by
      rw [handle_authenticate_accepted (open₁ 0) accepted,authenticate,bind_ok handshake]
      exact ran
    rw [turned]
    show (handle_authenticate credentials.method credentials.initial >>= fun _ => pure Control.Continue) r₁ = _
    exact bind_ok authenticated
  · simp [did₃.1,logged,did₂.1,did₁.1]
  · simp [silent,is_handover]
  · have same : t.state = logged.state := congrArg View.state did₃.2
    simp [same,logged,state]
  · have same : t.config = logged.config := congrArg View.config did₃.2
    simp [same,logged,config]

theorem goes_start_tls {stream : BufReader} {acceptor : TlsAcceptor} {behind script : Bytes}
    (connected : s.connection = some (.Plain stream (some acceptor))) (unblocked : Unblocked s)
    (greeted : s.state.phase = .Greeted) (spoken : Spoken line .StartTls) (sent : s.pending = line ++ behind)
    (secures : ∀ p : PrefixedTcpStream, p.pending = behind → ∃ decrypted, acceptor.accept p = some decrypted ∧
      arriving decrypted.reads = script ∧ ∀ ok ∈ decrypted.writes, ok = true) :
    ∃ t, Goes s 1 [.Received line,.Parse line,.Reply START_TLS,.TlsStarted] t ∧ t.state = .new ∧ t.config = s.config ∧
      t.pending = script ∧ t.connection.any Connection.is_tls = true := by
  obtain ⟨r,reads,left,turned⟩ := turn_reads (by simp [greeted]) sent spoken.complete spoken.fits spoken.parsed
  obtain ⟨stream',connected'⟩ := reads.connection _ connected
  let parsing : Session H Effect := { r with trace := r.trace ++ [Event.Parse line] }
  have did : Did s [.Received line,.Parse line] parsing := reads.did.trans ⟨rfl,rfl⟩
  have state : r.state = s.state := congrArg View.state reads.did.2
  have config : r.config = s.config := congrArg View.config reads.did.2
  have behind' : stream'.pending = behind := by rw [← left,Session.pending,connected']; rfl
  obtain ⟨u,replied,did',-,-⟩ := Unblocked.reply (s := parsing) (fun n => reads.writable n (unblocked n)) START_TLS
  have accepts : parsing.view.refusal (.ok .StartTls) = none := by
    simp [parsing,View.refusal,Session.view,connected',state,greeted,Connection.supports_tls,Connection.with_stream]
  rcases handle_start_tls_upgrades (s := parsing) connected' (by simp [parsing,state,greeted]) with
    failed | ⟨stream'',t,pending,-,did'',ran⟩
  · -- the reply does not fail
    rw [handle_start_tls_accepted accepts,bind_ok replied] at failed
    have grown := grows_upgrade (s := u)
    simp only [bind,EStateM.bind] at failed
    cases upgraded : upgrade u with
    | ok _ v => simp [upgraded,run_modify] at failed
    | error err v =>
      obtain ⟨-,rfl⟩ : err = .Io ∧ v = parsing := by simpa [upgraded] using failed
      rw [upgraded] at grown
      have longer : u.trace.length ≤ parsing.trace.length := grown.length_le
      rw [did'.1,List.length_append,List.length_singleton] at longer
      omega
  · obtain ⟨decrypted,accepted,plaintext,writes⟩ := secures (.from_existing stream'') (pending.trans behind')
    rw [accepted] at ran
    refine ⟨{ t with connection := some (.new_tls decrypted), state := .new, trace := t.trace ++ [Event.TlsStarted] },
      goes_of_turn ?_ ?_ ?_,rfl,?_,?_,rfl⟩
    · rw [turned]
      show (handle_start_tls >>= fun _ => pure Control.Continue) parsing = _
      exact bind_ok ran
    · simp [(did.trans did'').1]
    · intro n
      exact ⟨_,rfl,fun ok member => writes ok (List.mem_of_mem_take member)⟩
    · exact (congrArg View.config did''.2).trans config
    · simpa [Session.pending,Connection.new_tls,Connection.stream,BufReader.new,BufReader.pending] using plaintext

/-- QUIT ends the session. -/
theorem loop_quits (unblocked : Unblocked s) (phase : s.state.phase ≠ .Data) (spoken : Spoken line .Quit)
    (sent : s.pending = line ++ rest) :
    ∃ t, loop 1 s = .ok (some ()) t ∧ t.trace = s.trace ++ [Event.Received line,.Parse line,.Reply GOODBYE] := by
  obtain ⟨r,turned,did,-,open'⟩ := turn_spoken unblocked spoken phase sent
  obtain ⟨t,replied,did',-,-⟩ := open'.reply GOODBYE
  refine ⟨t,?_,(did.trans did').1⟩
  have returned : turn s = .ok .Return t := by
    rw [turned]
    exact bind_ok replied
  rw [loop]
  exact bind_ok returned

/-- How a session gets to where a login is permitted: at once, or by STARTTLS. From there on
    it gets the lines of the script. -/
inductive Opening (config : SessionConfig H) (script : Bytes) : Connection → Prop
  | plain (stream : BufReader) (tls : Option TlsAcceptor) (mode : config.auth_mode = .Always)
      (sent : stream.pending = script) (writes : ∀ ok ∈ stream.inner.writes, ok = true) :
      Opening config script (.Plain stream tls)
  | upgraded (stream : BufReader) (acceptor : TlsAcceptor) (mode : config.auth_mode ≠ .None)
      (hello_line tls_line behind : Bytes) (domain : Text) (extended : Bool)
      (greets : Spoken hello_line (.Hello domain extended)) (starts : Spoken tls_line .StartTls)
      (sent : stream.pending = hello_line ++ (tls_line ++ behind)) (writes : ∀ ok ∈ stream.inner.writes, ok = true)
      (secures : ∀ p : PrefixedTcpStream, p.pending = behind → ∃ decrypted, acceptor.accept p = some decrypted ∧
        arriving decrypted.reads = script ∧ ∀ ok ∈ decrypted.writes, ok = true) :
      Opening config script (.Plain stream (some acceptor))

theorem kept_acceptor {stream : BufReader} {acceptor : TlsAcceptor} (connected : s.connection = some (.Plain stream (some acceptor)))
    (goes : Goes s 1 events t) : ∀ c ∈ t.connection, (∃ stream, c = .Plain stream (some acceptor)) ∨ c.is_tls = true := by
  have once : final (turn s) = t := by
    rw [← final_loop_one,← Nat.add_zero 1,goes.looped]
    rfl
  rw [← once]
  exact turn_acceptor connected

theorem goes_opening {connection : Connection} {config : SessionConfig H} {script : Bytes}
    (opening : Opening config script connection) (welcoming : Welcoming Effect config.handler) :
    ∃ k events t, (∀ m, handle (k + m) (.new connection config : Session H Effect) = loop m t) ∧ t.trace = events ∧
      Unblocked t ∧ events.filter is_handover = [] ∧ t.state = .new ∧ t.config = config ∧ Permitted t ∧
      t.pending = script := by
  have begins (stream : BufReader) (tls : Option TlsAcceptor) (writes : ∀ ok ∈ stream.inner.writes, ok = true) :
      ∃ stream' t, (∀ m, handle m (.new (.Plain stream tls) config : Session H Effect) = loop m t) ∧
        Did (.new (.Plain stream tls) config) [.Reply (.banner config.server_name)] t ∧ Unblocked t ∧
        t.connection = some (.Plain stream' tls) ∧ t.pending = stream.pending := by
    have unblocked : Unblocked (.new (.Plain stream tls) config : Session H Effect) := fun n =>
      ⟨_,rfl,fun ok member => writes ok (List.mem_of_mem_take member)⟩
    obtain ⟨t,replied,did,pending,open'⟩ := unblocked.reply (.banner config.server_name)
    have connection : ∃ stream', t.connection = some (.Plain stream' tls) := by
      have direct := reply_eq (s := (.new (.Plain stream tls) config : Session H Effect)) rfl (.banner config.server_name)
      rw [replied] at direct
      cases wrote : stream.write_all (reply_bytes (.banner config.server_name)) with
      | none => simp [Connection.write_all,Connection.stream,wrote] at direct
      | some stream' =>
        rw [show Connection.write_all (.Plain stream tls) (reply_bytes (.banner config.server_name)) =
          some (.Plain stream' tls) by simp [Connection.write_all,Connection.stream,wrote,Connection.with_stream]] at direct
        obtain ⟨-,rfl⟩ := EStateM.Result.ok.inj direct
        exact ⟨stream',rfl⟩
    obtain ⟨stream',connection⟩ := connection
    refine ⟨stream',t,fun m => ?_,did,open',connection,pending⟩
    rw [handle]
    exact (bind_ok (run_get _)).trans (bind_ok replied)
  cases opening with
  | plain stream tls mode sent writes =>
    obtain ⟨stream',t,looped,did,unblocked,-,pending⟩ := begins stream tls writes
    have same : t.config = config := congrArg View.config did.2
    refine ⟨0,_,t,fun m => by rw [Nat.zero_add]; exact looped m,did.1,unblocked,rfl,congrArg View.state did.2,same,
      .inl (by rw [same]; exact mode),pending.trans sent⟩
  | upgraded stream acceptor mode hello_line tls_line behind domain extended greets starts sent writes secures =>
    obtain ⟨stream',r,looped,did,unblocked,connected,pending⟩ := begins stream (some acceptor) writes
    have config₁ : r.config = config := congrArg View.config did.2
    obtain ⟨events,t,goes,silent,state,config₂,left,plain⟩ :=
      goes_hello unblocked (config₁ ▸ welcoming) greets (congrArg View.state did.2) (pending.trans sent)
    obtain ⟨c,connected'⟩ := (goes.unblocked 0).connected
    have upgradable := kept_acceptor connected goes c connected'
    have unencrypted : c.is_tls = false := by simpa [connected,connected',Connection.is_tls] using plain
    obtain ⟨stream'',rfl⟩ := upgradable.resolve_right (by simp [unencrypted])
    obtain ⟨u,goes',state',config₃,left',tls⟩ :=
      goes_start_tls connected' goes.unblocked (by rw [state]) starts left secures
    have same : u.config = config := config₃.trans (config₂.trans config₁)
    have all := goes.trans goes'
    refine ⟨1 + 1,_,u,fun m => (looped (1 + 1 + m)).trans (all.looped m),by rw [all.trace,did.1],all.unblocked,?_,state',same,
      ?_,left'⟩
    · simp [Session.new,silent,is_handover]
    · rw [Permitted,same]
      cases required : config.auth_mode with
      | None => exact absurd required mode
      | RequireTls => exact .inr ⟨rfl,tls⟩
      | Always => exact .inl rfl

omit [Base64] in
theorem hand_over_mails (handler : H) (mails : List Mail) :
    (hand_over Effect handler mails).1.filterMap mail_of = mails := by
  induction mails generalizing handler with
  | nil => rfl
  | cons mail mails ih =>
    simp only [hand_over,List.filterMap_append,List.filterMap_cons,mail_of,ih]
    simp [mail_of]

omit [Handler H Effect] [Base64] in
theorem filterMap_handover {α : Type} (f : Event Effect → Option α) (only : ∀ e, is_handover e = false → f e = none)
    (events : List (Event Effect)) : (events.filter is_handover).filterMap f = events.filterMap f := by
  rw [List.filterMap_filter]
  congr 1
  funext e
  cases handed : is_handover e with
  | true => simp
  | false => simp [only e handed]

end

/-! ### Mails through the proxy -/

section
variable [Argon2] [Base64]

/-- A mail that is handed over to the graph API. -/
def sending_of : Event ProxyEffect → Option (Text × Bytes)
  | .Effect (.SendMail sender data) => some (sender,data)
  | _ => none

theorem hand_over_sends {handler : ProxyHandler} {username : Text} (known : handler.username = some username)
    (mails : List Mail) (own : ∀ mail ∈ mails, mail.sender = username) :
    (hand_over ProxyEffect handler mails).1.filterMap sending_of =
      mails.map fun mail => (mail.sender,mail.data) := by
  induction mails generalizing handler with
  | nil => rfl
  | cons mail mails ih =>
    have same := own mail (by simp)
    obtain ⟨kept,-,⟨refused,-⟩ | ⟨-,sent,-⟩⟩ := ProxyHandler.on_mail_effects (rfl : handler.on_mail mail = _)
    · simp [ProxyHandler.permits,known,same] at refused
    · have others := ih (kept.trans known) fun mail member => own mail (by simp [member])
      have requests : (((handler.graph_client.send_mail mail.sender mail.data).requests.map
          ProxyEffect.Request).map Event.Effect).filterMap sending_of = [] := by simp [sending_of]
      simp only [hand_over,Handler.on_mail,List.filterMap_append,List.filterMap_cons,sent,List.map_cons,sending_of,others,
        requests]
      rfl

/-- A client that logs in, over TLS or where that is not required, and then sends its mails
    has them all handed over: each of them once, as it was, in their order, and in its
    own name. However its lines are cut and how far ahead it sends them does not
    matter, and the session ends with QUIT. -/
theorem mails_delivered (engine : Engine) (connection : Connection) (config : SessionConfig ProxyHandler)
    (username password : Text)
    (verified : config.handler.config.smtp.auth.verify_user_password username password = .ok ())
    (hello_line quit_line rest : Bytes) (domain : Text) (extended : Bool)
    (greets : Spoken hello_line (.Hello domain extended)) (credentials : ClientLogin username password)
    (letters : List Letter) (own : ∀ letter ∈ letters, letter.mail.sender = username)
    (fit : ∀ letter ∈ letters, letter.mail.data.length ≤ config.max_message_size) (quits : Spoken quit_line .Quit)
    (opening : Opening config
      (hello_line ++ (credentials.bytes ++ ((letters.map Letter.bytes).flatten ++ (quit_line ++ rest)))) connection) :
    ∃ n t, handle n (.new connection config : Session ProxyHandler ProxyEffect) = .ok (some ()) t ∧
      t.trace.filterMap mail_of = letters.map Letter.mail ∧
      t.trace.filterMap sending_of = letters.map fun letter => (username,letter.mail.data) := by
  obtain ⟨k₀,events₀,r₀,looped,trace₀,open₀,silent₀,state₀,config₀,permitted,left₀⟩ :=
    goes_opening opening (show Welcoming ProxyEffect config.handler from fun _ _ => rfl)
  obtain ⟨events₁,r₁,goes₁,silent₁,state₁,config₁,left₁,tls⟩ :=
    goes_hello open₀ (fun _ _ => rfl) greets state₀ left₀
  have permitted₁ : Permitted r₁ := by rwa [Permitted,config₁,tls]
  have accepts : (Handler.on_login r₁.config.handler username password : Called ProxyHandler ProxyEffect LoginResult) =
      ⟨.ok .Ok,{ config.handler with username := some username },[]⟩ := by
    simp only [Handler.on_login,ProxyHandler.on_login,config₁,config₀,verified]
  obtain ⟨events₂,r₂,goes₂,silent₂,state₂,config₂,left₂⟩ :=
    goes_login engine credentials goes₁.unblocked (by rw [state₁]) permitted₁ left₁ accepts
  have greeted : r₂.state.phase = .Greeted := by rw [state₂,state₁]
  have passed : r₂.is_authenticated = true := by simp [Session.is_authenticated,state₂]
  obtain ⟨k,events₃,r₃,goes₃,handed,phase,-,left₃⟩ := goes_letters letters
    (fun letter member => by rw [config₂,config₁,config₀]; exact fit letter member) goes₂.unblocked greeted passed left₂
  obtain ⟨t,ended,trace⟩ := loop_quits goes₃.unblocked (by simp [phase]) quits left₃
  have all := (goes₁.trans goes₂).trans goes₃
  have whole : t.trace.filter is_handover = (hand_over ProxyEffect r₂.config.handler (letters.map Letter.mail)).1 := by
    rw [trace,all.trace,trace₀]
    simp [silent₀,silent₁,silent₂,handed,is_handover]
  refine ⟨k₀ + (1 + 1 + k + 1),t,?_,?_,?_⟩
  · rw [looped,all.looped,ended]
  · rw [← filterMap_handover mail_of (by intro e; cases e <;> simp [is_handover,mail_of]),whole,hand_over_mails]
  · rw [← filterMap_handover sending_of (by intro e; cases e <;> simp [is_handover,sending_of]),whole,
      hand_over_sends (show r₂.config.handler.username = some username by rw [config₂]) _ (by simpa using own),List.map_map]
    exact List.map_congr_left fun letter member => by simp [own letter member]

end

section
attribute [local instance] Sample.argon2 sampleEngine

def sampleClientLogin : ClientLogin ['a'] ['b'] where
  method := .Plain
  initial := some (Base64.encode (plain_message [] ['a'] ['b']))
  responses := []
  answers := []
  line := ascii "AUTH PLAIN AGEAYg==\r\n"
  spoken := ⟨⟨ascii "AUTH PLAIN AGEAYg==\r",by decide,by decide⟩,by decide,by decide⟩
  exchange := .plain [] (by decide)
  formed := .nil
  short := by simp

def sampleLetter : Letter where
  sender := "<a>".toList
  recipients := ["<c>".toList]
  lines := [ascii "hi\r\n",ascii ".\r\n"]
  mail_line := ascii "MAIL FROM:<a>\r\n"
  recipient_lines := [ascii "RCPT TO:<c>\r\n"]
  data_line := ascii "DATA\r\n"
  last := DOT :: CRLF
  opens := ⟨⟨ascii "MAIL FROM:<a>\r",by decide,by decide⟩,by decide,by decide⟩
  names := .cons ⟨⟨ascii "RCPT TO:<c>\r",by decide,by decide⟩,by decide,by decide⟩ .nil
  starts := ⟨⟨ascii "DATA\r",by decide,by decide⟩,by decide,by decide⟩
  readable := by
    intro line member
    rcases List.mem_cons.mp member with rfl | member
    · exact ⟨⟨ascii "hi\r",by decide,by decide⟩,by decide⟩
    · obtain rfl := List.mem_singleton.mp member
      exact ⟨⟨ascii ".\r",by decide,by decide⟩,by decide⟩
  ends := .inl rfl

def sampleGreeting : Bytes := ascii "EHLO x\r\n"
def sampleQuit : Bytes := ascii "QUIT\r\n"

/-- What the client sends over TLS. -/
def sampleScript : Bytes :=
  sampleGreeting ++ (sampleClientLogin.bytes ++ (([sampleLetter,sampleLetter].map Letter.bytes).flatten ++ (sampleQuit ++ [])))

/-- An acceptor for a ClientHello of one byte. -/
def sampleHandshake : TlsAcceptor where
  accept p := if p.pending = [0x16] then some ⟨[.Data sampleScript],[]⟩ else none

def sampleSecured : Connection :=
  .Plain (.new (Sample.sends "EHLO x\r\nSTARTTLS\r\n\x16")) (some sampleHandshake)

theorem mails_delivered_sample : ∃ n t,
    handle n (.new sampleSecured (Sample.config .RequireTls) : Session ProxyHandler ProxyEffect) = .ok (some ()) t ∧
    t.trace.filterMap mail_of = [⟨['a'],[['c']],ascii "hi\r\n.\r\n"⟩,⟨['a'],[['c']],ascii "hi\r\n.\r\n"⟩] ∧
    t.trace.filterMap sending_of = [(['a'],ascii "hi\r\n.\r\n"),(['a'],ascii "hi\r\n.\r\n")] := by
  have greets : Spoken sampleGreeting (.Hello ['x'] true) := ⟨⟨ascii "EHLO x\r",by decide,by decide⟩,by decide,by decide⟩
  have quits : Spoken sampleQuit .Quit := ⟨⟨ascii "QUIT\r",by decide,by decide⟩,by decide,by decide⟩
  have starts : Spoken (ascii "STARTTLS\r\n") .StartTls := ⟨⟨ascii "STARTTLS\r",by decide,by decide⟩,by decide,by decide⟩
  have opening : Opening (Sample.config .RequireTls) sampleScript sampleSecured := by
    refine .upgraded _ _ (by decide) sampleGreeting (ascii "STARTTLS\r\n") [0x16] ['x'] true greets starts (by decide)
      (by decide) ?_
    intro p pending
    exact ⟨_,if_pos pending,by decide,by simp⟩
  exact mails_delivered sampleEngine_engine sampleSecured (Sample.config .RequireTls) ['a'] ['b'] (by decide) sampleGreeting
    sampleQuit [] ['x'] true greets sampleClientLogin [sampleLetter,sampleLetter] (by decide) (by decide) quits opening

end
end PostGraph
