import PostGraph.Session

/-!
What one turn of a session can do, in one place: the events it emits and the
state and handler it leaves (`Step`). What holds along every session is proved
by cases on it.
-/
namespace PostGraph
open Session
set_option autoImplicit false

variable {H Effect : Type}

/-- What decides a session's next step, apart from the bytes to come. -/
structure View (H : Type) where
  config : SessionConfig H
  state : SessionState
  supports_tls : Bool
  is_tls : Bool

def Session.view (s : Session H Effect) : View H where
  config := s.config
  state := s.state
  supports_tls := s.connection.any Connection.supports_tls
  is_tls := s.connection.any Connection.is_tls

@[simp] theorem Session.view_config (s : Session H Effect) : s.view.config = s.config := rfl
@[simp] theorem Session.view_state (s : Session H Effect) : s.view.state = s.state := rfl

/-- `Session::is_authenticated` -/
def View.is_authenticated (v : View H) : Bool := if v.config.has_auth then v.state.is_authenticated else true

/-- Events other than callbacks, their effects, upgrades and the start of data. -/
inductive Event.Quiet : Event Effect → Prop
  | received (line : Bytes) : Quiet (.Received line)
  | parse (line : Bytes) : Quiet (.Parse line)
  | reply (response : Response) (code : response.code ≠ 354) : Quiet (.Reply response)

/-- The events of an AUTH handshake: challenges and their answers. -/
inductive Event.Handshake : Event Effect → Prop
  | received (line : Bytes) : Handshake (.Received line)
  | challenge (response : Response) (code : response.code = 334) : Handshake (.Reply response)

/-- A reply with one of the codes. -/
inductive Event.Coded (codes : List Nat) : Event Effect → Prop
  | reply (response : Response) (code : response.code ∈ codes) : Coded codes (.Reply response)

def mail_reply : Except Text Unit → Response
  | .error err => MAIL_HANDLER_ERROR.extend err
  | .ok () => MAIL_ACCEPTED

inductive Outcome
  | Continue
  | Return
  | Closed
  deriving DecidableEq

def Outcome.of : Control → Outcome
  | .Continue => .Continue
  | .Return => .Return

/-- What a turn does with a line that was read, from `v`: the events after the
    line was received, how the turn ends, and the view it leaves. -/
inductive Step [Handler H Effect] (v : View H) (line : Bytes) : List (Event Effect) → Outcome → View H → Prop
  /-- A line of the mail's data. -/
  | captured (data : v.state.phase = .Data) (more : is_data_end line = false)
      (fits : v.state.current_mail.data_length + (unstuff line).length ≤ v.config.max_message_size) :
      Step v line [] .Continue
        { v with state.current_mail := v.state.current_mail.append_data (unstuff line) }
  | delivered (called : Called H Effect Unit) (data : v.state.phase = .Data) (done : is_data_end line = true)
      (ran : Handler.on_mail v.config.handler v.state.current_mail = called) :
      Step v line
        (called.effects.map .Effect ++ [Event.OnMail v.state.current_mail called.result,.Reply (mail_reply called.result)])
        .Continue
        { v with config.handler := called.handler, state.current_mail := .empty, state.phase := .Greeted }
  /-- End of data, and the reply fails. -/
  | undelivered (called : Called H Effect Unit) (v' : View H) (data : v.state.phase = .Data)
      (done : is_data_end line = true) (ran : Handler.on_mail v.config.handler v.state.current_mail = called)
      (config : v'.config = { v.config with handler := called.handler }) :
      Step v line (called.effects.map .Effect ++ [Event.OnMail v.state.current_mail called.result]) .Closed v'
  /-- A command is refused, possibly after a handshake. -/
  | refused (handshake : List (Event Effect)) (response : Response) (command : v.state.phase ≠ .Data)
      (other : Command.parse line ≠ .ok .Reset) (exchanged : ∀ e ∈ handshake, e.Handshake)
      (code : 500 ≤ response.code) :
      Step v line (Event.Parse line :: handshake ++ [Event.Reply response]) .Continue v
  | greeted (domain : Text) (extended : Bool) (called : Called H Effect HelloResult)
      (responses : List (Event Effect))
      (parsed : Command.parse line = .ok (.Hello domain extended)) (phase : v.state.phase = .Connected)
      (ran : Handler.on_hello v.config.handler domain extended = called) (accepted : called.result = .ok .Ok)
      (codes : ∀ e ∈ responses, e.Coded [250]) :
      Step v line (Event.Parse line :: called.effects.map .Effect ++ Event.OnHello domain extended called.result ::
          responses) .Continue
        { v with config.handler := called.handler, state.phase := .Greeted }
  /-- HELO / EHLO is rejected, or a reply to it fails. -/
  | ungreeted (domain : Text) (extended : Bool) (called : Called H Effect HelloResult)
      (responses : List (Event Effect))
      (v' : View H) (parsed : Command.parse line = .ok (.Hello domain extended)) (phase : v.state.phase = .Connected)
      (ran : Handler.on_hello v.config.handler domain extended = called)
      (codes : ∀ e ∈ responses, e.Coded [250]) (config : v'.config = { v.config with handler := called.handler }) :
      Step v line (Event.Parse line :: called.effects.map .Effect ++ Event.OnHello domain extended called.result ::
          responses) .Closed v'
  | informed (command : Command) (responses : List (Event Effect)) (parsed : Command.parse line = .ok command)
      (which : command = .Help ∨ command = .NoOp) (phase : v.state.phase ≠ .Data)
      (codes : ∀ e ∈ responses, e.Coded [250,214]) :
      Step v line (.Parse line :: responses) .Continue v
  | upgraded (parsed : Command.parse line = .ok .StartTls) (phase : v.state.phase = .Greeted)
      (supported : v.supports_tls = true) :
      Step v line [.Parse line,.Reply START_TLS,.TlsStarted] .Continue
        { v with state := .new, supports_tls := false, is_tls := true }
  | authenticated (method : AuthMethod) (initial : Option Bytes) (handshake : List (Event Effect))
      (username password : Text) (called : Called H Effect LoginResult)
      (parsed : Command.parse line = .ok (.Authenticate method initial)) (phase : v.state.phase = .Greeted)
      (permitted : v.config.auth_mode = .Always ∨ v.config.auth_mode = .RequireTls ∧ v.is_tls = true)
      (exchanged : ∀ e ∈ handshake, e.Handshake)
      (ran : Handler.on_login v.config.handler username password = called) (accepted : called.result = .ok .Ok) :
      Step v line (Event.Parse line :: handshake ++ (called.effects.map .Effect ++
          [Event.OnLogin username password called.result,.Reply AUTH_OK])) .Continue
        { v with config.handler := called.handler, state.is_authenticated := true }
  /-- The login is rejected, or the reply to it fails. -/
  | unauthenticated (method : AuthMethod) (initial : Option Bytes) (handshake last : List (Event Effect))
      (username password : Text) (called : Called H Effect LoginResult) (v' : View H)
      (parsed : Command.parse line = .ok (.Authenticate method initial)) (phase : v.state.phase = .Greeted)
      (permitted : v.config.auth_mode = .Always ∨ v.config.auth_mode = .RequireTls ∧ v.is_tls = true)
      (exchanged : ∀ e ∈ handshake, e.Handshake)
      (ran : Handler.on_login v.config.handler username password = called)
      (answer : last = [] ∨ last = [.Reply AUTH_FAIL] ∧ called.result ≠ .ok .Ok)
      (config : v'.config = { v.config with handler := called.handler }) :
      Step v line (Event.Parse line :: handshake ++ (called.effects.map .Effect ++
          Event.OnLogin username password called.result :: last)) .Closed v'
  | mail (sender : Text) (parsed : Command.parse line = .ok (.Mail sender)) (phase : v.state.phase = .Greeted)
      (authenticated : v.is_authenticated = true) :
      Step v line [.Parse line,.Reply OK] .Continue
        { v with state.current_mail := Mail.empty.set_sender sender, state.phase := .Envelope }
  | recipient (recipient : Text) (parsed : Command.parse line = .ok (.Recipient recipient))
      (phase : v.state.phase = .Envelope) (authenticated : v.is_authenticated = true) :
      Step v line [.Parse line,.Reply OK] .Continue
        { v with state.current_mail := v.state.current_mail.add_recipient recipient }
  | data (parsed : Command.parse line = .ok .Data) (phase : v.state.phase = .Envelope)
      (authenticated : v.is_authenticated = true) :
      Step v line [.Parse line,.Reply DATA_START] .Continue { v with state.phase := .Data }
  | reset (called : Called H Effect Unit) (parsed : Command.parse line = .ok .Reset) (phase : v.state.phase ≠ .Data)
      (ran : Handler.on_reset v.config.handler = called) :
      Step v line (Event.Parse line :: .Reply RESET :: (called.effects.map .Effect ++ [Event.OnReset called.result])) .Continue
        { v with config.handler := called.handler, state := .new }
  | quit (parsed : Command.parse line = .ok .Quit) (phase : v.state.phase ≠ .Data) :
      Step v line [.Parse line,.Reply GOODBYE] .Return v
  /-- A failure before any callback: the mail is too long, a reply or a read
      fails, or the TLS handshake does. -/
  | dropped (events : List (Event Effect)) (v' : View H) (quiet : ∀ e ∈ events, e.Quiet)
      (config : v'.config = v.config)
      (early : v.state.phase = .Data → is_data_end line = false ∧ ∀ line, .Received line ∉ events) :
      Step v line events .Closed v'

theorem Event.Coded.quiet {codes : List Nat} {e : Event Effect} (coded : e.Coded codes) (other : 354 ∉ codes) :
    e.Quiet := by
  cases coded with
  | reply response code => exact .reply response fun same => other (same ▸ code)

theorem Event.Handshake.quiet {e : Event Effect} (handshake : e.Handshake) : e.Quiet := by
  cases handshake with
  | received line => exact .received line
  | challenge response code => exact .reply response (by simp [code])

/-- Only an upgrade changes the kind of the connection. -/
theorem step_tls [Handler H Effect] {v v' : View H} {line : Bytes} {events : List (Event Effect)} {outcome : Outcome}
    (step : Step v line events outcome v') :
    (.TlsStarted ∉ events ∧ (outcome = .Continue → v'.supports_tls = v.supports_tls ∧ v'.is_tls = v.is_tls)) ∨
      (v.supports_tls = true ∧ v.state.phase = .Greeted ∧ events = [.Parse line,.Reply START_TLS,.TlsStarted] ∧
        outcome = .Continue ∧ v' = { v with state := .new, supports_tls := false, is_tls := true }) := by
  have without {P : Event Effect → Prop} {other : List (Event Effect)} (never : ¬ P .TlsStarted)
      (all : ∀ e ∈ other, P e) : .TlsStarted ∉ other := fun member => never (all _ member)
  have coded {codes : List Nat} : ¬ (.TlsStarted : Event Effect).Coded codes := by rintro ⟨⟩
  have handshake : ¬ (.TlsStarted : Event Effect).Handshake := by rintro ⟨⟩
  cases step with
  | upgraded parsed phase supported => exact .inr ⟨supported,phase,rfl,rfl,rfl⟩
  | refused _ _ _ _ exchanged _ => exact .inl (by simp [without handshake exchanged])
  | greeted _ _ _ _ _ _ _ _ codes => exact .inl (by simp [without coded codes])
  | ungreeted _ _ _ _ _ _ _ _ codes => exact .inl (by simp [without coded codes])
  | informed _ _ _ _ _ codes => exact .inl (by simp [without coded codes])
  | authenticated _ _ _ _ _ _ _ _ _ exchanged => exact .inl (by simp [without handshake exchanged])
  | unauthenticated _ _ _ _ _ _ _ _ _ _ _ exchanged _ answer =>
    refine .inl ⟨?_,by simp⟩
    rcases answer with rfl | ⟨rfl,-⟩
    all_goals simp [without handshake exchanged]
  | dropped _ _ quiet => exact .inl ⟨without (by rintro ⟨⟩) quiet,by simp⟩
  | _ => exact .inl (by simp)

end PostGraph
