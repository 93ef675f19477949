import PostGraph.Proxy
import PostGraph.Turns

/-!
What a session tells of itself. Whoever follows the lines that are sent to it and the codes of
its replies knows the state that it is in, whatever its configuration and its
handler are: nothing but the dialogue decides on it.
-/
namespace PostGraph
open Programs Session
set_option autoImplicit false

/-- What passes between the two sides: lines, and the code of each reply with whether it is
    continued. -/
inductive Said
  | Line (line : Bytes)
  | Code (code : Nat) (has_next : Bool)
  deriving DecidableEq

def said_of {Effect : Type} : Event Effect → Option Said
  | .Received line => some (.Line line)
  | .Reply response => some (.Code response.code response.has_next)
  | _ => none

/-- What a command comes to where it is accepted. -/
def Command.accepted : Command → SessionState → SessionState
  | .Hello _ _, state => { state with phase := .Greeted }
  | .StartTls, _ => .new
  | .Authenticate _ _, state => { state with is_authenticated := true }
  | .Mail sender, state => { state with current_mail := Mail.empty.set_sender sender, phase := .Envelope }
  | .Recipient recipient, state => { state with current_mail := state.current_mail.add_recipient recipient }
  | .Data, state => { state with phase := .Data }
  | .Reset, _ => .new
  | .Help, state | .NoOp, state | .Quit, state => state

/-- Someone who follows the dialogue. -/
structure Listener where
  /-- What the session is taken to be in. -/
  state : SessionState
  is_tls : Bool
  /-- The command that was sent last. -/
  command : Option Command
  /-- Is the next line an answer to a challenge? -/
  challenged : Bool

namespace Listener

def new (is_tls : Bool) : Listener := ⟨.new,is_tls,none,false⟩

def line (self : Listener) (line : Bytes) : Listener :=
  if self.challenged then { self with challenged := false }
  else if self.state.phase = .Data then
    if is_data_end line then self
    else { self with state.current_mail := self.state.current_mail.append_data (unstuff line) }
  else { self with command := (Command.parse line).toOption }

/-- The last reply to a line. While a mail is taken there is none but the one at its end. -/
def code (self : Listener) (code : Nat) : Listener :=
  if code = 334 then { self with challenged := true }
  else if self.state.phase = .Data then
    { self with state.current_mail := .empty, state.phase := .Greeted, challenged := false }
  else
    match self.command with
    | some command =>
      if code < 400 then
        { self with
          state := command.accepted self.state, is_tls := self.is_tls || command = .StartTls, challenged := false }
      else { self with challenged := false }
    | none => { self with challenged := false }

def hear (self : Listener) : Said → Listener
  | .Line line => self.line line
  | .Code code has_next => if has_next then self else self.code code

def listen (self : Listener) (said : List Said) : Listener := said.foldl hear self

/-- What is heard of some events. -/
def follow {Effect : Type} (self : Listener) (events : List (Event Effect)) : Listener :=
  self.listen (events.filterMap said_of)

section
variable {Effect : Type} {w : Listener}

@[simp] theorem follow_nil : w.follow ([] : List (Event Effect)) = w := rfl

@[simp] theorem follow_append (events later : List (Event Effect)) :
    w.follow (events ++ later) = (w.follow events).follow later := by
  simp [follow,listen]

@[simp] theorem follow_received (line : Bytes) (events : List (Event Effect)) :
    w.follow (.Received line :: events) = (w.line line).follow events := rfl

@[simp] theorem follow_parse (line : Bytes) (events : List (Event Effect)) :
    w.follow (.Parse line :: events) = w.follow events := rfl

@[simp] theorem follow_reply (response : Response) (events : List (Event Effect)) :
    w.follow (.Reply response :: events) = (if response.has_next then w else w.code response.code).follow events := rfl

@[simp] theorem follow_onHello (domain : Text) (extended : Bool) (result : Except Text HelloResult)
    (events : List (Event Effect)) : w.follow (.OnHello domain extended result :: events) = w.follow events := rfl

@[simp] theorem follow_onLogin (username password : Text) (result : Except Text LoginResult)
    (events : List (Event Effect)) : w.follow (.OnLogin username password result :: events) = w.follow events := rfl

@[simp] theorem follow_onMail (mail : Mail) (result : Except Text Unit) (events : List (Event Effect)) :
    w.follow (.OnMail mail result :: events) = w.follow events := rfl

@[simp] theorem follow_onReset (result : Except Text Unit) (events : List (Event Effect)) :
    w.follow (.OnReset result :: events) = w.follow events := rfl

@[simp] theorem follow_tlsStarted (events : List (Event Effect)) : w.follow (.TlsStarted :: events) = w.follow events := rfl

@[simp] theorem follow_effects (effects : List Effect) : w.follow (effects.map .Effect) = w := by
  have silent : (effects.map .Effect).filterMap said_of = [] := by simp [said_of]
  rw [follow,silent]
  rfl

end

/-- A challenge that is followed by a reply makes no difference. -/
theorem code_challenged (w : Listener) {code : Nat} (other : code ≠ 334) : (w.code 334).code code = w.code code := by
  have asked : w.code 334 = { w with challenged := true } := if_pos rfl
  rw [asked]
  simp only [Listener.code,if_neg other]

/-! ### Replies in more than one line -/

section
variable {Effect : Type} {w : Listener}

theorem follow_features (features : List Text) (some : features ≠ []) :
    w.follow ((feature_replies features).map .Reply : List (Event Effect)) = w.code 250 := by
  fun_induction feature_replies features with
  | case1 => exact absurd rfl some
  | case2 feature => rfl
  | case3 feature features other ih => exact ih other

theorem follow_hello {H : Type} (v : View H) (extended : Bool) :
    w.follow ((v.hello_replies extended).map .Reply : List (Event Effect)) = w.code 250 := by
  cases extended with
  | true => exact follow_features v.features (List.append_ne_nil_of_right_ne_nil _ (List.cons_ne_nil _ _))
  | false => rfl

theorem follow_help {H : Type} (v : View H) :
    w.follow (v.help_replies.map .Reply : List (Event Effect)) = w.code 214 := rfl

theorem challenges_ask : ∀ challenge ∈ challenges, challenge.code = 334 ∧ challenge.has_next = false := by decide

/-- The answers to challenges are no commands. -/
theorem follow_dialogue (exchanged : List (Response × Bytes)) (challenged : ∀ e ∈ exchanged, e.1 ∈ challenges)
    (calm : w.challenged = false) : w.follow (dialogue exchanged : List (Event Effect)) = w := by
  induction exchanged with
  | nil => rfl
  | cons exchange exchanged ih =>
    obtain ⟨code,ends⟩ := challenges_ask exchange.1 (challenged exchange (by simp))
    have answered : (w.code 334).line exchange.2 = w := by
      simp only [Listener.code,if_true,line]
      rw [← calm]
    have cut : (dialogue (exchange :: exchanged) : List (Event Effect)) =
        .Reply exchange.1 :: .Received exchange.2 :: dialogue exchanged := rfl
    rw [cut,follow_reply,ends,if_neg Bool.false_ne_true,code,follow_received,answered]
    exact ih fun e member => challenged e (by simp [member])

end

/-! ### Keeping up with a session -/

/-- The listener is right about the session. -/
structure Knows {H : Type} (w : Listener) (v : View H) : Prop where
  state : w.state = v.state
  is_tls : w.is_tls = v.is_tls
  calm : w.challenged = false

section
variable {H Effect : Type} {w : Listener} {v v' : View H} {line : Bytes} {events : List (Event Effect)}

theorem Knows.line_eq (knows : w.Knows v) (command : v.state.phase ≠ .Data) :
    w.line line = { w with command := (Command.parse line).toOption } := by
  rw [Listener.line,knows.calm,if_neg Bool.false_ne_true,knows.state,if_neg command]

theorem Knows.line_calm (knows : w.Knows v) (command : v.state.phase ≠ .Data) : (w.line line).challenged = false := by
  rw [knows.line_eq command]
  exact knows.calm

/-- A command of which nothing comes. -/
theorem Knows.refused (knows : w.Knows v) (line : Bytes) (command : v.state.phase ≠ .Data) (code : Nat)
    (failure : 500 ≤ code) :
    ((w.line line).code code).Knows v := by
  have challenge : code ≠ 334 := by omega
  have failed : ¬ code < 400 := by omega
  rw [knows.line_eq command,Listener.code,if_neg challenge]
  simp only [knows.state,if_neg command,if_neg failed]
  cases (Command.parse line).toOption with
  | none => exact ⟨rfl,knows.is_tls,rfl⟩
  | some _ => exact ⟨rfl,knows.is_tls,rfl⟩

/-- A command that is accepted. -/
theorem Knows.accepted (knows : w.Knows v) (command : v.state.phase ≠ .Data) {c : Command}
    (parsed : Command.parse line = .ok c) (code : Nat) (success : code < 400) (other : code ≠ 334)
    (state : v'.state = c.accepted v.state) (is_tls : v'.is_tls = (v.is_tls || c = .StartTls)) :
    ((w.line line).code code).Knows v' := by
  rw [knows.line_eq command,parsed,Listener.code,if_neg other]
  simp only [knows.state,if_neg command,Except.toOption,if_pos success]
  refine ⟨state.symm,?_,rfl⟩
  rw [is_tls,knows.is_tls]

variable [Handler H Effect] {ended : Prop}

/-- Whatever a session makes of a line, the listener keeps up with it. -/
theorem Knows.reacts (knows : w.Knows v) (reaction : Reaction ended v line events .Continue v') :
    (w.follow (.Received line :: events)).Knows v' := by
  rw [follow_received]
  cases reaction with
  | captured data more fits =>
    rw [follow_nil,Listener.line,knows.calm,if_neg Bool.false_ne_true,knows.state,if_pos data,more,
      if_neg Bool.false_ne_true]
    exact ⟨rfl,knows.is_tls,rfl⟩
  | delivered called data done ran =>
    have kept : w.line line = w := by
      rw [Listener.line,knows.calm,if_neg Bool.false_ne_true,knows.state,if_pos data,if_pos done]
    have ends : (mail_reply called.result).has_next = false ∧ (mail_reply called.result).code ≠ 334 := by
      cases called.result <;> exact ⟨rfl,by simp [mail_reply,MAIL_HANDLER_ERROR,MAIL_ACCEPTED,Response.fixed]⟩
    rw [follow_append,follow_effects,follow_onMail,follow_reply,ends.1,if_neg Bool.false_ne_true,follow_nil,kept,
      Listener.code,if_neg ends.2,knows.state,if_pos data]
    exact ⟨rfl,knows.is_tls,rfl⟩
  | refused response command refuses =>
    have failure := refusals_code response (refusal_known refuses)
    rw [follow_parse,follow_reply,follow_nil]
    split
    · rw [knows.line_eq command]
      exact ⟨knows.state,knows.is_tls,knows.calm⟩
    · exact knows.refused line command response.code failure
  | greeted domain extended called parsed phase ran accepted =>
    rw [List.cons_append,follow_parse,follow_append,follow_effects,follow_onHello,follow_hello]
    exact knows.accepted (by simp [phase]) parsed 250 (by decide) (by decide) rfl (by simp)
  | helped parsed command =>
    rw [follow_parse,follow_help]
    exact knows.accepted command parsed 214 (by decide) (by decide) rfl (by simp)
  | idle parsed command => exact knows.accepted command parsed 250 (by decide) (by decide) rfl (by simp)
  | upgraded parsed accepts =>
    obtain ⟨phase,-⟩ := start_tls_accepted accepts
    exact knows.accepted (by simp [phase]) parsed 220 (by decide) (by decide) rfl (by simp)
  | authenticated method initial exchanged username password called parsed accepts challenged ran accepted =>
    obtain ⟨phase,-⟩ := authenticate_accepted accepts
    rw [List.cons_append,follow_parse,follow_append,follow_append,follow_effects,follow_onLogin,
      follow_dialogue exchanged challenged (knows.line_calm (by simp [phase]))]
    exact knows.accepted (by simp [phase]) parsed 235 (by decide) (by decide) rfl (by simp)
  | garbled method initial exchanged err parsed accepts challenged known =>
    obtain ⟨phase,-⟩ := authenticate_accepted accepts
    rw [List.cons_append,follow_parse,follow_append,
      follow_dialogue exchanged challenged (knows.line_calm (by simp [phase]))]
    exact knows.refused _ (by simp [phase]) 500 (by decide)
  | deserted method initial exchanged challenge err parsed accepts challenged asked known eof =>
    obtain ⟨phase,-⟩ := authenticate_accepted accepts
    obtain ⟨code,ends⟩ := challenges_ask challenge asked
    rw [List.cons_append,follow_parse,follow_append,
      follow_dialogue exchanged challenged (knows.line_calm (by simp [phase])),follow_reply,ends,
      if_neg Bool.false_ne_true,code]
    have refused := knows.refused line (by simp [phase]) 500 (by decide)
    rw [← code_challenged _ (by decide)] at refused
    exact refused
  | mail sender parsed accepts =>
    obtain ⟨phase,-⟩ := mail_accepted accepts
    exact knows.accepted (by simp [phase]) parsed 250 (by decide) (by decide) rfl (by simp)
  | recipient recipient parsed accepts =>
    obtain ⟨phase,-⟩ := recipient_accepted accepts
    exact knows.accepted (by simp [phase]) parsed 250 (by decide) (by decide) rfl (by simp)
  | data parsed accepts =>
    obtain ⟨phase,-⟩ := data_accepted accepts
    exact knows.accepted (by simp [phase]) parsed 354 (by decide) (by decide) rfl (by simp)
  | reset called parsed command ran =>
    rw [follow_parse,follow_reply,follow_append,follow_effects,follow_onReset,follow_nil]
    exact knows.accepted command parsed 250 (by decide) (by decide) rfl (by simp)

theorem listens_habit (is_tls : Bool) :
    Habit (fun (v : View H) (trace : List (Event Effect)) => ((new is_tls).follow trace).Knows v) (fun _ => True) where
  always _ := trivial
  react knows reaction := by
    refine ⟨trivial,?_⟩
    rintro rfl
    rw [follow_append]
    exact knows.reacts reaction

end
end Listener

section
variable {H Effect : Type} [Handler H Effect] [Base64]

theorem listener_knows {connection : Connection} {config : SessionConfig H} {n : Nat} {t : Session H Effect}
    (running : handle n (.new connection config) = .ok none t) :
    ((Listener.new connection.is_tls).follow t.trace).Knows t.view := by
  have told := (Listener.listens_habit connection.is_tls).handle_spec (.new connection config : Session H Effect) trivial
    ⟨rfl,rfl,rfl⟩ n
  have ends := ends_of_triple told rfl
  rw [running] at ends
  exact ends.2 rfl

/-- Whatever is said to it, a session is in the state, to the bytes of the mail that it takes,
    that one comes to who heard the lines and the codes of the replies. So two
    sessions with which the same was spoken are in the same state, whatever their
    configurations and handlers are. -/
theorem dialogue_tells_state {connection : Connection} {config : SessionConfig H} {n : Nat} {t : Session H Effect}
    (running : handle n (.new connection config) = .ok none t) :
    ((Listener.new connection.is_tls).follow t.trace).state = t.state ∧
    ((Listener.new connection.is_tls).follow t.trace).is_tls = t.connection.any Connection.is_tls ∧
    ∀ (H' Effect' : Type) [Handler H' Effect'] (connection' : Connection) (config' : SessionConfig H') (m : Nat)
      (u : Session H' Effect'), handle m (.new connection' config') = .ok none u →
      connection'.is_tls = connection.is_tls → u.trace.filterMap said_of = t.trace.filterMap said_of →
      u.state = t.state ∧ u.connection.any Connection.is_tls = t.connection.any Connection.is_tls := by
  have knows := listener_knows running
  refine ⟨knows.state,knows.is_tls,?_⟩
  intro H' Effect' _ connection' config' m u running' secured same
  have knows' := listener_knows running'
  rw [Listener.follow,same,secured] at knows'
  exact ⟨knows'.state.symm.trans knows.state,knows'.is_tls.symm.trans knows.is_tls⟩

end

section
attribute [local instance] Sample.argon2 Sample.base64

/-- A session in the midst of a mail, and one of another server, with another limit. -/
def sampleSpoken (limit : Nat) : EStateM.Result SessionError (Session ProxyHandler ProxyEffect) (Option Unit) :=
  handle 5 (.new (.new_plain (Sample.sends "EHLO x\r\nMAIL FROM:<a>\r\nRCPT TO:<c>\r\nDATA\r\nhi\r\n") none)
    { Sample.config .None with max_message_size := limit })

theorem dialogue_tells_state_sample : ∃ t u, sampleSpoken 10 = .ok none t ∧ sampleSpoken 99 = .ok none u ∧
    t.state.phase = .Data ∧ ((Listener.new false).follow t.trace).state = t.state ∧ u.state = t.state := by
  have running : sampleSpoken 10 = .ok none (final (sampleSpoken 10)) := ran_of_value (by decide +kernel)
  have other : sampleSpoken 99 = .ok none (final (sampleSpoken 99)) := ran_of_value (by decide +kernel)
  have phase : (final (sampleSpoken 10)).state.phase = .Data := by decide +kernel
  have same : (final (sampleSpoken 99)).trace.filterMap said_of = (final (sampleSpoken 10)).trace.filterMap said_of := by
    decide +kernel
  obtain ⟨told,-,alike⟩ := dialogue_tells_state running
  exact ⟨_,_,running,other,phase,told,(alike ProxyHandler ProxyEffect _ _ 5 _ other rfl same).1⟩

end
end PostGraph
