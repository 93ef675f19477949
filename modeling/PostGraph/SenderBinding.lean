import PostGraph.Lib.Traces
import PostGraph.Proxy
import PostGraph.Turns

/-!
Where authentication is required, every mail is sent in the name of the user of
the last login. The login flag is kept by the session and the username by the
handler, so the invariant is about both: a session with an envelope is logged in,
and while a session is logged in the handler knows the user of the last login.
-/
namespace PostGraph
open Traces Programs
set_option autoImplicit false

/-- What ends a login: another one, RSET, and an upgrade. -/
def EndsLogin : Event ProxyEffect → Prop
  | .OnLogin _ _ _ => True
  | .TlsStarted => True
  | .Parse line => Command.parse line = .ok .Reset
  | _ => False

/-- An event that neither sends a mail nor ends the login. -/
def Idle (e : Event ProxyEffect) : Prop := (∀ sender data, e ≠ .Effect (.SendMail sender data)) ∧ ¬ EndsLogin e

@[simp] theorem idle_received (line : Bytes) : Idle (.Received line) := ⟨by simp,id⟩
@[simp] theorem idle_reply (response : Response) : Idle (.Reply response) := ⟨by simp,id⟩

theorem idle_parse {line : Bytes} (other : Command.parse line ≠ .ok .Reset) : Idle (.Parse line) := ⟨by simp,other⟩

theorem idle_coded {codes : List Nat} {e : Event ProxyEffect} (coded : e.Coded codes) : Idle e := by
  cases coded
  exact idle_reply _

theorem idle_handshake {e : Event ProxyEffect} (handshake : e.Handshake) : Idle e := by
  cases handshake
  · exact idle_received _
  · exact idle_reply _

section
variable [Argon2]

/-- The last login, still in effect after `past`, is one of `user` with a correct
    password. -/
def LoggedIn (auth : UserAuth) (past : List (Event ProxyEffect)) (user : Text) : Prop :=
  ∃ before password after, past = before ++ Event.OnLogin user password (.ok .Ok) :: after ∧
    auth.verify_user_password user password = .ok () ∧ ∀ e ∈ after, ¬ EndsLogin e

def SendsAsUser (auth : UserAuth) (past : List (Event ProxyEffect)) : Event ProxyEffect → Prop
  | .Effect (.SendMail sender _) => LoggedIn auth past sender
  | _ => True

variable {auth : UserAuth} {past events : List (Event ProxyEffect)} {user : Text}

theorem LoggedIn.later (login : LoggedIn auth past user) (lasting : ∀ e ∈ events, ¬ EndsLogin e) :
    LoggedIn auth (past ++ events) user := by
  obtain ⟨before,password,after,split,verified,quiet⟩ := login
  refine ⟨before,password,after ++ events,by simp [split],verified,?_⟩
  intro e member
  exact (List.mem_append.mp member).elim (quiet e) (lasting e)

/-- What the session and its handler know of the login, given what happened. -/
structure Binding (auth : UserAuth) (v : View ProxyHandler) (past : List (Event ProxyEffect)) : Prop where
  sent : Always (SendsAsUser auth) past
  users : v.config.handler.config.smtp.auth = auth
  required : v.config.auth_mode ≠ .None
  login : v.state.is_authenticated = true → ∃ user, v.config.handler.username = some user ∧ LoggedIn auth past user
  envelope : v.state.phase = .Envelope ∨ v.state.phase = .Data → v.state.is_authenticated = true

theorem Binding.authenticated {v : View ProxyHandler} (binding : Binding auth v past)
    (passed : v.is_authenticated = true) : v.state.is_authenticated = true := by
  simpa [View.is_authenticated,SessionConfig.has_auth,binding.required] using passed

theorem Idle.sends {e : Event ProxyEffect} (idle : Idle e) (past : List (Event ProxyEffect)) :
    SendsAsUser auth past e := by
  cases e with
  | Effect effect =>
    cases effect with
    | SendMail sender data => exact absurd rfl (idle.1 sender data)
    | Request _ => trivial
  | _ => trivial

theorem sends_quiet {e : Event ProxyEffect} (quiet : e.Quiet) (past : List (Event ProxyEffect)) :
    SendsAsUser auth past e := by
  cases quiet <;> trivial

/-- Idle events leave a session bound that does not become logged in by them. -/
theorem Binding.idle {v v' : View ProxyHandler} (binding : Binding auth v past) (idle : ∀ e ∈ events, Idle e)
    (config : v'.config = v.config) (flag : v'.state.is_authenticated = v.state.is_authenticated)
    (envelope : v'.state.phase = .Envelope ∨ v'.state.phase = .Data → v.state.is_authenticated = true) :
    Binding auth v' (past ++ events) where
  sent := always_quiet binding.sent fun e member past => (idle e member).sends past
  users := config ▸ binding.users
  required := config ▸ binding.required
  login passed := by
    obtain ⟨user,known,login⟩ := binding.login (flag ▸ passed)
    exact ⟨user,config ▸ known,login.later fun e member => (idle e member).2⟩
  envelope inside := flag ▸ envelope inside

variable [Base64]

/-- The effects of the end of a mail, sent in an envelope. -/
theorem Binding.mail {v : View ProxyHandler} (line : Bytes) {called : Called ProxyHandler ProxyEffect Unit}
    (binding : Binding auth v past) (data : v.state.phase = .Data)
    (ran : v.config.handler.on_mail v.state.current_mail = called) :
    Always (SendsAsUser auth) (past ++ Event.Received line :: called.effects.map .Effect) := by
  obtain ⟨-,-,split⟩ := ProxyHandler.on_mail_effects ran
  have received : Always (SendsAsUser auth) (past ++ [Event.Received line]) := always_snoc.mpr ⟨binding.sent,trivial⟩
  rcases split with ⟨-,none,-⟩ | ⟨permitted,sent,-⟩
  · simpa [none] using received
  · obtain ⟨user,known,login⟩ := binding.login (binding.envelope (.inr data))
    have same : user = v.state.current_mail.sender := by simpa [ProxyHandler.permits,known] using permitted
    have now : LoggedIn auth (past ++ [Event.Received line]) v.state.current_mail.sender :=
      same ▸ login.later (by simp [EndsLogin])
    rw [sent,List.map_cons,List.append_cons,List.append_cons]
    exact always_quiet (always_snoc.mpr ⟨received,now⟩) (by simp [SendsAsUser])

theorem binding_invariant : Invariant (Binding auth) (Always (SendsAsUser auth)) where
  always binding := binding.sent
  step := by
    intro v past line events outcome v' binding step
    have keep {v' : View ProxyHandler} {trace : List (Event ProxyEffect)} (b : Binding auth v' trace) :
        Always (SendsAsUser auth) trace ∧ (Outcome.Continue = .Continue → Binding auth v' trace) := ⟨b.sent,fun _ => b⟩
    cases step with
    | captured data more fits => exact keep (binding.idle (by simp) rfl rfl fun inside => binding.envelope (.inr data))
    | delivered called data done ran =>
      have sent := binding.mail line data ran
      obtain ⟨username,config,-⟩ := ProxyHandler.on_mail_effects ran
      have trace : past ++ Event.Received line :: (called.effects.map .Effect ++
          [Event.OnMail v.state.current_mail called.result,.Reply (mail_reply called.result)]) =
          (past ++ Event.Received line :: called.effects.map .Effect) ++
            [Event.OnMail v.state.current_mail called.result,.Reply (mail_reply called.result)] := by simp
      rw [trace]
      refine keep ⟨always_quiet sent (by simp [SendsAsUser]),?_,binding.required,?_,by simp⟩
      · simpa [config] using binding.users
      · intro passed
        obtain ⟨user,known,login⟩ := binding.login passed
        exact ⟨user,username.trans known,(login.later (by simp [EndsLogin])).later (by simp [EndsLogin])⟩
    | undelivered called v' data done ran config =>
      have sent := binding.mail line data ran
      refine ⟨?_,by simp⟩
      have extended := always_quiet (u := [.OnMail v.state.current_mail called.result]) sent (by simp [SendsAsUser])
      simpa using extended
    | refused handshake response command other exchanged code =>
      refine keep (binding.idle ?_ rfl rfl binding.envelope)
      simpa [idle_parse other,or_imp,forall_and] using fun e member => idle_handshake (exchanged e member)
    | greeted domain extended called responses parsed phase ran accepted codes =>
      obtain rfl := ran
      have idle : Idle (.OnHello domain extended (.ok HelloResult.Ok)) := ⟨by simp,id⟩
      refine keep (binding.idle ?_ rfl rfl (by simp))
      simpa [idle_parse,parsed,idle,Handler.on_hello] using fun e member => idle_coded (codes e member)
    | ungreeted domain extended called responses v' parsed phase ran codes config =>
      obtain rfl := ran
      refine ⟨always_quiet binding.sent ?_,by simp⟩
      simpa [SendsAsUser,Handler.on_hello] using fun e member => (idle_coded (codes e member)).sends
    | informed command responses parsed which phase codes =>
      refine keep (binding.idle ?_ rfl rfl binding.envelope)
      have other : Command.parse line ≠ .ok .Reset := by rcases which with rfl | rfl <;> simp [parsed]
      simpa [idle_parse other] using fun e member => idle_coded (codes e member)
    | upgraded parsed phase supported =>
      refine keep ⟨always_quiet binding.sent (by simp [SendsAsUser]),binding.users,binding.required,?_,?_⟩
      · simp [SessionState.new]
      · simp [SessionState.new]
    | authenticated method initial handshake username password called parsed phase permitted exchanged ran accepted =>
      obtain ⟨silent,⟨-,handler,verified⟩ | ⟨rejected,-⟩⟩ := ProxyHandler.on_login_ok ran
      · refine keep ⟨always_quiet binding.sent ?_,?_,binding.required,?_,by simp [phase]⟩
        · simpa [silent,SendsAsUser,or_imp,forall_and] using fun e member => (idle_handshake (exchanged e member)).sends
        · simpa [handler] using binding.users
        · refine fun _ => ⟨username,by simp [handler],past ++ Event.Received line :: .Parse line :: handshake,password,
            [.Reply AUTH_OK],by simp [silent,accepted],binding.users ▸ verified,by simp [EndsLogin]⟩
      · simp [rejected] at accepted
    | unauthenticated method initial handshake last username password called v' parsed phase permitted exchanged ran
        answer config =>
      obtain ⟨silent,-⟩ := ProxyHandler.on_login_ok ran
      refine ⟨always_quiet binding.sent ?_,by simp⟩
      rcases answer with rfl | ⟨rfl,-⟩
      · simpa [silent,SendsAsUser,or_imp,forall_and] using fun e member => (idle_handshake (exchanged e member)).sends
      · simpa [silent,SendsAsUser,or_imp,forall_and] using fun e member => (idle_handshake (exchanged e member)).sends
    | mail sender parsed phase authenticated =>
      exact keep (binding.idle (by simp [idle_parse,parsed]) rfl rfl fun _ => binding.authenticated authenticated)
    | recipient recipient parsed phase authenticated =>
      exact keep (binding.idle (by simp [idle_parse,parsed]) rfl rfl fun _ => binding.authenticated authenticated)
    | data parsed phase authenticated =>
      exact keep (binding.idle (by simp [idle_parse,parsed]) rfl rfl fun _ => binding.authenticated authenticated)
    | reset called parsed phase ran =>
      obtain rfl := ran
      refine keep ⟨always_quiet binding.sent ?_,binding.users,binding.required,?_,?_⟩
      · simp [SendsAsUser,Handler.on_reset,ProxyHandler.on_reset]
      · simp [SessionState.new]
      · simp [SessionState.new]
    | quit parsed phase =>
      exact ⟨always_quiet binding.sent (by simp [SendsAsUser]),by simp⟩
    | dropped events v' quiet config early =>
      refine ⟨always_quiet binding.sent ?_,by simp⟩
      simpa [SendsAsUser] using fun e member => sends_quiet (quiet e member)

/-- Every mail that a session sends under an authentication mode is sent as the
    user of the last login. -/
theorem sends_as_user (connection : Connection) (config : SessionConfig ProxyHandler)
    (required : config.auth_mode ≠ .None) (n : Nat) :
    Always (SendsAsUser config.handler.config.smtp.auth)
      (final (Session.handle n (.new connection config))).trace := by
  refine handle_always binding_invariant connection config always_nil ?_ n
  refine ⟨always_singleton.mpr trivial,rfl,required,?_,?_⟩
  · simp [Session.new,SessionState.new]
  · simp [Session.new,SessionState.new]

/-- In a session that requires authentication, whatever the client sends and
    however the callbacks go, a mail is sent in the name of the user of the last
    login: a login with a correct password, after which there was no other one, no
    RSET and no upgrade. -/
theorem mail_sent_as_last_login (connection : Connection) (config : SessionConfig ProxyHandler)
    (required : config.auth_mode ≠ .None) (n : Nat) (past rest : List (Event ProxyEffect)) (sender : Text)
    (data : Bytes) (sent : (final (Session.handle n (.new connection config))).trace =
      past ++ Event.Effect (ProxyEffect.SendMail sender data) :: rest) :
    ∃ before password after, past = before ++ Event.OnLogin sender password (.ok .Ok) :: after ∧
      config.handler.config.smtp.auth.verify_user_password sender password = .ok () ∧
      ∀ e ∈ after, (∀ username password result, e ≠ .OnLogin username password result) ∧ e ≠ .TlsStarted ∧
        ∀ line, Command.parse line = .ok .Reset → e ≠ .Parse line := by
  obtain ⟨before,password,after,split,verified,lasting⟩ := sends_as_user connection config required n past _ rest sent
  refine ⟨before,password,after,split,verified,?_⟩
  intro e member
  have quiet := lasting e member
  refine ⟨?_,?_,?_⟩
  · rintro username password result rfl
    exact quiet trivial
  · rintro rfl
    exact quiet trivial
  · rintro line reset rfl
    exact quiet reset

end

section
attribute [local instance] Sample.argon2 Sample.base64

def sampleLogin : Connection := .new_plain
  (Sample.sends "EHLO x\r\nAUTH PLAIN AGEAYg==\r\nMAIL FROM:<a>\r\nRCPT TO:<c>\r\nDATA\r\nhi\r\n.\r\nQUIT\r\n") none

theorem mail_sent_as_last_login_sample : ∃ past rest before password after,
    (final (Session.handle 9 (.new sampleLogin (Sample.config .Always)))).trace =
      past ++ Event.Effect (ProxyEffect.SendMail "a".toList (ascii "hi\r\n")) :: rest ∧
    past = before ++ Event.OnLogin "a".toList password (.ok .Ok) :: after := by
  have sent : Event.Effect (ProxyEffect.SendMail "a".toList (ascii "hi\r\n")) ∈
      (final (Session.handle 9 (.new sampleLogin (Sample.config .Always)))).trace := by decide +kernel
  obtain ⟨past,rest,split⟩ := List.append_of_mem sent
  obtain ⟨before,password,after,login,-⟩ :=
    mail_sent_as_last_login sampleLogin (Sample.config .Always) (by decide) 9 past rest _ _ split
  exact ⟨past,rest,before,password,after,split,login⟩

end
end PostGraph
