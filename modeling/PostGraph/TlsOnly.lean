import PostGraph.Alike
import PostGraph.Proxy
import PostGraph.Transactions

/-!
Where TLS is required for authentication, credentials are asked for, read and checked
over TLS only, and so is all of a mail that is handed over: a session that is logged
in is on TLS, since nothing but an upgrade changes the connection and an upgrade ends
the login.
-/
namespace PostGraph
open Traces Programs Couplings Session
set_option autoImplicit false

variable {H Effect : Type}

/-- The connection of a session that began on `c` is TLS after `past`. -/
def Secured (c : Connection) (past : List (Event Effect)) : Prop := c.is_tls = true ∨ .TlsStarted ∈ past

/-- A login succeeded, and the session did not start over since. -/
def Authenticated (past : List (Event Effect)) : Prop :=
  ∃ before username password after, past = before ++ Event.OnLogin username password (.ok .Ok) :: after ∧
    ∀ e ∈ after, ¬ Restarts e

/-- Challenges are sent and answered and logins tried over TLS. The transaction of a mail,
    from HELO / EHLO to the end of its data, lies in a part of the trace that is TLS from
    its beginning, and in it the login. -/
def Guarded (c : Connection) (past : List (Event Effect)) : Event Effect → Prop
  | .Reply response => response.code = 334 → Secured c past
  | .Received _ => Challenged past → Secured c past
  | .OnLogin _ _ _ => Secured c past
  | .OnMail mail _ => ∃ before after, past = before ++ after ∧ Secured c before ∧ Authenticated after ∧ Delivered after mail
  | _ => True

section
variable {c : Connection} {v v' : View H} {past tail events : List (Event Effect)} {mail : Mail}

theorem Secured.later (secured : Secured c past) : Secured c (past ++ tail) :=
  secured.imp_right fun started => by simp [started]

theorem secured_silent (silent : .TlsStarted ∉ events) : Secured c (past ++ events) ↔ Secured c past := by
  simp [Secured,silent]

theorem Authenticated.later (authenticated : Authenticated past) (lasting : ∀ e ∈ events, ¬ Restarts e) :
    Authenticated (past ++ events) := by
  obtain ⟨before,username,password,after,split,quiet⟩ := authenticated
  refine ⟨before,username,password,after ++ events,by simp [split],?_⟩
  intro e member
  exact (List.mem_append.mp member).elim (quiet e) (lasting e)

/-! ### What an upgrade leaves behind -/

theorem restarts_upgrade : Restarts (.TlsStarted : Event Effect) := trivial

/-- What begins without an upgrade begins after it. -/
theorem begins_after {m : Event Effect} {before rest : List (Event Effect)}
    (split : past ++ m :: tail = before ++ rest) (absent : m ∉ rest) :
    ∃ before', before = past ++ m :: before' ∧ tail = before' ++ rest := by
  rcases List.append_eq_append_iff.mp split with ⟨more,beforeIs,restIs⟩ | ⟨more,pastIs,restIs⟩
  · cases more with
    | nil => exact absurd (by simp [show rest = m :: tail by simpa using restIs.symm]) absent
    | cons first more =>
      obtain ⟨rfl,rfl⟩ : m = first ∧ tail = more ++ rest := by simpa using restIs
      exact ⟨more,beforeIs,rfl⟩
  · exact absurd (by simp [restIs]) absent

theorem Welcomed.since (welcomed : Welcomed (past ++ Event.TlsStarted :: tail)) : Welcomed tail := by
  obtain ⟨before,domain,extended,after,split,quiet⟩ := welcomed
  obtain ⟨before',-,rfl⟩ := begins_after split (by simpa using fun started => quiet _ started restarts_upgrade)
  exact ⟨before',domain,extended,after,rfl,quiet⟩

theorem Authenticated.since (authenticated : Authenticated (past ++ Event.TlsStarted :: tail)) : Authenticated tail := by
  obtain ⟨before,username,password,after,split,quiet⟩ := authenticated
  obtain ⟨before',-,rfl⟩ := begins_after split (by simpa using fun started => quiet _ started restarts_upgrade)
  exact ⟨before',username,password,after,rfl,quiet⟩

theorem Enveloped.since (enveloped : Enveloped (past ++ Event.TlsStarted :: tail) mail) : Enveloped tail mail := by
  obtain ⟨before,line,response,sender,after,split,code,parsed,last,quiet,known⟩ := enveloped
  obtain ⟨before',-,rfl⟩ := begins_after split (by simpa using fun started => (quiet _ started).1 restarts_upgrade)
  exact ⟨before',line,response,sender,after,rfl,code,parsed,last,quiet,known⟩

theorem Captured.since {data : Bytes} (captured : Captured (past ++ Event.TlsStarted :: tail) data) : Captured tail data := by
  obtain ⟨before,response,lines,split,known⟩ := captured
  obtain ⟨before',-,rfl⟩ := begins_after split (by simp)
  exact ⟨before',response,lines,rfl,known⟩

/-- A mail is all of one connection. -/
theorem Delivered.since (delivered : Delivered (past ++ Event.TlsStarted :: tail) mail) : Delivered tail mail := by
  obtain ⟨before,last,effects,split,done,welcomed,enveloped,captured⟩ := delivered
  obtain ⟨before',rfl,rfl⟩ := begins_after split (by simp)
  exact ⟨before',last,effects,rfl,done,welcomed.since,enveloped.since,captured.since⟩

theorem guarded_mail (result : Except Text Unit) (secured : Secured c past) (authenticated : Authenticated past)
    (delivered : Delivered past mail) : Guarded c past (.OnMail mail result) := by
  rcases secured with tls | started
  · exact ⟨[],past,rfl,.inl tls,authenticated,delivered⟩
  · obtain ⟨before,after,rfl⟩ := List.append_of_mem started
    exact ⟨before ++ [Event.TlsStarted],after,by simp,.inr (by simp),authenticated.since,delivered.since⟩

/-! ### Turns -/

/-- What is done on a secured connection is guarded, but for the delivery of a mail. -/
theorem guarded_secured (guarded : Always (Guarded c) past) (secured : Secured c past)
    (unmailed : ∀ mail result, .OnMail mail result ∉ events) : Always (Guarded c) (past ++ events) := by
  refine always_append.mpr ⟨guarded,?_⟩
  rintro before e rest rfl
  have here : Secured c (past ++ before) := secured.later
  cases e with
  | OnMail mail result => exact absurd (by simp) (unmailed mail result)
  | Reply _ => exact fun _ => here
  | Received _ => exact fun _ => here
  | OnLogin _ _ _ => exact here
  | _ => trivial

/-- An event that is the same on any connection. -/
def Public : Event Effect → Prop
  | .Reply response => response.code ≠ 334
  | .Received _ => False
  | .OnLogin _ _ _ => False
  | .OnMail _ _ => False
  | _ => True

theorem guarded_line (guarded : Always (Guarded c) past) (line : Bytes) : Always (Guarded c) (past ++ [Event.Received line]) := by
  refine always_snoc.mpr ⟨guarded,?_⟩
  rintro ⟨response,last,code⟩
  obtain ⟨before,rfl⟩ := List.getLast?_eq_some_iff.mp last
  exact ((always_snoc.mp guarded).2 code).later

theorem guarded_public (guarded : Always (Guarded c) past) (line : Bytes) (open' : ∀ e ∈ events, Public e) :
    Always (Guarded c) (past ++ Event.Received line :: events) := by
  rw [List.append_cons]
  apply always_quiet (guarded_line guarded line)
  intro e member before
  have harmless := open' e member
  cases e with
  | Reply response => exact fun code => absurd code harmless
  | Received _ => exact harmless.elim
  | OnLogin _ _ _ => exact harmless.elim
  | OnMail _ _ => exact harmless.elim
  | _ => trivial

/-- What a session knows of its login, given what happened. -/
structure Credentials (c : Connection) (v : View H) (past : List (Event Effect)) : Prop where
  guarded : Always (Guarded c) past
  required : v.config.auth_mode = .RequireTls
  tls : v.is_tls = true ↔ Secured c past
  login : v.state.is_authenticated = true → v.is_tls = true ∧ Authenticated past
  envelope : v.state.phase = .Envelope ∨ v.state.phase = .Data → v.state.is_authenticated = true

theorem Credentials.passed (credentials : Credentials c v past) (passed : v.is_authenticated = true) :
    v.state.is_authenticated = true := by
  simpa [View.is_authenticated,SessionConfig.has_auth,credentials.required] using passed

theorem Credentials.permitted (credentials : Credentials c v past) {method : AuthMethod} {initial : Option Bytes}
    (accepts : v.refusal (.ok (.Authenticate method initial)) = none) : Secured c past := by
  obtain ⟨-,always | ⟨-,tls⟩⟩ := authenticate_accepted accepts
  · simp [credentials.required] at always
  · exact credentials.tls.mp tls

/-- Events after which a session knows no more of its login. -/
theorem Credentials.kept (credentials : Credentials c v past) (guarded : Always (Guarded c) (past ++ events))
    (required : v'.config.auth_mode = v.config.auth_mode) (tls : v'.is_tls = v.is_tls)
    (flag : v'.state.is_authenticated = v.state.is_authenticated) (lasting : ∀ e ∈ events, ¬ Restarts e)
    (envelope : v'.state.phase = .Envelope ∨ v'.state.phase = .Data → v.state.is_authenticated = true) :
    Credentials c v' (past ++ events) where
  guarded := guarded
  required := required.trans credentials.required
  tls := by
    rw [tls,secured_silent fun started => lasting _ started restarts_upgrade]
    exact credentials.tls
  login passed := by
    obtain ⟨secure,authenticated⟩ := credentials.login (flag ▸ passed)
    exact ⟨tls ▸ secure,authenticated.later lasting⟩
  envelope inside := flag ▸ envelope inside

theorem delivered_at {effects : List Effect} {result : Except Text Unit} {replied : List (Event Effect)} {line : Bytes}
    (settled : Settled (past ++ Event.Received line :: (effects.map .Effect ++ Event.OnMail mail result :: replied))) :
    Delivered (past ++ Event.Received line :: effects.map .Effect) mail := by
  have handed := settled.1 (past ++ Event.Received line :: effects.map .Effect) (.OnMail mail result) replied (by simp)
  simpa [HandsOver] using handed

theorem dialogue_ordinary {exchanged : List (Response × Bytes)} (challenged : ∀ e ∈ exchanged, e.1 ∈ challenges) :
    ∀ e ∈ (dialogue exchanged : List (Event Effect)), Ordinary e :=
  fun e member => ordinary_handshake (dialogue_handshake challenged e member)

theorem dialogue_unmailed {exchanged : List (Response × Bytes)} (challenged : ∀ e ∈ exchanged, e.1 ∈ challenges)
    (mail : Mail) (result : Except Text Unit) : .OnMail mail result ∉ (dialogue exchanged : List (Event Effect)) :=
  fun member => (dialogue_ordinary challenged _ member).lasting.2 mail result rfl

variable {line : Bytes}

/-- A handshake that is given up. -/
theorem Credentials.exchanged (credentials : Credentials c v past) {method : AuthMethod} {initial : Option Bytes}
    (accepts : v.refusal (.ok (.Authenticate method initial)) = none)
    (ordinary : ∀ e ∈ .Received line :: events, Ordinary e) : Credentials c v (past ++ Event.Received line :: events) := by
  have guarded : Always (Guarded c) (past ++ Event.Received line :: events) := by
    apply guarded_secured credentials.guarded (credentials.permitted accepts)
    intro mail result member
    exact (ordinary _ member).lasting.2 mail result rfl
  exact credentials.kept guarded rfl rfl rfl (fun e member => (ordinary e member).lasting.1) credentials.envelope

/-- The end of a mail's data, in a session that is logged in. -/
theorem Credentials.handed (credentials : Credentials c v past) (effects : List Effect) (result : Except Text Unit)
    (data : v.state.phase = .Data) (delivered : Delivered (past ++ Event.Received line :: effects.map .Effect) mail) :
    Always (Guarded c) (past ++ Event.Received line :: (effects.map .Effect ++ [Event.OnMail mail result])) := by
  obtain ⟨tls,authenticated⟩ := credentials.login (credentials.envelope (.inr data))
  have before : Always (Guarded c) (past ++ Event.Received line :: effects.map .Effect) :=
    guarded_public credentials.guarded line (by simp [Public])
  have called : Guarded c (past ++ Event.Received line :: effects.map .Effect) (.OnMail mail result) :=
    guarded_mail result (credentials.tls.mp tls).later (authenticated.later (by simp [Restarts])) delivered
  simpa using always_snoc.mpr ⟨before,called⟩

/-- A turn of which everything is the same on any connection. -/
theorem Credentials.openly (credentials : Credentials c v past) (open' : ∀ e ∈ events, Public e)
    (lasting : ∀ e ∈ events, ¬ Restarts e) (required : v'.config.auth_mode = v.config.auth_mode) (tls : v'.is_tls = v.is_tls)
    (flag : v'.state.is_authenticated = v.state.is_authenticated)
    (envelope : v'.state.phase = .Envelope ∨ v'.state.phase = .Data → v.state.is_authenticated = true) :
    Credentials c v' (past ++ Event.Received line :: events) := by
  refine credentials.kept (guarded_public credentials.guarded line open') required tls flag ?_ envelope
  intro e member
  rcases List.mem_cons.mp member with rfl | later
  · exact id
  · exact lasting e later

theorem Credentials.capture (credentials : Credentials c v past) (data : v.state.phase = .Data) :
    Credentials c { v with state.current_mail := v.state.current_mail.append_data (unstuff line) } (past ++ [Event.Received line]) :=
  credentials.openly (by simp) (by simp) rfl rfl rfl fun _ => credentials.envelope (.inr data)

theorem Credentials.deliver (credentials : Credentials c v past) (handler : H) (effects : List Effect)
    (result : Except Text Unit) (data : v.state.phase = .Data)
    (delivered : Delivered (past ++ Event.Received line :: effects.map .Effect) v.state.current_mail) :
    Credentials c { v with config.handler := handler, state.current_mail := .empty, state.phase := .Greeted }
      (past ++ Event.Received line :: (effects.map .Effect ++ [Event.OnMail v.state.current_mail result,.Reply (mail_reply result)])) := by
  have handed := credentials.handed effects result data delivered
  have code : (mail_reply result).code ≠ 334 := by
    cases result with
    | error err => simp [mail_reply,MAIL_HANDLER_ERROR,Response.fixed]
    | ok _ => simp [mail_reply,MAIL_ACCEPTED,Response.fixed]
  have quiet : Guarded c (past ++ Event.Received line :: (effects.map .Effect ++ [Event.OnMail v.state.current_mail result]))
      (.Reply (mail_reply result)) :=
    fun challenge => absurd challenge code
  have replied : Always (Guarded c) (past ++ Event.Received line :: (effects.map .Effect ++
      [Event.OnMail v.state.current_mail result,.Reply (mail_reply result)])) := by
    simpa using always_snoc.mpr ⟨handed,quiet⟩
  refine credentials.kept replied rfl rfl rfl ?_ (by simp)
  simp [or_imp,forall_and,Restarts]

theorem Credentials.greet (credentials : Credentials c v past) {domain : Text} {extended : Bool} (handler : H)
    (effects : List Effect) (result : Except Text HelloResult) (parsed : Command.parse line = .ok (.Hello domain extended)) :
    Credentials c { v with config.handler := handler, state.phase := .Greeted } (past ++ Event.Received line ::
      (Event.Parse line :: effects.map .Effect ++ Event.OnHello domain extended result :: (v.hello_replies extended).map .Reply)) := by
  have codes : ∀ response ∈ v.hello_replies extended, response.code ≠ 334 := by
    intro response member
    simp [hello_replies_coded v extended response member]
  refine credentials.openly ?_ ?_ rfl rfl rfl (by simp)
  · simpa [Public,or_imp,forall_and] using codes
  · simp [Restarts,parsed,or_imp,forall_and]

theorem Credentials.upgrade (credentials : Credentials c v past) :
    Credentials c { v with state := .new, supports_tls := false, is_tls := true }
      (past ++ [Event.Received line,.Parse line,.Reply START_TLS,.TlsStarted]) where
  guarded := guarded_public credentials.guarded line (by simp [Public,START_TLS,Response.fixed])
  required := credentials.required
  tls := by simp [Secured]
  login := by simp [SessionState.new]
  envelope := by simp [SessionState.new]

theorem Credentials.authenticate (credentials : Credentials c v past) {method : AuthMethod} {initial : Option Bytes}
    {exchanged : List (Response × Bytes)} {username password : Text} (handler : H) (effects : List Effect)
    (accepts : v.refusal (.ok (.Authenticate method initial)) = none) (challenged : ∀ e ∈ exchanged, e.1 ∈ challenges) :
    Credentials c { v with config.handler := handler, state.is_authenticated := true } (past ++ Event.Received line ::
      (Event.Parse line :: dialogue exchanged ++ (effects.map .Effect ++
        [Event.OnLogin username password (.ok .Ok),.Reply AUTH_OK]))) where
  guarded := by
    refine guarded_secured credentials.guarded (credentials.permitted accepts) fun mail result => ?_
    simpa using dialogue_unmailed challenged mail result
  required := credentials.required
  tls := iff_of_true (credentials.tls.mpr (credentials.permitted accepts)) (credentials.permitted accepts).later
  login _ := ⟨credentials.tls.mpr (credentials.permitted accepts),
    past ++ Event.Received line :: .Parse line :: dialogue exchanged ++ effects.map .Effect,username,password,[.Reply AUTH_OK],
    by simp,by simp [Restarts]⟩
  envelope _ := rfl

theorem Credentials.reset (credentials : Credentials c v past) (handler : H) (effects : List Effect) (result : Except Text Unit) :
    Credentials c { v with config.handler := handler, state := .new } (past ++ Event.Received line ::
      (Event.Parse line :: .Reply RESET :: (effects.map .Effect ++ [Event.OnReset result]))) where
  guarded := guarded_public credentials.guarded line (by simp [Public,RESET,Response.fixed,or_imp,forall_and])
  required := credentials.required
  tls := by
    rw [secured_silent (by simp)]
    exact credentials.tls
  login := by simp [SessionState.new]
  envelope := by simp [SessionState.new]

end

theorem credentials_habit [Handler H Effect] (c : Connection) :
    Habit (H := H) (fun (v : View H) (past : List (Event Effect)) => Transaction v past ∧ Credentials c v past)
      (fun past => Settled past ∧ Always (Guarded c) past) := by
  refine transaction_invariant.habit.extend (fun credentials => credentials.guarded) ?_
  intro v past ended line events outcome v' transaction credentials settled reaction
  have keep {v' : View H} {trace : List (Event Effect)} (known : Credentials c v' trace) :
      Always (Guarded c) trace ∧ (Outcome.Continue = .Continue → Credentials c v' trace) := ⟨known.guarded,fun _ => known⟩
  have handshake {method : AuthMethod} {initial : Option Bytes} (events : List (Event Effect))
      (accepts : v.refusal (.ok (.Authenticate method initial)) = none)
      (unmailed : ∀ mail result, .OnMail mail result ∉ events) : Always (Guarded c) (past ++ Event.Received line :: events) :=
    guarded_secured credentials.guarded (credentials.permitted accepts) (by simpa using unmailed)
  have close {outcome : Outcome} {v' : View H} {events : List (Event Effect)} (ends : outcome ≠ .Continue)
      (open' : ∀ e ∈ events, Public e) : Always (Guarded c) (past ++ Event.Received line :: events) ∧
      (outcome = .Continue → Credentials c v' (past ++ Event.Received line :: events)) :=
    ⟨guarded_public credentials.guarded line open',fun continues => absurd continues ends⟩
  have help : ∀ response ∈ v.help_replies, response.code ≠ 334 := by simp [View.help_replies]
  cases reaction with
  | captured data more fits => exact keep (credentials.capture data)
  | overflowed _ data more exceeds answer =>
    refine close (by simp) ?_
    rcases answer with rfl | rfl
    · simp
    · simp [Public,DATA_TOO_LONG,Response.fixed]
  | delivered called data done ran =>
    exact keep (credentials.deliver called.handler called.effects called.result data (delivered_at settled))
  | undelivered called data done ran =>
    exact ⟨credentials.handed called.effects called.result data (delivered_at settled),by simp⟩
  | refused response command refuses =>
    have large := refusals_code response (refusal_known refuses)
    have other : Command.parse line ≠ .ok .Reset := fun parsed => by simp [parsed,View.refusal] at refuses
    refine keep (credentials.openly ?_ (by simp [Restarts,other]) rfl rfl rfl credentials.envelope)
    simp [Public]
    omega
  | greeted domain extended called parsed phase ran accepted =>
    exact keep (credentials.greet called.handler called.effects called.result parsed)
  | ungreeted domain extended called replies parsed phase ran sent =>
    refine close (by simp) ?_
    have codes : ∀ response ∈ replies, response.code ≠ 334 := by
      intro response member
      simp [hello_replies_coded v extended response (sent.subset member)]
    simpa [Public,or_imp,forall_and] using codes
  | helped parsed command =>
    exact keep (credentials.openly (by simpa [Public] using help) (by simp [Restarts,parsed]) rfl rfl rfl credentials.envelope)
  | unhelped replies parsed command sent =>
    refine close (by simp) ?_
    simpa [Public] using fun response member => help response (sent.subset member)
  | idle parsed command =>
    refine keep (credentials.openly ?_ (by simp [Restarts,parsed]) rfl rfl rfl credentials.envelope)
    simp [Public,OK,Response.fixed]
  | upgraded parsed accepts => exact keep credentials.upgrade
  | downgraded _ parsed accepts config => exact close (by simp) (by simp [Public,START_TLS,Response.fixed])
  | authenticated method initial exchanged username password called parsed accepts challenged ran accepted =>
    rw [accepted]
    exact keep (credentials.authenticate called.handler called.effects accepts challenged)
  | unauthenticated method initial exchanged last username password called parsed accepts challenged ran answer =>
    refine ⟨handshake _ accepts fun mail result => ?_,by simp⟩
    have unmailed : .OnMail mail result ∉ (dialogue exchanged : List (Event Effect)) := dialogue_unmailed challenged mail result
    rcases answer with rfl | ⟨rfl,-⟩
    · simpa using unmailed
    · simpa using unmailed
  | garbled method initial exchanged err parsed accepts challenged known =>
    have ordinary : ∀ e ∈ (Event.Received line :: .Parse line :: dialogue exchanged ++ [Event.Reply (.syntax_error (some err))] :
        List (Event Effect)), Ordinary e := by
      simpa [or_imp,forall_and,Ordinary,parsed] using dialogue_ordinary challenged
    exact keep (credentials.exchanged accepts ordinary)
  | deserted method initial exchanged challenge err parsed accepts challenged asked known eof =>
    have ordinary : ∀ e ∈ (Event.Received line :: .Parse line :: dialogue exchanged ++
        [Event.Reply challenge,.Reply (.syntax_error (some err))] : List (Event Effect)), Ordinary e := by
      simpa [or_imp,forall_and,Ordinary,parsed,challenges_code challenge asked] using dialogue_ordinary challenged
    exact keep (credentials.exchanged accepts ordinary)
  | broken method initial exchanged last parsed accepts challenged asked =>
    refine ⟨handshake _ accepts fun mail result => ?_,by simp⟩
    have unmailed : .OnMail mail result ∉ (dialogue exchanged : List (Event Effect)) := dialogue_unmailed challenged mail result
    obtain rfl | ⟨challenge,known,rfl⟩ := asked
    · simpa using unmailed
    · simpa using unmailed
  | mail sender parsed accepts =>
    obtain ⟨phase,authenticated⟩ := mail_accepted accepts
    refine keep (credentials.openly ?_ (by simp [Restarts,parsed]) rfl rfl rfl fun _ => credentials.passed authenticated)
    simp [Public,OK,Response.fixed]
  | recipient recipient parsed accepts =>
    refine keep (credentials.openly ?_ (by simp [Restarts,parsed]) rfl rfl rfl credentials.envelope)
    simp [Public,OK,Response.fixed]
  | data parsed accepts =>
    obtain ⟨phase,authenticated⟩ := data_accepted accepts
    refine keep (credentials.openly ?_ (by simp [Restarts,parsed]) rfl rfl rfl fun _ => credentials.passed authenticated)
    simp [Public,DATA_START,Response.fixed]
  | reset called parsed command ran => exact keep (credentials.reset called.handler called.effects called.result)
  | quit parsed command => exact close (by simp) (by simp [Public,GOODBYE,Response.fixed])
  | silent _ command config => exact close (by simp) (by simp [Public])

/-- The trace tells the kind of the connection. -/
def Kind (c : Connection) (s : Session H Effect) : Prop :=
  ∀ d, s.connection = some d → (d.is_tls = true ↔ Secured c s.trace)

theorem kind_kept (c : Connection) : Keeps (Kind c : Session H Effect → Prop) (Kind c) where
  weaker _ := id
  reply response s kind := by
    cases connected : s.connection with
    | none =>
      rw [reply_unconnected connected]
      exact kind
    | some d =>
      rw [reply_eq connected]
      cases written : d.write_all (reply_bytes response) with
      | none => exact kind
      | some d' =>
        obtain ⟨stream,-,rfl⟩ := Option.map_eq_some_iff.mp written
        rintro _ ⟨⟩
        rw [Connection.is_tls_with_stream,secured_silent (by simp)]
        exact kind d connected
  read_line s kind := by
    cases connected : s.connection with
    | none =>
      rw [read_line_unconnected connected]
      exact kind
    | some d =>
      obtain ⟨result,reader,read⟩ : ∃ result reader,
        read_line_loop (d.stream.inner.reads.length + 2) [] d.stream = (result,reader) := ⟨_,_,rfl⟩
      have same : (d.with_stream reader).is_tls = true ↔ Secured c s.trace := by
        rw [Connection.is_tls_with_stream]
        exact kind d connected
      rw [read_line_eq connected read]
      cases result with
      | error err =>
        rintro _ ⟨⟩
        exact same
      | ok line =>
        cases line with
        | none =>
          rintro _ ⟨⟩
          exact same
        | some line =>
          rintro _ ⟨⟩
          rw [secured_silent (by simp)]
          exact same
  log events s _ quiet kind d connected := by
    rw [secured_silent quiet]
    exact kind d connected
  state _ _ := id
  handler _ _ := id
  upgrade s kind := by
    cases connected : s.connection with
    | none =>
      rw [upgrade_unconnected connected]
      exact kind
    | some d =>
      rw [upgrade_eq connected]
      cases upgraded : d.start_tls with
      | none =>
        rintro _ ⟨⟩
      | some d' =>
        rintro _ ⟨⟩
        exact iff_of_true (Connection.start_tls_tls upgraded).1 (.inr (by simp))

/-- Where TLS is required, however a session goes on: challenges are sent and answered
    and logins tried while the connection is TLS, a mail is handed over if all of it was
    received over TLS, a session that is logged in is on TLS and logged in since the last
    upgrade, and a connection that is TLS stays so. -/
theorem credentials_need_tls [Base64] [Handler H Effect] (connection : Connection) (config : SessionConfig H)
    (required : config.auth_mode = .RequireTls) :
    (∀ n, Always (Guarded connection) (final (handle n (.new connection config : Session H Effect))).trace ∧
      Kind connection (final (handle n (.new connection config : Session H Effect)))) ∧
    (∀ n t, handle n (.new connection config : Session H Effect) = .ok none t → t.state.is_authenticated = true →
      t.connection.any Connection.is_tls = true ∧ Authenticated t.trace) ∧
    ∀ n m c d, n ≤ m → (final (handle n (.new connection config : Session H Effect))).connection = some c →
      (final (handle m (.new connection config : Session H Effect))).connection = some d →
      c.is_tls = true → d.is_tls = true := by
  have init : Credentials connection (Session.new connection config : Session H Effect).view
      ([.Reply (.banner config.server_name)] : List (Event Effect)) := by
    refine ⟨always_singleton.mpr (by simp [Guarded,Response.banner]),required,?_,?_,?_⟩
    · simp [Secured,Session.view,Session.new]
    · simp [Session.new,SessionState.new]
    · simp [Session.new,SessionState.new]
  have ends (n : Nat) := ends_of_triple ((credentials_habit connection).handle_spec
    (.new connection config : Session H Effect) ⟨settled_nil,always_nil⟩ ⟨transaction_init connection config,init⟩ n) rfl
  have fresh : Kind connection (.new connection config : Session H Effect) := by
    rintro _ ⟨⟩
    simp [Secured,Session.new]
  have kind (n : Nat) : Kind connection (final (handle n (.new connection config : Session H Effect))) :=
    (kind_kept connection).handle fresh n
  refine ⟨fun n => ⟨?_,kind n⟩,?_,?_⟩
  · exact (ends n).final (fun _ _ holds => holds.1.2) (fun _ _ holds => holds.2)
  · intro n t ran passed
    have holds := ends n
    rw [ran] at holds
    exact (holds.2 rfl).2.login passed
  · intro n m c d longer before after tls
    obtain ⟨more,grown⟩ := handle_grows longer (.new connection config : Session H Effect)
    have secured := (kind n c before).mp tls
    exact (kind m d after).mpr (grown ▸ secured.later)

section
attribute [local instance] Sample.argon2 Sample.base64

/-- A client that upgrades and then sends a mail over TLS. -/
def sampleUpgrade : Connection := .new_plain (Sample.sends "EHLO x\r\nSTARTTLS\r\n") (some ⟨fun _ => some (Sample.sends
  "EHLO x\r\nAUTH PLAIN AGEAYg==\r\nMAIL FROM:<a>\r\nRCPT TO:<c>\r\nDATA\r\nhi\r\n.\r\n")⟩)

def is_mail : Event ProxyEffect → Bool
  | .OnMail _ _ => true
  | _ => false

theorem credentials_need_tls_sample :
    Always (Guarded sampleUpgrade) (final (handle 9 (.new sampleUpgrade (Sample.config .RequireTls)))).trace ∧
    (final (handle 9 (.new sampleUpgrade (Sample.config .RequireTls)))).trace.any is_mail = true :=
  ⟨((credentials_need_tls sampleUpgrade (Sample.config .RequireTls) rfl).1 9).1,by decide +kernel⟩

end
end PostGraph
