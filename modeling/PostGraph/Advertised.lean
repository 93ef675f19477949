import PostGraph.Alike
import PostGraph.Exchanges
import PostGraph.Upgrade

/-!
What EHLO advertises and what is accepted right after it: STARTTLS is, and so is AUTH unless
it takes a TLS connection that is not there yet.
-/
namespace PostGraph
open Programs Session
set_option autoImplicit false

section
variable {H Effect : Type}

/-! ### The features of an EHLO reply -/

/-- The features that a reply lists: its lines but the first. -/
def listed (events : List (Event Effect)) : List Text := ((events.filterMap reply_of).drop 1).map Response.message

/-- One of the features has this keyword. -/
def Lists (events : List (Event Effect)) (keyword : String) : Prop :=
  ∃ feature ∈ listed events, feature.takeWhile (· ≠ ' ') = keyword.toList

theorem feature_messages (features : List Text) : (feature_replies features).map Response.message = features := by
  fun_induction feature_replies features with
  | case1 => rfl
  | case2 feature => rfl
  | case3 feature features _ ih => rw [List.map_cons,ih]; rfl

theorem listed_hello {v : View H} {events : List (Event Effect)} (replies : events.filterMap reply_of = v.hello_replies true) :
    listed events = v.features := by
  rw [listed,replies]
  exact feature_messages v.features

/-- The keywords that EHLO lists. -/
theorem lists_iff {v : View H} {events : List (Event Effect)} (keyword : String)
    (replies : events.filterMap reply_of = v.hello_replies true) :
    Lists events keyword ↔ "8BITMIME".toList = keyword.toList ∨ (v.supports_tls = true ∧ "STARTTLS".toList = keyword.toList) ∨
      (v.config.has_auth = true ∧ "AUTH".toList = keyword.toList) ∨ "SIZE".toList = keyword.toList := by
  have first : "8BITMIME".toList.takeWhile (· ≠ ' ') = "8BITMIME".toList := rfl
  have size : ("SIZE ".toList ++ decimal v.config.max_message_size).takeWhile (· ≠ ' ') = "SIZE".toList := rfl
  rw [Lists,listed_hello replies]
  simp only [View.features,List.mem_append,or_and_right,exists_or,List.mem_singleton,exists_eq_left,first,size,or_assoc]
  refine or_congr Iff.rfl (or_congr ?_ (or_congr ?_ Iff.rfl))
  · cases v.supports_tls <;> simp
  · cases v.config.has_auth <;> simp

theorem lists_auth {v : View H} {events : List (Event Effect)} (replies : events.filterMap reply_of = v.hello_replies true) :
    Lists events "AUTH" ↔ v.config.has_auth = true := by
  rw [lists_iff "AUTH" replies]
  simp

theorem lists_starttls {v : View H} {events : List (Event Effect)}
    (replies : events.filterMap reply_of = v.hello_replies true) : Lists events "STARTTLS" ↔ v.supports_tls = true := by
  rw [lists_iff "STARTTLS" replies]
  simp

/-! ### Right after an EHLO was answered -/

/-- A line was received at `past`, and by `events` it was answered as an EHLO; nothing was
    received since. -/
structure Greeting (trace past : List (Event Effect)) (line : Bytes) (events : List (Event Effect)) : Prop where
  trace : trace = past ++ Event.Received line :: events
  last : ∀ next, .Received next ∉ events
  greeted : ∃ domain, .OnHello domain true (.ok .Ok) ∈ events

/-- What was received last comes with the last turn. -/
theorem last_received {trace past later events : List (Event Effect)} {line next : Bytes}
    (same : trace ++ Event.Received line :: later = past ++ Event.Received next :: events) (last : ∀ next, .Received next ∉ events) :
    ∃ w, .Received line :: later = w ++ Event.Received next :: events := by
  rcases List.append_eq_append_iff.mp same with ⟨w,-,split⟩ | ⟨w,-,split⟩
  · exact ⟨w,split⟩
  · cases w with
    | nil => exact ⟨[],by simpa using split.symm⟩
    | cons e w =>
      obtain ⟨rfl,rfl⟩ := List.cons_eq_cons.mp split
      exact absurd (by simp) (last line)

variable [Handler H Effect]

/-- After an EHLO the view is that of the reply. -/
def Greeted (mode : AuthMode) (v : View H) (trace : List (Event Effect)) : Prop :=
  v.config.auth_mode = mode ∧ ∀ past line events, Greeting trace past line events →
    v.state.phase = .Greeted ∧ events.filterMap reply_of = v.hello_replies true

/-- Only EHLO has its line answered as an EHLO. -/
theorem Reaction.greeting {ended : Prop} {v v' : View H} {line : Bytes} {events : List (Event Effect)} {domain : Text}
    (reaction : Reaction ended v line events .Continue v') (greeted : .OnHello domain true (.ok .Ok) ∈ events) :
    (∀ next, .Received next ∉ events) ∧ v'.state.phase = .Greeted ∧ events.filterMap reply_of = v'.hello_replies true := by
  have talks {exchanged : List (Response × Bytes)} : .OnHello domain true (.ok .Ok) ∉ (dialogue exchanged : List (Event Effect)) := by
    simp [dialogue]
  cases reaction with
  | greeted domain' extended called parsed phase ran accepted =>
    obtain rfl : extended = true := by
      have same : domain = domain' ∧ true = extended ∧ Except.ok HelloResult.Ok = called.result := by simpa using greeted
      exact same.2.1.symm
    refine ⟨by simp,rfl,?_⟩
    have effects : (called.effects.map Event.Effect).filterMap reply_of = [] := by simp [reply_of]
    have replies : ((v.hello_replies true).map .Reply : List (Event Effect)).filterMap reply_of = v.hello_replies true := by
      simp [List.filterMap_map,Function.comp_def,reply_of]
    rw [List.cons_append,List.filterMap_cons,List.filterMap_append,effects,List.filterMap_cons,replies]
    rfl
  | authenticated => simp [talks] at greeted
  | garbled => simp [talks] at greeted
  | deserted => simp [talks] at greeted
  | _ => simp at greeted

theorem greeted_habit (mode : AuthMode) : Habit (Greeted mode : View H → List (Event Effect) → Prop) (fun _ => True) where
  always _ := trivial
  react := by
    intro v trace ended line events outcome v' before reaction
    refine ⟨trivial,?_⟩
    rintro rfl
    obtain ⟨handler,config⟩ := reaction.config
    refine ⟨by rw [config]; exact before.1,?_⟩
    rintro past next events' ⟨same,last,domain,greeted⟩
    obtain ⟨w,split⟩ := last_received same last
    have inside : .OnHello domain true (.ok .Ok) ∈ events := by
      have member : .OnHello domain true (.ok .Ok) ∈ .Received line :: events := by
        rw [split]
        simp [greeted]
      simpa using member
    obtain ⟨silent,phase,replies⟩ := reaction.greeting inside
    obtain rfl : events = events' := by
      cases w with
      | nil => exact (List.cons_eq_cons.mp split).2
      | cons e w =>
        have again : .Received next ∈ events := by
          rw [(List.cons_eq_cons.mp split).2]
          simp
        exact absurd again (silent next)
    exact ⟨phase,replies⟩

variable [Base64]

/-- In every run. -/
theorem handle_greeted (connection : Connection) (config : SessionConfig H) (n : Nat) {t : Session H Effect}
    (ran : handle n (.new connection config) = .ok none t) : Greeted config.auth_mode t.view t.trace := by
  have init : Greeted config.auth_mode (Session.new connection config : Session H Effect).view
      ([.Reply (.banner config.server_name)] : List (Event Effect)) := by
    refine ⟨rfl,?_⟩
    rintro past line events ⟨trace,-,-⟩
    cases past <;> simp at trace
  have ends := ends_of_triple ((greeted_habit config.auth_mode).handle_spec (.new connection config) trivial init n) rfl
  rw [ran] at ends
  exact ends.2 rfl

end

/-! ### The first reply to a line -/

section
variable {H Effect : Type} [Base64]

/-- Responses that are sent with AUTH are in order. -/
def Usable (method : AuthMethod) (initial : Option Bytes) : Prop := ∀ response ∈ initial, ¬ Unusable method response

theorem plain_usable {response : Bytes} (usable : ¬ Unusable .Plain response) :
    ∃ username password, plain_credentials response = .Ok username password := by
  simp only [Unusable,true_and,not_or,not_exists,not_and,not_not] at usable
  obtain ⟨credentials,decoded⟩ := Option.ne_none_iff_exists'.mp usable.1
  obtain ⟨authzid,username,password,parts⟩ := List.length_eq_three.mp (usable.2 credentials decoded)
  refine ⟨from_utf8_lossy username,from_utf8_lossy password,?_⟩
  simp only [plain_credentials,decoded,parts]

/-- A handshake that is in order begins with a challenge, unless the credentials are there
    already. -/
theorem handle_auth_begins {method : AuthMethod} {initial : Option Bytes} (usable : Usable method initial) :
    (∃ username password, ∀ s : Session H Effect, handle_auth method initial s = .ok (.Ok username password) s) ∨
    ∃ challenge ∈ challenges, ∃ k : Unit → SessionM H Effect AuthHandshakeResult,
      handle_auth method initial = (reply challenge >>= k) ∧ ∀ u, Grows (k u) := by
  cases initial with
  | none =>
    refine .inr ?_
    cases method
    all_goals
      simp only [handle_auth]
      refine ⟨_,?_,_,rfl,fun _ => ?_⟩
      · decide
      · repeat' first
          | exact grows_pure _
          | exact grows_throw _
          | exact grows_reply _
          | exact grows_read_line
          | refine grows_bind ?_ fun _ => ?_
          | split
  | some response =>
    cases method with
    | Plain =>
      obtain ⟨username,password,arrive⟩ := plain_usable (usable response rfl)
      exact .inl ⟨username,password,fun s => by rw [handle_auth_plain,arrive]⟩
    | Login =>
      obtain ⟨username,decoded⟩ : ∃ username, decode_base64 response = some username :=
        Option.ne_none_iff_exists'.mp fun broken => usable response rfl (.inl broken)
      simp only [handle_auth,pure_bind,decoded]
      refine .inr ⟨_,by decide,_,rfl,fun _ => grows_bind grows_read_line fun answer => ?_⟩
      split
      · split
        · exact grows_pure _
        · exact grows_throw _
      · exact grows_pure _

variable {s : Session H Effect} {response : Response}

omit [Base64] in
theorem handle_start_tls_refused (phase : s.state.phase = .Greeted) (writable : s.Writable 1)
    (refuses : s.view.refusal (.ok .StartTls) = some response) : handle_start_tls s = reply response s := by
  obtain ⟨c,connected⟩ := writable.connected
  simp only [View.refusal,Session.view_state,phase,if_true] at refuses
  split_ifs at refuses with plain
  obtain rfl : Response.syntax_error (some "TLS not supported".toList) = response := by simpa using refuses
  have unsupported : c.supports_tls = false := by simpa [Session.view,connected] using plain
  simp only [handle_start_tls,Session.supports_tls,get_connection,bind,EStateM.bind,run_get,
    connected,unsupported,pure,EStateM.pure,Bool.not_false,if_true]
  cases reply (.syntax_error (some "TLS not supported".toList)) s <;> rfl

variable [Handler H Effect]

/-- The first reply to the line that a session reads next. -/
def FirstReply (s : Session H Effect) (response : Response) : Prop :=
  ∃ events, (final (turn s)).trace = s.trace ++ events ∧ (events.filterMap reply_of).head? = some response

/-- A program replies, and first by a reply of which `P` holds. -/
def Replies {α : Type} (m : SessionM H Effect α) (s : Session H Effect) (P : Response → Prop) : Prop :=
  ∃ events response, (final (m s)).trace = s.trace ++ events ∧ (events.filterMap reply_of).head? = some response ∧ P response

omit [Base64] [Handler H Effect] in
theorem reply_replies {P : Response → Prop} (writable : s.Writable 1) (holds : P response) : Replies (reply response) s P := by
  obtain ⟨t,replied,did,-,-⟩ := reply_writable writable response
  exact ⟨[.Reply response],response,by rw [replied]; exact did.1,rfl,holds⟩

omit [Base64] [Handler H Effect] in
theorem reply_replies_first {α : Type} {k : Unit → SessionM H Effect α} {P : Response → Prop} (writable : s.Writable 1)
    (holds : P response) (grows : ∀ u, Grows (k u)) : Replies (reply response >>= k) s P := by
  obtain ⟨later,trace⟩ := reply_comes_first response writable grows
  exact ⟨.Reply response :: later,response,trace,rfl,holds⟩

theorem FirstReply.unique {other : Response} (first : FirstReply s response) (also : FirstReply s other) :
    response = other := by
  obtain ⟨events,trace,reply⟩ := first
  obtain ⟨events',trace',reply'⟩ := also
  obtain rfl : events = events' := List.append_cancel_left (trace.symm.trans trace')
  exact Option.some.inj (reply.symm.trans reply')

omit [Base64] in
theorem grows_login (username password : Text) : Grows (login username password : SessionM H Effect Unit) := by
  apply grows_bind (fun _ => List.prefix_append _ _)
  intro result
  split
  · exact grows_bind (grows_reply _) fun _ _ => List.prefix_refl _
  · exact grows_bind (grows_reply _) fun _ => grows_throw _
  · exact grows_bind (grows_reply _) fun _ => grows_throw _

omit [Base64] in
/-- A login is answered. -/
theorem login_replies {P : Response → Prop} (writable : s.Writable 1) (accepts : P AUTH_OK) (rejects : P AUTH_FAIL)
    (username password : Text) : Replies (login username password) s P := by
  obtain ⟨called,effects,result,response,k,ran,trace,connected,which,silent⟩ := login_run s username password
  have writable' : called.Writable 1 := by
    obtain ⟨c,here,succeed⟩ := writable
    exact ⟨c,connected.trans here,succeed⟩
  have holds : P response := by
    rcases which with rfl | rfl
    · exact accepts
    · exact rejects
  have grows (u : Unit) : Grows (k u) := fun t => by simp [silent]
  obtain ⟨events,first,trace',head,good⟩ := reply_replies_first writable' holds grows
  refine ⟨effects.map .Effect ++ [Event.OnLogin username password result] ++ events,first,?_,?_,good⟩
  · rw [ran,trace',trace,List.append_assoc]
  · rw [List.filterMap_append,show List.filterMap reply_of (effects.map .Effect ++ [Event.OnLogin username password result]) = []
      by simp [reply_of]]
    exact head

/-- A session that stands as `t` does, with a line to come that it can read and answer. -/
structure Continues (t s : Session H Effect) (line rest : Bytes) : Prop where
  view : s.view = t.view
  sent : s.pending = line ++ rest
  complete : IsLine line
  fits : line.length ≤ MAX_LINE_LENGTH
  writable : s.Writable 1

variable {t r : Session H Effect} {line rest : Bytes} {method : AuthMethod} {initial : Option Bytes} {command : Command}

/-- The first reply of a command is that to its line. -/
theorem first_of_command {m : SessionM H Effect Unit} {P : Response → Prop} (continues : Continues t s line rest)
    (phase : t.state.phase = .Greeted) (parsed : Command.parse line = .ok command)
    (runs : handle_command command = (m >>= fun _ => pure .Continue : SessionM H Effect Control))
    (replies : ∀ r : Session H Effect, r.view = t.view → r.Writable 1 → Replies m r P) :
    ∃ response, FirstReply s response ∧ P response := by
  have phase' : s.state.phase = .Greeted := by rw [← phase,show s.state = t.state from congrArg View.state continues.view]
  obtain ⟨r,turned,did,-,writable⟩ := turn_command continues.writable (by simp [phase']) continues.sent continues.complete
    continues.fits parsed
  obtain ⟨events,response,trace,first,holds⟩ := replies r (did.2.trans continues.view) writable
  refine ⟨response,⟨[.Received line,.Parse line] ++ events,?_,first⟩,holds⟩
  rw [turned,runs,final_bind_pure,trace,did.1,List.append_assoc]

/-- AUTH gets a reply: the refusal, or a challenge, or the result of the login. -/
theorem authenticate_first (continues : Continues t s line rest) (phase : t.state.phase = .Greeted)
    (parsed : Command.parse line = .ok (.Authenticate method initial)) (usable : Usable method initial) :
    ∃ response, FirstReply s response ∧ (t.view.refusal (.ok (.Authenticate method initial)) = some response ∨
      t.view.refusal (.ok (.Authenticate method initial)) = none ∧ response ∈ challenges ++ [AUTH_OK,AUTH_FAIL]) := by
  apply first_of_command continues phase parsed rfl
  intro r view writable
  rw [← view]
  cases refuses : r.view.refusal (.ok (.Authenticate method initial)) with
  | some refusal =>
    have phase' : r.state.phase = .Greeted := by rw [← phase,show r.state = t.state from congrArg View.state view]
    rw [Replies,handle_authenticate_refused writable phase' refuses]
    exact reply_replies writable (.inl rfl)
  | none =>
    rw [Replies,handle_authenticate_accepted writable refuses,authenticate]
    rcases handle_auth_begins usable with ⟨username,password,arrive⟩ | ⟨challenge,known,k,begins,grows⟩
    · rw [bind_ok (arrive r)]
      exact login_replies writable (.inr ⟨rfl,by decide⟩) (.inr ⟨rfl,by decide⟩) username password
    · rw [begins,bind_assoc]
      apply reply_replies_first writable (.inr ⟨rfl,List.mem_append_left _ known⟩)
      intro u
      apply grows_bind (grows u)
      intro result
      cases result with
      | Ok username password => exact grows_login username password
      | SyntaxError err => exact grows_reply _

/-- STARTTLS gets the refusal or is granted. -/
theorem start_tls_first (continues : Continues t s line rest) (phase : t.state.phase = .Greeted)
    (parsed : Command.parse line = .ok .StartTls) :
    ∃ response, FirstReply s response ∧ response = (t.view.refusal (.ok .StartTls)).getD START_TLS := by
  apply first_of_command continues phase parsed rfl
  intro r view writable
  rw [← view]
  cases refuses : r.view.refusal (.ok .StartTls) with
  | some refusal =>
    have phase' : r.state.phase = .Greeted := by rw [← phase,show r.state = t.state from congrArg View.state view]
    rw [Replies,handle_start_tls_refused phase' writable refuses]
    exact reply_replies writable rfl
  | none =>
    rw [Replies,handle_start_tls_accepted refuses]
    exact reply_replies_first writable rfl fun _ => grows_bind grows_upgrade fun _ _ => List.prefix_refl _

/-! ### Advertised and accepted -/

/-- A line is taken into the AUTH handshake. -/
def TakenUp (s : Session H Effect) : Prop := ∃ response, FirstReply s response ∧ response.code ∉ [500,503]

/-- In every run, right after an EHLO was answered: the reply lists STARTTLS exactly if
    the next line may be STARTTLS. It lists AUTH exactly if the next line may be a valid
    AUTH command, unless authentication requires TLS and the connection is plain. -/
theorem advertised_iff (connection : Connection) (config : SessionConfig H) (n : Nat) (t : Session H Effect)
    (ran : handle n (.new connection config) = .ok none t) (past : List (Event Effect)) (hello : Bytes)
    (events : List (Event Effect)) (greeting : Greeting t.trace past hello events) (s : Session H Effect)
    (line rest : Bytes) (continues : Continues t s line rest) :
    (∀ method initial, Command.parse line = .ok (.Authenticate method initial) → Usable method initial →
      ((Lists events "AUTH" ↔ TakenUp s) ↔ ¬ (config.auth_mode = .RequireTls ∧ t.view.is_tls = false))) ∧
    (Command.parse line = .ok .StartTls →
      (Lists events "STARTTLS" ↔ ∃ response, FirstReply s response ∧ response.code = 220)) := by
  obtain ⟨mode,greeted⟩ := handle_greeted connection config n ran
  obtain ⟨phase,replies⟩ := greeted past hello events greeting
  have phase' : t.state.phase = .Greeted := phase
  refine ⟨fun method initial parsed usable => ?_,fun parsed => ?_⟩
  · obtain ⟨response,first,which⟩ := authenticate_first continues phase' parsed usable
    have taken : TakenUp s ↔ response.code ∉ [500,503] := by
      constructor
      · rintro ⟨other,also,code⟩
        rwa [first.unique also]
      · exact fun code => ⟨response,first,code⟩
    rw [lists_auth replies,taken]
    simp only [View.refusal,phase,ne_eq,not_true_eq_false,if_false,mode] at which
    have has : t.view.config.has_auth = decide (config.auth_mode ≠ .None) := by rw [SessionConfig.has_auth,mode]
    rw [has]
    have granted (accepted : response ∈ challenges ++ [AUTH_OK,AUTH_FAIL]) : response.code ∉ [500,503] := by
      have codes : ∀ response ∈ challenges ++ [AUTH_OK,AUTH_FAIL], response.code ∉ [500,503] := by decide
      exact codes response accepted
    cases requires : config.auth_mode with
    | None =>
      rw [requires] at which
      obtain rfl : Response.syntax_error none = response := by simpa using which
      simp
    | Always =>
      rw [requires] at which
      have accepted : response ∈ challenges ++ [AUTH_OK,AUTH_FAIL] := by simpa using which
      simp [granted accepted]
    | RequireTls =>
      rw [requires] at which
      cases tls : t.view.is_tls with
      | true =>
        rw [tls] at which
        have accepted : response ∈ challenges ++ [AUTH_OK,AUTH_FAIL] := by simpa using which
        simp [granted accepted]
      | false =>
        rw [tls] at which
        obtain rfl : BAD_SEQUENCE = response := by simpa using which
        simp [BAD_SEQUENCE,Response.fixed]
  · obtain ⟨response,first,rfl⟩ := start_tls_first continues phase' parsed
    rw [lists_starttls replies]
    have refusal : t.view.refusal (.ok .StartTls) =
        if t.view.supports_tls = false then some (.syntax_error (some "TLS not supported".toList)) else none := by
      simp only [View.refusal,phase,if_true]
    rw [refusal] at first
    cases supported : t.view.supports_tls with
    | true =>
      rw [supported] at first
      exact iff_of_true rfl ⟨_,first,rfl⟩
    | false =>
      rw [supported] at first
      refine iff_of_false (by simp) ?_
      rintro ⟨other,also,code⟩
      rw [← first.unique also] at code
      exact absurd code (by decide)

end

section
attribute [local instance] Sample.argon2 Sample.base64

/-- A client that says EHLO and then AUTH. -/
def sampleClient : Connection := .new_plain (Sample.sends "EHLO x\r\nAUTH PLAIN\r\n") none

/-- Its session after the EHLO. -/
def sampleHello (mode : AuthMode) : Session ProxyHandler ProxyEffect :=
  final (handle 1 (.new sampleClient (Sample.config mode)))

def sampleReply : List (Event ProxyEffect) := [.Parse (ascii "EHLO x\r\n"),.OnHello ['x'] true (.ok .Ok),
  .Reply (.new_continued 250 "postgraph".toList),.Reply (.new_continued 250 "8BITMIME".toList),
  .Reply (.new_continued 250 "AUTH PLAIN LOGIN".toList),.Reply (.new 250 "SIZE 1000".toList)]

theorem sampleHello_ran (mode : AuthMode) (other : mode ≠ .None) :
    handle 1 (.new sampleClient (Sample.config mode)) = .ok none (sampleHello mode) ∧
      Greeting (sampleHello mode).trace [.Reply (.banner "postgraph".toList)] (ascii "EHLO x\r\n") sampleReply ∧
      Continues (sampleHello mode) (sampleHello mode) (ascii "AUTH PLAIN\r\n") [] := by
  have goesOn : value (handle (H := ProxyHandler) 1 (.new sampleClient (Sample.config mode))) = some none := by
    cases mode <;> decide +kernel
  have trace : (sampleHello mode).trace = [Event.Reply (.banner "postgraph".toList)] ++ Event.Received (ascii "EHLO x\r\n") :: sampleReply := by
    cases mode
    · exact absurd rfl other
    all_goals decide +kernel
  have writes : (sampleHello mode).connection.map (fun c => c.stream.inner.writes) = some [] := by cases mode <;> decide +kernel
  refine ⟨ran_of_value goesOn,⟨trace,by simp [sampleReply],['x'],by simp [sampleReply]⟩,?_⟩
  refine ⟨rfl,by cases mode <;> decide +kernel,⟨ascii "AUTH PLAIN\r",by decide,by decide⟩,by decide,?_⟩
  obtain ⟨c,connected,none⟩ := Option.map_eq_some_iff.mp writes
  exact ⟨c,connected,by simp [none]⟩

/-- AUTH is advertised on a plain connection, and refused there. -/
theorem advertised_auth_refused :
    handle 1 (.new sampleClient (Sample.config .RequireTls)) = .ok none (sampleHello .RequireTls) ∧
    Greeting (sampleHello .RequireTls).trace [.Reply (.banner "postgraph".toList)] (ascii "EHLO x\r\n") sampleReply ∧
    Continues (sampleHello .RequireTls) (sampleHello .RequireTls) (ascii "AUTH PLAIN\r\n") [] ∧
    Command.parse (ascii "AUTH PLAIN\r\n") = .ok (.Authenticate .Plain none) ∧ Lists sampleReply "AUTH" ∧
    ¬ TakenUp (sampleHello .RequireTls) := by
  obtain ⟨ran,greeting,continues⟩ := sampleHello_ran .RequireTls (by decide)
  refine ⟨ran,greeting,continues,by decide,⟨"AUTH PLAIN LOGIN".toList,by decide,rfl⟩,?_⟩
  have refused : FirstReply (sampleHello .RequireTls) BAD_SEQUENCE :=
    ⟨[.Received (ascii "AUTH PLAIN\r\n"),.Parse (ascii "AUTH PLAIN\r\n"),.Reply BAD_SEQUENCE],by decide +kernel,rfl⟩
  rintro ⟨response,first,code⟩
  rw [first.unique refused] at code
  exact absurd code (by decide)

theorem advertised_iff_sample : Lists sampleReply "AUTH" ↔ TakenUp (sampleHello .Always) := by
  obtain ⟨ran,greeting,continues⟩ := sampleHello_ran .Always (by decide)
  have agrees := (advertised_iff sampleClient (Sample.config .Always) 1 (sampleHello .Always) ran _ _ _ greeting
    (sampleHello .Always) (ascii "AUTH PLAIN\r\n") [] continues).1 .Plain none (by decide) (by rintro _ ⟨⟩)
  exact agrees.mpr (by decide)

end
end PostGraph
