import PostGraph.RequiredLogin
import PostGraph.Tokens

/-!
A session and its graph client. All requests of a session are those that the client makes
when it is called for one mail after the other, so that what is known of runs of calls
holds in every session, whatever is sent to it.
-/
namespace PostGraph
open PostGraph.Graph Programs Traces
set_option autoImplicit false

/-- The mail that the client was called for. -/
def call_of : Event ProxyEffect → Option Graph.Call
  | .Effect (.SendMail sender data) => some (.SendMail sender data)
  | _ => none

def request_of : Event ProxyEffect → Option Request
  | .Effect (.Request request) => some request
  | _ => none

namespace Graph
deriving instance DecidableEq for Call

variable [Base64]

/-- The client that some calls leave. -/
def Client.called (self : Client) (calls : List Call) : Client :=
  calls.foldl (fun client call => (call.made client).after) self

theorem history_append (client : Client) (calls later : List Call) :
    history client (calls ++ later) = history client calls ++ history (client.called calls) later := by
  induction calls generalizing client with
  | nil => rfl
  | cons call calls ih =>
    simp only [List.cons_append,history,ih]
    rfl

end Graph

section
variable [Base64] {client client' client'' : Client} {events later : List (Event ProxyEffect)}

/-- What is done to the client, and what comes of it, as told by the events. -/
structure Errand (client : Client) (events : List (Event ProxyEffect)) (client' : Client) : Prop where
  requests : events.filterMap request_of = (history client (events.filterMap call_of)).flatMap Made.requests
  client : client' = client.called (events.filterMap call_of)

theorem Errand.append (first : Errand client events client') (second : Errand client' later client'') :
    Errand client (events ++ later) client'' := by
  obtain ⟨requests,rfl⟩ := first
  obtain ⟨requests',rfl⟩ := second
  refine ⟨?_,?_⟩
  · rw [List.filterMap_append,List.filterMap_append,history_append,List.flatMap_append,requests,requests']
  · rw [List.filterMap_append]
    exact List.foldl_append.symm

/-- An event that is no business of the client. -/
def Unrelated (e : Event ProxyEffect) : Prop := call_of e = none ∧ request_of e = none

theorem errand_none (unrelated : ∀ e ∈ events, Unrelated e) : Errand client events client := by
  have calls : events.filterMap call_of = [] := List.filterMap_eq_nil_iff.mpr fun e member => (unrelated e member).1
  have requests : events.filterMap request_of = [] := List.filterMap_eq_nil_iff.mpr fun e member => (unrelated e member).2
  exact ⟨by rw [calls,requests]; rfl,by rw [calls]; rfl⟩

omit [Base64] in
theorem quiet_unrelated (quiet : ∀ e ∈ events, e.Quiet) : ∀ e ∈ events, Unrelated e := by
  intro e member
  cases quiet e member <;> exact ⟨rfl,rfl⟩

variable [Argon2]

/-- The end of a mail. -/
theorem on_mail_errand {handler : ProxyHandler} {mail : Mail} {called : Called ProxyHandler ProxyEffect Unit}
    (ran : handler.on_mail mail = called) :
    Errand handler.graph_client (called.effects.map .Effect) called.handler.graph_client := by
  obtain ⟨-,-,⟨-,none,same,-⟩ | ⟨-,effects,client,-⟩⟩ := ProxyHandler.on_mail_effects ran
  · rw [none,same]
    exact errand_none (by simp)
  · have calls : (called.effects.map .Effect).filterMap call_of = [.SendMail mail.sender mail.data] := by
      simp [effects,call_of]
    have requests : (called.effects.map .Effect).filterMap request_of =
        (handler.graph_client.send_mail mail.sender mail.data).requests := by
      rw [effects,List.map_cons,List.map_map]
      exact List.filterMap_map.trans List.filterMap_some
    refine ⟨?_,?_⟩
    · rw [calls,requests]
      simp [history,Graph.Call.made]
    · rw [calls,client]
      rfl

/-- What the client is called for in a turn, and what it does. -/
theorem step_errand {v v' : View ProxyHandler} {line : Bytes} {events : List (Event ProxyEffect)} {outcome : Outcome}
    (step : Step v line events outcome v') :
    Errand v.config.handler.graph_client events v'.config.handler.graph_client := by
  have handshakes {handshake : List (Event ProxyEffect)} (exchanged : ∀ e ∈ handshake, e.Handshake) :
      ∀ e ∈ handshake, Unrelated e := quiet_unrelated fun e member => (exchanged e member).quiet
  have coded {responses : List (Event ProxyEffect)} {codes : List Nat} (other : 354 ∉ codes)
      (answers : ∀ e ∈ responses, e.Coded codes) : ∀ e ∈ responses, Unrelated e :=
    quiet_unrelated fun e member => (answers e member).quiet other
  cases step with
  | captured => exact errand_none (by simp)
  | delivered called data done ran =>
    exact (on_mail_errand ran).append (errand_none (by simp [Unrelated,call_of,request_of]))
  | undelivered called v' data done ran config =>
    rw [config]
    exact (on_mail_errand ran).append (errand_none (by simp [Unrelated,call_of,request_of]))
  | refused handshake response command other exchanged code =>
    have unrelated := handshakes exchanged
    refine errand_none (List.forall_mem_append.mpr ⟨List.forall_mem_cons.mpr ⟨⟨rfl,rfl⟩,unrelated⟩,?_⟩)
    simp [Unrelated,call_of,request_of]
  | greeted domain extended called responses parsed phase ran accepted codes =>
    obtain rfl : ⟨.ok .Ok,v.config.handler,[]⟩ = called := ran
    have unrelated := coded (by decide) codes
    exact errand_none (List.forall_mem_cons.mpr ⟨⟨rfl,rfl⟩,List.forall_mem_cons.mpr ⟨⟨rfl,rfl⟩,unrelated⟩⟩)
  | ungreeted domain extended called responses v' parsed phase ran codes config =>
    obtain rfl : ⟨.ok .Ok,v.config.handler,[]⟩ = called := ran
    have unrelated := coded (by decide) codes
    rw [config]
    exact errand_none (List.forall_mem_cons.mpr ⟨⟨rfl,rfl⟩,List.forall_mem_cons.mpr ⟨⟨rfl,rfl⟩,unrelated⟩⟩)
  | informed command responses parsed which phase codes =>
    exact errand_none (List.forall_mem_cons.mpr ⟨⟨rfl,rfl⟩,coded (by decide) codes⟩)
  | authenticated method initial handshake username password called parsed phase permitted exchanged ran accepted =>
    have unrelated := handshakes exchanged
    obtain ⟨silent,⟨-,same,-⟩ | ⟨-,same⟩⟩ := ProxyHandler.on_login_ok ran
    all_goals
      rw [silent,same]
      refine errand_none (List.forall_mem_append.mpr ⟨List.forall_mem_cons.mpr ⟨⟨rfl,rfl⟩,unrelated⟩,?_⟩)
      simp [Unrelated,call_of,request_of]
  | unauthenticated method initial handshake last username password called v' parsed phase permitted exchanged ran
      answer config =>
    have unrelated := handshakes exchanged
    have after : ∀ e ∈ last, Unrelated e := by
      rcases answer with rfl | ⟨rfl,-⟩ <;> simp [Unrelated,call_of,request_of]
    obtain ⟨silent,⟨-,same,-⟩ | ⟨-,same⟩⟩ := ProxyHandler.on_login_ok ran
    all_goals
      rw [silent,config,same]
      refine errand_none (List.forall_mem_append.mpr ⟨List.forall_mem_cons.mpr ⟨⟨rfl,rfl⟩,unrelated⟩,?_⟩)
      exact List.forall_mem_cons.mpr ⟨⟨rfl,rfl⟩,after⟩
  | reset called parsed phase ran =>
    obtain rfl : ⟨.ok (),{ v.config.handler with username := none },[]⟩ = called := ran
    exact errand_none (by simp [Unrelated,call_of,request_of])
  | dropped events v' quiet config early =>
    rw [config]
    exact errand_none (quiet_unrelated quiet)
  | _ => exact errand_none (by simp [Unrelated,call_of,request_of])

theorem session_errand (connection : Connection) (config : SessionConfig ProxyHandler) (n : Nat) :
    ∃ client, Errand config.handler.graph_client (final (Session.handle n (.new connection config))).trace client := by
  have invariant : Invariant
      (fun (v : View ProxyHandler) trace => Errand config.handler.graph_client trace v.config.handler.graph_client)
      (fun trace => ∃ client, Errand config.handler.graph_client trace client) := by
    refine ⟨fun errand => ⟨_,errand⟩,?_⟩
    intro v trace line events outcome v' errand step
    have received : Errand v.config.handler.graph_client [.Received line] v.config.handler.graph_client :=
      errand_none (by simp [Unrelated,call_of,request_of])
    have longer := errand.append (received.append (step_errand step))
    exact ⟨⟨_,longer⟩,fun _ => longer⟩
  refine handle_always invariant connection config ⟨_,errand_none (by simp)⟩ ?_ n
  exact errand_none (by simp [Unrelated,call_of,request_of])

/-- A mail is sent with the token acquired last, at most a second after it has expired, and
    another one is asked for only when there is none or it has expired. -/
def Thrifty (past : List Made) (made : Made) : Prop :=
  (∀ bearer ∈ made.bearers, ∃ lease, last_granted (past ++ [made]) = some lease ∧ lease.value = bearer ∧
    lease.age made.ended < (lease.span + 1) * second) ∧
  (made.asks = true → ∀ lease, last_granted past = some lease → ¬ lease.Valid second made.began)

omit [Argon2] in
theorem history_thrifty (config : Graph.Config) (calls : List Graph.Call) : Always Thrifty (history (.new config) calls) := by
  refine (history_iff (Q := fun _ => True) ?_ config calls).mpr fun _ _ => trivial
  intro past client call holds
  refine iff_of_true ⟨?_,?_⟩ trivial
  · intro bearer mailed
    obtain ⟨lease,latest,value,passes,-⟩ := sent_with_last holds call mailed
    exact ⟨lease,latest,value,(Leases.passes_iff (by decide)).mp passes⟩
  · intro asks lease latest
    rw [Made.began,made_before]
    exact holds.expired (asked_when_lapsed holds call asks) latest

/-- Whatever is sent to a session of the server, its requests are those of a client of its
    own that starts without a token and is called for its mails in their order. So no token
    is carried from one session to another. -/
theorem session_requests [Rustls] {config : ConfigFile} {outside : Outside} {fail2ban : Fail2Ban}
    {server : PostGraph.Config ProxyHandler} (started : run config outside = some (fail2ban,server)) (stream : TcpStream)
    (n : Nat)
    {trace : List (Event ProxyEffect)} (ran : (final (Session.handle n (server.session stream))).trace = trace) :
    trace.filterMap request_of = (history (.new (config.graph.into_client_config outside))
      (trace.filterMap call_of)).flatMap Made.requests ∧
    Always Thrifty (history (.new (config.graph.into_client_config outside)) (trace.filterMap call_of)) := by
  subst ran
  obtain ⟨client,errand⟩ := session_errand (.new_plain stream server.tls) server.session_config n
  rw [run_handler started] at errand
  exact ⟨errand.requests,history_thrifty _ _⟩

end

section
attribute [local instance] Sample.argon2 Sample.base64 sampleRustls

/-- A session that sends one mail makes the requests of one call. -/
theorem session_requests_sample : ∃ fail2ban server trace, run Sample.file Sample.outside = some (fail2ban,server) ∧
    (final (Session.handle 6 (server.session sampleStranger))).trace = trace ∧
    trace.filterMap call_of = [.SendMail "x".toList (ascii "hi\r\n")] ∧
    trace.filterMap request_of = (history (.new (Sample.file.graph.into_client_config Sample.outside))
      (trace.filterMap call_of)).flatMap Made.requests := by
  obtain ⟨⟨fail2ban,server⟩,started⟩ := Option.isSome_iff_exists.mp (show sampleServer.isSome = true by decide)
  have calls : (sampleTrace sampleServer sampleStranger).filterMap call_of = [.SendMail "x".toList (ascii "hi\r\n")] := by
    decide +kernel
  have trace :
      (final (Session.handle 6 (server.session sampleStranger))).trace = sampleTrace sampleServer sampleStranger := by
    rw [started]
    rfl
  exact ⟨fail2ban,server,_,started,trace,calls,(session_requests started sampleStranger 6 trace).1⟩

end
end PostGraph
