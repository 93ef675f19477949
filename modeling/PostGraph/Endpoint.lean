import PostGraph.Lib.Urls
import PostGraph.Proxy
import PostGraph.Transactions

/-!
The URL that a mail is posted to. The sender is formatted into it as the client
wrote it, so the URL leads where it should exactly if the sender is a segment of
a path, as URLs are read by the client crate.
-/
namespace PostGraph
open Traces Programs Session
set_option autoImplicit false

/-- The URL has the host of the endpoint, no query and no fragment, and its path is that of the
    endpoint followed by 'users', a segment that stands for the sender, and 'sendMail'. -/
def ReadsAs (endpoint url sender : Text) : Prop :=
  (Urls.read url).authority = (Urls.read endpoint).authority ∧ (Urls.read url).query = none ∧
    (Urls.read url).fragment = none ∧ ∃ segment, segment ≠ [] ∧ Percent.decode segment = Utf8.encode sender ∧
      (Urls.read url).path = (Urls.read endpoint).path ++ ["users".toList,segment,"sendMail".toList]

def graph_base : Urls.Base where
  scheme := "https".toList
  host := "graph.microsoft.com".toList
  segments := ["v1.0".toList]
  scheme_literal := by decide
  scheme_ends := by decide
  host_literal := by decide
  host_some := by decide
  segments_literal segment member := by
    obtain rfl := List.mem_singleton.mp member
    exact ⟨by decide,by decide,by decide,by decide⟩
  segments_some := by decide

/-- An event that is no effect and hands over no mail. -/
def Mailless {Effect : Type} : Event Effect → Prop
  | .Effect _ => False
  | .OnMail _ _ => False
  | _ => True

section
variable {Effect : Type} {e : Event Effect}

theorem coded_mailless {codes : List Nat} (coded : e.Coded codes) : Mailless e := by
  cases coded
  trivial

theorem handshake_mailless (handshake : e.Handshake) : Mailless e := by
  cases handshake <;> trivial

theorem quiet_mailless (quiet : e.Quiet) : Mailless e := by
  cases quiet <;> trivial

end

/-- A mail is posted to the URL of the sender of its transaction. -/
def Posts (endpoint : Text) (past : List (Event ProxyEffect)) : Event ProxyEffect → Prop
  | .Effect (.Request (.Mail url _ _)) =>
    ∃ before last mail, ∃ requests : List Graph.Request,
      past = before ++ Event.Received last :: .Effect (.SendMail mail.sender mail.data) ::
        requests.map (fun request => .Effect (.Request request)) ∧ Enveloped before mail ∧
      url = Urls.between endpoint "users".toList mail.sender "sendMail".toList
  | _ => True

theorem posts_mailless {endpoint : Text} {e : Event ProxyEffect} (mailless : Mailless e) (past : List (Event ProxyEffect)) :
    Posts endpoint past e := by
  cases e with
  | Effect effect => exact mailless.elim
  | _ => trivial

section
variable [Argon2] [Base64]

/-- A turn of a session with the proxy's handler has effects at the end of a mail
    only, which is answered next, and the graph client stays otherwise. -/
theorem step_effects {v v' : View ProxyHandler} {line : Bytes} {events : List (Event ProxyEffect)} {outcome : Outcome}
    (step : Step v line events outcome v') :
    (∀ e ∈ events, Mailless e) ∧ v'.config.handler.graph_client = v.config.handler.graph_client ∨
      ∃ called after, events = called.effects.map .Effect ++ Event.OnMail v.state.current_mail called.result :: after ∧
        (after = [.Reply (mail_reply called.result)] ∨ after = [] ∧ outcome = .Closed) ∧ v.state.phase = .Data ∧
        is_data_end line = true ∧ v.config.handler.on_mail v.state.current_mail = called ∧
        v'.config.handler = called.handler := by
  cases step with
  | captured data more fits => exact .inl ⟨by simp,rfl⟩
  | delivered called data done ran => exact .inr ⟨called,_,rfl,.inl rfl,data,done,ran,rfl⟩
  | undelivered called v' data done ran config => exact .inr ⟨called,[],rfl,.inr ⟨rfl,rfl⟩,data,done,ran,by rw [config]⟩
  | refused handshake response command other exchanged code =>
    refine .inl ⟨?_,rfl⟩
    simpa [Mailless,or_imp,forall_and] using fun e member => handshake_mailless (exchanged e member)
  | greeted domain extended called responses parsed phase ran accepted codes =>
    obtain rfl := ran
    refine .inl ⟨?_,rfl⟩
    simpa [Mailless,Handler.on_hello] using fun e member => coded_mailless (codes e member)
  | ungreeted domain extended called responses v' parsed phase ran codes config =>
    obtain rfl := ran
    refine .inl ⟨?_,by rw [config]; rfl⟩
    simpa [Mailless,Handler.on_hello] using fun e member => coded_mailless (codes e member)
  | informed command responses parsed which phase codes =>
    refine .inl ⟨?_,rfl⟩
    simpa [Mailless] using fun e member => coded_mailless (codes e member)
  | upgraded parsed phase supported => exact .inl ⟨by simp [Mailless],rfl⟩
  | authenticated method initial handshake username password called parsed phase permitted exchanged ran accepted =>
    obtain ⟨silent,⟨-,handler,-⟩ | ⟨-,handler⟩⟩ := ProxyHandler.on_login_ok ran
    all_goals
      refine .inl ⟨?_,by simp [handler]⟩
      simpa [silent,Mailless,or_imp,forall_and] using fun e member => handshake_mailless (exchanged e member)
  | unauthenticated method initial handshake last username password called v' parsed phase permitted exchanged ran
      answer config =>
    obtain ⟨silent,changed⟩ := ProxyHandler.on_login_ok ran
    have unmailed : ∀ e ∈ last, Mailless e := by
      rcases answer with rfl | ⟨rfl,-⟩ <;> simp [Mailless]
    have client : called.handler.graph_client = v.config.handler.graph_client := by
      rcases changed with ⟨-,handler,-⟩ | ⟨-,handler⟩ <;> rw [handler]
    refine .inl ⟨?_,by rw [config,client]⟩
    have exchanges (e) (member : e ∈ handshake) := handshake_mailless (exchanged e member)
    simpa [silent,Mailless,or_imp,forall_and] using ⟨exchanges,unmailed⟩
  | mail sender parsed phase authenticated => exact .inl ⟨by simp [Mailless],rfl⟩
  | recipient recipient parsed phase authenticated => exact .inl ⟨by simp [Mailless],rfl⟩
  | data parsed phase authenticated => exact .inl ⟨by simp [Mailless],rfl⟩
  | reset called parsed phase ran =>
    obtain rfl := ran
    exact .inl ⟨by simp [Mailless,Handler.on_reset,ProxyHandler.on_reset],rfl⟩
  | quit parsed phase => exact .inl ⟨by simp [Mailless],rfl⟩
  | dropped events v' quiet config early => exact .inl ⟨fun e member => quiet_mailless (quiet e member),by rw [config]⟩

variable {endpoint : Text} {past : List (Event ProxyEffect)}

theorem posts_mail (line : Bytes) {mail : Mail} {handler : ProxyHandler} {called : Called ProxyHandler ProxyEffect Unit}
    (posts : Always (Posts endpoint) past) (enveloped : Enveloped past mail) (ran : handler.on_mail mail = called)
    (same : handler.graph_client.config.graph_endpoint = endpoint) :
    Always (Posts endpoint) (past ++ Event.Received line :: called.effects.map .Effect) ∧
      called.handler.graph_client.config.graph_endpoint = endpoint := by
  obtain ⟨-,-,⟨-,none,kept,-⟩ | ⟨-,effects,client,-⟩⟩ := ProxyHandler.on_mail_effects ran
  · refine ⟨?_,by rw [kept,same]⟩
    rw [none]
    exact always_snoc.mpr ⟨posts,trivial⟩
  · obtain ⟨stays,asks⟩ := Graph.Client.send_mail_asks handler.graph_client mail.sender mail.data
    refine ⟨?_,by rw [client,stays,same]⟩
    have sent : Always (Posts endpoint) (past ++ [Event.Received line,.Effect (ProxyEffect.SendMail mail.sender mail.data)]) :=
      always_quiet posts (by simp [Posts])
    have split : past ++ Event.Received line :: called.effects.map .Effect =
        past ++ [Event.Received line,.Effect (ProxyEffect.SendMail mail.sender mail.data)] ++
          (handler.graph_client.send_mail mail.sender mail.data).requests.map fun request =>
            Event.Effect (.Request request) := by
      simp [effects]
    rw [split,always_append]
    refine ⟨sent,?_⟩
    intro before e rest requested
    obtain ⟨earlier,later,requests,rfl,others⟩ := List.map_eq_append_iff.mp requested
    obtain ⟨request,following,rfl,rfl,-⟩ := List.map_eq_cons_iff.mp others
    cases request with
    | Form url fields => trivial
    | Mail url bearer body =>
      refine ⟨past,line,mail,earlier,by simp,enveloped,?_⟩
      rw [asks url bearer body (by simp [requests]),Graph.Client.mail_url,same]
      simp [Urls.between]

theorem posts_invariant : Invariant
    (fun (v : View ProxyHandler) (past : List (Event ProxyEffect)) => Transaction v past ∧ (Always (Posts endpoint) past ∧
      v.config.handler.graph_client.config.graph_endpoint = endpoint))
    (fun past => Settled past ∧ Always (Posts endpoint) past) := by
  refine transaction_invariant.extend (fun known => known.1) ?_
  rintro v past line events outcome v' transaction ⟨posts,same⟩ step
  rcases step_effects step with ⟨mailless,client⟩ | ⟨called,after,rfl,answer,data,-,ran,handler⟩
  · have posts' : Always (Posts endpoint) (past ++ Event.Received line :: events) := by
      refine always_quiet posts ?_
      rw [List.forall_mem_cons]
      exact ⟨fun _ => trivial,fun e member => posts_mailless (mailless e member)⟩
    exact ⟨posts',fun _ => ⟨posts',by rw [client,same]⟩⟩
  · obtain ⟨posted,kept⟩ := posts_mail line posts (transaction.enveloped (.inr data)) ran same
    have posts' : Always (Posts endpoint) (past ++ Event.Received line ::
        (called.effects.map .Effect ++ Event.OnMail v.state.current_mail called.result :: after)) := by
      rw [← List.cons_append,← List.append_assoc]
      refine always_quiet posted ?_
      rcases answer with rfl | ⟨rfl,-⟩ <;> simp [Posts]
    exact ⟨posts',fun _ => ⟨posts',by rw [handler,kept]⟩⟩

/-- In every session of the proxy, the URL that a mail is posted to reads as it
    should exactly if the sender of the transaction, which is the argument of the
    last accepted MAIL command, is a segment of a path. -/
theorem mail_url_reads_iff (file : ConfigFile) (outside : Graph.Outside) (connection : Connection)
    (config : SessionConfig ProxyHandler)
    (handler : config.handler = .new file (.new (file.graph.into_client_config outside))) (n : Nat)
    (past rest : List (Event ProxyEffect)) (url bearer : Text) (body : Bytes)
    (posted : (final (Session.handle n (.new connection config))).trace =
      past ++ Event.Effect (ProxyEffect.Request (.Mail url bearer body)) :: rest) :
    ∃ before last mail, ∃ requests : List Graph.Request,
      past = before ++ Event.Received last :: Event.Effect (ProxyEffect.SendMail mail.sender mail.data) ::
        requests.map (fun request => .Effect (.Request request)) ∧ Enveloped before mail ∧
      (ReadsAs DEFAULT_GRAPH_ENDPOINT url mail.sender ↔ Urls.Segment mail.sender) := by
  have endpoint : config.handler.graph_client.config.graph_endpoint = DEFAULT_GRAPH_ENDPOINT := by
    rw [handler]
    rfl
  obtain ⟨-,posts⟩ := handle_always posts_invariant connection config ⟨settled_nil,always_nil⟩
    ⟨transaction_init connection config,always_singleton.mpr trivial,endpoint⟩ n
  obtain ⟨before,last,mail,requests,split,enveloped,rfl⟩ := posts past _ rest posted
  refine ⟨before,last,mail,requests,split,enveloped,?_⟩
  have opening : Urls.Literal "users".toList := ⟨by decide,by decide,by decide,by decide⟩
  have closing : Urls.Literal "sendMail".toList := ⟨by decide,by decide,by decide,by decide⟩
  have base : graph_base.text = DEFAULT_GRAPH_ENDPOINT := by decide
  rw [ReadsAs,← base]
  exact Urls.reads_between_iff opening closing

end

section
attribute [local instance] Sample.argon2 Sample.base64

def sampleIntruder : Connection := .new_plain
  (Sample.sends "HELO x\r\nMAIL FROM:<b/messages/1/move?>\r\nRCPT TO:<c>\r\nDATA\r\nhi\r\n.\r\n") none

theorem mail_url_leads_elsewhere : ∃ url bearer body,
    .Effect (.Request (.Mail url bearer body)) ∈
      (final (Session.handle 6 (.new sampleIntruder (Sample.config .None)))).trace ∧
    (Urls.read url).query = some "/sendMail".toList ∧
    (Urls.read url).path = ["v1.0","users","b","messages","1","move"].map String.toList := by
  refine ⟨DEFAULT_GRAPH_ENDPOINT ++ "/users/b/messages/1/move?/sendMail".toList,"token".toList,ascii "aGkNCg==",?_⟩
  decide +kernel

def sampleSender : Connection := .new_plain
  (Sample.sends "HELO x\r\nMAIL FROM:<a>\r\nRCPT TO:<c>\r\nDATA\r\nhi\r\n.\r\n") none

def sender_of : Event ProxyEffect → Option Text
  | .Effect (.SendMail sender _) => some sender
  | _ => none

theorem mail_url_reads_sample : ∃ url bearer body,
    .Effect (.Request (.Mail url bearer body)) ∈
      (final (Session.handle 6 (.new sampleSender (Sample.config .None)))).trace ∧
    ReadsAs DEFAULT_GRAPH_ENDPOINT url "a".toList := by
  have posted : .Effect (.Request (.Mail (DEFAULT_GRAPH_ENDPOINT ++ "/users/a/sendMail".toList) "token".toList
      (ascii "aGkNCg=="))) ∈ (final (Session.handle 6 (.new sampleSender (Sample.config .None)))).trace := by
    decide +kernel
  have senders : (final (Session.handle 6 (.new sampleSender (Sample.config .None)))).trace.filterMap sender_of =
      ["a".toList] := by
    decide +kernel
  obtain ⟨past,rest,split⟩ := List.append_of_mem posted
  obtain ⟨before,last,mail,requests,sent,-,reads⟩ :=
    mail_url_reads_iff Sample.file Sample.outside sampleSender (Sample.config .None) rfl 6 past rest _ _ _ split
  have same : mail.sender = "a".toList := by
    have member : mail.sender ∈ (final (Session.handle 6 (.new sampleSender (Sample.config .None)))).trace.filterMap
        sender_of :=
      List.mem_filterMap.mpr ⟨.Effect (.SendMail mail.sender mail.data),by simp [split,sent],rfl⟩
    simpa [senders] using member
  have segment : Urls.Segment "a".toList :=
    ⟨by decide,by simp,Percent.unescaped_of_absent (by decide),by decide,by decide⟩
  exact ⟨_,_,_,posted,same ▸ reads.mpr (same ▸ segment)⟩

end
end PostGraph
