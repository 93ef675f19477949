import PostGraph.Lib.Tandems
import PostGraph.RequiredLogin
import PostGraph.Tasks

/-!
What clients learn of secrets. Two servers that differ in their users, in the credentials
of their application and in the texts of the tokens their sessions are granted do the same for all
clients, in the same words, until someone comes up with a password that counts
at one of them only. So nobody who does not know a password learns whether
there is one, and nobody learns what the application logs in with.
-/
namespace PostGraph
open Programs Couplings Runs Session Tandems
set_option autoImplicit false

/-! ### The graph client without its secrets -/

namespace Graph

def AccessToken.veil (self : AccessToken) : AccessToken := { self with access_token := [] }

def Outside.veil (self : Outside) : Outside := { self with tokens := self.tokens.map (Except.map AccessToken.veil) }

def Config.veil (self : Config) : Config :=
  { self with tenant_id := [], client_id := [], client_secret := [], outside := self.outside.veil }

/-- A request for a token is made of secrets; of a mail the bearer is one. -/
def Request.veil : Request → Request
  | Form _ _ => .Form [] []
  | Mail url _ body => .Mail url [] body

def Client.veil (self : Client) : Client := ⟨self.config.veil,self.token.map AccessToken.veil⟩

def Asked.veil {α : Type} (self : Asked α) : Asked α :=
  ⟨self.result,self.client.veil,self.requests.map Request.veil⟩

theorem Asked.veil_eq_iff {α : Type} {one other : Asked α} : one.veil = other.veil ↔ one.result = other.result ∧
    one.client.veil = other.client.veil ∧ one.requests.map Request.veil = other.requests.map Request.veil := by
  simp [veil]

@[simp] theorem AccessToken.veil_is_expired (self : AccessToken) (now : Instant) :
    self.veil.is_expired now = self.is_expired now := rfl

@[simp] theorem AccessToken.veil_comp_veil : AccessToken.veil ∘ AccessToken.veil = AccessToken.veil := rfl
@[simp] theorem AccessToken.veil_veil (self : AccessToken) : self.veil.veil = self.veil := rfl

@[simp] theorem Outside.veil_veil (self : Outside) : self.veil.veil = self.veil := by
  have twice : (Except.map AccessToken.veil ∘ Except.map AccessToken.veil : Except Text AccessToken → _) =
      Except.map AccessToken.veil := by
    funext token
    cases token <;> rfl
  simp [veil,twice]

namespace Client

@[simp] theorem veil_veil (self : Client) : self.veil.veil = self.veil := by simp [veil,Config.veil]

theorem veil_get_authentication (self : Client) : self.veil.get_authentication =
    (self.get_authentication.1.map AccessToken.veil,self.get_authentication.2.veil) := by
  obtain ⟨config,token⟩ := self
  cases token with
  | none => rfl
  | some token =>
    have same : config.veil.outside.clock = config.outside.clock := rfl
    simp only [get_authentication,veil,with_outside,Option.map_some,AccessToken.veil_is_expired,same]
    cases token.is_expired config.outside.clock.now.1 with
    | false => rfl
    | true => rfl

theorem veil_get_client_credentials (config : Config) : AccessToken.get_client_credentials config.veil =
    ((AccessToken.get_client_credentials config).1.map AccessToken.veil,
      (AccessToken.get_client_credentials config).2.veil) := by
  obtain ⟨tenant_id,client_id,client_secret,login_endpoint,graph_endpoint,tokens,mails,clock⟩ := config
  cases tokens with
  | nil => rfl
  | cons answer tokens =>
    cases answer with
    | error err => rfl
    | ok token =>
      simp only [AccessToken.get_client_credentials,Config.veil,Outside.veil,List.map_cons,Except.map,AccessToken.veil]
      split_ifs with other
      · rfl
      · rfl

/-- Renewing the token takes the same course without the secrets. -/
theorem veil_authenticate (self : Client) : self.veil.authenticate.veil = self.authenticate.veil := by
  unfold authenticate
  rw [veil_get_authentication]
  cases found : self.get_authentication with
  | mk held client =>
    cases held with
    | ok token => simp [Asked.veil,Except.map]
    | error err =>
      simp only [Except.map]
      rw [show client.veil.config = client.config.veil from rfl,veil_get_client_credentials]
      cases renewed : AccessToken.get_client_credentials client.config with
      | mk answer outside =>
        cases answer with
        | ok token => simp [Asked.veil,Client.veil,with_outside,Config.veil,token_request,Request.veil,Except.map]
        | error err => simp [Asked.veil,Client.veil,with_outside,Config.veil,token_request,Request.veil,Except.map]

section
variable {c d : Client}

theorem get_authentication_veiled (same : c.veil = d.veil) :
    c.get_authentication.1.map AccessToken.veil = d.get_authentication.1.map AccessToken.veil ∧
      c.get_authentication.2.veil = d.get_authentication.2.veil :=
  Prod.mk.inj ((veil_get_authentication c).symm.trans (same ▸ veil_get_authentication d))

theorem authenticate_veiled (same : c.veil = d.veil) : c.authenticate.veil = d.authenticate.veil := by
  rw [← veil_authenticate c,same,veil_authenticate]

theorem post_mail_veiled (same : c.veil = d.veil) :
    c.post_mail.1 = d.post_mail.1 ∧ c.post_mail.2.veil = d.post_mail.2.veil := by
  have mails : c.config.outside.mails = d.config.outside.mails := congrArg (fun c => c.config.outside.mails) same
  unfold post_mail
  rw [← mails]
  cases c.config.outside.mails with
  | nil => exact ⟨rfl,same⟩
  | cons outcome mails => exact ⟨rfl,congrArg (fun c => c.with_outside { c.config.outside with mails := mails }) same⟩

/-- Clients that differ in their secrets send a mail alike. -/
theorem send_mail_veiled [Base64] (same : c.veil = d.veil) (sender : Text) (data : Bytes) :
    (c.send_mail sender data).veil = (d.send_mail sender data).veil := by
  have first := authenticate_veiled same
  unfold send_mail
  cases one : c.authenticate with
  | mk result c' requests =>
    cases other : d.authenticate with
    | mk result' d' requests' =>
      rw [one,other] at first
      obtain ⟨rfl,same',asked⟩ := Asked.veil_eq_iff.mp first
      cases result with
      | error err => simp [Asked.veil,same',asked]
      | ok renewed =>
        -- the token is read again, and may have expired at both by now
        obtain ⟨granted,later⟩ := get_authentication_veiled same'
        have endpoint : c'.config.graph_endpoint = d'.config.graph_endpoint :=
          congrArg (fun c => c.config.graph_endpoint) same'
        simp only [mail_url,endpoint]
        cases held : c'.get_authentication with
        | mk token c'' =>
          cases held' : d'.get_authentication with
          | mk token' d'' =>
            rw [held,held'] at granted later
            cases token with
            | error err =>
              cases token' with
              | error err' =>
                obtain rfl : err = err' := by simpa [Except.map] using granted
                simp [Asked.veil,later,asked]
              | ok token' => simp [Except.map] at granted
            | ok token =>
              cases token' with
              | error err' => simp [Except.map] at granted
              | ok token' =>
                obtain ⟨outcome,last⟩ := post_mail_veiled later
                simp [Asked.veil,outcome,last,asked,Request.veil]

end

end Client
end Graph

/-! ### Handlers and sessions with other secrets -/

def ProxyEffect.veil : ProxyEffect → ProxyEffect
  | SendMail sender data => .SendMail sender data
  | Request request => .Request request.veil

def Event.veil : Event ProxyEffect → Event ProxyEffect
  | Effect effect => .Effect effect.veil
  | e => e

section
variable [Argon2]

/-- A configuration without its users and its secrets. -/
def ConfigFile.veil (self : ConfigFile) : ConfigFile :=
  { self with smtp.auth := UserAuth.new, graph := ⟨[],[],[]⟩ }

/-- The login counts at both or at none. -/
def SameVerdict (auth auth' : UserAuth) (username password : Text) : Prop :=
  auth.verify_user_password username password = .ok () ↔ auth'.verify_user_password username password = .ok ()

/-- Someone came up with a login that counts at one only. -/
def Told (auth auth' : UserAuth) (events : List (Event ProxyEffect)) : Prop :=
  ∃ username password result, .OnLogin username password result ∈ events ∧ ¬ SameVerdict auth auth' username password

/-- Handlers with these users that differ in their secrets else. -/
structure HandlersVeiled (auth auth' : UserAuth) (h k : ProxyHandler) : Prop where
  file : ConfigFile.veil h.config = ConfigFile.veil k.config
  client : h.graph_client.veil = k.graph_client.veil
  username : h.username = k.username
  productive : h.productive = k.productive
  users : h.config.smtp.auth = auth
  users' : k.config.smtp.auth = auth'

/-- Sessions whose handlers differ so. They did the same, and nothing has told them apart. -/
structure Veiled (auth auth' : UserAuth) (s t : Session ProxyHandler ProxyEffect) : Prop where
  connection : s.connection = t.connection
  settings : s.config = { t.config with handler := s.config.handler }
  handlers : HandlersVeiled auth auth' s.config.handler t.config.handler
  state : s.state = t.state
  trace : s.trace.map Event.veil = t.trace.map Event.veil
  untold : ¬ Told auth auth' s.trace

variable {auth auth' : UserAuth} {h k : ProxyHandler} {s t : Session ProxyHandler ProxyEffect}

theorem told_append {past later : List (Event ProxyEffect)} :
    Told auth auth' (past ++ later) ↔ Told auth auth' past ∨ Told auth auth' later := by
  simp only [Told,List.mem_append,or_and_right,exists_or]

theorem untold_silent {events : List (Event ProxyEffect)} (silent : ∀ username password result,
    .OnLogin username password result ∉ events) : ¬ Told auth auth' events := by
  rintro ⟨username,password,result,member,-⟩
  exact silent username password result member

namespace HandlersVeiled

theorem login (veiled : HandlersVeiled auth auth' h k) (username : Option Text) :
    HandlersVeiled auth auth' { h with username := username } { k with username := username } :=
  { veiled with username := rfl }

theorem produce (veiled : HandlersVeiled auth auth' h k) (productive : Bool) :
    HandlersVeiled auth auth' { h with productive := productive } { k with productive := productive } :=
  { veiled with productive := rfl }

end HandlersVeiled

/-- Callbacks that answer alike. -/
def CallsAlike {α : Type} (auth auth' : UserAuth) (one other : Called ProxyHandler ProxyEffect α) : Prop :=
  one.result = other.result ∧ HandlersVeiled auth auth' one.handler other.handler ∧
    one.effects.map ProxyEffect.veil = other.effects.map ProxyEffect.veil

theorem HandlersVeiled.on_mail [Base64] (veiled : HandlersVeiled auth auth' h k) (mail : Mail) :
    CallsAlike auth auth' (h.on_mail mail) (k.on_mail mail) := by
  have permits : h.permits mail.sender = k.permits mail.sender := by simp only [ProxyHandler.permits,veiled.username]
  simp only [ProxyHandler.on_mail,permits]
  cases k.permits mail.sender with
  | false => exact ⟨rfl,veiled,rfl⟩
  | true =>
    obtain ⟨result,client,requests⟩ :=
      Graph.Asked.veil_eq_iff.mp (Graph.Client.send_mail_veiled veiled.client mail.sender mail.data)
    have hidden : ProxyEffect.veil ∘ .Request = .Request ∘ Graph.Request.veil := rfl
    refine ⟨result,⟨veiled.file,client,veiled.username,rfl,veiled.users,veiled.users'⟩,?_⟩
    simp only [if_neg,Bool.not_true,Bool.false_eq_true,not_false_iff,List.map_cons,List.map_map,hidden]
    rw [← List.map_map,requests,List.map_map]

/-- A login that counts at both or at none. -/
theorem HandlersVeiled.on_login (veiled : HandlersVeiled auth auth' h k) {username password : Text}
    (verdict : SameVerdict auth auth' username password) :
    CallsAlike auth auth' (h.on_login username password) (k.on_login username password) := by
  have verdict : h.config.smtp.auth.verify_user_password username password = .ok () ↔
      k.config.smtp.auth.verify_user_password username password = .ok () := by rwa [veiled.users,veiled.users']
  unfold ProxyHandler.on_login
  cases one : h.config.smtp.auth.verify_user_password username password with
  | ok _ =>
    rw [verdict.mp one]
    exact ⟨rfl,veiled.login _,rfl⟩
  | error err =>
    cases other : k.config.smtp.auth.verify_user_password username password with
    | ok _ => simp [one,other] at verdict
    | error err' => exact ⟨rfl,(veiled.login none).produce false,rfl⟩

namespace Veiled

theorem log (veiled : Veiled auth auth' s t) {events later : List (Event ProxyEffect)}
    (same : events.map Event.veil = later.map Event.veil) (silent : ¬ Told auth auth' events) :
    Veiled auth auth' { s with trace := s.trace ++ events } { t with trace := t.trace ++ later } := by
  refine { veiled with trace := ?_, untold := ?_ }
  · rw [List.map_append,List.map_append,veiled.trace,same]
  · rw [told_append]
    exact not_or.mpr ⟨veiled.untold,silent⟩

theorem connect (veiled : Veiled auth auth' s t) (connection : Option Connection) :
    Veiled auth auth' { s with connection := connection } { t with connection := connection } :=
  { veiled with connection := rfl }

theorem did (veiled : Veiled auth auth' s t) (connection : Option Connection) {events : List (Event ProxyEffect)}
    (silent : ∀ username password result, .OnLogin username password result ∉ events) :
    Veiled auth auth' { s with connection := connection, trace := s.trace ++ events }
      { t with connection := connection, trace := t.trace ++ events } :=
  (veiled.log rfl (untold_silent silent)).connect connection

theorem like (veiled : Veiled auth auth' s t) : s.view.Like t.view := by
  unfold Session.view
  rw [veiled.settings,veiled.state,veiled.connection]
  exact ⟨rfl,rfl,rfl,rfl,rfl,rfl⟩

theorem reply (response : Response) : Alike (Veiled auth auth') (Veiled auth auth') (Session.reply response) := by
  intro s t veiled
  have same := veiled.connection
  cases left : s.connection with
  | none =>
    rw [reply_unconnected left,reply_unconnected (same.symm.trans left)]
    exact ⟨rfl,veiled⟩
  | some c =>
    rw [reply_eq left,reply_eq (same.symm.trans left)]
    cases c.write_all (reply_bytes response) with
    | none => exact ⟨rfl,veiled⟩
    | some c' => exact ⟨rfl,veiled.did _ (by simp)⟩

theorem read_line : Alike (Veiled auth auth') (Veiled auth auth') Session.read_line := by
  intro s t veiled
  have same := veiled.connection
  cases left : s.connection with
  | none =>
    rw [read_line_unconnected left,read_line_unconnected (same.symm.trans left)]
    exact ⟨rfl,veiled⟩
  | some c =>
    obtain ⟨result,reader,ran⟩ : ∃ result reader,
        read_line_loop (c.stream.inner.reads.length + 2) [] c.stream = (result,reader) := ⟨_,_,rfl⟩
    rw [read_line_eq left ran,read_line_eq (same.symm.trans left) ran]
    rcases result with err | _ | line
    · exact ⟨rfl,veiled.connect _⟩
    · exact ⟨rfl,veiled.connect _⟩
    · exact ⟨rfl,veiled.did _ (by simp)⟩

theorem upgrade : Alike (Veiled auth auth') (Veiled auth auth') Session.upgrade := by
  intro s t veiled
  have same := veiled.connection
  cases left : s.connection with
  | none =>
    rw [upgrade_unconnected left,upgrade_unconnected (same.symm.trans left)]
    exact ⟨rfl,veiled⟩
  | some c =>
    rw [upgrade_eq left,upgrade_eq (same.symm.trans left)]
    cases c.start_tls with
    | none => exact ⟨rfl,veiled.connect none⟩
    | some c' => exact ⟨rfl,veiled.did _ (by simp)⟩

/-- What a callback leaves that answered alike. -/
theorem called {α : Type} {call : ProxyHandler → Called ProxyHandler ProxyEffect α}
    {event : Except Text α → Event ProxyEffect} (veiled : Veiled auth auth' s t)
    (calls : CallsAlike auth auth' (call s.config.handler) (call t.config.handler))
    (silent : ∀ result, ¬ Told auth auth' [event result]) :
    EndsAlike (Veiled auth auth') (Veiled auth auth') (Session.called call event s) (Session.called call event t) := by
  obtain ⟨result,handlers,effects⟩ := calls
  let logged (outcome : Called ProxyHandler ProxyEffect α) : List (Event ProxyEffect) :=
    outcome.effects.map Event.Effect ++ [event outcome.result]
  have silent : ¬ Told auth auth' (logged (call s.config.handler)) := by
    rw [told_append]
    exact not_or.mpr ⟨untold_silent (by simp),silent _⟩
  have hidden : Event.veil ∘ Event.Effect = Event.Effect ∘ ProxyEffect.veil := rfl
  have same : (logged (call s.config.handler)).map Event.veil = (logged (call t.config.handler)).map Event.veil := by
    simp only [logged,result,List.map_append,List.map_map,hidden]
    rw [← List.map_map,effects,List.map_map]
  have settings : { s.config with handler := (call s.config.handler).handler } =
      { t.config with handler := (call s.config.handler).handler } := by rw [veiled.settings]
  exact ⟨result,{ veiled.log same silent with settings := settings, handlers := handlers }⟩

end Veiled

theorem veiled_resemblance [Base64] : Resemblance (Veiled auth auth') (Veiled auth auth') (Told auth auth')
    (fun _ => False) where
  weaker _ _ := id
  view _ _ veiled := veiled.like
  connected _ _ veiled := by rw [veiled.connection]
  reply := Veiled.reply
  read_line := Veiled.read_line
  parse line := alike_modify fun s t veiled => veiled.log rfl (untold_silent (by simp))
  state f s t veiled := { veiled with state := congrArg f veiled.state }
  on_hello domain extended s t veiled :=
    veiled.called ⟨rfl,veiled.handlers,rfl⟩ fun _ => untold_silent (by simp)
  on_login username password s t veiled := by
    by_cases verdict : SameVerdict auth auth' username password
    · refine .inl (veiled.called (veiled.handlers.on_login verdict) ?_)
      rintro result ⟨_,_,_,member,other⟩
      obtain ⟨rfl,rfl,-⟩ := by simpa using member
      exact other verdict
    · -- the trace tells with which login they part
      refine .inr (.inl ?_)
      show Told auth auth' (final (Session.on_login username password s)).trace
      have logged : (final (Session.on_login username password s)).trace =
          s.trace ++ ((s.config.handler.on_login username password).effects.map .Effect ++
            [Event.OnLogin username password (s.config.handler.on_login username password).result]) := rfl
      rw [logged]
      exact ⟨username,password,_,List.mem_append_right _ (List.mem_append_right _ (List.mem_singleton.mpr rfl)),verdict⟩
  on_mail mail s t veiled := veiled.called (veiled.handlers.on_mail mail) fun _ => untold_silent (by simp)
  on_reset s t veiled := veiled.called ⟨rfl,veiled.handlers.login none,rfl⟩ fun _ => untold_silent (by simp)
  upgrade := Veiled.upgrade.unless
  escaped _ _ told := told_append.mpr (.inl told)
  escaped' _ _ := id

/-! ### Servers with other secrets -/

/-- Stages of such sessions. -/
inductive StagesVeiled (auth auth' : UserAuth) : Stage → Stage → Prop
  | starting {s t : Session ProxyHandler ProxyEffect} (veiled : Veiled auth auth' s t) :
      StagesVeiled auth auth' (.Starting s) (.Starting t)
  | serving {s t : Session ProxyHandler ProxyEffect} (veiled : Veiled auth auth' s t) :
      StagesVeiled auth auth' (.Serving s) (.Serving t)
  | closing {h k : ProxyHandler} (veiled : HandlersVeiled auth auth' h k) :
      StagesVeiled auth auth' (.Closing h) (.Closing k)

structure TasksVeiled (auth auth' : UserAuth) (task task' : Task) : Prop where
  visit : task.visit = task'.visit
  stages : StagesVeiled auth auth' task.stage task'.stage

/-- What the log shows without the secrets. -/
def Server.shown (self : Server) : List (IpAddr × Event ProxyEffect) := self.log.map (Prod.map id Event.veil)

/-- An action without the texts of the tokens that a session is granted. -/
def ServerAction.veil : ServerAction → ServerAction
  | Accept stream outside peer_addr pushed judged => .Accept stream outside.veil peer_addr pushed judged
  | a => a

omit [Argon2] in
theorem ServerAction.veil_eq {a b : ServerAction} (same : b.veil = a)
    (other : ∀ stream outside peer_addr pushed judged, a ≠ .Accept stream outside peer_addr pushed judged) : b = a := by
  cases b with
  | Accept => exact absurd same.symm (other _ _ _ _ _)
  | _ => exact same

/-- Servers that differ in their secrets. -/
structure Server.Resembles (auth auth' : UserAuth) (s t : Server) : Prop where
  config : t.config =
    { s.config with session_config := { s.config.session_config with handler := t.config.session_config.handler } }
  /-- Whatever the session of a connection is answered. -/
  handlers : ∀ outside outside' : Graph.Outside, outside.veil = outside'.veil →
    HandlersVeiled auth auth' (s.config.session_config.handler.with_outside outside)
      (t.config.session_config.handler.with_outside outside')
  fail2ban : s.fail2ban = t.fail2ban
  tasks : List.Forall₂ (TasksVeiled auth auth') s.tasks t.tasks
  clock : s.clock = t.clock
  shown : s.shown = t.shown

variable {stage stage' other : Stage} {events : List (Event ProxyEffect)}

/-- A part of `Session::handle` that treats sessions alike. -/
theorem Veiled.proceed {part : SessionM ProxyHandler ProxyEffect Control} (veiled : Veiled auth auth' s t)
    (alike : AlikeUnless (Veiled auth auth') (Veiled auth auth') (fun s => Told auth auth' s.trace) (fun _ => False) part)
    (grows : Grows part) (proceeded : Stage.proceed s part = (stage,events)) :
    (StagesVeiled auth auth' stage (Stage.proceed t part).1 ∧
        events.map Event.veil = (Stage.proceed t part).2.map Event.veil) ∨ Told auth auth' events := by
  obtain rfl : (Stage.proceed s part).1 = stage := by rw [proceeded]
  obtain rfl : (Stage.proceed s part).2 = events := by rw [proceeded]
  have news {s' t' : Session ProxyHandler ProxyEffect} (veiled' : Veiled auth auth' s' t') :
      (s'.trace.drop s.trace.length).map Event.veil = (t'.trace.drop t.trace.length).map Event.veil := by
    have same := congrArg List.length veiled.trace
    simp only [List.length_map] at same
    rw [List.map_drop,List.map_drop,veiled'.trace,same]
  rcases alike s t veiled with ends | told | impossible
  · left
    unfold Stage.proceed
    cases left : part s with
    | error err s' =>
      cases right : part t with
      | error err' t' =>
        rw [left,right] at ends
        exact ⟨.closing ends.2.handlers,news ends.2⟩
      | ok control' t' => rw [left,right] at ends; exact ends.elim
    | ok control s' =>
      cases right : part t with
      | error err' t' => rw [left,right] at ends; exact ends.elim
      | ok control' t' =>
        rw [left,right] at ends
        obtain ⟨rfl,veiled'⟩ := ends
        cases control with
        | Continue => exact ⟨.serving veiled',news veiled'⟩
        | Return => exact ⟨.closing veiled'.handlers,news veiled'⟩
  · right
    obtain ⟨later,grown⟩ := grows s
    have news : (Stage.proceed s part).2 = (final (part s)).trace.drop s.trace.length := by
      unfold Stage.proceed
      cases part s with
      | error err s' => rfl
      | ok control s' => cases control <;> rfl
    rw [← grown,List.drop_left] at news
    rw [← grown,told_append] at told
    rw [news]
    exact told.resolve_left veiled.untold
  · exact impossible.elim

theorem greet_veiled : Alike (Veiled auth auth') (Veiled auth auth') Stage.greet := by
  refine alike_get ?_ fun s => alike_bind (Veiled.reply _) fun _ => alike_pure _
  intro s t veiled
  rw [show s.config.server_name = t.config.server_name from veiled.like.server_name]

theorem grows_greet : Grows Stage.greet := fun s => grows_bind (grows_reply _) (fun _ => grows_pure _) s

theorem StagesVeiled.closes (veiled : StagesVeiled auth auth' (.Closing h) stage) :
    ∃ k, stage = .Closing k ∧ HandlersVeiled auth auth' h k := by
  cases veiled with
  | closing veiled => exact ⟨_,rfl,veiled⟩

theorem StagesVeiled.cancel (veiled : StagesVeiled auth auth' stage other) (cancelled : stage.cancel = some stage') :
    ∃ other', other.cancel = some other' ∧ StagesVeiled auth auth' stage' other' := by
  cases veiled with
  | starting veiled =>
    obtain rfl := Option.some.inj cancelled
    exact ⟨_,rfl,.closing veiled.handlers⟩
  | serving veiled =>
    obtain rfl := Option.some.inj cancelled
    exact ⟨_,rfl,.closing veiled.handlers⟩
  | closing veiled => simp [Stage.cancel] at cancelled

variable [Base64]

theorem grows_turn : Grows (turn : SessionM ProxyHandler ProxyEffect Control) := by
  intro s
  have grown := loop_extends 1 s
  simp only [loop,bind,EStateM.bind] at grown
  cases turned : turn s with
  | error err t => rwa [turned] at grown
  | ok control t =>
    rw [turned] at grown
    cases control <;> exact grown

theorem StagesVeiled.resume (veiled : StagesVeiled auth auth' stage other)
    (resumed : stage.resume = some (stage',events)) :
    (∃ other' later, other.resume = some (other',later) ∧ StagesVeiled auth auth' stage' other' ∧
        events.map Event.veil = later.map Event.veil) ∨ Told auth auth' events := by
  cases veiled with
  | starting veiled =>
    have proceeded : Stage.proceed _ Stage.greet = (stage',events) := Option.some.inj resumed
    exact (veiled.proceed greet_veiled.unless grows_greet proceeded).imp (fun same => ⟨_,_,rfl,same⟩) id
  | serving veiled =>
    have proceeded : Stage.proceed _ turn = (stage',events) := Option.some.inj resumed
    exact (veiled.proceed veiled_resemblance.unless_turn grows_turn proceeded).imp (fun same => ⟨_,_,rfl,same⟩) id
  | closing veiled => simp [Stage.resume] at resumed

namespace Server
variable {s s' t : Server} {a b : ServerAction}

/-- The log tells that someone came up with a login that counts at one server only. -/
def Tells (auth auth' : UserAuth) (s : Server) : Prop := Told auth auth' (s.log.map Prod.snd)

omit [Base64] in
theorem Resembles.update {i : Nat} {task task' : Task} {events later : List (Event ProxyEffect)}
    (resembles : s.Resembles auth auth' t) (visit : task.visit = task'.visit) (stages : StagesVeiled auth auth' stage other)
    (same : events.map Event.veil = later.map Event.veil) (now : Instant) :
    (s.update i { task with stage := stage } now events).Resembles auth auth'
      (t.update i { task' with stage := other } now later) := by
  have peer : task.peer_addr = task'.peer_addr := congrArg Visit.peer visit
  refine { resembles with tasks := forall₂_set resembles.tasks i ⟨visit,stages⟩, clock := rfl, shown := ?_ }
  have shown := resembles.shown
  simp only [Server.shown] at shown
  have marked : Prod.map id Event.veil ∘ (fun e => (task'.peer_addr,e)) = (fun e => (task'.peer_addr,e)) ∘ Event.veil := rfl
  simp only [Server.shown,Server.update,List.map_append,shown,List.map_map,peer,marked]
  rw [← List.map_map,same,List.map_map]

omit [Base64] in
/-- The sessions for a connection that both accept. -/
theorem Resembles.session (resembles : s.Resembles auth auth' t) (stream : TcpStream) {outside outside' : Graph.Outside}
    (answers : outside.veil = outside'.veil) :
    Veiled auth auth' ((s.admitted outside).session stream) ((t.admitted outside').session stream) := by
  have ⟨config,handlers,_,_,_,_⟩ := resembles
  refine ⟨?_,?_,(handlers _ _ answers).produce false,rfl,rfl,untold_silent (by simp [Config.session,Session.new])⟩
  · simp only [Config.session,Session.new,admitted]
    rw [config]
  · simp only [Config.session,Session.new,admitted]
    rw [config]

theorem Resembles.step (resembles : s.Resembles auth auth' t) (stepped : s.step a = some s') (same : b.veil = a.veil) :
    (∃ t', t.step b = some t' ∧ s'.Resembles auth auth' t') ∨ s'.Tells auth auth' := by
  have ⟨config,handlers,fail2ban,tasks,clock,shown⟩ := resembles
  cases steps_of_step stepped with
  | accept stream outside peer_addr pushed judged stage later after decided =>
    left
    obtain ⟨outside',rfl,answers⟩ : ∃ outside', b = .Accept stream outside' peer_addr pushed judged ∧
        outside.veil = outside'.veil := by
      cases b with
      | Accept stream' outside' peer_addr' pushed' judged' =>
        obtain ⟨rfl,answers,rfl,rfl,rfl⟩ := ServerAction.Accept.inj same
        exact ⟨outside',rfl,answers.symm⟩
      | _ => simp [ServerAction.veil] at same
    have enters {other : Stage} (stages : StagesVeiled auth auth' stage other) :
        List.Forall₂ (TasksVeiled auth auth') (s.tasks ++ [⟨peer_addr,pushed,stage⟩]) (t.tasks ++ [⟨peer_addr,pushed,other⟩]) :=
      List.rel_append tasks (.cons ⟨rfl,stages⟩ .nil)
    rcases decided with ⟨accepted,rfl⟩ | ⟨rejected,rfl⟩
    · refine ⟨{ t with
        fail2ban := (t.fail2ban.connect peer_addr pushed judged).2,
        tasks := t.tasks ++ [⟨peer_addr,pushed,.Starting ((t.admitted outside').session stream)⟩], clock := judged,
        sessions := t.sessions + 1 },?_,config,handlers,by simp only [fail2ban],
        enters (.starting (resembles.session stream answers)),rfl,shown⟩
      rw [fail2ban] at accepted
      simp [step,ProxyHandler.on_connect,accepted,admitted,clock ▸ later,after]
    · refine ⟨{ t with
        fail2ban := (t.fail2ban.connect peer_addr pushed judged).2,
        tasks := t.tasks ++ [⟨peer_addr,pushed,.Closing (t.admitted outside').session_config.handler⟩], clock := judged,
        sessions := t.sessions + 1 },?_,config,handlers,by simp only [fail2ban],
        enters (.closing ((handlers _ _ answers).produce false)),rfl,shown⟩
      rw [fail2ban] at rejected
      simp [step,ProxyHandler.on_connect,rejected,admitted,clock ▸ later,after]
  | handle i now task stage events here resumed later =>
    obtain rfl : b = .Handle i now := ServerAction.veil_eq same (by simp)
    obtain ⟨task',there,alike⟩ := forall₂_getElem? tasks here
    rcases alike.stages.resume resumed with ⟨other,events',resumed',stages,same⟩ | told
    · refine .inl ⟨t.update i { task' with stage := other } now events',?_,?_⟩
      · simp [step,there,resumed',clock ▸ later]
      · exact resembles.update alike.visit stages same now
    · right
      unfold Tells Server.update
      rw [List.map_append,told_append]
      exact .inr (by simpa [Function.comp_def] using told)
  | timeout i now task stage here cancelled later due =>
    left
    obtain rfl : b = .Timeout i now := ServerAction.veil_eq same (by simp)
    obtain ⟨task',there,alike⟩ := forall₂_getElem? tasks here
    obtain ⟨other,cancelled',stages⟩ := alike.stages.cancel cancelled
    have since : task.since = task'.since := congrArg Visit.since alike.visit
    refine ⟨t.update i { task' with stage := other } now [],?_,resembles.update alike.visit stages rfl now⟩
    simp [step,there,cancelled',clock ▸ later,since ▸ due]
  | disconnect i now task handler here closing later =>
    left
    obtain rfl : b = .Disconnect i now := ServerAction.veil_eq same (by simp)
    obtain ⟨task',there,alike⟩ := forall₂_getElem? tasks here
    have peer : task.peer_addr = task'.peer_addr := congrArg Visit.peer alike.visit
    obtain ⟨handler',closing',veiled⟩ := StagesVeiled.closes (closing ▸ alike.stages)
    refine ⟨{ t with
      fail2ban := t.fail2ban.disconnect task'.peer_addr now handler'.productive, tasks := t.tasks.eraseIdx i, clock := now },
      ?_,config,handlers,?_,forall₂_eraseIdx tasks i,rfl,shown⟩
    · obtain ⟨peer_addr,since,stage⟩ := task'
      obtain rfl : stage = .Closing handler' := closing'
      simp [step,there,clock ▸ later,ProxyHandler.on_disconnect]
    · simp only [fail2ban,peer,veiled.productive]
  | wait now later =>
    obtain rfl : b = .Wait now := ServerAction.veil_eq same (by simp)
    exact .inl ⟨{ t with clock := now },by simp [step,clock ▸ later],config,handlers,fail2ban,tasks,rfl,shown⟩

theorem Tells.lasts (tells : s.Tells auth auth') (stepped : s.step a = some s') : s'.Tells auth auth' := by
  cases steps_of_step stepped with
  | accept => exact tells
  | handle i now task stage events here resumed later =>
    unfold Tells update
    rw [List.map_append,told_append]
    exact .inl tells
  | timeout i now task stage here cancelled later due =>
    unfold Tells update
    rw [List.map_append,told_append]
    exact .inl tells
  | disconnect => exact tells
  | wait => exact tells

end Server

omit [Base64] in
/-- Settings that differ in who the users are set a server up alike. -/
theorem apply_veiled [Rustls] {H : Type} {self other : SMTPServerConfig UserAuth BanDuration}
    (same : { self with auth := UserAuth.new } = { other with auth := UserAuth.new })
    (users : self.auth.has_users = other.auth.has_users) (config : Config H) (handler : H) :
    other.apply_to_server_config { config with session_config.handler := handler } =
      (self.apply_to_server_config config).map fun config => { config with session_config.handler := handler } := by
  obtain ⟨address,name,max_message_size,allow_insecure_auth,tls,fail2ban,auth⟩ := self
  obtain ⟨address',name',max_message_size',allow_insecure_auth',tls',fail2ban',auth'⟩ := other
  obtain ⟨rfl,rfl,rfl,rfl,rfl,rfl⟩ := by simpa using same
  simp only [SMTPServerConfig.apply_to_server_config,SMTPServerConfig.auth_mode,users]
  cases tls with
  | none => rfl
  | some files =>
    simp only [Config.with_tls]
    cases (TlsConfig.Chain files.certificate_chain files.private_key).into_tls_acceptor with
    | none => rfl
    | some acceptor => rfl

omit [Base64] in
/-- Servers that are set up from files that differ in their users and secrets only. -/
theorem run_veiled [Rustls] {file file' : ConfigFile} {outside outside' : Graph.Outside} {fail2ban : Fail2Ban}
    {config : Config ProxyHandler} (set_up : run file outside = some (fail2ban,config))
    (same : ConfigFile.veil file = ConfigFile.veil file') (users : file.smtp.auth.has_users = file'.smtp.auth.has_users) :
    ∃ config', run file' outside' = some (fail2ban,config') ∧ ∀ clock,
      (Server.start config fail2ban clock).Resembles file.smtp.auth file'.smtp.auth (.start config' fail2ban clock) := by
  have settings : { file.smtp with auth := UserAuth.new } = { file'.smtp with auth := UserAuth.new } :=
    congrArg Document.smtp same
  have limits : file'.smtp.get_effective_fail2ban_config = file.smtp.get_effective_fail2ban_config :=
    (congrArg SMTPServerConfig.get_effective_fail2ban_config settings).symm
  let handler (file : ConfigFile) (outside : Graph.Outside) : ProxyHandler :=
    .new file (.new (file.graph.into_client_config outside))
  obtain ⟨made,applied,begins⟩ : ∃ made, file.smtp.apply_to_server_config (.new (handler file outside)) = some made ∧
      (Fail2Ban.new file.smtp.get_effective_fail2ban_config.1.toNat file.smtp.get_effective_fail2ban_config.2.1.toNat
        file.smtp.get_effective_fail2ban_config.2.2,made) = (fail2ban,config) := by
    simpa [run,Option.bind_eq_some_iff] using set_up
  obtain ⟨rfl,rfl⟩ := Prod.mk.inj begins
  have kept := (SMTPServerConfig.apply_to_server_config_some applied rfl).1
  have other := apply_veiled settings users (.new (handler file outside)) (handler file' outside')
  rw [applied] at other
  have other : file'.smtp.apply_to_server_config (.new (handler file' outside')) =
      some { made with session_config.handler := handler file' outside' } := other
  refine ⟨{ made with session_config.handler := handler file' outside' },?_,fun clock => ?_⟩
  · simp only [run,limits]
    exact congrArg (Option.bind · fun config => some (_,config)) other
  · refine ⟨rfl,?_,rfl,.nil,rfl,rfl⟩
    intro given given' answers
    have clients : ((handler file outside).with_outside given).graph_client.veil =
        ((handler file' outside').with_outside given').graph_client.veil :=
      congrArg (fun outside => (⟨.new [] [] [] outside,none⟩ : Graph.Client)) answers
    simp only [Server.start,kept]
    exact ⟨same,clients,rfl,rfl,rfl,rfl⟩

/-- What clients see of a server does not depend on its secrets: not on the credentials of
    the application nor on the tokens of its sessions, and on the users only as far as the
    logins go that they come up with. -/
theorem server_keeps_secrets [Rustls] {file file' : ConfigFile} {outside : Graph.Outside} (outside' : Graph.Outside)
    {fail2ban : Fail2Ban} {config : Config ProxyHandler} (set_up : run file outside = some (fail2ban,config))
    (same : ConfigFile.veil file = ConfigFile.veil file') (users : file.smtp.auth.has_users = file'.smtp.auth.has_users) :
    ∃ config', run file' outside' = some (fail2ban,config') ∧
      ∀ {ok : Server → ServerAction → Prop} (clock : Instant) (actions actions' : List ServerAction) (s : Server),
        Run Server.step ok (.start config fail2ban clock) actions s →
        actions'.map ServerAction.veil = actions.map ServerAction.veil →
        (∃ t, Run Server.step (fun _ _ => True) (.start config' fail2ban clock) actions' t ∧ t.shown = s.shown ∧
          t.fail2ban = s.fail2ban ∧ t.tasks.map Task.visit = s.tasks.map Task.visit) ∨
        ∃ p username password result, (p,.OnLogin username password result) ∈ s.log ∧
          ¬ SameVerdict file.smtp.auth file'.smtp.auth username password := by
  obtain ⟨config',set_up',resembles⟩ := run_veiled set_up same users
  refine ⟨config',set_up',?_⟩
  intro ok clock actions actions' s ran answers
  rcases Run.tandem ran answers (resembles clock) (fun s a s' t b stepped same resembles => resembles.step stepped same)
    (fun s a s' stepped tells => tells.lasts stepped) with ⟨t,ran',alike⟩ | tells
  · refine .inl ⟨t,ran',alike.shown.symm,alike.fail2ban.symm,?_⟩
    have visits : List.Forall₂ Eq (s.tasks.map Task.visit) (t.tasks.map Task.visit) := by
      rw [List.forall₂_map_left_iff,List.forall₂_map_right_iff]
      exact alike.tasks.imp fun _ _ tasks => tasks.visit
    rw [List.forall₂_eq_eq_eq] at visits
    exact visits.symm
  · obtain ⟨username,password,result,member,other⟩ := tells
    obtain ⟨⟨p,_⟩,member,rfl⟩ := List.mem_map.mp member
    exact .inr ⟨p,username,password,result,member,other⟩

end

section
attribute [local instance] Sample.argon2 Sample.base64 sampleRustls

def sampleKept (client_secret : String) (users : HashMap Argon2.PasswordHash) : ConfigFile where
  smtp := { ConfigFile.empty.smtp with allow_insecure_auth := true, auth := ⟨users⟩ }
  graph := ⟨[],[],client_secret.toList⟩

def sampleGrants (token : String) : Graph.Outside :=
  { Sample.outside with tokens := [.ok ⟨token.toList,"Bearer".toList,3600,none⟩] }

def sampleUsers : HashMap Argon2.PasswordHash := AList.insert "a".toList Sample.hash ∅

def sampleVisit (outside : Graph.Outside) : List ServerAction :=
  [.Accept sampleMailer outside samplePeer 0 0,.Handle 0 1,.Handle 0 2,.Handle 0 3,.Handle 0 4,.Handle 0 5,.Handle 0 6,.Handle 0 7]

/-- The login is the only one, and the mail is sent. -/
def sampleLogs (s : Server) : Bool :=
  (s.log.all fun entry => match entry.2 with
    | .OnLogin username password _ => username = "a".toList ∧ password = "b".toList
    | _ => true) ∧ sampleMailSent ∈ s.shown

theorem sampleVisit_logs : ((run (sampleKept "one" sampleUsers) Sample.outside).bind fun set_up =>
    (follow Server.step (fun _ _ => True) (.start set_up.2 set_up.1 0) (sampleVisit (sampleGrants "one"))).map
      sampleLogs) = some true := by
  decide +kernel

/-- The same actions at a server with another secret and one more user, and another token
    for the session. -/
theorem server_keeps_secrets_sample : ∃ s t fail2ban config config',
    run (sampleKept "one" sampleUsers) Sample.outside = some (fail2ban,config) ∧
    run (sampleKept "two" (sampleUsers.insert "c".toList Sample.hash)) Sample.outside = some (fail2ban,config') ∧
    Run Server.step (fun _ _ => True) (.start config fail2ban 0) (sampleVisit (sampleGrants "one")) s ∧
    Run Server.step (fun _ _ => True) (.start config' fail2ban 0) (sampleVisit (sampleGrants "two")) t ∧
    sampleMailSent ∈ t.shown ∧ t.shown = s.shown := by
  obtain ⟨⟨fail2ban,config⟩,set_up,visited⟩ := Option.bind_eq_some_iff.mp sampleVisit_logs
  obtain ⟨s,followed,logs⟩ := Option.map_eq_some_iff.mp visited
  obtain ⟨only,mailed⟩ := of_decide_eq_true logs
  have ran := run_of_follow .start _ followed
  have same : ConfigFile.veil (sampleKept "one" sampleUsers) =
      ConfigFile.veil (sampleKept "two" (sampleUsers.insert "c".toList Sample.hash)) := rfl
  obtain ⟨config',set_up',keeps⟩ := server_keeps_secrets Sample.outside set_up same (by decide +kernel)
  rcases keeps 0 _ (sampleVisit (sampleGrants "two")) s ran rfl with ⟨t,ran',shown,-⟩ | ⟨p,username,password,result,member,other⟩
  · exact ⟨s,t,fail2ban,config,config',set_up,set_up',ran,ran',shown ▸ mailed,shown⟩
  · have login := List.all_eq_true.mp only _ member
    obtain ⟨rfl,rfl⟩ := of_decide_eq_true login
    exact absurd (by unfold SameVerdict; decide +kernel) other

end
end PostGraph
