import PostGraph.Text

/-!
The M365 graph API mail client: the access token and its renewal, and the request
that sends a mail. What the outside answers is given with the client: the
outcomes of its requests to come and the readings of the clock.
-/
namespace PostGraph
set_option autoImplicit false

/-- A point in time and a span of it (`Instant`, `Duration`), in nanoseconds. -/
abbrev Instant := Nat
abbrev Duration := Nat

/-- `Duration::as_secs`, which drops the fraction. -/
def as_secs (d : Duration) : Nat := d / 1000000000
def from_secs (secs : Nat) : Duration := secs * 1000000000
/-- `Instant::elapsed` at `now`; it saturates at zero. -/
def elapsed (since now : Instant) : Duration := now - since

/-- A monotonic clock, by how far it moves until each of its next readings. It
    stands still once these are used up. -/
structure Clock where
  last : Instant
  ticks : List Duration

def Clock.now (self : Clock) : Instant × Clock :=
  match self.ticks with
  | [] => (self.last,self)
  | tick :: ticks => (self.last + tick,⟨self.last + tick,ticks⟩)

def DEFAULT_LOGIN_ENDPOINT : Text := "https://login.microsoftonline.com".toList
def DEFAULT_GRAPH_ENDPOINT : Text := "https://graph.microsoft.com/v1.0".toList

namespace Graph

structure AccessToken where
  access_token : Text
  token_type : Text
  /-- How long the token is valid, in seconds from its issue. -/
  expires_in : Nat
  issued_at : Option Instant
  deriving DecidableEq

/-- What the client asks of the outside: the outcome of each request for a token
    and of each mail sent, errors by their text, and the clock. A request beyond
    these fails. An error also stands for a session dropped during the request. -/
structure Outside where
  tokens : List (Except Text AccessToken)
  mails : List (Except Text Unit)
  clock : Clock

structure Config where
  tenant_id : Text
  client_id : Text
  client_secret : Text
  login_endpoint : Text
  graph_endpoint : Text
  outside : Outside

def Config.new (tenant_id client_id client_secret : Text) (outside : Outside) : Config :=
  ⟨tenant_id,client_id,client_secret,DEFAULT_LOGIN_ENDPOINT,DEFAULT_GRAPH_ENDPOINT,outside⟩

inductive Request
  | Form (url : Text) (fields : List (Text × Text))
  | Mail (url bearer : Text) (body : Bytes)
  deriving DecidableEq

structure Client where
  config : Config
  token : Option AccessToken

/-- What a call of the client leaves: its result, the client, and the requests
    it made. -/
structure Asked (α : Type) where
  result : Except Text α
  client : Client
  requests : List Request

def AccessToken.is_expired (self : AccessToken) (now : Instant) : Bool :=
  match self.issued_at with
  | some issued_at => as_secs (elapsed issued_at now) > self.expires_in
  | none => false

def token_request (config : Config) : Request :=
  .Form (config.login_endpoint ++ "/".toList ++ config.tenant_id ++ "/oauth2/v2.0/token".toList)
    [("client_id".toList,config.client_id),("client_secret".toList,config.client_secret),
      ("scope".toList,"https://graph.microsoft.com/.default".toList),
      ("grant_type".toList,"client_credentials".toList)]

def AccessToken.get_client_credentials (config : Config) : Except Text AccessToken × Outside :=
  match config.outside.tokens with
  | [] => (.error [],config.outside)
  | .error err :: tokens => (.error err,{ config.outside with tokens := tokens })
  | .ok token :: tokens =>
    let (now,clock) := config.outside.clock.now
    (if token.token_type ≠ "Bearer".toList then
      .error ("Invalid token type '".toList ++ token.token_type ++ "'".toList)
    else .ok { token with issued_at := some now },{ config.outside with tokens := tokens, clock := clock })

namespace Client

def new (config : Config) : Client := ⟨config,none⟩

def with_outside (self : Client) (outside : Outside) : Client := { self with config.outside := outside }

/-- The token of the client, and an error when it has none or it is expired. -/
def get_authentication (self : Client) : Except Text AccessToken × Client :=
  let (now,clock) := self.config.outside.clock.now
  let self := self.with_outside { self.config.outside with clock := clock }
  match self.token with
  | some token =>
    (if token.is_expired now then .error "not authenticated or expired".toList else .ok token,self)
  | none => (.error "not authenticated or expired".toList,self)

def authenticate (self : Client) : Asked Bool :=
  match self.get_authentication with
  | (.ok _,self) => ⟨.ok false,self,[]⟩
  | (.error _,self) =>
    match AccessToken.get_client_credentials self.config with
    | (.ok token,outside) =>
      ⟨.ok true,{ self.with_outside outside with token := some token },[token_request self.config]⟩
    | (.error err,outside) => ⟨.error err,self.with_outside outside,[token_request self.config]⟩

def mail_url (self : Client) (sender : Text) : Text :=
  self.config.graph_endpoint ++ "/users/".toList ++ sender ++ "/sendMail".toList

def post_mail (self : Client) : Except Text Unit × Client :=
  match self.config.outside.mails with
  | [] => (.error [],self)
  | outcome :: mails => (outcome,self.with_outside { self.config.outside with mails := mails })

def send_mail [Base64] (self : Client) (sender : Text) (mail_mime_data : Bytes) : Asked Unit :=
  match self.authenticate with
  | ⟨.error err,self,requests⟩ => ⟨.error err,self,requests⟩
  | ⟨.ok _,self,requests⟩ =>
    let url := self.mail_url sender
    let mail_data := Base64.encode mail_mime_data
    match self.get_authentication with
    | (.error err,self) => ⟨.error err,self,requests⟩
    | (.ok token,self) =>
      let (outcome,self) := self.post_mail
      ⟨outcome,self,requests ++ [.Mail url token.access_token mail_data]⟩

theorem get_authentication_endpoint (self : Client) :
    self.get_authentication.2.config.graph_endpoint = self.config.graph_endpoint := by
  simp only [get_authentication,with_outside]
  cases self.token <;> rfl

theorem post_mail_endpoint (self : Client) : self.post_mail.2.config.graph_endpoint = self.config.graph_endpoint := by
  unfold post_mail
  split <;> rfl

/-- Renewing the token posts no mail and keeps the endpoint. -/
theorem authenticate_asks (self : Client) :
    (self.authenticate.client.config.graph_endpoint = self.config.graph_endpoint) ∧
      ∀ url bearer body, .Mail url bearer body ∉ self.authenticate.requests := by
  have kept := get_authentication_endpoint self
  unfold authenticate
  split
  · next authenticated =>
    rw [authenticated] at kept
    exact ⟨kept,by simp⟩
  · next authenticated =>
    rw [authenticated] at kept
    split <;> exact ⟨kept,by simp [token_request]⟩

/-- Whatever becomes of the mail, the endpoint stays, and the URL posted to is
    that of the sender. -/
theorem send_mail_asks [Base64] (self : Client) (sender : Text) (data : Bytes) :
    (self.send_mail sender data).client.config.graph_endpoint = self.config.graph_endpoint ∧
      ∀ url bearer body, .Mail url bearer body ∈ (self.send_mail sender data).requests →
        url = self.mail_url sender := by
  have authenticated := authenticate_asks self
  unfold send_mail
  split
  · next failed =>
    rw [failed] at authenticated
    exact ⟨authenticated.1,fun url bearer body posted => absurd posted (authenticated.2 url bearer body)⟩
  · next client requests done =>
    rw [done] at authenticated
    have kept := get_authentication_endpoint client
    split
    · next expired =>
      rw [expired] at kept
      exact ⟨kept.trans authenticated.1,fun url bearer body posted => absurd posted (authenticated.2 url bearer body)⟩
    · next token client granted =>
      rw [granted] at kept
      refine ⟨(post_mail_endpoint client).trans (kept.trans authenticated.1),?_⟩
      intro url bearer body posted
      rcases List.mem_append.mp posted with renewed | last
      · exact absurd renewed (authenticated.2 url bearer body)
      · obtain ⟨rfl,-⟩ : url = _ ∧ _ := by simpa using last
        simpa only [mail_url] using congrArg (fun endpoint => endpoint ++ _ ++ _ ++ _) authenticated.1

/-! ### What becomes of the mails posted -/

theorem get_authentication_mails (self : Client) :
    self.get_authentication.2.config.outside.mails = self.config.outside.mails := by
  simp only [get_authentication,with_outside]
  cases self.token <;> rfl

theorem get_client_credentials_mails (config : Config) :
    (AccessToken.get_client_credentials config).2.mails = config.outside.mails := by
  unfold AccessToken.get_client_credentials
  split <;> rfl

theorem authenticate_mails (self : Client) :
    self.authenticate.client.config.outside.mails = self.config.outside.mails := by
  have kept := get_authentication_mails self
  unfold authenticate
  split
  · next authenticated => rwa [authenticated] at kept
  · next client authenticated =>
    rw [authenticated] at kept
    have renewed := get_client_credentials_mails client.config
    split
    · next granted =>
      rw [granted] at renewed
      exact renewed.trans kept
    · next failed =>
      rw [failed] at renewed
      exact renewed.trans kept

theorem post_mail_outcome (self : Client) :
    self.post_mail.1 = self.config.outside.mails.head?.getD (.error []) ∧
      self.post_mail.2.config.outside.mails = self.config.outside.mails.tail := by
  unfold post_mail
  split
  · next none => exact ⟨by rw [none]; rfl,by rw [none]; rfl⟩
  · next outcome mails posted => exact ⟨by rw [posted]; rfl,by rw [posted]; rfl⟩

/-- A mail is not posted, which is an error, or posted once, and the outcome of that
    is the result. -/
theorem send_mail_posts [Base64] (self : Client) (sender : Text) (data : Bytes) :
    ∃ requests, (∀ url bearer body, .Mail url bearer body ∉ requests) ∧
      (((∃ err, (self.send_mail sender data).result = .error err) ∧ (self.send_mail sender data).requests = requests ∧
          (self.send_mail sender data).client.config.outside.mails = self.config.outside.mails) ∨
        ∃ url bearer, (self.send_mail sender data).requests = requests ++ [Request.Mail url bearer (Base64.encode data)] ∧
          (self.send_mail sender data).result = self.config.outside.mails.head?.getD (.error []) ∧
          (self.send_mail sender data).client.config.outside.mails = self.config.outside.mails.tail) := by
  have unposted := (authenticate_asks self).2
  have kept := authenticate_mails self
  unfold send_mail
  split
  · next err client requests failed =>
    rw [failed] at unposted kept
    exact ⟨requests,unposted,.inl ⟨⟨err,rfl⟩,rfl,kept⟩⟩
  · next client requests done =>
    rw [done] at unposted kept
    have read := get_authentication_mails client
    split
    · next err client' expired =>
      rw [expired] at read
      exact ⟨requests,unposted,.inl ⟨⟨err,rfl⟩,rfl,read.trans kept⟩⟩
    · next token client' granted =>
      rw [granted] at read
      have left : client'.config.outside.mails = self.config.outside.mails := read.trans kept
      obtain ⟨outcome,others⟩ := post_mail_outcome client'
      rw [left] at outcome others
      exact ⟨requests,unposted,.inr ⟨_,_,rfl,outcome,others⟩⟩

end Client
end Graph
end PostGraph
