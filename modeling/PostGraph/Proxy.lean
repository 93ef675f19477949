import PostGraph.ConfigFile
import PostGraph.Fail2Ban
import PostGraph.Session

/-!
The SMTP event handler that passes mails on to the graph API. The fail2ban
records that all handlers share are passed to the callbacks that use them.
-/
namespace PostGraph
set_option autoImplicit false

structure ProxyHandler [Argon2] where
  config : ConfigFile
  graph_client : Graph.Client
  username : Option Text
  /-- Did this session do anything productive? -/
  productive : Bool

inductive ProxyEffect
  | SendMail (sender : Text) (data : Bytes)
  | Request (request : Graph.Request)
  deriving DecidableEq

namespace ProxyHandler
variable [Argon2]

def new (config : ConfigFile) (graph_client : Graph.Client) : ProxyHandler := ⟨config,graph_client,none,false⟩

def on_connect (self : ProxyHandler) (fail2ban : Fail2Ban) (peer_addr : IpAddr) (pushed judged : Instant) :
    ConnectResult × ProxyHandler × Fail2Ban :=
  let (result,fail2ban) := fail2ban.connect peer_addr pushed judged
  (result,{ self with productive := false },fail2ban)

def on_disconnect (self : ProxyHandler) (fail2ban : Fail2Ban) (peer_addr : IpAddr) (now : Instant) : Fail2Ban :=
  fail2ban.disconnect peer_addr now self.productive

def on_login (self : ProxyHandler) (username password : Text) : Called ProxyHandler ProxyEffect LoginResult :=
  match self.config.smtp.auth.verify_user_password username password with
  | .ok () => ⟨.ok .Ok,{ self with username := some username },[]⟩
  | .error _ => ⟨.ok .Reject,{ self with username := none, productive := false },[]⟩

/-- The handler's check of a sender against the login. -/
def permits (self : ProxyHandler) (sender : Text) : Bool := self.username.all (· = sender)

def on_mail [Base64] (self : ProxyHandler) (mail : Mail) : Called ProxyHandler ProxyEffect Unit :=
  let sender := mail.sender
  if !self.permits sender then ⟨.error "Sender address must match username!".toList,self,[]⟩
  else
    let self := { self with productive := true }
    let ⟨result,graph_client,requests⟩ := self.graph_client.send_mail sender mail.data
    ⟨result,{ self with graph_client := graph_client },.SendMail sender mail.data :: requests.map .Request⟩

def on_reset (self : ProxyHandler) : Called ProxyHandler ProxyEffect Unit := ⟨.ok (),{ self with username := none },[]⟩

instance [Base64] : Handler ProxyHandler ProxyEffect where
  on_hello self _ _ := ⟨.ok .Ok,self,[]⟩
  on_login := on_login
  on_mail := on_mail
  on_reset := on_reset

end ProxyHandler

/-- `run` up to `Server::listen`: the fail2ban records and the configuration of
    the server. -/
def run [Argon2] [Rustls] (config : ConfigFile) (outside : Graph.Outside) :
    Option (Fail2Ban × Config ProxyHandler) := do
  let (max_connections,max_failures,ban_duration) := config.smtp.get_effective_fail2ban_config
  let fail2ban := Fail2Ban.new max_connections.toNat max_failures.toNat ban_duration
  let handler := ProxyHandler.new config (.new (config.graph.into_client_config outside))
  let smtp_config ← config.smtp.apply_to_server_config (Config.new handler)
  return (fail2ban,smtp_config)

/-- The session for a connection to the server on which `stream` was accepted. -/
def Config.session {H Effect : Type} (self : Config H) (stream : TcpStream) : Session H Effect :=
  .new (.new_plain stream self.tls) self.session_config

namespace ProxyHandler
variable [Argon2]

/-- What a login does, and when it succeeds. -/
theorem on_login_ok {self : ProxyHandler} {username password : Text}
    {called : Called ProxyHandler ProxyEffect LoginResult} (ran : self.on_login username password = called) :
    called.effects = [] ∧ ((called.result = .ok .Ok ∧ called.handler = { self with username := some username } ∧
        self.config.smtp.auth.verify_user_password username password = .ok ()) ∨
      (called.result = .ok .Reject ∧ called.handler = { self with username := none, productive := false })) := by
  unfold on_login at ran
  split at ran
  · next verified =>
    obtain rfl := ran
    exact ⟨rfl,.inl ⟨rfl,rfl,verified⟩⟩
  · obtain rfl := ran
    exact ⟨rfl,.inr ⟨rfl,rfl⟩⟩

/-- What the end of a mail does: a refused sender has no effect, another one is
    sent. -/
theorem on_mail_effects [Base64] {self : ProxyHandler} {mail : Mail}
    {called : Called ProxyHandler ProxyEffect Unit} (ran : self.on_mail mail = called) :
    called.handler.username = self.username ∧ called.handler.config = self.config ∧
      ((self.permits mail.sender = false ∧ called.effects = [] ∧ called.handler = self ∧
          called.result = .error "Sender address must match username!".toList) ∨
        (self.permits mail.sender = true ∧ called.effects = .SendMail mail.sender mail.data ::
          (self.graph_client.send_mail mail.sender mail.data).requests.map .Request ∧
          called.handler.graph_client = (self.graph_client.send_mail mail.sender mail.data).client ∧
          called.result = (self.graph_client.send_mail mail.sender mail.data).result)) := by
  unfold on_mail at ran
  cases permitted : self.permits mail.sender with
  | true =>
    obtain rfl := by simpa [permitted] using ran
    exact ⟨rfl,rfl,.inr ⟨rfl,rfl,rfl,rfl⟩⟩
  | false =>
    obtain rfl := by simpa [permitted] using ran
    exact ⟨rfl,rfl,.inl ⟨rfl,rfl,rfl,rfl⟩⟩

end ProxyHandler

/-! ### A set-up for examples: one user "a" with the password "b" -/

namespace Sample

/-- An argon2id hash of the password "b". -/
def hash : Text := "$argon2id$v=19$m=8,t=1,p=1$c2FsdHNhbHQ$Fq+GwuoKs1Ze0SykP16aCg".toList

/-- Hash texts start with '$', and `hash` is verified by its password. -/
local instance argon2 : Argon2 where
  PasswordHash := Text
  new text := if text.head? = some '$' then some text else none
  to_string hash := hash
  hash_password _ _ := some hash
  verify_password password known := known = hash ∧ password = ascii "b"

/-- The engine on the credentials "\\0a\\0b" and on the mail "hi". -/
local instance base64 : Base64 where
  encode bytes := if bytes = ascii "hi\r\n" then ascii "aGkNCg==" else []
  decode text := if text = ascii "AGEAYg==" then some [0,97,0,98] else none

def outside : Graph.Outside := ⟨[.ok ⟨"token".toList,"Bearer".toList,3600,none⟩],[.ok ()],⟨0,[]⟩⟩

def file : ConfigFile := { ConfigFile.empty with smtp.auth := ⟨AList.insert "a".toList hash ∅⟩ }

def config (auth_mode : AuthMode) : SessionConfig ProxyHandler where
  handler := .new file (.new (file.graph.into_client_config outside))
  server_name := "postgraph".toList
  auth_mode := auth_mode
  max_message_size := 1000

def sends (text : String) : TcpStream := ⟨[.Data (ascii text)],[]⟩

end Sample
end PostGraph
