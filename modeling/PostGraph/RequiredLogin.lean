import PostGraph.SenderBinding

/-!
When configured users make a login necessary. The mode of authentication follows
from the users that survive loading, from TLS and from the consent to insecure
authentication; without a mode, mails are sent without a login.
-/
namespace PostGraph
open Traces Programs
set_option autoImplicit false

/-- A mail is only sent once a login has succeeded. -/
def AfterLogin (past : List (Event ProxyEffect)) (e : Event ProxyEffect) : Prop :=
  ∀ sender data, e = .Effect (.SendMail sender data) →
    ∃ username password, .OnLogin username password (.ok .Ok) ∈ past

section
variable [Argon2] [Rustls]

/-- The handler of a server that is set up: it has the configuration, and a client without a token. -/
theorem run_handler {config : ConfigFile} {outside : Graph.Outside} {fail2ban : Fail2Ban}
    {server : Config ProxyHandler} (started : run config outside = some (fail2ban,server)) :
    server.session_config.handler = .new config (.new (config.graph.into_client_config outside)) := by
  simp only [run,Option.bind_eq_bind,Option.bind_eq_some_iff,Option.pure_def,Option.some.injEq,Prod.mk.injEq] at started
  obtain ⟨applied,made,-,rfl⟩ := started
  exact (SMTPServerConfig.apply_to_server_config_some made rfl).1

/-- The server that is set up has the mode of authentication of the settings. -/
theorem run_auth_mode {config : ConfigFile} {outside : Graph.Outside} {fail2ban : Fail2Ban}
    {server : Config ProxyHandler} (started : run config outside = some (fail2ban,server)) :
    server.session_config.auth_mode = config.smtp.auth_mode := by
  simp only [run,Option.bind_eq_bind,Option.bind_eq_some_iff,Option.pure_def,Option.some.injEq,Prod.mk.injEq] at started
  obtain ⟨applied,made,-,rfl⟩ := started
  exact (SMTPServerConfig.apply_to_server_config_some made rfl).2.1

/-- Setting up a server fails if the TLS acceptor cannot be made, and only then. -/
theorem run_none {config : ConfigFile} {outside : Graph.Outside} : run config outside = none ↔
    ∃ tls, config.smtp.tls = some tls ∧
      (TlsConfig.Chain tls.certificate_chain tls.private_key).into_tls_acceptor = none := by
  let handler := ProxyHandler.new config (.new (config.graph.into_client_config outside))
  have applied : config.smtp.apply_to_server_config (Config.new handler) = none ↔ _ :=
    SMTPServerConfig.apply_to_server_config_none
  rw [← applied]
  simp only [run,Option.bind_eq_bind]
  cases config.smtp.apply_to_server_config (Config.new handler) with
  | none => simp
  | some server => simp

variable [Base64]

/-- With users, and with TLS or the consent to do without it, a session sends no
    mail before a login has succeeded. -/
theorem no_mail_without_login (config : ConfigFile) (outside : Graph.Outside) (fail2ban : Fail2Ban)
    (server : Config ProxyHandler) (users : config.smtp.auth.has_users = true)
    (secured : config.smtp.tls.isSome = true ∨ config.smtp.allow_insecure_auth = true)
    (started : run config outside = some (fail2ban,server)) (stream : TcpStream) (n : Nat) :
    Always AfterLogin (final (Session.handle n (server.session stream))).trace := by
  have required : server.session_config.auth_mode ≠ .None := by
    rw [run_auth_mode started,SMTPServerConfig.auth_mode,if_pos users]
    rcases secured with tls | consent
    · simp [tls]
    · rw [consent]
      split <;> simp
  have bound := sends_as_user (.new_plain stream server.tls) server.session_config required n
  intro past e rest split sender data sent
  obtain ⟨before,password,after,login,-⟩ := bound past _ rest (sent ▸ split)
  exact ⟨sender,password,by simp [login]⟩

end

/-! ### Loading a configuration file -/

section
variable [Argon2] [Rustls] [Yaml]

/-- With TLS configured, the server requires authentication exactly if a user survives
    loading, or there is no server because its TLS acceptor cannot be made. -/
theorem loading_keeps_authentication_iff (yaml : Text) (document : FileDocument) (files : TLSConfig)
    (outside : Graph.Outside) (parsed : FileDocument.parse yaml = some document) (tls : document.smtp.tls = some files) :
    (∀ config fail2ban server, ConfigFile.from_file yaml = some config →
        run config outside = some (fail2ban,server) → server.session_config.auth_mode = .RequireTls) ↔
      (∃ entry ∈ document.smtp.auth.entries, (Argon2.new entry.2).isSome = true) ∨
        (TlsConfig.Chain files.certificate_chain files.private_key).into_tls_acceptor = none := by
  have loaded : ConfigFile.from_file yaml = some (.deserialize document) := by simp [ConfigFile.from_file,parsed]
  have secured : (ConfigFile.deserialize document).smtp.tls = some files := tls
  have mode : (ConfigFile.deserialize document).smtp.auth_mode =
      if (UserAuth.deserialize document.smtp.auth).has_users then .RequireTls else .None := by
    rw [SMTPServerConfig.auth_mode,secured]
    rfl
  constructor
  · intro requires
    cases started : run (.deserialize document) outside with
    | none =>
      obtain ⟨files',same,failed⟩ := run_none.mp started
      obtain rfl : files = files' := by simpa [secured] using same
      exact .inr failed
    | some server =>
      have required := requires _ server.1 server.2 loaded started
      rw [run_auth_mode started,mode] at required
      refine .inl ((UserAuth.has_users_deserialize _).mp ?_)
      by_contra nobody
      simp [nobody] at required
  · rintro kept config fail2ban server read started
    obtain rfl : ConfigFile.deserialize document = config := by simpa [loaded] using read
    rcases kept with survivor | failed
    · rw [run_auth_mode started,mode,if_pos ((UserAuth.has_users_deserialize _).mpr survivor)]
    · have none : run (.deserialize document) outside = none := run_none.mpr ⟨files,secured,failed⟩
      simp [none] at started

end

section
attribute [local instance] Sample.argon2 Sample.base64

local instance sampleRustls : Rustls where
  read_certs _ := some []
  read_key _ := some []
  with_single_cert _ _ := some ⟨fun stream => some stream.inner⟩

def sampleStranger : TcpStream := Sample.sends "HELO x\r\nMAIL FROM:<x>\r\nRCPT TO:<c>\r\nDATA\r\nhi\r\n.\r\n"

/-- The server for the sample file, which has a user and neither TLS nor the
    consent to do without it. -/
def sampleServer : Option (Fail2Ban × Config ProxyHandler) := run Sample.file Sample.outside

def sampleTrace (server : Option (Fail2Ban × Config ProxyHandler)) (stream : TcpStream) :
    List (Event ProxyEffect) :=
  match server with
  | some server => (final (Session.handle 6 (server.2.session stream))).trace
  | none => []

def is_login : Event ProxyEffect → Bool
  | .OnLogin _ _ _ => true
  | _ => false

/-- Users alone do not make a login necessary. -/
theorem users_do_not_require_login : Sample.file.smtp.auth.has_users = true ∧ sampleServer.isSome = true ∧
    ¬ Always AfterLogin (sampleTrace sampleServer sampleStranger) := by
  refine ⟨by decide,by decide,?_⟩
  intro always
  have sent : Event.Effect (ProxyEffect.SendMail "x".toList (ascii "hi\r\n")) ∈ sampleTrace sampleServer sampleStranger := by
    decide +kernel
  have nobody : ∀ e ∈ sampleTrace sampleServer sampleStranger, is_login e = false := by decide +kernel
  obtain ⟨past,rest,split⟩ := List.append_of_mem sent
  obtain ⟨username,password,login⟩ := always past _ rest split _ _ rfl
  simpa [is_login] using nobody (.OnLogin username password (.ok .Ok)) (by simp [split,login])

def sampleUser : TcpStream := Sample.sends
  "HELO x\r\nAUTH PLAIN AGEAYg==\r\nMAIL FROM:<a>\r\nRCPT TO:<c>\r\nDATA\r\nhi\r\n.\r\n"

/-- The sample file with the consent to authenticate without TLS. -/
def sampleConsent : ConfigFile := { Sample.file with smtp.allow_insecure_auth := true }

theorem no_mail_without_login_sample : (run sampleConsent Sample.outside).isSome = true ∧
    Always AfterLogin (sampleTrace (run sampleConsent Sample.outside) sampleUser) := by
  obtain ⟨server,started⟩ : ∃ server, run sampleConsent Sample.outside = some server := ⟨_,rfl⟩
  refine ⟨by simp [started],?_⟩
  rw [started]
  exact no_mail_without_login sampleConsent Sample.outside server.1 server.2 (by decide) (.inr (by decide))
    started sampleUser 6

/-- The text of a configuration file with TLS and a user "a" with the given hash. -/
def sampleYaml (hash : Text) : Text :=
  "smtp:\n  address: 127.0.0.1:25\n  allow_insecure_auth: false\n  tls:\n    certificate_chain:\n".toList ++
    "    - chain.pem\n    private_key: key.pem\n  auth:\n    a: '".toList ++ hash ++
    "'\ngraph:\n  tenant_id: t\n  client_id: c\n  client_secret: s\n".toList

def sampleDocument (hash : Text) : FileDocument where
  smtp := ⟨"127.0.0.1:25".toList,none,none,false,some ⟨["chain.pem".toList],"key.pem".toList⟩,none,
    AList.insert "a".toList hash ∅⟩
  graph := ⟨"t".toList,"c".toList,"s".toList⟩

/-- The parser on such files. -/
local instance sampleParser : Yaml where
  from_str text :=
    if text = sampleYaml "changeme".toList then some (sampleDocument "changeme".toList).to_value
    else if text = sampleYaml Sample.hash then some (sampleDocument Sample.hash).to_value
    else none
  to_string _ := []

/-- A password in place of its hash is dropped, and with it the need to log in. -/
theorem loading_switches_authentication_off : ∃ config server,
    ConfigFile.from_file (sampleYaml "changeme".toList) = some config ∧ run config Sample.outside = some server ∧
    config.smtp.tls.isSome = true ∧ (sampleDocument "changeme".toList).smtp.auth.entries ≠ [] ∧
    server.2.session_config.auth_mode = .None := by
  have parsed : FileDocument.parse (sampleYaml "changeme".toList) = some (sampleDocument "changeme".toList) := by
    rw [FileDocument.parse,show Yaml.from_str (sampleYaml "changeme".toList) = _ from if_pos rfl,Option.bind_some,
      FileDocument.of_value_to_value]
  exact ⟨.deserialize (sampleDocument "changeme".toList),_,by rw [ConfigFile.from_file,parsed,Option.map_some],rfl,
    rfl,by decide,rfl⟩

theorem loading_keeps_authentication_sample : ∃ config server,
    ConfigFile.from_file (sampleYaml Sample.hash) = some config ∧ run config Sample.outside = some server ∧
    server.2.session_config.auth_mode = .RequireTls := by
  have other : sampleYaml Sample.hash ≠ sampleYaml "changeme".toList := by decide +kernel
  have tree : Yaml.from_str (sampleYaml Sample.hash) = some (sampleDocument Sample.hash).to_value :=
    (if_neg other).trans (if_pos rfl)
  have parsed : FileDocument.parse (sampleYaml Sample.hash) = some (sampleDocument Sample.hash) := by
    rw [FileDocument.parse,tree,Option.bind_some,FileDocument.of_value_to_value]
  have kept := loading_keeps_authentication_iff (sampleYaml Sample.hash) (sampleDocument Sample.hash)
    ⟨["chain.pem".toList],"key.pem".toList⟩ Sample.outside parsed rfl
  have loaded : ConfigFile.from_file (sampleYaml Sample.hash) = some (.deserialize (sampleDocument Sample.hash)) := by
    rw [ConfigFile.from_file,parsed,Option.map_some]
  obtain ⟨server,started⟩ : ∃ server, run (.deserialize (sampleDocument Sample.hash)) Sample.outside = some server :=
    ⟨_,rfl⟩
  exact ⟨_,server,loaded,started,kept.mpr (.inl ⟨⟨"a".toList,Sample.hash⟩,by decide,rfl⟩) _ _ _ loaded started⟩

end
end PostGraph
