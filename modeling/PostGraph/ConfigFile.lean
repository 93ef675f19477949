import PostGraph.Auth
import PostGraph.Config
import PostGraph.Graph
import PostGraph.Lib.Values

/-!
The configuration file, and what it makes of the configuration of the SMTP
server. The file's document and the configuration in memory have the same shape;
they differ in the users and in the span of a ban, which have their own decoders.
A document is read from a tree of values and written to one, field by field;
only the text of the tree is left to the file library.
-/
namespace PostGraph
open Values
set_option autoImplicit false

def RECOMMENDED_MAX_MESSAGE_SIZE : Nat := 34 * 1024 * 1024

def DEFAULT_SMTP_BIND_ADDRESS : Text := "127.0.0.1:25".toList
def DEFAULT_FAIL2BAN_CONNECTIONS : UInt32 := 5
def DEFAULT_FAIL2BAN_FAILS : UInt32 := 5
def DEFAULT_FAIL2BAN_DURATION : Duration := from_secs (30 * 60)

/-- How long a ban lasts: its seconds are a u64, as those of every `Duration`. -/
abbrev BanDuration : Type := {span : Duration // as_secs span < UInt64.size}

structure TLSConfig where
  certificate_chain : List Text
  private_key : Text

structure Fail2BanConfig (Span : Type) where
  max_connections : Option UInt32
  max_failures : Option UInt32
  ban_duration : Option Span

structure SMTPServerConfig (Users Span : Type) where
  address : Text
  name : Option Text
  max_message_size : Option UInt64
  allow_insecure_auth : Bool
  tls : Option TLSConfig
  fail2ban : Option (Fail2BanConfig Span)
  auth : Users

structure GraphAPIConfig where
  tenant_id : Text
  client_id : Text
  client_secret : Text

/-- A configuration, with the given types of the users and of a span of time. -/
structure Document (Users Span : Type) where
  smtp : SMTPServerConfig Users Span
  graph : GraphAPIConfig

/-- What a configuration file says: users by their hash texts, spans in seconds. -/
abbrev FileDocument : Type := Document (HashMap Text) UInt64

abbrev ConfigFile [Argon2] : Type := Document UserAuth BanDuration

/-! ### The fields in the file -/

/-- The text of a tree of values, which the `yaml_serde` crate reads and writes. -/
class Yaml where
  from_str : Text → Option Value
  to_string : Value → Text

def read_u32 (value : Value) : Option UInt32 := (value.number UInt32.size).map .ofFin
def read_u64 (value : Value) : Option UInt64 := (value.number UInt64.size).map .ofFin
def write_u32 (value : UInt32) : Value := .of_number value.toNat
def write_u64 (value : UInt64) : Value := .of_number value.toNat

namespace TLSConfig

def of_value (value : Value) : Option TLSConfig := do
  let fields ← value.fields ["certificate_chain".toList,"private_key".toList] 0
  return {
    certificate_chain := ← fields.required (Value.list Value.text) ["certificate_chain".toList]
    private_key := ← fields.required Value.text ["private_key".toList] }

def fields (self : TLSConfig) : List (Text × Option Value) := [
  ("certificate_chain".toList,some (.Sequence (self.certificate_chain.map .of_text))),
  ("private_key".toList,some (.of_text self.private_key))]

def to_value (self : TLSConfig) : Value := .record self.fields

end TLSConfig

namespace Fail2BanConfig

def of_value (value : Value) : Option (Fail2BanConfig UInt64) := do
  let fields ← value.fields ["max_connections".toList,"max_failures".toList,"ban_duration".toList] 1
  return {
    max_connections := ← fields.optional read_u32 ["max_connections".toList]
    max_failures := ← fields.optional read_u32 ["max_failures".toList]
    -- a field with a codec of its own has to be there, but for the `default`
    ban_duration := ← fields.defaulted none (Value.option read_u64) ["ban_duration".toList] }

def fields (self : Fail2BanConfig UInt64) : List (Text × Option Value) := [
  ("max_connections".toList,self.max_connections.map write_u32),
  ("max_failures".toList,self.max_failures.map write_u32),
  ("ban_duration".toList,self.ban_duration.map write_u64)]

def to_value (self : Fail2BanConfig UInt64) : Value := .record self.fields

end Fail2BanConfig

namespace SMTPServerConfig

def of_value (value : Value) : Option (SMTPServerConfig (HashMap Text) UInt64) := do
  let fields ← value.fields ["address".toList,"name".toList,"max_message_size".toList,"allow_insecure_auth".toList,
    "tls".toList,"fail2ban".toList,"auth".toList] 0
  return {
    address := ← fields.required Value.text ["address".toList]
    name := ← fields.optional Value.text ["name".toList]
    max_message_size := ← fields.optional read_u64 ["max_message_size".toList]
    allow_insecure_auth := ← fields.required Value.bool ["allow_insecure_auth".toList]
    tls := ← fields.optional TLSConfig.of_value ["tls".toList]
    fail2ban := ← fields.optional Fail2BanConfig.of_value ["fail2ban".toList]
    auth := ← fields.required (Value.map Value.text) ["auth".toList,"users".toList] }

def fields (self : SMTPServerConfig (HashMap Text) UInt64) : List (Text × Option Value) := [
  ("address".toList,some (.of_text self.address)),
  ("name".toList,self.name.map .of_text),
  ("max_message_size".toList,self.max_message_size.map write_u64),
  ("allow_insecure_auth".toList,some (.of_bool self.allow_insecure_auth)),
  ("tls".toList,self.tls.map TLSConfig.to_value),
  ("fail2ban".toList,self.fail2ban.map Fail2BanConfig.to_value),
  ("auth".toList,some (.of_map .of_text self.auth))]

def to_value (self : SMTPServerConfig (HashMap Text) UInt64) : Value := .record self.fields

end SMTPServerConfig

namespace GraphAPIConfig

def of_value (value : Value) : Option GraphAPIConfig := do
  let fields ← value.fields ["tenant_id".toList,"client_id".toList,"client_secret".toList] 0
  return {
    tenant_id := ← fields.required Value.text ["tenant_id".toList]
    client_id := ← fields.required Value.text ["client_id".toList]
    client_secret := ← fields.required Value.text ["client_secret".toList] }

def fields (self : GraphAPIConfig) : List (Text × Option Value) := [
  ("tenant_id".toList,some (.of_text self.tenant_id)),
  ("client_id".toList,some (.of_text self.client_id)),
  ("client_secret".toList,some (.of_text self.client_secret))]

def to_value (self : GraphAPIConfig) : Value := .record self.fields

end GraphAPIConfig

namespace FileDocument

def of_value (value : Value) : Option FileDocument := do
  let fields ← value.fields ["smtp".toList,"graph".toList] 0
  return {
    smtp := ← fields.required SMTPServerConfig.of_value ["smtp".toList]
    graph := ← fields.required GraphAPIConfig.of_value ["graph".toList] }

def fields (self : FileDocument) : List (Text × Option Value) := [
  ("smtp".toList,some self.smtp.to_value),
  ("graph".toList,some self.graph.to_value)]

def to_value (self : FileDocument) : Value := .record self.fields

/-- What a text says, if it is that of a configuration file. -/
def parse [Yaml] (yaml : Text) : Option FileDocument := (Yaml.from_str yaml).bind of_value

end FileDocument

/-! ### What is written is read -/

theorem read_write_u32 (value : UInt32) : read_u32 (write_u32 value) = some value := by
  rw [read_u32,write_u32,number_of_number value.toNat_lt_size]
  rfl

theorem read_write_u64 (value : UInt64) : read_u64 (write_u64 value) = some value := by
  rw [read_u64,write_u64,number_of_number value.toNat_lt_size]
  rfl

theorem TLSConfig.of_value_to_value (self : TLSConfig) : of_value self.to_value = some self := by
  have distinct : (self.fields.map Prod.fst).Nodup :=
    show ["certificate_chain".toList,"private_key".toList].Nodup by decide
  have chain := required_record "certificate_chain".toList [] distinct (by simp) (by simp [fields])
    (list_of_list text_of_text self.certificate_chain)
  have key := required_record "private_key".toList [] distinct (by simp) (by simp [fields]) (text_of_text self.private_key)
  simp only [of_value,to_value,fields_record,Option.bind_eq_bind,Option.bind_some,chain,key]
  rfl

theorem Fail2BanConfig.of_value_to_value (self : Fail2BanConfig UInt64) : of_value self.to_value = some self := by
  have distinct : (self.fields.map Prod.fst).Nodup :=
    show ["max_connections".toList,"max_failures".toList,"ban_duration".toList].Nodup by decide
  have connections := optional_record "max_connections".toList distinct (a := self.max_connections) (by simp [fields])
    read_write_u32 nofun
  have failures := optional_record "max_failures".toList distinct (a := self.max_failures) (by simp [fields])
    read_write_u32 nofun
  have duration := optional_record "ban_duration".toList distinct (a := self.ban_duration) (by simp [fields])
    read_write_u64 nofun
  rw [Fields.optional] at duration
  simp only [of_value,to_value,fields_record,Option.bind_eq_bind,Option.bind_some,connections,failures,duration]
  rfl

theorem SMTPServerConfig.of_value_to_value (self : SMTPServerConfig (HashMap Text) UInt64) :
    of_value self.to_value = some self := by
  have distinct : (self.fields.map Prod.fst).Nodup := show ["address".toList,"name".toList,"max_message_size".toList,
    "allow_insecure_auth".toList,"tls".toList,"fail2ban".toList,"auth".toList].Nodup by decide
  have users : "users".toList ∉ self.fields.map Prod.fst := show "users".toList ∉ ["address".toList,"name".toList,
    "max_message_size".toList,"allow_insecure_auth".toList,"tls".toList,"fail2ban".toList,"auth".toList] by decide
  have address := required_record "address".toList [] distinct (by simp) (by simp [fields]) (text_of_text self.address)
  have name := optional_record "name".toList distinct (a := self.name) (by simp [fields]) text_of_text nofun
  have size := optional_record "max_message_size".toList distinct (a := self.max_message_size) (by simp [fields])
    read_write_u64 nofun
  have insecure := required_record "allow_insecure_auth".toList [] distinct (by simp) (by simp [fields])
    (bool_of_bool self.allow_insecure_auth)
  have tls := optional_record "tls".toList distinct (a := self.tls) (by simp [fields]) TLSConfig.of_value_to_value nofun
  have fail2ban := optional_record "fail2ban".toList distinct (a := self.fail2ban) (by simp [fields])
    Fail2BanConfig.of_value_to_value nofun
  have auth := required_record "auth".toList ["users".toList] distinct (by simpa using users) (by simp [fields])
    (map_of_map text_of_text self.auth)
  simp only [of_value,to_value,fields_record,Option.bind_eq_bind,Option.bind_some,address,name,size,insecure,tls,fail2ban,
    auth]
  rfl

theorem GraphAPIConfig.of_value_to_value (self : GraphAPIConfig) : of_value self.to_value = some self := by
  have distinct : (self.fields.map Prod.fst).Nodup :=
    show ["tenant_id".toList,"client_id".toList,"client_secret".toList].Nodup by decide
  have tenant := required_record "tenant_id".toList [] distinct (by simp) (by simp [fields]) (text_of_text self.tenant_id)
  have client := required_record "client_id".toList [] distinct (by simp) (by simp [fields]) (text_of_text self.client_id)
  have secret := required_record "client_secret".toList [] distinct (by simp) (by simp [fields])
    (text_of_text self.client_secret)
  simp only [of_value,to_value,fields_record,Option.bind_eq_bind,Option.bind_some,tenant,client,secret]
  rfl

/-- A document is what its tree of values says. -/
theorem FileDocument.of_value_to_value (self : FileDocument) : of_value self.to_value = some self := by
  have distinct : (self.fields.map Prod.fst).Nodup := show ["smtp".toList,"graph".toList].Nodup by decide
  have smtp := required_record "smtp".toList [] distinct (by simp) (by simp [fields])
    (SMTPServerConfig.of_value_to_value self.smtp)
  have graph := required_record "graph".toList [] distinct (by simp) (by simp [fields])
    (GraphAPIConfig.of_value_to_value self.graph)
  simp only [of_value,to_value,fields_record,Option.bind_eq_bind,Option.bind_some,smtp,graph]
  rfl

/-- A document that was saved is read back if its tree is. -/
theorem FileDocument.parse_saved [Yaml] {document : FileDocument}
    (kept : Yaml.from_str (Yaml.to_string document.to_value) = some document.to_value) :
    parse (Yaml.to_string document.to_value) = some document := by
  rw [parse,kept,Option.bind_some,of_value_to_value]

/-! ### The configuration in memory -/

namespace opt_duration_secs

def serialize (d : BanDuration) : UInt64 := .ofNatLT (as_secs d.val) d.property

theorem seconds_bounded (secs : UInt64) : as_secs (from_secs secs.toNat) < UInt64.size := by
  have small := secs.toNat_lt_size
  simpa [as_secs,from_secs] using small

def deserialize (secs : UInt64) : BanDuration := ⟨from_secs secs.toNat,seconds_bounded secs⟩

end opt_duration_secs

namespace Document

/-- Apply the decoders of the users and of spans of time. -/
def decode {Users Users' Span Span' : Type} (self : Document Users Span) (users : Users → Users')
    (span : Span → Span') : Document Users' Span' where
  smtp :=
    { address := self.smtp.address
      name := self.smtp.name
      max_message_size := self.smtp.max_message_size
      allow_insecure_auth := self.smtp.allow_insecure_auth
      tls := self.smtp.tls
      fail2ban := self.smtp.fail2ban.map fun config =>
        ⟨config.max_connections,config.max_failures,config.ban_duration.map span⟩
      auth := users self.smtp.auth }
  graph := self.graph

end Document

namespace ConfigFile
variable [Argon2]

def empty : ConfigFile where
  smtp := ⟨DEFAULT_SMTP_BIND_ADDRESS,none,none,false,none,none,UserAuth.new⟩
  graph := ⟨[],[],[]⟩

def deserialize (document : FileDocument) : ConfigFile :=
  document.decode UserAuth.deserialize opt_duration_secs.deserialize

def serialize (self : ConfigFile) : FileDocument := self.decode UserAuth.serialize opt_duration_secs.serialize

def from_file [Yaml] (yaml : Text) : Option ConfigFile := (FileDocument.parse yaml).map deserialize

def to_file [Yaml] (self : ConfigFile) : Text := Yaml.to_string self.serialize.to_value

end ConfigFile

def GraphAPIConfig.into_client_config (self : GraphAPIConfig) (outside : Graph.Outside) : Graph.Config :=
  .new self.tenant_id self.client_id self.client_secret outside

namespace SMTPServerConfig
variable [Argon2]

/-- The authentication mode that the settings lead to. -/
def auth_mode (self : SMTPServerConfig UserAuth BanDuration) : AuthMode :=
  if self.auth.has_users then
    if self.tls.isSome then .RequireTls else if self.allow_insecure_auth then .Always else .None
  else .None

def apply_to_server_config [Rustls] {H : Type} (self : SMTPServerConfig UserAuth BanDuration) (config : Config H) :
    Option (Config H) := do
  let config := config.with_address self.address
  let config := config.with_server_name (self.name.getD "postgraph".toList)
  let config ← match self.tls with
    | some tls => config.with_tls (.Chain tls.certificate_chain tls.private_key)
    | none => some config
  let config := config.with_auth self.auth_mode
  return config.with_max_message_size ((self.max_message_size.map UInt64.toNat).getD RECOMMENDED_MAX_MESSAGE_SIZE)

def get_effective_fail2ban_config (self : SMTPServerConfig UserAuth BanDuration) : UInt32 × UInt32 × Duration :=
  let config := self.fail2ban.getD ⟨none,none,none⟩
  (config.max_connections.getD DEFAULT_FAIL2BAN_CONNECTIONS,config.max_failures.getD DEFAULT_FAIL2BAN_FAILS,
    (config.ban_duration.map Subtype.val).getD DEFAULT_FAIL2BAN_DURATION)

/-- A server that is set up keeps the handler and the mode that the settings
    lead to, and can upgrade a connection if TLS is configured. -/
theorem apply_to_server_config_some [Rustls] {H : Type} {self : SMTPServerConfig UserAuth BanDuration}
    {config config' : Config H} (applied : self.apply_to_server_config config = some config')
    (plain : config.tls = none) :
    config'.session_config.handler = config.session_config.handler ∧
      config'.session_config.auth_mode = self.auth_mode ∧ config'.tls.isSome = self.tls.isSome := by
  unfold apply_to_server_config at applied
  cases tls : self.tls with
  | none =>
    simp only [tls,Option.bind_eq_bind,Option.bind_some,Option.pure_def,Option.some.injEq] at applied
    obtain rfl := applied
    refine ⟨rfl,rfl,?_⟩
    simp [Config.with_max_message_size,Config.with_auth,Config.with_server_name,Config.with_address,plain]
  | some files =>
    simp only [tls,Option.bind_eq_bind,Config.with_tls,Option.bind_eq_some_iff,Option.pure_def,
      Option.some.injEq] at applied
    obtain ⟨upgraded,⟨acceptor,-,made⟩,rfl⟩ := applied
    obtain rfl := made
    exact ⟨rfl,rfl,rfl⟩

/-- Setting up a server fails if the TLS acceptor cannot be made, and only then. -/
theorem apply_to_server_config_none [Rustls] {H : Type} {self : SMTPServerConfig UserAuth BanDuration}
    {config : Config H} : self.apply_to_server_config config = none ↔
      ∃ tls, self.tls = some tls ∧
        (TlsConfig.Chain tls.certificate_chain tls.private_key).into_tls_acceptor = none := by
  unfold apply_to_server_config
  cases tls : self.tls with
  | none => simp
  | some files =>
    cases made : (TlsConfig.Chain files.certificate_chain files.private_key).into_tls_acceptor with
    | none => simp [Config.with_tls,made]
    | some acceptor => simp [Config.with_tls,made]

end SMTPServerConfig
end PostGraph
