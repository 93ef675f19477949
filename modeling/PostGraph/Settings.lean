import PostGraph.Lib.Registers
import PostGraph.Persistence

/-!
What the configuration commands come to: a store of settings, each of which holds the
value of the last command that set it. The consent to insecure authentication is
no such setting, since it depends on others; of a ban the whole seconds count.
-/
namespace PostGraph
open Registers Runs Values
set_option autoImplicit false

/-- What the commands can set. -/
inductive Setting
  | Address
  | Name
  | MaxMessageSize
  | MaxConnections
  | MaxFailures
  | BanDuration
  | Tls
  | TenantId
  | ClientId
  | ClientSecret
  | User (username : Text)

section
variable [Argon2]

/-- The values of a setting; a ban is told in whole seconds. -/
def Setting.Value : Setting → Type
  | Address | TenantId | ClientId | ClientSecret => Text
  | Name => Option Text
  | MaxConnections | MaxFailures => Option UInt32
  | MaxMessageSize | BanDuration => Option UInt64
  | Tls => Option TLSConfig
  | User _ => Option Argon2.PasswordHash

def ConfigFile.setting (self : ConfigFile) : (key : Setting) → key.Value
  | .Address => self.smtp.address
  | .Name => self.smtp.name
  | .MaxMessageSize => self.smtp.max_message_size
  | .MaxConnections => self.smtp.fail2ban.bind Fail2BanConfig.max_connections
  | .MaxFailures => self.smtp.fail2ban.bind Fail2BanConfig.max_failures
  | .BanDuration => (self.smtp.fail2ban.bind Fail2BanConfig.ban_duration).map opt_duration_secs.serialize
  | .Tls => self.smtp.tls
  | .TenantId => self.graph.tenant_id
  | .ClientId => self.graph.client_id
  | .ClientSecret => self.graph.client_secret
  | .User username => self.smtp.auth.users.lookup username

/-! ### What the commands set -/

def TlsCommand.sets : TlsCommand → (key : Setting) → Option key.Value
  | .Setup certificate private_key => fun key =>
    match key with
    | .Tls => some (some ⟨certificate,private_key⟩)
    | _ => none
  | .Disable => fun key =>
    match key with
    | .Tls => some none
    | _ => none

def SmtpCommand.sets : SmtpCommand → (key : Setting) → Option key.Value
  | .Show => fun _ => none
  | .Setup address name max_message_size => fun key =>
    match key with
    | .Address => address
    | .Name => name.map some
    | .MaxMessageSize => max_message_size.map fun size => if size = 0 then none else some size
    | _ => none
  | .Fail2Ban connections failures duration reset => fun key =>
    match key with
    | .MaxConnections => if reset then some none else connections.map some
    | .MaxFailures => if reset then some none else failures.map some
    | .BanDuration => if reset then some none else duration.map fun span => some (opt_duration_secs.serialize span)
    | _ => none
  | .Tls command => command.sets

def GraphCommand.sets : GraphCommand → (key : Setting) → Option key.Value
  | .Show | .Test => fun _ => none
  | .Setup tenant_id client_id client_secret => fun key =>
    match key with
    | .TenantId => tenant_id
    | .ClientId => client_id
    | .ClientSecret => client_secret
    | _ => none

/-- A user is set to the hash of the password, if there is one, and the name looks like that
    of a user or is forced. -/
def UserCommand.sets (host : Host) : UserCommand → (key : Setting) → Option key.Value
  | .Show => fun _ => none
  | .Add username password force => fun key =>
    match key with
    | .User other =>
      if other = username ∧ ('@' ∈ username ∨ force) then
        (Argon2.hash_password host.salt (Utf8.encode (password.getD host.pwd))).map some
      else none
    | _ => none
  | .Remove username => fun key =>
    match key with
    | .User other => if other = username then some none else none
    | _ => none

def ConfigCommand.sets (host : Host) : ConfigCommand → (key : Setting) → Option key.Value
  | .Smtp command => command.sets
  | .Graph command => command.sets
  | .Auth (.User command) => command.sets host
  | .Auth (.AllowInsecureAuth _) => fun _ => none
  | .Reset => fun key => some (ConfigFile.empty.setting key)

section
variable {config : ConfigFile} {host : Host} {key : Setting}

theorem setting_normalize : config.normalize.setting key = config.setting key := by
  unfold ConfigFile.normalize
  split_ifs
  · cases key <;> rfl
  · rfl

theorem tls_sets (command : TlsCommand) :
    (command.execute config).setting key = (command.sets key).getD (config.setting key) := by
  cases command <;> cases key <;> rfl

omit [Argon2] in
/-- Limits that are not given are limits of which none is set. -/
theorem limit_getD {α : Type} (limits : Option (Fail2BanConfig PostGraph.BanDuration))
    (limit : Fail2BanConfig PostGraph.BanDuration → Option α)
    (unset : limit ⟨none,none,none⟩ = none) : limit (limits.getD ⟨none,none,none⟩) = limits.bind limit := by
  cases limits with
  | none => exact unset
  | some _ => rfl

theorem fail2ban_sets (connections failures : Option UInt32) (duration : Option PostGraph.BanDuration) :
    ((SmtpCommand.Fail2Ban connections failures duration false).execute config).setting key =
      ((SmtpCommand.Fail2Ban connections failures duration false).sets key).getD (config.setting key) := by
  have kept {α : Type} (limit : Fail2BanConfig PostGraph.BanDuration → Option α) := limit_getD config.smtp.fail2ban limit
  cases key with
  | MaxConnections =>
    cases connections with
    | none => exact kept Fail2BanConfig.max_connections rfl
    | some _ => rfl
  | MaxFailures =>
    cases failures with
    | none => exact kept Fail2BanConfig.max_failures rfl
    | some _ => rfl
  | BanDuration =>
    cases duration with
    | none => exact congrArg (Option.map opt_duration_secs.serialize) (kept Fail2BanConfig.ban_duration rfl)
    | some _ => rfl
  | _ => rfl

theorem smtp_sets (command : SmtpCommand) :
    (command.execute config).setting key = (command.sets key).getD (config.setting key) := by
  cases command with
  | Show => rfl
  | Setup address name max_message_size =>
    cases key with
    | Name => cases name <;> cases max_message_size <;> rfl
    | _ => cases max_message_size <;> rfl
  | Fail2Ban connections failures duration reset =>
    cases reset with
    | true => cases key <;> rfl
    | false => exact fail2ban_sets connections failures duration
  | Tls command => exact tls_sets command

theorem graph_sets (command : GraphCommand) :
    (command.execute config).setting key = (command.sets key).getD (config.setting key) := by
  cases command with
  | Show => rfl
  | Setup tenant_id client_id client_secret => cases key <;> rfl
  | Test => rfl

theorem user_sets (command : UserCommand) :
    (command.execute host config).setting key = (command.sets host key).getD (config.setting key) := by
  obtain ⟨auth,changed⟩ := user_execute config host command
  cases key with
  | User other =>
    cases command with
    | Show => rfl
    | Add username password force =>
      by_cases refused : '@' ∉ username ∧ ¬ force
      · have none : ¬ (other = username ∧ ('@' ∈ username ∨ force = true)) := by
          rintro ⟨-,accepted⟩
          exact accepted.elim refused.1 refused.2
        simp only [UserCommand.execute,UserCommand.sets,if_pos refused,if_neg none]
        rfl
      · have accepted : '@' ∈ username ∨ force = true := by tauto
        simp only [UserCommand.execute,UserCommand.sets,if_neg refused,accepted,and_true,UserAuth.set_user_password]
        cases Argon2.hash_password host.salt (Utf8.encode (password.getD host.pwd)) with
        | none => split_ifs <;> rfl
        | some hash =>
          by_cases same : other = username
          · rw [if_pos same,same]
            exact AList.lookup_insert _
          · rw [if_neg same]
            exact AList.lookup_insert_ne same
    | Remove username =>
      simp only [UserCommand.execute,UserCommand.sets,UserAuth.remove_user]
      by_cases known : username ∈ config.smtp.auth.users
      · rw [if_pos known]
        by_cases same : other = username
        · rw [if_pos same,same]
          exact AList.lookup_erase _ _
        · rw [if_neg same]
          exact AList.lookup_erase_ne same
      · rw [if_neg known]
        by_cases same : other = username
        · rw [if_pos same,same]
          exact AList.lookup_eq_none.mpr known
        · rw [if_neg same]
          rfl
  | _ =>
    rw [changed]
    cases command <;> rfl

theorem change_sets (command : ConfigCommand) :
    (command.change host config).setting key = (command.sets host key).getD (config.setting key) := by
  cases command with
  | Smtp command => exact smtp_sets command
  | Graph command => exact graph_sets command
  | Auth command =>
    cases command with
    | User command => exact user_sets command
    | AllowInsecureAuth command =>
      obtain ⟨allowed,changed⟩ := allow_insecure_auth_execute config host command
      rw [ConfigCommand.change,AuthCommand.execute,changed]
      cases key <;> rfl
  | Reset => cases key <;> rfl

/-- Saving and loading changes no setting. -/
theorem setting_reload (texts : ∀ hash : Argon2.PasswordHash, Argon2.new (Argon2.to_string hash) = some hash) :
    (ConfigFile.deserialize config.serialize).setting key = config.setting key := by
  rw [deserialize_serialize texts]
  have limits {α : Type} (limit : Fail2BanConfig PostGraph.BanDuration → Option α)
      (cut : Fail2BanConfig PostGraph.BanDuration → Fail2BanConfig PostGraph.BanDuration)
      (same : ∀ limits, limit (cut limits) = limit limits) :
      (config.smtp.fail2ban.map cut).bind limit = config.smtp.fail2ban.bind limit := by
    cases config.smtp.fail2ban with
    | none => rfl
    | some known => exact same known
  cases key with
  | MaxConnections => exact limits Fail2BanConfig.max_connections _ fun _ => rfl
  | MaxFailures => exact limits Fail2BanConfig.max_failures _ fun _ => rfl
  | BanDuration =>
    have same (span : Option PostGraph.BanDuration) : (span.map BanDuration.truncate).map opt_duration_secs.serialize =
        span.map opt_duration_secs.serialize := by
      cases span with
      | none => rfl
      | some span => exact congrArg some (serialize_deserialize (opt_duration_secs.serialize span))
    simp only [ConfigFile.setting,Option.map_bind]
    exact limits (Option.map opt_duration_secs.serialize ∘ Fail2BanConfig.ban_duration) _ fun known =>
      same known.ban_duration
  | _ => rfl

end

/-! ### The file under the commands -/

/-- A run of the tool: its command, and whether the configuration can be saved in the end. -/
structure CliRun where
  command : ConfigCommand
  host : Host
  writable : Bool

def CliRun.sets (self : CliRun) : (key : Setting) → Option key.Value :=
  if self.writable then self.command.sets self.host else fun _ => none

variable [Yaml]

/-- The tool is run on a file. -/
def run_cli (file : Option Text) (run : CliRun) : Option (Option Text) :=
  some (run_config_cli run.command run.host run.writable file)

/-- The tree of values that the run saves, if it can. -/
def CliRun.saves (self : CliRun) (file : Option Text) : Value :=
  (self.command.execute self.host (load_or_default file)).serialize.to_value

/-- The text of the tree is read as the tree. -/
def ReadBack (file : Option Text) (run : CliRun) : Prop :=
  run.writable = true → Yaml.from_str (Yaml.to_string (run.saves file)) = some (run.saves file)

/-- The settings in a file, as registers that the runs of the tool write. -/
def settings (texts : ∀ hash : Argon2.PasswordHash, Argon2.new (Argon2.to_string hash) = some hash) :
    Bank run_cli ReadBack Setting.Value where
  read file := (load_or_default file).setting
  writes := CliRun.sets
  lawful {file run file'} kept ran key := by
    obtain ⟨command,host,writable⟩ := run
    obtain rfl := Option.some.inj ran
    cases writable with
    | false => rfl
    | true =>
      have loaded : load_or_default (some (command.execute host (load_or_default file)).to_file) =
          .deserialize (command.execute host (load_or_default file)).serialize := by
        rw [load_or_default,Option.bind_some,from_file_to_file texts (kept rfl),Option.getD_some,
          deserialize_serialize texts]
      calc (load_or_default (some (command.execute host (load_or_default file)).to_file)).setting key
        _ = (command.execute host (load_or_default file)).setting key := by rw [loaded,setting_reload texts]
        _ = (command.change host (load_or_default file)).setting key := setting_normalize
        _ = (command.sets host key).getD ((load_or_default file).setting key) := change_sets command

end

section
attribute [local instance] sampleArgon2 sampleLibrary

end
end PostGraph
