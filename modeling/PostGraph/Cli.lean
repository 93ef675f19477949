import PostGraph.ConfigFile

/-!
The configuration commands. Each command loads the configuration file, changes the
configuration and saves it; what it prints stands in `Output`.
-/
namespace PostGraph
set_option autoImplicit false

/-- What a command is given from outside: the line that is typed at its prompt, unless
    none can be read, and the password and the salt that it draws at random. -/
structure Host where
  input : Option Text
  pwd : Text
  salt : Bytes

def prompt_user_confirmation (host : Host) (prompt : Text) : Bool :=
  match host.input with
  | some input => trim input = prompt
  | none => false

/-- The confirmation that is asked for before insecure authentication is allowed. -/
def confirms_insecure_auth (host : Host) : Bool := prompt_user_confirmation host "yes, i understand".toList

inductive TlsCommand
  | Setup (certificate : List Text) (private_key : Text)
  | Disable

inductive SmtpCommand
  | Show
  | Setup (address name : Option Text) (max_message_size : Option UInt64)
  | Fail2Ban (connections failures : Option UInt32) (duration : Option BanDuration) (reset : Bool)
  | Tls (command : TlsCommand)

inductive GraphCommand
  | Show
  | Setup (tenant_id client_id client_secret : Option Text)
  | Test

inductive UserCommand
  | Show
  | Add (username : Text) (password : Option Text) (force : Bool)
  | Remove (username : Text)

inductive AllowInsecureAuthCommand
  | Yes
  | No

inductive AuthCommand
  | User (command : UserCommand)
  | AllowInsecureAuth (command : AllowInsecureAuthCommand)

inductive ConfigCommand
  | Smtp (command : SmtpCommand)
  | Graph (command : GraphCommand)
  | Auth (command : AuthCommand)
  | Reset

variable [Argon2]

def TlsCommand.execute (self : TlsCommand) (config : ConfigFile) : ConfigFile :=
  match self with
  | .Setup certificate private_key => { config with smtp.tls := some ⟨certificate,private_key⟩ }
  | .Disable => { config with smtp.tls := none }

def SmtpCommand.execute (self : SmtpCommand) (config : ConfigFile) : ConfigFile :=
  match self with
  | .Show => config
  | .Setup address name max_message_size =>
    let config := { config with smtp.address := address.getD config.smtp.address }
    let config := { config with smtp.name := name.or config.smtp.name }
    match max_message_size with
    | some size => { config with smtp.max_message_size := if size = 0 then none else some size }
    | none => config
  | .Fail2Ban connections failures duration reset =>
    if reset then { config with smtp.fail2ban := none }
    else
      let fail2ban := config.smtp.fail2ban.getD ⟨none,none,none⟩
      let fail2ban := ⟨connections.or fail2ban.max_connections,failures.or fail2ban.max_failures,
        duration.or fail2ban.ban_duration⟩
      { config with smtp.fail2ban := some fail2ban }
  | .Tls command => command.execute config

/-- A test of the connection asks the login endpoint and leaves the configuration alone. -/
def GraphCommand.execute (self : GraphCommand) (config : ConfigFile) : ConfigFile :=
  match self with
  | .Show => config
  | .Setup tenant_id client_id client_secret =>
    let graph := ⟨tenant_id.getD config.graph.tenant_id,client_id.getD config.graph.client_id,
      client_secret.getD config.graph.client_secret⟩
    { config with graph := graph }
  | .Test => config

def UserCommand.execute (self : UserCommand) (host : Host) (config : ConfigFile) : ConfigFile :=
  match self with
  | .Show => config
  | .Add username password force =>
    if '@' ∉ username ∧ ¬ force then config
    else
      match config.smtp.auth.set_user_password username (password.getD host.pwd) host.salt with
      | .ok auth => { config with smtp.auth := auth }
      | .error _ => config
  | .Remove username =>
    match config.smtp.auth.remove_user username with
    | .ok auth => { config with smtp.auth := auth }
    | .error _ => config

def AllowInsecureAuthCommand.execute (self : AllowInsecureAuthCommand) (host : Host) (config : ConfigFile) :
    ConfigFile :=
  if config.smtp.tls.isSome then config
  else
    match self with
    | .Yes =>
      if confirms_insecure_auth host then
        { config with smtp.allow_insecure_auth := true }
      else config
    | .No => { config with smtp.allow_insecure_auth := false }

def AuthCommand.execute (self : AuthCommand) (host : Host) (config : ConfigFile) : ConfigFile :=
  match self with
  | .User command => command.execute host config
  | .AllowInsecureAuth command => command.execute host config

namespace ConfigCommand

def change (self : ConfigCommand) (host : Host) (config : ConfigFile) : ConfigFile :=
  match self with
  | .Smtp command => command.execute config
  | .Graph command => command.execute config
  | .Auth command => command.execute host config
  | .Reset => { smtp := ConfigFile.empty.smtp, graph := ConfigFile.empty.graph }

end ConfigCommand

namespace ConfigFile

/-- Insecure authentication is allowed although it is not needed. -/
def Needless (self : ConfigFile) : Prop :=
  self.smtp.allow_insecure_auth = true ∧ (self.smtp.tls.isSome = true ∨ self.smtp.auth.has_users = false)

instance (self : ConfigFile) : Decidable self.Needless := inferInstanceAs (Decidable (_ ∧ _))

/-- Disable insecure authentication when it is not needed. -/
def normalize (self : ConfigFile) : ConfigFile :=
  if self.Needless then { self with smtp.allow_insecure_auth := false } else self

end ConfigFile

def ConfigCommand.execute (self : ConfigCommand) (host : Host) (config : ConfigFile) : ConfigFile :=
  (self.change host config).normalize

/-- The configuration that a command works on; `none` is a file that cannot be read. -/
def load_or_default [Yaml] (file : Option Text) : ConfigFile := (file.bind ConfigFile.from_file).getD ConfigFile.empty

/-- The file after a command. A failure to save is reported and leaves it as it was. -/
def run_config_cli [Yaml] (command : ConfigCommand) (host : Host) (writable : Bool) (file : Option Text) :
    Option Text :=
  if writable then some (command.execute host (load_or_default file)).to_file else file

/-! ### What a command changes -/

/-- A command for users changes the users only. -/
theorem user_execute (config : ConfigFile) (host : Host) (command : UserCommand) :
    ∃ auth, command.execute host config = { config with smtp.auth := auth } := by
  cases command with
  | Show => exact ⟨config.smtp.auth,rfl⟩
  | Add username password force =>
    by_cases refused : '@' ∉ username ∧ ¬ force
    · exact ⟨config.smtp.auth,if_pos refused⟩
    · rw [UserCommand.execute,if_neg refused]
      cases config.smtp.auth.set_user_password username (password.getD host.pwd) host.salt with
      | ok auth => exact ⟨auth,rfl⟩
      | error _ => exact ⟨config.smtp.auth,rfl⟩
  | Remove username =>
    rw [UserCommand.execute]
    cases config.smtp.auth.remove_user username with
    | ok auth => exact ⟨auth,rfl⟩
    | error _ => exact ⟨config.smtp.auth,rfl⟩

/-- A command on insecure authentication changes nothing else. -/
theorem allow_insecure_auth_execute (config : ConfigFile) (host : Host) (command : AllowInsecureAuthCommand) :
    ∃ allowed, command.execute host config = { config with smtp.allow_insecure_auth := allowed } := by
  by_cases secured : config.smtp.tls.isSome
  · exact ⟨config.smtp.allow_insecure_auth,if_pos secured⟩
  · cases command with
    | Yes =>
      by_cases confirmed : confirms_insecure_auth host
      · exact ⟨true,(if_neg secured).trans (if_pos confirmed)⟩
      · exact ⟨config.smtp.allow_insecure_auth,(if_neg secured).trans (if_neg confirmed)⟩
    | No => exact ⟨false,if_neg secured⟩

section
variable {config : ConfigFile}

@[simp] theorem normalize_tls : config.normalize.smtp.tls = config.smtp.tls := by
  unfold ConfigFile.normalize
  split_ifs <;> rfl

@[simp] theorem normalize_auth : config.normalize.smtp.auth = config.smtp.auth := by
  unfold ConfigFile.normalize
  split_ifs <;> rfl

/-- Insecure authentication stays allowed exactly if it is needed. -/
theorem normalize_allows : config.normalize.smtp.allow_insecure_auth = true ↔
    config.smtp.allow_insecure_auth = true ∧ config.smtp.tls = none ∧ config.smtp.auth.has_users = true := by
  unfold ConfigFile.normalize
  by_cases needless : config.Needless
  · rw [if_pos needless]
    refine iff_of_false (by simp) ?_
    rintro ⟨-,plain,users⟩
    rcases needless.2 with tls | nobody
    · simp [plain] at tls
    · simp [users] at nobody
  · rw [if_neg needless]
    constructor
    · intro allowed
      obtain ⟨plain,users⟩ := not_or.mp fun either => needless ⟨allowed,either⟩
      exact ⟨allowed,by simpa using plain,by simpa using users⟩
    · exact fun allowed => allowed.1

end
end PostGraph
