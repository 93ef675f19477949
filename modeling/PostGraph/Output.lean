import PostGraph.Persistence

/-!
What the configuration commands print. Of the ids and the secret of the graph API no more
than the last characters are printed, and of the passwords nothing but those that a
command draws: configurations that differ in the rest cannot be told apart by any
use of the tool.
-/
namespace PostGraph
set_option autoImplicit false

def API_MAX_MESSAGE_SIZE : Nat := 50 * 1024 * 1024

/-- The `humantime` crate. -/
class Humantime where
  format_duration : Duration → Text

/-- `println!` -/
def println (text : Text) : Text := text ++ ['\n']

/-- Mask all but the last `last_n` characters. -/
def mask_string (s : Text) (last_n : Nat) : Text :=
  let n := s.length
  List.replicate (n - last_n) '*' ++ s.drop (n - last_n)

section
variable [Argon2]

def show_insecure_auth_warning (config : ConfigFile) : Text :=
  if config.smtp.tls.isNone && config.smtp.auth.has_users then
    println [] ++
    println "WARNING: You've configured user authentication, but have not configured TLS.".toList ++
    if config.smtp.allow_insecure_auth then
      println "In this configuration, credentials are sent in plain-text, potentially allowing credential theft.".toList
    else
      println "Authentication is currently not enabled.".toList ++
      println ("If you wish to enable authentication anyway, run " ++
        "'postgraph config auth allow-insecure-auth yes'").toList
  else []

/-- `SmtpCommand::show` -/
def SmtpCommand.shows [Humantime] (config : ConfigFile) : Text :=
  let (max_connections,max_failures,ban_duration) := config.smtp.get_effective_fail2ban_config
  println "SMTP Server Configuration:".toList ++
  println (" Listen Address: ".toList ++ config.smtp.address) ++
  println (" Server Name: ".toList ++ config.smtp.name.getD "N/A".toList) ++
  " Maximum Message Size: ".toList ++
  (match config.smtp.max_message_size with
    | some max_message_size =>
      decimal max_message_size.toNat ++ " bytes".toList ++
      if max_message_size.toNat > API_MAX_MESSAGE_SIZE then
        println (" (above maximum of ".toList ++ decimal API_MAX_MESSAGE_SIZE ++
          " bytes the Graph API can reliably handle)".toList)
      else if max_message_size.toNat > RECOMMENDED_MAX_MESSAGE_SIZE then
        println (" (above recommended maximum of ".toList ++ decimal RECOMMENDED_MAX_MESSAGE_SIZE ++ " bytes)".toList)
      else println []
    | none => println "Automatic".toList) ++
  println [] ++
  println "Fail2Ban Configuration:".toList ++
  println (" Maximum Connections: ".toList ++ decimal max_connections.toNat) ++
  println (" Max Failures: ".toList ++ decimal max_failures.toNat) ++
  println (" Ban Duration: ".toList ++ Humantime.format_duration ban_duration) ++
  println [] ++
  "TLS Configuration:".toList ++
  (match config.smtp.tls with
    | some tls =>
      println [] ++
      println " Certificate Chain: ".toList ++
      tls.certificate_chain.flatMap (fun cert => println ("   ".toList ++ cert)) ++
      println (" Private Key: ".toList ++ tls.private_key)
    | none => println " N/A".toList) ++
  show_insecure_auth_warning config

def SmtpCommand.output [Humantime] (self : SmtpCommand) (config : ConfigFile) : Text :=
  SmtpCommand.shows (self.execute config)

/-- `GraphCommand::show` -/
def GraphCommand.shows (config : ConfigFile) : Text :=
  println "Microsoft Graph API Configuration:".toList ++
  println (" Tenant ID: ".toList ++ mask_string config.graph.tenant_id 6) ++
  println (" Client ID: ".toList ++ mask_string config.graph.client_id 6) ++
  println (" Client Secret: ".toList ++ mask_string config.graph.client_secret 6)

def GraphCommand.test (config : ConfigFile) (outside : Graph.Outside) : Text :=
  println "Testing connection to Microsoft Graph API...".toList ++
  match (Graph.Client.new (config.graph.into_client_config outside)).authenticate.result with
  | .ok _ => println "Connected to Microsoft Graph successfully".toList
  | .error err => println ("Error connecting to Microsoft Graph: ".toList ++ err)

def GraphCommand.output (self : GraphCommand) (config : ConfigFile) (outside : Graph.Outside) : Text :=
  match self with
  | .Show => GraphCommand.shows config
  | .Setup _ _ _ =>
    GraphCommand.shows (self.execute config) ++ println [] ++ GraphCommand.test (self.execute config) outside
  | .Test => GraphCommand.test config outside

/-- `UserCommand::show`; the users are in the order of the map. -/
def UserCommand.shows (config : ConfigFile) : Text :=
  let users := config.smtp.auth.users.keys
  println ("Listing ".toList ++ decimal users.length ++ " Users:".toList) ++
  users.flatMap (fun user => println (' ' :: user)) ++
  show_insecure_auth_warning config

def UserCommand.output (self : UserCommand) (host : Host) (config : ConfigFile) : Text :=
  match self with
  | .Show => UserCommand.shows config
  | .Add username password force =>
    println ((if config.smtp.auth.has_user username then "Updating".toList else "Adding".toList) ++ " user ".toList ++
      username) ++
    (if '@' ∉ username then
      println "Username does not look like a Microsoft 365 username.".toList ++
      println "Please note that the username *must* match the username in M365.".toList
    else []) ++
    if '@' ∉ username ∧ ¬ force then []
    else
      (if password.isNone then println ("Password: ".toList ++ host.pwd) else []) ++
      (match config.smtp.auth.set_user_password username (password.getD host.pwd) host.salt with
        | .ok _ => []
        | .error err => println ("Failed to update user: ".toList ++ err)) ++
      println [] ++
      UserCommand.shows (self.execute host config)
  | .Remove username =>
    println ("Removing user ".toList ++ username) ++
    (match config.smtp.auth.remove_user username with
      | .ok _ => []
      | .error err => println ("Failed to remove user: ".toList ++ err)) ++
    println [] ++
    UserCommand.shows (self.execute host config)

def AllowInsecureAuthCommand.output (self : AllowInsecureAuthCommand) (host : Host) (config : ConfigFile) : Text :=
  if config.smtp.tls.isSome then
    println ("Cannot enable insecure authentication, secure authentication via TLS is available in your " ++
      "configuration.").toList
  else
    match self with
    | .Yes =>
      println "WARNING: You're about to allow authentication over unsecure, plain-text connections.".toList ++
      println ("In this configuration, credentials are sent in plain-text, potentially allowing credential " ++
        "theft.").toList ++
      println "This configuration is NOT recommended.".toList ++
      "Type 'yes, i understand' to continue: ".toList ++
      if confirms_insecure_auth host then println "Insecure auth enabled".toList else println "Aborting".toList
    | .No => []

def AuthCommand.output (self : AuthCommand) (host : Host) (config : ConfigFile) : Text :=
  match self with
  | .User command => command.output host config
  | .AllowInsecureAuth command => command.output host config

/-- What a command prints, on either of its outputs. -/
def ConfigCommand.output [Humantime] (self : ConfigCommand) (host : Host) (outside : Graph.Outside) (config : ConfigFile) :
    Text :=
  match self with
  | .Smtp command => command.output config
  | .Graph command => command.output config outside
  | .Auth command => command.output host config
  | .Reset => []

/-- A use of the tool, with what the outside answers to a test of the connection. -/
structure Invocation where
  command : ConfigCommand
  host : Host
  outside : Graph.Outside

/-- What the commands print as the tool is used time and again. In between the configuration
    goes through its document, not through the text of the file: each save and load
    succeeds, and what is printed when one fails is left out. -/
def printed [Humantime] : ConfigFile → List Invocation → List Text
  | _, [] => []
  | config, use :: uses =>
    use.command.output use.host use.outside config ::
      printed (.deserialize (use.command.execute use.host config).serialize) uses

/-! ### What cannot be told apart -/

/-- Two texts of which the same is left when they are masked. -/
def MaskedAlike (s t : Text) : Prop := s.length = t.length ∧ s.drop (s.length - 6) = t.drop (t.length - 6)

structure GraphAPIConfig.LooksLike (graph graph' : GraphAPIConfig) : Prop where
  tenant_id : MaskedAlike graph.tenant_id graph'.tenant_id
  client_id : MaskedAlike graph.client_id graph'.client_id
  client_secret : MaskedAlike graph.client_secret graph'.client_secret

/-- Configurations that differ in the hashes of their users, and where the output is masked. -/
inductive LooksLike : ConfigFile → ConfigFile → Prop
  | intro (smtp : SMTPServerConfig UserAuth BanDuration) (auth : UserAuth) (graph graph' : GraphAPIConfig)
      (users : auth.users.keys = smtp.auth.users.keys) (masked : graph.LooksLike graph') :
      LooksLike ⟨smtp,graph⟩ ⟨{ smtp with auth := auth },graph'⟩

variable {config config' : ConfigFile} {auth auth' : UserAuth} {username : Text} {host : Host}

omit [Argon2] in
theorem mask_string_alike {s t : Text} (alike : MaskedAlike s t) : mask_string s 6 = mask_string t 6 := by
  obtain ⟨length,last⟩ := alike
  simp only [mask_string,last]
  rw [length]

omit [Argon2] in
theorem maskedAlike_refl (s : Text) : MaskedAlike s s := ⟨rfl,rfl⟩

/-! ### The users by their names -/

theorem has_user_keys (users : auth'.users.keys = auth.users.keys) : auth'.has_user username = auth.has_user username := by
  rw [Bool.eq_iff_iff]
  simp only [UserAuth.has_user,AList.lookup_isSome,AList.mem_keys,users]

theorem has_users_keys (users : auth'.users.keys = auth.users.keys) : auth'.has_users = auth.has_users := by
  rw [Bool.eq_iff_iff]
  simp only [UserAuth.has_users_iff,has_user_keys users]

/-- Setting a password fails for both, or leaves the same names. -/
theorem set_user_password_keys (users : auth'.users.keys = auth.users.keys) (username password : Text) (salt : Bytes) :
    (∃ err, auth.set_user_password username password salt = .error err ∧
      auth'.set_user_password username password salt = .error err) ∨
    ∃ set set', auth.set_user_password username password salt = .ok set ∧
      auth'.set_user_password username password salt = .ok set' ∧ set'.users.keys = set.users.keys := by
  unfold UserAuth.set_user_password
  cases Argon2.hash_password salt (Utf8.encode password) with
  | none => exact .inl ⟨_,rfl,rfl⟩
  | some hash =>
    refine .inr ⟨_,_,rfl,rfl,?_⟩
    rw [AList.keys_insert,AList.keys_insert,users]

theorem remove_user_keys (users : auth'.users.keys = auth.users.keys) (username : Text) :
    (∃ err, auth.remove_user username = .error err ∧ auth'.remove_user username = .error err) ∨
    ∃ left left', auth.remove_user username = .ok left ∧ auth'.remove_user username = .ok left' ∧
      left'.users.keys = left.users.keys := by
  have known : username ∈ auth'.users ↔ username ∈ auth.users := by rw [AList.mem_keys,AList.mem_keys,users]
  unfold UserAuth.remove_user
  by_cases member : username ∈ auth.users
  · rw [if_pos member,if_pos (known.mpr member)]
    refine .inr ⟨_,_,rfl,rfl,?_⟩
    rw [AList.keys_erase,AList.keys_erase,users]
  · rw [if_neg member,if_neg fun other => member (known.mp other)]
    exact .inl ⟨_,rfl,rfl⟩

/-! ### One command -/

theorem LooksLike.warning (alike : LooksLike config config') :
    show_insecure_auth_warning config' = show_insecure_auth_warning config := by
  obtain ⟨smtp,auth,graph,graph',users,masked⟩ := alike
  simp only [show_insecure_auth_warning,has_users_keys users]

theorem LooksLike.normalize (alike : LooksLike config config') : LooksLike config.normalize config'.normalize := by
  obtain ⟨smtp,auth,graph,graph',users,masked⟩ := alike
  have same : ConfigFile.Needless ⟨{ smtp with auth := auth },graph'⟩ ↔ ConfigFile.Needless ⟨smtp,graph⟩ := by
    simp only [ConfigFile.Needless,has_users_keys users]
  by_cases needless : ConfigFile.Needless ⟨smtp,graph⟩
  · rw [ConfigFile.normalize,ConfigFile.normalize,if_pos needless,if_pos (same.mpr needless)]
    exact .intro { smtp with allow_insecure_auth := false } auth graph graph' users masked
  · rw [ConfigFile.normalize,ConfigFile.normalize,if_neg needless,if_neg fun other => needless (same.mp other)]
    exact .intro smtp auth graph graph' users masked

/-- Saving and loading changes nothing that is shown. -/
theorem LooksLike.reload (texts : ∀ hash : Argon2.PasswordHash, Argon2.new (Argon2.to_string hash) = some hash)
    (alike : LooksLike config config') :
    LooksLike (.deserialize config.serialize) (.deserialize config'.serialize) := by
  rw [deserialize_serialize texts,deserialize_serialize texts]
  obtain ⟨smtp,auth,graph,graph',users,masked⟩ := alike
  exact .intro (ConfigFile.truncate ⟨smtp,graph⟩).smtp auth graph graph' users masked

theorem LooksLike.users (alike : LooksLike config config') :
    UserCommand.shows config' = UserCommand.shows config := by
  have warning := alike.warning
  obtain ⟨smtp,auth,graph,graph',users,masked⟩ := alike
  simp only [UserCommand.shows,users,warning]

theorem LooksLike.user_execute (alike : LooksLike config config') (host : Host) (command : UserCommand) :
    LooksLike (command.execute host config) (command.execute host config') := by
  obtain ⟨smtp,auth,graph,graph',users,masked⟩ := alike
  cases command with
  | Show => exact .intro smtp auth graph graph' users masked
  | Add username password force =>
    by_cases refused : '@' ∉ username ∧ ¬ force
    · rw [UserCommand.execute,UserCommand.execute,if_pos refused,if_pos refused]
      exact .intro smtp auth graph graph' users masked
    · rw [UserCommand.execute,UserCommand.execute,if_neg refused,if_neg refused]
      rcases set_user_password_keys users username (password.getD host.pwd) host.salt with
        ⟨err,failed,failed'⟩ | ⟨set,set',done,done',same⟩
      · simp only [failed,failed']
        exact .intro smtp auth graph graph' users masked
      · simp only [done,done']
        exact .intro { smtp with auth := set } set' graph graph' same masked
  | Remove username =>
    rw [UserCommand.execute,UserCommand.execute]
    rcases remove_user_keys users username with ⟨err,failed,failed'⟩ | ⟨left,left',done,done',same⟩
    · simp only [failed,failed']
      exact .intro smtp auth graph graph' users masked
    · simp only [done,done']
      exact .intro { smtp with auth := left } left' graph graph' same masked

/-- The commands for users take no account of their hashes. -/
theorem LooksLike.user_output (alike : LooksLike config config') (command : UserCommand) :
    command.output host config' = command.output host config := by
  have shown := (alike.user_execute host command).users
  have shown' := alike.users
  obtain ⟨smtp,auth,graph,graph',users,masked⟩ := alike
  cases command with
  | Show => exact shown'
  | Add username password force =>
    simp only [UserCommand.output,shown,has_user_keys users]
    rcases set_user_password_keys users username (password.getD host.pwd) host.salt with
      ⟨err,failed,failed'⟩ | ⟨set,set',done,done',-⟩
    · simp only [failed,failed']
    · simp only [done,done']
  | Remove username =>
    simp only [UserCommand.output,shown]
    rcases remove_user_keys users username with ⟨err,failed,failed'⟩ | ⟨left,left',done,done',-⟩
    · simp only [failed,failed']
    · simp only [done,done']

theorem LooksLike.graph (alike : LooksLike config config') : GraphCommand.shows config' = GraphCommand.shows config := by
  obtain ⟨smtp,auth,graph,graph',users,⟨tenant_id,client_id,client_secret⟩⟩ := alike
  simp only [GraphCommand.shows,mask_string_alike tenant_id,mask_string_alike client_id,mask_string_alike client_secret]

omit [Argon2] in
/-- Whether a client without a token gets one is for the outside to say. -/
theorem authenticate_result {settings settings' : Graph.Config} (same : settings'.outside = settings.outside) :
    (Graph.Client.new settings').authenticate.result = (Graph.Client.new settings).authenticate.result := by
  obtain ⟨tenant_id,client_id,client_secret,login,graph,outside⟩ := settings
  obtain ⟨tenant_id',client_id',client_secret',login',graph',outside'⟩ := settings'
  obtain rfl : outside' = outside := same
  obtain ⟨tokens,mails,clock⟩ := outside'
  cases tokens with
  | nil => rfl
  | cons answer tokens =>
    cases answer with
    | error err => rfl
    | ok token =>
      simp only [Graph.Client.authenticate,Graph.Client.get_authentication,Graph.Client.new,Graph.Client.with_outside,
        Graph.AccessToken.get_client_credentials]
      by_cases bearer : token.token_type ≠ "Bearer".toList
      · rw [if_pos bearer]
      · rw [if_neg bearer]

theorem LooksLike.test (config config' : ConfigFile) (outside : Graph.Outside) :
    GraphCommand.test config' outside = GraphCommand.test config outside := by
  have answers : (Graph.Client.new (config'.graph.into_client_config outside)).authenticate.result =
      (Graph.Client.new (config.graph.into_client_config outside)).authenticate.result := authenticate_result rfl
  rw [GraphCommand.test,answers]
  rfl

theorem LooksLike.graph_execute (alike : LooksLike config config') (command : GraphCommand) :
    LooksLike (command.execute config) (command.execute config') := by
  obtain ⟨smtp,auth,graph,graph',users,masked⟩ := alike
  cases command with
  | Show => exact .intro smtp auth graph graph' users masked
  | Test => exact .intro smtp auth graph graph' users masked
  | Setup tenant_id client_id client_secret =>
    have kept (given : Option Text) {s t : Text} (same : MaskedAlike s t) : MaskedAlike (given.getD s) (given.getD t) := by
      cases given with
      | none => exact same
      | some text => exact maskedAlike_refl text
    exact .intro smtp auth _ _ users
      ⟨kept tenant_id masked.tenant_id,kept client_id masked.client_id,kept client_secret masked.client_secret⟩

theorem LooksLike.smtp_execute (alike : LooksLike config config') (command : SmtpCommand) :
    LooksLike (command.execute config) (command.execute config') := by
  obtain ⟨smtp,auth,graph,graph',users,masked⟩ := alike
  cases command with
  | Show => exact .intro smtp auth graph graph' users masked
  | Setup address name max_message_size =>
    cases max_message_size with
    | none => exact .intro { smtp with address := _, name := _ } auth graph graph' users masked
    | some size => exact .intro { smtp with address := _, name := _, max_message_size := _ } auth graph graph' users masked
  | Fail2Ban connections failures duration reset =>
    cases reset with
    | true => exact .intro { smtp with fail2ban := none } auth graph graph' users masked
    | false => exact .intro { smtp with fail2ban := some _ } auth graph graph' users masked
  | Tls command =>
    cases command with
    | Setup certificate private_key => exact .intro { smtp with tls := some _ } auth graph graph' users masked
    | Disable => exact .intro { smtp with tls := none } auth graph graph' users masked

theorem LooksLike.smtp [Humantime] (alike : LooksLike config config') :
    SmtpCommand.shows config' = SmtpCommand.shows config := by
  have warning := alike.warning
  obtain ⟨smtp,auth,graph,graph',users,masked⟩ := alike
  simp only [SmtpCommand.shows,warning,SMTPServerConfig.get_effective_fail2ban_config]

theorem LooksLike.allow_execute (alike : LooksLike config config') (host : Host) (command : AllowInsecureAuthCommand) :
    LooksLike (command.execute host config) (command.execute host config') ∧
      command.output host config' = command.output host config := by
  obtain ⟨smtp,auth,graph,graph',users,masked⟩ := alike
  by_cases secured : smtp.tls.isSome = true
  · simp only [AllowInsecureAuthCommand.execute,AllowInsecureAuthCommand.output,secured,if_true,and_true]
    exact .intro smtp auth graph graph' users masked
  · simp only [AllowInsecureAuthCommand.execute,AllowInsecureAuthCommand.output,secured,and_true]
    cases command with
    | Yes =>
      by_cases confirmed : confirms_insecure_auth host = true
      · simp only [confirmed,if_true]
        exact .intro { smtp with allow_insecure_auth := true } auth graph graph' users masked
      · simp only [confirmed]
        exact .intro smtp auth graph graph' users masked
    | No => exact .intro { smtp with allow_insecure_auth := false } auth graph graph' users masked

/-- A command prints the same for both, and leaves them alike. -/
theorem LooksLike.execute [Humantime] (alike : LooksLike config config') (command : ConfigCommand) (host : Host)
    (outside : Graph.Outside) :
    LooksLike (command.execute host config) (command.execute host config') ∧
      command.output host outside config' = command.output host outside config := by
  cases command with
  | Smtp command => exact ⟨(alike.smtp_execute command).normalize,(alike.smtp_execute command).smtp⟩
  | Graph command =>
    have changed := alike.graph_execute command
    refine ⟨changed.normalize,?_⟩
    cases command with
    | Show => exact alike.graph
    | Test => exact LooksLike.test config config' outside
    | Setup tenant_id client_id client_secret =>
      simp only [ConfigCommand.output,GraphCommand.output,changed.graph]
      rw [LooksLike.test]
  | Auth command =>
    cases command with
    | User command => exact ⟨(alike.user_execute host command).normalize,alike.user_output command⟩
    | AllowInsecureAuth command =>
      obtain ⟨changed,printed⟩ := alike.allow_execute host command
      exact ⟨changed.normalize,printed⟩
  | Reset =>
    refine ⟨LooksLike.normalize ?_,rfl⟩
    exact .intro ConfigFile.empty.smtp UserAuth.new ConfigFile.empty.graph ConfigFile.empty.graph rfl
      ⟨maskedAlike_refl _,maskedAlike_refl _,maskedAlike_refl _⟩

/-- However the tool is used, what it prints does not depend on the hashes of the users, nor on
    more of the ids and the secret of the graph API than how long they are and what their
    last six characters are. -/
theorem output_hides_secrets [Humantime]
    (texts : ∀ hash : Argon2.PasswordHash, Argon2.new (Argon2.to_string hash) = some hash)
    (alike : LooksLike config config') (uses : List Invocation) : printed config' uses = printed config uses := by
  induction uses generalizing config config' with
  | nil => rfl
  | cons use uses ih =>
    obtain ⟨changed,same⟩ := alike.execute use.command use.host use.outside
    rw [printed,printed,same,ih (changed.reload texts)]

end

section
attribute [local instance] sampleArgon2

local instance sampleHumantime : Humantime := ⟨fun duration => decimal duration⟩

/-- A configuration with one user. -/
def sampleSecrets (client_secret : String) (hash : Argon2.PasswordHash) : ConfigFile where
  smtp := { ConfigFile.empty.smtp with auth := ⟨AList.insert "a".toList hash ∅⟩ }
  graph := ⟨[],[],client_secret.toList⟩

def sampleShowing : List Invocation :=
  [⟨.Graph .Show,sampleHost,⟨[],[],⟨0,[]⟩⟩⟩,⟨.Auth (.User .Show),sampleHost,⟨[],[],⟨0,[]⟩⟩⟩]

/-- The secret and the hash of the user differ. -/
theorem output_hides_secrets_sample :
    printed (sampleSecrets "abc-123456" ⟨"$1".toList,rfl⟩) sampleShowing =
      printed (sampleSecrets "xyz-123456" ⟨"$2".toList,rfl⟩) sampleShowing := by
  refine output_hides_secrets sample_texts ?_ _
  exact .intro (sampleSecrets "xyz-123456" ⟨"$2".toList,rfl⟩).smtp ⟨AList.insert "a".toList ⟨"$1".toList,rfl⟩ ∅⟩ _ _
    rfl ⟨maskedAlike_refl _,maskedAlike_refl _,by unfold MaskedAlike; decide +kernel⟩

end
end PostGraph
