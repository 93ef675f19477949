import PostGraph.Persistence

/-!
Consent to logins in plain text. The setting is read together with two others and cleared
after every command that leaves it without need, so it stands exactly for a
consent that was confirmed and never lost its need or was withdrawn since.
-/
namespace PostGraph
set_option autoImplicit false

/-- What withdraws the consent. -/
def CliAction.Withdraws : CliAction → Prop
  | .Execute (.Auth (.AllowInsecureAuth .No)) _ => True
  | .Execute .Reset _ => True
  | _ => False

theorem withdraws_execute {command : ConfigCommand} {host : Host} :
    (CliAction.Execute command host).Withdraws ↔ command = .Reset ∨ command = .Auth (.AllowInsecureAuth .No) := by
  cases command with
  | Smtp command => simp [CliAction.Withdraws]
  | Graph command => simp [CliAction.Withdraws]
  | Auth command =>
    cases command with
    | User command => simp [CliAction.Withdraws]
    | AllowInsecureAuth command => cases command <;> simp [CliAction.Withdraws]
  | Reset => simp [CliAction.Withdraws]

section
variable [Argon2]

/-- Logins are possible in plain text only: there are users, and TLS is not configured. -/
def ConfigFile.Plain (self : ConfigFile) : Prop := self.smtp.tls = none ∧ self.smtp.auth.has_users = true

/-- A consent was confirmed, since when logins were possible in plain text only, at the end
    of its command and of every later one, and it was not withdrawn. -/
def Consented (actions : List CliAction) : Prop :=
  ∃ (before : List CliAction) (host : Host) (later : List CliAction),
    actions = before ++ CliAction.Execute (.Auth (.AllowInsecureAuth .Yes)) host :: later ∧
    confirms_insecure_auth host = true ∧
    (∀ part, part <+: later →
      (configured (before ++ CliAction.Execute (.Auth (.AllowInsecureAuth .Yes)) host :: part)).Plain) ∧
    ∀ action ∈ later, ¬ action.Withdraws

variable {config : ConfigFile} {command : ConfigCommand} {host : Host} {actions : List CliAction} {action : CliAction}

theorem auth_mode_always :
    config.smtp.auth_mode = .Always ↔ config.smtp.allow_insecure_auth = true ∧ config.Plain := by
  unfold SMTPServerConfig.auth_mode ConfigFile.Plain
  cases users : config.smtp.auth.has_users with
  | false => simp
  | true =>
    cases tls : config.smtp.tls with
    | some files => simp
    | none => cases config.smtp.allow_insecure_auth <;> simp

/-- When a command leaves insecure authentication allowed. -/
theorem change_allows : (command.change host config).smtp.allow_insecure_auth = true ↔
    (command = .Auth (.AllowInsecureAuth .Yes) ∧ confirms_insecure_auth host = true ∧ config.smtp.tls = none) ∨
      (config.smtp.allow_insecure_auth = true ∧ command ≠ .Reset ∧
        (command = .Auth (.AllowInsecureAuth .No) → config.smtp.tls ≠ none)) := by
  cases command with
  | Smtp command =>
    cases command with
    | Show => simp [ConfigCommand.change,SmtpCommand.execute]
    | Setup address name max_message_size =>
      cases max_message_size <;> simp [ConfigCommand.change,SmtpCommand.execute]
    | Fail2Ban connections failures duration reset =>
      cases reset <;> simp [ConfigCommand.change,SmtpCommand.execute]
    | Tls command => cases command <;> simp [ConfigCommand.change,SmtpCommand.execute,TlsCommand.execute]
  | Graph command => cases command <;> simp [ConfigCommand.change,GraphCommand.execute]
  | Auth command =>
    cases command with
    | User command =>
      obtain ⟨auth,same⟩ := user_execute config host command
      have kept : ((ConfigCommand.Auth (.User command)).change host config).smtp.allow_insecure_auth =
          config.smtp.allow_insecure_auth := by
        rw [ConfigCommand.change,AuthCommand.execute,same]
      simp [kept]
    | AllowInsecureAuth command =>
      simp only [ConfigCommand.change,AuthCommand.execute,AllowInsecureAuthCommand.execute]
      cases tls : config.smtp.tls with
      | some files => simp
      | none =>
        cases command with
        | Yes =>
          cases confirmed : confirms_insecure_auth host <;> simp
        | No => simp
  | Reset => simp [ConfigCommand.change,ConfigFile.empty]

/-- When an action leaves insecure authentication allowed. -/
theorem execute_allows : (command.execute host config).smtp.allow_insecure_auth = true ↔
    (command.change host config).smtp.allow_insecure_auth = true ∧ (command.execute host config).Plain := by
  rw [ConfigCommand.execute,normalize_allows,ConfigFile.Plain,normalize_tls,normalize_auth]

theorem reload_allows :
    (CliAction.Reload.apply config).smtp.allow_insecure_auth = config.smtp.allow_insecure_auth := rfl

theorem reload_plain (texts : ∀ hash : Argon2.PasswordHash, Argon2.new (Argon2.to_string hash) = some hash) :
    (CliAction.Reload.apply config).Plain ↔ config.Plain := by
  rw [CliAction.apply,deserialize_serialize texts]
  rfl

/-! ### The standing consent -/

/-- A consent begins to stand. -/
theorem consented_begins (confirmed : confirms_insecure_auth host = true)
    (plain : (configured (actions ++ [CliAction.Execute (.Auth (.AllowInsecureAuth .Yes)) host])).Plain) :
    Consented (actions ++ [CliAction.Execute (.Auth (.AllowInsecureAuth .Yes)) host]) := by
  refine ⟨actions,host,[],rfl,confirmed,?_,by simp⟩
  intro part first
  rwa [List.prefix_nil.mp first]

/-- It stands after one more action if that does not withdraw it and keeps its need. -/
theorem consented_stands (consented : Consented actions) (kept : ¬ action.Withdraws)
    (plain : (configured (actions ++ [action])).Plain) : Consented (actions ++ [action]) := by
  obtain ⟨before,host,later,rfl,confirmed,standing,unwithdrawn⟩ := consented
  refine ⟨before,host,later ++ [action],by simp,confirmed,?_,?_⟩
  · intro part first
    rcases List.prefix_concat_iff.mp first with rfl | earlier
    · simpa using plain
    · exact standing part earlier
  · intro other member
    rcases List.mem_append.mp member with earlier | last
    · exact unwithdrawn other earlier
    · exact List.mem_singleton.mp last ▸ kept

/-- The setting stands for a consent only. -/
theorem consented_of_allowed
    (texts : .Reload ∈ actions → ∀ hash : Argon2.PasswordHash, Argon2.new (Argon2.to_string hash) = some hash)
    (allowed : (configured actions).smtp.allow_insecure_auth = true) :
    (configured actions).Plain ∧ Consented actions := by
  induction actions using List.reverseRecOn with
  | nil => exact absurd allowed Bool.false_ne_true
  | append_singleton actions action ih =>
    have before := ih fun member => texts (by simp [member])
    have last : configured (actions ++ [action]) = action.apply (configured actions) :=
      configured_append actions [action]
    cases action with
    | Execute command host =>
      rw [last,CliAction.apply,execute_allows,change_allows] at allowed
      obtain ⟨changed,plain⟩ := allowed
      have plain' : (configured (actions ++ [CliAction.Execute command host])).Plain := by rwa [last]
      refine ⟨plain',?_⟩
      rcases changed with ⟨rfl,confirmed,-⟩ | ⟨allowed,kept,kept'⟩
      · exact consented_begins confirmed plain'
      · obtain ⟨⟨unsecured,-⟩,consented⟩ := before allowed
        refine consented_stands consented ?_ plain'
        intro withdraws
        rcases withdraws_execute.mp withdraws with reset | no
        · exact kept reset
        · exact kept' no unsecured
    | Reload =>
      obtain ⟨plain,consented⟩ := before (by rwa [last,reload_allows] at allowed)
      have plain' : (configured (actions ++ [CliAction.Reload])).Plain := by
        rwa [last,reload_plain (texts (by simp))]
      exact ⟨plain',consented_stands consented id plain'⟩

/-- Where a consent stands, the setting is on. -/
theorem allowed_of_consented (consented : Consented actions) :
    (configured actions).smtp.allow_insecure_auth = true := by
  obtain ⟨before,host,later,rfl,confirmed,standing,unwithdrawn⟩ := consented
  induction later using List.reverseRecOn with
  | nil =>
    have plain := standing [] (List.prefix_refl [])
    rw [configured_append,List.foldl_cons,List.foldl_nil,CliAction.apply] at plain ⊢
    have unsecured : (configured before).smtp.tls = none := by
      have tls := plain.1
      rw [ConfigCommand.execute,normalize_tls] at tls
      simp only [ConfigCommand.change,AuthCommand.execute,AllowInsecureAuthCommand.execute] at tls
      split_ifs at tls <;> exact tls
    exact execute_allows.mpr ⟨change_allows.mpr (.inl ⟨rfl,confirmed,unsecured⟩),plain⟩
  | append_singleton later action ih =>
    have earlier := ih (fun part first => standing part (first.trans (List.prefix_append _ _)))
      fun other member => unwithdrawn other (by simp [member])
    have plain := standing (later ++ [action]) (List.prefix_refl _)
    have kept := unwithdrawn action (by simp)
    rw [← List.cons_append,← List.append_assoc,configured_append,List.foldl_cons,List.foldl_nil] at plain ⊢
    cases action with
    | Execute command host =>
      refine execute_allows.mpr ⟨change_allows.mpr (.inr ⟨earlier,?_,?_⟩),plain⟩
      · exact fun reset => kept (withdraws_execute.mpr (.inl reset))
      · exact fun no => absurd (withdraws_execute.mpr (.inr no)) kept
    | Reload => exact earlier

/-- Whatever commands are run, with whatever answers, logins are possible in plain text
    exactly where a consent stands. -/
theorem plaintext_login_iff_consented (actions : List CliAction)
    (texts : .Reload ∈ actions → ∀ hash : Argon2.PasswordHash, Argon2.new (Argon2.to_string hash) = some hash) :
    (configured actions).smtp.auth_mode = .Always ↔ Consented actions := by
  rw [auth_mode_always]
  constructor
  · rintro ⟨allowed,-⟩
    exact (consented_of_allowed texts allowed).2
  · intro consented
    have allowed := allowed_of_consented consented
    exact ⟨allowed,(consented_of_allowed texts allowed).1⟩

end

section
attribute [local instance] sampleArgon2

/-- A user is added, the consent is confirmed, and the file is saved and loaded. -/
def sampleConsenting : List CliAction :=
  [.Execute (.Auth (.User (.Add "a@b".toList (some "b".toList) false))) ⟨none,[],sampleSalt⟩,
    .Execute (.Auth (.AllowInsecureAuth .Yes)) ⟨some "yes, i understand\n".toList,[],[]⟩,.Reload]

theorem plaintext_login_iff_consented_sample :
    (configured sampleConsenting).smtp.auth_mode = .Always ∧ Consented sampleConsenting := by
  have mode : (configured sampleConsenting).smtp.auth_mode = .Always := by decide +kernel
  exact ⟨mode,(plaintext_login_iff_consented sampleConsenting fun _ => sample_texts).mp mode⟩

end
end PostGraph
