import Mathlib.Data.List.Induction
import PostGraph.Cli
import PostGraph.Users

/-!
What the configuration file keeps. The file says in whole seconds how long a ban
lasts, while the command line takes any span of time; all else comes back as it
was saved. The file library is assumed to read back the tree of values that was
saved, and hash texts to be read back as their hashes.
-/
namespace PostGraph
set_option autoImplicit false

section
variable {Users Users' Users'' Span Span' Span'' : Type}

theorem Document.decode_decode (document : Document Users Span) (users : Users → Users') (span : Span → Span')
    (users' : Users' → Users'') (span' : Span' → Span'') :
    (document.decode users span).decode users' span' = document.decode (users' ∘ users) (span' ∘ span) := by
  obtain ⟨⟨address,name,max_message_size,allow_insecure_auth,tls,fail2ban,auth⟩,graph⟩ := document
  cases fail2ban <;> simp [Document.decode]

/-- Decoders that leave the users and the span of a ban as they are leave the whole as it is. -/
theorem Document.decode_self {document : Document Users Span} {users : Users → Users} {span : Span → Span}
    (same : users document.smtp.auth = document.smtp.auth)
    (same' : ∀ fail2ban, document.smtp.fail2ban = some fail2ban →
      fail2ban.ban_duration.map span = fail2ban.ban_duration) : document.decode users span = document := by
  obtain ⟨⟨address,name,max_message_size,allow_insecure_auth,tls,fail2ban,auth⟩,graph⟩ := document
  cases fail2ban with
  | none => simpa [Document.decode] using same
  | some fail2ban => simpa [Document.decode,same' fail2ban rfl] using same

end

def BanDuration.Whole (self : BanDuration) : Prop := from_secs (as_secs self.val) = self.val

/-- What the file keeps of a ban. -/
def BanDuration.truncate (self : BanDuration) : BanDuration :=
  opt_duration_secs.deserialize (opt_duration_secs.serialize self)

@[simp] theorem truncate_val (span : BanDuration) : span.truncate.val = from_secs (as_secs span.val) :=
  congrArg from_secs UInt64.toNat_ofNatLT

theorem truncate_whole {span : BanDuration} : span.truncate = span ↔ span.Whole := by
  rw [Subtype.ext_iff,truncate_val,BanDuration.Whole]

theorem serialize_deserialize (secs : UInt64) :
    opt_duration_secs.serialize (opt_duration_secs.deserialize secs) = secs := by
  apply UInt64.toNat_inj.mp
  simp [opt_duration_secs.serialize,opt_duration_secs.deserialize,as_secs,from_secs]

theorem deserialize_whole (secs : UInt64) : (opt_duration_secs.deserialize secs).Whole := by
  rw [← truncate_whole,BanDuration.truncate,serialize_deserialize]

section
variable [Argon2]

/-- A configuration whose ban lasts whole seconds. -/
def ConfigFile.WholeSeconds (self : ConfigFile) : Prop :=
  ∀ fail2ban, self.smtp.fail2ban = some fail2ban → ∀ span, fail2ban.ban_duration = some span → BanDuration.Whole span

/-- The configuration with the ban cut to whole seconds. -/
def ConfigFile.truncate (self : ConfigFile) : ConfigFile := self.decode id BanDuration.truncate

section
variable {config : ConfigFile}

theorem truncate_self : config.truncate = config ↔ config.WholeSeconds := by
  constructor
  · intro same fail2ban limited span lasting
    have limits := congrArg (fun config : ConfigFile => config.smtp.fail2ban) same
    simp only [ConfigFile.truncate,Document.decode,limited,Option.map_some,Option.some.injEq] at limits
    have bans := congrArg Fail2BanConfig.ban_duration limits
    exact truncate_whole.mp (by simpa [lasting] using bans)
  · intro whole
    apply Document.decode_self rfl
    intro fail2ban limited
    cases lasting : fail2ban.ban_duration with
    | none => rfl
    | some span => exact congrArg some (truncate_whole.mpr (whole fail2ban limited span lasting))

theorem wholeSeconds_deserialize (document : FileDocument) : (ConfigFile.deserialize document).WholeSeconds := by
  intro fail2ban limited span lasting
  obtain ⟨stored,-,rfl⟩ := Option.map_eq_some_iff.mp limited
  obtain ⟨secs,-,rfl⟩ := Option.map_eq_some_iff.mp lasting
  exact deserialize_whole secs

theorem wholeSeconds_empty : ConfigFile.empty.WholeSeconds := nofun

theorem wholeSeconds_normalize (whole : config.WholeSeconds) : config.normalize.WholeSeconds := by
  unfold ConfigFile.normalize
  split_ifs
  · exact whole
  · exact whole

/-- After a restart the server works with what was set, but for the fraction of a second. -/
theorem truncate_effective : config.truncate.smtp.auth_mode = config.smtp.auth_mode ∧
    config.truncate.smtp.max_message_size = config.smtp.max_message_size ∧
    config.truncate.smtp.get_effective_fail2ban_config =
      (config.smtp.get_effective_fail2ban_config.1,config.smtp.get_effective_fail2ban_config.2.1,
        from_secs (as_secs config.smtp.get_effective_fail2ban_config.2.2)) := by
  refine ⟨rfl,rfl,?_⟩
  have whole : from_secs (as_secs DEFAULT_FAIL2BAN_DURATION) = DEFAULT_FAIL2BAN_DURATION := by
    simp [DEFAULT_FAIL2BAN_DURATION,from_secs,as_secs]
  simp only [ConfigFile.truncate,Document.decode,SMTPServerConfig.get_effective_fail2ban_config]
  cases config.smtp.fail2ban with
  | none => simp [whole]
  | some fail2ban => cases lasting : fail2ban.ban_duration <;> simp [lasting,whole]

/-- Loading what was saved gives the configuration back but for the fraction of a second. -/
theorem deserialize_serialize (texts : ∀ hash : Argon2.PasswordHash, Argon2.new (Argon2.to_string hash) = some hash)
    (config : ConfigFile) : ConfigFile.deserialize config.serialize = config.truncate := by
  have users : UserAuth.deserialize ∘ UserAuth.serialize = id := funext (UserAuth.deserialize_serialize texts)
  rw [ConfigFile.deserialize,ConfigFile.serialize,Document.decode_decode,users,ConfigFile.truncate]
  rfl

theorem from_file_to_file [Yaml]
    (texts : ∀ hash : Argon2.PasswordHash, Argon2.new (Argon2.to_string hash) = some hash)
    (kept : Yaml.from_str (Yaml.to_string config.serialize.to_value) = some config.serialize.to_value) :
    ConfigFile.from_file config.to_file = some config.truncate := by
  rw [ConfigFile.from_file,ConfigFile.to_file,FileDocument.parse_saved kept,Option.map_some,deserialize_serialize texts]

end

/-! ### Sequences of commands -/

/-- A command that is executed, or a configuration that is saved and loaded. -/
inductive CliAction
  | Execute (command : ConfigCommand) (host : Host)
  | Reload

def CliAction.apply (config : ConfigFile) : CliAction → ConfigFile
  | .Execute command host => command.execute host config
  | .Reload => .deserialize config.serialize

/-- The configuration after a sequence of commands. -/
def configured (actions : List CliAction) : ConfigFile := actions.foldl CliAction.apply ConfigFile.empty

theorem configured_append (actions later : List CliAction) :
    configured (actions ++ later) = later.foldl CliAction.apply (configured actions) :=
  List.foldl_append

/-- A ban that is given to a command lasts whole seconds. -/
def ConfigCommand.Whole : ConfigCommand → Prop
  | .Smtp (.Fail2Ban _ _ (some span) _) => span.Whole
  | _ => True

section
variable {config : ConfigFile} {command : ConfigCommand} {host : Host}

/-- The limits are changed by a `fail2ban` or `reset` command only. -/
theorem change_fail2ban (other : ∀ connections failures duration reset,
    command ≠ .Smtp (.Fail2Ban connections failures duration reset)) (kept : command ≠ .Reset) :
    (command.change host config).smtp.fail2ban = config.smtp.fail2ban := by
  cases command with
  | Smtp command =>
    cases command with
    | Show => rfl
    | Setup address name max_message_size => cases max_message_size <;> rfl
    | Fail2Ban connections failures duration reset => exact absurd rfl (other connections failures duration reset)
    | Tls command => cases command <;> rfl
  | Graph command => cases command <;> rfl
  | Auth command =>
    cases command with
    | User command =>
      obtain ⟨auth,same⟩ := user_execute config host command
      rw [ConfigCommand.change,AuthCommand.execute,same]
    | AllowInsecureAuth command =>
      obtain ⟨allowed,same⟩ := allow_insecure_auth_execute config host command
      rw [ConfigCommand.change,AuthCommand.execute,same]
  | Reset => exact absurd rfl kept

theorem wholeSeconds_execute (whole : config.WholeSeconds) (given : command.Whole) :
    (command.execute host config).WholeSeconds := by
  apply wholeSeconds_normalize
  by_cases reset : command = .Reset
  · subst reset
    exact wholeSeconds_empty
  by_cases limits : ∃ connections failures duration renew,
      command = .Smtp (.Fail2Ban connections failures duration renew)
  · obtain ⟨connections,failures,duration,renew,rfl⟩ := limits
    intro fail2ban limited span lasting
    cases renew with
    | true => simp [ConfigCommand.change,SmtpCommand.execute] at limited
    | false =>
      simp only [ConfigCommand.change,SmtpCommand.execute,Bool.false_eq_true,if_false,Option.some.injEq] at limited
      subst limited
      cases duration with
      | some chosen =>
        obtain rfl : chosen = span := by simpa using lasting
        exact given
      | none =>
        cases before : config.smtp.fail2ban with
        | none => simp [before] at lasting
        | some known => exact whole known before span (by simpa [before] using lasting)
  · intro fail2ban limited
    rw [change_fail2ban (fun _ _ _ _ same => limits ⟨_,_,_,_,same⟩) reset] at limited
    exact whole fail2ban limited

theorem wholeSeconds_configured {actions : List CliAction}
    (given : ∀ command host, .Execute command host ∈ actions → command.Whole) :
    (configured actions).WholeSeconds := by
  induction actions using List.reverseRecOn with
  | nil => exact wholeSeconds_empty
  | append_singleton actions action ih =>
    have before := ih fun command host member => given command host (by simp [member])
    rw [configured_append,List.foldl_cons,List.foldl_nil]
    cases action with
    | Execute command host => exact wholeSeconds_execute before (given command host (by simp))
    | Reload => exact wholeSeconds_deserialize _

end

/-- A configuration that any sequence of commands leaves is loaded from its file as it was
    saved, but for the fraction of a second of its ban; and just as it was if
    each ban that was given to a command lasts whole seconds. -/
theorem saved_configuration_loads [Yaml]
    (texts : ∀ hash : Argon2.PasswordHash, Argon2.new (Argon2.to_string hash) = some hash) (actions : List CliAction)
    (kept : Yaml.from_str (Yaml.to_string (configured actions).serialize.to_value) =
      some (configured actions).serialize.to_value) :
    ConfigFile.from_file (configured actions).to_file = some (configured actions).truncate ∧
      (ConfigFile.from_file (configured actions).to_file = some (configured actions) ↔
        (configured actions).WholeSeconds) ∧
      ((∀ command host, .Execute command host ∈ actions → command.Whole) →
        ConfigFile.from_file (configured actions).to_file = some (configured actions)) := by
  have loaded := from_file_to_file texts kept
  have exactly : ConfigFile.from_file (configured actions).to_file = some (configured actions) ↔
      (configured actions).WholeSeconds := by
    rw [loaded,Option.some.injEq,truncate_self]
  exact ⟨loaded,exactly,fun given => exactly.mpr (wholeSeconds_configured given)⟩

/-! ### The file under the commands -/

namespace FileDocument
variable {document : FileDocument}

/-- The text of each hash is accepted as one. -/
def Accepted (self : FileDocument) : Prop := ∀ entry ∈ self.smtp.auth.entries, (Argon2.new entry.2).isSome = true

/-- The document without the consent to insecure authentication where it is not needed. -/
def settled (self : FileDocument) : FileDocument :=
  { self with smtp.allow_insecure_auth :=
      self.smtp.allow_insecure_auth && self.smtp.tls.isNone && !self.smtp.auth.entries.isEmpty }

end FileDocument

section
variable [Yaml] {command : ConfigCommand}

end

end

/-! ### Examples -/

section
attribute [local instance] sampleArgon2

/-- The file of a configuration that has no users, and what it says. -/
def sampleSettings (consent : Bool) (ban : Option UInt64) : Text :=
  "smtp:\n  address: 127.0.0.1:25\n  allow_insecure_auth: ".toList ++
    (if consent then "true".toList else "false".toList) ++
    (match ban with
    | some secs => "\n  fail2ban:\n    ban_duration: ".toList ++ Nat.toDigits 10 secs.toNat
    | none => []) ++ "\n  auth: \x7b\x7d\ngraph:\n  tenant_id: ''\n  client_id: ''\n  client_secret: ''\n".toList

def sampleStored (consent : Bool) (ban : Option UInt64) : FileDocument where
  smtp := ⟨DEFAULT_SMTP_BIND_ADDRESS,none,none,consent,none,ban.map fun secs => ⟨none,none,some secs⟩,∅⟩
  graph := ⟨[],[],[]⟩

def sampleFiles : List (Bool × Option UInt64) := [(true,none),(false,none),(false,some 0),(false,some 60)]

/-- The library on these files. -/
local instance sampleLibrary : Yaml where
  from_str text := (sampleFiles.find? fun file => text = sampleSettings file.1 file.2).map fun file =>
    (sampleStored file.1 file.2).to_value
  to_string tree :=
    match FileDocument.of_value tree with
    | some document =>
      sampleSettings document.smtp.allow_insecure_auth (document.smtp.fail2ban.bind Fail2BanConfig.ban_duration)
    | none => []

theorem sample_found : (sampleFiles.all fun file =>
    sampleFiles.find? (fun other => sampleSettings file.1 file.2 = sampleSettings other.1 other.2) == some file) = true := by
  decide +kernel

theorem sample_written (consent : Bool) (ban : Option UInt64) :
    Yaml.to_string (sampleStored consent ban).to_value = sampleSettings consent ban := by
  simp only [Yaml.to_string,FileDocument.of_value_to_value]
  cases ban <;> rfl

theorem sample_read {consent : Bool} {ban : Option UInt64} (known : (consent,ban) ∈ sampleFiles) :
    Yaml.from_str (Yaml.to_string (sampleStored consent ban).to_value) = some (sampleStored consent ban).to_value := by
  have found := eq_of_beq (List.all_eq_true.mp sample_found (consent,ban) known)
  rw [sample_written]
  simp only [Yaml.from_str,found,Option.map_some]

theorem sample_parsed {consent : Bool} {ban : Option UInt64} (known : (consent,ban) ∈ sampleFiles) :
    FileDocument.parse (sampleSettings consent ban) = some (sampleStored consent ban) := by
  rw [← sample_written]
  exact FileDocument.parse_saved (sample_read known)

theorem sample_texts (hash : Argon2.PasswordHash) : Argon2.new (Argon2.to_string hash) = some hash :=
  dif_pos (Subtype.property hash)

def sampleHost : Host := ⟨none,[],[]⟩

def sampleBan (span : BanDuration) : ConfigCommand := .Smtp (.Fail2Ban none none (some span) false)

def halfSecond : BanDuration := ⟨500000000,by decide⟩

def minute : BanDuration := ⟨from_secs 60,by decide⟩

/-- A ban of half a second is none after a restart. -/
theorem ban_loses_fraction : ∃ loaded,
    ConfigFile.from_file (configured [.Execute (sampleBan halfSecond) sampleHost]).to_file = some loaded ∧
    (configured [.Execute (sampleBan halfSecond) sampleHost]).smtp.get_effective_fail2ban_config = (5,5,500000000) ∧
    loaded.smtp.get_effective_fail2ban_config = (5,5,0) := by
  have stored : (configured [.Execute (sampleBan halfSecond) sampleHost]).serialize = sampleStored false (some 0) := rfl
  refine ⟨.deserialize (sampleStored false (some 0)),?_,?_,?_⟩
  · rw [ConfigFile.from_file,ConfigFile.to_file,stored,sample_written,sample_parsed (by decide)]
    rfl
  · decide +kernel
  · rfl

theorem saved_configuration_loads_sample :
    ConfigFile.from_file (configured [.Execute (sampleBan minute) sampleHost]).to_file =
      some (configured [.Execute (sampleBan minute) sampleHost]) := by
  have stored : (configured [.Execute (sampleBan minute) sampleHost]).serialize = sampleStored false (some 60) := rfl
  refine (saved_configuration_loads sample_texts _ ?_).2.2 ?_
  · rw [stored]
    exact sample_read (by decide)
  · intro command host given
    obtain ⟨rfl,-⟩ := by simpa using given
    rfl

end
end PostGraph
