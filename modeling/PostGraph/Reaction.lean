import PostGraph.Step

/-!
What one turn of a session does with a line, to the reply: a step in which the
exchanges of a command are written out. A step is what it comes to
(`Reaction.step`).
-/
namespace PostGraph
open Session
set_option autoImplicit false

variable {H Effect : Type}

/-! ### The replies of the commands -/

/-- What a handshake is given up with. -/
def handshake_errors : List Text :=
  ["unexpected EOF in AUTH PLAIN challenge","invalid base64 data",
    "invalid number of parts in PLAIN credential payload","unexpected EOF in AUTH LOGIN challenge"].map String.toList

def challenges : List Response :=
  [AUTH_CHALLENGE_PLAIN,AUTH_CHALLENGE_LOGIN_USERNAME,AUTH_CHALLENGE_LOGIN_PASSWORD]

/-- Challenges and the lines that answered them. -/
def dialogue (exchanged : List (Response × Bytes)) : List (Event Effect) :=
  exchanged.flatMap fun (challenge,answer) => [.Reply challenge,.Received answer]

/-- The last thing done was to ask for credentials. -/
def Challenged (past : List (Event Effect)) : Prop :=
  ∃ response, past.getLast? = some (.Reply response) ∧ response.code = 334

def feature_replies : List Text → List Response
  | [] => []
  | [feature] => [.new 250 feature]
  | feature :: features => .new_continued 250 feature :: feature_replies features

/-- What EHLO advertises. -/
def View.features (v : View H) : List Text :=
  ["8BITMIME".toList] ++ (if v.supports_tls then ["STARTTLS".toList] else []) ++
    (if v.config.has_auth then ["AUTH PLAIN LOGIN".toList] else []) ++
    ["SIZE ".toList ++ decimal v.config.max_message_size]

def View.hello_replies (v : View H) (extended : Bool) : List Response :=
  if extended then .new_continued 250 v.config.server_name :: feature_replies v.features
  else [.new 250 v.config.server_name]

/-- The commands that HELP names. -/
def View.commands (v : View H) : List String :=
  ["HELO","EHLO","HELP","MAIL","RCPT","DATA","RSET","NOOP","QUIT"] ++
    (if v.config.has_auth then ["AUTH"] else []) ++ (if v.supports_tls then ["STARTTLS"] else [])

def View.help_replies (v : View H) : List Response :=
  [.new_continued 250 "Commands supported".toList,.new 214 (" ".intercalate v.commands).toList]

/-- The reply to a line that is refused at once: it is no command, or not one for
    now. -/
def View.refusal (v : View H) : Except Text Command → Option Response
  | .error err => some (.syntax_error (some err))
  | .ok (.Hello _ _) => if v.state.phase = .Connected then none else some BAD_SEQUENCE
  | .ok .StartTls =>
    if v.supports_tls = false then some (.syntax_error (some "TLS not supported".toList))
    else if v.state.phase = .Greeted then none else some BAD_SEQUENCE
  | .ok (.Authenticate _ _) =>
    if v.state.phase ≠ .Greeted then some BAD_SEQUENCE
    else match v.config.auth_mode with
      | .None => some (.syntax_error none)
      | .RequireTls => if v.is_tls then none else some BAD_SEQUENCE
      | .Always => none
  | .ok (.Mail _) =>
    if v.state.phase ≠ .Greeted then some BAD_SEQUENCE
    else if v.is_authenticated then none else some AUTH_REQUIRED
  | .ok (.Recipient _) | .ok .Data =>
    if v.state.phase ≠ .Envelope then some BAD_SEQUENCE
    else if v.is_authenticated then none else some AUTH_REQUIRED
  | .ok .Help | .ok .Reset | .ok .NoOp | .ok .Quit => none

/-! ### Reactions -/

/-- What a turn does with a line that was read, from `v`: the events after the
    line was received, how the turn ends, and the view it leaves. `ended` is to say
    that the client has closed its side while it was asked. -/
inductive Reaction [Handler H Effect] (ended : Prop) (v : View H) (line : Bytes) :
    List (Event Effect) → Outcome → View H → Prop
  | captured (data : v.state.phase = .Data) (more : is_data_end line = false)
      (fits : v.state.current_mail.data_length + (unstuff line).length ≤ v.config.max_message_size) :
      Reaction ended v line [] .Continue
        { v with state.current_mail := v.state.current_mail.append_data (unstuff line) }
  /-- The mail is too long; the reply to it may fail. -/
  | overflowed (events : List (Event Effect)) (data : v.state.phase = .Data) (more : is_data_end line = false)
      (exceeds : v.state.current_mail.data_length + (unstuff line).length > v.config.max_message_size)
      (answer : events = [] ∨ events = [.Reply DATA_TOO_LONG]) : Reaction ended v line events .Closed v
  | delivered (called : Called H Effect Unit) (data : v.state.phase = .Data) (done : is_data_end line = true)
      (ran : Handler.on_mail v.config.handler v.state.current_mail = called) :
      Reaction ended v line
        (called.effects.map .Effect ++ [Event.OnMail v.state.current_mail called.result,.Reply (mail_reply called.result)])
        .Continue
        { v with config.handler := called.handler, state.current_mail := .empty, state.phase := .Greeted }
  /-- End of data, and the reply fails. -/
  | undelivered (called : Called H Effect Unit) (data : v.state.phase = .Data) (done : is_data_end line = true)
      (ran : Handler.on_mail v.config.handler v.state.current_mail = called) :
      Reaction ended v line (called.effects.map .Effect ++ [Event.OnMail v.state.current_mail called.result]) .Closed
        { v with config.handler := called.handler }
  | refused (response : Response) (command : v.state.phase ≠ .Data)
      (refuses : v.refusal (Command.parse line) = some response) :
      Reaction ended v line [.Parse line,.Reply response] .Continue v
  | greeted (domain : Text) (extended : Bool) (called : Called H Effect HelloResult)
      (parsed : Command.parse line = .ok (.Hello domain extended)) (phase : v.state.phase = .Connected)
      (ran : Handler.on_hello v.config.handler domain extended = called) (accepted : called.result = .ok .Ok) :
      Reaction ended v line (Event.Parse line :: called.effects.map .Effect ++ Event.OnHello domain extended called.result ::
          (v.hello_replies extended).map .Reply) .Continue
        { v with config.handler := called.handler, state.phase := .Greeted }
  /-- HELO / EHLO is rejected, or a reply to it fails. -/
  | ungreeted (domain : Text) (extended : Bool) (called : Called H Effect HelloResult) (replies : List Response)
      (parsed : Command.parse line = .ok (.Hello domain extended)) (phase : v.state.phase = .Connected)
      (ran : Handler.on_hello v.config.handler domain extended = called)
      (sent : replies <+: v.hello_replies extended) :
      Reaction ended v line (Event.Parse line :: called.effects.map .Effect ++ Event.OnHello domain extended called.result ::
          replies.map .Reply) .Closed { v with config.handler := called.handler }
  | helped (parsed : Command.parse line = .ok .Help) (command : v.state.phase ≠ .Data) :
      Reaction ended v line (.Parse line :: v.help_replies.map .Reply) .Continue v
  | unhelped (replies : List Response) (parsed : Command.parse line = .ok .Help) (command : v.state.phase ≠ .Data)
      (sent : replies <+: v.help_replies) : Reaction ended v line (.Parse line :: replies.map .Reply) .Closed v
  | idle (parsed : Command.parse line = .ok .NoOp) (command : v.state.phase ≠ .Data) :
      Reaction ended v line [.Parse line,.Reply OK] .Continue v
  | upgraded (parsed : Command.parse line = .ok .StartTls) (accepts : v.refusal (.ok .StartTls) = none) :
      Reaction ended v line [.Parse line,.Reply START_TLS,.TlsStarted] .Continue
        { v with state := .new, supports_tls := false, is_tls := true }
  /-- The TLS handshake fails. -/
  | downgraded (v' : View H) (parsed : Command.parse line = .ok .StartTls)
      (accepts : v.refusal (.ok .StartTls) = none) (config : v'.config = v.config) :
      Reaction ended v line [.Parse line,.Reply START_TLS] .Closed v'
  | authenticated (method : AuthMethod) (initial : Option Bytes) (exchanged : List (Response × Bytes))
      (username password : Text) (called : Called H Effect LoginResult)
      (parsed : Command.parse line = .ok (.Authenticate method initial))
      (accepts : v.refusal (.ok (.Authenticate method initial)) = none)
      (challenged : ∀ e ∈ exchanged, e.1 ∈ challenges)
      (ran : Handler.on_login v.config.handler username password = called) (accepted : called.result = .ok .Ok) :
      Reaction ended v line (Event.Parse line :: dialogue exchanged ++ (called.effects.map .Effect ++
          [Event.OnLogin username password called.result,.Reply AUTH_OK])) .Continue
        { v with config.handler := called.handler, state.is_authenticated := true }
  /-- The login is rejected, or the reply to it fails. -/
  | unauthenticated (method : AuthMethod) (initial : Option Bytes) (exchanged : List (Response × Bytes))
      (last : List (Event Effect)) (username password : Text) (called : Called H Effect LoginResult)
      (parsed : Command.parse line = .ok (.Authenticate method initial))
      (accepts : v.refusal (.ok (.Authenticate method initial)) = none)
      (challenged : ∀ e ∈ exchanged, e.1 ∈ challenges)
      (ran : Handler.on_login v.config.handler username password = called)
      (answer : last = [] ∨ last = [.Reply AUTH_FAIL] ∧ called.result ≠ .ok .Ok) :
      Reaction ended v line (Event.Parse line :: dialogue exchanged ++ (called.effects.map .Effect ++
          Event.OnLogin username password called.result :: last)) .Closed { v with config.handler := called.handler }
  /-- The last answer does not stand for credentials. -/
  | garbled (method : AuthMethod) (initial : Option Bytes) (exchanged : List (Response × Bytes)) (err : Text)
      (parsed : Command.parse line = .ok (.Authenticate method initial))
      (accepts : v.refusal (.ok (.Authenticate method initial)) = none)
      (challenged : ∀ e ∈ exchanged, e.1 ∈ challenges) (known : err ∈ handshake_errors) :
      Reaction ended v line (Event.Parse line :: dialogue exchanged ++ [Event.Reply (.syntax_error (some err))]) .Continue v
  /-- A challenge is not answered any more. -/
  | deserted (method : AuthMethod) (initial : Option Bytes) (exchanged : List (Response × Bytes))
      (challenge : Response) (err : Text) (parsed : Command.parse line = .ok (.Authenticate method initial))
      (accepts : v.refusal (.ok (.Authenticate method initial)) = none)
      (challenged : ∀ e ∈ exchanged, e.1 ∈ challenges) (asked : challenge ∈ challenges)
      (known : err ∈ handshake_errors) (eof : ended) :
      Reaction ended v line
        (Event.Parse line :: dialogue exchanged ++ [Event.Reply challenge,.Reply (.syntax_error (some err))]) .Continue v
  /-- A handshake ends the session: an answer is not base64, or the stream fails. -/
  | broken (method : AuthMethod) (initial : Option Bytes) (exchanged : List (Response × Bytes))
      (last : List (Event Effect)) (parsed : Command.parse line = .ok (.Authenticate method initial))
      (accepts : v.refusal (.ok (.Authenticate method initial)) = none)
      (challenged : ∀ e ∈ exchanged, e.1 ∈ challenges)
      (asked : last = [] ∨ ∃ challenge ∈ challenges, last = [.Reply challenge]) :
      Reaction ended v line (Event.Parse line :: dialogue exchanged ++ last) .Closed v
  | mail (sender : Text) (parsed : Command.parse line = .ok (.Mail sender))
      (accepts : v.refusal (.ok (.Mail sender)) = none) :
      Reaction ended v line [.Parse line,.Reply OK] .Continue
        { v with state.current_mail := Mail.empty.set_sender sender, state.phase := .Envelope }
  | recipient (recipient : Text) (parsed : Command.parse line = .ok (.Recipient recipient))
      (accepts : v.refusal (.ok (.Recipient recipient)) = none) :
      Reaction ended v line [.Parse line,.Reply OK] .Continue
        { v with state.current_mail := v.state.current_mail.add_recipient recipient }
  | data (parsed : Command.parse line = .ok .Data) (accepts : v.refusal (.ok .Data) = none) :
      Reaction ended v line [.Parse line,.Reply DATA_START] .Continue { v with state.phase := .Data }
  | reset (called : Called H Effect Unit) (parsed : Command.parse line = .ok .Reset) (command : v.state.phase ≠ .Data)
      (ran : Handler.on_reset v.config.handler = called) :
      Reaction ended v line (Event.Parse line :: .Reply RESET :: (called.effects.map .Effect ++ [Event.OnReset called.result]))
        .Continue { v with config.handler := called.handler, state := .new }
  | quit (parsed : Command.parse line = .ok .Quit) (command : v.state.phase ≠ .Data) :
      Reaction ended v line [.Parse line,.Reply GOODBYE] .Return v
  /-- The first reply to a command fails. -/
  | silent (v' : View H) (command : v.state.phase ≠ .Data) (config : v'.config = v.config) :
      Reaction ended v line [.Parse line] .Closed v'

/-! ### The step that a reaction comes to -/

section
variable {v v' : View H} {line : Bytes} {response : Response}

/-- Every reply with which a line is turned down. -/
def refusals : List Response :=
  [BAD_SEQUENCE,AUTH_REQUIRED,.syntax_error none] ++
    ("TLS not supported".toList :: parse_errors ++ handshake_errors).map fun err => .syntax_error (some err)

theorem refusal_known (refuses : v.refusal (Command.parse line) = some response) : response ∈ refusals := by
  cases parsed : Command.parse line with
  | error err =>
    obtain rfl : Response.syntax_error (some err) = response := by simpa [parsed,View.refusal] using refuses
    refine List.mem_append_right _ (List.mem_map_of_mem ?_)
    simp [parse_error_known parsed]
  | ok command =>
    rw [parsed] at refuses
    cases command <;> simp only [View.refusal] at refuses
    all_goals
      repeat' split at refuses
    all_goals
      cases refuses
    all_goals
      decide

theorem refusals_code : ∀ response ∈ refusals, 500 ≤ response.code := by decide

theorem start_tls_accepted (accepts : v.refusal (.ok .StartTls) = none) :
    v.state.phase = .Greeted ∧ v.supports_tls = true := by
  simp only [View.refusal] at accepts
  split_ifs at accepts with plain greeted
  exact ⟨greeted,by simpa using plain⟩

theorem authenticate_accepted {method : AuthMethod} {initial : Option Bytes}
    (accepts : v.refusal (.ok (.Authenticate method initial)) = none) :
    v.state.phase = .Greeted ∧
      (v.config.auth_mode = .Always ∨ v.config.auth_mode = .RequireTls ∧ v.is_tls = true) := by
  simp only [View.refusal,ite_not] at accepts
  split at accepts
  next greeted =>
    refine ⟨greeted,?_⟩
    cases mode : v.config.auth_mode with
    | None => simp [mode] at accepts
    | Always => exact .inl rfl
    | RequireTls => exact .inr ⟨rfl,by simpa [mode] using accepts⟩
  next => simp at accepts

theorem mail_accepted {sender : Text} (accepts : v.refusal (.ok (.Mail sender)) = none) :
    v.state.phase = .Greeted ∧ v.is_authenticated = true := by
  simp only [View.refusal] at accepts
  split_ifs at accepts with other authenticated
  exact ⟨by simpa using other,authenticated⟩

theorem recipient_accepted {recipient : Text} (accepts : v.refusal (.ok (.Recipient recipient)) = none) :
    v.state.phase = .Envelope ∧ v.is_authenticated = true := by
  simp only [View.refusal] at accepts
  split_ifs at accepts with other authenticated
  exact ⟨by simpa using other,authenticated⟩

theorem data_accepted (accepts : v.refusal (.ok .Data) = none) :
    v.state.phase = .Envelope ∧ v.is_authenticated = true :=
  recipient_accepted (show v.refusal (.ok (.Recipient [])) = none from accepts)

theorem challenges_code : ∀ response ∈ challenges, response.code = 334 := by decide

theorem dialogue_handshake {exchanged : List (Response × Bytes)} (challenged : ∀ e ∈ exchanged, e.1 ∈ challenges) :
    ∀ e ∈ (dialogue exchanged : List (Event Effect)), e.Handshake := by
  intro e member
  obtain ⟨⟨challenge,answer⟩,asked,done⟩ := List.mem_flatMap.mp member
  rcases List.mem_pair.mp done with rfl | rfl
  · exact .challenge challenge (challenges_code challenge (challenged _ asked))
  · exact .received answer

theorem feature_replies_coded (features : List Text) : ∀ response ∈ feature_replies features, response.code = 250 := by
  fun_induction feature_replies features <;> simp_all

theorem hello_replies_coded (v : View H) (extended : Bool) :
    ∀ response ∈ v.hello_replies extended, response.code = 250 := by
  unfold View.hello_replies
  split
  · simpa using feature_replies_coded v.features
  · simp

theorem help_replies_coded (v : View H) : ∀ response ∈ v.help_replies, response.code ∈ [250,214] := by
  simp [View.help_replies]

variable [Handler H Effect] {ended : Prop} {events : List (Event Effect)} {outcome : Outcome}

theorem coded_of_replies {codes : List Nat} {replies : List Response}
    (coded : ∀ response ∈ replies, response.code ∈ codes) :
    ∀ e ∈ (replies.map .Reply : List (Event Effect)), e.Coded codes := by
  intro e member
  obtain ⟨response,sent,rfl⟩ := List.mem_map.mp member
  exact .reply response (coded response sent)

theorem Reaction.step (reaction : Reaction ended v line events outcome v') : Step v line events outcome v' := by
  cases reaction with
  | captured data more fits => exact .captured data more fits
  | overflowed _ data more exceeds answer =>
    refine .dropped _ _ ?_ rfl fun _ => ⟨more,?_⟩
    all_goals
      rcases answer with rfl | rfl
      · simp
      · simp [Event.Quiet.reply DATA_TOO_LONG (by decide)]
  | delivered called data done ran => exact .delivered called data done ran
  | undelivered called data done ran => exact .undelivered called _ data done ran rfl
  | refused response command refuses =>
    exact .refused [] response command (by rintro parsed; simp [parsed,View.refusal] at refuses) (by simp)
      (refusals_code response (refusal_known refuses))
  | greeted domain extended called parsed phase ran accepted =>
    exact .greeted domain extended called _ parsed phase ran accepted
      (coded_of_replies (by simpa using hello_replies_coded v extended))
  | ungreeted domain extended called replies parsed phase ran sent =>
    exact .ungreeted domain extended called _ _ parsed phase ran (coded_of_replies fun response member => by
      simpa using hello_replies_coded v extended response (sent.subset member)) rfl
  | helped parsed command => exact .informed .Help _ parsed (.inl rfl) command (coded_of_replies (help_replies_coded v))
  | unhelped replies parsed command sent =>
    refine .dropped _ _ ?_ rfl fun data => absurd data command
    have coded : ∀ e ∈ (replies.map .Reply : List (Event Effect)), e.Coded [250,214] :=
      coded_of_replies fun response member => help_replies_coded v response (sent.subset member)
    intro e member
    rcases List.mem_cons.mp member with rfl | replied
    · exact .parse line
    · exact (coded e replied).quiet (by decide)
  | idle parsed command =>
    exact .informed .NoOp [.Reply OK] parsed (.inr rfl) command (by simpa using Event.Coded.reply OK (by decide))
  | upgraded parsed accepts =>
    obtain ⟨phase,supported⟩ := start_tls_accepted accepts
    exact .upgraded parsed phase supported
  | downgraded _ parsed accepts config =>
    refine .dropped _ _ ?_ config fun data => ?_
    · simp [Event.Quiet.parse,Event.Quiet.reply START_TLS (by decide)]
    · simp [(start_tls_accepted accepts).1] at data
  | authenticated method initial exchanged username password called parsed accepts challenged ran accepted =>
    obtain ⟨phase,permitted⟩ := authenticate_accepted accepts
    exact .authenticated method initial _ username password called parsed phase permitted
      (dialogue_handshake challenged) ran accepted
  | unauthenticated method initial exchanged last username password called parsed accepts challenged ran answer =>
    obtain ⟨phase,permitted⟩ := authenticate_accepted accepts
    exact .unauthenticated method initial _ last username password called _ parsed phase permitted
      (dialogue_handshake challenged) ran answer rfl
  | garbled method initial exchanged err parsed accepts challenged known =>
    obtain ⟨phase,-⟩ := authenticate_accepted accepts
    exact .refused _ _ (by simp [phase]) (by simp [parsed]) (dialogue_handshake challenged) (by simp)
  | deserted method initial exchanged challenge err parsed accepts challenged asked known eof =>
    obtain ⟨phase,-⟩ := authenticate_accepted accepts
    have handshake : ∀ e ∈ (dialogue exchanged ++ [Event.Reply challenge] : List (Event Effect)), e.Handshake := by
      intro e member
      rcases List.mem_append.mp member with exchange | last
      · exact dialogue_handshake challenged e exchange
      · exact List.mem_singleton.mp last ▸ .challenge challenge (challenges_code challenge asked)
    simpa using Step.refused _ (.syntax_error (some err)) (by simp [phase]) (by simp [parsed]) handshake (by simp)
  | broken method initial exchanged last parsed accepts challenged asked =>
    obtain ⟨phase,-⟩ := authenticate_accepted accepts
    refine .dropped _ _ ?_ rfl fun data => by simp [phase] at data
    intro e member
    rcases List.mem_append.mp member with before | later
    · rcases List.mem_cons.mp before with rfl | exchange
      · exact .parse line
      · exact (dialogue_handshake challenged e exchange).quiet
    · obtain rfl | ⟨challenge,known,rfl⟩ := asked
      · simp at later
      · have code := challenges_code challenge known
        exact List.mem_singleton.mp later ▸ .reply challenge (by omega)
  | mail sender parsed accepts =>
    obtain ⟨phase,authenticated⟩ := mail_accepted accepts
    exact .mail sender parsed phase authenticated
  | recipient recipient parsed accepts =>
    obtain ⟨phase,authenticated⟩ := recipient_accepted accepts
    exact .recipient recipient parsed phase authenticated
  | data parsed accepts =>
    obtain ⟨phase,authenticated⟩ := data_accepted accepts
    exact .data parsed phase authenticated
  | reset called parsed command ran => exact .reset called parsed command ran
  | quit parsed command => exact .quit parsed command
  | silent _ command config => exact .dropped _ _ (by simp [Event.Quiet.parse]) config fun data => absurd data command

/-- Of the configuration a turn changes the handler alone. -/
theorem Reaction.config (reaction : Reaction ended v line events outcome v') :
    ∃ handler, v'.config = { v.config with handler := handler } := by
  cases reaction with
  | downgraded _ _ _ config => exact ⟨v.config.handler,config⟩
  | silent _ _ config => exact ⟨v.config.handler,config⟩
  | _ => exact ⟨_,rfl⟩

end
end PostGraph
