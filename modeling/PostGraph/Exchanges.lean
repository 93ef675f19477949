import PostGraph.Lib.Base64Text
import PostGraph.Handshake
import PostGraph.Transactions

/-!
What becomes of the credentials that a client sends: well-formed ones reach the handler as
they are, by all four exchanges. A response that cannot be decoded is answered where
the mechanism is PLAIN, while for LOGIN it ends the session.
-/
namespace PostGraph
open Programs Session
set_option autoImplicit false

section
variable {H Effect : Type} [Base64]

/-! ### Responses that cannot be used -/

/-- A response that is not base64 or, for PLAIN, does not stand for three parts. -/
def Unusable (method : AuthMethod) (response : Bytes) : Prop :=
  decode_base64 response = none ∨
    method = .Plain ∧ ∃ credentials, decode_base64 response = some credentials ∧ (credentials.splitOn 0).length ≠ 3

/-- An exchange whose last response is unusable, by the initial response and the answers to
    the challenges. -/
inductive Garbled : AuthMethod → Option Bytes → List Bytes → Prop
  | initial (method : AuthMethod) (response : Bytes) (unusable : Unusable method response) :
      Garbled method (some response) []
  | answer (method : AuthMethod) (response : Bytes) (unusable : Unusable method response) : Garbled method none [response]
  | password (username response : Bytes) (usable : (decode_base64 username).isSome)
      (unusable : Unusable .Login response) : Garbled .Login (some username) [response]
  | second (username response : Bytes) (usable : (decode_base64 username).isSome)
      (unusable : Unusable .Login response) : Garbled .Login none [username,response]

/-- The line and its challenge answers get a syntax error for an answer and change
    nothing. -/
def AnswersSyntaxError [Handler H Effect] (s : Session H Effect) : Prop :=
  ∃ t events err, turn s = .ok .Continue t ∧ t.trace = s.trace ++ (events ++ [Event.Reply (.syntax_error err)]) ∧
    (∀ username password result, .OnLogin username password result ∉ events) ∧ t.state = s.state

theorem plain_unusable {response : Bytes} (unusable : Unusable .Plain response) :
    ∃ err, plain_credentials response = .SyntaxError err := by
  rcases unusable with broken | ⟨-,credentials,decoded,parts⟩
  · exact ⟨_,by rw [plain_credentials,broken]⟩
  · refine ⟨"invalid number of parts in PLAIN credential payload".toList,?_⟩
    rw [plain_credentials,decoded]
    dsimp only
    split
    · next split => simp [split] at parts
    · rfl

theorem login_unusable {response : Bytes} (unusable : Unusable .Login response) : decode_base64 response = none := by
  rcases unusable with broken | ⟨plain,-⟩
  · exact broken
  · simp at plain

section
variable {s : Session H Effect} {method : AuthMethod} {initial : Option Bytes} {line rest : Bytes} {answers : List Bytes}

/-- Where the last response is unusable, PLAIN gives the handshake up and LOGIN the
    session. -/
theorem Garbled.runs (garbled : Garbled method initial answers) (sent : s.pending = answers.flatten ++ rest)
    (lines : ∀ answer ∈ answers, IsLine answer ∧ answer.length ≤ MAX_LINE_LENGTH) (writable : s.Writable 2) :
    (method = .Plain ∧ ∃ err events t, handle_auth method initial s = .ok (.SyntaxError err) t ∧ Did s events t ∧
      (∀ username password result, .OnLogin username password result ∉ events) ∧ t.Writable 1) ∨
    (method = .Login ∧ ∃ t, handle_auth method initial s = .error .Base64 t) := by
  have once {response : Bytes} {method : AuthMethod} (unusable : Unusable method response) (t : Session H Effect) :
      (method = .Plain ∧ ∃ err, handle_auth method (some response) t = .ok (.SyntaxError err) t) ∨
      (method = .Login ∧ handle_auth method (some response) t = .error .Base64 t) := by
    cases method with
    | Plain =>
      obtain ⟨err,garbled⟩ := plain_unusable unusable
      exact .inl ⟨rfl,err,by rw [handle_auth_plain,garbled]⟩
    | Login => exact .inr ⟨rfl,handle_auth_login_broken (login_unusable unusable) t⟩
  have fewer {t : Session H Effect} (later : t.Writable 2) : t.Writable 1 := later.fewer (by omega)
  cases garbled with
  | initial method response unusable =>
    rcases once unusable s with ⟨plain,err,ran⟩ | ⟨login,ran⟩
    · exact .inl ⟨plain,err,[],s,ran,did_refl s,by simp,fewer writable⟩
    · exact .inr ⟨login,s,ran⟩
  | answer method response unusable =>
    obtain ⟨complete,fits⟩ := lines response (by simp)
    obtain ⟨t,asked,did,-,later⟩ := ask_answered (first_challenge method) writable (by simpa using sent) complete fits
    rcases once unusable t with ⟨plain,err,ran⟩ | ⟨login,ran⟩
    · exact .inl ⟨plain,err,_,t,(handle_auth_asks asked).trans ran,did,by simp,later⟩
    · exact .inr ⟨login,t,(handle_auth_asks asked).trans ran⟩
  | password username response usable unusable =>
    obtain ⟨complete,fits⟩ := lines response (by simp)
    obtain ⟨decoded,usable⟩ := Option.isSome_iff_exists.mp usable
    obtain ⟨t,asked,-,-,-⟩ := ask_answered AUTH_CHALLENGE_LOGIN_PASSWORD writable (by simpa using sent) complete fits
    refine .inr ⟨rfl,t,?_⟩
    rw [handle_auth_login usable asked,login_unusable unusable]
  | second username response usable unusable =>
    obtain ⟨complete,fits⟩ := lines username (by simp)
    obtain ⟨complete',fits'⟩ := lines response (by simp)
    obtain ⟨decoded,usable⟩ := Option.isSome_iff_exists.mp usable
    obtain ⟨r,first,-,left,later⟩ := ask_answered (first_challenge .Login) writable
      (show s.pending = username ++ (response ++ rest) by simpa using sent) complete fits
    obtain ⟨t,asked,-,-,-⟩ := ask_answered AUTH_CHALLENGE_LOGIN_PASSWORD later left complete' fits'
    refine .inr ⟨rfl,t,?_⟩
    rw [handle_auth_asks first,handle_auth_login usable asked,login_unusable unusable]

variable [Handler H Effect]

/-- What permits AUTH in phase Greeted. -/
def Permitted (s : Session H Effect) : Prop :=
  s.config.auth_mode = .Always ∨ s.config.auth_mode = .RequireTls ∧ s.connection.any Connection.is_tls = true

omit [Base64] [Handler H Effect] in
theorem permitted_accepts (phase : s.state.phase = .Greeted) (permitted : Permitted s) :
    s.view.refusal (.ok (.Authenticate method initial)) = none := by
  simp only [View.refusal,Session.view_state,phase,ne_eq,not_true_eq_false,if_false,Session.view_config]
  rcases permitted with always | ⟨required,tls⟩
  · rw [always]
  · rw [required]
    exact if_pos tls

/-- A response that cannot be used is answered with a syntax error and without a call of
    `on_login`, and the session goes on as it was, exactly if the mechanism is
    PLAIN. -/
theorem unusable_response_answered_iff (s : Session H Effect) (method : AuthMethod) (initial : Option Bytes)
    (line rest : Bytes) (answers : List Bytes) (phase : s.state.phase = .Greeted) (permitted : Permitted s)
    (parsed : Command.parse line = .ok (.Authenticate method initial)) (garbled : Garbled method initial answers)
    (sent : s.pending = line ++ (answers.flatten ++ rest))
    (lines : ∀ l ∈ line :: answers, IsLine l ∧ l.length ≤ MAX_LINE_LENGTH) (writable : s.Writable 2) :
    AnswersSyntaxError s ↔ method = .Plain := by
  obtain ⟨complete,fits⟩ := lines line (by simp)
  obtain ⟨r,turned,did,left,later⟩ := turn_authenticate writable sent complete fits parsed (permitted_accepts phase permitted)
  rcases garbled.runs left (fun answer member => lines answer (by simp [member])) later with
    ⟨plain,err,events,t,ran,did',quiet,last⟩ | ⟨login,t,ran⟩
  · refine iff_of_true ?_ plain
    obtain ⟨u,replied,answered,-,-⟩ := reply_writable last (.syntax_error (some err))
    have ended : authenticate method initial r = .ok () u := (bind_ok ran).trans replied
    have whole := (did.trans did').trans answered
    refine ⟨u,_,some err,turned.trans (bind_ok ended),whole.1,?_,congrArg View.state whole.2⟩
    intro username password result
    simpa using quiet username password result
  · refine iff_of_false ?_ (by simp [login])
    rintro ⟨u,events,err,goesOn,-⟩
    have ended : authenticate method initial r = .error .Base64 t := bind_error ran
    rw [turned,bind_error ended] at goesOn
    simp at goesOn

end

/-! ### Credentials on their way to the handler -/

/-- How a line may end. -/
def Ending (ending : Bytes) : Prop := ending = CRLF ∨ ending = [LF]

def auth_line (verb mechanism : Bytes) (initial : Option Bytes) (ending : Bytes) : Bytes :=
  verb ++ SPACE :: (mechanism ++ initial.elim [] fun response => SPACE :: response) ++ ending

/-- The line that answers a challenge with a response, with blanks around it. -/
def AnswerLine (response line : Bytes) : Prop :=
  ∃ lead trail ending, (∀ b ∈ lead ++ trail, b = SPACE ∨ b = 9) ∧ Ending ending ∧ line = lead ++ response ++ trail ++ ending

/-- What AUTH PLAIN sends: an authorization identity, the user name and the password. -/
def plain_message (authzid username password : Text) : Bytes :=
  Utf8.encode authzid ++ 0 :: (Utf8.encode username ++ 0 :: Utf8.encode password)

abbrev NUL : Char := Char.ofNat 0

/-- The four exchanges, by the initial response and the responses to the challenges. -/
inductive Exchange (username password : Text) : AuthMethod → Option Bytes → List Bytes → Prop
  | plain (authzid : Text) (bare : NUL ∉ authzid ∧ NUL ∉ username ∧ NUL ∉ password) :
      Exchange username password .Plain (some (Base64.encode (plain_message authzid username password))) []
  | plain_challenge (authzid : Text) (bare : NUL ∉ authzid ∧ NUL ∉ username ∧ NUL ∉ password) :
      Exchange username password .Plain none [Base64.encode (plain_message authzid username password)]
  | login : Exchange username password .Login (some (Base64.encode (Utf8.encode username)))
      [Base64.encode (Utf8.encode password)]
  | login_challenges : Exchange username password .Login none
      [Base64.encode (Utf8.encode username),Base64.encode (Utf8.encode password)]

def login_of : Event Effect → Option (Text × Text)
  | .OnLogin username password _ => some (username,password)
  | _ => none

section
variable {text response line lead trail ending verb mechanism : Bytes} {username password authzid : Text}

omit [Base64] in
theorem strip_line_end_of (ends : Ending ending) (absent : CR ∉ text) : strip_line_end (text ++ ending) = text := by
  rcases ends with rfl | rfl
  · exact strip_line_end_crlf text
  · have other : strip_suffix CRLF (text ++ [LF]) = none := by
      unfold strip_suffix
      rw [if_neg]
      rintro ⟨front,same⟩
      have split : (front ++ [CR]) ++ [LF] = text ++ [LF] := by simpa using same
      have inside : CR ∈ text := by
        rw [← List.append_cancel_right split]
        simp
      exact absent inside
    rw [strip_line_end,other,strip_suffix_append]
    rfl

omit [Base64] in
theorem isLine_of (ends : Ending ending) (absent : LF ∉ text) : IsLine (text ++ ending) := by
  rcases ends with rfl | rfl
  · exact ⟨text ++ [CR],by simp,by simpa using ⟨absent,(by decide : LF ≠ CR)⟩⟩
  · exact ⟨text,rfl,absent⟩

omit [Base64] in
theorem upper_absent {word start : Bytes} {b : UInt8} (same : to_ascii_uppercase word = start) (absent : upper b ∉ start) :
    b ∉ word := fun member => absent (same ▸ List.mem_map_of_mem (f := upper) member)

omit [Base64] in
theorem parse_auth {method : AuthMethod} {initial : Option Bytes} (auth : to_ascii_uppercase verb = ascii "AUTH")
    (named : to_ascii_uppercase mechanism = method.name) (ends : Ending ending)
    (clean : ∀ response ∈ initial, ∀ b ∈ response, is_ascii_whitespace b = false) :
    Command.parse (auth_line verb mechanism initial ending) = .ok (.Authenticate method initial) := by
  have absent : SPACE ∉ verb := upper_absent auth (by decide)
  have absent' : SPACE ∉ mechanism := upper_absent named (by cases method <;> decide)
  have whole : CR ∉ verb ++ SPACE :: (mechanism ++ initial.elim [] fun response => SPACE :: response) := by
    simp only [List.mem_append,List.mem_cons,not_or]
    refine ⟨upper_absent auth (by decide),by decide,upper_absent named (by cases method <;> decide),?_⟩
    cases initial with
    | none => simp
    | some response =>
      simp only [Option.elim_some,List.mem_cons,not_or]
      exact ⟨by decide,fun member => absurd (clean response rfl CR member) (by decide)⟩
  have argument : split_none_or_once (mechanism ++ initial.elim [] fun response => SPACE :: response) SPACE =
      (mechanism,initial) := by
    cases initial with
    | some response => exact split_none_or_once_append absent' response
    | none =>
      have none : mechanism.findIdx? (· == SPACE) = none := memchr_absent absent'
      simp [split_none_or_once,none]
  unfold Command.parse
  rw [auth_line,strip_line_end_of ends whole,split_none_or_once_append absent]
  simp only [auth,argument,named]
  cases method <;> rfl

/-- The engine decodes what it encodes, and its alphabet has no blanks. -/
structure Engine [Base64] : Prop where
  inverse : ∀ bytes, Base64.decode (Base64.encode bytes) = some bytes
  alphabet : ∀ bytes, ∀ b ∈ Base64.encode bytes, is_ascii_whitespace b = false

theorem Engine.unmarked (engine : Engine) (bytes : Bytes) : CR ∉ Base64.encode bytes ∧ LF ∉ Base64.encode bytes :=
  ⟨fun member => absurd (engine.alphabet bytes CR member) (by decide),
    fun member => absurd (engine.alphabet bytes LF member) (by decide)⟩

theorem decode_initial (engine : Engine) (bytes : Bytes) : decode_base64 (Base64.encode bytes) = some bytes := by
  obtain ⟨cr,lf⟩ := engine.unmarked bytes
  have unended {ending : Bytes} (some : ending ≠ []) (inside : LF ∈ ending) :
      strip_suffix ending (Base64.encode bytes) = none := by
    unfold strip_suffix
    rw [if_neg]
    exact fun suffix => lf (suffix.subset inside)
  have kept : strip_line_end (Base64.encode bytes) = Base64.encode bytes := by
    rw [strip_line_end,unended (by simp) (by simp),unended (by simp) (by simp)]
    rfl
  have trimmed : trim_ascii (Base64.encode bytes) = Base64.encode bytes := by
    have between : trim_ascii ([] ++ Base64.encode bytes ++ []) = Base64.encode bytes :=
      trimBy_between (by simp) (engine.alphabet bytes) (by simp)
    simpa using between
  rw [decode_base64,kept,trimmed,engine.inverse]

theorem decode_answer (engine : Engine) {bytes : Bytes} (answers : AnswerLine (Base64.encode bytes) line) :
    decode_base64 line = some bytes := by
  obtain ⟨lead,trail,ending,blank,ends,rfl⟩ := answers
  have stripped {b : UInt8} (member : b ∈ lead ++ trail) : is_ascii_whitespace b = true := by
    rcases blank b member with rfl | rfl
    · rfl
    · rfl
  have absent : CR ∉ lead ++ Base64.encode bytes ++ trail := by
    intro member
    rw [List.mem_append,List.mem_append] at member
    rcases member with (before | inside) | after
    · exact absurd (blank CR (by simp [before])) (by decide)
    · exact (engine.unmarked bytes).1 inside
    · exact absurd (blank CR (by simp [after])) (by decide)
  have trimmed : trim_ascii (lead ++ Base64.encode bytes ++ trail) = Base64.encode bytes :=
    trimBy_between (fun b member => stripped (by simp [member])) (engine.alphabet bytes)
      (fun b member => stripped (by simp [member]))
  rw [decode_base64,strip_line_end_of ends absent,trimmed,engine.inverse]

omit [Base64] in
theorem isLine_auth {method : AuthMethod} {initial : Option Bytes} (auth : to_ascii_uppercase verb = ascii "AUTH")
    (named : to_ascii_uppercase mechanism = method.name) (ends : Ending ending)
    (clean : ∀ response ∈ initial, ∀ b ∈ response, is_ascii_whitespace b = false) :
    IsLine (auth_line verb mechanism initial ending) := by
  refine isLine_of ends ?_
  simp only [List.mem_append,List.mem_cons,not_or]
  refine ⟨upper_absent auth (by decide),by decide,upper_absent named (by cases method <;> decide),?_⟩
  cases initial with
  | none => simp
  | some response =>
    simp only [Option.elim_some,List.mem_cons,not_or]
    exact ⟨by decide,fun member => absurd (clean response rfl LF member) (by decide)⟩

theorem isLine_answer (engine : Engine) {bytes : Bytes} (answers : AnswerLine (Base64.encode bytes) line) :
    IsLine line := by
  obtain ⟨lead,trail,ending,blank,ends,rfl⟩ := answers
  apply isLine_of ends
  intro member
  rw [List.mem_append,List.mem_append] at member
  rcases member with (before | inside) | after
  · exact absurd (blank LF (by simp [before])) (by decide)
  · exact (engine.unmarked bytes).2 inside
  · exact absurd (blank LF (by simp [after])) (by decide)

omit [Base64] in
theorem unmarked_encode {text : Text} (bare : NUL ∉ text) : 0 ∉ Utf8.encode text :=
  fun member => bare (mem_encode_ascii (by decide) member)

omit [Base64] in
theorem split_message (bare : NUL ∉ authzid ∧ NUL ∉ username ∧ NUL ∉ password) :
    (plain_message authzid username password).splitOn 0 =
      [Utf8.encode authzid,Utf8.encode username,Utf8.encode password] := by
  rw [plain_message,List.splitOn_append_cons_self_of_not_mem (unmarked_encode bare.1),
    List.splitOn_append_cons_self_of_not_mem (unmarked_encode bare.2.1),
    List.splitOn_eq_singleton (unmarked_encode bare.2.2)]

theorem plain_arrives (bare : NUL ∉ authzid ∧ NUL ∉ username ∧ NUL ∉ password)
    (decoded : decode_base64 response = some (plain_message authzid username password)) :
    plain_credentials response = .Ok username password := by
  rw [plain_credentials,decoded]
  simp only [split_message bare,from_utf8_lossy,Utf8.lossy_encode]

end

section
variable {s : Session H Effect} {method : AuthMethod} {initial : Option Bytes} {responses answers : List Bytes}
  {username password : Text} {rest : Bytes}

theorem Exchange.encoded (exchange : Exchange username password method initial responses) :
    ∀ response ∈ responses, ∃ bytes, response = Base64.encode bytes := by
  cases exchange with
  | plain _ _ => simp
  | plain_challenge _ _ => simp
  | login => simp
  | login_challenges => simp

omit [Base64] in
theorem answered_by (formed : List.Forall₂ AnswerLine responses answers) {answer : Bytes} (member : answer ∈ answers) :
    ∃ response ∈ responses, AnswerLine response answer := by
  induction formed with
  | nil => simp at member
  | cons answered _ ih =>
    rcases List.mem_cons.mp member with rfl | later
    · exact ⟨_,by simp,answered⟩
    · obtain ⟨response,known,also⟩ := ih later
      exact ⟨response,by simp [known],also⟩

/-- Each exchange leads to the credentials, by way of its challenges. -/
theorem Exchange.runs (engine : Engine) (exchange : Exchange username password method initial responses)
    (formed : List.Forall₂ AnswerLine responses answers) (sent : s.pending = answers.flatten ++ rest)
    (lines : ∀ answer ∈ answers, IsLine answer ∧ answer.length ≤ MAX_LINE_LENGTH) (writable : s.Writable 2) :
    ∃ events t, handle_auth method initial s = .ok (.Ok username password) t ∧ Did s events t ∧
      events.filterMap login_of = [] := by
  cases exchange with
  | plain authzid bare =>
    exact ⟨[],s,by rw [handle_auth_plain,plain_arrives bare (decode_initial engine _)],did_refl s,rfl⟩
  | plain_challenge authzid bare =>
    obtain ⟨answer,_,answered,none,rfl⟩ := List.forall₂_cons_left_iff.mp formed
    obtain rfl := List.forall₂_nil_left_iff.mp none
    obtain ⟨complete,fits⟩ := lines answer (by simp)
    obtain ⟨t,asked,did,-,-⟩ := ask_answered (first_challenge .Plain) writable (by simpa using sent) complete fits
    refine ⟨_,t,?_,did,rfl⟩
    rw [handle_auth_asks asked,handle_auth_plain,plain_arrives bare (decode_answer engine answered)]
  | login =>
    obtain ⟨answer,_,answered,none,rfl⟩ := List.forall₂_cons_left_iff.mp formed
    obtain rfl := List.forall₂_nil_left_iff.mp none
    obtain ⟨complete,fits⟩ := lines answer (by simp)
    obtain ⟨t,asked,did,-,-⟩ := ask_answered AUTH_CHALLENGE_LOGIN_PASSWORD writable (by simpa using sent) complete fits
    refine ⟨_,t,?_,did,rfl⟩
    rw [handle_auth_login (decode_initial engine _) asked,decode_answer engine answered]
    simp only [from_utf8_lossy,Utf8.lossy_encode]
  | login_challenges =>
    obtain ⟨first,_,answered,more,rfl⟩ := List.forall₂_cons_left_iff.mp formed
    obtain ⟨second,_,answered',none,rfl⟩ := List.forall₂_cons_left_iff.mp more
    obtain rfl := List.forall₂_nil_left_iff.mp none
    obtain ⟨complete,fits⟩ := lines first (by simp)
    obtain ⟨complete',fits'⟩ := lines second (by simp)
    obtain ⟨r,asked,did,left,later⟩ := ask_answered (first_challenge .Login) writable
      (show s.pending = first ++ (second ++ rest) by simpa using sent) complete fits
    obtain ⟨t,asked',did',-,-⟩ := ask_answered AUTH_CHALLENGE_LOGIN_PASSWORD later left complete' fits'
    refine ⟨_,t,?_,did.trans did',rfl⟩
    rw [handle_auth_asks asked,handle_auth_login (decode_answer engine answered) asked',decode_answer engine answered']
    simp only [from_utf8_lossy,Utf8.lossy_encode]

variable [Handler H Effect]

/-- The trace goes on with one call of `on_login`. -/
def CallsLogin (s : Session H Effect) (username password : Text) (t : Session H Effect) : Prop :=
  ∃ events, t.trace = s.trace ++ events ∧ events.filterMap login_of = [(username,password)]

omit [Base64] [Handler H Effect] in
theorem calls_login {t : Session H Effect} (effects : List Effect) (result : Except Text LoginResult)
    (replied : List Response)
    (trace : t.trace = s.trace ++ (effects.map .Effect ++ Event.OnLogin username password result :: replied.map .Reply)) :
    CallsLogin s username password t := by
  refine ⟨_,trace,?_⟩
  have effected : (effects.map Event.Effect).filterMap login_of = [] := by simp [login_of]
  have replies : (replied.map Event.Reply : List (Event Effect)).filterMap login_of = [] := by simp [login_of]
  rw [List.filterMap_append,effected,List.nil_append,List.filterMap_cons,replies]
  rfl

omit [Base64] in
theorem login_calls (s : Session H Effect) (username password : Text) :
    CallsLogin s username password (final (login username password s)) := by
  obtain ⟨called,effects,result,response,k,ran,trace,-,-,silent⟩ := login_run s username password
  have run := reply_run called response
  rw [ran]
  cases replied : reply response called with
  | error err t =>
    rw [replied] at run
    rw [bind_error replied]
    exact calls_login effects result [] (by simp [final,run.1.1,trace])
  | ok _ t =>
    rw [replied] at run
    rw [bind_ok replied]
    exact calls_login effects result [response] (by simp [silent,run.1.1,trace])

/-- Credentials that are sent by one of the four exchanges reach `on_login` as they are,
    in one call. -/
theorem credentials_arrive (engine : Engine) (s : Session H Effect) (username password : Text) (method : AuthMethod)
    (initial : Option Bytes) (responses answers : List Bytes) (verb mechanism ending rest : Bytes)
    (phase : s.state.phase = .Greeted) (permitted : Permitted s)
    (exchange : Exchange username password method initial responses)
    (auth : to_ascii_uppercase verb = ascii "AUTH") (named : to_ascii_uppercase mechanism = method.name)
    (ends : Ending ending) (formed : List.Forall₂ AnswerLine responses answers)
    (sent : s.pending = auth_line verb mechanism initial ending ++ (answers.flatten ++ rest))
    (fits : ∀ line ∈ auth_line verb mechanism initial ending :: answers, line.length ≤ MAX_LINE_LENGTH)
    (writable : s.Writable 2) :
    ∃ events, (final (turn s)).trace = s.trace ++ events ∧ events.filterMap login_of = [(username,password)] := by
  have clean : ∀ response ∈ initial, ∀ b ∈ response, is_ascii_whitespace b = false := by
    cases exchange with
    | plain _ _ => simpa using engine.alphabet _
    | login => simpa using engine.alphabet _
    | plain_challenge _ _ => simp
    | login_challenges => simp
  obtain ⟨r,turned,did,left,later⟩ := turn_authenticate writable sent (isLine_auth auth named ends clean)
    (fits _ (by simp)) (parse_auth auth named ends clean) (permitted_accepts phase permitted)
  have lines : ∀ answer ∈ answers, IsLine answer ∧ answer.length ≤ MAX_LINE_LENGTH := by
    intro answer member
    obtain ⟨response,known,answered⟩ := answered_by formed member
    obtain ⟨bytes,rfl⟩ := exchange.encoded response known
    exact ⟨isLine_answer engine answered,fits answer (by simp [member])⟩
  obtain ⟨events,t,ran,did',none⟩ := exchange.runs engine formed left lines later
  obtain ⟨events',logged,one⟩ := login_calls t username password
  have ended : final (turn s) = final (login username password t) := by
    have authenticated : authenticate method initial r = login username password t := bind_ok ran
    rw [turned,final_bind_pure,authenticated]
  refine ⟨_,by rw [ended,logged,(did.trans did').1,List.append_assoc],?_⟩
  rw [List.filterMap_append,List.filterMap_append,none,one]
  rfl

end

end

section
attribute [local instance] Sample.argon2

/-- The standard engine. -/
local instance sampleEngine : Base64 := ⟨Base64Text.encode,Base64Text.decode⟩

theorem sampleEngine_engine : Engine where
  inverse := Base64Text.decode_encode
  alphabet bytes b member := by
    rw [Bool.eq_false_iff]
    intro blank
    have known := Base64Text.encode_alphabet bytes b member
    simp only [is_ascii_whitespace,Bool.or_eq_true,beq_iff_eq] at blank
    rcases blank with (((rfl | rfl) | rfl) | rfl) | rfl
    all_goals exact absurd known (by decide)

/-- A client that said EHLO and sends these lines. -/
def sampleDialog (text : String) : Session ProxyHandler ProxyEffect :=
  { Session.new (.new_plain (Sample.sends text) none) (Sample.config .Always) with state.phase := .Greeted }

/-- AUTH LOGIN, cancelled instead of a user name, ends the session. -/
theorem cancelled_login_drops : (sampleDialog "AUTH LOGIN\r\n*\r\n").state.phase = .Greeted ∧
    Permitted (sampleDialog "AUTH LOGIN\r\n*\r\n") ∧ Command.parse (ascii "AUTH LOGIN\r\n") = .ok (.Authenticate .Login none) ∧
    Garbled .Login none [ascii "*\r\n"] ∧ ¬ AnswersSyntaxError (sampleDialog "AUTH LOGIN\r\n*\r\n") := by
  refine ⟨rfl,.inl rfl,by decide,.answer _ _ (.inl (by decide)),?_⟩
  rintro ⟨t,events,err,goesOn,-⟩
  have dropped : value (turn (sampleDialog "AUTH LOGIN\r\n*\r\n")) = none := by decide +kernel
  rw [goesOn] at dropped
  simp [value] at dropped

theorem unusable_response_answered_sample : AnswersSyntaxError (sampleDialog "AUTH PLAIN\r\n*\r\n") :=
  (unusable_response_answered_iff (sampleDialog "AUTH PLAIN\r\n*\r\n") .Plain none (ascii "AUTH PLAIN\r\n") []
    [ascii "*\r\n"] rfl (.inl rfl) (by decide) (.answer _ _ (.inl (by decide))) (by decide +kernel)
    (by
      intro line member
      rcases List.mem_cons.mp member with rfl | member
      · exact ⟨⟨ascii "AUTH PLAIN\r",by decide,by decide⟩,by decide⟩
      · obtain rfl := List.mem_singleton.mp member
        exact ⟨⟨ascii "*\r",by decide,by decide⟩,by decide⟩)
    ⟨_,rfl,by simp [Connection.new_plain,Sample.sends,Connection.stream,BufReader.new]⟩).mpr rfl

theorem credentials_arrive_sample : ∃ events : List (Event _),
    (final (turn (sampleDialog "auth Login\r\n YQ==\n\r\n"))).trace = [] ++ events ∧
      events.filterMap login_of = [(['a'],[])] :=
  credentials_arrive sampleEngine_engine (sampleDialog "auth Login\r\n YQ==\n\r\n") ['a'] [] .Login none
    [Base64.encode (Utf8.encode ['a']),Base64.encode (Utf8.encode [])] [ascii " YQ==\n",ascii "\r\n"] (ascii "auth")
    (ascii "Login") CRLF [] rfl (.inl rfl) .login_challenges (by decide) (by decide) (.inl rfl)
    (.cons ⟨[SPACE],[],[LF],by simp,.inr rfl,by decide⟩ (.cons ⟨[],[],CRLF,by simp,.inl rfl,by decide⟩ .nil))
    (by decide +kernel) (by decide)
    ⟨_,rfl,by simp [Connection.new_plain,Sample.sends,Connection.stream,BufReader.new]⟩

end
end PostGraph
