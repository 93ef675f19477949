import PostGraph.MailCommand

/-!
AUTH exchanges, run from the lines that the client sends: every challenge takes the next
line as its answer, so that an exchange by challenges comes to one with an initial
response.
-/
namespace PostGraph
open Programs Session
set_option autoImplicit false

variable {H Effect : Type} [Base64]

namespace Session

def first_challenge : AuthMethod → Response
  | .Plain => AUTH_CHALLENGE_PLAIN
  | .Login => AUTH_CHALLENGE_LOGIN_USERNAME

/-- What a response to AUTH PLAIN stands for. -/
def plain_credentials (response : Bytes) : AuthHandshakeResult :=
  match decode_base64 response with
  | none => .SyntaxError "invalid base64 data".toList
  | some credentials =>
    match credentials.splitOn 0 with
    | [_,username,password] => .Ok (from_utf8_lossy username) (from_utf8_lossy password)
    | _ => .SyntaxError "invalid number of parts in PLAIN credential payload".toList

/-- A challenge and the line that answers it. -/
def ask (challenge : Response) : SessionM H Effect (Option Bytes) := do
  reply challenge
  read_line

variable {s t : Session H Effect} {line answer rest : Bytes} {n : Nat}

omit [Base64] in
theorem ask_answered (challenge : Response) (writable : s.Writable (n + 1)) (sent : s.pending = answer ++ rest)
    (complete : IsLine answer) (fits : answer.length ≤ MAX_LINE_LENGTH) :
    ∃ t, ask challenge s = .ok (some answer) t ∧ Did s [.Reply challenge,.Received answer] t ∧ t.pending = rest ∧
      t.Writable n := by
  obtain ⟨r,replied,did,incoming,later⟩ := reply_writable writable challenge
  obtain ⟨t,read,did',left⟩ := read_line_complete ((pending_of_incoming incoming).trans sent) complete fits
  exact ⟨t,(bind_ok replied).trans read,did.trans did',left,(reads_of read).writable n later⟩

omit [Base64] in
theorem ask_parts {challenge : Response} {found : Option Bytes} (asked : ask challenge s = .ok found t) :
    ∃ r, reply challenge s = .ok () r ∧ read_line r = .ok found t := by
  cases replied : reply challenge s with
  | error err r => simp [ask,bind_error replied] at asked
  | ok _ r =>
    rw [ask,bind_ok replied] at asked
    exact ⟨r,rfl,asked⟩

/-- The answer to the first challenge is taken like an initial response. -/
theorem handle_auth_asks {method : AuthMethod} (asked : ask (first_challenge method) s = .ok (some answer) t) :
    handle_auth method none s = handle_auth method (some answer) t := by
  obtain ⟨r,replied,read⟩ := ask_parts asked
  cases method with
  | Plain =>
    simp only [first_challenge] at replied
    simp only [handle_auth,bind,EStateM.bind,pure,EStateM.pure,replied,read]
  | Login =>
    simp only [first_challenge] at replied
    simp only [handle_auth,bind,EStateM.bind,pure,EStateM.pure,replied,read]

theorem handle_auth_plain (response : Bytes) (s : Session H Effect) :
    handle_auth .Plain (some response) s = .ok (plain_credentials response) s := by
  simp only [handle_auth,plain_credentials,pure_bind]
  cases decode_base64 response with
  | none => rfl
  | some credentials =>
    dsimp only
    rcases credentials.splitOn 0 with _ | ⟨_,_ | ⟨_,_ | ⟨_,_ | _⟩⟩⟩
    all_goals rfl

theorem handle_auth_login {response username : Bytes} (decoded : decode_base64 response = some username)
    (asked : ask AUTH_CHALLENGE_LOGIN_PASSWORD s = .ok (some answer) t) :
    handle_auth .Login (some response) s = match decode_base64 answer with
      | none => .error .Base64 t
      | some password => .ok (.Ok (from_utf8_lossy username) (from_utf8_lossy password)) t := by
  obtain ⟨r,replied,read⟩ := ask_parts asked
  simp only [handle_auth,bind,EStateM.bind,pure,EStateM.pure,decoded,replied,read]
  cases decode_base64 answer <;> rfl

theorem handle_auth_login_broken {response : Bytes} (broken : decode_base64 response = none) (s : Session H Effect) :
    handle_auth .Login (some response) s = .error .Base64 s := by
  simp only [handle_auth,pure_bind,broken]
  rfl

variable [Handler H Effect] {method : AuthMethod} {initial : Option Bytes} {response : Response}

theorem handle_authenticate_accepted (writable : s.Writable n)
    (accepts : s.view.refusal (.ok (.Authenticate method initial)) = none) :
    handle_authenticate method initial s = authenticate method initial s := by
  obtain ⟨c,connected⟩ := writable.connected
  obtain ⟨phase,permitted⟩ := authenticate_accepted accepts
  have here : s.state.in_phase .Greeted = true := by simpa [SessionState.in_phase] using phase
  simp only [handle_authenticate,bind,EStateM.bind,run_get,here]
  rcases permitted with always | ⟨required,tls⟩
  · have mode : s.config.auth_mode = .Always := always
    simp [mode]
  · have mode : s.config.auth_mode = .RequireTls := required
    have tls' : c.is_tls = true := by simpa [Session.view,connected] using tls
    simp [mode,get_connection,bind,EStateM.bind,run_get,connected,tls',pure,EStateM.pure]

theorem handle_authenticate_refused (writable : s.Writable n) (phase : s.state.phase = .Greeted)
    (refuses : s.view.refusal (.ok (.Authenticate method initial)) = some response) :
    handle_authenticate method initial s = reply response s := by
  obtain ⟨c,connected⟩ := writable.connected
  have here : s.state.in_phase .Greeted = true := by simpa [SessionState.in_phase] using phase
  simp only [handle_authenticate,bind,EStateM.bind,run_get,here]
  simp only [View.refusal,Session.view_state,phase,ne_eq,not_true_eq_false,if_false,Session.view_config] at refuses
  cases mode : s.config.auth_mode with
  | None =>
    obtain rfl : Response.syntax_error none = response := by simpa [mode] using refuses
    rfl
  | Always => simp [mode] at refuses
  | RequireTls =>
    rw [mode] at refuses
    split_ifs at refuses with tls
    obtain rfl : BAD_SEQUENCE = response := by simpa using refuses
    have plain : c.is_tls = false := by simpa [Session.view,connected] using tls
    simp [get_connection,bind,EStateM.bind,run_get,connected,plain,pure,EStateM.pure]
    cases reply BAD_SEQUENCE s <;> rfl

omit [Base64] in
/-- A login calls the handler and replies; what is left to do after that adds nothing to
    the trace. -/
theorem login_run (s : Session H Effect) (username password : Text) :
    ∃ (called : Session H Effect) (effects : List Effect) (result : Except Text LoginResult) (response : Response)
      (k : Unit → SessionM H Effect Unit), login username password s = (reply response >>= k) called ∧
      called.trace = s.trace ++ (effects.map .Effect ++ [Event.OnLogin username password result]) ∧
      called.connection = s.connection ∧ (response = AUTH_OK ∨ response = AUTH_FAIL) ∧
      ∀ u t, (final (k u t)).trace = t.trace := by
  let outcome := Handler.on_login s.config.handler username password
  let called : Session H Effect := { s with
    config.handler := outcome.handler
    trace := s.trace ++ (outcome.effects.map .Effect ++ [Event.OnLogin username password outcome.result]) }
  have ran : on_login username password s = .ok outcome.result called := rfl
  cases result : outcome.result with
  | error err =>
    refine ⟨called,outcome.effects,outcome.result,AUTH_FAIL,fun _ => throw .LoginRejected,?_,rfl,rfl,.inr rfl,fun _ _ => rfl⟩
    rw [login,bind_ok ran,result]
  | ok judged =>
    cases judged with
    | Ok =>
      refine ⟨called,outcome.effects,outcome.result,AUTH_OK,
        fun _ => modify fun s => { s with state.is_authenticated := true },?_,rfl,rfl,.inl rfl,fun _ _ => rfl⟩
      rw [login,bind_ok ran,result]
    | Reject =>
      refine ⟨called,outcome.effects,outcome.result,AUTH_FAIL,fun _ => throw .LoginRejected,?_,rfl,rfl,.inr rfl,fun _ _ => rfl⟩
      rw [login,bind_ok ran,result]

/-- A turn that reads a command runs it. -/
theorem turn_reads {command : Command} (phase : s.state.phase ≠ .Data) (sent : s.pending = line ++ rest)
    (complete : IsLine line) (fits : line.length ≤ MAX_LINE_LENGTH) (parsed : Command.parse line = .ok command) :
    ∃ r, Reads s (some line) r ∧ r.pending = rest ∧
      turn s = handle_command command { r with trace := r.trace ++ [Event.Parse line] } := by
  obtain ⟨r,read,did,left⟩ := read_line_complete sent complete fits
  have state : r.state = s.state := congrArg View.state did.2
  exact ⟨r,reads_of read,left,(turn_eq read).trans (handle_line_command (state ▸ phase) parsed)⟩

theorem turn_command {command : Command} (writable : s.Writable n) (phase : s.state.phase ≠ .Data)
    (sent : s.pending = line ++ rest) (complete : IsLine line) (fits : line.length ≤ MAX_LINE_LENGTH)
    (parsed : Command.parse line = .ok command) :
    ∃ r, turn s = handle_command command r ∧ Did s [.Received line,.Parse line] r ∧ r.pending = rest ∧ r.Writable n := by
  obtain ⟨r,reads,left,ran⟩ := turn_reads phase sent complete fits parsed
  have parsing : Did r [.Parse line] { r with trace := r.trace ++ [Event.Parse line] } := ⟨rfl,rfl⟩
  exact ⟨_,ran,reads.did.trans parsing,left,reads.writable n writable⟩

theorem turn_authenticate (writable : s.Writable n) (sent : s.pending = line ++ rest) (complete : IsLine line)
    (fits : line.length ≤ MAX_LINE_LENGTH) (parsed : Command.parse line = .ok (.Authenticate method initial))
    (accepts : s.view.refusal (.ok (.Authenticate method initial)) = none) :
    ∃ r, turn s = (authenticate method initial >>= fun _ => pure Control.Continue) r ∧
      Did s [.Received line,.Parse line] r ∧ r.pending = rest ∧ r.Writable n := by
  have phase : s.state.phase = .Greeted := (authenticate_accepted accepts).1
  obtain ⟨r,ran,did,left,writable'⟩ := turn_command writable (by simp [phase]) sent complete fits parsed
  refine ⟨r,?_,did,left,writable'⟩
  rw [ran]
  show (handle_authenticate method initial >>= fun _ => pure Control.Continue) r = _
  simp only [bind,EStateM.bind,handle_authenticate_accepted writable' (did.2 ▸ accepts)]

end Session
end PostGraph
