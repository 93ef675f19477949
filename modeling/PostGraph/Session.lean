import PostGraph.Command
import PostGraph.Config
import PostGraph.Handler
import PostGraph.Response
import PostGraph.Lib.Programs

/-!
SMTP session keeping and handling: `Session::handle` and what it calls. A
session is a program over its state that may fail with an error, which closes
the connection. Next to the state it keeps a trace of what it did.
-/
namespace PostGraph

/-- Maximum length of a single SMTP line, including CRLF. -/
def MAX_LINE_LENGTH : Nat := 1500

inductive AuthHandshakeResult
  | Ok (username password : Text)
  | SyntaxError (description : Text)

inductive HandleDataResult
  | Continue
  | DataEnd
  | DataTooLong

inductive Phase
  /-- Before HELO. -/
  | Connected
  /-- After HELO until MAIL FROM. -/
  | Greeted
  /-- After MAIL FROM, during RCPT TO, until DATA. -/
  | Envelope
  /-- After DATA, during capture, until ".". -/
  | Data
  deriving DecidableEq

structure SessionState where
  phase : Phase
  is_authenticated : Bool
  /-- Mail object currently being captured, if any. -/
  current_mail : Mail
  deriving DecidableEq

def SessionState.new : SessionState := ⟨.Connected,false,.empty⟩

/-- What a session did, in order. -/
inductive Event (Effect : Type)
  | Received (line : Bytes)
  /-- A line was handed to `Command::parse`. -/
  | Parse (line : Bytes)
  | Reply (response : Response)
  /-- A callback had an effect. -/
  | Effect (effect : Effect)
  /-- A callback returned. -/
  | OnHello (domain : Text) (extended : Bool) (result : Except Text HelloResult)
  | OnLogin (username password : Text) (result : Except Text LoginResult)
  | OnMail (mail : Mail) (result : Except Text Unit)
  | OnReset (result : Except Text Unit)
  | TlsStarted
  deriving DecidableEq

/-- Why a session ended with an error. -/
inductive SessionError
  /-- "unexpected EOF" -/
  | UnexpectedEof
  /-- "unexpected EOF in SMTP line read" -/
  | UnexpectedEofInLine
  /-- "SMTP line is too long" -/
  | LineTooLong
  /-- "message data was too long." -/
  | DataTooLong
  /-- "client rejected during hello" -/
  | HelloRejected
  /-- "client rejected during login" -/
  | LoginRejected
  /-- "base64 decode error" -/
  | Base64
  /-- "connection was not valid" -/
  | NoConnection
  /-- A read, a write or the TLS handshake failed, or its timeout elapsed. -/
  | Io
  deriving DecidableEq

structure Session (H Effect : Type) where
  connection : Option Connection
  config : SessionConfig H
  state : SessionState
  trace : List (Event Effect)

/-- Whether `handle` goes on to the next line or returns. -/
inductive Control
  | Continue
  | Return
  deriving DecidableEq

abbrev SessionM (H Effect α : Type) := EStateM SessionError (Session H Effect) α

namespace SessionState

def in_phase (self : SessionState) (phase : Phase) : Bool := self.phase = phase

end SessionState

namespace Session
variable {H Effect : Type}

def new (connection : Connection) (config : SessionConfig H) : Session H Effect :=
  ⟨some connection,config,.new,[]⟩

def is_authenticated (self : Session H Effect) : Bool :=
  if self.config.has_auth then self.state.is_authenticated else true

/-- Remember what was done. -/
def log (events : List (Event Effect)) : SessionM H Effect Unit :=
  modify fun s => { s with trace := s.trace ++ events }

def get_connection : SessionM H Effect Connection := do
  match (← get).connection with
  | some connection => return connection
  | none => throw .NoConnection

def supports_tls : SessionM H Effect Bool := do
  return (← get_connection).supports_tls

/-- The bytes that `reply` writes for a response. -/
def reply_bytes (response : Response) : Bytes := Utf8.encode response.line ++ CRLF

def reply (response : Response) : SessionM H Effect Unit := do
  let connection ← get_connection
  match connection.write_all (reply_bytes response) with
  | some connection =>
    modify fun s => { s with connection := some connection }
    log [.Reply response]
  | none => throw .Io

/-- The loop of `read_line`, which accumulates the line over the buffers that
    the stream fills. The first argument bounds the number of buffers. -/
def read_line_loop : Nat → Bytes → BufReader → Except SessionError (Option Bytes) × BufReader
  | 0, _, reader => (.error .Io,reader)
  | fuel + 1, line, reader =>
    match reader.fill_buf with
    | none => (.error .Io,reader)
    | some (buf,reader) =>
      if buf = [] then (if line = [] then .ok none else .error .UnexpectedEofInLine,reader)
      else
        -- append all up until newline, or whole buffer if no newline
        let n := match memchr LF buf with
          | some n => n + 1
          | none => buf.length
        if line.length + n > MAX_LINE_LENGTH then (.error .LineTooLong,reader)
        else
          let line := line ++ buf.take n
          let reader := reader.consume n
          if line.getLast? = some LF then (.ok (some line),reader) else read_line_loop fuel line reader

/-- Read a line from the client; the result includes the line end. Every buffer
    but the first takes a read, and end of file one more. -/
def read_line : SessionM H Effect (Option Bytes) := do
  let connection ← get_connection
  let reader := connection.stream
  let (line,reader) := read_line_loop (reader.inner.reads.length + 2) [] reader
  modify fun s => { s with connection := some (connection.with_stream reader) }
  match line with
  | .ok (some line) =>
    log [.Received line]
    return some line
  | .ok none => return none
  | .error err => throw err

section
variable [Base64]

/-- Decode base64 data, without its line end and surrounding blanks. -/
def decode_base64 (input : Bytes) : Option Bytes :=
  Base64.decode (trim_ascii (strip_line_end input))

def handle_auth (method : AuthMethod) (initial : Option Bytes) : SessionM H Effect AuthHandshakeResult := do
  match method with
  | .Plain =>
    let credentials ← match initial with
      | some c => pure (some c)
      | none =>
        reply AUTH_CHALLENGE_PLAIN
        read_line
    let some credentials := credentials
      | return .SyntaxError "unexpected EOF in AUTH PLAIN challenge".toList
    let some credentials := decode_base64 credentials
      | return .SyntaxError "invalid base64 data".toList
    match credentials.splitOn 0 with
    | [_,username,password] => return .Ok (from_utf8_lossy username) (from_utf8_lossy password)
    | _ => return .SyntaxError "invalid number of parts in PLAIN credential payload".toList
  | .Login =>
    let username ← match initial with
      | some usr => pure (some usr)
      | none =>
        reply AUTH_CHALLENGE_LOGIN_USERNAME
        read_line
    let some username := username
      | return .SyntaxError "unexpected EOF in AUTH LOGIN challenge".toList
    let some username := decode_base64 username
      | throw .Base64
    -- password always via challenge
    reply AUTH_CHALLENGE_LOGIN_PASSWORD
    let some password ← read_line
      | return .SyntaxError "unexpected EOF in AUTH LOGIN challenge".toList
    let some password := decode_base64 password
      | throw .Base64
    return .Ok (from_utf8_lossy username) (from_utf8_lossy password)

end

/-- `line == b".\r\n" || line == b".\n"` -/
def is_data_end (line : Bytes) : Bool := line = DOT :: CRLF || line = [DOT,LF]

/-- Dot transparency: "..\r\n" is ".\r\n". -/
def unstuff (line : Bytes) : Bytes := if [DOT,DOT] <+: line then line.drop 1 else line

def handle_data (line : Bytes) : SessionM H Effect HandleDataResult := do
  if is_data_end line then return .DataEnd
  let line := unstuff line
  let s ← get
  if s.state.current_mail.data_length + line.length > s.config.max_message_size then
    reply DATA_TOO_LONG
    return .DataTooLong
  modify fun s => { s with state.current_mail := s.state.current_mail.append_data line }
  return .Continue

section
variable [Handler H Effect]

/-- Take over the handler a callback leaves and remember the call. -/
def called {α : Type} (call : H → Called H Effect α) (event : Except Text α → Event Effect) :
    SessionM H Effect (Except Text α) := do
  let s ← get
  let outcome := call s.config.handler
  set { s with config.handler := outcome.handler }
  log (outcome.effects.map .Effect ++ [event outcome.result])
  return outcome.result

def on_hello (domain : Text) (extended : Bool) : SessionM H Effect (Except Text HelloResult) :=
  called (fun h => Handler.on_hello h domain extended) (.OnHello domain extended)

def on_login (username password : Text) : SessionM H Effect (Except Text LoginResult) :=
  called (fun h => Handler.on_login h username password) (.OnLogin username password)

def on_mail (mail : Mail) : SessionM H Effect (Except Text Unit) :=
  called (fun h => Handler.on_mail h mail) (.OnMail mail)

def on_reset : SessionM H Effect (Except Text Unit) := called Handler.on_reset .OnReset

def handle_data_line (line : Bytes) : SessionM H Effect Unit := do
  match ← handle_data line with
  | .Continue => pure ()
  | .DataEnd =>
    match ← on_mail (← get).state.current_mail with
    | .error err => reply (MAIL_HANDLER_ERROR.extend err)
    | .ok () => reply MAIL_ACCEPTED
    -- reset only mail data, state remains to accept potential second mail
    modify fun s => { s with state.current_mail := .empty, state.phase := .Greeted }
  | .DataTooLong => throw .DataTooLong

def reply_features : List Text → SessionM H Effect Unit
  | [] => pure ()
  | [feature] => reply (.new 250 feature)
  | feature :: features => do
    reply (.new_continued 250 feature)
    reply_features features

def reply_hello (extended : Bool) : SessionM H Effect Unit := do
  let s ← get
  if extended then
    reply (.new_continued 250 s.config.server_name)
    let tls ← supports_tls
    let features := ["8BITMIME".toList] ++ (if tls then ["STARTTLS".toList] else []) ++
      (if s.config.has_auth then ["AUTH PLAIN LOGIN".toList] else []) ++
      ["SIZE ".toList ++ decimal s.config.max_message_size]
    reply_features features
  else
    reply (.new 250 s.config.server_name)

/-! ### The commands, one program for each arm of `Session::handle` -/

def handle_hello (domain : Text) (extended : Bool) : SessionM H Effect Unit := do
  if !(← get).state.in_phase .Connected then
    reply BAD_SEQUENCE
    return
  match ← on_hello domain extended with
  | .ok .Ok => pure ()
  | .ok .Reject | .error _ => throw .HelloRejected
  reply_hello extended
  modify fun s => { s with state.phase := .Greeted }

def handle_help : SessionM H Effect Unit := do
  reply (.new_continued 250 "Commands supported".toList)
  let s ← get
  let tls ← supports_tls
  let commands := ["HELO","EHLO","HELP","MAIL","RCPT","DATA","RSET","NOOP","QUIT"] ++
    (if s.config.has_auth then ["AUTH"] else []) ++ (if tls then ["STARTTLS"] else [])
  reply (.new 214 (" ".intercalate commands).toList)

/-- Take the connection, upgrade it and put it back. -/
def upgrade : SessionM H Effect Unit := do
  let connection ← get_connection
  modify fun s => { s with connection := none }
  match connection.start_tls with
  | none => throw .Io
  | some connection =>
    log [.TlsStarted]
    modify fun s => { s with connection := some connection }

def handle_start_tls : SessionM H Effect Unit := do
  if !(← supports_tls) then
    reply (.syntax_error (some "TLS not supported".toList))
    return
  if !(← get).state.in_phase .Greeted then
    reply BAD_SEQUENCE
    return
  reply START_TLS
  upgrade
  -- reset state after TLS upgrade
  modify fun s => { s with state := .new }

/-- The login with the credentials of an AUTH handshake. -/
def login (username password : Text) : SessionM H Effect Unit := do
  match ← on_login username password with
  | .ok .Ok =>
    reply AUTH_OK
    modify fun s => { s with state.is_authenticated := true }
  | .ok .Reject | .error _ =>
    reply AUTH_FAIL
    throw .LoginRejected

def authenticate [Base64] (method : AuthMethod) (initial : Option Bytes) : SessionM H Effect Unit := do
  match ← handle_auth method initial with
  | .Ok username password => login username password
  | .SyntaxError err => reply (.syntax_error (some err))

def handle_authenticate [Base64] (method : AuthMethod) (initial : Option Bytes) : SessionM H Effect Unit := do
  let s ← get
  if !s.state.in_phase .Greeted then
    reply BAD_SEQUENCE
    return
  match s.config.auth_mode with
  | .None => reply (.syntax_error none)
  | .RequireTls =>
    if !(← get_connection).is_tls then
      reply BAD_SEQUENCE
      return
    authenticate method initial
  | .Always => authenticate method initial

def handle_mail (sender : Text) : SessionM H Effect Unit := do
  let s ← get
  if !s.state.in_phase .Greeted then
    reply BAD_SEQUENCE
    return
  if !s.is_authenticated then
    reply AUTH_REQUIRED
    return
  modify fun s => { s with state.current_mail := Mail.empty.set_sender sender, state.phase := .Envelope }
  reply OK

def handle_recipient (recipient : Text) : SessionM H Effect Unit := do
  let s ← get
  if !s.state.in_phase .Envelope then
    reply BAD_SEQUENCE
    return
  if !s.is_authenticated then
    reply AUTH_REQUIRED
    return
  modify fun s => { s with state.current_mail := s.state.current_mail.add_recipient recipient }
  reply OK

def handle_data_command : SessionM H Effect Unit := do
  let s ← get
  if !s.state.in_phase .Envelope then
    reply BAD_SEQUENCE
    return
  if !s.is_authenticated then
    reply AUTH_REQUIRED
    return
  modify fun s => { s with state.phase := .Data }
  reply DATA_START

def handle_reset : SessionM H Effect Unit := do
  modify fun s => { s with state := .new }
  reply RESET
  let _ ← on_reset

/-- The commands of `Session::handle`. -/
def handle_command [Base64] (command : Command) : SessionM H Effect Control := do
  match command with
  | .Hello domain extended => handle_hello domain extended
  | .Help => handle_help
  | .StartTls => handle_start_tls
  | .Authenticate method initial => handle_authenticate method initial
  | .Mail sender => handle_mail sender
  | .Recipient recipient => handle_recipient recipient
  | .Data => handle_data_command
  | .Reset => handle_reset
  | .NoOp => reply OK
  | .Quit =>
    reply GOODBYE
    return .Return
  return .Continue

/-- `Session::handle` on a line that was read. -/
def handle_line [Base64] (line : Bytes) : SessionM H Effect Control := do
  if (← get).state.in_phase .Data then
    handle_data_line line
    return .Continue
  log [.Parse line]
  match Command.parse line with
  | .ok command => handle_command command
  | .error err =>
    reply (.syntax_error (some err))
    return .Continue

/-- One turn of the loop of `Session::handle`. -/
def turn [Base64] : SessionM H Effect Control := do
  match ← read_line with
  | some line => handle_line line
  | none => throw .UnexpectedEof

/-- The loop of `Session::handle`, watched for `n` turns: `none` while it still
    runs. -/
def loop [Base64] : Nat → SessionM H Effect (Option Unit)
  | 0 => return none
  | n + 1 => do
    match ← turn with
    | .Continue => loop n
    | .Return => return some ()

/-- `Session::handle`, watched for `n` turns of its loop. -/
def handle [Base64] (n : Nat) : SessionM H Effect (Option Unit) := do
  reply (.banner (← get).config.server_name)
  loop n

end
end Session
end PostGraph
