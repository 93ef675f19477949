import PostGraph.Text

/-!
SMTP replies: the constant ones, the constructors, and the line that is sent.
-/
namespace PostGraph

/-- SMTP response. A fixed and a custom message are the same text here. -/
structure Response where
  code : Nat
  message : Text
  /-- Is this a continued response ("-" between code and message)? -/
  has_next : Bool
  deriving DecidableEq

namespace Response

def fixed (code : Nat) (message : String) : Response := ⟨code,message.toList,false⟩

def new (code : Nat) (message : Text) : Response := ⟨code,message,false⟩

/-- A response that is continued by another one, e.g. for EHLO. -/
def new_continued (code : Nat) (message : Text) : Response := ⟨code,message,true⟩

def banner (server_name : Text) : Response :=
  new 220 ("2.2.0 ".toList ++ server_name ++ " ESMTP ready".toList)

def syntax_error : Option Text → Response
  | some err => new 500 ("5.5.2 Syntax error: ".toList ++ err)
  | none => new 500 "5.5.2 Syntax error".toList

/-- The same code with an extended message. -/
def extend (self : Response) (extension : Text) : Response :=
  ⟨self.code,self.message ++ ": ".toList ++ extension,self.has_next⟩

def line (self : Response) : Text :=
  let delimiter := if self.message = [] then [] else if self.has_next then ['-'] else [' ']
  decimal self.code ++ delimiter ++ self.message

end Response

def START_TLS : Response := .fixed 220 "2.0.0 Ready to start TLS"
def GOODBYE : Response := .fixed 221 "2.0.0 Goodbye"
def AUTH_OK : Response := .fixed 235 "2.7.0 Authentication succeeded"
def OK : Response := .fixed 250 "2.0.0 OK"
def RESET : Response := .fixed 250 "2.0.0 RESET"
def MAIL_ACCEPTED : Response := .fixed 250 "2.0.0 Mail accepted"
def AUTH_CHALLENGE_PLAIN : Response := .fixed 334 ""
def AUTH_CHALLENGE_LOGIN_USERNAME : Response := .fixed 334 "VXNlcm5hbWU6"
def AUTH_CHALLENGE_LOGIN_PASSWORD : Response := .fixed 334 "UGFzc3dvcmQ6"
def DATA_START : Response := .fixed 354 "3.0.0 Start mail input; end with <CRLF>.<CRLF>"
def MAIL_HANDLER_ERROR : Response := .fixed 451 "4.3.0 Error during mail processing"
def BAD_SEQUENCE : Response := .fixed 503 "5.5.1 Bad sequence of commands"
def AUTH_REQUIRED : Response := .fixed 530 "5.7.0 Authentication required"
def AUTH_FAIL : Response := .fixed 535 "5.7.8 Authentication failed"
def DATA_TOO_LONG : Response := .fixed 552 "5.3.4 Mail size exceeds fixed maximum message size"

@[simp] theorem Response.new_code (code : Nat) (message : Text) : (new code message).code = code := rfl
@[simp] theorem Response.new_continued_code (code : Nat) (message : Text) :
    (new_continued code message).code = code := rfl
@[simp] theorem Response.extend_code (r : Response) (extension : Text) : (r.extend extension).code = r.code := rfl
@[simp] theorem Response.syntax_error_code (err : Option Text) : (syntax_error err).code = 500 := by
  cases err <;> rfl

end PostGraph
