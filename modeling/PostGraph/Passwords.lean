import PostGraph.RequiredLogin
import PostGraph.Settings
import PostGraph.Tasks

/-!
From the tool to the server: which password opens a user's account. The tool hashes a
password and saves it, the server loads the file and verifies what a client sends, so
that every login is decided by the last command that was about the user.
-/
namespace PostGraph
open Programs Registers Runs Traces
set_option autoImplicit false

section
variable [Argon2] {auth : UserAuth} {events later : List (Event ProxyEffect)}

variable [Base64]

end

/-! ### The password that the tool has set -/

section
variable [Argon2]

variable [Yaml]

variable [Rustls] [Base64]

end

section
attribute [local instance] sampleArgon2 Sample.base64 sampleRustls

/-- The file after a user was added, and after insecure authentication was allowed. -/
def sampleAccounts (consent : Bool) : Text :=
  "smtp:\n  address: 127.0.0.1:25\n  allow_insecure_auth: ".toList ++ (if consent then "true".toList else "false".toList) ++
    "\n  auth:\n    a: ".toList ++ sampleHash ++ "\ngraph:\n  tenant_id: ''\n  client_id: ''\n  client_secret: ''\n".toList

def sampleAccount (consent : Bool) : FileDocument where
  smtp := ⟨DEFAULT_SMTP_BIND_ADDRESS,none,none,consent,none,none,AList.insert "a".toList sampleHash ∅⟩
  graph := ⟨[],[],[]⟩

/-- The library on these files. -/
local instance sampleAccountLibrary : Yaml where
  from_str text :=
    if text = sampleAccounts false then some (sampleAccount false).to_value
    else if text = sampleAccounts true then some (sampleAccount true).to_value else none
  to_string tree :=
    match FileDocument.of_value tree with
    | some document => sampleAccounts document.smtp.allow_insecure_auth
    | none => []

end
end PostGraph
