import PostGraph.Text

/-!
The mail object that a session captures.
-/
namespace PostGraph

structure Mail where
  /-- `from`: the sender, as per envelope. -/
  sender : Text
  /-- `to`: the recipients, as per envelope. -/
  recipients : List Text
  data : Bytes
  deriving DecidableEq

/-- `Mail::normalize_address`: trimmed, without the angle brackets, trimmed. -/
def normalize_address (address : Text) : Text :=
  let address := trim address
  let address := strip_prefix ['<'] address |>.getD address
  let address := strip_suffix ['>'] address |>.getD address
  trim address

namespace Mail

def empty : Mail := ⟨[],[],[]⟩

def set_sender (self : Mail) (sender : Text) : Mail := { self with sender := normalize_address sender }

def add_recipient (self : Mail) (recipient : Text) : Mail :=
  { self with recipients := self.recipients ++ [normalize_address recipient] }

def append_data (self : Mail) (data : Bytes) : Mail := { self with data := self.data ++ data }

def data_length (self : Mail) : Nat := self.data.length

end Mail
end PostGraph
