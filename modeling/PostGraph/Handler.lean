import PostGraph.Mail

/-!
The SMTP server's event handler, as sessions see it. A callback is a function
of the handler's state, so a handler that asks the outside world carries the
answers to come in its state; a callback also reports the effects it had.
-/
namespace PostGraph

inductive ConnectResult
  | Ok
  | Reject
  deriving DecidableEq

inductive HelloResult
  | Ok
  | Reject
  deriving DecidableEq

inductive LoginResult
  | Ok
  | Reject
  deriving DecidableEq

/-- What a callback returns: its result or the text of its error, the handler
    afterwards, and its effects in order. -/
structure Called (H Effect α : Type) where
  result : Except Text α
  handler : H
  effects : List Effect

/-- SMTP server event handler: the callbacks of a session. -/
class Handler (H : Type) (Effect : outParam Type) where
  on_hello : H → (domain : Text) → (extended : Bool) → Called H Effect HelloResult
  on_login : H → (username password : Text) → Called H Effect LoginResult
  on_mail : H → Mail → Called H Effect Unit
  on_reset : H → Called H Effect Unit

end PostGraph
