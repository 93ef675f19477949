import PostGraph.Connection

/-!
SMTP server and session configuration, and the TLS acceptor made from files.
-/
namespace PostGraph

inductive AuthMode
  | None
  | Always
  | RequireTls
  deriving DecidableEq

def DEFAULT_MAX_MESSAGE_SIZE : Nat := 10 * 1024 * 1024

structure SessionConfig (H : Type) where
  handler : H
  server_name : Text
  auth_mode : AuthMode
  max_message_size : Nat

def SessionConfig.has_auth {H : Type} (self : SessionConfig H) : Bool := self.auth_mode ≠ .None

structure Config (H : Type) where
  address : Text
  tls : Option TlsAcceptor
  session_config : SessionConfig H

inductive TlsConfig
  | Chain (certificates : List Text) (private_key : Text)
  | Custom (acceptor : TlsAcceptor)

/-- The certificate files as `rustls_pemfile` reads them and the acceptor that
    `rustls` makes of them; each step may fail. -/
class Rustls where
  read_certs : Text → Option (List Bytes)
  read_key : Text → Option Bytes
  with_single_cert : List Bytes → Bytes → Option TlsAcceptor

def TlsConfig.into_tls_acceptor [Rustls] : TlsConfig → Option TlsAcceptor
  | Custom acceptor => some acceptor
  | Chain certificates private_key => do
    let certs ← certificates.mapM Rustls.read_certs
    let key ← Rustls.read_key private_key
    Rustls.with_single_cert certs.flatten key

namespace Config
variable {H : Type}

def new (handler : H) : Config H where
  address := "0.0.0.0:25".toList
  tls := none
  session_config :=
    { handler := handler, server_name := "localhost".toList, auth_mode := .None,
      max_message_size := DEFAULT_MAX_MESSAGE_SIZE }

def with_address (self : Config H) (address : Text) : Config H := { self with address := address }

def with_server_name (self : Config H) (server_name : Text) : Config H :=
  { self with session_config.server_name := server_name }

def with_auth (self : Config H) (auth_mode : AuthMode) : Config H :=
  { self with session_config.auth_mode := auth_mode }

def with_max_message_size (self : Config H) (max_message_size : Nat) : Config H :=
  { self with session_config.max_message_size := max_message_size }

def with_tls [Rustls] (self : Config H) (tls_config : TlsConfig) : Option (Config H) := do
  let acceptor ← tls_config.into_tls_acceptor
  return { self with tls := some acceptor }

end Config
end PostGraph
