import PostGraph.Text

/-!
The connection to an SMTP client. A stream is given by what its peer and the
network do to it: the results of the reads to come, and whether each write to
come succeeds. A failing read or write stands for an I/O error, for an elapsed
timeout, and for a session that is dropped while it waits there.
-/
namespace PostGraph

inductive Recv
  | Data (bytes : Bytes)
  | Fail
  deriving DecidableEq

/-- A byte stream from and to the client (`TcpStream`, `TlsStream`). Once the
    reads are used up the peer has closed it; once the write results are used
    up every write succeeds. -/
structure TcpStream where
  reads : List Recv
  writes : List Bool
  deriving DecidableEq

structure BufReader where
  buffer : Bytes
  inner : TcpStream
  deriving DecidableEq

/-- TCP stream wrapper that replays bytes read ahead first. -/
structure PrefixedTcpStream where
  ahead : Bytes
  inner : TcpStream

/-- `PrefixedTcpStream::from_existing`: the bytes buffered already come first. -/
def PrefixedTcpStream.from_existing (reader : BufReader) : PrefixedTcpStream :=
  ⟨reader.buffer,reader.inner⟩

/-- `poll_read` into a buffer that has room for `capacity` bytes. What has arrived and
    does not fit stays in the socket. -/
def TcpStream.poll_read (self : TcpStream) (capacity : Nat) : Option (Bytes × TcpStream) :=
  match self.reads with
  | [] => some ([],self)
  | .Data bytes :: reads =>
    let left := if bytes.length ≤ capacity then reads else .Data (bytes.drop capacity) :: reads
    some (bytes.take capacity,{ self with reads := left })
  | .Fail :: _ => none

def PrefixedTcpStream.poll_read (self : PrefixedTcpStream) (capacity : Nat) : Option (Bytes × PrefixedTcpStream) :=
  if self.ahead ≠ [] then
    let n := min self.ahead.length capacity
    some (self.ahead.take n,{ self with ahead := self.ahead.drop n })
  else (self.inner.poll_read capacity).map fun (bytes,inner) => (bytes,{ self with inner := inner })

/-- `tokio_rustls::TlsAcceptor`, by what its handshake on a stream yields: the
    decrypted stream, or nothing when it fails. -/
structure TlsAcceptor where
  accept : PrefixedTcpStream → Option TcpStream

inductive Connection
  /-- Plain TCP connection, and the acceptor for StartTLS if there is one. -/
  | Plain (stream : BufReader) (tls : Option TlsAcceptor)
  | Tls (stream : BufReader)

namespace BufReader

def new (stream : TcpStream) : BufReader := ⟨[],stream⟩

/-- `fill_buf`: the buffered bytes, after a read if there are none; nothing on
    end of file. The failure of a read is `none`. -/
def fill_buf (self : BufReader) : Option (Bytes × BufReader) :=
  if self.buffer ≠ [] then some (self.buffer,self)
  else match self.inner.reads with
    | [] => some ([],self)
    | .Data bytes :: reads => some (bytes,⟨bytes,{ self.inner with reads := reads }⟩)
    | .Fail :: _ => none

def consume (self : BufReader) (len : Nat) : BufReader := { self with buffer := self.buffer.drop len }

/-- `write_all` and `flush`. -/
def write_all (self : BufReader) (_data : Bytes) : Option BufReader :=
  match self.inner.writes with
  | [] => some self
  | true :: writes => some { self with inner.writes := writes }
  | false :: _ => none

end BufReader

namespace Connection

def new_plain (stream : TcpStream) (tls : Option TlsAcceptor) : Connection := .Plain (.new stream) tls

def new_tls (stream : TcpStream) : Connection := .Tls (.new stream)

def stream : Connection → BufReader
  | Plain stream _ => stream
  | Tls stream => stream

def with_stream : Connection → BufReader → Connection
  | Plain _ tls, stream => Plain stream tls
  | Tls _, stream => Tls stream

def write_all (self : Connection) (data : Bytes) : Option Connection :=
  (self.stream.write_all data).map self.with_stream

/-- Upgrade to TLS. The bytes read ahead go to the TLS acceptor. -/
def start_tls : Connection → Option Connection
  | Plain stream tls => do
    let tls ← tls
    let stream := PrefixedTcpStream.from_existing stream
    let stream ← tls.accept stream
    return new_tls stream
  | Tls _ => none

def supports_tls : Connection → Bool
  | Plain _ tls => tls.isSome
  | Tls _ => false

def is_tls : Connection → Bool
  | Plain _ _ => false
  | Tls _ => true

@[simp] theorem supports_tls_with_stream (c : Connection) (s : BufReader) :
    (c.with_stream s).supports_tls = c.supports_tls := by cases c <;> rfl

@[simp] theorem is_tls_with_stream (c : Connection) (s : BufReader) : (c.with_stream s).is_tls = c.is_tls := by
  cases c <;> rfl

@[simp] theorem stream_with_stream (c : Connection) (s : BufReader) : (c.with_stream s).stream = s := by
  cases c <;> rfl

/-- An upgrade ends on a TLS connection, which cannot be upgraded again. -/
theorem start_tls_tls {c c' : Connection} (upgraded : c.start_tls = some c') :
    c'.is_tls = true ∧ c'.supports_tls = false := by
  cases c with
  | Tls _ => simp [start_tls] at upgraded
  | Plain s tls =>
    simp only [start_tls,Option.bind_eq_bind,Option.bind_eq_some_iff] at upgraded
    obtain ⟨acceptor,-,stream,-,made⟩ := upgraded
    obtain rfl : new_tls stream = c' := by simpa using made
    exact ⟨rfl,rfl⟩

end Connection
end PostGraph
