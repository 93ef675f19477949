import PostGraph.Handshake

/-!
What the TLS acceptor gets to read when a connection is upgraded: the bytes that follow the
STARTTLS line, all of them and nothing else, whatever buffers it reads them with.
-/
namespace PostGraph
open Programs Session
set_option autoImplicit false

/-! ### Reading into buffers -/

/-- A read into a buffer with room for `capacity` bytes takes `bytes` of those to come and
    leaves `left`. -/
structure Takes (capacity : Nat) (coming bytes left : Bytes) : Prop where
  split : coming = bytes ++ left
  fits : bytes.length ≤ capacity
  progress : 0 < capacity → coming ≠ [] → bytes ≠ []

theorem takes_take (capacity : Nat) (coming more : Bytes) (some : coming ≠ []) :
    Takes capacity (coming ++ more) (coming.take capacity) (coming.drop capacity ++ more) where
  split := by rw [← List.append_assoc,List.take_append_drop]
  fits := by
    rw [List.length_take]
    exact Nat.min_le_left _ _
  progress := by
    intro room _
    simp [some,Nat.ne_of_gt room]

theorem TcpStream.poll_read_none {self : TcpStream} {capacity : Nat} (failed : self.poll_read capacity = none) :
    arriving self.reads = [] := by
  unfold poll_read at failed
  split at failed
  · simp at failed
  · simp at failed
  · next reads coming => simp [coming,arriving]

theorem TcpStream.poll_read_some {self next : TcpStream} {capacity : Nat} {bytes : Bytes} (proper : Proper self.reads)
    (read : self.poll_read capacity = some (bytes,next)) :
    Takes capacity (arriving self.reads) bytes (arriving next.reads) ∧ Proper next.reads := by
  unfold poll_read at read
  split at read
  · next ended =>
    obtain ⟨rfl,rfl⟩ : [] = bytes ∧ self = next := by simpa using read
    exact ⟨⟨by simp,by simp,by simp [ended,arriving]⟩,proper⟩
  · next content reads coming =>
    obtain ⟨rfl,rfl⟩ : content.take capacity = bytes ∧ _ = next := by simpa using read
    have some : content ≠ [] := by
      rintro rfl
      exact proper (.Data []) (by simp [coming]) rfl
    have later : Proper reads := fun recv member => proper recv (by simp [coming,member])
    have whole : arriving self.reads = content ++ arriving reads := by rw [coming,arriving,if_neg some]
    have takes := takes_take capacity content (arriving reads) some
    rw [whole]
    by_cases fits : content.length ≤ capacity
    · rw [List.drop_eq_nil_of_le fits,List.nil_append] at takes
      simpa only [if_pos fits] using And.intro takes later
    · have left : content.drop capacity ≠ [] := by simpa using fits
      simp only [if_neg fits,arriving,if_neg left]
      refine ⟨takes,fun recv member => ?_⟩
      rcases List.mem_cons.mp member with rfl | member
      · simpa using fits
      · exact later recv member
  · simp at read

namespace PrefixedTcpStream

/-- The bytes that are still to be read. -/
def pending (self : PrefixedTcpStream) : Bytes := self.ahead ++ arriving self.inner.reads

/-- Reads into buffers of the given capacities, up to the first one that fails: the bytes
    read and the stream left. -/
def read_all : List Nat → PrefixedTcpStream → Bytes × PrefixedTcpStream
  | [], self => ([],self)
  | capacity :: capacities, self =>
    match self.poll_read capacity with
    | none => ([],self)
    | some (bytes,next) => (bytes ++ (read_all capacities next).1,(read_all capacities next).2)

variable {self next : PrefixedTcpStream} {capacity : Nat} {bytes : Bytes}

theorem poll_read_none (failed : self.poll_read capacity = none) : self.pending = [] := by
  unfold poll_read at failed
  split_ifs at failed with buffered
  rw [pending,TcpStream.poll_read_none (by simpa using failed)]
  simpa using buffered

/-- A read drains what was read ahead before it gets to the socket. -/
theorem poll_read_some (proper : Proper self.inner.reads) (read : self.poll_read capacity = some (bytes,next)) :
    Takes capacity self.pending bytes next.pending ∧ Proper next.inner.reads := by
  unfold poll_read at read
  split_ifs at read with buffered
  · obtain ⟨rfl,rfl⟩ := by simpa using read
    have takes := takes_take capacity self.ahead (arriving self.inner.reads) buffered
    rw [pending,pending]
    rcases Nat.le_total self.ahead.length capacity with less | more
    · rw [List.take_of_length_le less,List.drop_eq_nil_of_le less] at takes
      simp only [Nat.min_eq_left less,List.take_length,List.drop_length]
      exact ⟨takes,proper⟩
    · simp only [Nat.min_eq_right more]
      exact ⟨takes,proper⟩
  · obtain ⟨⟨content,inner⟩,polled,same⟩ := Option.map_eq_some_iff.mp read
    obtain ⟨rfl,rfl⟩ : content = bytes ∧ _ = next := by simpa using same
    have drained : self.ahead = [] := by simpa using buffered
    simpa [pending,drained] using TcpStream.poll_read_some proper polled

/-- What is read is what was to come, as far as it goes. -/
theorem read_all_pending (proper : Proper self.inner.reads) (capacities : List Nat) :
    (self.read_all capacities).1 ++ (self.read_all capacities).2.pending = self.pending := by
  induction capacities generalizing self with
  | nil => rfl
  | cons capacity capacities ih =>
    rw [read_all]
    cases read : self.poll_read capacity with
    | none => rfl
    | some polled =>
      obtain ⟨takes,proper'⟩ := poll_read_some proper read
      simp only [List.append_assoc,ih proper']
      exact takes.split.symm

/-- Reads that have room bring everything in the end: each one brings a byte at least. -/
theorem read_all_whole (proper : Proper self.inner.reads) {capacities : List Nat} (room : ∀ capacity ∈ capacities, 0 < capacity)
    (enough : self.pending.length ≤ capacities.length) : (self.read_all capacities).1 = self.pending := by
  induction capacities generalizing self with
  | nil =>
    have none : self.pending = [] := by simpa using enough
    rw [none]
    rfl
  | cons capacity capacities ih =>
    rw [read_all]
    cases read : self.poll_read capacity with
    | none => exact (poll_read_none read).symm
    | some polled =>
      obtain ⟨bytes,next⟩ := polled
      obtain ⟨takes,proper'⟩ := poll_read_some proper read
      have fewer : next.pending.length ≤ capacities.length := by
        have lengths := congrArg List.length takes.split
        rw [List.length_append] at lengths
        rw [List.length_cons] at enough
        by_cases none : self.pending = []
        · rw [none,List.length_nil] at lengths
          omega
        · have progress := List.length_pos_of_ne_nil (takes.progress (room capacity (by simp)) none)
          omega
      simp only [ih proper' (fun c member => room c (by simp [member])) fewer]
      exact takes.split.symm

end PrefixedTcpStream

/-! ### STARTTLS -/

section
variable {H Effect : Type} {s : Session H Effect}

theorem handle_start_tls_accepted (accepts : s.view.refusal (.ok .StartTls) = none) :
    handle_start_tls s = (do
      reply START_TLS
      upgrade
      modify fun s => { s with state := .new } : SessionM H Effect Unit) s := by
  obtain ⟨phase,supported⟩ := start_tls_accepted accepts
  have here : s.state.in_phase .Greeted = true := by simpa [SessionState.in_phase] using phase
  cases connected : s.connection with
  | none => simp [Session.view,connected] at supported
  | some c =>
    have supports : c.supports_tls = true := by simpa [Session.view,connected] using supported
    simp only [handle_start_tls,Session.supports_tls,get_connection,bind,EStateM.bind,run_get,connected,pure,EStateM.pure,supports,here,Bool.not_true,Bool.false_eq_true,if_false]

variable {stream : BufReader} {acceptor : TlsAcceptor}

/-- The reply, and then the handshake on the stream whose first bytes are those that were
    read ahead. -/
theorem handle_start_tls_upgrades (connected : s.connection = some (.Plain stream (some acceptor)))
    (phase : s.state.phase = .Greeted) :
    handle_start_tls s = .error .Io s ∨ ∃ stream' t, stream'.pending = stream.pending ∧
      stream'.inner.reads = stream.inner.reads ∧ Did s [.Reply START_TLS] t ∧
      handle_start_tls s = match acceptor.accept (.from_existing stream') with
        | none => .error .Io { t with connection := none }
        | some decrypted => .ok () { t with
            connection := some (.new_tls decrypted), state := .new, trace := t.trace ++ [Event.TlsStarted] } := by
  have accepts : s.view.refusal (.ok .StartTls) = none := by
    simp [View.refusal,Session.view,connected,phase,Connection.supports_tls]
  have replied := reply_eq connected START_TLS
  rw [handle_start_tls_accepted accepts]
  cases wrote : stream.write_all (reply_bytes START_TLS) with
  | none =>
    have failed : Connection.write_all (.Plain stream (some acceptor)) (reply_bytes START_TLS) = none := by
      simp [Connection.write_all,Connection.stream,wrote]
    rw [failed] at replied
    exact .inl (bind_error replied)
  | some stream' =>
    have written : Connection.write_all (.Plain stream (some acceptor)) (reply_bytes START_TLS) =
        some (.Plain stream' (some acceptor)) := by
      simp [Connection.write_all,Connection.stream,wrote,Connection.with_stream]
    have same := BufReader.write_all_keeps wrote
    have did := reply_run s START_TLS
    rw [written] at replied
    rw [replied] at did
    refine .inr ⟨stream',_,by simp only [BufReader.pending,same],same.2,did.1,?_⟩
    rw [bind_ok replied]
    simp only [bind,EStateM.bind]
    rw [upgrade_eq (c := .Plain stream' (some acceptor)) rfl]
    simp only [Connection.start_tls,Option.bind_eq_bind,Option.bind_some]
    cases acceptor.accept (.from_existing stream') <;> rfl

/-- Reads bring these bytes in order, whatever their buffers have room for, and all of them
    as soon as there were enough reads. -/
def Delivers (p : PrefixedTcpStream) (bytes : Bytes) : Prop :=
  ∀ capacities, (p.read_all capacities).1 ++ (p.read_all capacities).2.pending = bytes ∧
    ((∀ capacity ∈ capacities, 0 < capacity) → bytes.length ≤ capacities.length → (p.read_all capacities).1 = bytes)

variable [Base64] [Handler H Effect]

/-- The acceptor reads what the client has sent behind the line, however it was cut and
    as much of it as was read ahead, and the session goes on from its beginning with the
    decrypted stream alone. If the reply cannot be written there is no handshake. -/
theorem starttls_keeps_bytes (s : Session H Effect) (stream : BufReader) (acceptor : TlsAcceptor) (line behind : Bytes)
    (connected : s.connection = some (.Plain stream (some acceptor))) (proper : PostGraph.Proper stream.inner.reads)
    (phase : s.state.phase = .Greeted) (sent : stream.pending = line ++ behind) (complete : IsLine line)
    (fits : line.length ≤ MAX_LINE_LENGTH) (parsed : Command.parse line = .ok .StartTls) :
    (∃ t, turn s = .error .Io t ∧ Did s [.Received line,.Parse line] t) ∨
    ∃ p t, Delivers p behind ∧ Did s [.Received line,.Parse line,.Reply START_TLS] t ∧
      turn s = match acceptor.accept p with
        | none => .error .Io { t with connection := none }
        | some decrypted => .ok .Continue { t with
            connection := some (.Tls ⟨[],decrypted⟩), state := .new, trace := t.trace ++ [Event.TlsStarted] } := by
  have coming : s.pending = line ++ behind := by rw [Session.pending,connected]; exact sent
  obtain ⟨r,reads,left,turned⟩ := turn_reads (by simp [phase]) coming complete fits parsed
  obtain ⟨stream',connected'⟩ := reads.connection _ connected
  have phase' : r.state.phase = .Greeted := by rw [← phase,show r.state = s.state from congrArg View.state reads.did.2]
  have proper' : PostGraph.Proper stream'.inner.reads := by
    have kept := reads.proper (by simpa [Session.Proper,Session.incoming,connected,Connection.stream] using proper)
    simpa [Session.Proper,Session.incoming,connected'] using kept
  have behind' : stream'.pending = behind := by rw [← left,Session.pending,connected']; rfl
  have parsing : Did s [.Received line,.Parse line] { r with trace := r.trace ++ [Event.Parse line] } :=
    reads.did.trans ⟨rfl,rfl⟩
  have upgraded := handle_start_tls_upgrades (s := { r with trace := r.trace ++ [Event.Parse line] }) connected' phase'
  rcases upgraded with failed | ⟨stream'',t,pending,inner,did,ran⟩
  · exact .inl ⟨_,turned.trans (bind_error failed),parsing⟩
  · refine .inr ⟨.from_existing stream'',t,?_,parsing.trans did,?_⟩
    · have later : PrefixedTcpStream.pending (.from_existing stream'') = behind := pending.trans behind'
      have properly : PostGraph.Proper (PrefixedTcpStream.from_existing stream'').inner.reads := by
        rw [PrefixedTcpStream.from_existing,inner]
        exact proper'
      intro capacities
      rw [← later]
      exact ⟨PrefixedTcpStream.read_all_pending properly capacities,PrefixedTcpStream.read_all_whole properly⟩
    · rw [turned]
      show (handle_start_tls >>= fun _ => pure Control.Continue) _ = _
      simp only [bind,EStateM.bind,ran]
      cases acceptor.accept (.from_existing stream'') <;> rfl

end

section
attribute [local instance] Sample.argon2 Sample.base64

/-- A client that sends its hello behind STARTTLS, in part with the same packet. -/
def sampleAhead : BufReader := .new ⟨[.Data (ascii "STARTTLS\r\n\x16\x03"),.Data (ascii "\x01")],[]⟩

/-- An acceptor that takes the hello with reads of one byte. -/
def sampleAcceptor : TlsAcceptor where
  accept p := if (p.read_all [1,1,1]).1 = ascii "\x16\x03\x01" then some (Sample.sends "EHLO x\r\n") else none

def sampleUpgrader : Session ProxyHandler ProxyEffect :=
  { Session.new (.Plain sampleAhead (some sampleAcceptor)) (Sample.config .RequireTls) with state.phase := .Greeted }

theorem starttls_keeps_bytes_sample :
    ∃ p, Delivers p (ascii "\x16\x03\x01") ∧ (sampleAcceptor.accept p).isSome = true := by
  have goesOn : value (turn sampleUpgrader) = some .Continue := by decide +kernel
  rcases starttls_keeps_bytes sampleUpgrader sampleAhead sampleAcceptor (ascii "STARTTLS\r\n") (ascii "\x16\x03\x01") rfl
    (by unfold Proper; decide) rfl (by decide) ⟨ascii "STARTTLS\r",by decide,by decide⟩ (by decide) (by decide) with
    ⟨t,failed,-⟩ | ⟨p,t,delivers,-,-⟩
  · rw [failed] at goesOn
    simp [value] at goesOn
  · have whole := (delivers [1,1,1]).2 (by decide) (by decide)
    exact ⟨p,delivers,by simp [sampleAcceptor,whole]⟩

end

end PostGraph
