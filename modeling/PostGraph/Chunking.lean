import PostGraph.Alike
import PostGraph.Proxy

/-!
How the network cuts the client's bytes into buffers makes no difference to a session
that is not upgraded: it reads the same lines, sends the same replies and makes the
same calls, and ends the same way.
-/
namespace PostGraph
open Programs Couplings Session
set_option autoImplicit false

/-- Connections on which reading and writing go alike. They may part when they are
    upgraded, where `parts` says so. -/
structure Peers (C : Connection → Connection → Prop) (parts : Prop) : Prop where
  tls : ∀ c d, C c d → c.supports_tls = d.supports_tls ∧ c.is_tls = d.is_tls
  write_all : ∀ c d bytes, C c d → Option.Rel C (c.write_all bytes) (d.write_all bytes)
  read : ∀ c d result result' reader reader', C c d →
    read_line_loop (c.stream.inner.reads.length + 2) [] c.stream = (result,reader) →
    read_line_loop (d.stream.inner.reads.length + 2) [] d.stream = (result',reader') →
    result = result' ∧ ∀ line, result = .ok line → C (c.with_stream reader) (d.with_stream reader')
  start_tls : ∀ c d, C c d → parts ∨ Option.Rel C c.start_tls d.start_tls

section
variable {H Effect : Type} {C : Connection → Connection → Prop} {parts : Prop} {s t : Session H Effect}

/-- The sessions have done alike since their traces were `a` and `b`. -/
structure Parted (a b : List (Event Effect)) (s t : Session H Effect) : Prop where
  config : s.config = t.config
  state : s.state = t.state
  trace : ∃ w, s.trace = a ++ w ∧ t.trace = b ++ w

/-- They go on alike, on connections that `C` relates. -/
structure Linked (C : Connection → Connection → Prop) (a b : List (Event Effect)) (s t : Session H Effect) : Prop
    extends Parted a b s t where
  connection : Option.Rel C s.connection t.connection

/-- Since the trace was `a` the connection was upgraded. -/
def Upgrades (parts : Prop) (a trace : List (Event Effect)) : Prop := parts ∧ ∃ w, trace = a ++ w ∧ .TlsStarted ∈ w

variable {a b : List (Event Effect)}

theorem Parted.did (parted : Parted a b s t) (c d : Option Connection) (events : List (Event Effect)) :
    Parted a b { s with connection := c, trace := s.trace ++ events }
      { t with connection := d, trace := t.trace ++ events } := by
  obtain ⟨w,left,right⟩ := parted.trace
  exact ⟨parted.config,parted.state,w ++ events,by simp [left],by simp [right]⟩

theorem rel_cases {α β : Type} {r : α → β → Prop} {x : Option α} {y : Option β} (related : Option.Rel r x y) :
    (x = none ∧ y = none) ∨ ∃ a b, x = some a ∧ y = some b ∧ r a b := by
  cases related with
  | none => exact .inl ⟨rfl,rfl⟩
  | some related => exact .inr ⟨_,_,rfl,rfl,related⟩

theorem linked_view (peers : Peers C parts) (linked : Linked C a b s t) : s.view = t.view := by
  unfold Session.view
  rw [linked.config,linked.state]
  rcases rel_cases linked.connection with ⟨left,right⟩ | ⟨c,d,left,right,related⟩
  · rw [left,right]
  · rw [left,right]
    simp [peers.tls c d related]

theorem linked_reply (peers : Peers C parts) (response : Response) :
    Alike (Linked C a b) (Parted a b) (reply response : SessionM H Effect Unit) := by
  intro s t linked
  rcases rel_cases linked.connection with ⟨left,right⟩ | ⟨c,d,left,right,related⟩
  · rw [reply_unconnected left,reply_unconnected right]
    exact ⟨rfl,linked.toParted⟩
  · rw [reply_eq left,reply_eq right]
    rcases rel_cases (peers.write_all c d (reply_bytes response) related) with ⟨one,other⟩ | ⟨_,_,one,other,related'⟩
    · rw [one,other]
      exact ⟨rfl,linked.toParted⟩
    · rw [one,other]
      exact ⟨rfl,linked.did _ _ _,.some related'⟩

theorem linked_read_line (peers : Peers C parts) :
    Alike (Linked C a b) (Parted a b) (read_line : SessionM H Effect (Option Bytes)) := by
  intro s t linked
  rcases rel_cases linked.connection with ⟨left,right⟩ | ⟨c,d,left,right,related⟩
  · rw [read_line_unconnected left,read_line_unconnected right]
    exact ⟨rfl,linked.toParted⟩
  · obtain ⟨result,reader,ran⟩ : ∃ result reader,
        read_line_loop (c.stream.inner.reads.length + 2) [] c.stream = (result,reader) := ⟨_,_,rfl⟩
    obtain ⟨result',reader',ran'⟩ : ∃ result reader,
        read_line_loop (d.stream.inner.reads.length + 2) [] d.stream = (result,reader) := ⟨_,_,rfl⟩
    obtain ⟨rfl,kept⟩ := peers.read c d result result' reader reader' related ran ran'
    rw [read_line_eq left ran,read_line_eq right ran']
    cases result with
    | error err => exact ⟨rfl,by simpa using linked.did (some _) (some _) []⟩
    | ok line =>
      cases line with
      | none => exact ⟨rfl,by simpa using linked.did (some _) (some _) [],.some (kept _ rfl)⟩
      | some line => exact ⟨rfl,linked.did _ _ _,.some (kept _ rfl)⟩

theorem linked_upgrade (peers : Peers C parts) :
    AlikeUnless (Linked C a b) (Parted a b) (fun s => Upgrades parts a s.trace) (fun t => Upgrades parts b t.trace)
      (upgrade : SessionM H Effect Unit) := by
  have lost (s t : Session H Effect) (linked : Linked C a b s t) :
      Parted a b { s with connection := none } { t with connection := none } :=
    ⟨linked.config,linked.state,linked.trace⟩
  intro s t linked
  rcases rel_cases linked.connection with ⟨left,right⟩ | ⟨c,d,left,right,related⟩
  · rw [upgrade_unconnected left,upgrade_unconnected right]
    exact .inl ⟨rfl,linked.toParted⟩
  · obtain ⟨w,before,before'⟩ := linked.trace
    rw [upgrade_eq left,upgrade_eq right]
    rcases peers.start_tls c d related with parts | upgraded
    · -- they part unless both upgrades fail
      cases c.start_tls with
      | some c' => exact .inr (.inl ⟨parts,w ++ [Event.TlsStarted],by simp [final,before],by simp⟩)
      | none =>
        cases d.start_tls with
        | some d' => exact .inr (.inr ⟨parts,w ++ [Event.TlsStarted],by simp [final,before'],by simp⟩)
        | none => exact .inl ⟨rfl,lost s t linked⟩
    · rcases rel_cases upgraded with ⟨one,other⟩ | ⟨c',d',one,other,related'⟩
      · rw [one,other]
        exact .inl ⟨rfl,lost s t linked⟩
      · rw [one,other]
        exact .inl ⟨rfl,linked.did _ _ _,.some related'⟩

/-- Linked sessions are alike as far as their operations can tell. -/
theorem linked_coupling (peers : Peers C parts) (a b : List (Event Effect)) :
    Coupling (H := H) (Linked C a b) (Parted a b) (Upgrades parts a) (Upgrades parts b) where
  weaker _ _ linked := linked.toParted
  view _ _ := linked_view peers
  connected s t linked := by
    rcases rel_cases linked.connection with ⟨left,right⟩ | ⟨c,d,left,right,-⟩
    · rw [left,right]
    · rw [left,right]
      rfl
  reply := linked_reply peers
  read_line := linked_read_line peers
  log events _ _ := alike_modify fun s t linked => ⟨linked.did _ _ events,linked.connection⟩
  state f s t linked := ⟨⟨linked.config,congrArg f linked.state,linked.trace⟩,linked.connection⟩
  handler h s t linked := ⟨⟨by simp [linked.config],linked.state,linked.trace⟩,linked.connection⟩
  upgrade := linked_upgrade peers
  escaped := by
    rintro trace later ⟨parts,w,rfl,started⟩
    exact ⟨parts,w ++ later,by simp,by simp [started]⟩
  escaped' := by
    rintro trace later ⟨parts,w,rfl,started⟩
    exact ⟨parts,w ++ later,by simp,by simp [started]⟩

end

/-! ### The same bytes, cut in another way -/

/-- Streams that bring the same bytes. -/
structure Recut (stream stream' : BufReader) : Prop where
  pending : stream.pending = stream'.pending
  failing : failing stream.inner.reads = failing stream'.inner.reads
  writes : stream.inner.writes = stream'.inner.writes
  proper : Proper stream.inner.reads
  proper' : Proper stream'.inner.reads

/-- Connections of the same kind to the same client. -/
inductive SameClient : Connection → Connection → Prop
  | Plain {stream stream' : BufReader} {tls tls' : Option TlsAcceptor} (recut : Recut stream stream')
      (same : tls.isSome = tls'.isSome) : SameClient (.Plain stream tls) (.Plain stream' tls')
  | Tls {stream stream' : BufReader} (recut : Recut stream stream') : SameClient (.Tls stream) (.Tls stream')

theorem SameClient.recut {c d : Connection} (same : SameClient c d) : Recut c.stream d.stream := by
  cases same with
  | Plain recut _ => exact recut
  | Tls recut => exact recut

theorem SameClient.with_stream {c d : Connection} {stream stream' : BufReader} (same : SameClient c d)
    (recut : Recut stream stream') : SameClient (c.with_stream stream) (d.with_stream stream') := by
  cases same with
  | Plain _ tls => exact .Plain recut tls
  | Tls _ => exact .Tls recut

theorem recut_write {stream stream' : BufReader} (recut : Recut stream stream') (data : Bytes) :
    Option.Rel Recut (stream.write_all data) (stream'.write_all data) := by
  unfold BufReader.write_all
  rw [← recut.writes]
  cases writes : stream.inner.writes with
  | nil => exact .some recut
  | cons ok later =>
    cases ok with
    | true => exact .some ⟨recut.pending,recut.failing,rfl,recut.proper,recut.proper'⟩
    | false => exact .none

theorem same_client_peers : Peers SameClient True where
  tls c d same := by
    cases same with
    | Plain _ tls => exact ⟨tls,rfl⟩
    | Tls _ => exact ⟨rfl,rfl⟩
  write_all c d bytes same := by
    unfold Connection.write_all
    rcases rel_cases (recut_write same.recut bytes) with ⟨one,other⟩ | ⟨_,_,one,other,recut⟩
    · rw [one,other]
      exact .none
    · rw [one,other]
      exact .some (same.with_stream recut)
  read c d result result' reader reader' same ran ran' := by
    obtain ⟨pending,fails,writes,proper,proper'⟩ := same.recut
    obtain ⟨_,leaves,read⟩ := read_line_loop_next c.stream
    obtain ⟨_,leaves',read'⟩ := read_line_loop_next d.stream
    rw [ran,Prod.mk.injEq] at read
    rw [ran',← pending,← fails,Prod.mk.injEq] at read'
    obtain ⟨rfl,rfl⟩ := read
    obtain ⟨rfl,rfl⟩ := read'
    refine ⟨rfl,fun line yields => same.with_stream ?_⟩
    have properly : Proper reader.inner.reads := fun recv member => proper recv (leaves.reads.subset member)
    have properly' : Proper reader'.inner.reads := fun recv member => proper' recv (leaves'.reads.subset member)
    have written : reader.inner.writes = reader'.inner.writes := by rw [leaves.writes,leaves'.writes,writes]
    cases line with
    | some line =>
      obtain ⟨left,failed⟩ := leaves.line line yields
      obtain ⟨left',failed'⟩ := leaves'.line line (by rw [← pending,← fails,yields])
      have rest : line ++ reader.pending = line ++ reader'.pending := by rw [← left,← left',pending]
      exact ⟨List.append_cancel_left rest,by rw [failed,failed',fails],written,properly,properly'⟩
    | none =>
      obtain ⟨left,failed⟩ := leaves.ended yields proper
      obtain ⟨left',failed'⟩ := leaves'.ended (by rw [← pending,← fails,yields]) proper'
      exact ⟨by rw [left,left'],by rw [failed,failed'],written,properly,properly'⟩
  start_tls _ _ _ := .inl trivial

/-- A client that sends the chunks, one a read, and closes its side. -/
def chunked (chunks : List Bytes) (writes : List Bool) : TcpStream := ⟨chunks.map .Data,writes⟩

theorem arriving_chunks {chunks : List Bytes} (nonempty : ∀ chunk ∈ chunks, chunk ≠ []) :
    arriving (chunks.map .Data) = chunks.flatten := by
  induction chunks with
  | nil => rfl
  | cons chunk chunks ih =>
    rw [List.map_cons,arriving,if_neg (nonempty chunk (by simp)),ih fun c member => nonempty c (by simp [member]),
      List.flatten_cons]

theorem failing_chunks {chunks : List Bytes} : failing (chunks.map .Data) = false := by
  induction chunks with
  | nil => rfl
  | cons chunk chunks ih => simp [failing,ih]

theorem proper_chunks {chunks : List Bytes} (nonempty : ∀ chunk ∈ chunks, chunk ≠ []) :
    Proper (chunks.map .Data) := by
  intro recv member
  obtain ⟨chunk,inside,rfl⟩ := List.mem_map.mp member
  simpa using nonempty chunk inside

theorem recut_chunks {chunks chunks' : List Bytes} (nonempty : ∀ chunk ∈ chunks, chunk ≠ [])
    (nonempty' : ∀ chunk ∈ chunks', chunk ≠ []) (same : chunks.flatten = chunks'.flatten) (writes : List Bool) :
    Recut (.new (chunked chunks writes)) (.new (chunked chunks' writes)) where
  pending := by
    simp [BufReader.pending,BufReader.new,chunked,arriving_chunks nonempty,arriving_chunks nonempty',same]
  failing := failing_chunks.trans failing_chunks.symm
  writes := rfl
  proper := proper_chunks nonempty
  proper' := proper_chunks nonempty'

/-! ### The end of a session -/

/-- A connection that brings `k` bytes at most, next to itself. -/
def Brings (k : Nat) (c d : Connection) : Prop :=
  c = d ∧ Proper c.stream.inner.reads ∧ c.stream.pending.length ≤ k

theorem brings_peers (k : Nat) : Peers (Brings k) True where
  tls c d brings := by rw [brings.1]; exact ⟨rfl,rfl⟩
  write_all c d bytes brings := by
    obtain ⟨rfl,proper,short⟩ := brings
    unfold Connection.write_all
    cases written : c.stream.write_all bytes with
    | none => exact .none
    | some stream =>
      have same : stream.buffer = c.stream.buffer ∧ stream.inner.reads = c.stream.inner.reads :=
        BufReader.write_all_keeps written
      exact .some ⟨rfl,by simpa [same] using proper,by simpa [BufReader.pending,same] using short⟩
  read c d result result' reader reader' brings ran ran' := by
    obtain ⟨rfl,proper,short⟩ := brings
    obtain ⟨rfl,rfl⟩ := Prod.mk.inj (ran.symm.trans ran')
    obtain ⟨_,leaves,read⟩ := read_line_loop_next c.stream
    rw [ran,Prod.mk.injEq] at read
    obtain ⟨rfl,rfl⟩ := read
    refine ⟨rfl,fun line yields => ⟨rfl,?_,?_⟩⟩
    · rw [Connection.stream_with_stream]
      exact fun recv member => proper recv (leaves.reads.subset member)
    · rw [Connection.stream_with_stream]
      cases line with
      | none => simp [(leaves.ended yields proper).1]
      | some line =>
        have lengths := congrArg List.length (leaves.line line yields).1
        simp only [List.nil_append,List.length_append] at lengths
        omega
  start_tls _ _ _ := .inl trivial

section
variable {H Effect : Type} {s t : Session H Effect} {n : Nat}

theorem proper_iff {c : Connection} (connected : s.connection = some c) :
    s.Proper ↔ PostGraph.Proper c.stream.inner.reads := by
  simp [Session.Proper,Session.incoming,connected]

theorem linked_brings (proper : s.Proper) :
    Linked (Brings s.pending.length) s.trace s.trace s s := by
  refine ⟨⟨rfl,rfl,[],by simp⟩,?_⟩
  cases connected : s.connection with
  | none => exact .none
  | some c => exact .some ⟨rfl,(proper_iff connected).mp proper,by simp [Session.pending,connected]⟩

theorem brought {k : Nat} {a b : List (Event Effect)} (linked : Linked (Brings k) a b t t) :
    t.Proper ∧ t.pending.length ≤ k := by
  rcases rel_cases linked.connection with ⟨lost,-⟩ | ⟨c,d,connected,_,rfl,proper,short⟩
  · simp [Session.Proper,Session.incoming,Session.pending,lost,PostGraph.Proper]
  · exact ⟨(proper_iff connected).mpr proper,by simpa [Session.pending,connected] using short⟩

variable [Handler H Effect] [Base64]

/-- A turn after which the session goes on takes a line, unless it upgrades the
    connection. -/
theorem turn_shortens (proper : s.Proper) (turned : turn s = .ok .Continue t) :
    (t.Proper ∧ t.pending.length < s.pending.length) ∨ Upgrades True s.trace t.trace := by
  obtain ⟨line,r,read⟩ : ∃ line r, read_line s = .ok (some line) r := by
    by_contra unread
    obtain ⟨err,_,failed,-⟩ := turn_silent fun line r read => unread ⟨line,r,read⟩
    simp [failed] at turned
  have reads := read_line_reads s
  rw [read] at reads
  rw [turn_eq read] at turned
  obtain ⟨complete,-,split⟩ := reads.taken line rfl
  have shorter : r.pending.length < s.pending.length := by
    have nonempty := List.length_pos_of_ne_nil complete.ne_nil
    rw [split,List.length_append]
    omega
  have since (upgraded : Upgrades True r.trace t.trace) : Upgrades True s.trace t.trace := by
    obtain ⟨-,w,grown,started⟩ := upgraded
    exact ⟨trivial,.Received line :: w,by rw [grown,reads.did.1]; simp,by simp [started]⟩
  have coupling := linked_coupling (H := H) (brings_peers r.pending.length) r.trace r.trace
  have ends := coupling.unless_handle_line line r r (linked_brings (reads.proper proper))
  rw [turned] at ends
  rcases ends with ⟨-,linked⟩ | upgraded | upgraded
  · obtain ⟨proper',short⟩ := brought linked
    exact .inl ⟨proper',by omega⟩
  · exact .inr (since upgraded)
  · exact .inr (since upgraded)

/-- A session that is not upgraded ends: every turn takes a line. By induction on the
    bytes that are still to come. -/
theorem loop_ends (proper : s.Proper) (plain : ∀ n, ¬ Upgrades True s.trace (final (loop n s)).trace) :
    ∃ n, ∀ t, loop n s ≠ .ok none t := by
  induction bytes : s.pending.length using Nat.strong_induction_on generalizing s with
  | _ length ih =>
    cases turned : turn s with
    | error err t =>
      refine ⟨1,fun t => ?_⟩
      simp [loop,bind,EStateM.bind,turned]
    | ok control t =>
      cases control with
      | Return =>
        refine ⟨1,fun t => ?_⟩
        simp [loop,bind,EStateM.bind,turned,pure,EStateM.pure]
      | Continue =>
        have next (n : Nat) : loop (n + 1) s = loop n t := by simp only [loop,bind,EStateM.bind,turned]
        rcases turn_shortens proper turned with ⟨proper',shorter⟩ | upgraded
        · have later (n : Nat) : ¬ Upgrades True t.trace (final (loop n t)).trace := by
            rintro ⟨-,w,grown,started⟩
            obtain ⟨first,more⟩ : s.trace <+: t.trace := by
              have extends' := loop_extends 1 s
              rwa [next 0] at extends'
            refine plain (n + 1) ⟨trivial,first ++ w,?_,by simp [started]⟩
            rw [next,grown,← more,List.append_assoc]
          obtain ⟨n,ended⟩ := ih t.pending.length (by omega) proper' later rfl
          exact ⟨n + 1,fun u => by rw [next]; exact ended u⟩
        · have once := plain 1
          rw [next] at once
          exact absurd upgraded once

theorem handle_ends (proper : s.Proper) (plain : ∀ n, .TlsStarted ∉ (final (handle n s)).trace) :
    ∃ n, ∀ t, handle n s ≠ .ok none t := by
  have run := reply_run s (.banner s.config.server_name)
  cases replied : reply (.banner s.config.server_name) s with
  | error err t =>
    refine ⟨0,fun t => ?_⟩
    simp [handle,bind,EStateM.bind,run_get,replied]
  | ok _ t =>
    rw [replied] at run
    have goesOn (n : Nat) : handle n s = loop n t := by
      simp only [handle,bind,EStateM.bind,run_get,replied]
    obtain ⟨n,ended⟩ := loop_ends (proper_of_incoming run.2 proper) fun n => by
      rintro ⟨-,w,grown,started⟩
      have unstarted := plain n
      rw [goesOn,grown] at unstarted
      exact unstarted (List.mem_append_right _ started)
    exact ⟨n,fun u => by rw [goesOn]; exact ended u⟩

/-! ### The lines of a session -/

/-- Every line that was read is complete and short enough. -/
def LinesRead (trace : List (Event Effect)) : Prop :=
  ∀ line, .Received line ∈ trace → IsLine line ∧ line.length ≤ MAX_LINE_LENGTH

omit [Handler H Effect] [Base64] in
theorem LinesRead.append {trace events : List (Event Effect)} (lines : LinesRead trace)
    (more : LinesRead events) : LinesRead (trace ++ events) :=
  fun line member => (List.mem_append.mp member).elim (lines line) (more line)

omit [Handler H Effect] [Base64] in
theorem lines_kept : Keeps (fun s : Session H Effect => LinesRead s.trace) (fun s => LinesRead s.trace) where
  weaker _ := id
  reply response s lines := (reply_run s response).mono
    (fun _ t done => done.1.1 ▸ lines.append (by simp [LinesRead]))
    (fun _ t done => done.1.1 ▸ lines.append (by simp [LinesRead]))
  read_line s lines := by
    refine (read_line_reads s).mono ?_ fun _ t did => did.1 ▸ lines.append (by simp [LinesRead])
    intro line t reads
    refine reads.did.1 ▸ lines.append fun content member => ?_
    obtain ⟨complete,short,-⟩ := reads.taken content (by simpa using member)
    exact ⟨complete,short⟩
  log events s silent _ lines := lines.append fun line member => absurd member (silent line)
  state _ _ := id
  handler _ _ := id
  upgrade s lines := by
    cases connected : s.connection with
    | none =>
      rw [upgrade_unconnected connected]
      exact lines
    | some c =>
      rw [upgrade_eq connected]
      cases c.start_tls with
      | none => exact lines
      | some _ => exact lines.append (by simp [LinesRead])

theorem handle_lines (s : Session H Effect) (silent : s.trace = []) (n : Nat) :
    LinesRead (final (handle n s)).trace :=
  lines_kept.handle (P := fun s => LinesRead s.trace) (by simp [LinesRead,silent]) n

/-- Without an acceptor there is no upgrade. -/
theorem unsupported_plain (connection : Connection) (config : SessionConfig H)
    (unsupported : connection.supports_tls = false) (n : Nat) :
    .TlsStarted ∉ (final (handle n (.new connection config : Session H Effect))).trace := by
  have invariant : Invariant (H := H) (fun v (trace : List (Event Effect)) => v.supports_tls = false ∧ .TlsStarted ∉ trace)
      (fun trace => .TlsStarted ∉ trace) := by
    refine ⟨And.right,?_⟩
    rintro v trace line events outcome v' ⟨plain,before⟩ step
    rcases step_tls step with ⟨quiet,same⟩ | ⟨supported,-⟩
    · exact ⟨by simp [before,quiet],fun continues => ⟨(same continues).1.trans plain,by simp [before,quiet]⟩⟩
    · simp [plain] at supported
  exact handle_always invariant connection config (by simp) ⟨by simpa [Session.view,Session.new] using unsupported,by simp⟩ n

/-! ### Cuts -/

/-- The sessions have done the same and stand the same. -/
def SameRun (s t : Session H Effect) : Prop := s.trace = t.trace ∧ s.config = t.config ∧ s.state = t.state

/-- Two cuts of what a client sends, on a connection that is not upgraded: the session
    ends, and however long the sessions are watched, they have read the same lines, sent
    the same replies and made the same calls, and if they have ended then the same way.
    Every line ends at its first LF and is short enough. -/
theorem session_ignores_cuts (chunks chunks' : List Bytes) (writes : List Bool) (tls : Option TlsAcceptor)
    (config : SessionConfig H) (nonempty : ∀ chunk ∈ chunks, chunk ≠ []) (nonempty' : ∀ chunk ∈ chunks', chunk ≠ [])
    (same : chunks.flatten = chunks'.flatten)
    (plain : ∀ n, .TlsStarted ∉ (final (handle n (.new (.new_plain (chunked chunks writes) tls) config))).trace)
    (plain' : ∀ n, .TlsStarted ∉ (final (handle n (.new (.new_plain (chunked chunks' writes) tls) config))).trace) :
    (∃ n, ∀ t, handle n (.new (.new_plain (chunked chunks writes) tls) config) ≠ .ok none t) ∧
    ∀ n, EndsAlike SameRun SameRun (handle n (.new (.new_plain (chunked chunks writes) tls) config))
        (handle n (.new (.new_plain (chunked chunks' writes) tls) config)) ∧
      ∀ line, .Received line ∈ (final (handle n (.new (.new_plain (chunked chunks writes) tls) config))).trace →
        IsLine line ∧ line.length ≤ MAX_LINE_LENGTH := by
  have recut := recut_chunks nonempty nonempty' same writes
  refine ⟨handle_ends recut.proper plain,fun n => ⟨?_,handle_lines _ rfl n⟩⟩
  have linked : Linked SameClient [] [] (Session.new (.new_plain (chunked chunks writes) tls) config : Session H Effect)
      (Session.new (.new_plain (chunked chunks' writes) tls) config) :=
    ⟨⟨rfl,rfl,[],rfl,rfl⟩,.some (.Plain recut rfl)⟩
  have alike (s t : Session H Effect) (parted : Parted [] [] s t) : SameRun s t := by
    obtain ⟨config,state,w,left,right⟩ := parted
    exact ⟨left.trans right.symm,config,state⟩
  rcases (linked_coupling same_client_peers [] []).unless_handle n _ _ linked with ends | upgraded | upgraded
  · exact ends.mono (fun s t linked => alike s t linked.toParted) alike
  · obtain ⟨-,w,grown,started⟩ := upgraded
    exact absurd (by simpa [grown] using started) (plain n)
  · obtain ⟨-,w,grown,started⟩ := upgraded
    exact absurd (by simpa [grown] using started) (plain' n)

end

section
attribute [local instance] Sample.argon2 Sample.base64

/-- A client that says NOOP and QUIT, cut between CR and LF or not at all. -/
def sampleCut : List Bytes := [ascii "NO",ascii "OP\r",ascii "\nQUIT\r\n"]
def sampleWhole : List Bytes := [ascii "NOOP\r\nQUIT\r\n"]

theorem session_ignores_cuts_sample :
    (∃ n, ∀ t : Session ProxyHandler ProxyEffect,
      handle n (.new (.new_plain (chunked sampleCut []) none) (Sample.config .None)) ≠ .ok none t) ∧
    ∀ n, EndsAlike (σ := Session ProxyHandler ProxyEffect) SameRun SameRun
        (handle n (.new (.new_plain (chunked sampleCut []) none) (Sample.config .None)))
        (handle n (.new (.new_plain (chunked sampleWhole []) none) (Sample.config .None))) ∧
      ∀ line, .Received line ∈ (final (handle (H := ProxyHandler) n
        (.new (.new_plain (chunked sampleCut []) none) (Sample.config .None)))).trace →
        IsLine line ∧ line.length ≤ MAX_LINE_LENGTH :=
  session_ignores_cuts sampleCut sampleWhole [] none (Sample.config .None) (by decide) (by decide) (by decide)
    (unsupported_plain _ _ rfl) (unsupported_plain _ _ rfl)

end
end PostGraph
