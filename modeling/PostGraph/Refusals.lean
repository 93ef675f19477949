import PostGraph.Chunking
import PostGraph.Transactions

/-!
A command that is refused with a 5xx reply changes nothing: the session goes on as if its
line and the answers to its challenges had not been sent.
-/
namespace PostGraph
open Programs Couplings Session
set_option autoImplicit false

section
variable {H Effect : Type}

/-! ### The bytes that a session has taken -/

def line_of : Event Effect → Option Bytes
  | .Received line => some line
  | _ => none

/-- The bytes of the lines that were received. -/
def taken (events : List (Event Effect)) : Bytes := (events.filterMap line_of).flatten

theorem taken_append (events later : List (Event Effect)) : taken (events ++ later) = taken events ++ taken later := by
  simp [taken]

theorem taken_silent {events : List (Event Effect)} (silent : ∀ line, .Received line ∉ events) : taken events = [] := by
  have none : events.filterMap line_of = [] := by
    apply List.filterMap_eq_nil_iff.mpr
    intro e member
    cases e with
    | Received line => exact absurd member (silent line)
    | _ => rfl
  rw [taken,none,List.flatten_nil]

/-- `d` is the connection `c` after `bytes` were read of it. -/
def Consumed (c : Connection) (bytes : Bytes) (d : Connection) : Prop :=
  ∃ stream, d = c.with_stream stream ∧ (Proper c.stream.inner.reads → Proper stream.inner.reads ∧
    c.stream.pending = bytes ++ stream.pending)

/-- Since its trace was `past`, when it was on `c`, a session has taken the bytes of the lines
    it received, unless it was upgraded. -/
def Follows (c : Connection) (past : List (Event Effect)) (t : Session H Effect) : Prop :=
  ∃ events, t.trace = past ++ events ∧
    (.TlsStarted ∈ events ∨ ∃ d, t.connection = some d ∧ Consumed c (taken events) d)

theorem Connection.with_stream_stream (c : Connection) : c.with_stream c.stream = c := by cases c <;> rfl

theorem Connection.with_stream_with_stream (c : Connection) (stream stream' : BufReader) :
    (c.with_stream stream).with_stream stream' = c.with_stream stream' := by cases c <;> rfl

theorem consumed_refl (c : Connection) : Consumed c [] c :=
  ⟨c.stream,c.with_stream_stream.symm,fun proper => ⟨proper,rfl⟩⟩

theorem Consumed.trans {c d : Connection} {bytes : Bytes} {stream : BufReader} (before : Consumed c bytes d) (more : Bytes)
    (next : Proper d.stream.inner.reads → Proper stream.inner.reads ∧ d.stream.pending = more ++ stream.pending) :
    Consumed c (bytes ++ more) (d.with_stream stream) := by
  obtain ⟨stream',rfl,split⟩ := before
  rw [Connection.stream_with_stream] at next
  refine ⟨stream,c.with_stream_with_stream stream' stream,fun proper => ?_⟩
  obtain ⟨proper',left⟩ := split proper
  obtain ⟨proper'',left'⟩ := next proper'
  exact ⟨proper'',by rw [left,left',List.append_assoc]⟩

theorem Follows.after {c : Connection} {past : List (Event Effect)} {t : Session H Effect} (follows : Follows c past t)
    (events : List (Event Effect)) (connection : Option Connection)
    (next : ∀ d, t.connection = some d → ∃ stream, connection = some (d.with_stream stream) ∧
      (Proper d.stream.inner.reads → Proper stream.inner.reads ∧ d.stream.pending = taken events ++ stream.pending)) :
    Follows c past { t with connection := connection, trace := t.trace ++ events } := by
  obtain ⟨w,trace,same⟩ := follows
  refine ⟨w ++ events,by simp [trace],?_⟩
  rcases same with upgraded | ⟨d,connected,consumed⟩
  · exact .inl (by simp [upgraded])
  · obtain ⟨stream,connected',more⟩ := next d connected
    exact .inr ⟨_,connected',by rw [taken_append]; exact consumed.trans _ more⟩

theorem follows_kept (c : Connection) (past : List (Event Effect)) :
    Keeps (Follows (H := H) c past) (fun _ => True) where
  weaker _ _ := trivial
  reply response s follows := by
    cases connected : s.connection with
    | none =>
      rw [reply_unconnected connected]
      trivial
    | some d =>
      rw [reply_eq connected]
      cases written : d.write_all (reply_bytes response) with
      | none => trivial
      | some d' =>
        obtain ⟨stream,wrote,rfl⟩ := Option.map_eq_some_iff.mp written
        have same := BufReader.write_all_keeps wrote
        apply follows.after [.Reply response] _
        intro d' connected'
        obtain rfl := Option.some.inj (connected.symm.trans connected')
        refine ⟨stream,rfl,fun proper => ⟨by rwa [same.2],?_⟩⟩
        simp [taken,line_of,BufReader.pending,same]
  read_line s follows := by
    cases connected : s.connection with
    | none =>
      rw [read_line_unconnected connected]
      trivial
    | some d =>
      obtain ⟨reader,leaves,read⟩ := read_line_loop_next d.stream
      have properly (proper : Proper d.stream.inner.reads) : Proper reader.inner.reads :=
        fun recv member => proper recv (leaves.reads.subset member)
      cases yields : next_line [] d.stream.pending (failing d.stream.inner.reads) with
      | error err =>
        rw [read_line_eq connected (yields ▸ read)]
        trivial
      | ok found =>
        rw [read_line_eq connected (yields ▸ read)]
        cases found with
        | none =>
          have ended := follows.after [] (some (d.with_stream reader)) fun d' connected' => by
            obtain rfl := Option.some.inj (connected.symm.trans connected')
            refine ⟨reader,rfl,fun proper => ⟨properly proper,?_⟩⟩
            rw [next_line_ended yields,(leaves.ended yields proper).1]
            rfl
          simp only [List.append_nil] at ended
          exact ended
        | some line =>
          apply follows.after [.Received line] _
          intro d' connected'
          obtain rfl := Option.some.inj (connected.symm.trans connected')
          refine ⟨reader,rfl,fun proper => ⟨properly proper,?_⟩⟩
          simpa [taken,line_of] using (leaves.line line yields).1
  log events s silent quiet follows := by
    refine follows.after events _ fun d connected => ⟨d.stream,?_,fun proper => ⟨proper,?_⟩⟩
    · rw [connected,d.with_stream_stream]
    · rw [taken_silent silent]
      rfl
  state _ _ := id
  handler _ _ := id
  upgrade s follows := by
    cases connected : s.connection with
    | none =>
      rw [upgrade_unconnected connected]
      trivial
    | some d =>
      rw [upgrade_eq connected]
      cases d.start_tls with
      | none => trivial
      | some d' =>
        obtain ⟨w,trace,-⟩ := follows
        exact ⟨w ++ [Event.TlsStarted],by simp [trace],.inl (by simp)⟩

/-! ### Refusals -/

/-- The last reply among the events has a 5xx code. -/
def EndsRefused (events : List (Event Effect)) : Prop :=
  ∃ response ∈ (events.filterMap reply_of).getLast?, response.code / 100 = 5

theorem not_refused {events : List (Event Effect)} (codes : ∀ response, .Reply response ∈ events → response.code < 500) :
    ¬ EndsRefused events := by
  rintro ⟨response,last,code⟩
  obtain ⟨e,member,replied⟩ := List.mem_filterMap.mp (List.mem_of_getLast? last)
  cases e with
  | Reply reply =>
    obtain rfl := Option.some.inj replied
    have := codes reply member
    omega
  | _ => simp [reply_of] at replied

section
variable [Handler H Effect] {v v' : View H} {line : Bytes} {events : List (Event Effect)}

/-- A step with which a session goes on after a refusal leaves the view as it was and calls no
    handler. -/
theorem Step.refusal (step : Step v line events .Continue v') (command : v.state.phase ≠ .Data)
    (refused : EndsRefused events) : v' = v ∧ ∀ e ∈ events, e.Quiet := by
  have coded {codes : List Nat} {e : Event Effect} {response : Response} (coded : e.Coded codes)
      (small : ∀ code ∈ codes, code < 500) (same : e = .Reply response) : response.code < 500 := by
    subst same
    cases coded with
    | reply _ code => exact small _ code
  have challenge {e : Event Effect} {response : Response} (handshake : e.Handshake) (same : e = .Reply response) :
      response.code < 500 := by
    subst same
    cases handshake with
    | challenge _ code => omega
  cases step with
  | captured data => exact absurd data command
  | delivered _ data => exact absurd data command
  | refused handshake response _ _ exchanged code =>
    refine ⟨rfl,fun e member => ?_⟩
    rcases List.mem_append.mp member with before | last
    · rcases List.mem_cons.mp before with rfl | exchange
      · exact .parse line
      · exact (exchanged e exchange).quiet
    · exact List.mem_singleton.mp last ▸ .reply response (by omega)
  | greeted domain extended called responses _ _ _ _ codes =>
    refine absurd refused (not_refused fun response member => ?_)
    have sent : .Reply response ∈ responses := by simpa using member
    exact coded (codes _ sent) (by simp) rfl
  | informed _ responses _ _ _ codes =>
    refine absurd refused (not_refused fun response member => ?_)
    have sent : .Reply response ∈ responses := by simpa using member
    exact coded (codes _ sent) (by simp) rfl
  | authenticated _ _ handshake _ _ called _ _ _ exchanged =>
    refine absurd refused (not_refused fun response member => ?_)
    have sent : .Reply response ∈ handshake ∨ response = AUTH_OK := by simpa using member
    rcases sent with exchange | rfl
    · exact challenge (exchanged _ exchange) rfl
    · decide
  | upgraded => exact absurd refused (not_refused (by simp [START_TLS,Response.fixed]))
  | mail => exact absurd refused (not_refused (by simp [OK,Response.fixed]))
  | recipient => exact absurd refused (not_refused (by simp [OK,Response.fixed]))
  | data => exact absurd refused (not_refused (by simp [DATA_START,Response.fixed]))
  | reset => exact absurd refused (not_refused (by simp [RESET,Response.fixed]))

end

/-! ### Going on as before -/

theorem eq_peers : Peers Eq False where
  tls := by
    rintro c _ rfl
    exact ⟨rfl,rfl⟩
  write_all := by
    rintro c _ bytes rfl
    cases c.write_all bytes with
    | none => exact .none
    | some _ => exact .some rfl
  read := by
    rintro c _ result result' reader reader' rfl ran ran'
    obtain ⟨rfl,rfl⟩ := Prod.mk.inj (ran.symm.trans ran')
    exact ⟨rfl,fun _ _ => rfl⟩
  start_tls := by
    rintro c _ rfl
    cases c.start_tls with
    | none => exact .inr .none
    | some _ => exact .inr (.some rfl)

/-- What a line that leads to `events` leaves of a session as it was: all but the bytes
    that were read. -/
structure Untouched (s : Session H Effect) (events : List (Event Effect)) (t : Session H Effect) : Prop where
  state : t.state = s.state
  config : t.config = s.config
  connection : ∃ c d, s.connection = some c ∧ t.connection = some d ∧ Consumed c (taken events) d
  quiet : ∀ e ∈ events, e.Quiet

variable [Handler H Effect] [Base64]

/-- A line that is not data and gets a 5xx reply in the end, after which the session goes
    on, leaves everything untouched. A session that has not received the line and the
    answers, with the same bytes to come, does the same from there on; where they are
    cut in another way, as long as there is no upgrade. -/
theorem refused_changes_nothing (s t : Session H Effect) (events : List (Event Effect)) (command : s.state.phase ≠ .Data)
    (turned : turn s = .ok .Continue t) (trace : t.trace = s.trace ++ events) (refused : EndsRefused events) :
    Untouched s events t ∧ ∀ u : Session H Effect, u.config = s.config → u.state = s.state →
      (u.connection = t.connection → ∀ n, EndsAlike (Linked Eq t.trace u.trace) (Parted t.trace u.trace) (loop n t) (loop n u)) ∧
      (Option.Rel SameClient t.connection u.connection → ∀ n,
        EndsAlike (Linked SameClient t.trace u.trace) (Parted t.trace u.trace) (loop n t) (loop n u) ∨
          Upgrades True t.trace (final (loop n t)).trace ∨ Upgrades True u.trace (final (loop n u)).trace) := by
  have ends := ends_of_triple (turn_spec s) rfl
  rw [turned] at ends
  obtain ⟨line,later,grown,step⟩ := ends
  obtain rfl : events = .Received line :: later := List.append_cancel_left (trace.symm.trans grown)
  have refused' : EndsRefused later := by simpa [EndsRefused,reply_of] using refused
  obtain ⟨same,quiet⟩ := step.refusal command refused'
  have state : t.state = s.state := congrArg View.state same
  have config : t.config = s.config := congrArg View.config same
  refine ⟨⟨state,config,?_,?_⟩,fun u config' state' => ⟨fun connection n => ?_,fun related n => ?_⟩⟩
  · cases connected : s.connection with
    | none =>
      rw [turn,bind_error (read_line_unconnected connected)] at turned
      simp at turned
    | some c =>
      have follows := (follows_kept c s.trace).turn ⟨[],by simp,.inr ⟨c,connected,consumed_refl c⟩⟩
      rw [turned] at follows
      obtain ⟨w,trace',since⟩ := follows
      obtain rfl : w = .Received line :: later := List.append_cancel_left (trace'.symm.trans trace)
      rcases since with upgraded | ⟨d,connected',consumed⟩
      · have started : .TlsStarted ∈ later := by simpa using upgraded
        cases quiet _ started
      · exact ⟨c,d,rfl,connected',consumed⟩
  · intro e member
    rcases List.mem_cons.mp member with rfl | member
    · exact .received line
    · exact quiet e member
  · have linked : Linked Eq t.trace u.trace t u := by
      refine ⟨⟨config.trans config'.symm,state.trans state'.symm,[],by simp,by simp⟩,?_⟩
      rw [connection]
      cases t.connection with
      | none => exact .none
      | some _ => exact .some rfl
    rcases (linked_coupling eq_peers t.trace u.trace).unless_loop n t u linked with ends | upgraded | upgraded
    · exact ends
    · exact upgraded.1.elim
    · exact upgraded.1.elim
  · have linked : Linked SameClient t.trace u.trace t u :=
      ⟨⟨config.trans config'.symm,state.trans state'.symm,[],by simp,by simp⟩,related⟩
    exact (linked_coupling same_client_peers t.trace u.trace).unless_loop n t u linked

end

section
attribute [local instance] Sample.argon2 Sample.base64

/-- A client that has said EHLO and cancels AUTH PLAIN. -/
def sampleCancelled : Session ProxyHandler ProxyEffect :=
  { Session.new (.new_plain (Sample.sends "AUTH PLAIN\r\n*\r\nNOOP\r\n") none) (Sample.config .Always) with
    state.phase := .Greeted }

theorem refused_changes_nothing_sample : ∃ t, turn sampleCancelled = .ok .Continue t ∧ Untouched sampleCancelled
    [.Received (ascii "AUTH PLAIN\r\n"),.Parse (ascii "AUTH PLAIN\r\n"),.Reply AUTH_CHALLENGE_PLAIN,
      .Received (ascii "*\r\n"),.Reply (.syntax_error (some "invalid base64 data".toList))] t := by
  have turned : turn sampleCancelled = .ok .Continue (final (turn sampleCancelled)) := ran_of_value (by decide +kernel)
  have trace : (final (turn sampleCancelled)).trace =
      [.Received (ascii "AUTH PLAIN\r\n"),.Parse (ascii "AUTH PLAIN\r\n"),.Reply AUTH_CHALLENGE_PLAIN,
        .Received (ascii "*\r\n"),.Reply (.syntax_error (some "invalid base64 data".toList))] := by decide +kernel
  exact ⟨_,turned,(refused_changes_nothing sampleCancelled _ _ (by decide) turned trace ⟨_,rfl,by decide⟩).1⟩

end
end PostGraph
