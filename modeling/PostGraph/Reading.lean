import PostGraph.Lib.Lines
import PostGraph.Step

/-!
The bytes that the client has sent and the session has not read yet. They decide what
reading a line yields (`next_line`), however they are cut into buffers; in
particular a line is read exactly if it is complete and short enough.
-/
namespace PostGraph
open Std.Do Programs Session
set_option mvcgen.warning false
set_option autoImplicit false

/-- The bytes that still arrive before the stream ends or fails. -/
def arriving : List Recv → Bytes
  | .Data bytes :: reads => if bytes = [] then [] else bytes ++ arriving reads
  | _ => []

/-- Whether the stream fails after these bytes; otherwise it ends. -/
def failing : List Recv → Bool
  | .Data bytes :: reads => if bytes = [] then false else failing reads
  | .Fail :: _ => true
  | [] => false

/-- What reading a line yields when `acc` was read of it already. -/
def next_line (acc coming : Bytes) (fails : Bool) : Except SessionError (Option Bytes) :=
  match memchr LF coming with
  | some n =>
    if acc.length + (n + 1) > MAX_LINE_LENGTH then .error .LineTooLong else .ok (some (acc ++ coming.take (n + 1)))
  | none =>
    if acc.length + coming.length > MAX_LINE_LENGTH then .error .LineTooLong
    else if fails then .error .Io
    else if acc ++ coming = [] then .ok none else .error .UnexpectedEofInLine

/-- Only a stream at its end yields no bytes. -/
def Proper (reads : List Recv) : Prop := ∀ recv ∈ reads, recv ≠ .Data []

namespace BufReader

def pending (self : BufReader) : Bytes := self.buffer ++ arriving self.inner.reads

/-- The buffers that are left to consume, at most. -/
def buffers (self : BufReader) : Nat := self.inner.reads.length + if self.buffer = [] then 0 else 1

variable {reader reader' : BufReader} {buf : Bytes}

theorem fill_buf_none (failed : reader.fill_buf = none) :
    reader.pending = [] ∧ failing reader.inner.reads = true := by
  unfold fill_buf at failed
  by_cases buffered : reader.buffer = []
  · rw [if_neg (by simpa using buffered)] at failed
    split at failed
    · simp at failed
    · simp at failed
    · next reads coming => simp [pending,buffered,coming,arriving,failing]
  · simp [buffered] at failed

theorem fill_buf_end (filled : reader.fill_buf = some ([],reader')) :
    reader.pending = [] ∧ failing reader.inner.reads = false ∧ reader'.inner.writes = reader.inner.writes ∧
      reader'.inner.reads <:+ reader.inner.reads ∧
      (Proper reader.inner.reads → reader'.pending = [] ∧ failing reader'.inner.reads = false) := by
  unfold fill_buf at filled
  by_cases buffered : reader.buffer = []
  · rw [if_neg (by simpa using buffered)] at filled
    split at filled
    · next coming =>
      obtain rfl : reader = reader' := by simpa using filled
      simp [pending,buffered,coming,arriving,failing]
    · next bytes reads coming =>
      obtain ⟨rfl,rfl⟩ : bytes = [] ∧ _ = reader' := by simpa using filled
      refine ⟨by simp [pending,buffered,coming,arriving],by simp [coming,failing],rfl,by simp [coming],?_⟩
      intro proper
      exact absurd rfl (proper (.Data []) (by simp [coming]))
    · simp at filled
  · rw [if_pos buffered] at filled
    obtain ⟨none,-⟩ : reader.buffer = [] ∧ _ := by simpa using filled
    exact absurd none buffered

theorem fill_buf_some (filled : reader.fill_buf = some (buf,reader')) (nonempty : buf ≠ []) :
    reader'.buffer = buf ∧ reader'.pending = reader.pending ∧ reader'.buffers = reader.buffers ∧
      failing reader'.inner.reads = failing reader.inner.reads ∧ reader'.inner.writes = reader.inner.writes ∧
      reader'.inner.reads <:+ reader.inner.reads := by
  unfold fill_buf at filled
  by_cases buffered : reader.buffer = []
  · rw [if_neg (by simpa using buffered)] at filled
    split at filled
    · obtain ⟨rfl,rfl⟩ : [] = buf ∧ reader = reader' := by simpa using filled
      exact absurd rfl nonempty
    · next bytes reads coming =>
      obtain ⟨rfl,rfl⟩ : bytes = buf ∧ _ = reader' := by simpa using filled
      simp [pending,buffers,coming,arriving,failing,nonempty,buffered]
    · simp at filled
  · rw [if_pos buffered] at filled
    obtain ⟨rfl,rfl⟩ : reader.buffer = buf ∧ reader = reader' := by simpa using filled
    exact ⟨rfl,rfl,rfl,rfl,rfl,List.suffix_refl _⟩

/-- Writing reads nothing. -/
theorem write_all_keeps {data : Bytes} (written : reader.write_all data = some reader') :
    reader'.buffer = reader.buffer ∧ reader'.inner.reads = reader.inner.reads := by
  unfold write_all at written
  split at written
  · simp [← Option.some.inj written]
  · simp [← Option.some.inj written]
  · simp at written

end BufReader

/-- A complete line of a session. -/
abbrev IsLine (line : Bytes) : Prop := Lines.IsPiece LF line

section
variable {fuel : Nat} {acc buf content coming line rest : Bytes} {fails : Bool} {reader reader' : BufReader}

theorem next_line_complete (absent : LF ∉ content) : next_line acc (content ++ LF :: rest) fails =
    if acc.length + (content.length + 1) > MAX_LINE_LENGTH then .error .LineTooLong
    else .ok (some (acc ++ (content ++ [LF]))) := by
  simp only [next_line,memchr_append absent]
  rw [List.append_cons content LF rest,List.take_left' (by simp)]

theorem next_line_incomplete (absent : LF ∉ coming) : next_line acc coming fails =
    if acc.length + coming.length > MAX_LINE_LENGTH then .error .LineTooLong
    else if fails then .error .Io
    else if acc ++ coming = [] then .ok none else .error .UnexpectedEofInLine := by
  simp only [next_line,memchr_absent absent]

/-- Bytes without a line end may as well have been read already. -/
theorem next_line_append (absent : LF ∉ buf) : next_line acc (buf ++ coming) fails = next_line (acc ++ buf) coming fails := by
  by_cases ends : LF ∈ coming
  · obtain ⟨before,after,rfl,first⟩ := List.eq_append_cons_of_mem ends
    have later : LF ∉ buf ++ before := by simp [absent,first]
    rw [← List.append_assoc,next_line_complete later,next_line_complete first]
    simp [Nat.add_assoc]
  · have none : LF ∉ buf ++ coming := by simp [absent,ends]
    rw [next_line_incomplete none,next_line_incomplete ends]
    simp [Nat.add_assoc]

theorem next_line_long (long : acc.length > MAX_LINE_LENGTH) : next_line acc coming fails = .error .LineTooLong := by
  by_cases ends : LF ∈ coming
  · obtain ⟨before,after,rfl,first⟩ := List.eq_append_cons_of_mem ends
    rw [next_line_complete first,if_pos (by omega)]
  · rw [next_line_incomplete ends,if_pos (by omega)]

/-- What is read is a complete line and short enough. -/
theorem next_line_sound (read : next_line [] coming fails = .ok (some line)) :
    IsLine line ∧ line.length ≤ MAX_LINE_LENGTH := by
  by_cases ends : LF ∈ coming
  · obtain ⟨before,after,rfl,first⟩ := List.eq_append_cons_of_mem ends
    rw [next_line_complete first] at read
    split_ifs at read with long
    obtain rfl : before ++ [LF] = line := by simpa using read
    exact ⟨⟨before,rfl,first⟩,by simpa using long⟩
  · rw [next_line_incomplete ends] at read
    split_ifs at read
    simp at read

/-- Nothing is read only where nothing is to come. -/
theorem next_line_ended (read : next_line [] coming fails = .ok none) : coming = [] := by
  by_cases ends : LF ∈ coming
  · obtain ⟨before,after,rfl,first⟩ := List.eq_append_cons_of_mem ends
    rw [next_line_complete first] at read
    split_ifs at read
    simp at read
  · rw [next_line_incomplete ends] at read
    split_ifs at read with _ _ empty
    simpa using empty

theorem unended {buf : Bytes} (nonempty : buf ≠ []) (absent : LF ∉ buf) : ¬ (acc ++ buf).getLast? = some LF := by
  rw [List.getLast?_append_of_ne_nil _ nonempty]
  exact fun last => absent (List.mem_of_getLast? last)

/-- What is left on the stream when a line was read of it. -/
structure Leaves (acc : Bytes) (reader reader' : BufReader) : Prop where
  writes : reader'.inner.writes = reader.inner.writes
  reads : reader'.inner.reads <:+ reader.inner.reads
  line : ∀ line, next_line acc reader.pending (failing reader.inner.reads) = .ok (some line) →
    acc ++ reader.pending = line ++ reader'.pending ∧ failing reader'.inner.reads = failing reader.inner.reads
  ended : next_line acc reader.pending (failing reader.inner.reads) = .ok none → Proper reader.inner.reads →
    reader'.pending = [] ∧ failing reader'.inner.reads = false

/-- Reading accumulates the line over the buffers. By induction on the buffers that are
    left: the line ends in the next one, or goes on with the one after it. -/
theorem read_line_loop_eq (acc : Bytes) (enough : reader.buffers < fuel) (short : acc.length ≤ MAX_LINE_LENGTH) :
    ∃ reader', read_line_loop fuel acc reader = (next_line acc reader.pending (failing reader.inner.reads),reader') ∧
      Leaves acc reader reader' := by
  induction fuel generalizing acc reader with
  | zero => omega
  | succ fuel ih =>
    rw [read_line_loop]
    cases filled : reader.fill_buf with
    | none =>
      obtain ⟨empty,fails⟩ := BufReader.fill_buf_none filled
      have io : next_line acc reader.pending (failing reader.inner.reads) = .error .Io := by
        rw [empty,fails,next_line_incomplete (by simp),if_neg (by simpa using short),if_pos rfl]
      exact ⟨reader,by simp only [io],⟨rfl,List.suffix_refl _,by simp [io],by simp [io]⟩⟩
    | some filled' =>
      obtain ⟨buf,reader'⟩ := filled'
      simp only
      by_cases nonempty : buf = []
      · subst nonempty
        obtain ⟨empty,fails,writes,reads,ended⟩ := BufReader.fill_buf_end filled
        have eof : next_line acc reader.pending (failing reader.inner.reads) =
            if acc = [] then .ok none else .error .UnexpectedEofInLine := by
          rw [empty,fails,next_line_incomplete (by simp),if_neg (by simpa using short),if_neg (by simp),List.append_nil]
        refine ⟨reader',by simp only [eof,if_true],⟨writes,reads,?_,fun _ => ended⟩⟩
        intro line read
        rw [eof] at read
        split_ifs at read
        simp at read
      · obtain ⟨buffer,pending,buffers,fails,writes,reads⟩ := BufReader.fill_buf_some filled nonempty
        have split : reader.pending = buf ++ arriving reader'.inner.reads := by rw [← pending,← buffer]; rfl
        rw [if_neg nonempty]
        by_cases ends : LF ∈ buf
        · -- the buffer holds the end of the line
          obtain ⟨before,after,rfl,first⟩ := List.eq_append_cons_of_mem ends
          have yields : next_line acc (before ++ LF :: (after ++ arriving reader'.inner.reads))
              (failing reader.inner.reads) = _ := next_line_complete first
          rw [split,List.append_assoc,List.cons_append,yields]
          simp only [memchr_append first]
          rw [List.append_cons before LF after,List.take_left' (by simp)]
          by_cases long : acc.length + (before.length + 1) > MAX_LINE_LENGTH
          · rw [if_pos long,if_pos long]
            refine ⟨reader',rfl,⟨writes,reads,?_,?_⟩⟩
            all_goals
              rw [split,List.append_assoc,List.cons_append,yields,if_pos long]
              simp
          · have last : (acc ++ (before ++ [LF])).getLast? = some LF := by simp [← List.append_assoc]
            rw [if_neg long,if_neg long,if_pos last]
            refine ⟨_,rfl,⟨writes,reads,?_,?_⟩⟩
            · rw [split,List.append_assoc,List.cons_append,yields,if_neg long]
              rintro line ⟨⟩
              refine ⟨?_,fails⟩
              rw [BufReader.pending,BufReader.consume,buffer,List.append_cons before LF after,List.drop_left' (by simp)]
              simp
            · rw [split,List.append_assoc,List.cons_append,yields,if_neg long]
              simp
        · -- the line goes on in the next buffer
          have yields : next_line acc (buf ++ arriving reader'.inner.reads) (failing reader.inner.reads) = _ :=
            next_line_append ends
          simp only [memchr_absent ends,List.take_length]
          by_cases long : acc.length + buf.length > MAX_LINE_LENGTH
          · have tooLong : next_line acc reader.pending (failing reader.inner.reads) = .error .LineTooLong := by
              rw [split,yields,next_line_long (by simpa using long)]
            rw [if_pos long]
            exact ⟨reader',by rw [tooLong],⟨writes,reads,by simp [tooLong],by simp [tooLong]⟩⟩
          · rw [if_neg long,if_neg (unended nonempty ends)]
            have left : (reader'.consume buf.length).pending = arriving reader'.inner.reads := by
              simp [BufReader.pending,BufReader.consume,buffer]
            have fewer : (reader'.consume buf.length).buffers < fuel := by
              simp only [BufReader.buffers,buffer,if_neg nonempty] at buffers enough
              simp only [BufReader.buffers,BufReader.consume,buffer,List.drop_length,if_true]
              omega
            have goesOn : next_line (acc ++ buf) (reader'.consume buf.length).pending
                (failing (reader'.consume buf.length).inner.reads) =
                next_line acc reader.pending (failing reader.inner.reads) := by
              rw [left,split,yields,← fails]
              rfl
            obtain ⟨reader'',read,leaves⟩ := ih (acc ++ buf) fewer (by rw [List.length_append]; omega)
            rw [goesOn] at read
            refine ⟨reader'',read,⟨leaves.writes.trans writes,leaves.reads.trans reads,?_,?_⟩⟩
            · intro line yielded
              obtain ⟨whole,later⟩ := leaves.line line (by rw [goesOn,yielded])
              refine ⟨?_,later.trans fails⟩
              rw [← whole,left,split,List.append_assoc]
            · intro yielded proper
              exact leaves.ended (by rw [goesOn,yielded]) fun recv member => proper recv (reads.subset member)

end

/-- Reading a line yields what the bytes to come decide. -/
theorem read_line_loop_next (reader : BufReader) :
    ∃ reader', Leaves [] reader reader' ∧ read_line_loop (reader.inner.reads.length + 2) [] reader =
      (next_line [] reader.pending (failing reader.inner.reads),reader') := by
  have enough : reader.buffers < reader.inner.reads.length + 2 := by
    unfold BufReader.buffers
    split <;> omega
  obtain ⟨reader',read,leaves⟩ := read_line_loop_eq [] enough (by simp [MAX_LINE_LENGTH])
  exact ⟨reader',leaves,read⟩

/-! ### The sessions that read -/

section
variable {H Effect : Type} (s : Session H Effect)

/-- `events` were done from `s` to `t`, and nothing else that decides later
    steps. -/
def Did (s : Session H Effect) (events : List (Event Effect)) (t : Session H Effect) : Prop :=
  t.trace = s.trace ++ events ∧ t.view = s.view

theorem did_refl : Did s [] s := ⟨by simp,rfl⟩

theorem Did.trans {s t u : Session H Effect} {first later : List (Event Effect)} (one : Did s first t)
    (two : Did t later u) : Did s (first ++ later) u :=
  ⟨by rw [two.1,one.1,List.append_assoc],two.2.trans one.2⟩

theorem view_with_stream {c : Connection} {stream : BufReader} (connected : s.connection = some c)
    (trace : List (Event Effect)) :
    ({ s with connection := some (c.with_stream stream), trace := trace } : Session H Effect).view = s.view := by
  simp [Session.view,connected]

theorem get_connection_spec :
    ⦃fun t => ⌜t = s⌝⦄ get_connection
    ⦃post⟨fun c t => ⌜t = s ∧ s.connection = some c⌝,fun _ t => ⌜t = s⌝⟩⦄ := by
  mvcgen [get_connection]
  all_goals simp_all

theorem reply_spec (response : Response) :
    ⦃fun t => ⌜t = s⌝⦄ reply response
    ⦃post⟨fun _ t => ⌜Did s [.Reply response] t⌝,fun _ t => ⌜Did s [] t⌝⟩⦄ := by
  mvcgen [reply,log,get_connection_spec]
  case vc1 start same connection sent written state here _ _ =>
    obtain ⟨rfl,connected⟩ := here
    subst same
    obtain ⟨stream,-,rfl⟩ := Option.map_eq_some_iff.mp written
    exact ⟨rfl,view_with_stream _ connected _⟩
  case vc2 start same _ _ state here => exact here.1 ▸ same ▸ did_refl _
  case vc3 start same _ state =>
    intro here
    exact here ▸ same ▸ did_refl _

end

namespace Session
variable {H Effect : Type} {s t : Session H Effect} {line rest : Bytes}

/-- What is buffered, and what is to be read after it. -/
def incoming (s : Session H Effect) : Bytes × List Recv :=
  s.connection.elim ([],[]) fun c => (c.stream.buffer,c.stream.inner.reads)

def pending (s : Session H Effect) : Bytes := s.connection.elim [] fun c => c.stream.pending

theorem pending_eq (s : Session H Effect) : s.pending = s.incoming.1 ++ arriving s.incoming.2 := by
  cases connected : s.connection with
  | none => simp [pending,incoming,connected,arriving]
  | some c => simp [pending,incoming,connected,BufReader.pending]

/-- The client's stream stays closed once it is. -/
def Proper (s : Session H Effect) : Prop := PostGraph.Proper s.incoming.2

theorem pending_of_incoming (same : t.incoming = s.incoming) : t.pending = s.pending := by
  rw [pending_eq,pending_eq,same]

theorem proper_of_incoming (same : t.incoming = s.incoming) (proper : s.Proper) : t.Proper := by
  unfold Proper at *
  rwa [same]

theorem reply_incoming (incoming : Bytes × List Recv) (response : Response) :
    ⦃fun (t : Session H Effect) => ⌜t.incoming = incoming⌝⦄ reply response
    ⦃post⟨fun _ t => ⌜t.incoming = incoming⌝,fun _ t => ⌜t.incoming = incoming⌝⟩⦄ := by
  mvcgen [reply,log,get_connection_spec]
  case vc1 left connection replied written state here _ _ =>
    obtain ⟨rfl,connected⟩ := here
    obtain ⟨stream,wrote,rfl⟩ := Option.map_eq_some_iff.mp written
    have same := BufReader.write_all_keeps wrote
    rw [← left]
    simp +zetaDelta [Session.incoming,connected,same]
  all_goals simp_all

/-- A reply writes, if it can, and reads nothing. -/
theorem reply_run (s : Session H Effect) (response : Response) :
    Ends (reply response s) (fun _ t => Did s [.Reply response] t ∧ t.incoming = s.incoming)
      (fun _ t => Did s [] t ∧ t.incoming = s.incoming) :=
  (ends_of_triple (reply_spec s response) rfl).and (ends_of_triple (reply_incoming s.incoming response) rfl)

theorem reply_run_spec (s : Session H Effect) (response : Response) :
    ⦃fun t => ⌜t = s⌝⦄ reply response
    ⦃post⟨fun _ t => ⌜Did s [.Reply response] t ∧ t.incoming = s.incoming⌝,
      fun _ t => ⌜Did s [] t ∧ t.incoming = s.incoming⌝⟩⦄ :=
  triple_of_ends fun t same => same ▸ reply_run t response

theorem reply_pending (sent : Bytes) (response : Response) :
    ⦃fun (t : Session H Effect) => ⌜t.pending = sent⌝⦄ reply response
    ⦃post⟨fun _ t => ⌜t.pending = sent⌝,fun _ t => ⌜t.pending = sent⌝⟩⦄ := by
  refine triple_of_ends fun s left => (ends_of_triple (reply_incoming s.incoming response) rfl).mono ?_ ?_
  · exact fun _ t same => (pending_of_incoming same).trans left
  · exact fun _ t same => (pending_of_incoming same).trans left

theorem reply_eq {c : Connection} (connected : s.connection = some c) (response : Response) :
    reply response s = match c.write_all (reply_bytes response) with
      | some c' => .ok () { s with connection := some c', trace := s.trace ++ [Event.Reply response] }
      | none => .error .Io s := by
  obtain ⟨connection,config,state,trace⟩ := s
  obtain rfl := connected
  simp only [reply,get_connection,bind,EStateM.bind,run_get,pure,EStateM.pure,log]
  cases c.write_all (reply_bytes response) <;> rfl

theorem reply_unconnected (lost : s.connection = none) (response : Response) :
    reply response s = .error .NoConnection s := by
  simp only [reply,get_connection,bind,EStateM.bind,run_get,lost]
  rfl

theorem upgrade_eq {c : Connection} (connected : s.connection = some c) :
    upgrade s = match c.start_tls with
      | some c' => .ok () { s with connection := some c', trace := s.trace ++ [Event.TlsStarted] }
      | none => .error .Io { s with connection := none } := by
  obtain ⟨connection,config,state,trace⟩ := s
  obtain rfl := connected
  simp only [upgrade,get_connection,bind,EStateM.bind,run_get,pure,EStateM.pure,run_modify,log]
  cases c.start_tls <;> rfl

theorem upgrade_unconnected (lost : s.connection = none) : upgrade s = .error .NoConnection s := by
  simp only [upgrade,get_connection,bind,EStateM.bind,run_get,lost]
  rfl

theorem read_line_eq {c : Connection} {result : Except SessionError (Option Bytes)} {reader : BufReader}
    (connected : s.connection = some c)
    (read : read_line_loop (c.stream.inner.reads.length + 2) [] c.stream = (result,reader)) :
    read_line s = match result with
      | .ok (some line) =>
        .ok (some line) { s with connection := some (c.with_stream reader), trace := s.trace ++ [Event.Received line] }
      | .ok none => .ok none { s with connection := some (c.with_stream reader) }
      | .error err => .error err { s with connection := some (c.with_stream reader) } := by
  obtain ⟨connection,config,state,trace⟩ := s
  obtain rfl := connected
  simp only [read_line,get_connection,bind,EStateM.bind,run_get,pure,EStateM.pure,read,
    run_modify,log]
  cases result with
  | error err => rfl
  | ok line => cases line <;> rfl

theorem read_line_unconnected (lost : s.connection = none) : read_line s = .error .NoConnection s := by
  simp only [read_line,get_connection,bind,EStateM.bind,run_get,lost]
  rfl

/-- The next `n` writes succeed. -/
def Writable (n : Nat) (s : Session H Effect) : Prop :=
  ∃ c, s.connection = some c ∧ ∀ ok ∈ c.stream.inner.writes.take n, ok = true

theorem Writable.connected {n : Nat} (writable : s.Writable n) : ∃ c, s.connection = some c := by
  obtain ⟨c,connected,-⟩ := writable
  exact ⟨c,connected⟩

theorem Writable.fewer {n m : Nat} (writable : s.Writable m) (fewer : n ≤ m) : s.Writable n := by
  obtain ⟨c,connected,succeed⟩ := writable
  exact ⟨c,connected,fun ok member => succeed ok ((List.take_prefix_take_left fewer).subset member)⟩

theorem reply_writable {n : Nat} (writable : s.Writable (n + 1)) (response : Response) :
    ∃ t, reply response s = .ok () t ∧ Did s [.Reply response] t ∧ t.incoming = s.incoming ∧ t.Writable n := by
  obtain ⟨c,connected,succeed⟩ := writable
  obtain ⟨stream,wrote,later⟩ : ∃ stream, c.stream.write_all (reply_bytes response) = some stream ∧
      ∀ ok ∈ stream.inner.writes.take n, ok = true := by
    unfold BufReader.write_all
    cases writes : c.stream.inner.writes with
    | nil => exact ⟨c.stream,rfl,by simp [writes]⟩
    | cons ok writes' =>
      obtain rfl : ok = true := succeed ok (by simp [writes])
      exact ⟨_,rfl,fun ok member => succeed ok (by simp [writes,List.take_succ_cons,member])⟩
  have written : c.write_all (reply_bytes response) = some (c.with_stream stream) := by
    rw [Connection.write_all,wrote,Option.map_some]
  have replied := reply_eq connected response
  have run := reply_run s response
  rw [written] at replied
  rw [replied] at run
  exact ⟨_,replied,run.1,run.2,_,rfl,by simpa using later⟩

/-- What a session has done when it has tried to read a line. -/
structure Reads (s : Session H Effect) (line : Option Bytes) (t : Session H Effect) : Prop where
  did : Did s (line.toList.map .Received) t
  proper : s.Proper → t.Proper
  taken : ∀ content ∈ line, IsLine content ∧ content.length ≤ MAX_LINE_LENGTH ∧ s.pending = content ++ t.pending
  ended : line = none → s.Proper → t.pending = []
  writable : ∀ n, s.Writable n → t.Writable n
  connection : ∀ c, s.connection = some c → ∃ stream, t.connection = some (c.with_stream stream)

theorem read_line_reads (s : Session H Effect) :
    Ends (read_line s) (fun line t => Reads s line t) (fun _ t => Did s [] t) := by
  cases connected : s.connection with
  | none =>
    rw [read_line_unconnected connected]
    exact did_refl s
  | some c =>
    obtain ⟨reader,leaves,read⟩ := read_line_loop_next c.stream
    have whole : s.pending = c.stream.pending := by rw [pending,connected]; rfl
    rw [← whole] at read
    have reads : s.incoming.2 = c.stream.inner.reads := by simp [incoming,connected]
    have proper (trace : List (Event Effect)) (kept : s.Proper) :
        ({ s with connection := some (c.with_stream reader), trace := trace } : Session H Effect).Proper := by
      intro recv member
      exact kept recv (by rw [reads]; exact leaves.reads.subset (by simpa [incoming] using member))
    have writable (trace : List (Event Effect)) (n : Nat) (kept : s.Writable n) :
        ({ s with connection := some (c.with_stream reader), trace := trace } : Session H Effect).Writable n := by
      obtain ⟨d,same,succeed⟩ := kept
      obtain rfl := Option.some.inj (connected.symm.trans same)
      exact ⟨_,rfl,by simpa [leaves.writes] using succeed⟩
    have stays (d : Connection) (same : some c = some d) : ∃ stream, some (c.with_stream reader) = some (d.with_stream stream) :=
      ⟨reader,by rw [Option.some.inj same]⟩
    cases yields : next_line [] s.pending (failing c.stream.inner.reads) with
    | error err =>
      rw [yields] at read
      rw [read_line_eq connected read]
      exact ⟨(List.append_nil _).symm,view_with_stream _ connected _⟩
    | ok found =>
      rw [yields] at read
      rw [read_line_eq connected read]
      cases found with
      | none =>
        refine ⟨⟨(List.append_nil _).symm,view_with_stream _ connected _⟩,proper _,by simp,fun _ kept => ?_,writable _,fun d same => stays d (connected ▸ same)⟩
        have ended := leaves.ended (by rw [← whole,yields]) (reads ▸ kept)
        simpa [pending] using ended.1
      | some line =>
        refine ⟨⟨rfl,view_with_stream _ connected _⟩,proper _,?_,by simp,writable _,fun d same => stays d (connected ▸ same)⟩
        rintro content ⟨⟩
        obtain ⟨left,-⟩ := leaves.line line (by rw [← whole,yields])
        obtain ⟨complete,short⟩ := next_line_sound yields
        refine ⟨complete,short,?_⟩
        rw [whole]
        simpa [pending] using left

theorem reads_of {found : Option Bytes} (read : read_line s = .ok found t) : Reads s found t := by
  have reads := read_line_reads s
  rwa [read] at reads

theorem read_line_spec (s : Session H Effect) :
    ⦃fun t => ⌜t = s⌝⦄ read_line
    ⦃post⟨fun line t => ⌜Reads s line t⌝,fun _ t => ⌜Did s [] t⌝⟩⦄ :=
  triple_of_ends fun t same => same ▸ read_line_reads t

theorem read_line_complete (sent : s.pending = line ++ rest) (complete : IsLine line)
    (fits : line.length ≤ MAX_LINE_LENGTH) :
    ∃ t, read_line s = .ok (some line) t ∧ Did s [.Received line] t ∧ t.pending = rest := by
  cases connected : s.connection with
  | none =>
    obtain ⟨content,rfl,-⟩ := complete
    simp [pending,connected] at sent
  | some c =>
    obtain ⟨reader,leaves,read⟩ := read_line_loop_next c.stream
    have whole : s.pending = c.stream.pending := by rw [pending,connected]; rfl
    have yields : next_line [] s.pending (failing c.stream.inner.reads) = .ok (some line) := by
      obtain ⟨content,rfl,absent⟩ := complete
      rw [sent,List.append_assoc,List.singleton_append,next_line_complete absent,if_neg (by simpa using fits)]
      rfl
    rw [← whole,yields] at read
    have reads := read_line_reads s
    rw [read_line_eq connected read] at reads
    obtain ⟨-,-,left⟩ := reads.taken line rfl
    exact ⟨_,read_line_eq connected read,reads.did,(List.append_cancel_left (left.symm.trans sent))⟩

/-- What is read is the line that was sent first, and it is short enough. -/
theorem read_line_sound (read : read_line s = .ok (some line) t) :
    IsLine line ∧ line.length ≤ MAX_LINE_LENGTH ∧ s.pending = line ++ t.pending :=
  (reads_of read).taken line rfl

variable [Handler H Effect] [Base64]

theorem turn_eq (read : read_line s = .ok (some line) t) : turn s = handle_line line t := by
  simp only [turn,bind,EStateM.bind,read]

/-- A turn that reads no line ends the session, and does nothing else. -/
theorem turn_silent (silent : ∀ line t, read_line s ≠ .ok (some line) t) :
    ∃ err t, turn s = .error err t ∧ Did s [] t := by
  have reads := read_line_reads s
  cases read : read_line s with
  | error err t =>
    rw [read] at reads
    exact ⟨err,t,by simp only [turn,bind,EStateM.bind,read],reads⟩
  | ok line t =>
    cases line with
    | some line => exact absurd read (silent line t)
    | none =>
      rw [read] at reads
      exact ⟨.UnexpectedEof,t,by simp only [turn,bind,EStateM.bind,read]; rfl,reads.did⟩

end Session
end PostGraph
