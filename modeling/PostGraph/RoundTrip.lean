import PostGraph.Capture
import PostGraph.Smuggling

/-!
A message that is sent line by line arrives as it was, if it is not longer than a mail may
be; otherwise it is turned down as a whole.
-/
namespace PostGraph
open Programs Session
set_option autoImplicit false

section
variable {H Effect : Type} [Handler H Effect] [Base64] {s : Session H Effect} {line rest : Bytes} {lines : List Bytes}

/-! ### One line of data -/

omit [Base64] in
/-- End of data: the mail is handed over, and what came of it is the reply. -/
theorem handle_data_line_delivers (done : is_data_end line = true) (writable : s.Writable 1) :
    ∃ (effects : List Effect) (result : Except Text Unit) (t : Session H Effect), handle_data_line line s = .ok () t ∧
      t.trace = s.trace ++ (effects.map .Effect ++ [Event.OnMail s.state.current_mail result,.Reply (mail_reply result)]) ∧
      t.state = { s.state with current_mail := .empty, phase := .Greeted } ∧ t.pending = s.pending := by
  let outcome := Handler.on_mail s.config.handler s.state.current_mail
  let called : Session H Effect := { s with
    config.handler := outcome.handler
    trace := s.trace ++ (outcome.effects.map .Effect ++ [Event.OnMail s.state.current_mail outcome.result]) }
  have ended : handle_data line s = .ok .DataEnd s := by
    simp only [handle_data,done,if_true]
    rfl
  have ran : on_mail s.state.current_mail s = .ok outcome.result called := rfl
  obtain ⟨t,replied,did,incoming,-⟩ := reply_writable (s := called) writable (mail_reply outcome.result)
  refine ⟨outcome.effects,outcome.result,{ t with state := { t.state with current_mail := .empty, phase := .Greeted } },?_,
    ?_,?_,?_⟩
  · rw [handle_data_line,bind_ok ended]
    refine (bind_ok (run_get s)).trans ((bind_ok ran).trans ?_)
    cases result : outcome.result with
    | error err =>
      rw [result] at replied
      exact bind_ok replied
    | ok _ =>
      rw [result] at replied
      exact bind_ok replied
  · simp [did.1,called]
  · have same : t.state = called.state := congrArg View.state did.2
    simp [same,called]
  · exact pending_of_incoming incoming

omit [Base64] in
theorem handle_data_line_overflows (more : is_data_end line = false)
    (exceeds : s.state.current_mail.data_length + (unstuff line).length > s.config.max_message_size) :
    handle_data_line line s = (do
      reply DATA_TOO_LONG
      throw .DataTooLong : SessionM H Effect Unit) s := by
  simp only [handle_data_line,handle_data,bind,EStateM.bind,run_get,more,exceeds,Bool.false_eq_true,if_false,if_true]
  cases reply DATA_TOO_LONG s <;> rfl

theorem turn_overflows (data : s.state.phase = .Data) (sent : s.pending = line ++ rest) (complete : IsLine line)
    (short : line.length ≤ MAX_LINE_LENGTH) (more : is_data_end line = false)
    (exceeds : s.state.current_mail.data_length + (unstuff line).length > s.config.max_message_size) :
    ∃ (err : SessionError) (replied : List (Event Effect)) (t : Session H Effect), turn s = .error err t ∧
      t.trace = s.trace ++ Event.Received line :: replied ∧ (replied = [] ∨ replied = [.Reply DATA_TOO_LONG]) ∧
      (s.Writable 1 → err = .DataTooLong ∧ replied = [.Reply DATA_TOO_LONG]) := by
  obtain ⟨r,read,⟨trace,view⟩,-⟩ := read_line_complete sent complete short
  have state : r.state = s.state := congrArg View.state view
  have config : r.config = s.config := congrArg View.config view
  have refuses := handle_data_line_overflows (s := r) more (by rw [state,config]; exact exceeds)
  have turned := (turn_eq read).trans (handle_line_data (show r.state.phase = .Data by rw [state]; exact data))
  have run := reply_run r DATA_TOO_LONG
  cases replied : reply DATA_TOO_LONG r with
  | error err t =>
    rw [replied] at run
    refine ⟨err,[],t,?_,by simp [run.1.1,trace],.inl rfl,?_⟩
    · rw [turned,bind_error (refuses.trans (bind_error replied))]
    · intro writable
      obtain ⟨_,succeeds,-⟩ := reply_writable ((reads_of read).writable 1 writable) DATA_TOO_LONG
      rw [replied] at succeeds
      cases succeeds
  | ok _ t =>
    rw [replied] at run
    refine ⟨.DataTooLong,[.Reply DATA_TOO_LONG],t,?_,by simp [run.1.1,trace],.inr rfl,fun _ => ⟨rfl,rfl⟩⟩
    rw [turned,bind_error (refuses.trans (bind_ok replied))]

theorem turn_delivers (data : s.state.phase = .Data) (sent : s.pending = line ++ rest) (complete : IsLine line)
    (short : line.length ≤ MAX_LINE_LENGTH) (done : is_data_end line = true) (writable : s.Writable 1) :
    ∃ (effects : List Effect) (result : Except Text Unit) (t : Session H Effect), turn s = .ok .Continue t ∧
      t.trace = s.trace ++ Event.Received line ::
        (effects.map .Effect ++ [Event.OnMail s.state.current_mail result,.Reply (mail_reply result)]) ∧
      t.state = { s.state with current_mail := .empty, phase := .Greeted } ∧ t.pending = rest := by
  obtain ⟨r,read,⟨trace,view⟩,left⟩ := read_line_complete sent complete short
  have state : r.state = s.state := congrArg View.state view
  obtain ⟨effects,result,t,delivered,trace',state',pending⟩ :=
    handle_data_line_delivers done ((reads_of read).writable 1 writable)
  refine ⟨effects,result,t,?_,by simp [trace',trace,state],state ▸ state',pending.trans left⟩
  rw [turn_eq read,handle_line_data (by rw [state]; exact data),bind_ok delivered]
  rfl

/-! ### A message line by line -/

omit [Handler H Effect] [Base64] in
/-- What is kept of the stuffed lines are the lines. -/
theorem kept_stuffed (lines : List Bytes) : kept (lines.map stuff) = lines.flatten := by
  rw [kept,List.map_map]
  exact congrArg List.flatten (List.map_id'' (fun line => (stuff_kept line).2) lines)

omit [Handler H Effect] [Base64] in
theorem isLine_stuff (complete : IsLine line) : IsLine (stuff line) := by
  unfold stuff
  split_ifs with dotted
  · obtain ⟨content,rfl,absent⟩ := complete
    exact ⟨DOT :: content,rfl,by simp [absent,Ne.symm dot_ne_lf]⟩
  · exact complete

/-- The lines of a message that can be read when they are stuffed. -/
def Readable (lines : List Bytes) : Prop := ∀ line ∈ lines, IsLine line ∧ (stuff line).length ≤ MAX_LINE_LENGTH

omit [Handler H Effect] [Base64] in
theorem Readable.stuffed (readable : Readable lines) :
    ∀ sent ∈ lines.map stuff, IsLine sent ∧ sent.length ≤ MAX_LINE_LENGTH ∧ is_data_end sent = false := by
  rw [List.forall_mem_map]
  intro line member
  obtain ⟨complete,short⟩ := readable line member
  exact ⟨isLine_stuff complete,short,(stuff_kept line).1⟩

/-- The lines are captured up to the one that is too many; there the message is
    turned down, and the session ends. -/
theorem loop_overflows (lines : List Bytes) (rest : Bytes) (data : s.state.phase = .Data)
    (sent : s.pending = (lines.map stuff).flatten ++ rest) (readable : Readable lines)
    (within : s.state.current_mail.data_length ≤ s.config.max_message_size)
    (exceeds : s.state.current_mail.data_length + lines.flatten.length > s.config.max_message_size) :
    ∃ (before : List Bytes) (err : SessionError) (replied : List (Event Effect)) (t : Session H Effect),
      before <+: lines ∧ (∀ m, loop (lines.length + m) s = .error err t) ∧
      t.trace = s.trace ++ ((before.map stuff).map .Received ++ replied) ∧
      (replied = [] ∨ replied = [.Reply DATA_TOO_LONG]) ∧
      (s.Writable 1 → err = .DataTooLong ∧ replied = [.Reply DATA_TOO_LONG]) := by
  induction lines generalizing s with
  | nil =>
    simp only [List.flatten_nil,List.length_nil] at exceeds
    omega
  | cons line lines ih =>
    obtain ⟨complete,short⟩ := readable line (by simp)
    obtain ⟨more,same⟩ := stuff_kept line
    have whole := isLine_stuff complete
    have first : s.pending = stuff line ++ ((lines.map stuff).flatten ++ rest) := by simp [sent]
    have count (m : Nat) : (line :: lines).length + m = (lines.length + m) + 1 := by simp; omega
    by_cases fits : s.state.current_mail.data_length + line.length ≤ s.config.max_message_size
    · obtain ⟨r,turned,left,trace,config,state,later⟩ := turn_captured data first whole short more (by rw [same]; exact fits)
      have captured : r.state.current_mail.data_length = s.state.current_mail.data_length + line.length := by
        simp [state,same,Mail.data_length,Mail.append_data]
      obtain ⟨before,err,replied,t,taken,looped,trace',answer,answers⟩ := ih (s := r) (by rw [state]; exact data) left
        (fun l member => readable l (by simp [member])) (by rw [captured,config]; exact fits)
        (by
          rw [captured,config]
          simp only [List.flatten_cons,List.length_append] at exceeds
          omega)
      refine ⟨line :: before,err,replied,t,?_,?_,by simp [trace',trace],answer,fun writable => answers (later 1 writable)⟩
      · exact List.cons_prefix_cons.mpr ⟨rfl,taken⟩
      · intro m
        rw [count,loop,bind_ok turned]
        exact looped m
    · obtain ⟨err,replied,t,turned,trace,answer,answers⟩ :=
        turn_overflows data first whole short more (by rw [same]; omega)
      refine ⟨[line],err,replied,t,?_,?_,by simp [trace],answer,answers⟩
      · exact List.cons_prefix_cons.mpr ⟨rfl,List.nil_prefix⟩
      · intro m
        rw [count,loop,bind_error turned]

/-- The lines are captured, and at the end of the data the mail is handed over. -/
theorem loop_delivers (lines : List Bytes) (last rest : Bytes) (data : s.state.phase = .Data)
    (sent : s.pending = (lines.map stuff).flatten ++ (last ++ rest)) (readable : Readable lines)
    (terminator : last = DOT :: CRLF ∨ last = [DOT,LF])
    (fits : s.state.current_mail.data_length + lines.flatten.length ≤ s.config.max_message_size) :
    ∃ (effects : List Effect) (result : Except Text Unit) (replied : List (Event Effect)),
      (final (loop (lines.length + 1) s)).trace = s.trace ++ ((lines.map stuff).map .Received ++ Event.Received last ::
        (effects.map .Effect ++ Event.OnMail (s.state.current_mail.append_data lines.flatten) result :: replied)) ∧
      (∀ e ∈ replied, ∃ response, e = .Reply response) ∧ (final (loop (lines.length + 1) s)).pending = rest ∧
      (s.Writable 1 → replied = [.Reply (mail_reply result)] ∧ ∃ t,
        (∀ m, loop (lines.length + 1 + m) s = loop m t) ∧ t.pending = rest ∧
        t.state = { s.state with current_mail := .empty, phase := .Greeted }) := by
  have ends : is_data_end last = true := by rcases terminator with rfl | rfl <;> rfl
  have whole : IsLine last := by
    rcases terminator with rfl | rfl
    · exact ⟨[DOT,CR],rfl,by decide⟩
    · exact ⟨[DOT],rfl,by decide⟩
  have short : last.length ≤ MAX_LINE_LENGTH := by rcases terminator with rfl | rfl <;> decide
  have same := kept_stuffed lines
  obtain ⟨r,looped,left,trace,config,state,later⟩ :=
    loop_captured (lines.map stuff) (last ++ rest) data sent readable.stuffed (by rw [same]; exact fits)
  rw [same] at state
  rw [List.length_map] at looped
  have inData : r.state.phase = .Data := by rw [state]; exact data
  have ran : loop (lines.length + 1) s = loop 1 r := looped 1
  by_cases writable : s.Writable 1
  · obtain ⟨effects,result,t,turned,trace',state',pending⟩ := turn_delivers inData left whole short ends (later 1 writable)
    have once : final (loop 1 r) = t := by rw [final_loop_one,turned]; rfl
    refine ⟨effects,result,[.Reply (mail_reply result)],?_,by simp,by rw [ran,once,pending],fun _ => ⟨rfl,t,?_,pending,?_⟩⟩
    · rw [ran,once,trace',trace,state,List.append_assoc]
    · intro m
      rw [Nat.add_assoc,looped,Nat.add_comm 1 m,loop,bind_ok turned]
    · simp [state',state]
  · obtain ⟨effects,result,replied,trace',replies,pending⟩ := turn_ended inData left whole short ends
    refine ⟨effects,result,replied,?_,replies,?_,fun possible => absurd possible writable⟩
    · rw [ran,final_loop_one,trace',trace,state,List.append_assoc]
    · rw [ran,final_loop_one,pending]

omit [Handler H Effect] [Base64] in
theorem no_mails (received : List Bytes) (replied : List (Event Effect))
    (replies : ∀ e ∈ replied, ∃ response, e = .Reply response) :
    List.filterMap mail_of (received.map .Received ++ replied) = [] := by
  apply List.filterMap_eq_nil_iff.mpr
  intro e member
  rcases List.mem_append.mp member with inside | inside
  · obtain ⟨line,-,rfl⟩ := List.mem_map.mp inside
    rfl
  · obtain ⟨response,rfl⟩ := replies e inside
    rfl

/-- A message of lines that end with LF is sent with a dot before every line that begins
    with one, and ended by a line of one dot. However it is split into reads, the session
    hands over one mail, with the message as it was, if it is not longer than a mail may
    be; then it goes on with what was sent after it. Otherwise the message is turned
    down with 552, the session ends, and no mail is handed over. No session ever holds
    more than a mail may have, and none before DATA. -/
theorem message_round_trip (s : Session H Effect) (lines : List Bytes) (last rest : Bytes) (data : s.state.phase = .Data)
    (fresh : s.state.current_mail.data = []) (readable : Readable lines)
    (terminator : last = DOT :: CRLF ∨ last = [DOT,LF])
    (sent : s.pending = (lines.map stuff).flatten ++ (last ++ rest)) :
    (∃ events, (final (loop (lines.length + 1) s)).trace = s.trace ++ events ∧ events.filterMap mail_of =
      if lines.flatten.length ≤ s.config.max_message_size then [{ s.state.current_mail with data := lines.flatten }]
      else []) ∧
    (lines.flatten.length ≤ s.config.max_message_size → s.Writable 1 →
      ∃ (effects : List Effect) (result : Except Text Unit) (t : Session H Effect),
      (∀ m, loop (lines.length + 1 + m) s = loop m t) ∧
      t.trace = s.trace ++ ((lines.map stuff).map .Received ++ Event.Received last :: (effects.map .Effect ++
        [Event.OnMail { s.state.current_mail with data := lines.flatten } result,.Reply (mail_reply result)])) ∧
      t.state = { s.state with current_mail := .empty, phase := .Greeted } ∧ t.pending = rest) ∧
    (s.config.max_message_size < lines.flatten.length → ∃ (before : List Bytes) (err : SessionError)
      (replied : List (Event Effect)) (t : Session H Effect), before <+: lines ∧
      (∀ m, loop (lines.length + m) s = .error err t) ∧
      t.trace = s.trace ++ ((before.map stuff).map .Received ++ replied) ∧
      (replied = [] ∨ replied = [.Reply DATA_TOO_LONG]) ∧
      (s.Writable 1 → err = .DataTooLong ∧ replied = [.Reply DATA_TOO_LONG])) ∧
    ∀ (connection : Connection) (config : SessionConfig H) (n : Nat),
      Within (final (handle n (.new connection config))) ∧
      ∀ t, handle n (.new connection config) = .ok none t → t.state.phase ≠ .Data → t.state.current_mail.data = [] := by
  have nothing : s.state.current_mail.data_length = 0 := by simp [Mail.data_length,fresh]
  have message : s.state.current_mail.append_data lines.flatten = { s.state.current_mail with data := lines.flatten } := by
    simp [Mail.append_data,fresh]
  have overflows (long : s.config.max_message_size < lines.flatten.length) :=
    loop_overflows lines (last ++ rest) data sent readable (by omega) (by omega)
  refine ⟨?_,?_,overflows,fun connection config n => ⟨within_handle connection config n,fun t => fresh_handle⟩⟩
  · by_cases fits : lines.flatten.length ≤ s.config.max_message_size
    · obtain ⟨effects,result,replied,trace,replies,-⟩ := loop_delivers lines last rest data sent readable terminator (by omega)
      refine ⟨_,trace,?_⟩
      have others := no_mails [] replied replies
      rw [List.map_nil,List.nil_append] at others
      rw [mails_ended,others,if_pos fits,message]
    · obtain ⟨before,err,replied,t,-,looped,trace,answer,-⟩ := overflows (by omega)
      have ended : final (loop (lines.length + 1) s) = t := by rw [looped]; rfl
      refine ⟨_,ended ▸ trace,?_⟩
      rw [if_neg fits,no_mails]
      rcases answer with rfl | rfl <;> simp
  · intro fits writable
    obtain ⟨effects,result,replied,trace,-,-,goes⟩ := loop_delivers lines last rest data sent readable terminator (by omega)
    obtain ⟨rfl,t,looped,pending,state⟩ := goes writable
    have ended : final (loop (lines.length + 1) s) = t := by
      rw [← Nat.add_zero (lines.length + 1),looped]
      rfl
    rw [ended,message] at trace
    exact ⟨effects,result,t,looped,trace,state,pending⟩

end

section
attribute [local instance] Sample.argon2 Sample.base64

theorem message_round_trip_sample : ∃ (result : Except Text Unit) (t : Session ProxyHandler ProxyEffect),
    (∀ m, loop (3 + m) (sampleData "..\r\nhi\n.\nQUIT\r\n") = loop m t) ∧
    .OnMail { (sampleData "..\r\nhi\n.\nQUIT\r\n").state.current_mail with data := ascii ".\r\nhi\n" } result ∈ t.trace ∧
    t.state.phase = .Greeted ∧ t.pending = ascii "QUIT\r\n" := by
  have dotted : IsLine (ascii ".\r\n") := ⟨ascii ".\r",by decide,by decide⟩
  have plain : IsLine (ascii "hi\n") := ⟨ascii "hi",by decide,by decide⟩
  obtain ⟨-,delivers,-⟩ := message_round_trip (sampleData "..\r\nhi\n.\nQUIT\r\n") [ascii ".\r\n",ascii "hi\n"] [DOT,LF]
    (ascii "QUIT\r\n") (by decide +kernel) (by decide +kernel) (by simp [Readable,dotted,plain]; decide) (.inr rfl)
    (by decide +kernel)
  have writable : Writable 1 (sampleData "..\r\nhi\n.\nQUIT\r\n") := by
    have open' : (sampleData "..\r\nhi\n.\nQUIT\r\n").connection.map (·.stream.inner.writes) = some [] := by decide +kernel
    obtain ⟨c,connected,none⟩ := Option.map_eq_some_iff.mp open'
    exact ⟨c,connected,by simp [none]⟩
  have message : [ascii ".\r\n",ascii "hi\n"].flatten = ascii ".\r\nhi\n" := by decide
  obtain ⟨effects,result,t,looped,trace,state,pending⟩ := delivers (by decide +kernel) writable
  rw [message] at trace
  exact ⟨result,t,looped,by simp [trace],by rw [state],pending⟩

end
end PostGraph
