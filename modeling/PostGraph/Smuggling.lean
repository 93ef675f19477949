import PostGraph.Alike
import PostGraph.Proxy

/-!
The end of the data. A message is lines that end with CRLF, sent with their leading
dots doubled and followed by a line of one dot; the session takes LF for the end of
a line. A message is taken as it was meant exactly if none of its bare LFs is
followed by what the session reads as a doubled dot or as the end.
-/
namespace PostGraph
open Std.Do Programs Session
set_option mvcgen.warning false
set_option autoImplicit false

/-- A line of a message, without the CRLF that ends it. -/
structure MessageLine where
  content : Bytes
  plain : ¬ CRLF <:+: content

/-- A dot is put before a line that begins with one. -/
def stuff (line : Bytes) : Bytes := if line.head? = some DOT then DOT :: line else line

namespace MessageLine

def bytes (self : MessageLine) : Bytes := self.content ++ CRLF
def stuffed (self : MessageLine) : Bytes := stuff self.content ++ CRLF

end MessageLine

/-- A message body, and what a client sends for it. -/
def body (lines : List MessageLine) : Bytes := lines.flatMap MessageLine.bytes
def stuffed_body (lines : List MessageLine) : Bytes := lines.flatMap MessageLine.stuffed

/-! ### Pieces of the body -/

/-- What the session keeps of lines of data. -/
def kept (lines : List Bytes) : Bytes := (lines.map unstuff).flatten

/-- Only a doubled dot is changed. -/
theorem unstuff_eq_iff {line : Bytes} : unstuff line = line ↔ ¬ [DOT,DOT] <+: line := by
  unfold unstuff
  split_ifs with doubled
  · refine iff_of_false ?_ (not_not.mpr doubled)
    obtain ⟨rest,rfl⟩ := doubled
    intro same
    have lengths := congrArg List.length same
    simp at lengths
  · simp [doubled]

theorem dot_ne_lf : DOT ≠ LF := by decide
theorem dot_ne_cr : DOT ≠ CR := by decide

/-- A stuffed line neither ends the data nor loses anything. -/
theorem stuff_kept (line : Bytes) : is_data_end (stuff line) = false ∧ unstuff (stuff line) = line := by
  cases line with
  | nil => decide
  | cons b rest =>
    by_cases dot : b = DOT
    · subst dot
      simp [stuff,is_data_end,unstuff,dot_ne_lf,dot_ne_cr]
    · have other : ¬ [DOT,DOT] <+: b :: rest := by simp [Ne.symm dot]
      have stuffed : stuff (b :: rest) = b :: rest := by simp [stuff,dot]
      rw [stuffed,unstuff_eq_iff.mpr other]
      simp [is_data_end,dot]

def cut (line : MessageLine) : List (Bytes × Bytes) :=
  match Lines.pieces LF line.bytes with
  | [] => []
  | first :: others => (stuff first,first) :: others.map fun piece => (piece,piece)

def cuts (lines : List MessageLine) : List (Bytes × Bytes) := lines.flatMap cut

/-- The session takes the piece as it is meant. -/
def Taken (piece : Bytes × Bytes) : Prop := is_data_end piece.1 = false ∧ unstuff piece.1 = piece.2

theorem bytes_eq (line : MessageLine) : line.bytes = (line.content ++ [CR]) ++ [LF] := by simp [MessageLine.bytes]

theorem pieces_stuffed (line : MessageLine) : ∃ first others, Lines.pieces LF line.bytes = first :: others ∧
    Lines.pieces LF line.stuffed = stuff first :: others := by
  obtain ⟨first,others,meant⟩ := List.exists_cons_of_ne_nil
    (Lines.pieces_ne_nil LF (show line.bytes ≠ [] by simp [MessageLine.bytes]))
  refine ⟨first,others,meant,?_⟩
  have nonempty : first ≠ [] :=
    (Lines.isPiece_of_mem (line.content ++ [CR]) (by rw [← bytes_eq,meant]; simp)).ne_nil
  have whole : first ++ others.flatten = line.bytes := by rw [← Lines.flatten_pieces LF line.bytes,meant]; rfl
  have head : line.bytes.head? = first.head? := by rw [← whole,List.head?_append_of_ne_nil _ nonempty]
  by_cases dot : line.content.head? = some DOT
  · have dotted : first.head? = some DOT := by
      rw [← head,MessageLine.bytes,List.head?_append,dot]
      rfl
    have stuffed : line.stuffed = DOT :: line.bytes := by simp [MessageLine.stuffed,MessageLine.bytes,stuff,dot]
    simp [stuffed,Lines.pieces,meant,stuff,dotted,dot_ne_lf]
  · have undotted : ¬ first.head? = some DOT := by
      rw [← head,MessageLine.bytes,List.head?_append]
      cases content : line.content.head? with
      | none => simp [Ne.symm dot_ne_cr]
      | some b => simpa [content] using dot
    have stuffed : line.stuffed = line.bytes := by simp [MessageLine.stuffed,MessageLine.bytes,stuff,dot]
    rw [stuffed,meant,stuff,if_neg undotted]

theorem cut_sent (line : MessageLine) : (cut line).map Prod.fst = Lines.pieces LF line.stuffed := by
  obtain ⟨first,others,meant,sent⟩ := pieces_stuffed line
  simp [cut,meant,sent,Function.comp_def]

theorem cut_meant (line : MessageLine) : (cut line).map Prod.snd = Lines.pieces LF line.bytes := by
  obtain ⟨first,others,meant,sent⟩ := pieces_stuffed line
  simp [cut,meant,Function.comp_def]

theorem cuts_sent (lines : List MessageLine) : (cuts lines).map Prod.fst = Lines.pieces LF (stuffed_body lines) := by
  induction lines with
  | nil => rfl
  | cons line lines ih =>
    have ends : line.stuffed ++ stuffed_body lines = (stuff line.content ++ [CR]) ++ LF :: stuffed_body lines := by
      simp [MessageLine.stuffed]
    rw [cuts,List.flatMap_cons,List.map_append,cut_sent,stuffed_body,List.flatMap_cons,← stuffed_body,ends,
      Lines.pieces_append,← ih]
    simp [cuts,MessageLine.stuffed]

theorem cuts_meant (lines : List MessageLine) : ((cuts lines).map Prod.snd).flatten = body lines := by
  induction lines with
  | nil => rfl
  | cons line lines ih =>
    rw [cuts,List.flatMap_cons,List.map_append,List.flatten_append,cut_meant,Lines.flatten_pieces]
    exact congrArg (line.bytes ++ ·) ih

theorem mem_cut {line : MessageLine} {piece : Bytes × Bytes} (member : piece ∈ cut line) :
    IsLine piece.2 ∧ (piece.1 = stuff piece.2 ∨ piece.1 = piece.2 ∧ piece.2 ∈ (Lines.pieces LF line.bytes).tail) := by
  obtain ⟨first,others,meant,-⟩ := pieces_stuffed line
  have complete : ∀ p ∈ first :: others, IsLine p := by
    intro p inside
    exact Lines.isPiece_of_mem (line.content ++ [CR]) (by rw [← bytes_eq,meant]; exact inside)
  simp only [cut,meant,List.mem_cons,List.mem_map] at member
  rcases member with rfl | ⟨p,inside,rfl⟩
  · exact ⟨complete first (by simp),.inl rfl⟩
  · exact ⟨complete p (by simp [inside]),.inr ⟨rfl,by simpa [meant] using inside⟩⟩

/-- A piece is kept in full length at most, and changed if it is not. -/
theorem cut_kept {lines : List MessageLine} {piece : Bytes × Bytes} (member : piece ∈ cuts lines) :
    IsLine piece.1 ∧ piece.2 ≠ [] ∧ (unstuff piece.1).length ≤ piece.2.length ∧
      ((unstuff piece.1).length = piece.2.length → unstuff piece.1 = piece.2) := by
  obtain ⟨line,-,inside⟩ := List.mem_flatMap.mp member
  obtain ⟨complete,kind⟩ := mem_cut inside
  have sent : IsLine piece.1 := by
    apply Lines.isPiece_of_mem (stuff line.content ++ [CR])
    have known := List.mem_map_of_mem (f := Prod.fst) inside
    rw [cut_sent] at known
    simpa [MessageLine.stuffed] using known
  rcases kind with stuffed | ⟨bare,-⟩
  · rw [stuffed,(stuff_kept piece.2).2]
    exact ⟨stuffed ▸ sent,complete.ne_nil,Nat.le_refl _,fun _ => rfl⟩
  · rw [bare]
    refine ⟨complete,complete.ne_nil,?_⟩
    unfold unstuff
    split_ifs with doubled
    · obtain ⟨rest,split⟩ := doubled
      rw [← split]
      simp
    · exact ⟨Nat.le_refl _,fun _ => rfl⟩

theorem kept_length {pieces : List (Bytes × Bytes)} (known : ∀ piece ∈ pieces, (unstuff piece.1).length ≤ piece.2.length ∧
      ((unstuff piece.1).length = piece.2.length → unstuff piece.1 = piece.2)) :
    (kept (pieces.map Prod.fst)).length ≤ (pieces.map Prod.snd).flatten.length ∧
      ((kept (pieces.map Prod.fst)).length = (pieces.map Prod.snd).flatten.length →
        ∀ piece ∈ pieces, unstuff piece.1 = piece.2) := by
  induction pieces with
  | nil => simp [kept]
  | cons piece pieces ih =>
    obtain ⟨short,exact'⟩ := known piece (by simp)
    obtain ⟨shorter,others⟩ := ih fun p member => known p (by simp [member])
    simp only [kept,List.map_cons,List.flatten_cons,List.length_append,List.forall_mem_cons] at shorter others ⊢
    refine ⟨by omega,fun same => ⟨exact' (by omega),others (by omega)⟩⟩

/-- No bare LF of the line is followed by what is read as a doubled dot or as the
    end of the data. -/
def Unambiguous (line : MessageLine) : Prop :=
  ∀ before after, line.bytes = before ++ LF :: after →
    ¬ [DOT,DOT] <+: after ∧ ¬ [DOT,LF] <+: after ∧ ¬ DOT :: CRLF <+: after

instance (piece : Bytes × Bytes) : Decidable (Taken piece) := inferInstanceAs (Decidable (_ ∧ _))

theorem unambiguous_iff {line : MessageLine} : (∀ piece ∈ cut line, Taken piece) ↔ Unambiguous line := by
  obtain ⟨first,others,meant,-⟩ := pieces_stuffed line
  have tail (piece : Bytes) : piece ∈ others ↔
      IsLine piece ∧ ∃ before after, line.bytes = before ++ LF :: (piece ++ after) := by
    have known : piece ∈ (Lines.pieces LF (line.content ++ [CR] ++ [LF])).tail ↔ _ := Lines.mem_tail_pieces
    rwa [← bytes_eq,meant,List.tail_cons] at known
  have whole : (∀ piece ∈ cut line, Taken piece) ↔ ∀ piece ∈ others, Taken (piece,piece) := by
    simp only [cut,meant,List.forall_mem_cons,List.forall_mem_map]
    exact and_iff_right (stuff_kept first)
  rw [whole]
  constructor
  · intro taken before after split
    rcases List.eq_nil_or_concat after with rfl | ⟨front,last,concat⟩
    · simp
    · rw [List.concat_eq_append] at concat
      have ends : (before ++ LF :: front ++ [last]).getLast? = (line.content ++ [CR] ++ [LF]).getLast? := by
        rw [← bytes_eq,split,concat]
        simp
      rw [List.getLast?_concat,List.getLast?_concat] at ends
      obtain ⟨content,more,rfl,absent⟩ : ∃ content more, after = content ++ LF :: more ∧ LF ∉ content :=
        List.eq_append_cons_of_mem (by simp [concat,Option.some.inj ends])
      have complete : IsLine (content ++ [LF]) := ⟨content,rfl,absent⟩
      obtain ⟨goesOn,same⟩ := taken _ ((tail (content ++ [LF])).mpr ⟨complete,before,more,by simpa using split⟩)
      rw [List.append_cons]
      refine ⟨?_,?_,?_⟩
      · rw [complete.prefix_iff (by simp [Ne.symm dot_ne_lf])]
        exact unstuff_eq_iff.mp same
      · rintro ⟨rest,begins⟩
        have ended : IsLine [DOT,LF] := ⟨[DOT],rfl,by simp [Ne.symm dot_ne_lf]⟩
        rw [(complete.unique ended begins.symm).1] at goesOn
        simp [is_data_end] at goesOn
      · rintro ⟨rest,begins⟩
        have ended : IsLine (DOT :: CRLF) := ⟨[DOT,CR],rfl,by decide⟩
        rw [(complete.unique ended begins.symm).1] at goesOn
        simp [is_data_end] at goesOn
  · intro clean piece member
    obtain ⟨complete,before,after,split⟩ := (tail piece).mp member
    obtain ⟨doubled,ended,ended'⟩ := clean before (piece ++ after) split
    constructor
    · by_contra done
      have ends : piece = DOT :: CRLF ∨ piece = [DOT,LF] := or_iff_not_imp_left.mpr (by simpa [is_data_end] using done)
      rcases ends with rfl | rfl
      · exact ended' (List.prefix_append _ _)
      · exact ended (List.prefix_append _ _)
    · refine unstuff_eq_iff.mpr fun begins => doubled (begins.trans (List.prefix_append _ _))

/-! ### The session on pieces of data -/

def mail_of {Effect : Type} : Event Effect → Option Mail
  | .OnMail mail _ => some mail
  | _ => none

/-- Of these events one hands a mail over. -/
theorem mails_ended {Effect : Type} (lines : List Bytes) (last : Bytes) (effects : List Effect) (mail : Mail)
    (result : Except Text Unit)
    (replied : List (Event Effect)) :
    List.filterMap mail_of (lines.map .Received ++ Event.Received last :: (effects.map .Effect ++ Event.OnMail mail result ::
      replied)) = mail :: replied.filterMap mail_of := by
  have received : (lines.map .Received : List (Event Effect)).filterMap mail_of = [] :=
    List.filterMap_eq_nil_iff.mpr (by simp [mail_of])
  have effected : (effects.map Event.Effect).filterMap mail_of = [] := List.filterMap_eq_nil_iff.mpr (by simp [mail_of])
  rw [List.filterMap_append,received,List.nil_append,List.filterMap_cons_none rfl,List.filterMap_append,effected,
    List.nil_append]
  exact List.filterMap_cons_some rfl

section
variable {H Effect : Type} [Handler H Effect] [Base64] {s t : Session H Effect} {line rest : Bytes}

theorem handle_line_data (data : s.state.phase = .Data) :
    handle_line line s = (do handle_data_line line; return .Continue : SessionM H Effect Control) s := by
  have captures : s.state.in_phase .Data = true := by simp [SessionState.in_phase,data]
  rw [handle_line,bind_ok (run_get s),if_pos captures]

theorem handle_line_captured (data : s.state.phase = .Data) (more : is_data_end line = false)
    (fits : s.state.current_mail.data_length + (unstuff line).length ≤ s.config.max_message_size) :
    handle_line line s =
      .ok .Continue { s with state.current_mail := s.state.current_mail.append_data (unstuff line) } := by
  have small : ¬ s.state.current_mail.data_length + (unstuff line).length > s.config.max_message_size := by omega
  rw [handle_line_data data]
  simp only [handle_data_line,handle_data,bind,EStateM.bind,run_get,pure,EStateM.pure,run_modify,more,small,if_false,
    Bool.false_eq_true]

theorem turn_captured (data : s.state.phase = .Data) (sent : s.pending = line ++ rest) (complete : IsLine line)
    (short : line.length ≤ MAX_LINE_LENGTH) (more : is_data_end line = false)
    (fits : s.state.current_mail.data_length + (unstuff line).length ≤ s.config.max_message_size) :
    ∃ t, turn s = .ok .Continue t ∧ t.pending = rest ∧ t.trace = s.trace ++ [Event.Received line] ∧
      t.config = s.config ∧
      t.state = { s.state with current_mail := s.state.current_mail.append_data (unstuff line) } ∧
      ∀ n, s.Writable n → t.Writable n := by
  obtain ⟨r,read,⟨trace,view⟩,left⟩ := read_line_complete sent complete short
  have state : r.state = s.state := congrArg View.state view
  have config : r.config = s.config := congrArg View.config view
  refine ⟨_,(turn_eq read).trans (handle_line_captured (state ▸ data) more (by rw [state,config]; exact fits)),left,
    trace,config,by simp [state],(reads_of read).writable⟩

/-- Lines of data that do not end it are captured one after the other. -/
theorem loop_captured (lines : List Bytes) (rest : Bytes) (data : s.state.phase = .Data)
    (sent : s.pending = lines.flatten ++ rest)
    (complete : ∀ line ∈ lines, IsLine line ∧ line.length ≤ MAX_LINE_LENGTH ∧ is_data_end line = false)
    (fits : s.state.current_mail.data_length + (kept lines).length ≤ s.config.max_message_size) :
    ∃ t, (∀ m, loop (lines.length + m) s = loop m t) ∧ t.pending = rest ∧
      t.trace = s.trace ++ lines.map .Received ∧ t.config = s.config ∧
      t.state = { s.state with current_mail := s.state.current_mail.append_data (kept lines) } ∧
      ∀ n, s.Writable n → t.Writable n := by
  induction lines generalizing s with
  | nil => exact ⟨s,by simp,by simpa using sent,by simp,rfl,by simp [kept,Mail.append_data],fun _ => id⟩
  | cons line lines ih =>
    obtain ⟨whole,short,more⟩ := complete line (by simp)
    simp only [kept,List.map_cons,List.flatten_cons,List.length_append] at fits
    obtain ⟨r,turned,left,trace,config,state,later⟩ :=
      turn_captured data (by simpa using sent) whole short more (by omega)
    obtain ⟨t,looped,left',trace',config',state',later'⟩ := ih (s := r) (by rw [state]; exact data) left
      (fun l member => complete l (by simp [member]))
      (by rw [state,config]; simp [Mail.data_length,Mail.append_data,kept] at fits ⊢; omega)
    refine ⟨t,?_,left',by simp [trace',trace],config'.trans config,?_,fun n writable => later' n (later n writable)⟩
    · intro m
      have count : (line :: lines).length + m = (lines.length + m) + 1 := by simp; omega
      rw [count,← looped m]
      simp only [loop,bind,EStateM.bind,turned]
    · simp [state',state,kept,Mail.append_data]

theorem handle_line_pending (sent : Bytes) :
    ⦃fun (t : Session H Effect) => ⌜t.pending = sent ∧ t.state.phase = .Data⌝⦄ handle_line line
    ⦃post⟨fun _ t => ⌜t.pending = sent⌝,fun _ t => ⌜t.pending = sent⌝⟩⦄ := by
  have replied (response : Response) := @reply_pending H Effect sent response
  unfold handle_line handle_data_line handle_data on_mail called
  mvcgen [replied,log]
  case vc1 here _ _ _ _ _ _ _ => exact here.1
  case vc2 here _ _ _ _ _ _ => exact here.1
  case vc3 here _ _ _ _ => exact here.1
  case vc4 here _ _ _ _ _ => exact here.1
  all_goals simp_all [SessionState.in_phase]

theorem turn_ended (data : s.state.phase = .Data) (sent : s.pending = line ++ rest) (complete : IsLine line)
    (short : line.length ≤ MAX_LINE_LENGTH) (done : is_data_end line = true) :
    ∃ (effects : List Effect) (result : Except Text Unit) (replied : List (Event Effect)),
      (final (turn s)).trace = s.trace ++ Event.Received line :: (effects.map .Effect ++
        Event.OnMail s.state.current_mail result :: replied) ∧
      (∀ e ∈ replied, ∃ response, e = .Reply response) ∧ (final (turn s)).pending = rest := by
  obtain ⟨r,read,⟨trace,view⟩,left⟩ := read_line_complete sent complete short
  have state : r.state = s.state := congrArg View.state view
  rw [turn_eq read]
  have pending : (final (handle_line line r)).pending = rest :=
    (ends_of_triple (handle_line_pending rest) ⟨left,state ▸ data⟩).final (fun _ _ same => same) (fun _ _ same => same)
  obtain ⟨outcome,events,traced,reaction⟩ : ∃ outcome, Reacts False r line [] outcome (final (handle_line line r)) :=
    (ends_of_triple (handle_line_spec r False.elim line) rfl).final
      (P := fun t => ∃ outcome, Reacts False r line [] outcome t)
      (fun _ _ reacts => ⟨_,reacts⟩) (fun _ _ reacts => ⟨_,reacts⟩)
  have inData : r.view.state.phase = .Data := by rw [Session.view_state,state,data]
  have step := reaction.step
  rw [List.nil_append] at step
  rw [traced,trace]
  generalize (final (handle_line line r)).view = v' at step
  cases step with
  | delivered called data done ran =>
    exact ⟨called.effects,called.result,[.Reply (mail_reply called.result)],by simp [state],by simp,pending⟩
  | undelivered called v' data done ran config =>
    exact ⟨called.effects,called.result,[],by simp [state],by simp,pending⟩
  | captured data more fits => simp [done] at more
  | dropped events v' quiet config early => simp [done] at early; exact absurd inData early
  | _ => simp_all

theorem turn_extends (m : Nat) : (final (turn s)).trace <+: (final (loop (m + 1) s)).trace := by
  cases turned : turn s with
  | error err t => simp [loop,bind,EStateM.bind,turned,final]
  | ok control t =>
    cases control with
    | Return => simp [loop,bind,EStateM.bind,turned,final,pure,EStateM.pure]
    | Continue => simpa [loop,bind,EStateM.bind,turned,final] using loop_extends m t

theorem final_loop_one : final (loop 1 s) = final (turn s) := by
  cases turned : turn s with
  | error err t => simp [loop,bind,EStateM.bind,turned,final]
  | ok control t => cases control <;> simp [loop,bind,EStateM.bind,turned,final,pure,EStateM.pure]

/-! ### A message as a whole -/

/-- The session takes all of the message as data: once it has read what was sent for
    it, and nothing more, one mail was handed over, with the whole message, and no
    line was parsed. -/
def TakenWhole (s : Session H Effect) (message rest : Bytes) : Prop :=
  ∃ n events, (final (loop n s)).pending = rest ∧ (final (loop n s)).trace = s.trace ++ events ∧
    events.filterMap mail_of = [s.state.current_mail.append_data message] ∧ ∀ line, .Parse line ∉ events

variable {lines later : List Bytes} {last message : Bytes}

/-- Up to the first end of data, the lines are captured; there, the mail is handed
    over. -/
theorem loop_ended (data : s.state.phase = .Data) (sent : s.pending = lines.flatten ++ (last ++ rest))
    (complete : ∀ line ∈ lines, IsLine line ∧ line.length ≤ MAX_LINE_LENGTH ∧ is_data_end line = false)
    (whole : IsLine last) (short : last.length ≤ MAX_LINE_LENGTH) (done : is_data_end last = true)
    (fits : s.state.current_mail.data_length + (kept lines).length ≤ s.config.max_message_size) :
    ∃ (effects : List Effect) (result : Except Text Unit) (replied : List (Event Effect)),
      (∀ e ∈ replied, ∃ response, e = .Reply response) ∧
      (∀ m, s.trace ++ (lines.map .Received ++ Event.Received last :: (effects.map .Effect ++
          Event.OnMail (s.state.current_mail.append_data (kept lines)) result :: replied)) <+:
        (final (loop (lines.length + (m + 1)) s)).trace) ∧
      (final (loop (lines.length + 1) s)).trace = s.trace ++ (lines.map .Received ++ Event.Received last ::
        (effects.map .Effect ++ Event.OnMail (s.state.current_mail.append_data (kept lines)) result :: replied)) ∧
      (final (loop (lines.length + 1) s)).pending = rest := by
  obtain ⟨t,looped,left,trace,-,state,-⟩ := loop_captured lines (last ++ rest) data sent complete fits
  obtain ⟨effects,result,replied,ended,replies,pending⟩ := turn_ended (s := t) (by rw [state]; exact data) left whole short
    done
  rw [trace,state,List.append_assoc] at ended
  refine ⟨effects,result,replied,replies,?_,?_,?_⟩
  · intro m
    rw [looped,← ended]
    exact turn_extends m
  · rw [looped,final_loop_one,ended]
  · rw [looped,final_loop_one,pending]

theorem taken_whole_of_kept (data : s.state.phase = .Data) (sent : s.pending = lines.flatten ++ (last ++ rest))
    (complete : ∀ line ∈ lines, IsLine line ∧ line.length ≤ MAX_LINE_LENGTH ∧ is_data_end line = false)
    (whole : IsLine last) (short : last.length ≤ MAX_LINE_LENGTH) (done : is_data_end last = true)
    (fits : s.state.current_mail.data_length + (kept lines).length ≤ s.config.max_message_size) :
    TakenWhole s (kept lines) rest := by
  obtain ⟨effects,result,replied,replies,-,trace,pending⟩ := loop_ended data sent complete whole short done fits
  refine ⟨lines.length + 1,_,pending,trace,?_,?_⟩
  · have none : replied.filterMap mail_of = [] := by
      apply List.filterMap_eq_nil_iff.mpr
      intro e member
      obtain ⟨response,rfl⟩ := replies e member
      rfl
    rw [mails_ended,none]
  · intro line member
    simp only [List.mem_append,List.mem_cons,List.mem_map] at member
    rcases member with ⟨l,-,same⟩ | same | ⟨effect,-,same⟩ | same | reply
    · simp at same
    · simp at same
    · simp at same
    · simp at same
    · obtain ⟨response,same⟩ := replies _ reply
      simp at same

/-- If the message is taken whole, it is what was kept up to the first end of data. -/
theorem kept_of_taken_whole (lines later : List Bytes) (last : Bytes) (data : s.state.phase = .Data)
    (sent : s.pending = lines.flatten ++ (last ++ (later.flatten ++ rest)))
    (complete : ∀ line ∈ lines, IsLine line ∧ line.length ≤ MAX_LINE_LENGTH ∧ is_data_end line = false)
    (whole : IsLine last) (short : last.length ≤ MAX_LINE_LENGTH) (done : is_data_end last = true)
    (fits : s.state.current_mail.data_length + (kept lines).length ≤ s.config.max_message_size)
    (taken : TakenWhole s message rest) : kept lines = message := by
  obtain ⟨n,events,pending,trace,mails,-⟩ := taken
  by_cases early : n ≤ lines.length
  · -- bytes of the message are left
    obtain ⟨t,looped,left,-⟩ := loop_captured (lines.take n)
      ((lines.drop n).flatten ++ (last ++ (later.flatten ++ rest))) data
      (by rw [sent,← List.append_assoc (List.take n lines).flatten,← List.flatten_append,List.take_append_drop])
      (fun line member => complete line (List.mem_of_mem_take member))
      (by
        have shorter : (kept (lines.take n)).length ≤ (kept lines).length := by
          conv_rhs => rw [← List.take_append_drop n lines]
          rw [kept,kept,List.map_append,List.flatten_append,List.length_append]
          exact Nat.le_add_right _ _
        omega)
    have count : (lines.take n).length + 0 = n := by simp [early]
    have stopped := looped 0
    rw [count] at stopped
    have final_t : final (loop n s) = t := by rw [stopped]; rfl
    rw [final_t,left] at pending
    have lengths := congrArg List.length pending
    have nonempty := List.length_pos_of_ne_nil whole.ne_nil
    simp only [List.length_append] at lengths
    omega
  · obtain ⟨effects,result,replied,-,extends',-⟩ := loop_ended data sent complete whole short done fits
    obtain ⟨m,rfl⟩ : ∃ m, n = lines.length + (m + 1) := ⟨n - lines.length - 1,by omega⟩
    obtain ⟨more,split⟩ := extends' m
    rw [trace,List.append_assoc,List.append_cancel_left_eq] at split
    rw [← split] at mails
    have same := congrArg List.head? mails
    rw [List.filterMap_append,mails_ended] at same
    simpa [Mail.append_data] using congrArg Mail.data (Option.some.inj same)

/-- A message, sent with its leading dots doubled and ended by a line of one dot, is
    taken whole exactly if none of its bare LFs is followed by two dots, by a dot
    and LF, or by a dot and CRLF. -/
theorem message_taken_whole_iff (s : Session H Effect) (message : List MessageLine) (rest : Bytes)
    (data : s.state.phase = .Data) (sent : s.pending = stuffed_body message ++ (DOT :: CRLF ++ rest))
    (short : ∀ piece ∈ Lines.pieces LF (stuffed_body message), piece.length ≤ MAX_LINE_LENGTH)
    (fits : s.state.current_mail.data_length + (body message).length ≤ s.config.max_message_size) :
    TakenWhole s (body message) rest ↔ ∀ line ∈ message, Unambiguous line := by
  have pieces := cuts_sent message
  have flat : ((cuts message).map Prod.fst).flatten = stuffed_body message := by rw [pieces,Lines.flatten_pieces]
  have meant := cuts_meant message
  have known (piece) (member : piece ∈ cuts message) := cut_kept member
  have brief (piece) (member : piece ∈ cuts message) : piece.1.length ≤ MAX_LINE_LENGTH :=
    short piece.1 (by rw [← pieces]; exact List.mem_map_of_mem member)
  have clean : (∀ line ∈ message, Unambiguous line) ↔ ∀ piece ∈ cuts message, Taken piece := by
    simp only [cuts,List.forall_mem_flatMap,unambiguous_iff]
  have terminator : IsLine (DOT :: CRLF) := ⟨[DOT,CR],rfl,by decide⟩
  rw [clean]
  cases found : (cuts message).find? fun piece => is_data_end piece.1 with
  | some last =>
    -- the data ends within the message
    obtain ⟨done,before,later,split,first⟩ := List.find?_eq_some_iff_append.mp found
    have inside (piece) (member : piece ∈ before) : piece ∈ cuts message := by simp [split,member]
    have lastly := known last (by simp [split])
    obtain ⟨shorter,-⟩ := kept_length fun piece member => (known piece (inside piece member)).2.2
    have longer : (before.map Prod.snd).flatten.length < (body message).length := by
      have nonempty := List.length_pos_of_ne_nil lastly.2.1
      rw [← meant,split]
      simp only [List.map_append,List.map_cons,List.flatten_append,List.flatten_cons,List.length_append]
      omega
    refine iff_of_false ?_ ?_
    · intro taken
      have same := kept_of_taken_whole (before.map Prod.fst) (later.map Prod.fst ++ [DOT :: CRLF]) last.1 data
        (by rw [sent,← flat,split]; simp)
        (by
          simp only [List.forall_mem_map]
          intro piece member
          exact ⟨(known piece (inside piece member)).1,brief piece (inside piece member),by simpa using first piece member⟩)
        lastly.1 (brief last (by simp [split])) done (by omega) taken
      rw [same] at shorter
      omega
    · intro all
      have open' := (all last (by simp [split])).1
      simp [done] at open'
  | none =>
    have going (piece) (member : piece ∈ cuts message) : is_data_end piece.1 = false := by
      simpa using List.find?_eq_none.mp found piece member
    have complete : ∀ line ∈ (cuts message).map Prod.fst,
        IsLine line ∧ line.length ≤ MAX_LINE_LENGTH ∧ is_data_end line = false := by
      simp only [List.forall_mem_map]
      exact fun piece member => ⟨(known piece member).1,brief piece member,going piece member⟩
    obtain ⟨shorter,whole⟩ := kept_length fun piece member => (known piece member).2.2
    rw [meant] at shorter whole
    constructor
    · intro taken
      have same := kept_of_taken_whole ((cuts message).map Prod.fst) [] (DOT :: CRLF) data
        (by rw [sent,← flat]; simp) complete terminator (by decide)
        (by decide) (by omega) taken
      exact fun piece member => ⟨going piece member,whole (by rw [same]) piece member⟩
    · intro all
      have same : kept ((cuts message).map Prod.fst) = body message := by
        rw [← meant,kept,List.map_map]
        exact congrArg List.flatten (List.map_congr_left fun piece member => (all piece member).2)
      have taken := taken_whole_of_kept data (by rw [sent,← flat]) complete terminator (by decide) (by decide) (by omega)
      rwa [same] at taken

end

section
attribute [local instance] Sample.argon2 Sample.base64

def sampleData (text : String) : Session ProxyHandler ProxyEffect :=
  final (Session.handle 4 (.new (.new_plain (Sample.sends
    ("HELO x\r\nMAIL FROM:<a>\r\nRCPT TO:<c>\r\nDATA\r\n" ++ text)) none) (Sample.config .None)))

/-- A message with a bare LF before a line of one dot, and a line "RSET" after it. -/
def sampleSmuggled : List MessageLine := [⟨ascii "hi\n.",by decide⟩,⟨ascii "RSET",by decide⟩]

/-- A line of the message is taken for a command. -/
theorem message_smuggles_command : (sampleData "hi\n.\r\nRSET\r\n.\r\n").state.phase = .Data ∧
    (sampleData "hi\n.\r\nRSET\r\n.\r\n").pending = stuffed_body sampleSmuggled ++ (DOT :: CRLF ++ []) ∧
    .Parse (ascii "RSET\r\n") ∈ (final (loop 3 (sampleData "hi\n.\r\nRSET\r\n.\r\n"))).trace ∧
    ¬ TakenWhole (sampleData "hi\n.\r\nRSET\r\n.\r\n") (body sampleSmuggled) [] := by
  refine ⟨by decide +kernel,by decide +kernel,by decide +kernel,?_⟩
  intro taken
  have whole : IsLine (ascii ".\r\n") := ⟨ascii ".\r",by decide,by decide⟩
  have first : IsLine (ascii "hi\n") := ⟨ascii "hi",by decide,by decide⟩
  have same := kept_of_taken_whole [ascii "hi\n"] [ascii "RSET\r\n",ascii ".\r\n"] (ascii ".\r\n")
    (by decide +kernel) (by decide +kernel)
    (by simpa using ⟨first,by decide,by decide⟩) whole (by decide) (by decide) (by decide +kernel) taken
  exact absurd same (by decide)

def sampleMessage : List MessageLine := [⟨ascii ".",by decide⟩,⟨ascii "..hi\nyou",by decide +kernel⟩]

theorem message_taken_whole_sample : TakenWhole (sampleData "..\r\n...hi\nyou\r\n.\r\nRSET\r\n") (body sampleMessage)
    (ascii "RSET\r\n") :=
  (message_taken_whole_iff (sampleData "..\r\n...hi\nyou\r\n.\r\nRSET\r\n") sampleMessage (ascii "RSET\r\n")
    (by decide +kernel) (by decide +kernel) (by decide +kernel) (by decide +kernel)).mpr fun line member =>
      unambiguous_iff.mp (by revert line; decide +kernel)

end
end PostGraph
