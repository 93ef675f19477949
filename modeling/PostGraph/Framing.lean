import PostGraph.TlsOnly

/-!
The replies between two lines that a session reads, as the client gets them: one reply of
one or more lines with the same code, a hyphen after the code on every line but the
last. HELP alone is answered with two codes.
-/
namespace PostGraph
open Traces Programs Session
set_option autoImplicit false

variable {H Effect : Type}

abbrev HYPHEN : UInt8 := 45

/-- The lines of a reply with this code. -/
inductive ReplyLines (code : Bytes) : Bytes → Prop
  | last (text : Bytes) (single : CR ∉ text ∧ LF ∉ text) (ends : text.head? ≠ some HYPHEN) :
      ReplyLines code (code ++ text ++ CRLF)
  | more (text rest : Bytes) (single : CR ∉ text ∧ LF ∉ text) (later : ReplyLines code rest) :
      ReplyLines code (code ++ HYPHEN :: text ++ CRLF ++ rest)

/-- One reply, its code of three digits. -/
def WellFormed (bytes : Bytes) : Prop :=
  ∃ code, code.length = 3 ∧ (∀ b ∈ code, 48 ≤ b ∧ b ≤ 57) ∧ ReplyLines code bytes

section
variable {code first text rest : Bytes}

theorem ReplyLines.begins (lines : ReplyLines code rest) : code <+: rest := by
  cases lines with
  | last text single ends => simp
  | more text rest single later => simp

/-- A line with a hyphen after the code is followed by a line with the same code. -/
theorem ReplyLines.continued (lines : ReplyLines code (first ++ HYPHEN :: text ++ CRLF ++ rest))
    (length : code.length = first.length) (single : CR ∉ text) : code = first ∧ ReplyLines code rest := by
  obtain ⟨bytes,same⟩ : ∃ bytes, first ++ HYPHEN :: text ++ CRLF ++ rest = bytes := ⟨_,rfl⟩
  rw [same] at lines
  cases lines with
  | last text' single' ends =>
    rw [List.append_assoc,List.append_assoc,List.append_assoc] at same
    obtain ⟨rfl,later⟩ := List.append_inj same length.symm
    cases text' with
    | nil => exact absurd (List.cons.inj later).1 (by decide)
    | cons b text' =>
      obtain ⟨rfl,-⟩ : HYPHEN = b ∧ _ := by simpa using later
      simp at ends
  | more text' rest' single' later =>
    rw [List.append_assoc,List.append_assoc,List.append_assoc,List.append_assoc] at same
    obtain ⟨rfl,further⟩ := List.append_inj same length.symm
    obtain ⟨-,followed⟩ := Lines.first_mark single single'.1 (by simpa using further)
    obtain rfl : rest = rest' := by simpa using followed
    exact ⟨rfl,later⟩

end

/-! ### Single responses -/

/-- A text without line breaks. -/
def OneLine (text : Text) : Prop := '\r' ∉ text ∧ '\n' ∉ text

instance (text : Text) : Decidable (OneLine text) := inferInstanceAs (Decidable (_ ∧ _))

/-- The codes of all replies. -/
def reply_codes : List Nat := [214,220,221,235,250,334,354,451,500,503,530,535,552]

def code_bytes (code : Nat) : Bytes := Utf8.encode (decimal code)

theorem three_digits : ∀ code ∈ reply_codes, (code_bytes code).length = 3 ∧ ∀ b ∈ code_bytes code, 48 ≤ b ∧ b ≤ 57 := by
  decide +kernel

section
variable {text left right : Text} {response : Response} {rest : Bytes}

theorem oneLine_append : OneLine (left ++ right) ↔ OneLine left ∧ OneLine right := by
  simp only [OneLine,List.mem_append]
  tauto

theorem OneLine.encoded (single : OneLine text) : CR ∉ Utf8.encode text ∧ LF ∉ Utf8.encode text :=
  ⟨fun member => single.1 (mem_encode_ascii (by decide) member),fun member => single.2 (mem_encode_ascii (by decide) member)⟩

theorem oneLine_decimal (n : Nat) : OneLine (decimal n) :=
  ⟨fun member => absurd (Nat.isDigit_of_mem_toDigits (by decide) (by decide) member) (by decide),
    fun member => absurd (Nat.isDigit_of_mem_toDigits (by decide) (by decide) member) (by decide)⟩

/-- A reply of one line. -/
def Response.Single (response : Response) : Prop :=
  response.has_next = false ∧ response.code ∈ reply_codes ∧ OneLine response.message

instance (response : Response) : Decidable response.Single := inferInstanceAs (Decidable (_ ∧ _))

theorem lines_last (ends : response.has_next = false) (single : OneLine response.message) :
    ReplyLines (code_bytes response.code) (reply_bytes response) := by
  have shape : reply_bytes response = code_bytes response.code ++
      Utf8.encode ((if response.message = [] then [] else [' ']) ++ response.message) ++ CRLF := by
    simp [reply_bytes,Response.line,ends,code_bytes]
  rw [shape]
  refine .last _ (OneLine.encoded ?_) ?_
  · refine oneLine_append.mpr ⟨?_,single⟩
    split <;> decide
  · split
    · next empty => simp [empty]
    · simpa [String.utf8EncodeChar] using (by decide : (32 : UInt8) ≠ HYPHEN)

theorem lines_more (goesOn : response.has_next = true) (some : response.message ≠ [])
    (single : OneLine response.message) (later : ReplyLines (code_bytes response.code) rest) :
    ReplyLines (code_bytes response.code) (reply_bytes response ++ rest) := by
  have shape : reply_bytes response = code_bytes response.code ++ HYPHEN :: Utf8.encode response.message ++ CRLF := by
    simp [reply_bytes,Response.line,goesOn,code_bytes,some,String.utf8EncodeChar]
  rw [shape]
  exact .more _ _ single.encoded later

theorem Response.Single.framed (single : response.Single) : WellFormed (reply_bytes response) :=
  ⟨code_bytes response.code,(three_digits _ single.2.1).1,(three_digits _ single.2.1).2,lines_last single.1 single.2.2⟩

/-! ### The replies of several lines -/

theorem features_lines (features : List Text) (some : features ≠ [])
    (single : ∀ feature ∈ features, feature ≠ [] ∧ OneLine feature) :
    ReplyLines (code_bytes 250) ((feature_replies features).flatMap reply_bytes) := by
  fun_induction feature_replies features with
  | case1 => exact absurd rfl some
  | case2 feature =>
    have only : ReplyLines (code_bytes (Response.new 250 feature).code) (reply_bytes (.new 250 feature)) :=
      lines_last rfl (single feature (by simp)).2
    simpa using only
  | case3 feature features other ih =>
    obtain ⟨present,plain⟩ := single feature (by simp)
    have goesOn : ReplyLines (code_bytes (Response.new_continued 250 feature).code)
        (reply_bytes (.new_continued 250 feature) ++ (feature_replies features).flatMap reply_bytes) :=
      lines_more rfl present plain (ih other fun f member => single f (by simp [member]))
    simpa using goesOn

variable {v : View H}

theorem features_single (v : View H) : ∀ feature ∈ v.features, feature ≠ [] ∧ OneLine feature := by
  have size : OneLine ("SIZE ".toList ++ decimal v.config.max_message_size) :=
    oneLine_append.mpr ⟨by decide,oneLine_decimal _⟩
  intro feature member
  simp only [View.features,List.mem_append,List.mem_singleton] at member
  rcases member with ((rfl | tls) | auth) | rfl
  · decide
  · split at tls
    · obtain rfl := List.mem_singleton.mp tls
      decide
    · simp at tls
  · split at auth
    · obtain rfl := List.mem_singleton.mp auth
      decide
    · simp at auth
  · exact ⟨by simp,size⟩

theorem hello_framed (extended : Bool) (named : v.config.server_name ≠ []) (single : OneLine v.config.server_name) :
    WellFormed ((v.hello_replies extended).flatMap reply_bytes) := by
  refine ⟨code_bytes 250,(three_digits 250 (by decide)).1,(three_digits 250 (by decide)).2,?_⟩
  unfold View.hello_replies
  split
  · have listed := features_lines v.features (List.append_ne_nil_of_right_ne_nil _ (List.cons_ne_nil _ _)) (features_single v)
    have goesOn : ReplyLines (code_bytes (Response.new_continued 250 v.config.server_name).code)
        (reply_bytes (.new_continued 250 v.config.server_name) ++ (feature_replies v.features).flatMap reply_bytes) :=
      lines_more rfl named single listed
    simpa using goesOn
  · have only : ReplyLines (code_bytes (Response.new 250 v.config.server_name).code)
        (reply_bytes (.new 250 v.config.server_name)) := lines_last rfl single
    simpa using only

/-- The reply to HELP goes on with another code. -/
theorem help_not_framed (v : View H) : ¬ WellFormed (v.help_replies.flatMap reply_bytes) := by
  rintro ⟨code,length,-,lines⟩
  have start : reply_bytes (.new_continued 250 "Commands supported".toList) =
      code_bytes 250 ++ HYPHEN :: ascii "Commands supported" ++ CRLF := by decide
  have second (text : Text) : ∃ later, reply_bytes (.new 214 text) = code_bytes 214 ++ later := by
    simp [reply_bytes,Response.line,code_bytes]
  obtain ⟨text,replies⟩ : ∃ text, v.help_replies = [.new_continued 250 "Commands supported".toList,.new 214 text] := ⟨_,rfl⟩
  obtain ⟨more,followed⟩ := second text
  rw [replies,List.flatMap_cons,List.flatMap_singleton,start,followed] at lines
  obtain ⟨rfl,later⟩ := lines.continued (by rw [length]; rfl) (by decide)
  have other : code_bytes 250 = code_bytes 214 := by
    have begins : code_bytes 250 <+: code_bytes 214 :=
      List.prefix_of_prefix_length_le later.begins (List.prefix_append _ _) (by decide)
    exact begins.eq_of_length (by decide)
  exact absurd other (by decide)

end

/-! ### Replies in a trace -/

/-- The bytes that were written. -/
def written (events : List (Event Effect)) : Bytes := (events.filterMap reply_of).flatMap reply_bytes

@[simp] theorem written_nil : written ([] : List (Event Effect)) = [] := rfl

@[simp] theorem written_append (events later : List (Event Effect)) :
    written (events ++ later) = written events ++ written later := by
  simp [written]

theorem written_cons (e : Event Effect) (events : List (Event Effect)) :
    written (e :: events) = (reply_of e).toList.flatMap reply_bytes ++ written events := by
  rw [written,List.filterMap_cons]
  cases reply_of e <;> simp [written]

theorem replies_of_effects (effects : List Effect) : (effects.map .Effect).filterMap reply_of = [] := by
  simp [reply_of]

@[simp] theorem written_effects (effects : List Effect) : written (effects.map .Effect) = [] := by
  simp [written,reply_of]

@[simp] theorem written_replies (replies : List Response) :
    written (replies.map .Reply : List (Event Effect)) = replies.flatMap reply_bytes := by
  have all : (replies.map .Reply : List (Event Effect)).filterMap reply_of = replies :=
    List.filterMap_map.trans List.filterMap_some
  rw [written,all]

/-- The line is taken as a command, and it is HELP. -/
def AsksHelp (past : List (Event Effect)) (line : Bytes) : Prop :=
  ¬ Capturing past ∧ ¬ Challenged past ∧ Command.parse line = .ok .Help

/-- A line of a mail's data. -/
def Captures (past : List (Event Effect)) (line : Bytes) : Prop := Capturing past ∧ is_data_end line = false

/-- What is written after a line of data, and after any other line. -/
structure Replied (past : List (Event Effect)) (line : Bytes) (events : List (Event Effect)) : Prop where
  captured : Captures past line → written events = []
  answered : ¬ Captures past line → (WellFormed (written events) ↔ ¬ AsksHelp past line)

/-- The line that was read last has got its reply. -/
def Due (past : List (Event Effect)) : Prop :=
  ∀ before line events, past = before ++ Event.Received line :: events → (∀ next, .Received next ∉ events) →
    Replied before line events

def Framed (past : List (Event Effect)) : Event Effect → Prop
  | .Received _ => Due past
  | _ => True

section
variable {past t u events : List (Event Effect)} {line : Bytes}

theorem framed_line (framed : Always Framed past) (due : Due past) (line : Bytes) :
    Always Framed (past ++ [Event.Received line]) := always_snoc.mpr ⟨framed,due⟩

theorem framed_unread (framed : Always Framed past) (unread : ∀ next, .Received next ∉ events) :
    Always Framed (past ++ events) := by
  apply always_quiet framed
  intro e member before
  cases e with
  | Received next => exact absurd member (unread next)
  | _ => trivial

theorem due_replied (replied : Replied past line events) (unread : ∀ next, .Received next ∉ events) :
    Due (past ++ Event.Received line :: events) := by
  intro before other later split quiet
  rcases List.append_eq_append_iff.mp split with ⟨more,rfl,follows⟩ | ⟨more,rfl,follows⟩
  · cases more with
    | nil =>
      obtain ⟨rfl,rfl⟩ : line = other ∧ events = later := by simpa using follows
      simpa using replied
    | cons first more =>
      obtain ⟨-,rfl⟩ := List.cons.inj follows
      exact absurd (by simp) (unread other)
  · cases more with
    | nil =>
      obtain ⟨rfl,rfl⟩ : other = line ∧ later = events := by simpa using follows
      simpa using replied
    | cons first more =>
      obtain ⟨-,rfl⟩ := List.cons.inj follows
      exact absurd (by simp) (quiet line)

/-- A line was read that is to be answered, and was not answered yet. -/
def Open (t : List (Event Effect)) : Prop :=
  ∃ past line events, t = past ++ Event.Received line :: events ∧ (∀ next, .Received next ∉ events) ∧ written events = [] ∧
    ¬ Captures past line ∧ ¬ AsksHelp past line

theorem Open.due (unanswered : Open t) (unread : ∀ next, .Received next ∉ u) (framed : WellFormed (written u)) :
    Due (t ++ u) := by
  obtain ⟨past,line,events,rfl,quiet,silent,command,other⟩ := unanswered
  rw [List.append_assoc,List.cons_append]
  refine due_replied ⟨fun captured => absurd captured command,fun _ => ?_⟩ ?_
  · rw [written_append,silent,List.nil_append]
    exact iff_of_true framed other
  · exact fun next member => (List.mem_append.mp member).elim (quiet next) (unread next)

theorem challenged_snoc (response : Response) : Challenged (t ++ [Event.Reply response]) ↔ response.code = 334 := by
  simp [Challenged]

theorem challenges_single : ∀ response ∈ challenges, response.Single := by decide +kernel

/-- Challenges are answered by lines, and lines by challenges. -/
theorem Open.dialogue {exchanged : List (Response × Bytes)} (unanswered : Open t) (framed : Always Framed t)
    (challenged : ∀ e ∈ exchanged, e.1 ∈ challenges) :
    Open (t ++ PostGraph.dialogue exchanged) ∧ Always Framed (t ++ PostGraph.dialogue exchanged) := by
  induction exchanged generalizing t with
  | nil => simpa [PostGraph.dialogue] using ⟨unanswered,framed⟩
  | cons exchange exchanged ih =>
    obtain ⟨challenge,answer⟩ := exchange
    have asked : challenge ∈ challenges := challenged (challenge,answer) (by simp)
    have code := challenges_code challenge asked
    have due : Due (t ++ [Event.Reply challenge]) := unanswered.due (by simp) (by simpa [written_cons,reply_of] using (challenges_single challenge asked).framed)
    have framed' : Always Framed (t ++ [Event.Reply challenge]) := framed_unread framed (by simp)
    have next : Open (t ++ [Event.Reply challenge] ++ [Event.Received answer]) := by
      refine ⟨_,answer,[],rfl,by simp,rfl,?_,?_⟩
      · rintro ⟨capturing,-⟩
        simp [(capturing_snoc challenge).mp capturing] at code
      · rintro ⟨-,unchallenged,-⟩
        exact unchallenged ((challenged_snoc challenge).mpr code)
    have later := ih next (framed_line framed' due answer) fun e member => challenged e (by simp [member])
    simpa [PostGraph.dialogue] using later

theorem not_challenged (some : u ≠ []) (codes : ∀ response, .Reply response ∈ u → response.code ≠ 334) :
    ¬ Challenged (t ++ u) := by
  rintro ⟨response,last,code⟩
  rw [List.getLast?_append_of_ne_nil _ some] at last
  exact codes response (List.mem_of_getLast? last) code

variable {v v' : View H} [Handler H Effect] {ended : Prop} {outcome : Outcome}

theorem refusals_single : ∀ response ∈ refusals, response.Single := by decide +kernel

theorem errors_single : ∀ err ∈ handshake_errors, (Response.syntax_error (some err)).Single := by decide +kernel

omit [Handler H Effect] in
theorem mail_reply_single {result : Except Text Unit} (single : ∀ err, result = .error err → OneLine err) :
    (mail_reply result).Single := by
  cases result with
  | error err =>
    refine ⟨rfl,by simp [mail_reply,MAIL_HANDLER_ERROR,Response.fixed,reply_codes],?_⟩
    exact oneLine_append.mpr ⟨by decide,single err rfl⟩
  | ok _ => exact (by decide : MAIL_ACCEPTED.Single)

omit [Handler H Effect] in
theorem unread_framed (framed : Always Framed past) (due : Due past) (unread : ∀ next, .Received next ∉ events) :
    Always Framed (past ++ Event.Received line :: events) := by
  rw [List.append_cons]
  exact framed_unread (framed_line framed due line) unread

omit [Handler H Effect] in
theorem not_challenged_after (before rest : List (Event Effect)) (some : rest ≠ [])
    (codes : ∀ response, .Reply response ∈ rest → response.code ≠ 334) :
    ¬ Challenged (past ++ Event.Received line :: (before ++ rest)) := by
  rw [← List.cons_append,← List.append_assoc]
  exact not_challenged some codes

omit [Handler H Effect] in
/-- A command, its handshake and what follows it. -/
theorem exchange_framed (exchanged : List (Response × Bytes)) (rest : List (Event Effect)) (framed : Always Framed past)
    (due : Due past) (free : ¬ Captures past line) (other : Command.parse line ≠ .ok .Help)
    (challenged : ∀ e ∈ exchanged, e.1 ∈ challenges) (quiet : ∀ next, .Received next ∉ rest) :
    Always Framed (past ++ Event.Received line :: (Event.Parse line :: dialogue exchanged ++ rest)) ∧
      (WellFormed (written rest) → Due (past ++ Event.Received line :: (Event.Parse line :: dialogue exchanged ++ rest))) := by
  have unanswered : Open (past ++ [Event.Received line,.Parse line]) :=
    ⟨past,line,[.Parse line],rfl,by simp,rfl,free,fun asks => other asks.2.2⟩
  have parsed : Always Framed (past ++ [Event.Received line,.Parse line]) := unread_framed framed due (by simp)
  obtain ⟨unanswered',framed'⟩ := unanswered.dialogue parsed challenged
  have all := framed_unread framed' quiet
  have answered := unanswered'.due quiet
  constructor
  · simpa using all
  · simpa using answered

omit [Handler H Effect] in
/-- A command that is answered by one line, at the end of its handshake. -/
theorem single_reply_framed {exchanged : List (Response × Bytes)} {rest : List (Event Effect)} {response : Response}
    (framed : Always Framed past) (due : Due past) (free : ¬ Captures past line)
    (other : Command.parse line ≠ .ok .Help) (challenged : ∀ e ∈ exchanged, e.1 ∈ challenges)
    (quiet : ∀ next, .Received next ∉ rest) (one : rest.filterMap reply_of = [response]) (single : response.Single)
    (code : response.code ≠ 334) :
    Always Framed (past ++ Event.Received line :: (Event.Parse line :: dialogue exchanged ++ rest)) ∧
      ¬ Challenged (past ++ Event.Received line :: (Event.Parse line :: dialogue exchanged ++ rest)) ∧
      Due (past ++ Event.Received line :: (Event.Parse line :: dialogue exchanged ++ rest)) := by
  obtain ⟨all,answered⟩ := exchange_framed exchanged rest framed due free other challenged quiet
  refine ⟨all,not_challenged_after (.Parse line :: dialogue exchanged) rest ?_ ?_,answered ?_⟩
  · rintro rfl
    simp at one
  · intro reply member
    have known : reply ∈ rest.filterMap reply_of := List.mem_filterMap.mpr ⟨_,member,rfl⟩
    obtain rfl : reply = response := by simpa [one] using known
    exact code
  · simpa [written,one] using single.framed

/-- The line of a turn has got its reply, and the client is asked for nothing more. -/
structure LineDone (past : List (Event Effect)) (line : Bytes) (events : List (Event Effect)) : Prop where
  calm : ¬ Challenged (past ++ Event.Received line :: events)
  due : Due (past ++ Event.Received line :: events)

omit [Handler H Effect] in
theorem captured_done (capturing : Capturing past) (more : is_data_end line = false) :
    LineDone past line ([] : List (Event Effect)) where
  calm := not_challenged (by simp) (by simp)
  due := due_replied ⟨fun _ => rfl,fun answered => absurd ⟨capturing,more⟩ answered⟩ (by simp)

omit [Handler H Effect] in
theorem delivered_done (effects : List Effect) (mail : Mail) {result : Except Text Unit} (capturing : Capturing past)
    (done : is_data_end line = true) (single : (mail_reply result).Single) :
    LineDone past line (effects.map .Effect ++ [Event.OnMail mail result,.Reply (mail_reply result)]) where
  calm := by
    refine not_challenged_after (effects.map .Effect) _ (by simp) ?_
    cases result <;> simp [mail_reply,MAIL_HANDLER_ERROR,MAIL_ACCEPTED,Response.fixed]
  due := by
    have ends : ¬ Captures past line := by
      rintro ⟨-,more⟩
      simp [done] at more
    refine due_replied ⟨fun captures => absurd captures ends,fun _ => ?_⟩ (by simp)
    have framed : WellFormed (written (effects.map .Effect ++ [Event.OnMail mail result,.Reply (mail_reply result)])) := by
      simpa [written_cons,reply_of] using single.framed
    exact iff_of_true framed fun asks => asks.1 capturing

omit [Handler H Effect] in
theorem greeted_done {domain : Text} {extended : Bool} (effects : List Effect) (result : Except Text HelloResult)
    (framed : Always Framed past) (due : Due past) (free : ¬ Captures past line)
    (parsed : Command.parse line = .ok (.Hello domain extended)) (named : v.config.server_name ≠ [])
    (single : OneLine v.config.server_name) :
    LineDone past line (Event.Parse line :: effects.map .Effect ++ Event.OnHello domain extended result ::
      (v.hello_replies extended).map .Reply) := by
  have replies := hello_framed extended named single
  obtain ⟨-,answered⟩ := exchange_framed [] (effects.map .Effect ++ Event.OnHello domain extended result ::
    (v.hello_replies extended).map .Reply) framed due free (by simp [parsed]) (by simp) (by simp)
  constructor
  · apply not_challenged_after (.Parse line :: effects.map .Effect) _ (by simp)
    simp +contextual [hello_replies_coded v extended]
  · simpa [dialogue] using answered (by simpa [written_cons,reply_of] using replies)

omit [Handler H Effect] in
theorem helped_done (v : View H) (idle : ¬ Capturing past) (unchallenged : ¬ Challenged past)
    (parsed : Command.parse line = .ok .Help) :
    LineDone past line (.Parse line :: v.help_replies.map .Reply : List (Event Effect)) where
  calm := not_challenged_after [.Parse line] (v.help_replies.map .Reply) (by simp [View.help_replies])
    (by simp [View.help_replies])
  due := by
    refine due_replied ⟨fun captures => absurd captures.1 idle,fun _ => ?_⟩ (by simp)
    have unframed : ¬ WellFormed (written (.Parse line :: v.help_replies.map .Reply : List (Event Effect))) := by
      simpa [written_cons,reply_of] using help_not_framed v
    exact iff_of_false unframed (not_not_intro ⟨idle,unchallenged,parsed⟩)

/-- Every line that a turn reads is answered as it should be, by the time another line is
    read. -/
theorem Reaction.framed (reaction : Reaction ended v line events outcome v')
    (capturing : Capturing past ↔ v.state.phase = .Data) (unchallenged : ¬ Challenged past)
    (framed : Always Framed past) (due : Due past) (named : v.config.server_name ≠ [])
    (single : OneLine v.config.server_name)
    (errors : ∀ mail err, .OnMail mail (.error err) ∈ events → OneLine err) :
    Always Framed (past ++ Event.Received line :: events) ∧ (outcome = .Continue →
      ¬ Challenged (past ++ Event.Received line :: events) ∧ (Due (past ++ Event.Received line :: events) ∨ ended)) := by
  have unread {events : List (Event Effect)} (quiet : ∀ next, .Received next ∉ events) :
      Always Framed (past ++ Event.Received line :: events) := unread_framed framed due quiet
  have command (free : v.state.phase ≠ .Data) : ¬ Captures past line := fun captures => free (capturing.mp captures.1)
  have keep {events : List (Event Effect)} (quiet : ∀ next, .Received next ∉ events) (answered : LineDone past line events) :
      Always Framed (past ++ Event.Received line :: events) ∧ (Outcome.Continue = .Continue →
        ¬ Challenged (past ++ Event.Received line :: events) ∧ (Due (past ++ Event.Received line :: events) ∨ ended)) :=
    ⟨unread quiet,fun _ => ⟨answered.calm,.inl answered.due⟩⟩
  have replies (exchanged : List (Response × Bytes)) (rest : List (Event Effect)) (response : Response)
      (free : v.state.phase ≠ .Data) (other : Command.parse line ≠ .ok .Help) (challenged : ∀ e ∈ exchanged, e.1 ∈ challenges)
      (quiet : ∀ next, .Received next ∉ rest) (one : rest.filterMap reply_of = [response]) (single : response.Single)
      (code : response.code ≠ 334) :
      Always Framed (past ++ Event.Received line :: (Event.Parse line :: dialogue exchanged ++ rest)) ∧
        (Outcome.Continue = .Continue → ¬ Challenged (past ++ Event.Received line :: (Event.Parse line :: dialogue exchanged ++ rest)) ∧
          (Due (past ++ Event.Received line :: (Event.Parse line :: dialogue exchanged ++ rest)) ∨ ended)) := by
    obtain ⟨all,calm,answered⟩ :=
      single_reply_framed framed due (command free) other challenged quiet one single code
    exact ⟨all,fun _ => ⟨calm,.inl answered⟩⟩
  cases reaction with
  | captured data more fits => exact keep (by simp) (captured_done (capturing.mpr data) more)
  | overflowed _ data more exceeds answer =>
    rcases answer with rfl | rfl
    · exact ⟨unread (by simp),by simp⟩
    · exact ⟨unread (by simp),by simp⟩
  | delivered called data done ran =>
    have replied : (mail_reply called.result).Single :=
      mail_reply_single fun err failed => errors v.state.current_mail err (by simp [failed])
    exact keep (by simp) (delivered_done called.effects _ (capturing.mpr data) done replied)
  | undelivered called data done ran => exact ⟨unread (by simp),by simp⟩
  | refused response free refuses =>
    have known := refusal_known refuses
    have large := refusals_code response known
    exact replies [] [.Reply response] response free (fun parsed => by simp [parsed,View.refusal] at refuses) (by simp)
      (by simp) rfl (refusals_single response known) (by omega)
  | greeted domain extended called parsed phase ran accepted =>
    exact keep (by simp) (greeted_done called.effects called.result framed due (command (by simp [phase])) parsed named
      single)
  | ungreeted domain extended called replies parsed phase ran sent =>
    exact ⟨unread (by simp),by simp⟩
  | helped parsed free =>
    exact keep (by simp) (helped_done v (fun capture => free (capturing.mp capture)) unchallenged parsed)
  | unhelped replies parsed free sent => exact ⟨unread (by simp),by simp⟩
  | idle parsed free =>
    exact replies [] [.Reply OK] OK free (by simp [parsed]) (by simp) (by simp) rfl (by decide) (by decide)
  | upgraded parsed accepts =>
    exact replies [] [.Reply START_TLS,.TlsStarted] START_TLS (by simp [(start_tls_accepted accepts).1]) (by simp [parsed])
      (by simp) (by simp) rfl (by decide) (by decide)
  | downgraded _ parsed accepts config => exact ⟨unread (by simp),by simp⟩
  | authenticated method initial exchanged username password called parsed accepts challenged ran accepted =>
    exact replies exchanged (called.effects.map .Effect ++ [Event.OnLogin username password called.result,.Reply AUTH_OK]) AUTH_OK
      (by simp [(authenticate_accepted accepts).1]) (by simp [parsed]) challenged (by simp)
      (by rw [List.filterMap_append,replies_of_effects]; rfl) (by decide) (by decide)
  | unauthenticated method initial exchanged last username password called parsed accepts challenged ran answer =>
    have free := command (by simp [(authenticate_accepted accepts).1])
    refine ⟨(exchange_framed exchanged _ framed due free (by simp [parsed]) challenged ?_).1,by simp⟩
    rcases answer with rfl | ⟨rfl,-⟩
    · simp
    · simp
  | garbled method initial exchanged err parsed accepts challenged known =>
    exact replies exchanged [.Reply (.syntax_error (some err))] (.syntax_error (some err))
      (by simp [(authenticate_accepted accepts).1]) (by simp [parsed]) challenged (by simp) rfl
      (errors_single err known) (by simp)
  | deserted method initial exchanged challenge err parsed accepts challenged asked known eof =>
    have free := command (by simp [(authenticate_accepted accepts).1])
    obtain ⟨all,-⟩ := exchange_framed exchanged [.Reply challenge,.Reply (.syntax_error (some err))] framed due free
      (by simp [parsed]) challenged (by simp)
    refine ⟨all,fun _ => ⟨?_,.inr eof⟩⟩
    have ends : ¬ Challenged (past ++ Event.Received line :: ((Event.Parse line :: dialogue exchanged ++ [Event.Reply challenge]) ++
        [Event.Reply (.syntax_error (some err))])) := not_challenged_after _ _ (by simp) (by simp)
    simpa using ends
  | broken method initial exchanged last parsed accepts challenged asked =>
    have free := command (by simp [(authenticate_accepted accepts).1])
    refine ⟨(exchange_framed exchanged _ framed due free (by simp [parsed]) challenged ?_).1,by simp⟩
    obtain rfl | ⟨challenge,known,rfl⟩ := asked
    · simp
    · simp
  | mail sender parsed accepts =>
    exact replies [] [.Reply OK] OK (by simp [(mail_accepted accepts).1]) (by simp [parsed]) (by simp) (by simp) rfl
      (by decide) (by decide)
  | recipient recipient parsed accepts =>
    exact replies [] [.Reply OK] OK (by simp [(recipient_accepted accepts).1]) (by simp [parsed]) (by simp) (by simp) rfl
      (by decide) (by decide)
  | data parsed accepts =>
    exact replies [] [.Reply DATA_START] DATA_START (by simp [(data_accepted accepts).1]) (by simp [parsed]) (by simp)
      (by simp) rfl (by decide) (by decide)
  | reset called parsed free ran =>
    exact replies [] (.Reply RESET :: (called.effects.map .Effect ++ [Event.OnReset called.result])) RESET free
      (by simp [parsed]) (by simp) (by simp)
      (by rw [List.filterMap_cons,List.filterMap_append,replies_of_effects]; rfl) (by decide) (by decide)
  | quit parsed free => exact ⟨unread (by simp),by simp⟩
  | silent _ free config => exact ⟨unread (by simp),by simp⟩

end

/-! ### Sessions -/

/-- Streams that stay closed once they are, before and after an upgrade. -/
def Connection.Proper : Connection → Prop
  | .Plain stream tls => PostGraph.Proper stream.inner.reads ∧
      ∀ acceptor ∈ tls, ∀ ahead decrypted, acceptor.accept ahead = some decrypted → PostGraph.Proper decrypted.reads
  | .Tls stream => PostGraph.Proper stream.inner.reads

theorem Connection.Proper.reads {c : Connection} (proper : c.Proper) : PostGraph.Proper c.stream.inner.reads := by
  cases c with
  | Plain _ _ => exact proper.1
  | Tls _ => exact proper

theorem proper_kept : Keeps (fun s : Session H Effect => ∀ c ∈ s.connection, c.Proper)
    (fun s => ∀ c ∈ s.connection, c.Proper) := by
  have shorter {reads reads' : List Recv} (proper : PostGraph.Proper reads) (suffix : reads' <:+ reads) :
      PostGraph.Proper reads' := fun recv member => proper recv (suffix.subset member)
  refine keeps_connection ?_ ?_
  · intro c reader proper suffix
    cases c with
    | Plain _ _ => exact ⟨shorter proper.1 suffix,proper.2⟩
    | Tls _ => exact shorter proper suffix
  · intro c d proper upgraded
    cases c with
    | Tls _ => simp [Connection.start_tls] at upgraded
    | Plain stream tls =>
      simp only [Connection.start_tls,Option.bind_eq_bind,Option.bind_eq_some_iff] at upgraded
      obtain ⟨acceptor,configured,decrypted,accepted,made⟩ := upgraded
      obtain rfl : Connection.new_tls decrypted = d := by simpa using made
      exact proper.2 acceptor configured _ decrypted accepted

section
variable [Handler H Effect] {s t : Session H Effect} {outcome : Outcome}

/-- Before a turn: every line so far has got its reply. -/
structure Orderly (s : Session H Effect) : Prop where
  transaction : Transaction s.view s.trace
  unchallenged : ¬ Challenged s.trace
  framed : Always Framed s.trace
  due : Due s.trace ∨ s.pending = []
  named : s.config.server_name ≠ []
  single : OneLine s.config.server_name
  proper : ∀ c ∈ s.connection, c.Proper

/-- The errors of `on_mail` are texts of one line. -/
def ErrorsSingle (trace : List (Event Effect)) : Prop := ∀ mail err, .OnMail mail (.error err) ∈ trace → OneLine err

theorem Orderly.reacted (orderly : Orderly s) (reacted : Reacted s outcome t) (proper : ∀ c ∈ t.connection, c.Proper)
    (errors : ErrorsSingle t.trace) : Always Framed t.trace ∧ (outcome = .Continue → Orderly t) := by
  obtain ⟨more,line,events,trace,reaction⟩ := reacted
  have due := orderly.due.resolve_right more
  have properly : s.Proper := by
    cases connected : s.connection with
    | none => simp [Session.Proper,Session.incoming,connected,PostGraph.Proper]
    | some c => simpa [Session.Proper,Session.incoming,connected] using (orderly.proper c connected).reads
  obtain ⟨framed,goesOn⟩ := reaction.framed orderly.transaction.capturing orderly.unchallenged orderly.framed due
    orderly.named orderly.single fun mail err member => errors mail err (by simp [trace,member])
  refine ⟨trace ▸ framed,fun continues => ?_⟩
  obtain ⟨unchallenged,later⟩ := goesOn continues
  obtain ⟨handler,config⟩ := reaction.config
  have name : t.config.server_name = s.config.server_name := by
    have same := congrArg SessionConfig.server_name config
    exact same
  exact {
    transaction := trace ▸ (transaction_invariant.step orderly.transaction reaction.step).2 continues
    unchallenged := trace ▸ unchallenged
    framed := trace ▸ framed
    due := later.elim (fun due => .inl (trace ▸ due)) fun ended => .inr (ended properly)
    named := name ▸ orderly.named
    single := name ▸ orderly.single
    proper := proper }

variable [Base64]

theorem loop_framed (n : Nat) (orderly : Orderly s) (errors : ErrorsSingle (final (loop n s)).trace) :
    Always Framed (final (loop n s)).trace := by
  induction n generalizing s with
  | zero => exact orderly.framed
  | succ n ih =>
    have turned := ends_of_triple (turn_reacts s) rfl
    have kept := proper_kept.turn orderly.proper
    simp only [loop,bind,EStateM.bind] at errors ⊢
    cases ran : turn s with
    | error err t =>
      rw [ran] at turned kept errors
      rcases turned with ⟨silent,-⟩ | reacted
      · show Always Framed t.trace
        rw [silent,List.append_nil]
        exact orderly.framed
      · exact (orderly.reacted reacted kept errors).1
    | ok control t =>
      rw [ran] at turned kept errors
      cases control with
      | Return => exact (orderly.reacted turned kept errors).1
      | Continue =>
        obtain ⟨later,grown⟩ := loop_extends n t
        have sofar : ErrorsSingle t.trace := fun mail err member => errors mail err (by simp [← grown,member])
        exact ih ((orderly.reacted turned kept sofar).2 rfl) errors

theorem handle_framed (connection : Connection) (config : SessionConfig H) (proper : connection.Proper)
    (named : config.server_name ≠ []) (single : OneLine config.server_name) (n : Nat)
    (errors : ErrorsSingle (final (handle n (.new connection config : Session H Effect))).trace) :
    Always Framed (final (handle n (.new connection config : Session H Effect))).trace := by
  have fresh : ∀ c ∈ (Session.new connection config : Session H Effect).connection, c.Proper := by
    rintro _ ⟨⟩
    exact proper
  have run := reply_run (.new connection config : Session H Effect) (.banner config.server_name)
  have kept := proper_kept.reply (.banner config.server_name) _ fresh
  simp only [handle,bind,EStateM.bind,run_get] at errors ⊢
  have banner : (Session.new connection config : Session H Effect).config.server_name = config.server_name := rfl
  rw [banner] at errors ⊢
  cases ran : Session.reply (.banner config.server_name) (.new connection config : Session H Effect) with
  | error err t =>
    rw [ran] at run
    show Always Framed t.trace
    rw [run.1.1]
    exact always_nil
  | ok _ t =>
    rw [ran] at run kept errors
    obtain ⟨⟨trace,view⟩,-⟩ := run
    have greeted : t.trace = [.Reply (.banner config.server_name)] := trace
    have configured : t.config = config := congrArg View.config view
    refine loop_framed n ?_ errors
    exact {
      transaction := by rw [greeted,view]; exact transaction_init connection config
      unchallenged := by rw [greeted]; simp [Challenged,Response.banner]
      framed := by rw [greeted]; exact always_singleton.mpr trivial
      due := .inl fun before line events split => by
        rw [greeted] at split
        cases before <;> simp at split
      named := configured ▸ named
      single := configured ▸ single
      proper := kept }

/-- What a session writes between two lines that it reads: nothing after a line of data,
    and after any other line one reply, unless the line is HELP. -/
theorem reply_framed_iff (connection : Connection) (config : SessionConfig H) (proper : connection.Proper)
    (named : config.server_name ≠ []) (single : OneLine config.server_name) (n : Nat)
    (errors : ErrorsSingle (final (handle n (.new connection config : Session H Effect))).trace)
    (past rest events : List (Event Effect)) (line next : Bytes)
    (split : (final (handle n (.new connection config : Session H Effect))).trace =
      past ++ Event.Received line :: (events ++ Event.Received next :: rest))
    (consecutive : ∀ between, .Received between ∉ events) :
    (Captures past line → written events = []) ∧
      (¬ Captures past line → (WellFormed (written events) ↔ ¬ AsksHelp past line)) := by
  have framed := handle_framed connection config proper named single n errors
  have due : Due (past ++ Event.Received line :: events) :=
    framed (past ++ Event.Received line :: events) (.Received next) rest (by simp [split])
  obtain ⟨captured,answered⟩ := due past line events rfl consecutive
  exact ⟨captured,answered⟩

end

section
attribute [local instance] Sample.argon2 Sample.base64

/-- A client that asks for help, or for nothing, and leaves. -/
def sampleAsker (command : String) : Session ProxyHandler ProxyEffect :=
  .new (.new_plain (Sample.sends (command ++ "\r\nQUIT\r\n")) none) (Sample.config .None)

/-- What is written after HELP is not one reply: "250-Commands supported" goes on with 214. -/
theorem help_replies_two_codes : ∃ past line events next rest,
    (final (handle 2 (sampleAsker "HELP"))).trace = past ++ Event.Received line :: (events ++ Event.Received next :: rest) ∧
    (∀ between, .Received between ∉ events) ∧ ¬ Captures past line ∧ ¬ WellFormed (written events) := by
  refine ⟨[.Reply (.banner "postgraph".toList)],ascii "HELP\r\n",
    .Parse (ascii "HELP\r\n") :: (sampleAsker "HELP").view.help_replies.map .Reply,ascii "QUIT\r\n",
    [.Parse (ascii "QUIT\r\n"),.Reply GOODBYE],by decide +kernel,by simp,?_,?_⟩
  · rintro ⟨capturing,-⟩
    simp [Capturing,reply_of,Response.banner] at capturing
  · simpa [written_cons,reply_of] using help_not_framed (sampleAsker "HELP").view

theorem reply_framed_sample : WellFormed (written ([.Parse (ascii "NOOP\r\n"),.Reply OK] : List (Event ProxyEffect))) := by
  have trace : (final (handle 2 (sampleAsker "NOOP"))).trace = [Event.Reply (.banner "postgraph".toList)] ++
      Event.Received (ascii "NOOP\r\n") :: ([Event.Parse (ascii "NOOP\r\n"),.Reply OK] ++ Event.Received (ascii "QUIT\r\n") ::
        [.Parse (ascii "QUIT\r\n"),.Reply GOODBYE]) := by decide +kernel
  have idle : ¬ Capturing ([.Reply (.banner "postgraph".toList)] : List (Event ProxyEffect)) := by
    simp [Capturing,reply_of,Response.banner]
  have other : Command.parse (ascii "NOOP\r\n") ≠ .ok .Help := by decide
  have errors : ErrorsSingle (final (handle 2 (sampleAsker "NOOP"))).trace := by
    rw [trace]
    simp [ErrorsSingle]
  have proper : (Connection.new_plain (Sample.sends "NOOP\r\nQUIT\r\n") none).Proper :=
    ⟨by unfold Proper; decide,by simp⟩
  have framed := reply_framed_iff (.new_plain (Sample.sends "NOOP\r\nQUIT\r\n") none) (Sample.config .None)
    proper (by decide) (by decide) 2 errors _ _ _ _ _ trace (by simp)
  exact (framed.2 fun captures => idle captures.1).mpr fun asks => other asks.2.2

end
end PostGraph
