import PostGraph.Reaction
import PostGraph.Reading

/-!
The programs of a session do what `Reaction` says and nothing else (`turn_reacts`), so
an invariant of `Step` holds along every session (`handle_always`).
-/
namespace PostGraph
open Std.Do Programs Session
set_option mvcgen.warning false
set_option autoImplicit false

variable {H Effect : Type}

attribute [local spec] get_connection_spec reply_spec

theorem in_phase_iff {s : Session H Effect} {phase : Phase} :
    s.state.in_phase phase = true ↔ s.view.state.phase = phase := by
  simp [SessionState.in_phase,Session.view]

theorem is_authenticated_view (s : Session H Effect) : s.view.is_authenticated = s.is_authenticated := rfl

section
variable (s : Session H Effect)

@[local spec] theorem supports_tls_spec :
    ⦃fun t => ⌜t = s⌝⦄ Session.supports_tls
    ⦃post⟨fun supported t => ⌜t = s ∧ supported = s.view.supports_tls⌝,fun _ t => ⌜t = s⌝⟩⦄ := by
  mvcgen [Session.supports_tls]
  case vc1 start same connection state here =>
    obtain ⟨rfl,connected⟩ := here
    subst same
    simp [Session.view,connected]
  case vc2 => simp_all

@[local spec] theorem called_spec {α : Type} (call : H → Called H Effect α)
    (event : Except Text α → Event Effect) :
    ⦃fun t => ⌜t = s⌝⦄ called call event
    ⦃post⟨fun result t => ⌜∃ outcome, call s.config.handler = outcome ∧ result = outcome.result ∧
        t.trace = s.trace ++ (outcome.effects.map .Effect ++ [event outcome.result]) ∧
        t.view = { s.view with config.handler := outcome.handler }⌝,fun _ _ => ⌜False⌝⟩⦄ := by
  mvcgen [called,log]
  case vc1 here _ _ _ =>
    subst here
    exact ⟨_,rfl,rfl,rfl,rfl⟩

@[local spec] theorem upgrade_spec :
    ⦃fun t => ⌜t = s⌝⦄ upgrade
    ⦃post⟨fun _ t => ⌜t.trace = s.trace ++ [Event.TlsStarted] ∧
        t.view = { s.view with supports_tls := false, is_tls := true }⌝,
      fun _ t => ⌜t.trace = s.trace ∧ t.view.config = s.view.config⌝⟩⦄ := by
  mvcgen [upgrade,log]
  case vc1 here _ _ same _ _ =>
    obtain ⟨rfl,-⟩ := same
    subst here
    exact ⟨rfl,rfl⟩
  case vc2 here _ _ same _ _ upgraded _ _ =>
    obtain ⟨rfl,-⟩ := same
    subst here
    obtain ⟨tls,final⟩ := Connection.start_tls_tls upgraded
    exact ⟨rfl,by simp +zetaDelta [Session.view,tls,final]⟩
  case vc3 here _ _ =>
    rintro rfl
    subst here
    exact ⟨rfl,rfl⟩

/-- The first of the replies were sent, then a write failed. -/
def CutShort (replies : List Response) (s t : Session H Effect) : Prop :=
  ∃ sent, sent <+: replies ∧ Did s (sent.map .Reply) t

variable {s} {t u : Session H Effect} {replies later : List Response} {response : Response}

theorem CutShort.after (done : Did s [.Reply response] t) (cut : CutShort replies t u) :
    CutShort (response :: replies) s u := by
  obtain ⟨sent,begins,did⟩ := cut
  exact ⟨response :: sent,List.cons_prefix_cons.mpr ⟨rfl,begins⟩,done.trans did⟩

theorem cut_at_once (done : Did s [] t) : CutShort replies s t := ⟨[],List.nil_prefix,done⟩

@[local spec] theorem reply_features_spec (s : Session H Effect) (features : List Text) :
    ⦃fun t => ⌜t = s⌝⦄ reply_features features
    ⦃post⟨fun _ t => ⌜Did s ((feature_replies features).map .Reply) t⌝,
      fun _ t => ⌜CutShort (feature_replies features) s t⌝⟩⦄ := by
  induction features generalizing s with
  | nil =>
    mvcgen [reply_features]
    subst_vars
    exact did_refl _
  | cons feature features ih =>
    cases features with
    | nil =>
      mvcgen [reply_features]
      case vc1 here _ _ =>
        subst here
        exact id
      case vc2 here _ _ =>
        subst here
        exact cut_at_once
    | cons next features =>
      unfold reply_features
      mvcgen [ih]
      case vc1 here _ _ did _ _ => exact fun later => here ▸ did.trans later
      case vc2 here _ _ did _ _ => exact fun cut => here ▸ cut.after did
      case vc3 here _ _ =>
        subst here
        exact cut_at_once

@[local spec] theorem reply_hello_spec (s : Session H Effect) (extended : Bool) :
    ⦃fun t => ⌜t = s⌝⦄ reply_hello extended
    ⦃post⟨fun _ t => ⌜Did s ((s.view.hello_replies extended).map .Reply) t⌝,
      fun _ t => ⌜CutShort (s.view.hello_replies extended) s t⌝⟩⦄ := by
  unfold reply_hello
  mvcgen
  case vc1 here asked _ _ did _ _ same _ t =>
    obtain ⟨rfl,rfl⟩ := same
    subst here
    rw [View.hello_replies,if_pos asked,View.features,did.2]
    exact fun listed => did.trans listed
  case vc2 here asked _ _ did _ _ same _ t =>
    obtain ⟨rfl,rfl⟩ := same
    subst here
    rw [View.hello_replies,if_pos asked,View.features,did.2]
    exact fun cut => cut.after did
  case vc3 here asked _ _ did _ _ =>
    rintro rfl
    subst here
    rw [View.hello_replies,if_pos asked]
    exact (cut_at_once (did_refl _)).after did
  case vc4 here _ _ _ =>
    subst here
    exact cut_at_once
  case vc5 here plain _ _ =>
    subst here
    rw [View.hello_replies,if_neg plain]
    exact id
  case vc6 here _ _ _ =>
    subst here
    exact cut_at_once

theorem help_spec (s : Session H Effect) :
    ⦃fun t => ⌜t = s⌝⦄ handle_help
    ⦃post⟨fun _ t => ⌜Did s (s.view.help_replies.map .Reply) t⌝,fun _ t => ⌜CutShort s.view.help_replies s t⌝⟩⦄ := by
  unfold handle_help
  mvcgen
  case vc1 here _ _ did _ _ same _ t =>
    obtain ⟨rfl,rfl⟩ := same
    subst here
    rw [View.help_replies,View.commands,← did.2]
    exact fun listed => did.trans listed
  case vc2 here _ _ did _ _ same _ t =>
    obtain ⟨rfl,rfl⟩ := same
    subst here
    exact fun failed => (cut_at_once failed).after did
  case vc3 here _ _ did _ _ =>
    rintro rfl
    subst here
    exact (cut_at_once (did_refl _)).after did
  case vc4 here _ _ =>
    subst here
    exact cut_at_once

/-! ### Handshakes -/

/-- All challenges of a handshake were answered. -/
def Answered (s t : Session H Effect) : Prop :=
  ∃ exchanged, (∀ e ∈ exchanged, e.1 ∈ challenges) ∧ Did s (dialogue exchanged) t ∧ (s.Proper → t.Proper)

/-- The last challenge has no answer. -/
def Asked (s t : Session H Effect) : Prop :=
  ∃ exchanged, ∃ challenge ∈ challenges, (∀ e ∈ exchanged, e.1 ∈ challenges) ∧
    Did s (dialogue exchanged ++ [Event.Reply challenge]) t ∧ (s.Proper → t.Proper)

/-- A handshake that ended in between. -/
def Broken (s t : Session H Effect) : Prop :=
  ∃ exchanged, ∃ last : List (Event Effect), (∀ e ∈ exchanged, e.1 ∈ challenges) ∧
    (last = [] ∨ ∃ challenge ∈ challenges, last = [.Reply challenge]) ∧ Did s (dialogue exchanged ++ last) t

theorem Answered.broken (answered : Answered s t) : Broken s t := by
  obtain ⟨exchanged,challenged,did,-⟩ := answered
  exact ⟨exchanged,[],challenged,.inl rfl,by simpa using did⟩

theorem Asked.broken (asked : Asked s t) : Broken s t := by
  obtain ⟨exchanged,challenge,known,challenged,did,-⟩ := asked
  exact ⟨exchanged,_,challenged,.inr ⟨challenge,known,rfl⟩,did⟩

theorem answered_refl (s : Session H Effect) : Answered s s := ⟨[],by simp,did_refl s,id⟩

theorem reply_asks (s : Session H Effect) (challenge : Response) (known : challenge ∈ challenges) :
    ⦃fun t => ⌜Answered s t⌝⦄ reply challenge ⦃post⟨fun _ t => ⌜Asked s t⌝,fun _ t => ⌜Answered s t⌝⟩⦄ := by
  refine triple_of_ends fun t ⟨exchanged,challenged,did,proper⟩ => (reply_run t challenge).mono ?_ ?_
  · rintro _ u ⟨did',incoming⟩
    exact ⟨exchanged,challenge,known,challenged,did.trans did',fun kept => proper_of_incoming incoming (proper kept)⟩
  · rintro _ u ⟨did',incoming⟩
    exact ⟨exchanged,challenged,by simpa using did.trans did',fun kept => proper_of_incoming incoming (proper kept)⟩

/-- The answer to the last challenge, or the end of the stream. -/
structure Heard (s : Session H Effect) (line : Option Bytes) (t : Session H Effect) : Prop where
  answered : line.isSome → Answered s t
  ended : (∀ answer, line = some answer → False) → Asked s t ∧ (s.Proper → t.pending = [])

theorem read_line_answers (s : Session H Effect) :
    ⦃fun t => ⌜Asked s t⌝⦄ read_line ⦃post⟨fun line t => ⌜Heard s line t⌝,fun _ t => ⌜Broken s t⌝⟩⦄ := by
  refine triple_of_ends fun t ⟨exchanged,challenge,known,challenged,did,proper⟩ => (read_line_reads t).mono ?_ ?_
  · rintro line u reads
    cases line with
    | some line =>
      refine ⟨fun _ => ⟨exchanged ++ [(challenge,line)],?_,?_,fun kept => reads.proper (proper kept)⟩,by simp⟩
      · simpa [known,or_imp,forall_and] using challenged
      · simpa [dialogue] using did.trans reads.did
    | none =>
      refine ⟨by simp,fun _ => ⟨⟨exchanged,challenge,known,challenged,?_,fun kept => reads.proper (proper kept)⟩,
        fun kept => reads.ended rfl (proper kept)⟩⟩
      simpa using did.trans reads.did
  · intro _ u did'
    exact ⟨exchanged,_,challenged,.inr ⟨challenge,known,rfl⟩,by simpa using did.trans did'⟩

theorem handle_auth_spec [Base64] (s : Session H Effect) (method : AuthMethod) (initial : Option Bytes) :
    ⦃fun t => ⌜Answered s t⌝⦄ handle_auth method initial
    ⦃post⟨fun result t => ⌜match result with
        | .Ok _ _ => Answered s t
        | .SyntaxError err => err ∈ handshake_errors ∧ (Answered s t ∨ Asked s t ∧ (s.Proper → t.pending = []))⌝,
      fun _ t => ⌜Broken s t⌝⟩⦄ := by
  have challenge (response : Response) (known : response ∈ challenges) := reply_asks s response known
  have answer := read_line_answers s
  unfold handle_auth
  mvcgen [-reply_spec,challenge,answer]
  -- by what was heard last: an answer, the end of the stream, or nothing but a failure
  all_goals first
    | exact Answered.broken
    | exact Heard.answered ‹_› rfl
    | exact (Heard.answered ‹_› rfl).broken
    | exact Answered.broken ‹_›
    | exact ⟨by decide,.inl ‹_›⟩
    | exact ⟨by decide,.inl (Heard.answered ‹_› rfl)⟩
    | exact ⟨by decide,.inr (Heard.ended ‹_› ‹_›)⟩

/-! ### Commands -/

/-- What a turn does from `s` with a line of which `before` is done already. If the
    client is found to have closed its side, nothing more is to come, where `proper`
    says that streams stay closed. -/
def Reacts [Handler H Effect] (proper : Prop) (s : Session H Effect) (line : Bytes) (before : List (Event Effect))
    (outcome : Outcome) (t : Session H Effect) : Prop :=
  ∃ events, t.trace = s.trace ++ events ∧
    Reaction (proper → t.pending = []) s.view line (before ++ events) outcome t.view

variable [Handler H Effect] {proper : Prop} {line : Bytes}

theorem Reacts.refused (command : s.view.state.phase ≠ .Data)
    (refuses : s.view.refusal (Command.parse line) = some response) (done : Did s [.Reply response] t) :
    Reacts proper s line [.Parse line] .Continue t := by
  refine ⟨_,done.1,?_⟩
  rw [done.2]
  exact .refused response command refuses

/-- The reply to a command fails, perhaps after the command has changed the state. -/
theorem silent_later {r : Session H Effect} (command : s.view.state.phase ≠ .Data) (done : Did r [] t)
    (trace : r.trace = s.trace) (config : r.view.config = s.view.config) :
    Reacts proper s line [.Parse line] .Closed t :=
  ⟨[],by rw [done.1,trace],.silent _ command (by rw [done.2,config])⟩

theorem silent_at_once (command : s.view.state.phase ≠ .Data) (done : Did s [] t) :
    Reacts proper s line [.Parse line] .Closed t :=
  silent_later command done rfl rfl

omit [Handler H Effect] in
theorem not_in_phase {phase : Phase} (other : (!s.state.in_phase phase) = true) : s.state.phase ≠ phase := by
  simpa [SessionState.in_phase] using other

omit [Handler H Effect] in
theorem of_in_phase {phase : Phase} (here : ¬ (!s.state.in_phase phase) = true) : s.state.phase = phase := by
  simpa [SessionState.in_phase] using here

theorem handle_mail_spec (sender : Text) (parsed : Command.parse line = .ok (.Mail sender)) (command : s.view.state.phase ≠ .Data) :
    ⦃fun t => ⌜t = s⌝⦄ handle_mail sender
    ⦃post⟨fun _ t => ⌜Reacts proper s line [.Parse line] .Continue t⌝,
      fun _ t => ⌜Reacts proper s line [.Parse line] .Closed t⌝⟩⦄ := by
  mvcgen [handle_mail]
  case vc1 here other _ _ done =>
    subst here
    exact .refused command (by simp [parsed,View.refusal,not_in_phase other]) done
  case vc2 here _ _ _ =>
    subst here
    exact silent_at_once command
  case vc3 here phase other _ _ done =>
    subst here
    exact .refused command (by simp_all [View.refusal,of_in_phase phase,is_authenticated_view]) done
  case vc4 here _ _ _ _ =>
    subst here
    exact silent_at_once command
  case vc5 here phase authenticated _ _ _ =>
    rintro ⟨trace,view⟩
    subst here
    refine ⟨_,trace,?_⟩
    rw [view]
    exact .mail sender parsed (by simp_all [View.refusal,of_in_phase phase,is_authenticated_view])
  case vc6 here phase authenticated _ _ _ =>
    subst here
    exact fun done => silent_later command done rfl rfl

theorem handle_recipient_spec (recipient : Text) (parsed : Command.parse line = .ok (.Recipient recipient)) (command : s.view.state.phase ≠ .Data) :
    ⦃fun t => ⌜t = s⌝⦄ handle_recipient recipient
    ⦃post⟨fun _ t => ⌜Reacts proper s line [.Parse line] .Continue t⌝,
      fun _ t => ⌜Reacts proper s line [.Parse line] .Closed t⌝⟩⦄ := by
  mvcgen [handle_recipient]
  case vc1 here other _ _ done =>
    subst here
    exact .refused command (by simp [parsed,View.refusal,not_in_phase other]) done
  case vc2 here _ _ _ =>
    subst here
    exact silent_at_once command
  case vc3 here phase other _ _ done =>
    subst here
    exact .refused command (by simp_all [View.refusal,of_in_phase phase,is_authenticated_view]) done
  case vc4 here _ _ _ _ =>
    subst here
    exact silent_at_once command
  case vc5 here phase authenticated _ _ _ =>
    rintro ⟨trace,view⟩
    subst here
    refine ⟨_,trace,?_⟩
    rw [view]
    exact .recipient recipient parsed (by simp_all [View.refusal,of_in_phase phase,is_authenticated_view])
  case vc6 here phase authenticated _ _ _ =>
    subst here
    exact fun done => silent_later command done rfl rfl

theorem handle_data_command_spec (parsed : Command.parse line = .ok .Data) (command : s.view.state.phase ≠ .Data) :
    ⦃fun t => ⌜t = s⌝⦄ handle_data_command
    ⦃post⟨fun _ t => ⌜Reacts proper s line [.Parse line] .Continue t⌝,
      fun _ t => ⌜Reacts proper s line [.Parse line] .Closed t⌝⟩⦄ := by
  mvcgen [handle_data_command]
  case vc1 here other _ _ done =>
    subst here
    exact .refused command (by simp [parsed,View.refusal,not_in_phase other]) done
  case vc2 here _ _ _ =>
    subst here
    exact silent_at_once command
  case vc3 here phase other _ _ done =>
    subst here
    exact .refused command (by simp_all [View.refusal,of_in_phase phase,is_authenticated_view]) done
  case vc4 here _ _ _ _ =>
    subst here
    exact silent_at_once command
  case vc5 here phase authenticated _ _ _ =>
    rintro ⟨trace,view⟩
    subst here
    refine ⟨_,trace,?_⟩
    rw [view]
    exact .data parsed (by simp_all [View.refusal,of_in_phase phase,is_authenticated_view])
  case vc6 here phase authenticated _ _ _ =>
    subst here
    exact fun done => silent_later command done rfl rfl

theorem handle_reset_spec (parsed : Command.parse line = .ok .Reset) (command : s.view.state.phase ≠ .Data) :
    ⦃fun t => ⌜t = s⌝⦄ handle_reset
    ⦃post⟨fun _ t => ⌜Reacts proper s line [.Parse line] .Continue t⌝,fun _ t => ⌜Reacts proper s line [.Parse line] .Closed t⌝⟩⦄ := by
  unfold handle_reset on_reset
  mvcgen
  case vc1 here _ _ _ done result u after =>
    obtain ⟨replied,viewed⟩ := done
    obtain ⟨outcome,ran,-,trace,view⟩ := after
    subst here
    refine ⟨_,by rw [trace,replied,List.append_assoc],?_⟩
    rw [view,viewed]
    exact .reset outcome parsed command ((congrArg (fun v => Handler.on_reset v.config.handler) viewed.symm).trans ran)
  case vc2 here _ _ _ =>
    subst here
    exact fun done => silent_later command done rfl rfl

theorem handle_help_spec (parsed : Command.parse line = .ok .Help) (command : s.view.state.phase ≠ .Data) :
    ⦃fun t => ⌜t = s⌝⦄ handle_help
    ⦃post⟨fun _ t => ⌜Reacts proper s line [.Parse line] .Continue t⌝,
      fun _ t => ⌜Reacts proper s line [.Parse line] .Closed t⌝⟩⦄ := by
  refine triple_of_ends ?_
  rintro start rfl
  refine (ends_of_triple (help_spec start) rfl).mono ?_ ?_
  · rintro _ t ⟨trace,view⟩
    refine ⟨_,trace,?_⟩
    rw [view]
    exact .helped parsed command
  · rintro _ t ⟨sent,begins,trace,view⟩
    refine ⟨_,trace,?_⟩
    rw [view]
    exact .unhelped sent parsed command begins

theorem handle_start_tls_spec (parsed : Command.parse line = .ok .StartTls) (command : s.view.state.phase ≠ .Data) :
    ⦃fun t => ⌜t = s⌝⦄ handle_start_tls
    ⦃post⟨fun _ t => ⌜Reacts proper s line [.Parse line] .Continue t⌝,
      fun _ t => ⌜Reacts proper s line [.Parse line] .Closed t⌝⟩⦄ := by
  unfold handle_start_tls
  mvcgen
  case vc1 here _ plain _ same _ _ done =>
    obtain ⟨rfl,rfl⟩ := same
    subst here
    exact .refused command (by rw [parsed]; exact if_pos (by simpa using plain)) done
  case vc2 here _ _ _ same _ _ =>
    obtain ⟨rfl,-⟩ := same
    exact fun done => silent_at_once command (here ▸ done)
  case vc3 here _ supported _ same other _ _ done =>
    obtain ⟨rfl,rfl⟩ := same
    subst here
    exact .refused command (by rw [parsed]; exact (if_neg (by simpa using supported)).trans (if_neg (not_in_phase other))) done
  case vc4 here _ _ _ same _ _ _ =>
    obtain ⟨rfl,-⟩ := same
    exact fun done => silent_at_once command (here ▸ done)
  case vc5 here _ supported _ same phase _ u replied _ w after t =>
    obtain ⟨rfl,tls⟩ := same
    obtain ⟨trace,view⟩ := after
    subst here
    have now : t.snd.view = { w.view with state := .new } := rfl
    refine ⟨[.Reply START_TLS,.TlsStarted],by rw [trace,replied.1]; simp,?_⟩
    rw [now,view,replied.2]
    exact .upgraded parsed (by simp_all [View.refusal,of_in_phase phase])
  case vc6 here _ supported _ same phase _ _ replied _ _ =>
    obtain ⟨rfl,tls⟩ := same
    intro trace config
    subst here
    refine ⟨[.Reply START_TLS],by rw [trace,replied.1],?_⟩
    exact .downgraded _ parsed (by simp_all [View.refusal,of_in_phase phase]) (by rw [config,replied.2])
  case vc7 here _ _ _ same _ _ _ =>
    obtain ⟨rfl,-⟩ := same
    exact fun done => silent_at_once command (here ▸ done)
  case vc8 here _ _ =>
    rintro rfl
    exact silent_at_once command (here ▸ did_refl _)

/-- A login: the callback, its answer, and the end of the session unless the
    callback accepts. -/
@[local spec] theorem login_spec (s : Session H Effect) (username password : Text) :
    ⦃fun t => ⌜t = s⌝⦄ login username password
    ⦃post⟨fun _ t => ⌜∃ called, Handler.on_login s.config.handler username password = called ∧
        t.trace = s.trace ++ (called.effects.map .Effect ++
          [Event.OnLogin username password called.result,.Reply AUTH_OK]) ∧ called.result = .ok .Ok ∧
        t.view = { s.view with config.handler := called.handler, state.is_authenticated := true }⌝,
      fun _ t => ⌜∃ called last, Handler.on_login s.config.handler username password = called ∧
        (last = [] ∨ last = [.Reply AUTH_FAIL] ∧ called.result ≠ .ok .Ok) ∧
        t.trace = s.trace ++ (called.effects.map .Effect ++ Event.OnLogin username password called.result :: last) ∧
        t.view = { s.view with config.handler := called.handler }⌝⟩⦄ := by
  unfold login on_login
  mvcgen
  case vc1 here _ _ u after _ w replied t =>
    subst here
    obtain ⟨outcome,ran,accepted,trace,view⟩ := after
    have now : t.snd.view = { w.view with state.is_authenticated := true } := rfl
    refine ⟨outcome,ran,?_,accepted.symm,?_⟩
    · simp [t,replied.1,trace]
    · rw [now,replied.2,view]
  case vc3 here _ _ u after _ w replied =>
    subst here
    obtain ⟨outcome,ran,rejected,trace,view⟩ := after
    exact ⟨outcome,_,ran,.inr ⟨rfl,by simp [← rejected]⟩,by simp [replied.1,trace],by rw [replied.2,view]⟩
  case vc5 here _ _ _ u after _ w replied =>
    subst here
    obtain ⟨outcome,ran,rejected,trace,view⟩ := after
    exact ⟨outcome,_,ran,.inr ⟨rfl,by simp [← rejected]⟩,by simp [replied.1,trace],by rw [replied.2,view]⟩
  -- the reply fails
  all_goals
    rintro ⟨silent,same⟩
    rename_i after _ _
    subst_vars
    obtain ⟨outcome,ran,answer,trace,view⟩ := after
    exact ⟨outcome,[],ran,.inl rfl,by rw [silent,trace,List.append_nil],by rw [same,view]⟩

theorem authenticate_spec [Base64] (s : Session H Effect) (method : AuthMethod) (initial : Option Bytes)
    (kept : proper → s.Proper) (parsed : Command.parse line = .ok (.Authenticate method initial))
    (accepts : s.view.refusal (.ok (.Authenticate method initial)) = none) :
    ⦃fun t => ⌜t = s⌝⦄ authenticate method initial
    ⦃post⟨fun _ t => ⌜Reacts proper s line [.Parse line] .Continue t⌝,
      fun _ t => ⌜Reacts proper s line [.Parse line] .Closed t⌝⟩⦄ := by
  have handshake := handle_auth_spec s method initial
  unfold authenticate
  mvcgen [-reply_spec,reply_run_spec,handshake]
  case vc1 here => exact here ▸ answered_refl _
  case vc2 username password _ u answered _ t =>
    rintro ⟨called,ran,trace,accepted,view⟩
    obtain ⟨exchanged,challenged,⟨done,same⟩,-⟩ := answered
    refine ⟨_,by rw [trace,done,List.append_assoc],?_⟩
    rw [view,same]
    exact .authenticated method initial exchanged username password called parsed accepts challenged
      (same ▸ ran) accepted
  case vc3 username password _ u answered _ t =>
    rintro ⟨called,last,ran,answer,trace,view⟩
    obtain ⟨exchanged,challenged,⟨done,same⟩,-⟩ := answered
    refine ⟨_,by rw [trace,done,List.append_assoc],?_⟩
    rw [view,same]
    exact .unauthenticated method initial exchanged last username password called parsed accepts challenged
      (same ▸ ran) answer
  case vc4 err _ u given _ t =>
    rintro ⟨trace,view⟩ incoming
    obtain ⟨known,⟨exchanged,challenged,⟨done,same⟩,-⟩ | ⟨asked,ended⟩⟩ := given
    · refine ⟨_,by rw [trace,done,List.append_assoc],?_⟩
      rw [view,same]
      exact .garbled method initial exchanged err parsed accepts challenged known
    · obtain ⟨exchanged,challenge,asked,challenged,⟨done,same⟩,-⟩ := asked
      refine ⟨dialogue exchanged ++ [Event.Reply challenge,.Reply (.syntax_error (some err))],by rw [trace,done]; simp,?_⟩
      rw [view,same]
      exact .deserted method initial exchanged challenge err parsed accepts challenged asked known
        fun closed => (pending_of_incoming incoming).trans (ended (kept closed))
  case vc5 err _ u given _ t =>
    rintro ⟨trace,view⟩ -
    obtain ⟨exchanged,last,challenged,asked,done,same⟩ : Broken s u :=
      given.2.elim Answered.broken fun deserted => deserted.1.broken
    refine ⟨_,by rw [trace,done,List.append_assoc,List.append_nil],?_⟩
    rw [view,same]
    exact .broken method initial exchanged last parsed accepts challenged asked
  case vc6 =>
    rintro ⟨exchanged,last,challenged,asked,done,same⟩
    refine ⟨_,done,?_⟩
    rw [same]
    exact .broken method initial exchanged last parsed accepts challenged asked

theorem handle_authenticate_spec [Base64] (method : AuthMethod) (initial : Option Bytes) (kept : proper → s.Proper)
    (parsed : Command.parse line = .ok (.Authenticate method initial)) (command : s.view.state.phase ≠ .Data) :
    ⦃fun t => ⌜t = s⌝⦄ handle_authenticate method initial
    ⦃post⟨fun _ t => ⌜Reacts proper s line [.Parse line] .Continue t⌝,
      fun _ t => ⌜Reacts proper s line [.Parse line] .Closed t⌝⟩⦄ := by
  unfold handle_authenticate
  mvcgen
  case vc1 here other _ _ done =>
    subst here
    exact .refused command (by simp [parsed,View.refusal,not_in_phase other]) done
  case vc2 here _ _ _ => exact fun done => silent_at_once command (here ▸ done)
  case vc3 here phase mode _ _ =>
    subst here
    exact .refused command (by simp [parsed,View.refusal,of_in_phase phase,mode])
  case vc4 here _ _ _ _ => exact fun done => silent_at_once command (here ▸ done)
  case vc5 here phase mode c plain _ same _ _ done =>
    obtain ⟨rfl,connected⟩ := same
    subst here
    exact .refused command (by simpa [parsed,View.refusal,of_in_phase phase,mode,Session.view,connected] using plain) done
  case vc6 here _ _ _ _ _ same _ _ =>
    obtain ⟨rfl,-⟩ := same
    exact fun done => silent_at_once command (here ▸ done)
  case vc7 here phase mode c tls =>
    rintro _ rfl connected
    subst here
    refine authenticate_spec _ method initial kept parsed ?_ _ rfl
    simp_all [View.refusal,of_in_phase phase,Session.view]
  case vc8 here _ _ _ _ =>
    rintro rfl
    exact silent_at_once command (here ▸ did_refl _)
  case vc9 here phase mode =>
    subst here
    exact authenticate_spec _ method initial kept parsed (by simp [View.refusal,of_in_phase phase,mode]) _ rfl

theorem handle_hello_spec (domain : Text) (extended : Bool)
    (parsed : Command.parse line = .ok (.Hello domain extended)) (command : s.view.state.phase ≠ .Data) :
    ⦃fun t => ⌜t = s⌝⦄ handle_hello domain extended
    ⦃post⟨fun _ t => ⌜Reacts proper s line [.Parse line] .Continue t⌝,
      fun _ t => ⌜Reacts proper s line [.Parse line] .Closed t⌝⟩⦄ := by
  unfold handle_hello on_hello
  mvcgen
  case vc1 here other _ _ done =>
    subst here
    exact .refused command (by simp [parsed,View.refusal,not_in_phase other]) done
  case vc2 here _ _ _ => exact fun done => silent_at_once command (here ▸ done)
  case vc3 here phase _ _ _ u after _ w replied t =>
    subst here
    obtain ⟨outcome,ran,accepted,trace,view⟩ := after
    obtain ⟨sent,same⟩ := replied
    have now : t.snd.view = { w.view with state.phase := .Greeted } := rfl
    have events : t.snd.trace = w.trace := rfl
    refine ⟨outcome.effects.map .Effect ++ Event.OnHello domain extended outcome.result ::
      (u.view.hello_replies extended).map .Reply,by simp [events,sent,trace],?_⟩
    rw [now,same,view]
    exact .greeted domain extended outcome parsed (of_in_phase phase) ran accepted.symm
  case vc4 here phase _ _ _ u after _ w =>
    rintro ⟨replies,begins,sent,same⟩
    subst here
    obtain ⟨outcome,ran,-,trace,view⟩ := after
    refine ⟨outcome.effects.map .Effect ++ Event.OnHello domain extended outcome.result :: replies.map .Reply,
      by simp [sent,trace],?_⟩
    rw [view] at begins
    rw [same,view]
    exact .ungreeted domain extended outcome replies parsed (of_in_phase phase) ran begins
  case vc5 here phase _ _ _ u after =>
    subst here
    obtain ⟨outcome,ran,-,trace,view⟩ := after
    refine ⟨_,trace,?_⟩
    rw [view]
    exact .ungreeted domain extended outcome [] parsed (of_in_phase phase) ran List.nil_prefix
  case vc6 here phase _ _ _ _ u after =>
    subst here
    obtain ⟨outcome,ran,-,trace,view⟩ := after
    refine ⟨_,trace,?_⟩
    rw [view]
    exact .ungreeted domain extended outcome [] parsed (of_in_phase phase) ran List.nil_prefix

theorem handle_data_line_spec (data : s.view.state.phase = .Data) :
    ⦃fun t => ⌜t = s⌝⦄ handle_data_line line
    ⦃post⟨fun _ t => ⌜Reacts proper s line [] .Continue t⌝,fun _ t => ⌜Reacts proper s line [] .Closed t⌝⟩⦄ := by
  unfold handle_data_line handle_data on_mail
  mvcgen
  case vc1 here done _ _ err _ u after _ w replied t =>
    subst here
    obtain ⟨outcome,ran,failed,trace,view⟩ := after
    have now : t.snd.view = { w.view with state.current_mail := .empty, state.phase := .Greeted } := rfl
    have events : t.snd.trace = w.trace := rfl
    refine ⟨_,by rw [events,replied.1,trace,List.append_assoc],?_⟩
    rw [now,replied.2,view]
    simpa [mail_reply,← failed] using Reaction.delivered outcome data done ran
  case vc2 here done _ _ _ _ u after _ w =>
    rintro ⟨silent,same⟩
    subst here
    obtain ⟨outcome,ran,-,trace,view⟩ := after
    refine ⟨_,by rw [silent,List.append_nil,trace],?_⟩
    rw [same,view]
    exact .undelivered outcome data done ran
  case vc3 here done _ _ _ u after _ w replied t =>
    subst here
    obtain ⟨outcome,ran,accepted,trace,view⟩ := after
    have now : t.snd.view = { w.view with state.current_mail := .empty, state.phase := .Greeted } := rfl
    have events : t.snd.trace = w.trace := rfl
    refine ⟨_,by rw [events,replied.1,trace,List.append_assoc],?_⟩
    rw [now,replied.2,view]
    simpa [mail_reply,← accepted] using Reaction.delivered outcome data done ran
  case vc4 here done _ _ _ u after _ w =>
    rintro ⟨silent,same⟩
    subst here
    obtain ⟨outcome,ran,-,trace,view⟩ := after
    refine ⟨_,by rw [silent,List.append_nil,trace],?_⟩
    rw [same,view]
    exact .undelivered outcome data done ran
  case vc5 here more _ exceeds _ t replied =>
    subst here
    refine ⟨_,replied.1,?_⟩
    rw [replied.2]
    exact .overflowed _ data (by simpa using more) (by simpa using exceeds) (.inr rfl)
  case vc6 here more _ exceeds _ t =>
    intro silent
    subst here
    refine ⟨_,silent.1,?_⟩
    rw [silent.2]
    exact .overflowed _ data (by simpa using more) (by simpa using exceeds) (.inl rfl)
  case vc7 here more _ fits t =>
    subst here
    refine ⟨[],(List.append_nil _).symm,?_⟩
    exact Reaction.captured data (by simpa using more) (by simpa using fits)

theorem handle_command_spec [Base64] (c : Command) (kept : proper → s.Proper) (parsed : Command.parse line = .ok c)
    (command : s.view.state.phase ≠ .Data) :
    ⦃fun t => ⌜t = s⌝⦄ handle_command c
    ⦃post⟨fun control t => ⌜Reacts proper s line [.Parse line] (.of control) t⌝,
      fun _ t => ⌜Reacts proper s line [.Parse line] .Closed t⌝⟩⦄ := by
  unfold handle_command
  cases c with
  | Hello domain extended =>
    have hello := @handle_hello_spec _ _ s _ proper line domain extended parsed command
    mvcgen [hello]
  | Help =>
    have help := @handle_help_spec _ _ s _ proper line parsed command
    mvcgen [help]
  | StartTls =>
    have start_tls := @handle_start_tls_spec _ _ s _ proper line parsed command
    mvcgen [start_tls]
  | Authenticate method initial =>
    have authenticate := handle_authenticate_spec method initial kept parsed command
    mvcgen [authenticate]
  | Mail sender =>
    have mail := @handle_mail_spec _ _ s _ proper line sender parsed command
    mvcgen [mail]
  | Recipient recipient =>
    have recipient := @handle_recipient_spec _ _ s _ proper line recipient parsed command
    mvcgen [recipient]
  | Data =>
    have data := @handle_data_command_spec _ _ s _ proper line parsed command
    mvcgen [data]
  | Reset =>
    have reset := @handle_reset_spec _ _ s _ proper line parsed command
    mvcgen [reset]
  | NoOp =>
    mvcgen
    case vc1 here _ _ done =>
      subst here
      refine ⟨_,done.1,?_⟩
      rw [done.2]
      exact .idle parsed command
    case vc2 here _ _ => exact fun done => silent_at_once command (here ▸ done)
  | Quit =>
    mvcgen
    case vc1 here _ _ done =>
      subst here
      refine ⟨_,done.1,?_⟩
      rw [done.2]
      exact .quit parsed command
    case vc2 here _ _ => exact fun done => silent_at_once command (here ▸ done)

theorem Reacts.before {first : Session H Effect} {events : List (Event Effect)} {outcome : Outcome}
    (later : Reacts proper first line events outcome t) (did : Did s events first) : Reacts proper s line [] outcome t := by
  obtain ⟨rest,trace,reaction⟩ := later
  refine ⟨events ++ rest,by rw [trace,did.1,List.append_assoc],?_⟩
  rw [did.2] at reaction
  exact reaction

theorem handle_line_spec [Base64] (s : Session H Effect) (kept : proper → s.Proper) (line : Bytes) :
    ⦃fun t => ⌜t = s⌝⦄ handle_line line
    ⦃post⟨fun control t => ⌜Reacts proper s line [] (.of control) t⌝,fun _ t => ⌜Reacts proper s line [] .Closed t⌝⟩⦄ := by
  have data (r : Session H Effect) := @handle_data_line_spec _ _ r _ proper line
  have command (r : Session H Effect) (c : Command) := @handle_command_spec _ _ r _ proper line _ c
  unfold handle_line
  mvcgen [log,data,command]
  case vc1 data => exact in_phase_iff.mp data
  case vc2 here _ _ _ reacts => exact here ▸ reacts
  case vc3 here _ _ _ => exact fun reacts => here ▸ reacts
  case vc4 here _ _ _ _ =>
    subst here
    exact kept
  case vc6 here command _ _ _ => simpa [in_phase_iff] using command
  case vc7 here _ _ _ _ _ _ =>
    subst here
    exact fun reacts => reacts.before ⟨rfl,rfl⟩
  case vc8 here _ _ _ _ _ _ =>
    subst here
    exact fun reacts => reacts.before ⟨rfl,rfl⟩
  case vc9 here command _ err parsed _ _ done =>
    subst here
    exact (Reacts.refused (by simpa [in_phase_iff] using command) (by rw [parsed]; rfl) done).before ⟨rfl,rfl⟩
  case vc10 here command _ _ _ _ _ =>
    intro done
    subst here
    exact (silent_at_once (by simpa [in_phase_iff] using command) done).before ⟨rfl,rfl⟩

/-- A turn that read a line: the events it adds and the view it leaves. -/
def Turned (s : Session H Effect) (outcome : Outcome) (t : Session H Effect) : Prop :=
  ∃ line events, t.trace = s.trace ++ Event.Received line :: events ∧ Step s.view line events outcome t.view

/-- A turn that read a line, to the reply. -/
def Reacted (s : Session H Effect) (outcome : Outcome) (t : Session H Effect) : Prop :=
  s.pending ≠ [] ∧ ∃ line events, t.trace = s.trace ++ Event.Received line :: events ∧
    Reaction (s.Proper → t.pending = []) s.view line events outcome t.view

theorem Reacted.turned {outcome : Outcome} (reacted : Reacted s outcome t) : Turned s outcome t := by
  obtain ⟨-,line,events,trace,reaction⟩ := reacted
  exact ⟨line,events,trace,reaction.step⟩

theorem reacted {read : Session H Effect} {outcome : Outcome} (reads : Reads s (some line) read)
    (reacts : Reacts s.Proper read line [] outcome t) : Reacted s outcome t := by
  obtain ⟨events,trace,reaction⟩ := reacts
  obtain ⟨complete,-,taken⟩ := reads.taken line rfl
  refine ⟨by simp [taken,complete.ne_nil],line,events,by simp [trace,reads.did.1],?_⟩
  rw [reads.did.2] at reaction
  exact reaction

/-- A turn reads a line and does what `Reaction` says, or ends the session without
    having read one. -/
theorem turn_reacts [Base64] (s : Session H Effect) :
    ⦃fun t => ⌜t = s⌝⦄ turn
    ⦃post⟨fun control t => ⌜Reacted s (.of control) t⌝,fun _ t => ⌜Did s [] t ∨ Reacted s .Closed t⌝⟩⦄ := by
  have line_spec (r : Session H Effect) (line : Bytes) (kept : s.Proper → r.Proper) := handle_line_spec r kept line
  unfold turn
  mvcgen [read_line_spec,line_spec]
  case vc1 here _ _ _ _ reads _ _ =>
    subst here
    exact fun reacts => reacted reads reacts
  case vc2 here _ _ _ _ reads _ _ =>
    subst here
    exact fun reacts => .inr (reacted reads reacts)
  case vc3 here _ _ _ =>
    subst here
    exact fun _ reads => reads.proper
  case vc4 here _ _ _ reads =>
    subst here
    exact .inl reads.did
  case vc5 here _ _ =>
    subst here
    exact .inl

theorem turn_spec [Base64] (s : Session H Effect) :
    ⦃fun t => ⌜t = s⌝⦄ turn
    ⦃post⟨fun control t => ⌜Turned s (.of control) t⌝,fun _ t => ⌜Did s [] t ∨ Turned s .Closed t⌝⟩⦄ :=
  triple_of_ends fun t same => same ▸ (ends_of_triple (turn_reacts t) rfl).mono (fun _ _ reacted => reacted.turned)
    (fun _ _ ended => ended.imp_right Reacted.turned)

variable {I : View H → List (Event Effect) → Prop} {J : List (Event Effect) → Prop}

/-- What holds of the view and the trace while a session runs, and of the trace
    when it has ended, turn by turn. -/
structure Invariant (I : View H → List (Event Effect) → Prop) (J : List (Event Effect) → Prop) : Prop where
  always : ∀ {v trace}, I v trace → J trace
  step : ∀ {v trace line events outcome v'}, I v trace → Step v line events outcome v' →
    J (trace ++ Event.Received line :: events) ∧ (outcome = .Continue → I v' (trace ++ Event.Received line :: events))

/-- An invariant that relies on another one. -/
theorem Invariant.extend {I' : View H → List (Event Effect) → Prop} {J' : List (Event Effect) → Prop}
    (base : Invariant I J) (always : ∀ {v trace}, I' v trace → J' trace)
    (step : ∀ {v trace line events outcome v'}, I v trace → I' v trace → Step v line events outcome v' →
      J' (trace ++ Event.Received line :: events) ∧ (outcome = .Continue → I' v' (trace ++ Event.Received line :: events))) :
    Invariant (fun v trace => I v trace ∧ I' v trace) (fun trace => J trace ∧ J' trace) where
  always both := ⟨base.always both.1,always both.2⟩
  step both taken := by
    obtain ⟨settled,lasts⟩ := base.step both.1 taken
    obtain ⟨settled',lasts'⟩ := step both.1 both.2 taken
    exact ⟨⟨settled,settled'⟩,fun continues => ⟨lasts continues,lasts' continues⟩⟩

/-- Like an invariant, but of the turns as they are, to the reply. -/
structure Habit (I : View H → List (Event Effect) → Prop) (J : List (Event Effect) → Prop) : Prop where
  always : ∀ {v trace}, I v trace → J trace
  react : ∀ {v trace ended line events outcome v'}, I v trace → Reaction ended v line events outcome v' →
    J (trace ++ Event.Received line :: events) ∧ (outcome = .Continue → I v' (trace ++ Event.Received line :: events))

theorem Invariant.habit (invariant : Invariant I J) : Habit I J :=
  ⟨invariant.always,fun before reaction => invariant.step before reaction.step⟩

/-- A habit that relies on another one, and on what it says of the longer trace. -/
theorem Habit.extend {I' : View H → List (Event Effect) → Prop} {J' : List (Event Effect) → Prop}
    (base : Habit I J) (always : ∀ {v trace}, I' v trace → J' trace)
    (react : ∀ {v trace ended line events outcome v'}, I v trace → I' v trace →
      J (trace ++ Event.Received line :: events) → Reaction ended v line events outcome v' →
      J' (trace ++ Event.Received line :: events) ∧ (outcome = .Continue → I' v' (trace ++ Event.Received line :: events))) :
    Habit (fun v trace => I v trace ∧ I' v trace) (fun trace => J trace ∧ J' trace) where
  always both := ⟨base.always both.1,always both.2⟩
  react both taken := by
    obtain ⟨settled,lasts⟩ := base.react both.1 taken
    obtain ⟨settled',lasts'⟩ := react both.1 both.2 settled taken
    exact ⟨⟨settled,settled'⟩,fun continues => ⟨lasts continues,lasts' continues⟩⟩

section
variable [Base64]

theorem Habit.loop_spec (habit : Habit I J) (n : Nat) :
    ⦃fun t => ⌜I t.view t.trace⌝⦄ loop n
    ⦃post⟨fun ended t => ⌜J t.trace ∧ (ended = none → I t.view t.trace)⌝,fun _ t => ⌜J t.trace⌝⟩⦄ := by
  induction n with
  | zero =>
    mvcgen [loop]
    exact ⟨habit.always ‹_›,‹_›⟩
  | succ n ih =>
    unfold loop
    mvcgen [turn_reacts,ih]
    case vc1 before _ _ _ reacted =>
      obtain ⟨-,line,events,trace,reaction⟩ := reacted
      rw [trace]
      exact (habit.react before reaction).2 rfl
    case vc2 before _ _ _ reacted =>
      obtain ⟨-,line,events,trace,reaction⟩ := reacted
      refine ⟨?_,by simp⟩
      rw [trace]
      exact (habit.react before reaction).1
    case vc3 before _ _ =>
      rintro (⟨trace,-⟩ | ⟨-,line,events,trace,reaction⟩)
      · rw [trace,List.append_nil]
        exact habit.always before
      · rw [trace]
        exact (habit.react before reaction).1

theorem loop_spec (invariant : Invariant I J) (n : Nat) :
    ⦃fun t => ⌜I t.view t.trace⌝⦄ loop n
    ⦃post⟨fun ended t => ⌜J t.trace ∧ (ended = none → I t.view t.trace)⌝,fun _ t => ⌜J t.trace⌝⟩⦄ :=
  invariant.habit.loop_spec n

/-- What holds of a new session once it has sent its banner holds along it. -/
theorem Habit.handle_spec (habit : Habit I J) (s : Session H Effect) (silent : J s.trace)
    (init : I s.view (s.trace ++ [Event.Reply (.banner s.config.server_name)])) (n : Nat) :
    ⦃fun t => ⌜t = s⌝⦄ handle n
    ⦃post⟨fun ended t => ⌜J t.trace ∧ (ended = none → I t.view t.trace)⌝,fun _ t => ⌜J t.trace⌝⟩⦄ := by
  have run := habit.loop_spec n
  unfold handle
  mvcgen [run]
  case vc1 here _ _ done => rwa [done.1,done.2,here]
  case vc2 here _ _ =>
    intro done
    rwa [done.1,List.append_nil,here]

/-- What an invariant says of its trace holds of every new session, however long
    it is watched. -/
theorem handle_always (invariant : Invariant I J) (connection : Connection) (config : SessionConfig H)
    (silent : J [])
    (init : I (Session.new connection config : Session H Effect).view [.Reply (.banner config.server_name)]) (n : Nat) :
    J (final (handle n (.new connection config))).trace :=
  (ends_of_triple (invariant.habit.handle_spec (.new connection config) silent init n) rfl).final
    (fun _ _ holds => holds.1) (fun _ _ holds => holds)

/-- Like an invariant, but of the view that is left at the end as well. -/
structure Conclusion (I K : View H → List (Event Effect) → Prop) : Prop where
  always : ∀ {v trace}, I v trace → K v trace
  step : ∀ {v trace line events outcome v'}, I v trace → Step v line events outcome v' →
    K v' (trace ++ Event.Received line :: events) ∧ (outcome = .Continue → I v' (trace ++ Event.Received line :: events))

variable {K : View H → List (Event Effect) → Prop}

theorem Conclusion.loop (conclusion : Conclusion I K) (n : Nat) (s : Session H Effect) (holds : I s.view s.trace) :
    K (final (Session.loop n s)).view (final (Session.loop n s)).trace := by
  induction n generalizing s with
  | zero => exact conclusion.always holds
  | succ n ih =>
    have ends := ends_of_triple (turn_spec s) rfl
    simp only [Session.loop,bind,EStateM.bind]
    cases turned : turn s with
    | ok control t =>
      obtain ⟨line,events,trace,step⟩ : Turned s (.of control) t := by simpa [Ends,turned] using ends
      cases control with
      | Continue =>
        refine ih t ?_
        rw [trace]
        exact (conclusion.step holds step).2 rfl
      | Return =>
        show K t.view t.trace
        rw [trace]
        exact (conclusion.step holds step).1
    | error err t =>
      show K t.view t.trace
      have ended : Did s [] t ∨ Turned s .Closed t := by simpa [Ends,turned] using ends
      rcases ended with ⟨trace,view⟩ | ⟨line,events,trace,step⟩
      · rw [trace,view,List.append_nil]
        exact conclusion.always holds
      · rw [trace]
        exact (conclusion.step holds step).1

/-- A session ends in keeping with its invariant, from its banner on or without one. -/
theorem Conclusion.handle (conclusion : Conclusion I K) (s : Session H Effect) (silent : K s.view s.trace)
    (init : I s.view (s.trace ++ [Event.Reply (.banner s.config.server_name)])) (n : Nat) :
    K (final (Session.handle n s)).view (final (Session.handle n s)).trace := by
  have ends := ends_of_triple (reply_spec (s := s) (.banner s.config.server_name)) rfl
  simp only [Session.handle,bind,EStateM.bind,run_get]
  cases replied : reply (.banner s.config.server_name) s with
  | ok _ t =>
    obtain ⟨trace,view⟩ : Did s [.Reply (.banner s.config.server_name)] t := by simpa [Ends,replied] using ends
    refine conclusion.loop n t ?_
    rw [trace,view]
    exact init
  | error err t =>
    obtain ⟨trace,view⟩ : Did s [] t := by simpa [Ends,replied] using ends
    show K t.view t.trace
    rw [trace,view,List.append_nil]
    exact silent

end

end
end PostGraph
