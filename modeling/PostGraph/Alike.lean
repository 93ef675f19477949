import PostGraph.Lib.Couplings
import PostGraph.Turns

/-!
Two sessions that are alike as far as their operations can tell stay alike, turn
after turn: every command is put together from operations. They may part where one
of them is upgraded to TLS, or where their handlers take a login differently.
-/
namespace PostGraph
open Programs Couplings Session
set_option autoImplicit false

variable {H Effect : Type} {R E : Session H Effect → Session H Effect → Prop}
  {X Y : List (Event Effect) → Prop}

/-! ### Programs that only add to the trace -/

def Grows {α : Type} (m : SessionM H Effect α) : Prop := ∀ s, s.trace <+: (final (m s)).trace

section
variable {α β : Type} {m : SessionM H Effect α} {k : α → SessionM H Effect β}

theorem grows_pure (a : α) : Grows (pure a : SessionM H Effect α) := fun _ => List.prefix_refl _

theorem grows_throw (err : SessionError) : Grows (throw err : SessionM H Effect α) := fun _ => List.prefix_refl _

theorem grows_bind (first : Grows m) (later : ∀ a, Grows (k a)) : Grows (m >>= k) := by
  intro s
  have before := first s
  cases ran : m s with
  | ok a t =>
    rw [ran] at before
    rw [bind_ok ran]
    exact before.trans (later a t)
  | error err t =>
    rw [ran] at before
    rw [bind_error ran]
    exact before

theorem grows_of_ends (ends : ∀ s, Ends (m s) (fun _ t => ∃ events, Did s events t) (fun _ t => ∃ events, Did s events t)) :
    Grows m := by
  intro s
  obtain ⟨events,trace,-⟩ : ∃ events, Did s events (final (m s)) :=
    (ends s).final (P := fun t => ∃ events, Did s events t) (fun _ _ did => did) (fun _ _ did => did)
  exact ⟨events,trace.symm⟩

theorem grows_reply (response : Response) : Grows (Session.reply response : SessionM H Effect Unit) :=
  grows_of_ends fun s => (ends_of_triple (reply_spec s response) rfl).mono (fun _ _ did => ⟨_,did⟩) (fun _ _ did => ⟨_,did⟩)

theorem grows_read_line : Grows (Session.read_line : SessionM H Effect (Option Bytes)) :=
  grows_of_ends fun s => (read_line_reads s).mono (fun _ _ reads => ⟨_,reads.did⟩) (fun _ _ did => ⟨_,did⟩)

theorem grows_upgrade : Grows (Session.upgrade : SessionM H Effect Unit) := by
  intro s
  cases connected : s.connection with
  | none =>
    rw [upgrade_unconnected connected]
    exact List.prefix_refl _
  | some c =>
    rw [upgrade_eq connected]
    cases c.start_tls with
    | none => exact List.prefix_refl _
    | some _ => exact List.prefix_append _ _

theorem grows_modify {f : Session H Effect → Session H Effect} (same : ∀ s, (f s).trace = s.trace) :
    Grows (modify f : SessionM H Effect PUnit) := by
  intro s
  have grown : s.trace <+: (f s).trace := by simp only [same,List.prefix_refl]
  exact grown

/-- A reply that is written comes first, before all that the rest of the program does. -/
theorem reply_comes_first (response : Response) {k : Unit → SessionM H Effect β} {n : Nat} {s : Session H Effect}
    (writable : s.Writable (n + 1)) (grows : ∀ u, Grows (k u)) :
    ∃ later, (final ((Session.reply response >>= k) s)).trace = s.trace ++ Event.Reply response :: later := by
  obtain ⟨t,replied,did,-,-⟩ := reply_writable writable response
  obtain ⟨later,grown⟩ := grows () t
  exact ⟨later,by rw [bind_ok replied,← grown,did.1,List.append_assoc]; rfl⟩

end

/-! ### What the operations keep -/

/-- They differ in their handlers at most. -/
structure View.Like (v w : View H) : Prop where
  server_name : v.config.server_name = w.config.server_name
  auth_mode : v.config.auth_mode = w.config.auth_mode
  max_message_size : v.config.max_message_size = w.config.max_message_size
  state : v.state = w.state
  supports_tls : v.supports_tls = w.supports_tls
  is_tls : v.is_tls = w.is_tls

namespace View.Like
variable {v w : View H}

theorem has_auth (like : v.Like w) : v.config.has_auth = w.config.has_auth := by
  simp only [SessionConfig.has_auth,like.auth_mode]

theorem authenticated (like : v.Like w) : v.is_authenticated = w.is_authenticated := by
  simp only [View.is_authenticated,like.has_auth,like.state]

end View.Like

section
variable [Handler H Effect]

/-- A relation of sessions that their operations keep: `R` as long as a session goes on,
    `E` when it ends with an error. The handlers may differ as far as their callbacks answer
    alike. A login or an upgrade may leave a trace of `X` or `Y` instead. -/
structure Resemblance (R E : Session H Effect → Session H Effect → Prop) (X Y : List (Event Effect) → Prop) : Prop where
  weaker : ∀ s t, R s t → E s t
  view : ∀ s t, R s t → s.view.Like t.view
  connected : ∀ s t, R s t → s.connection.isSome = t.connection.isSome
  reply : ∀ response, Alike R E (Session.reply response)
  read_line : Alike R E Session.read_line
  parse : ∀ line, Alike R E (log [.Parse line])
  state : ∀ f : SessionState → SessionState, ∀ s t, R s t → R { s with state := f s.state } { t with state := f t.state }
  on_hello : ∀ domain extended, Alike R E (on_hello domain extended)
  on_login : ∀ username password,
    AlikeUnless R E (fun s => X s.trace) (fun t => Y t.trace) (on_login username password)
  on_mail : ∀ mail, Alike R E (on_mail mail)
  on_reset : Alike R E on_reset
  upgrade : AlikeUnless R E (fun s => X s.trace) (fun t => Y t.trace) upgrade
  escaped : ∀ trace later, X trace → X (trace ++ later)
  escaped' : ∀ trace later, Y trace → Y (trace ++ later)

namespace Resemblance
variable (c : Resemblance R E X Y)
include c

theorem connections {s t : Session H Effect} (related : R s t) : (s.connection = none ∧ t.connection = none) ∨
    ∃ d e, s.connection = some d ∧ t.connection = some e ∧ d.supports_tls = e.supports_tls ∧ d.is_tls = e.is_tls := by
  have connected := c.connected s t related
  have supports_tls := (c.view s t related).supports_tls
  have is_tls := (c.view s t related).is_tls
  cases left : s.connection with
  | none =>
    have right : t.connection = none := by simpa [left] using connected
    exact .inl ⟨rfl,right⟩
  | some d =>
    obtain ⟨e,right⟩ : ∃ e, t.connection = some e := by simpa [left,Option.isSome_iff_exists] using connected
    refine .inr ⟨d,e,rfl,right,?_,?_⟩
    · simpa [Session.view,left,right] using supports_tls
    · simpa [Session.view,left,right] using is_tls

theorem alike_supports_tls : Alike R E Session.supports_tls := by
  intro s t related
  simp only [Session.supports_tls,get_connection,bind,EStateM.bind,run_get]
  rcases c.connections related with ⟨left,right⟩ | ⟨d,e,left,right,supported,-⟩
  · rw [left,right]
    exact ⟨rfl,c.weaker s t related⟩
  · rw [left,right]
    exact ⟨supported,related⟩

theorem unless_get_connection {α : Type} {k : Connection → SessionM H Effect α}
    (same : ∀ d e : Connection, d.is_tls = e.is_tls → k d = k e)
    (next : ∀ connection, AlikeUnless R E (fun s => X s.trace) (fun t => Y t.trace) (k connection)) :
    AlikeUnless R E (fun s => X s.trace) (fun t => Y t.trace) (get_connection >>= k) := by
  intro s t related
  rcases c.connections related with ⟨left,right⟩ | ⟨d,e,left,right,-,secure⟩
  · simp only [get_connection,bind,EStateM.bind,run_get,left,right]
    exact .inl ⟨rfl,c.weaker s t related⟩
  · have goesOn {u : Session H Effect} {connection : Connection} (connected : u.connection = some connection) :
        (get_connection >>= k) u = k connection u := by
      simp only [get_connection,bind,EStateM.bind,run_get,connected]
      rfl
    rw [goesOn left,goesOn right,same d e secure]
    exact next e s t related

theorem alike_state (f : SessionState → SessionState) :
    Alike R E (modify fun s => { s with state := f s.state } : SessionM H Effect PUnit) :=
  alike_modify (c.state f)

theorem alike_get {α : Type} {k : Session H Effect → SessionM H Effect α}
    (same : ∀ s t, s.view.Like t.view → k s = k t)
    (next : ∀ s, Alike R E (k s)) : Alike R E (get >>= k) :=
  Couplings.alike_get (fun s t related => same s t (c.view s t related)) next

theorem alike_reply_features (features : List Text) : Alike R E (reply_features features) := by
  induction features with
  | nil => exact alike_pure _
  | cons feature features ih =>
    cases features with
    | nil => exact c.reply _
    | cons next features => exact alike_bind (c.reply _) fun _ => ih

theorem alike_reply_hello (extended : Bool) : Alike R E (reply_hello extended) := by
  refine c.alike_get ?_ fun s => ?_
  · intro s t same
    rw [show s.config.server_name = t.config.server_name from same.server_name,
      show s.config.has_auth = t.config.has_auth from same.has_auth,
      show s.config.max_message_size = t.config.max_message_size from same.max_message_size]
  · split
    · exact alike_bind (c.reply _) fun _ => alike_bind c.alike_supports_tls fun _ => c.alike_reply_features _
    · exact c.reply _

theorem alike_handle_help : Alike R E handle_help := by
  refine alike_bind (c.reply _) fun _ => c.alike_get ?_ fun s => ?_
  · intro s t same
    rw [show s.config.has_auth = t.config.has_auth from same.has_auth]
  · exact alike_bind c.alike_supports_tls fun _ => c.reply _

theorem alike_throw {α : Type} (err : SessionError) : Alike R E (throw err : SessionM H Effect α) :=
  Couplings.alike_throw c.weaker err

section
variable [Base64]

theorem alike_handle_auth (method : AuthMethod) (initial : Option Bytes) : Alike R E (handle_auth method initial) := by
  unfold handle_auth
  cases method <;> cases initial
  -- the handshake is put together of challenges, answers and what is made of them
  all_goals
    repeat' first
      | exact alike_pure _
      | exact c.alike_throw _
      | exact c.reply _
      | exact c.read_line
      | refine alike_bind ?_ fun _ => ?_
      | (beta_reduce; split)

end

/-- A command that is refused in all but one phase. -/
theorem alike_in_phase {α : Type} {phase : Phase} {refuse : SessionM H Effect α}
    {k : Session H Effect → SessionM H Effect α} (same : ∀ s t, s.view.Like t.view → k s = k t)
    (refused : Alike R E refuse) (next : ∀ s, Alike R E (k s)) :
    Alike R E (get >>= fun s => if (!s.state.in_phase phase) = true then refuse else k s) := by
  refine c.alike_get ?_ fun s => ?_
  · intro s t view
    rw [same s t view,show s.state = t.state from view.state]
  · split
    · exact refused
    · exact next s

theorem alike_handle_mail (sender : Text) : Alike R E (handle_mail sender) := by
  unfold handle_mail
  refine c.alike_in_phase ?_ (alike_bind (c.reply _) fun _ => alike_pure _) fun s => ?_
  · intro s t view
    rw [show s.is_authenticated = t.is_authenticated from view.authenticated]
  · split
    · exact alike_bind (c.reply _) fun _ => alike_pure _
    · refine alike_bind ?_ fun _ => c.reply _
      exact c.alike_state fun state => { state with current_mail := Mail.empty.set_sender sender, phase := .Envelope }

theorem alike_handle_recipient (recipient : Text) : Alike R E (handle_recipient recipient) := by
  unfold handle_recipient
  refine c.alike_in_phase ?_ (alike_bind (c.reply _) fun _ => alike_pure _) fun s => ?_
  · intro s t view
    rw [show s.is_authenticated = t.is_authenticated from view.authenticated]
  · split
    · exact alike_bind (c.reply _) fun _ => alike_pure _
    · refine alike_bind ?_ fun _ => c.reply _
      exact c.alike_state fun state => { state with current_mail := state.current_mail.add_recipient recipient }

theorem alike_handle_data_command : Alike R E handle_data_command := by
  unfold handle_data_command
  refine c.alike_in_phase ?_ (alike_bind (c.reply _) fun _ => alike_pure _) fun s => ?_
  · intro s t view
    rw [show s.is_authenticated = t.is_authenticated from view.authenticated]
  · split
    · exact alike_bind (c.reply _) fun _ => alike_pure _
    · refine alike_bind ?_ fun _ => c.reply _
      exact c.alike_state fun state => { state with phase := .Data }

/-- The connection is upgraded, or the command refused. -/
theorem unless_handle_start_tls :
    AlikeUnless R E (fun s => X s.trace) (fun t => Y t.trace) handle_start_tls := by
  unfold handle_start_tls
  refine unless_bind c.alike_supports_tls fun supported => ?_
  split
  · exact (alike_bind (c.reply _) fun _ => alike_pure _).unless
  · refine unless_get ?_ fun s => ?_
    · intro s t related
      rw [show s.state = t.state from (c.view s t related).state]
    · split
      · exact (alike_bind (c.reply _) fun _ => alike_pure _).unless
      · refine unless_bind (c.reply _) fun _ => c.upgrade.bind (fun _ => ?_) (fun _ _ => id) (fun _ _ => id)
        exact (c.alike_state fun _ => .new).unless

theorem alike_handle_hello (domain : Text) (extended : Bool) : Alike R E (handle_hello domain extended) := by
  unfold handle_hello
  refine c.alike_in_phase (by intros; rfl) (alike_bind (c.reply _) fun _ => alike_pure _) fun _ => ?_
  refine alike_bind (c.on_hello domain extended) fun result => ?_
  have greets : Alike R E (reply_hello extended >>= fun _ =>
      modify fun s => { s with state.phase := .Greeted } : SessionM H Effect PUnit) :=
    alike_bind (c.alike_reply_hello extended) fun _ => c.alike_state fun state => { state with phase := .Greeted }
  split
  · exact greets
  · exact c.alike_throw _
  · exact c.alike_throw _

theorem alike_handle_reset : Alike R E handle_reset := by
  unfold handle_reset
  refine alike_bind (c.alike_state fun _ => .new) fun _ => alike_bind (c.reply _) fun _ => ?_
  exact alike_bind c.on_reset fun _ => alike_pure _

/-- What only adds to the trace leaves a trace of `X` or `Y` one. -/
theorem unless_then {α β : Type} {m : SessionM H Effect α} {k : α → SessionM H Effect β}
    (first : AlikeUnless R E (fun s => X s.trace) (fun t => Y t.trace) m)
    (next : ∀ a, AlikeUnless R E (fun s => X s.trace) (fun t => Y t.trace) (k a)) (grows : ∀ a, Grows (k a)) :
    AlikeUnless R E (fun s => X s.trace) (fun t => Y t.trace) (m >>= k) := by
  refine first.bind next (fun a s left => ?_) fun a s left => ?_
  all_goals
    obtain ⟨later,grown⟩ := grows a s
    rw [← grown]
  · exact c.escaped _ _ left
  · exact c.escaped' _ _ left

theorem unless_login (username password : Text) :
    AlikeUnless R E (fun s => X s.trace) (fun t => Y t.trace) (login username password) := by
  unfold login
  have authenticates : Grows (modify fun s => { s with state.is_authenticated := true } : SessionM H Effect PUnit) :=
    grows_modify fun _ => rfl
  have refuses : Grows (Session.reply AUTH_FAIL >>= fun _ => throw .LoginRejected : SessionM H Effect PUnit) :=
    grows_bind (grows_reply _) fun _ => grows_throw _
  refine c.unless_then (c.on_login username password) (fun result => Alike.unless ?_) fun result => ?_
  have rejects : Alike R E (Session.reply AUTH_FAIL >>= fun _ => throw .LoginRejected : SessionM H Effect PUnit) :=
    alike_bind (c.reply _) fun _ => c.alike_throw _
  split
  · exact alike_bind (c.reply _) fun _ => c.alike_state fun state => { state with is_authenticated := true }
  · exact rejects
  · exact rejects
  split
  · exact grows_bind (grows_reply _) fun _ => authenticates
  · exact refuses
  · exact refuses

theorem alike_handle_data (line : Bytes) : Alike R E (handle_data line) := by
  unfold handle_data
  split
  · exact alike_pure _
  · refine c.alike_get ?_ fun s => ?_
    · intro s t view
      rw [show s.state = t.state from view.state,
        show s.config.max_message_size = t.config.max_message_size from view.max_message_size]
    · split
      · exact alike_bind (c.reply _) fun _ => alike_pure _
      · refine alike_bind ?_ fun _ => alike_pure _
        exact c.alike_state fun state => { state with current_mail := state.current_mail.append_data (unstuff line) }

theorem alike_handle_data_line (line : Bytes) : Alike R E (handle_data_line line) := by
  refine alike_bind (c.alike_handle_data line) fun result => ?_
  have resets : Alike R E (modify fun s => { s with state.current_mail := .empty, state.phase := .Greeted } :
      SessionM H Effect PUnit) :=
    c.alike_state fun state => { state with current_mail := .empty, phase := .Greeted }
  cases result with
  | Continue => exact alike_pure _
  | DataTooLong => exact c.alike_throw _
  | DataEnd =>
    refine c.alike_get ?_ fun s => alike_bind (c.on_mail _) fun result => ?_
    · intro s t view
      rw [show s.state = t.state from view.state]
    · split
      · exact alike_bind (c.reply _) fun _ => resets
      · exact alike_bind (c.reply _) fun _ => resets

variable [Base64]

theorem unless_authenticate (method : AuthMethod) (initial : Option Bytes) :
    AlikeUnless R E (fun s => X s.trace) (fun t => Y t.trace) (authenticate method initial) := by
  refine unless_bind (c.alike_handle_auth method initial) fun result => ?_
  cases result with
  | Ok username password => exact c.unless_login username password
  | SyntaxError err => exact (c.reply _).unless

theorem unless_handle_authenticate (method : AuthMethod) (initial : Option Bytes) :
    AlikeUnless R E (fun s => X s.trace) (fun t => Y t.trace) (handle_authenticate method initial) := by
  have refuses : AlikeUnless R E (fun s => X s.trace) (fun t => Y t.trace)
      (Session.reply BAD_SEQUENCE >>= fun _ => pure () : SessionM H Effect Unit) :=
    (alike_bind (c.reply _) fun _ => alike_pure _).unless
  unfold handle_authenticate
  refine unless_get ?_ fun s => ?_
  · intro s t related
    have view := c.view s t related
    rw [show s.state = t.state from view.state,show s.config.auth_mode = t.config.auth_mode from view.auth_mode]
  · split
    · exact refuses
    · split
      · exact (c.reply _).unless
      · refine c.unless_get_connection ?_ fun connection => ?_
        · intro _ _ secure
          rw [secure]
        · split
          · exact refuses
          · exact c.unless_authenticate method initial
      · exact c.unless_authenticate method initial

theorem unless_handle_command (command : Command) :
    AlikeUnless R E (fun s => X s.trace) (fun t => Y t.trace) (handle_command command) := by
  have goesOn {m : SessionM H Effect Unit} (alike : Alike R E m) :
      AlikeUnless R E (fun s => X s.trace) (fun t => Y t.trace) (m >>= fun _ => pure Control.Continue) :=
    (alike_bind alike fun _ => alike_pure _).unless
  unfold handle_command
  cases command with
  | Hello domain extended => exact goesOn (c.alike_handle_hello domain extended)
  | Help => exact goesOn c.alike_handle_help
  | StartTls => exact c.unless_handle_start_tls.bind (fun _ => (alike_pure _).unless) (fun _ _ => id) (fun _ _ => id)
  | Authenticate method initial =>
    exact (c.unless_handle_authenticate method initial).bind (fun _ => (alike_pure _).unless) (fun _ _ => id) (fun _ _ => id)
  | Mail sender => exact goesOn (c.alike_handle_mail sender)
  | Recipient recipient => exact goesOn (c.alike_handle_recipient recipient)
  | Data => exact goesOn c.alike_handle_data_command
  | Reset => exact goesOn c.alike_handle_reset
  | NoOp => exact goesOn (c.reply _)
  | Quit => exact (alike_bind (c.reply _) fun _ => alike_pure _).unless

theorem unless_handle_line (line : Bytes) :
    AlikeUnless R E (fun s => X s.trace) (fun t => Y t.trace) (handle_line line) := by
  unfold handle_line
  refine unless_get ?_ fun s => ?_
  · intro s t related
    rw [show s.state = t.state from (c.view s t related).state]
  · split
    · exact (alike_bind (c.alike_handle_data_line line) fun _ => alike_pure _).unless
    · refine unless_bind (c.parse _) fun _ => ?_
      split
      · exact c.unless_handle_command _
      · exact (alike_bind (c.reply _) fun _ => alike_pure _).unless

/-- Turns of sessions that are alike are alike. -/
theorem unless_turn : AlikeUnless R E (fun s => X s.trace) (fun t => Y t.trace) turn := by
  refine unless_bind c.read_line fun line => ?_
  cases line with
  | some line => exact c.unless_handle_line line
  | none => exact (c.alike_throw _).unless

end Resemblance

variable [Base64]

/-- A session only adds to its trace. -/
theorem loop_extends (m : Nat) (t : Session H Effect) : t.trace <+: (final (loop m t)).trace := by
  have growing : Invariant (H := H) (fun _ (trace : List (Event Effect)) => t.trace <+: trace)
      (fun trace => t.trace <+: trace) :=
    ⟨id,fun before _ => ⟨before.trans (List.prefix_append _ _),fun _ => before.trans (List.prefix_append _ _)⟩⟩
  exact (ends_of_triple (loop_spec growing m) (List.prefix_refl _)).final
    (fun _ _ holds => holds.1) (fun _ _ holds => holds)

/-- A session that is watched longer has done more. -/
theorem loop_grows {n m : Nat} (longer : n ≤ m) (s : Session H Effect) :
    (final (loop n s)).trace <+: (final (loop m s)).trace := by
  induction n generalizing m s with
  | zero => exact loop_extends m s
  | succ n ih =>
    obtain ⟨m,rfl⟩ : ∃ k, m = k + 1 := ⟨m - 1,by omega⟩
    simp only [loop,bind,EStateM.bind]
    cases turn s with
    | error err t => exact List.prefix_refl _
    | ok control t =>
      cases control with
      | Return => exact List.prefix_refl _
      | Continue => exact ih (by omega) t

theorem handle_grows {n m : Nat} (longer : n ≤ m) (s : Session H Effect) :
    (final (handle n s)).trace <+: (final (handle m s)).trace := by
  simp only [handle,bind,EStateM.bind,run_get]
  cases reply (.banner s.config.server_name) s with
  | error err t => exact List.prefix_refl _
  | ok _ t => exact loop_grows longer t

namespace Resemblance
variable (c : Resemblance R E X Y)
include c

/-- Sessions that are alike stay alike for any number of turns. -/
theorem unless_loop (n : Nat) : AlikeUnless R E (fun s => X s.trace) (fun t => Y t.trace) (loop n) := by
  have lasts {Z : List (Event Effect) → Prop} (stays : ∀ trace later, Z trace → Z (trace ++ later)) (m : Nat)
      (s : Session H Effect) (escaped : Z s.trace) : Z (final (loop m s)).trace := by
    obtain ⟨later,grown⟩ := loop_extends m s
    rw [← grown]
    exact stays _ _ escaped
  induction n with
  | zero => exact (alike_pure _).unless
  | succ n ih =>
    refine c.unless_turn.bind (fun control => ?_) (fun control s escaped => ?_) fun control s escaped => ?_
    all_goals cases control
    · exact ih
    · exact (alike_pure _).unless
    · exact lasts c.escaped n s escaped
    · exact escaped
    · exact lasts c.escaped' n s escaped
    · exact escaped

theorem unless_handle (n : Nat) : AlikeUnless R E (fun s => X s.trace) (fun t => Y t.trace) (handle n) := by
  refine unless_get ?_ fun s => unless_bind (c.reply _) fun _ => c.unless_loop n
  intro s t related
  rw [show s.config.server_name = t.config.server_name from (c.view s t related).server_name]

end Resemblance

end

/-! ### With the same handlers -/

/-- A relation of sessions that their operations keep: `R` as long as a session goes on,
    `E` when it ends with an error. An upgrade may leave a trace of `X` or `Y` instead. -/
structure Coupling (R E : Session H Effect → Session H Effect → Prop) (X Y : List (Event Effect) → Prop) : Prop where
  weaker : ∀ s t, R s t → E s t
  view : ∀ s t, R s t → s.view = t.view
  connected : ∀ s t, R s t → s.connection.isSome = t.connection.isSome
  reply : ∀ response, Alike R E (Session.reply response)
  read_line : Alike R E Session.read_line
  log : ∀ events, (∀ line, .Received line ∉ events) → .TlsStarted ∉ events → Alike R E (log events)
  state : ∀ f : SessionState → SessionState, ∀ s t, R s t → R { s with state := f s.state } { t with state := f t.state }
  handler : ∀ h, ∀ s t, R s t → R { s with config.handler := h } { t with config.handler := h }
  upgrade : AlikeUnless R E (fun s => X s.trace) (fun t => Y t.trace) upgrade
  escaped : ∀ trace later, X trace → X (trace ++ later)
  escaped' : ∀ trace later, Y trace → Y (trace ++ later)

namespace Coupling
variable (c : Coupling R E X Y)
include c

theorem alike_called {α : Type} (call : H → Called H Effect α) (event : Except Text α → Event Effect)
    (returned : ∀ result line, event result ≠ .Received line) (kept : ∀ result, event result ≠ .TlsStarted) :
    Alike R E (called call event) := by
  intro s t related
  have config := congrArg View.config (c.view s t related)
  have config : s.config = t.config := config
  let outcome := call s.config.handler
  have quiet (line : Bytes) : Event.Received line ∉ outcome.effects.map .Effect ++ [event outcome.result] := by
    simpa using (returned outcome.result line).symm
  have logged := (c.log _ quiet (by simpa using (kept outcome.result).symm)) _ _ (c.handler outcome.handler s t related)
  have right : called call event t = (Session.log (outcome.effects.map .Effect ++ [event outcome.result]) >>= fun _ =>
      (pure outcome.result : SessionM H Effect _)) { t with config.handler := outcome.handler } := by
    simp only [outcome,config]
    rfl
  rw [right]
  exact logged.bind fun _ => alike_pure _

variable [Handler H Effect]

/-- Sessions with the same handler are alike if they are so but for their handlers. -/
theorem resemblance : Resemblance R E X Y where
  weaker := c.weaker
  view s t related := by
    rw [c.view s t related]
    exact ⟨rfl,rfl,rfl,rfl,rfl,rfl⟩
  connected := c.connected
  reply := c.reply
  read_line := c.read_line
  parse line := c.log _ (by simp) (by simp)
  state := c.state
  on_hello _ _ := c.alike_called _ _ (by simp) (by simp)
  on_login _ _ := (c.alike_called _ _ (by simp) (by simp)).unless
  on_mail _ := c.alike_called _ _ (by simp) (by simp)
  on_reset := c.alike_called _ _ (by simp) (by simp)
  upgrade := c.upgrade
  escaped := c.escaped
  escaped' := c.escaped'

variable [Base64]

theorem unless_handle_line (line : Bytes) :
    AlikeUnless R E (fun s => X s.trace) (fun t => Y t.trace) (handle_line line) := c.resemblance.unless_handle_line line

theorem unless_turn : AlikeUnless R E (fun s => X s.trace) (fun t => Y t.trace) turn := c.resemblance.unless_turn

theorem unless_loop (n : Nat) : AlikeUnless R E (fun s => X s.trace) (fun t => Y t.trace) (loop n) :=
  c.resemblance.unless_loop n

theorem unless_handle (n : Nat) : AlikeUnless R E (fun s => X s.trace) (fun t => Y t.trace) (handle n) :=
  c.resemblance.unless_handle n

end Coupling

variable [Handler H Effect] [Base64]

/-- What every operation of a session keeps; where it fails, `Q` is left. -/
structure Keeps (P Q : Session H Effect → Prop) : Prop where
  weaker : ∀ s, P s → Q s
  reply : ∀ response s, P s → Ends (Session.reply response s) (fun _ t => P t) (fun _ t => Q t)
  read_line : ∀ s, P s → Ends (Session.read_line s) (fun _ t => P t) (fun _ t => Q t)
  log : ∀ events s, (∀ line, .Received line ∉ events) → .TlsStarted ∉ events → P s →
    P { s with trace := s.trace ++ events }
  state : ∀ f : SessionState → SessionState, ∀ s, P s → P { s with state := f s.state }
  handler : ∀ h, ∀ s, P s → P { s with config.handler := h }
  upgrade : ∀ s, P s → Ends (Session.upgrade s) (fun _ t => P t) (fun _ t => Q t)

variable {P Q : Session H Effect → Prop}

omit [Handler H Effect] [Base64] in
theorem Keeps.coupling (keeps : Keeps P Q) :
    Coupling (fun s t => s = t ∧ P s) (fun s t => s = t ∧ Q s) (fun _ => False) (fun _ => False) where
  weaker s _ same := ⟨same.1,keeps.weaker s same.2⟩
  view _ _ same := congrArg Session.view same.1
  connected _ _ same := by rw [same.1]
  reply response := alike_of_ends (keeps.reply response)
  read_line := alike_of_ends keeps.read_line
  log events silent quiet := alike_of_ends fun s => keeps.log events s silent quiet
  state f := by
    rintro s _ ⟨rfl,holds⟩
    exact ⟨rfl,keeps.state f s holds⟩
  handler h := by
    rintro s _ ⟨rfl,holds⟩
    exact ⟨rfl,keeps.handler h s holds⟩
  upgrade := (alike_of_ends keeps.upgrade).unless
  escaped _ _ := id
  escaped' _ _ := id

/-- It holds of a session however long it is watched. -/
theorem Keeps.handle (keeps : Keeps P Q) {s : Session H Effect} (holds : P s) (n : Nat) : Q (final (handle n s)) :=
  (ends_of_unless (keeps.coupling.unless_handle n) holds).final (fun _ => keeps.weaker) (fun _ _ => id)

theorem Keeps.turn (keeps : Keeps P Q) {s : Session H Effect} (holds : P s) :
    Ends (turn s) (fun _ t => P t) (fun _ t => Q t) :=
  ends_of_unless keeps.coupling.unless_turn holds

omit [Handler H Effect] [Base64] in
/-- What writing, reading and an upgrade keep of a connection, a session keeps of its connection. -/
theorem keeps_stream {C : Connection → Prop}
    (write : ∀ c (reader : BufReader), C c → reader.buffer = c.stream.buffer →
      reader.inner.reads = c.stream.inner.reads → C (c.with_stream reader))
    (read : ∀ c result reader, C c →
      read_line_loop (c.stream.inner.reads.length + 2) [] c.stream = (result,reader) → C (c.with_stream reader))
    (upgraded : ∀ c d, C c → c.start_tls = some d → C d) :
    Keeps (fun s : Session H Effect => ∀ c ∈ s.connection, C c) (fun s => ∀ c ∈ s.connection, C c) where
  weaker _ := id
  reply response s holds := by
    cases connected : s.connection with
    | none =>
      rw [reply_unconnected connected]
      exact holds
    | some c =>
      rw [reply_eq connected]
      cases written : c.write_all (reply_bytes response) with
      | none => exact holds
      | some d =>
        obtain ⟨stream,wrote,rfl⟩ := Option.map_eq_some_iff.mp written
        rintro _ ⟨⟩
        exact write c stream (holds c connected) (BufReader.write_all_keeps wrote).1 (BufReader.write_all_keeps wrote).2
  read_line s holds := by
    cases connected : s.connection with
    | none =>
      rw [read_line_unconnected connected]
      exact holds
    | some c =>
      obtain ⟨reader,-,ran⟩ := read_line_loop_next c.stream
      have kept := read c _ reader (holds c connected) ran
      rw [read_line_eq connected ran]
      split
      all_goals
        rintro _ ⟨⟩
        exact kept
  log _ _ _ _ holds := holds
  state _ _ := id
  handler _ _ := id
  upgrade s holds := by
    cases connected : s.connection with
    | none =>
      rw [upgrade_unconnected connected]
      exact holds
    | some c =>
      rw [upgrade_eq connected]
      cases made : c.start_tls with
      | none =>
        rintro _ ⟨⟩
      | some d =>
        rintro _ ⟨⟩
        exact upgraded c d (holds c connected) made

omit [Handler H Effect] [Base64] in
/-- What reading and an upgrade keep of a connection, a session keeps of its connection. -/
theorem keeps_connection {C : Connection → Prop}
    (read : ∀ c (reader : BufReader), C c → reader.inner.reads <:+ c.stream.inner.reads → C (c.with_stream reader))
    (upgraded : ∀ c d, C c → c.start_tls = some d → C d) :
    Keeps (fun s : Session H Effect => ∀ c ∈ s.connection, C c) (fun s => ∀ c ∈ s.connection, C c) := by
  refine keeps_stream ?_ ?_ upgraded
  · exact fun c reader holds _ same => read c reader holds (by simp [same])
  · intro c result reader holds ran
    obtain ⟨_,leaves,next⟩ := read_line_loop_next c.stream
    obtain ⟨-,rfl⟩ := Prod.mk.inj (next.symm.trans ran)
    exact read c _ holds leaves.reads

/-- A turn leaves the acceptor of a plain connection in its place. -/
theorem turn_acceptor {s : Session H Effect} {stream : BufReader} {tls : Option TlsAcceptor}
    (connected : s.connection = some (.Plain stream tls)) :
    ∀ c ∈ (final (turn s)).connection, (∃ stream, c = .Plain stream tls) ∨ c.is_tls = true := by
  let C : Connection → Prop := fun c => (∃ stream, c = .Plain stream tls) ∨ c.is_tls = true
  have keeps : Keeps (fun s : Session H Effect => ∀ c ∈ s.connection, C c) (fun s => ∀ c ∈ s.connection, C c) := by
    refine keeps_connection ?_ fun c d _ upgraded => .inr (Connection.start_tls_tls upgraded).1
    intro c reader kept _
    refine kept.imp ?_ (by simp)
    rintro ⟨stream,rfl⟩
    exact ⟨reader,rfl⟩
  refine (keeps.turn (s := s) ?_).final (fun _ _ holds => holds) (fun _ _ holds => holds)
  rw [connected]
  rintro _ ⟨⟩
  exact .inl ⟨stream,rfl⟩

omit [Handler H Effect] [Base64] in
/-- A session loses its connection only where it ends. -/
theorem keeps_connected : Keeps (fun s : Session H Effect => s.connection.isSome = true) (fun _ => True) where
  weaker _ _ := trivial
  reply response s holds := by
    obtain ⟨c,connected⟩ := Option.isSome_iff_exists.mp holds
    rw [reply_eq connected]
    cases c.write_all (reply_bytes response) with
    | none => trivial
    | some _ => rfl
  read_line s holds := by
    obtain ⟨c,connected⟩ := Option.isSome_iff_exists.mp holds
    obtain ⟨reader,-,ran⟩ := read_line_loop_next c.stream
    rw [read_line_eq connected ran]
    split
    · rfl
    · rfl
    · trivial
  log _ _ _ _ holds := holds
  state _ _ := id
  handler _ _ := id
  upgrade s holds := by
    obtain ⟨c,connected⟩ := Option.isSome_iff_exists.mp holds
    rw [upgrade_eq connected]
    cases c.start_tls with
    | none => trivial
    | some _ => rfl

end PostGraph
