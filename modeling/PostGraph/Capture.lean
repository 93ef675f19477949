import PostGraph.Turns

/-!
How much a session captures: nothing before DATA, and never more than a mail may
have, whatever it was doing when it was left.
-/
namespace PostGraph
open Std.Do Programs Session
set_option mvcgen.warning false
set_option autoImplicit false

variable {H Effect : Type} {s : Session H Effect}

/-- What is captured is not longer than a mail may be. -/
def Within (s : Session H Effect) : Prop := s.state.current_mail.data_length ≤ s.config.max_message_size

theorem Did.within {t : Session H Effect} {events : List (Event Effect)} (did : Did s events t) (within : Within s) :
    Within t := by
  have state : t.state = s.state := congrArg View.state did.2
  have config : t.config = s.config := congrArg View.config did.2
  unfold Within
  rwa [state,config]

abbrev StaysWithin {α : Type} (m : SessionM H Effect α) : Prop :=
  ⦃fun t => ⌜Within t⌝⦄ m ⦃post⟨fun _ t => ⌜Within t⌝,fun _ t => ⌜Within t⌝⟩⦄

theorem within_reply (response : Response) : StaysWithin (reply response : SessionM H Effect Unit) :=
  triple_of_ends fun s within => (ends_of_triple (reply_spec s response) rfl).mono (fun _ _ did => did.within within)
    fun _ _ did => did.within within

theorem within_read_line : StaysWithin (read_line : SessionM H Effect (Option Bytes)) :=
  triple_of_ends fun s within => (read_line_reads s).mono (fun _ _ reads => reads.did.within within)
    fun _ _ did => did.within within

theorem within_upgrade : StaysWithin (upgrade : SessionM H Effect Unit) := by
  unfold StaysWithin upgrade get_connection
  mvcgen [log]

theorem within_reply_hello (extended : Bool) : StaysWithin (reply_hello extended : SessionM H Effect Unit) := by
  refine triple_of_ends fun s within => (ends_of_triple (reply_hello_spec s extended) rfl).mono ?_ ?_
  · exact fun _ _ did => did.within within
  · rintro _ t ⟨replies,-,did⟩
    exact did.within within

theorem within_handle_help : StaysWithin (handle_help : SessionM H Effect Unit) := by
  unfold StaysWithin handle_help supports_tls get_connection
  mvcgen [within_reply]

theorem within_handle_start_tls : StaysWithin (handle_start_tls : SessionM H Effect Unit) := by
  unfold StaysWithin handle_start_tls supports_tls get_connection
  mvcgen [within_reply,within_upgrade]
  exact Nat.zero_le _

theorem within_handle_mail (sender : Text) : StaysWithin (handle_mail sender : SessionM H Effect Unit) := by
  unfold StaysWithin handle_mail
  mvcgen [within_reply]
  exact Nat.zero_le _

theorem within_handle_recipient (recipient : Text) :
    StaysWithin (handle_recipient recipient : SessionM H Effect Unit) := by
  unfold StaysWithin handle_recipient
  mvcgen [within_reply]

theorem within_handle_data_command : StaysWithin (handle_data_command : SessionM H Effect Unit) := by
  unfold StaysWithin handle_data_command
  mvcgen [within_reply]

section
variable [Handler H Effect]

theorem within_handle_data_line (line : Bytes) : StaysWithin (handle_data_line line : SessionM H Effect Unit) := by
  unfold StaysWithin handle_data_line handle_data on_mail called
  mvcgen [within_reply,log]
  case vc2 => exact Nat.zero_le _
  case vc4 => exact Nat.zero_le _
  case vc6 fits _ =>
    have kept := Nat.not_lt.mp fits
    exact Nat.le_trans (Nat.le_of_eq List.length_append) kept

theorem within_handle_hello (domain : Text) (extended : Bool) :
    StaysWithin (handle_hello domain extended : SessionM H Effect Unit) := by
  unfold StaysWithin handle_hello on_hello called
  mvcgen [within_reply,within_reply_hello,log]

theorem within_login (username password : Text) : StaysWithin (login username password : SessionM H Effect Unit) := by
  unfold StaysWithin login on_login called
  mvcgen [within_reply,log]

theorem within_handle_reset : StaysWithin (handle_reset : SessionM H Effect Unit) := by
  unfold StaysWithin handle_reset on_reset called
  mvcgen [within_reply,log]
  exact Nat.zero_le _

variable [Base64]

omit [Handler H Effect] in
theorem within_handle_auth (method : AuthMethod) (initial : Option Bytes) :
    StaysWithin (handle_auth method initial : SessionM H Effect AuthHandshakeResult) := by
  unfold StaysWithin handle_auth
  mvcgen [within_reply,within_read_line]

theorem within_handle_authenticate (method : AuthMethod) (initial : Option Bytes) :
    StaysWithin (handle_authenticate method initial : SessionM H Effect Unit) := by
  unfold StaysWithin handle_authenticate authenticate get_connection
  mvcgen [within_reply,within_handle_auth,within_login]

theorem within_handle_command (command : Command) :
    StaysWithin (handle_command command : SessionM H Effect Control) := by
  unfold StaysWithin handle_command
  cases command
  all_goals
    mvcgen [within_reply,within_handle_hello,within_handle_help,within_handle_start_tls,within_handle_authenticate,
      within_handle_mail,within_handle_recipient,within_handle_data_command,within_handle_reset]

theorem within_handle_line (line : Bytes) : StaysWithin (handle_line line : SessionM H Effect Control) := by
  unfold StaysWithin handle_line
  mvcgen [within_handle_data_line,within_handle_command,within_reply,log]

theorem within_loop (n : Nat) : StaysWithin (loop n : SessionM H Effect (Option Unit)) := by
  induction n with
  | zero => mvcgen [loop]
  | succ n ih =>
    unfold loop turn
    mvcgen [within_read_line,within_handle_line,ih]

/-- A session never captures more than a mail may have, in whatever state it is left. -/
theorem within_handle (connection : Connection) (config : SessionConfig H) (n : Nat) :
    Within (final (handle n (.new connection config) : EStateM.Result SessionError (Session H Effect) (Option Unit))) := by
  have banner : StaysWithin (handle n : SessionM H Effect (Option Unit)) := by
    unfold StaysWithin handle
    mvcgen [within_reply,within_loop]
  refine (ends_of_triple banner ?_).final (fun _ _ => id) (fun _ _ => id)
  exact Nat.zero_le _

omit [Base64] in
/-- Nothing is captured before DATA. -/
theorem fresh_invariant : Invariant (H := H)
    (fun v (_ : List (Event Effect)) => v.state.phase ≠ .Data → v.state.current_mail.data = []) (fun _ => True) where
  always _ := trivial
  step := by
    intro v past line events outcome v' fresh step
    refine ⟨trivial,fun continues => ?_⟩
    cases step with
    | captured data => exact fun other => absurd data other
    | greeted _ _ _ _ _ connected => exact fun _ => fresh (by simp [connected])
    | recipient _ _ enveloped => exact fun _ => fresh (by simp [enveloped])
    | data => exact fun other => absurd rfl other
    | delivered => exact fun _ => rfl
    | upgraded => exact fun _ => rfl
    | mail => exact fun _ => rfl
    | reset => exact fun _ => rfl
    | refused => exact fresh
    | informed => exact fresh
    | authenticated => exact fresh
    | _ => cases continues

theorem fresh_handle {connection : Connection} {config : SessionConfig H} {n : Nat}
    (running : handle n (.new connection config) = .ok none s) (command : s.state.phase ≠ .Data) :
    s.state.current_mail.data = [] := by
  have ran := ends_of_triple (fresh_invariant.habit.handle_spec (.new connection config : Session H Effect) trivial
    (fun _ => rfl) n) rfl
  rw [running] at ran
  exact ran.2 rfl command

end
end PostGraph
