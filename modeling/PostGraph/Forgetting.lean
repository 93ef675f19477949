import PostGraph.Delivery
import PostGraph.Refusals

/-!
What a session forgets. After RSET it goes on as if nothing had been said before;
and where TLS is required, what follows STARTTLS is a session that begins on
the encrypted connection, with the configuration of the server as it was.
-/
namespace PostGraph
open Programs Couplings Session
set_option autoImplicit false

/-- Since their traces were `a` and `b` the sessions have done the same. -/
def SameSince {H Effect : Type} (a b : List (Event Effect)) (s t : Session H Effect) : Prop :=
  ∃ later, s.trace = a ++ later ∧ t.trace = b ++ later

section
variable {H Effect : Type} [Handler H Effect] [Base64] {s t : Session H Effect} {a b : List (Event Effect)}

omit [Handler H Effect] [Base64] in
theorem SameSince.earlier {events : List (Event Effect)} (same : SameSince (a ++ events) (b ++ events) s t) :
    SameSince a b s t := by
  obtain ⟨later,left,right⟩ := same
  exact ⟨events ++ later,by rw [left,List.append_assoc],by rw [right,List.append_assoc]⟩

/-- Sessions that stand the same, whatever they have done, go on the same. -/
theorem loop_alike (connection : s.connection = t.connection) (config : s.config = t.config) (state : s.state = t.state)
    (n : Nat) : EndsAlike (SameSince s.trace t.trace) (SameSince s.trace t.trace) (loop n s) (loop n t) := by
  have linked : Linked Eq s.trace t.trace s t := by
    refine ⟨⟨config,state,[],by simp,by simp⟩,?_⟩
    rw [connection]
    cases t.connection with
    | none => exact .none
    | some _ => exact .some rfl
  rcases (linked_coupling eq_peers s.trace t.trace).unless_loop n s t linked with ends | upgraded | upgraded
  · exact ends.mono (fun _ _ linked => linked.trace) fun _ _ parted => parted.trace
  · exact upgraded.1.elim
  · exact upgraded.1.elim

theorem handle_begins (s : Session H Effect) (n : Nat) :
    handle n s = (reply (.banner s.config.server_name) >>= fun _ => loop n) s := by
  rw [handle]
  exact bind_ok (run_get s)

end

/-! ### RSET -/

section
variable [Argon2] [Base64] {s t : Session ProxyHandler ProxyEffect} {line rest : Bytes}

/-- The configuration of a session without its login. -/
def forgotten (config : SessionConfig ProxyHandler) : SessionConfig ProxyHandler :=
  { config with handler.username := none }

/-- What RSET leaves of a session: its connection and its configuration. -/
theorem turn_reset {c : Connection} {reader : BufReader} (spoken : Spoken line .Reset)
    (read : read_line_loop (c.stream.inner.reads.length + 2) [] c.stream = (.ok (some line),reader))
    (connected : s.connection = some c) (phase : s.state.phase ≠ .Data) :
    turn s = match (c.with_stream reader).write_all (reply_bytes RESET) with
      | none => .error .Io { s with
          connection := some (c.with_stream reader), state := .new, trace := s.trace ++ [Event.Received line,.Parse line] }
      | some c' => .ok .Continue ⟨some c',forgotten s.config,.new,
          s.trace ++ [Event.Received line,.Parse line,.Reply RESET,.OnReset (.ok ())]⟩ := by
  let taken : Session ProxyHandler ProxyEffect := { s with
    connection := some (c.with_stream reader), trace := s.trace ++ [Event.Received line] }
  let reset : Session ProxyHandler ProxyEffect := { taken with state := .new, trace := taken.trace ++ [Event.Parse line] }
  have runs : turn s = (reply RESET >>= fun _ => on_reset >>= fun _ => pure Control.Continue) reset := by
    rw [turn_eq (read_line_eq connected read),handle_line_command (s := taken) phase spoken.parsed]
    simp only [handle_command,handle_reset,bind_assoc,pure_bind]
    exact bind_ok (run_modify _ _)
  rw [runs]
  have replied := reply_eq (s := reset) rfl RESET
  cases written : (c.with_stream reader).write_all (reply_bytes RESET) with
  | none =>
    rw [written] at replied
    rw [bind_error replied]
    simp only [reset,taken,List.append_assoc]
    rfl
  | some c' =>
    rw [written] at replied
    let confirmed : Session ProxyHandler ProxyEffect := { reset with
      connection := some c', trace := reset.trace ++ [Event.Reply RESET] }
    have forgets : on_reset confirmed = .ok (.ok ()) { confirmed with
        config := forgotten s.config, trace := confirmed.trace ++ [Event.OnReset (.ok ())] } := rfl
    rw [bind_ok replied,bind_ok forgets]
    simp only [confirmed,reset,taken,List.append_assoc]
    rfl

/-- What was said before RSET makes no difference to what follows: not the phase, the mail
    or the login that it found, nor the trace. -/
theorem reset_forgets (connection : s.connection = t.connection) (config : forgotten s.config = forgotten t.config)
    (phase : s.state.phase ≠ .Data) (phase' : t.state.phase ≠ .Data) (spoken : Spoken line .Reset)
    (sent : s.pending = line ++ rest) (n : Nat) :
    EndsAlike (SameSince s.trace t.trace) (SameSince s.trace t.trace) (loop n s) (loop n t) := by
  cases n with
  | zero => exact ⟨rfl,[],by simp,by simp⟩
  | succ n =>
    obtain ⟨r,reads,-,-⟩ := read_line_complete sent spoken.complete spoken.fits
    cases connected : s.connection with
    | none =>
      rw [read_line_unconnected connected] at reads
      simp at reads
    | some c =>
      obtain ⟨result,reader,read⟩ : ∃ result reader,
          read_line_loop (c.stream.inner.reads.length + 2) [] c.stream = (result,reader) := ⟨_,_,rfl⟩
      obtain rfl : result = .ok (some line) := by
        rw [read_line_eq connected read] at reads
        rcases result with err | _ | line'
        · simp at reads
        · simp at reads
        · simp only [EStateM.Result.ok.injEq,Option.some.injEq] at reads
          rw [reads.1]
      have first := turn_reset spoken read connected phase
      have second := turn_reset spoken read (connection.symm.trans connected) phase'
      simp only [loop]
      cases written : (c.with_stream reader).write_all (reply_bytes RESET) with
      | none =>
        rw [written] at first second
        rw [bind_error first,bind_error second]
        exact ⟨rfl,_,rfl,rfl⟩
      | some c' =>
        rw [written] at first second
        rw [bind_ok first,bind_ok second]
        show EndsAlike _ _ (loop n _) (loop n _)
        refine EndsAlike.mono (loop_alike ?_ ?_ ?_ n) ?_ ?_
        · rfl
        · exact config
        · rfl
        · exact fun _ _ same => same.earlier
        · exact fun _ _ same => same.earlier

end

/-! ### STARTTLS -/

section
variable {H Effect : Type} [Handler H Effect] [Base64] {s t : Session H Effect} {stream : BufReader} {tls : Option TlsAcceptor}

omit [Base64] in
theorem Step.upgrade {v v' : View H} {line : Bytes} {events : List (Event Effect)} (step : Step v line events .Continue v')
    (plain : v.is_tls = false) (secured : v'.is_tls = true) :
    Command.parse line = .ok .StartTls ∧ v.state.phase = .Greeted ∧ v.supports_tls = true := by
  cases step with
  | upgraded parsed phase supported => exact ⟨parsed,phase,supported⟩
  | _ => simp [plain] at secured

/-- A turn that makes a plain connection an encrypted one leaves what the acceptor makes
    of it. -/
theorem turn_upgrades (connected : s.connection = some (.Plain stream tls)) (turned : turn s = .ok .Continue t)
    (secured : t.view.is_tls = true) :
    ∃ acceptor p decrypted, tls = some acceptor ∧ acceptor.accept p = some decrypted ∧
      t.connection = some (.new_tls decrypted) := by
  obtain ⟨line,r,read⟩ : ∃ line r, read_line s = .ok (some line) r := by
    by_contra unread
    obtain ⟨err,_,failed,-⟩ := turn_silent fun line r read => unread ⟨line,r,read⟩
    simp [failed] at turned
  obtain ⟨stream',connected'⟩ := (reads_of read).connection _ connected
  have plain : r.view.is_tls = false := by simp [Session.view,connected',Connection.with_stream,Connection.is_tls]
  rw [turn_eq read] at turned
  have ends := ends_of_triple (handle_line_spec r id line) rfl
  rw [turned] at ends
  obtain ⟨events,-,reaction⟩ := ends
  obtain ⟨parsed,phase,supported⟩ := reaction.step.upgrade plain secured
  have command : r.state.phase ≠ .Data := by simp [show r.state.phase = .Greeted from phase]
  rw [handle_line_command command parsed] at turned
  have ran : (handle_start_tls >>= fun _ => pure Control.Continue) { r with trace := r.trace ++ [Event.Parse line] } = .ok .Continue t :=
    turned
  cases tls with
  | none => simp [Session.view,connected',Connection.with_stream,Connection.supports_tls] at supported
  | some acceptor =>
    rcases handle_start_tls_upgrades (s := { r with trace := r.trace ++ [Event.Parse line] }) connected' phase with
      failed | ⟨stream'',u,-,-,-,upgraded⟩
    · rw [bind_error failed] at ran
      simp at ran
    · cases accepted : acceptor.accept (.from_existing stream'') with
      | none =>
        rw [accepted] at upgraded
        rw [bind_error upgraded] at ran
        simp at ran
      | some decrypted =>
        rw [accepted] at upgraded
        rw [bind_ok upgraded] at ran
        obtain ⟨-,rfl⟩ := EStateM.Result.ok.inj ran
        exact ⟨acceptor,_,decrypted,rfl,accepted,rfl⟩

end

section
variable [Argon2] [Base64] {s t : Session ProxyHandler ProxyEffect} {config : SessionConfig ProxyHandler}
  {stream : BufReader} {tls : Option TlsAcceptor}

/-- A session on a plain connection on which nobody has logged in. -/
structure Plaintext (config : SessionConfig ProxyHandler) (v : View ProxyHandler) : Prop where
  config : v.config = config
  phase : v.state.phase = .Connected ∨ v.state.phase = .Greeted
  anonymous : v.state.is_authenticated = false
  plain : v.is_tls = false

/-- Where TLS is required a step in plain text leaves the configuration as it was. -/
theorem Plaintext.step {v v' : View ProxyHandler} {line : Bytes} {events : List (Event ProxyEffect)}
    (plaintext : Plaintext config v) (required : config.auth_mode = .RequireTls) (nobody : config.handler.username = none)
    (step : Step v line events .Continue v') :
    v'.config = config ∧ (v'.state.phase = .Connected ∨ v'.state.phase = .Greeted) ∧ v'.state.is_authenticated = false := by
  obtain ⟨rfl,phase,anonymous,plain⟩ := plaintext
  have unauthenticated : v.is_authenticated = false := by
    simp [View.is_authenticated,SessionConfig.has_auth,required,anonymous]
  cases step with
  | captured data => simp [data] at phase
  | delivered _ data => simp [data] at phase
  | refused => exact ⟨rfl,phase,anonymous⟩
  | greeted domain extended called responses parsed phase ran =>
    obtain rfl : ⟨.ok .Ok,v.config.handler,[]⟩ = called := ran
    exact ⟨rfl,.inr rfl,anonymous⟩
  | informed => exact ⟨rfl,phase,anonymous⟩
  | upgraded => exact ⟨rfl,.inl rfl,rfl⟩
  | authenticated _ _ _ _ _ _ _ _ permitted =>
    rcases permitted with always | ⟨-,tls⟩
    · simp [required] at always
    · simp [plain] at tls
  | mail _ _ _ authenticated => simp [unauthenticated] at authenticated
  | recipient _ _ inside => simp [inside] at phase
  | data _ inside => simp [inside] at phase
  | reset called parsed _ ran =>
    obtain rfl : ⟨.ok (),{ v.config.handler with username := none },[]⟩ = called := ran
    have same : { v.config.handler with username := none } = v.config.handler := by
      rw [← nobody]
    exact ⟨by simp only [same],.inl rfl,rfl⟩

/-- It stays in plain text, or is new on an encrypted connection. -/
theorem Plaintext.turn (plaintext : Plaintext config s.view) (required : config.auth_mode = .RequireTls)
    (nobody : config.handler.username = none) (connected : s.connection = some (.Plain stream tls))
    (turned : turn s = .ok .Continue t) :
    (Plaintext config t.view ∧ (∃ stream, t.connection = some (.Plain stream tls)) ∧
      ∃ events, t.trace = s.trace ++ events ∧ .TlsStarted ∉ events) ∨
    ∃ acceptor p decrypted before, tls = some acceptor ∧ acceptor.accept p = some decrypted ∧ .TlsStarted ∉ before ∧
      t = ⟨some (.new_tls decrypted),config,.new,s.trace ++ before ++ [Event.TlsStarted]⟩ := by
  have ends := ends_of_triple (turn_spec s) rfl
  rw [turned] at ends
  obtain ⟨line,events,trace,step⟩ := ends
  obtain ⟨same,phase,anonymous⟩ := plaintext.step required nobody step
  rcases step_tls step with ⟨silent,kept⟩ | ⟨-,-,rfl,-,upgraded⟩
  · have plain : t.view.is_tls = false := (kept rfl).2.trans plaintext.plain
    refine .inl ⟨⟨same,phase,anonymous,plain⟩,?_,_,trace,by simp [silent]⟩
    have here : t.connection.isSome = true := by
      have kept := keeps_connected.turn (s := s) (by rw [connected]; rfl)
      rw [turned] at kept
      exact kept
    obtain ⟨c,connected'⟩ := Option.isSome_iff_exists.mp here
    have acceptor := turn_acceptor connected c (by rw [turned]; exact connected')
    rcases acceptor with ⟨stream',rfl⟩ | tls
    · exact ⟨stream',connected'⟩
    · simp [Session.view,connected',tls] at plain
  · obtain ⟨acceptor,p,decrypted,offered,accepted,connected'⟩ :=
      turn_upgrades connected turned (by rw [upgraded])
    refine .inr ⟨acceptor,p,decrypted,[.Received line,.Parse line,.Reply START_TLS],offered,accepted,by simp,?_⟩
    obtain ⟨connection,config',state,trace'⟩ := t
    obtain rfl : state = .new := congrArg View.state upgraded
    obtain rfl : config' = config := same
    obtain rfl : connection = _ := connected'
    obtain rfl : trace' = _ := trace
    simp

/-- The turn that upgrades a session, among those it is watched for. -/
theorem loop_upgrades (plaintext : Plaintext config s.view) (required : config.auth_mode = .RequireTls)
    (nobody : config.handler.username = none) (connected : s.connection = some (.Plain stream tls))
    (silent : .TlsStarted ∉ s.trace) (n : Nat) (upgraded : .TlsStarted ∈ (final (loop n s)).trace) :
    ∃ acceptor p decrypted before k, tls = some acceptor ∧ acceptor.accept p = some decrypted ∧ k ≤ n ∧
      .TlsStarted ∉ before ∧
      ∀ m, loop (k + m) s = loop m ⟨some (.new_tls decrypted),config,.new,before ++ [Event.TlsStarted]⟩ := by
  induction n generalizing s stream with
  | zero => exact absurd upgraded silent
  | succ n ih =>
    have ends := ends_of_triple (turn_spec s) rfl
    have unstarted {outcome : Outcome} {t : Session ProxyHandler ProxyEffect} (turned : Turned s outcome t)
        (ended : outcome ≠ .Continue) : .TlsStarted ∉ t.trace := by
      obtain ⟨line,events,trace,step⟩ := turned
      rcases step_tls step with ⟨none,-⟩ | ⟨-,-,-,continues,-⟩
      · simp [trace,silent,none]
      · exact absurd continues ended
    simp only [loop,bind,EStateM.bind] at upgraded
    cases turned : PostGraph.Session.turn s with
    | error err t =>
      rw [turned] at ends upgraded
      rcases ends with ⟨trace,-⟩ | turned
      · have same : t.trace = s.trace := by simpa using trace
        exact absurd upgraded (same ▸ silent)
      · exact absurd upgraded (unstarted turned (by simp))
    | ok control t =>
      rw [turned] at ends upgraded
      cases control with
      | Return => exact absurd upgraded (unstarted ends (by simp [Outcome.of]))
      | Continue =>
        have next (m : Nat) : loop (m + 1) s = loop m t := by
          rw [loop]
          exact bind_ok turned
        rcases plaintext.turn required nobody connected turned with
          ⟨plaintext',⟨stream',connected'⟩,events,trace,none⟩ | ⟨acceptor,p,decrypted,before,offered,accepted,none,rfl⟩
        · obtain ⟨acceptor,p,decrypted,before,k,offered,accepted,bound,none',goesOn⟩ :=
            ih plaintext' connected' (by simp [trace,silent,none]) upgraded
          refine ⟨acceptor,p,decrypted,before,k + 1,offered,accepted,by omega,none',fun m => ?_⟩
          rw [Nat.add_right_comm,next,goesOn]
        · refine ⟨acceptor,p,decrypted,s.trace ++ before,1,offered,accepted,by omega,by simp [silent,none],fun m => ?_⟩
          rw [Nat.add_comm,next]

/-- Where TLS is required, a session that is upgraded goes on as one that begins on the
    encrypted connection, with the configuration of the server: nothing that was said
    in plain text is left. -/
theorem upgraded_session_is_new (stream : BufReader) (tls : Option TlsAcceptor) (config : SessionConfig ProxyHandler)
    (required : config.auth_mode = .RequireTls) (nobody : config.handler.username = none) (n : Nat)
    (upgraded : .TlsStarted ∈ (final (handle n (.new (.Plain stream tls) config : Session ProxyHandler ProxyEffect))).trace) :
    ∃ acceptor p decrypted before k, tls = some acceptor ∧ acceptor.accept p = some decrypted ∧ k ≤ n ∧
      .TlsStarted ∉ before ∧
      ∀ m, EndsAlike (SameSince (before ++ [Event.TlsStarted]) []) (SameSince (before ++ [Event.TlsStarted]) [])
        (handle (k + m) (.new (.Plain stream tls) config : Session ProxyHandler ProxyEffect))
        (loop m (.new (.new_tls decrypted) config)) := by
  have replied := reply_eq (s := (.new (.Plain stream tls) config : Session ProxyHandler ProxyEffect)) rfl
    (.banner config.server_name)
  cases wrote : stream.write_all (reply_bytes (.banner config.server_name)) with
  | none =>
    have failed : Connection.write_all (.Plain stream tls) (reply_bytes (.banner config.server_name)) = none := by
      simp [Connection.write_all,Connection.stream,wrote]
    rw [failed] at replied
    have ended : handle n (.new (.Plain stream tls) config) = .error .Io (.new (.Plain stream tls) config) :=
      (handle_begins _ n).trans (bind_error replied)
    rw [ended] at upgraded
    simp [final,Session.new] at upgraded
  | some stream' =>
    have written : Connection.write_all (.Plain stream tls) (reply_bytes (.banner config.server_name)) =
        some (.Plain stream' tls) := by
      simp [Connection.write_all,Connection.stream,wrote,Connection.with_stream]
    rw [written] at replied
    let greeting : Session ProxyHandler ProxyEffect :=
      ⟨some (.Plain stream' tls),config,.new,[.Reply (.banner config.server_name)]⟩
    have goesOn (m : Nat) : handle m (.new (.Plain stream tls) config) = loop m greeting :=
      (handle_begins _ m).trans (bind_ok replied)
    have plaintext : Plaintext config greeting.view := ⟨rfl,.inl rfl,rfl,rfl⟩
    obtain ⟨acceptor,p,decrypted,before,k,offered,accepted,bound,none,looped⟩ :=
      loop_upgrades plaintext required nobody rfl (by simp [greeting]) n (by rw [← goesOn]; exact upgraded)
    refine ⟨acceptor,p,decrypted,before,k,offered,accepted,bound,none,fun m => ?_⟩
    rw [goesOn,looped]
    exact loop_alike (s := ⟨_,_,_,before ++ [Event.TlsStarted]⟩) (t := .new (.new_tls decrypted) config) rfl rfl rfl m

end

section
attribute [local instance] Sample.argon2 Sample.base64

/-- A session that has logged in and named a sender, and one that has done nothing. -/
def sampleReset : Session ProxyHandler ProxyEffect :=
  Session.new (.new_plain (Sample.sends "RSET\r\nMAIL FROM:<a>\r\n") none) (Sample.config .Always)

def sampleBusy : Session ProxyHandler ProxyEffect := { sampleReset with
  state := ⟨.Envelope,true,Mail.empty.set_sender ['a']⟩
  config.handler.username := some ['a']
  trace := [.Reply AUTH_OK,.Reply OK] }

theorem reset_forgets_sample : EndsAlike (SameSince sampleBusy.trace []) (SameSince sampleBusy.trace [])
    (loop 2 sampleBusy) (loop 2 sampleReset) :=
  have spoken : Spoken (ascii "RSET\r\n") .Reset := ⟨⟨ascii "RSET\r",by decide,by decide⟩,by decide,by decide⟩
  have sent : sampleBusy.pending = ascii "RSET\r\n" ++ ascii "MAIL FROM:<a>\r\n" := by decide
  reset_forgets (s := sampleBusy) (t := sampleReset) rfl rfl (by decide) (by decide) spoken sent 2

/-- A client that upgrades. -/
def sampleUpgrading : BufReader := .new (Sample.sends "EHLO x\r\nSTARTTLS\r\n\x16\x03\x01")

theorem upgraded_session_is_new_sample : ∃ decrypted before k,
    (∃ p, sampleAcceptor.accept p = some decrypted) ∧ ∀ m,
      EndsAlike (σ := Session ProxyHandler ProxyEffect) (SameSince (before ++ [Event.TlsStarted]) [])
        (SameSince (before ++ [Event.TlsStarted]) [])
        (handle (k + m) (.new (.Plain sampleUpgrading (some sampleAcceptor)) (Sample.config .RequireTls)))
        (loop m (.new (.new_tls decrypted) (Sample.config .RequireTls))) := by
  obtain ⟨acceptor,p,decrypted,before,k,offered,accepted,-,-,alike⟩ :=
    upgraded_session_is_new sampleUpgrading (some sampleAcceptor) (Sample.config .RequireTls) rfl rfl 3 (by decide +kernel)
  obtain rfl := Option.some.inj offered
  exact ⟨decrypted,before,k,⟨p,accepted⟩,alike⟩

end
end PostGraph
