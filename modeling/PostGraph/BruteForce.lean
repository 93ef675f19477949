import PostGraph.Lib.Counts
import PostGraph.Server
import PostGraph.Turns

/-!
How many logins of a peer can be rejected within `max_age`. A rejected login
ends its session as an unproductive one, so within the time that fails are
remembered it is still to be recorded or on record, and the next session is
only accepted if all of these and the open sessions are within the limits.
-/
namespace PostGraph
open Std.Do Counts Programs Runs
set_option mvcgen.warning false
set_option autoImplicit false

/-- A login that ended in `LoginResult::Reject`. -/
def is_reject : Event ProxyEffect → Bool
  | .OnLogin _ _ (.ok .Reject) => true
  | _ => false

@[simp] theorem is_reject_ok (username password : Text) : is_reject (.OnLogin username password (.ok .Ok)) = false := rfl
@[simp] theorem is_reject_reject (username password : Text) :
    is_reject (.OnLogin username password (.ok .Reject)) = true := rfl

@[simp] theorem is_reject_other {e : Event ProxyEffect}
    (other : ∀ username password result, e ≠ .OnLogin username password result) : is_reject e = false := by
  cases e with
  | OnLogin username password result => exact absurd rfl (other username password result)
  | _ => rfl

theorem not_reject_coded {codes : List Nat} {e : Event ProxyEffect} (coded : e.Coded codes) : is_reject e = false := by
  cases coded
  rfl

theorem not_reject_handshake {e : Event ProxyEffect} (handshake : e.Handshake) : is_reject e = false := by
  cases handshake <;> rfl

theorem not_reject_quiet {e : Event ProxyEffect} (quiet : e.Quiet) : is_reject e = false := by
  cases quiet <;> rfl

theorem no_rejects {events : List (Event ProxyEffect)} (all : ∀ e ∈ events, is_reject e = false) :
    events.countP is_reject = 0 := by
  rw [List.countP_eq_zero]
  intro e member
  simp [all e member]

section
variable [Argon2]

theorem Stage.greet_spec (session : Session ProxyHandler ProxyEffect) :
    ⦃fun t => ⌜t = session⌝⦄ Stage.greet
    ⦃post⟨fun _ t => ⌜Did session [.Reply (.banner session.config.server_name)] t⌝,fun _ t => ⌜Did session [] t⌝⟩⦄ := by
  unfold Stage.greet
  mvcgen [reply_spec]
  case vc1 here _ _ done => exact here ▸ done
  case vc2 here _ _ => exact fun done => here ▸ done

theorem Stage.proceed_greet (session : Session ProxyHandler ProxyEffect) :
    (Stage.proceed session Stage.greet).2.countP is_reject = 0 := by
  have ends := ends_of_triple (Stage.greet_spec session) rfl
  cases ran : Stage.greet session with
  | ok control session' =>
    have did : Did session [.Reply (.banner session.config.server_name)] session' := by simpa [Ends,ran] using ends
    have news : session'.trace.drop session.trace.length = [.Reply (.banner session.config.server_name)] := by
      simp [did.1]
    cases control <;> simp [Stage.proceed,ran,news]
  | error err session' =>
    have did : Did session [] session' := by simpa [Ends,ran] using ends
    simp [Stage.proceed,ran,did.1]

namespace Stage

def active : Stage → Bool
  | Closing _ => false
  | _ => true

/-- `on_disconnect` is going to record a fail. -/
def unproductive : Stage → Bool
  | Closing handler => !handler.productive
  | _ => false

theorem active_of_cancel {stage stage' : Stage} (cancelled : stage.cancel = some stage') : stage.active = true := by
  cases stage with
  | Closing handler => simp [cancel] at cancelled
  | _ => rfl

theorem inactive_of_unproductive {stage : Stage} (ended : stage.unproductive = true) : stage.active = false := by
  cases stage with
  | Closing handler => rfl
  | _ => simp [Stage.unproductive] at ended

theorem unproductive_of_active {stage : Stage} (active : stage.active = true) : stage.unproductive = false := by
  cases stage with
  | Closing handler => simp [Stage.active] at active
  | _ => rfl

end Stage

variable [Base64]

/-- A turn rejects at most one login, and then the session is over and unproductive. -/
theorem step_rejects {v v' : View ProxyHandler} {line : Bytes} {events : List (Event ProxyEffect)} {outcome : Outcome}
    (step : Step v line events outcome v') : events.countP is_reject = 0 ∨
      events.countP is_reject = 1 ∧ outcome = .Closed ∧ v'.config.handler.productive = false := by
  cases step with
  | captured data more fits => exact .inl rfl
  | delivered called data done ran => exact .inl (no_rejects (by simp [or_imp,forall_and]))
  | undelivered called v' data done ran config => exact .inl (no_rejects (by simp [or_imp,forall_and]))
  | refused handshake response command other exchanged code =>
    refine .inl (no_rejects ?_)
    simpa [or_imp,forall_and] using fun e member => not_reject_handshake (exchanged e member)
  | greeted domain extended called responses parsed phase ran accepted codes =>
    refine .inl (no_rejects ?_)
    simpa [or_imp,forall_and] using fun e member => not_reject_coded (codes e member)
  | ungreeted domain extended called responses v' parsed phase ran codes config =>
    refine .inl (no_rejects ?_)
    simpa [or_imp,forall_and] using fun e member => not_reject_coded (codes e member)
  | informed command responses parsed which phase codes =>
    refine .inl (no_rejects ?_)
    simpa [or_imp,forall_and] using fun e member => not_reject_coded (codes e member)
  | upgraded parsed phase supported => exact .inl rfl
  | authenticated method initial handshake username password called parsed phase permitted exchanged ran accepted =>
    refine .inl (no_rejects ?_)
    simpa [accepted,or_imp,forall_and] using fun e member => not_reject_handshake (exchanged e member)
  | unauthenticated method initial handshake last username password called v' parsed phase permitted exchanged ran
      answer config =>
    have before := no_rejects fun e member => not_reject_handshake (exchanged e member)
    have after : last.countP is_reject = 0 := by
      rcases answer with rfl | ⟨rfl,-⟩ <;> rfl
    obtain ⟨silent,⟨accepted,-⟩ | ⟨rejected,handler⟩⟩ := ProxyHandler.on_login_ok ran
    · left
      simp [silent,accepted,before,after]
    · right
      refine ⟨?_,rfl,by simp [config,handler]⟩
      simp [silent,rejected,before,after,List.countP_cons]
  | mail sender parsed phase authenticated => exact .inl rfl
  | recipient recipient parsed phase authenticated => exact .inl rfl
  | data parsed phase authenticated => exact .inl rfl
  | reset called parsed phase ran => exact .inl (no_rejects (by simp [or_imp,forall_and]))
  | quit parsed phase => exact .inl rfl
  | dropped events v' quiet config early => exact .inl (no_rejects fun e member => not_reject_quiet (quiet e member))

namespace Stage

theorem proceed_turn (session : Session ProxyHandler ProxyEffect) :
    (proceed session Session.turn).2.countP is_reject = 0 ∨
      (proceed session Session.turn).2.countP is_reject = 1 ∧ (proceed session Session.turn).1.unproductive = true := by
  have ends := ends_of_triple (turn_spec session) rfl
  cases ran : Session.turn session with
  | ok control session' =>
    obtain ⟨line,events,trace,step⟩ : Turned session (.of control) session' := by simpa [Ends,ran] using ends
    have news : session'.trace.drop session.trace.length = .Received line :: events := by simp [trace]
    left
    rcases step_rejects step with none | ⟨-,closed,-⟩
    · cases control <;> simpa [proceed,ran,news] using none
    · cases control <;> simp [Outcome.of] at closed
  | error err session' =>
    have ended : Did session [] session' ∨ Turned session .Closed session' := by simpa [Ends,ran] using ends
    rcases ended with ⟨trace,-⟩ | ⟨line,events,trace,step⟩
    · left
      simp [proceed,ran,trace]
    · have news : session'.trace.drop session.trace.length = .Received line :: events := by simp [trace]
      rcases step_rejects step with none | ⟨one,-,unproductive⟩
      · left
        simpa [proceed,ran,news] using none
      · right
        refine ⟨by simpa [proceed,ran,news] using one,?_⟩
        simpa [proceed,ran,Stage.unproductive] using unproductive

/-- A task that goes on was active, and it rejects at most one login, after which it is
    over and unproductive. -/
theorem resume_rejects {stage stage' : Stage} {events : List (Event ProxyEffect)}
    (resumed : stage.resume = some (stage',events)) : stage.active = true ∧
      (events.countP is_reject = 0 ∨ events.countP is_reject = 1 ∧ stage'.unproductive = true) := by
  cases stage with
  | Starting session =>
    have same : proceed session greet = (stage',events) := Option.some.inj resumed
    have none := proceed_greet session
    rw [same] at none
    exact ⟨rfl,.inl none⟩
  | Serving session =>
    have same : proceed session Session.turn = (stage',events) := Option.some.inj resumed
    have one := proceed_turn session
    rw [same] at one
    exact ⟨rfl,one⟩
  | Closing handler => simp [resume] at resumed

end Stage
end

namespace Fail2Ban
variable {self : Fail2Ban} {p q : IpAddr} {opened now pushed judged : Instant} {info : PeerInfo}

/-- The fails on the record of a peer that was active since `opened`. -/
def recent_fails (self : Fail2Ban) (p : IpAddr) (opened : Instant) : Nat :=
  match self.peers p with
  | some info => if opened ≤ info.time then info.fails else 0
  | none => 0

theorem recent_fails_some (known : self.peers p = some info) :
    self.recent_fails p opened = if opened ≤ info.time then info.fails else 0 := by
  simp [recent_fails,known]

theorem recent_fails_none (unknown : self.peers p = none) : self.recent_fails p opened = 0 := by
  simp [recent_fails,unknown]

theorem recent_fails_le (opened : Instant) (known : self.peers p = some info) :
    self.recent_fails p opened ≤ info.fails := by
  rw [recent_fails_some known]
  split <;> simp

theorem recent_fails_connect (later : opened ≤ pushed) (fresh : elapsed pushed judged ≤ self.max_age)
    (within : elapsed opened judged ≤ self.max_age) :
    self.recent_fails p opened ≤ (self.connect q pushed judged).2.recent_fails p opened := by
  cases known : self.peers p with
  | none => simp [recent_fails_none known]
  | some info =>
    by_cases same : p = q
    · subst same
      have own := connect_own self p pushed judged
      rw [if_pos fresh,known] at own
      rw [recent_fails_some own,pushed_info_time,if_pos later]
      exact (recent_fails_le opened known : _ ≤ info.fails)
    · by_cases recent : opened ≤ info.time
      · have kept := (connect_other self q p pushed judged same).mpr
          ⟨known,Nat.le_trans (Nat.sub_le_sub_left recent judged) within⟩
        rw [recent_fails_some known,recent_fails_some kept]
      · rw [recent_fails_some known,if_neg recent]
        exact Nat.zero_le _

/-- `on_disconnect` records the fail of an unproductive session. -/
theorem recent_fails_disconnect (later : opened ≤ now) (known : q = p → ∃ info, self.peers p = some info)
    (room : ∀ info, self.peers p = some info → info.fails + 1 < U32_VALUES) (productive : Bool) :
    self.recent_fails p opened + (if q = p && !productive then 1 else 0) ≤
      (self.disconnect q now productive).recent_fails p opened := by
  have records := disconnect_peers self q p now productive
  by_cases same : p = q
  · subst same
    obtain ⟨info,recorded⟩ := known rfl
    rw [if_pos rfl,recorded,Option.map_some] at records
    rw [recent_fails_some records]
    cases productive
    · have counted : (info.fails + 1) % U32_VALUES = info.fails + 1 := Nat.mod_eq_of_lt (room info recorded)
      have before := recent_fails_le opened recorded
      simpa [popped_info,later,counted] using before
    · simp [popped_info,recent_fails_some recorded]
  · rw [if_neg same] at records
    simp [recent_fails,records,Ne.symm same]

end Fail2Ban

namespace Server
variable [Argon2] {s s' : Server} {p : IpAddr}

def rejections (self : Server) (p : IpAddr) : Nat := self.log.countP fun entry => entry.1 = p && is_reject entry.2

def counted (self : Server) (p : IpAddr) (of : Stage → Bool) : Nat :=
  self.tasks.countP fun task => task.peer_addr = p && of task.stage

/-- What a task adds to the count. -/
def weight (task : Task) (p : IpAddr) (of : Stage → Bool) : Nat :=
  if task.peer_addr = p && of task.stage then 1 else 0

section
variable {i : Nat} {task : Task} (of : Stage → Bool)

theorem counted_accept (entered : s'.tasks = s.tasks ++ [task]) :
    s'.counted p of = s.counted p of + weight task p of := by
  rw [counted,entered,List.countP_append,List.countP_singleton]
  rfl

theorem counted_update (here : s.tasks[i]? = some task) (task' : Task) (now : Instant) (events : List (Event ProxyEffect)) :
    (s.update i task' now events).counted p of + weight task p of = s.counted p of + weight task' p of :=
  countP_replace (fun task : Task => decide (task.peer_addr = p) && of task.stage) here

theorem counted_disconnect (here : s.tasks[i]? = some task) (left : s'.tasks = s.tasks.eraseIdx i) :
    s.counted p of = s'.counted p of + weight task p of := by
  rw [counted,counted,left]
  exact countP_leave (fun task : Task => decide (task.peer_addr = p) && of task.stage) here

end

theorem rejections_update (i : Nat) (task : Task) (p : IpAddr) (now : Instant) (events : List (Event ProxyEffect)) :
    (s.update i task now events).rejections p =
      s.rejections p + if task.peer_addr = p then events.countP is_reject else 0 := by
  simp only [rejections,update,List.countP_append,List.countP_map]
  by_cases same : task.peer_addr = p
  · simp [same,Function.comp_def]
  · simp [same,Function.comp_def]

/-- A task that goes on or is cut off gives up an active session for each rejected login, and
    leaves an unproductive one. -/
theorem weight_update {task : Task} {stage : Stage} {events : List (Event ProxyEffect)} (p : IpAddr)
    (active : task.stage.active = true)
    (rejects : events.countP is_reject = 0 ∨ events.countP is_reject = 1 ∧ stage.unproductive = true) :
    (if task.peer_addr = p then events.countP is_reject else 0) + weight { task with stage := stage } p Stage.active ≤
        weight task p Stage.active ∧
      (if task.peer_addr = p then events.countP is_reject else 0) + weight task p Stage.unproductive ≤
        weight { task with stage := stage } p Stage.unproductive := by
  have unproductive := Stage.unproductive_of_active active
  by_cases same : task.peer_addr = p
  · simp only [weight,same,active,unproductive]
    rcases rejects with none | ⟨one,ended⟩
    · rw [none]
      cases stage.active <;> simp
    · have inactive := Stage.inactive_of_unproductive ended
      simp [one,ended,inactive]
  · simp [weight,same]

/-- A task counts as active or as unproductive, and is an open session. -/
theorem counted_le : s.counted p Stage.active + s.counted p Stage.unproductive ≤ s.gate.open_sessions p := by
  have sessions : s.gate.open_sessions p = s.tasks.countP fun task => task.peer_addr = p := List.countP_map
  rw [sessions]
  refine countP_add_le _ _ _ ?_ ?_
  · intro task active
    cases stage : task.stage <;> simp_all [Stage.active,Stage.unproductive]
  · intro task unproductive
    simp_all

/-- The state of a peer while a time window lasts that began at `opened` with `before`
    rejected logins: the ones since then are still to be recorded or on record,
    and leave room for the sessions that can reject one more. -/
structure Window (p : IpAddr) (opened : Instant) (before : Nat) (s : Server) : Prop where
  later : opened ≤ s.clock
  pending : s.rejections p ≤ before + s.counted p Stage.unproductive + s.fail2ban.recent_fails p opened
  bounded : s.rejections p + s.counted p Stage.active ≤ before + (s.fail2ban.max_fails + s.fail2ban.max_connections)

variable {opened : Instant} {before : Nat}

/-- What acceptance means: the open sessions and the recent fails are within the limits. -/
theorem accepted_within (opened : Instant) {fail2ban : Fail2Ban} {pushed judged : Instant} (exact : s.gate.Exact)
    (connected : s.fail2ban = (fail2ban.connect p pushed judged).2)
    (accepted : (fail2ban.connect p pushed judged).1 = .Ok) :
    s.counted p Stage.active + s.counted p Stage.unproductive ≤ fail2ban.max_connections ∧
      s.fail2ban.recent_fails p opened ≤ fail2ban.max_fails := by
  obtain ⟨record,known,fails,connections⟩ := (Fail2Ban.connect_accepts fail2ban p pushed judged).mp accepted
  rw [← connected] at known
  have counted : record.connections = s.gate.open_sessions p := exact.counts p record known
  have open_tasks := counted_le (s := s) (p := p)
  exact ⟨by omega,Nat.le_trans (Fail2Ban.recent_fails_le opened known) fails⟩

theorem Window.update {i : Nat} {task : Task} {stage : Stage} {now : Instant} {events : List (Event ProxyEffect)}
    (window : Window p opened before s) (here : s.tasks[i]? = some task) (later : s.clock ≤ now)
    (active : task.stage.active = true)
    (rejects : events.countP is_reject = 0 ∨ events.countP is_reject = 1 ∧ stage.unproductive = true) :
    Window p opened before (s.update i { task with stage := stage } now events) := by
  have actives := counted_update (p := p) Stage.active here { task with stage := stage } now events
  have unproductives := counted_update (p := p) Stage.unproductive here { task with stage := stage } now events
  have logged := rejections_update (s := s) i { task with stage := stage } p now events
  obtain ⟨fewer,more⟩ := weight_update p active rejects
  simp only at logged
  have records : (s.update i { task with stage := stage } now events).fail2ban = s.fail2ban := rfl
  obtain ⟨started,pending,bounded⟩ := window
  refine ⟨Nat.le_trans started later,?_,?_⟩
  · rw [records]
    omega
  · rw [records]
    omega

/-- A new task is not active, or the peer's sessions and fails are within the limits with it. -/
theorem active_accept {q : IpAddr} {pushed judged : Instant} {stage : Stage} (opened : Instant)
    (decided : (s.fail2ban.connect q pushed judged).1 = .Ok ∨ stage.active = false)
    (entered : s' = { s with
      fail2ban := (s.fail2ban.connect q pushed judged).2, tasks := s.tasks ++ [⟨q,pushed,stage⟩],
      clock := judged, sessions := s.sessions + 1 }) (exact : s'.gate.Exact) :
    s'.counted p Stage.active = s.counted p Stage.active ∨
      s'.counted p Stage.active + s'.counted p Stage.unproductive ≤ s.fail2ban.max_connections ∧
        s'.fail2ban.recent_fails p opened ≤ s.fail2ban.max_fails := by
  by_cases joined : q = p ∧ stage.active = true
  · obtain ⟨rfl,active⟩ := joined
    have accepted := decided.resolve_right (by simp [active])
    exact .inr (accepted_within opened exact (by rw [entered]) accepted)
  · left
    have counts : s'.counted p Stage.active = s.counted p Stage.active + weight ⟨q,pushed,stage⟩ p Stage.active :=
      counted_accept Stage.active (by rw [entered])
    rwa [weight,if_neg (by simpa using joined)] at counts

theorem Window.accept {q : IpAddr} {pushed judged : Instant} {stage : Stage}
    (window : Window p opened before s) (later : s.clock ≤ pushed) (after : pushed ≤ judged)
    (fresh : elapsed pushed judged ≤ s.fail2ban.max_age) (inside : elapsed opened judged ≤ s.fail2ban.max_age)
    (decided : (s.fail2ban.connect q pushed judged).1 = .Ok ∨ stage.active = false)
    (entered : s' = { s with
      fail2ban := (s.fail2ban.connect q pushed judged).2, tasks := s.tasks ++ [⟨q,pushed,stage⟩],
      clock := judged, sessions := s.sessions + 1 }) (exact : s'.gate.Exact) : Window p opened before s' := by
  have unproductives : s'.counted p Stage.unproductive =
      s.counted p Stage.unproductive + weight ⟨q,pushed,stage⟩ p Stage.unproductive :=
    counted_accept Stage.unproductive (by rw [entered])
  have recent : s.fail2ban.recent_fails p opened ≤ s'.fail2ban.recent_fails p opened := by
    rw [entered]
    exact Fail2Ban.recent_fails_connect (Nat.le_trans window.later later) fresh inside
  have logged : s'.rejections p = s.rejections p := by rw [entered]; rfl
  have limits : s'.fail2ban.max_fails = s.fail2ban.max_fails ∧
      s'.fail2ban.max_connections = s.fail2ban.max_connections := by
    rw [entered]
    simp
  have active := active_accept (p := p) opened decided entered exact
  obtain ⟨started,pending,bounded⟩ := window
  refine ⟨by rw [entered]; exact Nat.le_trans started (Nat.le_trans later after),by omega,?_⟩
  rw [limits.1,limits.2]
  -- with the new session, all that is pending is within the limits
  rcases active with same | within
  · omega
  · omega

theorem Window.disconnect {i : Nat} {task : Task} {handler : ProxyHandler} {now : Instant}
    (window : Window p opened before s) (sound : s.gate.Sound) (here : s.tasks[i]? = some task)
    (closing : task.stage = .Closing handler) (later : s.clock ≤ now)
    (left : s' = { s with
      fail2ban := s.fail2ban.disconnect task.peer_addr now handler.productive, tasks := s.tasks.eraseIdx i,
      clock := now }) : Window p opened before s' := by
  have counts (of : Stage → Bool) : s.counted p of = s'.counted p of + weight task p of :=
    counted_disconnect of here (by rw [left])
  have visit : task.visit ∈ s.gate.visits := List.mem_map_of_mem (List.mem_of_getElem? here)
  have recorded (same : task.peer_addr = p) : ∃ info, s.fail2ban.peers p = some info := by
    refine sound.exact.known p (Nat.ne_of_gt (List.countP_pos_iff.mpr ⟨task.visit,visit,?_⟩))
    exact decide_eq_true same
  have room (info : PeerInfo) (known : s.fail2ban.peers p = some info) : info.fails + 1 < U32_VALUES := by
    have fails := sound.fails p info known
    have few := sound.few
    have someone := List.length_pos_of_mem visit
    omega
  have recent : s.fail2ban.recent_fails p opened +
      (if task.peer_addr = p && !handler.productive then 1 else 0) ≤ s'.fail2ban.recent_fails p opened := by
    rw [left]
    exact Fail2Ban.recent_fails_disconnect (Nat.le_trans window.later later) recorded room handler.productive
  have logged : s'.rejections p = s.rejections p := by rw [left]; rfl
  have limits : s'.fail2ban.max_fails = s.fail2ban.max_fails ∧
      s'.fail2ban.max_connections = s.fail2ban.max_connections := by
    rw [left]
    simp
  have actives := counts Stage.active
  have unproductives := counts Stage.unproductive
  obtain ⟨started,pending,bounded⟩ := window
  simp only [weight,closing,Stage.active,Stage.unproductive] at actives unproductives
  refine ⟨by rw [left]; exact Nat.le_trans started later,by omega,?_⟩
  rw [limits.1,limits.2]
  omega

/-- What is decided when a task enters. -/
theorem admits {stream : TcpStream} {outside : Graph.Outside} {q : IpAddr} {pushed judged : Instant} {stage : Stage}
    (decided : (s.fail2ban.connect q pushed judged).1 = .Ok ∧ stage = .Starting ((s.admitted outside).session stream) ∨
      (s.fail2ban.connect q pushed judged).1 = .Reject ∧ stage = .Closing (s.admitted outside).session_config.handler) :
    (s.fail2ban.connect q pushed judged).1 = .Ok ∨ stage.active = false := by
  rcases decided with ⟨accepted,-⟩ | ⟨-,rfl⟩
  · exact .inl accepted
  · exact .inr rfl

variable [Base64] {a : ServerAction} {as : List ServerAction}

theorem Window.step (window : Window p opened before s) (sound : s.gate.Sound) (exact : s'.gate.Exact)
    (timely : s.Timely a) (stepped : s.step a = some s') (inside : elapsed opened s'.clock ≤ s.fail2ban.max_age) :
    Window p opened before s' := by
  cases steps_of_step stepped with
  | accept stream outside peer_addr pushed judged stage later after decided =>
    exact window.accept later after (timely.2 stream outside peer_addr pushed judged rfl).1 inside (admits decided) rfl exact
  | handle i now task stage events here resumed later =>
    obtain ⟨active,rejects⟩ := Stage.resume_rejects resumed
    exact window.update here later active rejects
  | timeout i now task stage here cancelled later due =>
    exact window.update here later (Stage.active_of_cancel cancelled) (.inl rfl)
  | disconnect i now task handler here closing later => exact window.disconnect sound here closing later rfl
  | wait now later => exact ⟨Nat.le_trans window.later later,window.pending,window.bounded⟩

theorem clock_le (stepped : s.step a = some s') : s.clock ≤ s'.clock := by
  cases steps_of_step stepped with
  | accept stream outside peer_addr pushed judged stage later after decided => exact Nat.le_trans later after
  | handle i now task stage events here resumed later => exact later
  | timeout i now task stage here cancelled later due => exact later
  | disconnect i now task handler here closing later => exact later
  | wait now later => exact later

/-- The peer has at most as many sessions that can reject a login as it may have connections. -/
theorem active_le_step (capacity : s.counted p Stage.active ≤ s.fail2ban.max_connections) (exact : s'.gate.Exact)
    (stepped : s.step a = some s') : s'.counted p Stage.active ≤ s'.fail2ban.max_connections := by
  have replaced {i : Nat} {task : Task} {stage : Stage} {now : Instant} {events : List (Event ProxyEffect)}
      (here : s.tasks[i]? = some task) (active : task.stage.active = true)
      (rejects : events.countP is_reject = 0 ∨ events.countP is_reject = 1 ∧ stage.unproductive = true) :
      (s.update i { task with stage := stage } now events).counted p Stage.active ≤ s.fail2ban.max_connections := by
    have counts := counted_update (p := p) Stage.active here { task with stage := stage } now events
    have fewer := (weight_update p active rejects).1
    omega
  cases steps_of_step stepped with
  | accept stream outside q pushed judged stage later after decided =>
    have limit := (Fail2Ban.connect_limits s.fail2ban q pushed judged).1
    rcases active_accept (p := p) 0 (admits decided) rfl exact with same | ⟨within,-⟩
    · simp only [same,limit]
      exact capacity
    · simp only [limit]
      omega
  | handle i now task stage events here resumed later =>
    obtain ⟨active,rejects⟩ := Stage.resume_rejects resumed
    exact replaced here active rejects
  | timeout i now task stage here cancelled later due =>
    exact replaced here (Stage.active_of_cancel cancelled) (.inl rfl)
  | disconnect i now task handler here closing later =>
    have counts := countP_leave (fun task : Task => decide (task.peer_addr = p) && task.stage.active) here
    have limit := (Fail2Ban.disconnect_limits s.fail2ban task.peer_addr now handler.productive).1
    simp only [counted,limit] at capacity ⊢
    omega
  | wait now later => exact capacity

variable {config : Config ProxyHandler} {max_connections max_fails : Nat} {max_age : Duration} {clock : Instant}

theorem sound_of_run (run : Run step Timely (start config (.new max_connections max_fails max_age) clock) as s) :
    s.gate.Sound := by
  obtain ⟨bs,gate⟩ := server_gate run
  exact Gate.sound_of_run gate

theorem active_le (run : Run step Timely (start config (.new max_connections max_fails max_age) clock) as s)
    (p : IpAddr) : s.counted p Stage.active ≤ s.fail2ban.max_connections := by
  refine run.preserves (I := fun _ s => s.counted p Stage.active ≤ s.fail2ban.max_connections) (by simp [start,counted]) ?_
  intro as s a s' run timely stepped capacity
  exact active_le_step capacity (sound_of_run (run.next timely stepped)).exact stepped

end Server

/-- However the sessions of all peers interleave and whatever their clients send, within
    `max_age` from any state on, and so from any time on, at most
    `max_fails + max_connections` logins of a peer's sessions are rejected, if no
    session lasts for more than `max_age`. -/
theorem rejections_bounded [Argon2] [Base64] (config : Config ProxyHandler) (max_connections max_fails : Nat)
    (max_age : Duration) (clock : Instant) (p : IpAddr) {before within : List ServerAction} {s₀ s : Server}
    (reached : Run Server.step Server.Timely (.start config (.new max_connections max_fails max_age) clock) before s₀)
    (window : Run Server.step Server.Timely s₀ within s) (inside : elapsed s₀.clock s.clock ≤ max_age) :
    s.rejections p ≤ s₀.rejections p + (max_fails + max_connections) := by
  have limits {as : List ServerAction} {s : Server} (run : Run Server.step Server.Timely
      (.start config (.new max_connections max_fails max_age) clock) as s) :
      s.fail2ban.max_connections = max_connections ∧ s.fail2ban.max_fails = max_fails ∧
        s.fail2ban.max_age = max_age := by
    obtain ⟨bs,gate⟩ := Server.server_gate run
    exact Gate.limits_of_run gate
  have init : Server.Window p s₀.clock (s₀.rejections p) s₀ := by
    have capacity := Server.active_le reached p
    exact ⟨Nat.le_refl _,by omega,by omega⟩
  have lasting : elapsed s₀.clock s.clock ≤ max_age → Server.Window p s₀.clock (s₀.rejections p) s := by
    refine window.preserves (I := fun _ s => elapsed s₀.clock s.clock ≤ max_age →
      Server.Window p s₀.clock (s₀.rejections p) s) (fun _ => init) ?_
    intro as s a s' run timely stepped earlier inside
    have here := reached.trans run
    have age := (limits here).2.2
    have past := Server.clock_le stepped
    have sound' := Server.sound_of_run (here.next timely stepped)
    exact (earlier (Nat.le_trans (Nat.sub_le_sub_right past s₀.clock) inside)).step (Server.sound_of_run here)
      sound'.exact timely stepped (age ▸ inside)
  have bounded := (lasting inside).bounded
  obtain ⟨connections,fails,-⟩ := limits (reached.trans window)
  omega

section
attribute [local instance] Sample.argon2

/-- The engine on the credentials "\\0a\\0c". -/
local instance sampleDecoder : Base64 where
  encode _ := []
  decode text := if text = ascii "AGEAYw==" then some [0,97,0,99] else none

def sampleGuesser : TcpStream := Sample.sends "EHLO x\r\nAUTH PLAIN AGEAYw==\r\n"

/-- A server on which logins are allowed without TLS. -/
def sampleListen : Server :=
  .start { Config.new (Sample.config .Always).handler with session_config := Sample.config .Always }
    (.new 1 1 (from_secs 1800)) 0

def sampleGuesses : List ServerAction :=
  [.Accept sampleGuesser Sample.outside samplePeer 0 0,.Handle 0 1,.Handle 0 2,.Handle 0 3,.Disconnect 0 4,
    .Accept sampleGuesser Sample.outside samplePeer 5 5,.Handle 0 6,.Handle 0 7,.Handle 0 8,.Disconnect 0 9]

theorem rejections_bounded_sample : ∃ s, follow Server.step Server.Timely sampleListen sampleGuesses = some s ∧
    s.rejections samplePeer = 2 ∧ s.rejections samplePeer ≤ sampleListen.rejections samplePeer + (1 + 1) := by
  have ran : (follow Server.step Server.Timely sampleListen sampleGuesses).map
      (fun s => (s.rejections samplePeer,s.clock)) = some (2,9) := by
    decide +kernel
  obtain ⟨s,followed,counted⟩ := Option.map_eq_some_iff.mp ran
  obtain ⟨two,time⟩ := Prod.mk.inj counted
  refine ⟨s,followed,two,?_⟩
  exact rejections_bounded _ 1 1 (from_secs 1800) 0 samplePeer .start (run_of_follow .start _ followed)
    (by rw [time]; decide)

end
end PostGraph
