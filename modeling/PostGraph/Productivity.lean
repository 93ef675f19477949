import PostGraph.BruteForce
import PostGraph.Tasks

/-!
When fail2ban is told of a session. The handler keeps a flag for it, which
`on_mail` sets and a rejected login clears; it is false at the end exactly if the
session handed over no mail or had a login rejected (`handle_productive`). What
`on_disconnect` records follows from what the session did, and who is served from
what is recorded.
-/
namespace PostGraph
open Std.Do Programs Runs Session
set_option mvcgen.warning false
set_option autoImplicit false

/-- A mail that is handed over to the graph API. -/
def is_sending : Event ProxyEffect → Bool
  | .Effect (.SendMail _ _) => true
  | _ => false

/-- A mail was handed over, and no login was rejected. -/
def productive (trace : List (Event ProxyEffect)) : Bool := trace.any is_sending && !trace.any is_reject

theorem quiet_unsent {e : Event ProxyEffect} (quiet : e.Quiet) : is_sending e = false ∧ is_reject e = false := by
  cases quiet <;> exact ⟨rfl,rfl⟩

theorem any_quiet {events : List (Event ProxyEffect)} (quiet : ∀ e ∈ events, e.Quiet) :
    events.any is_sending = false ∧ events.any is_reject = false := by
  constructor
  · rw [List.any_eq_false]
    intro e member
    simp [(quiet_unsent (quiet e member)).1]
  · rw [List.any_eq_false]
    intro e member
    simp [(quiet_unsent (quiet e member)).2]

section
variable [Argon2]

/-- The handler of a task. -/
def Stage.handler : Stage → ProxyHandler
  | Starting session => session.config.handler
  | Serving session => session.config.handler
  | Closing handler => handler

theorem Stage.handler_after (result : EStateM.Result SessionError (Session ProxyHandler ProxyEffect) (Option Unit)) :
    (Stage.after result).handler = (final result).config.handler := by
  cases result with
  | error err t => rfl
  | ok ended t => cases ended <;> rfl

theorem Stage.handler_cancel {stage stage' : Stage} (cancelled : stage.cancel = some stage') :
    stage'.handler = stage.handler := by
  cases stage with
  | Starting session => exact Option.some.inj cancelled ▸ rfl
  | Serving session => exact Option.some.inj cancelled ▸ rfl
  | Closing handler => simp [Stage.cancel] at cancelled

variable [Base64]

theorem on_mail_productive {handler : ProxyHandler} {mail : Mail} {called : Called ProxyHandler ProxyEffect Unit}
    (ran : handler.on_mail mail = called) :
    called.handler.productive = (handler.productive || (called.effects.map Event.Effect).any is_sending) := by
  unfold ProxyHandler.on_mail at ran
  cases permitted : handler.permits mail.sender with
  | true =>
    obtain rfl := by simpa [permitted] using ran
    simp [is_sending]
  | false =>
    obtain rfl := by simpa [permitted] using ran
    simp

/-- What a turn does to the flag of the handler, whichever way it ends. -/
theorem step_productive {v v' : View ProxyHandler} {line : Bytes} {events : List (Event ProxyEffect)} {outcome : Outcome}
    (step : Step v line events outcome v') : v'.config.handler.productive =
      ((v.config.handler.productive || events.any is_sending) && !events.any is_reject) := by
  cases step with
  | captured data more fits => simp
  | delivered called data done ran => simp [on_mail_productive ran,is_sending,is_reject]
  | undelivered called v' data done ran config =>
    simp [config,on_mail_productive ran,is_sending,is_reject]
  | refused handshake response command other exchanged code =>
    obtain ⟨unsent,accepted⟩ := any_quiet fun e member => (exchanged e member).quiet
    simp [unsent,accepted,is_sending,is_reject]
  | greeted domain extended called responses parsed phase ran accepted codes =>
    obtain rfl := ran
    obtain ⟨unsent,accepted⟩ := any_quiet fun e member => (codes e member).quiet (by decide)
    simp [Handler.on_hello,unsent,accepted,is_sending,is_reject]
  | ungreeted domain extended called responses v' parsed phase ran codes config =>
    obtain rfl := ran
    obtain ⟨unsent,accepted⟩ := any_quiet fun e member => (codes e member).quiet (by decide)
    simp [config,Handler.on_hello,unsent,accepted,is_sending,is_reject]
  | informed command responses parsed which phase codes =>
    obtain ⟨unsent,accepted⟩ := any_quiet fun e member => (codes e member).quiet (by decide)
    simp [unsent,accepted,is_sending,is_reject]
  | upgraded parsed phase supported => simp [is_sending,is_reject]
  | authenticated method initial handshake username password called parsed phase permitted exchanged ran accepted =>
    obtain ⟨unsent,quiet⟩ := any_quiet fun e member => (exchanged e member).quiet
    obtain ⟨silent,⟨-,handler,-⟩ | ⟨rejected,-⟩⟩ := ProxyHandler.on_login_ok ran
    · simp [silent,handler,accepted,unsent,quiet,is_sending,is_reject]
    · simp [rejected] at accepted
  | unauthenticated method initial handshake last username password called v' parsed phase permitted exchanged ran
      answer config =>
    obtain ⟨unsent,quiet⟩ := any_quiet fun e member => (exchanged e member).quiet
    have after : last.any is_sending = false ∧ last.any is_reject = false := by
      rcases answer with rfl | ⟨rfl,-⟩ <;> exact ⟨rfl,rfl⟩
    obtain ⟨silent,⟨accepted,handler,-⟩ | ⟨rejected,handler⟩⟩ := ProxyHandler.on_login_ok ran
    · simp [config,silent,handler,accepted,unsent,quiet,after,is_sending,is_reject]
    · simp [config,silent,handler,rejected,is_reject]
  | mail sender parsed phase authenticated => simp [is_sending,is_reject]
  | recipient recipient parsed phase authenticated => simp [is_sending,is_reject]
  | data parsed phase authenticated => simp [is_sending,is_reject]
  | reset called parsed phase ran =>
    obtain rfl := ran
    simp [Handler.on_reset,ProxyHandler.on_reset,is_sending,is_reject]
  | quit parsed phase => simp [is_sending,is_reject]
  | dropped events v' quiet config early =>
    obtain ⟨unsent,accepted⟩ := any_quiet quiet
    simp [config,unsent,accepted]

/-- What the flag says of a session, and that a session goes on as long as no login was
    rejected. -/
theorem productive_conclusion : Conclusion
    (fun (v : View ProxyHandler) trace => v.config.handler.productive = trace.any is_sending ∧ trace.any is_reject = false)
    (fun v trace => v.config.handler.productive = productive trace) where
  always := by
    rintro v trace ⟨flag,accepted⟩
    simp [productive,flag,accepted]
  step := by
    rintro v trace line events outcome v' ⟨flag,accepted⟩ step
    have changed := step_productive step
    have received : is_sending (.Received line) = false ∧ is_reject (.Received line) = false := ⟨rfl,rfl⟩
    refine ⟨by simp [productive,changed,flag,accepted,received],?_⟩
    rintro rfl
    have none : events.any is_reject = false := by
      rcases step_rejects step with none | ⟨-,closed,-⟩
      · simpa [List.any_eq_false,List.countP_eq_zero] using none
      · simp at closed
    simp [changed,flag,accepted,received,none]

/-- The flag of the handler, however long a session is watched and however it ends. -/
theorem handle_productive (s : Session ProxyHandler ProxyEffect) (fresh : s.trace = [])
    (unset : s.config.handler.productive = false) (n : Nat) :
    (final (handle n s)).config.handler.productive = productive (final (handle n s)).trace := by
  refine productive_conclusion.handle s ?_ ?_ n
  · rw [fresh]
    exact unset
  · rw [fresh]
    exact ⟨unset,rfl⟩

/-- The flag of a task's handler tells of its session alone. -/
theorem Alone.productive {session : Session ProxyHandler ProxyEffect} {stage : Stage} {events : List (Event ProxyEffect)}
    (alone : Alone session stage events) (fresh : session.trace = [])
    (unset : session.config.handler.productive = false) :
    stage.handler.productive = PostGraph.productive events := by
  induction alone with
  | waits => exact unset
  | handled n => rw [Stage.handler_after,handle_productive session fresh unset n]
  | cut _ cancelled ih => rw [Stage.handler_cancel cancelled,ih]

/-- In every run of a server, the end of a session counts as a fail on the record of its peer,
    if there is one, unless the session, which runs as if it were alone, handed over a
    mail and had no login rejected. -/
theorem fail_recorded_iff (config : Config ProxyHandler) (fail2ban : Fail2Ban) (clock : Instant)
    (ok : Server → ServerAction → Prop) {actions : List ServerAction} {s s' : Server}
    (run : Run Server.step ok (.start config fail2ban clock) actions s) (i : Nat) (now : Instant) (task : Task)
    (here : s.tasks[i]? = some task) (stepped : s.step (.Disconnect i now) = some s') :
    ∃ id connection events, (Server.numbers actions).1[i]? = some id ∧
      ((Server.start config fail2ban clock).connections actions)[id]? = some connection ∧
      connection.peer_addr = task.peer_addr ∧ Alone (Server.new_session config connection) task.stage events ∧
      (events.map fun e => (task.peer_addr,e)).Sublist s.log ∧
      (∀ info, s.fail2ban.peers task.peer_addr = some info → ∃ info', s'.fail2ban.peers task.peer_addr = some info' ∧
        info'.fails = if productive events then info.fails else (info.fails + 1) % U32_VALUES) ∧
      (s.fail2ban.peers task.peer_addr = none → s'.fail2ban.peers task.peer_addr = none) := by
  obtain ⟨id,c,number,accepted,peer,reaches,logged⟩ := served_alone run here
  refine ⟨id,c.toAccepted,c.events,number,accepted,peer,reaches.alone,?_,?_⟩
  · simpa [Conversation.logged,peer] using logged
  · cases Server.steps_of_step stepped with
    | disconnect _ _ task' handler there closing later =>
      obtain rfl : task' = task := Option.some.inj (there.symm.trans here)
      have flag : handler.productive = productive c.events := by
        simpa [closing,Stage.handler] using reaches.alone.productive rfl rfl
      have records := Fail2Ban.disconnect_peers s.fail2ban task'.peer_addr task'.peer_addr now handler.productive
      rw [if_pos rfl] at records
      constructor
      · intro info known
        rw [known,Option.map_some] at records
        exact ⟨_,records,by rw [Fail2Ban.popped_info,flag]⟩
      · intro unknown
        rw [unknown,Option.map_none] at records
        exact records

/-! ### Who is served -/

/-- If no session outlasts the records, a peer never has more sessions served at once than
    it may have connections, and a connection of it is served exactly if with it its
    tasks, those of rejected connections and of sessions that are over included, and
    the fails on its record are within the limits. -/
theorem served_within_limits (config : Config ProxyHandler) (max_connections max_fails : Nat) (max_age : Duration)
    (clock : Instant) {actions : List ServerAction} {s s' : Server}
    (run : Run Server.step Server.Timely (.start config (.new max_connections max_fails max_age) clock) actions s)
    (stream : TcpStream) (outside : Graph.Outside) (p : IpAddr) (pushed judged : Instant)
    (timely : s.Timely (.Accept stream outside p pushed judged))
    (stepped : s.step (.Accept stream outside p pushed judged) = some s') :
    (∀ q, s.counted q Stage.active ≤ max_connections) ∧
      (s'.tasks = s.tasks ++ [⟨p,pushed,.Starting ((s.admitted outside).session stream)⟩] ↔
        (s'.tasks.countP fun task => task.peer_addr = p) ≤ max_connections ∧
          ∃ info, s'.fail2ban.peers p = some info ∧ info.fails ≤ max_fails) := by
  have limits : s.fail2ban.max_connections = max_connections ∧ s.fail2ban.max_fails = max_fails := by
    obtain ⟨_,gate⟩ := Server.server_gate run
    exact ⟨(Gate.limits_of_run gate).1,(Gate.limits_of_run gate).2.1⟩
  have exact : s'.gate.Exact := (Server.sound_of_run (run.next timely stepped)).exact
  have sessions : s'.gate.open_sessions p = s'.tasks.countP fun task => task.peer_addr = p := List.countP_map
  refine ⟨fun q => limits.1 ▸ Server.active_le run q,?_⟩
  have counted (info : PeerInfo) (known : s'.fail2ban.peers p = some info) :
      info.connections = s'.tasks.countP fun task => task.peer_addr = p := (exact.counts p info known).trans sessions
  cases Server.steps_of_step stepped with
  | accept _ _ _ _ _ stage later after decided =>
    have accepts := Fail2Ban.connect_accepts s.fail2ban p pushed judged
    rw [limits.1,limits.2] at accepts
    constructor
    · intro served
      obtain rfl : stage = .Starting ((s.admitted outside).session stream) := by simpa using served
      have accepted : (s.fail2ban.connect p pushed judged).1 = .Ok := by
        rcases decided with ⟨accepted,-⟩ | ⟨-,closing⟩
        · exact accepted
        · simp at closing
      obtain ⟨info,known,fails,connections⟩ := accepts.mp accepted
      exact ⟨counted info known ▸ connections,info,known,fails⟩
    · rintro ⟨connections,info,known,fails⟩
      have accepted := accepts.mpr ⟨info,known,fails,counted info known ▸ connections⟩
      rcases decided with ⟨-,rfl⟩ | ⟨rejected,-⟩
      · rfl
      · simp [accepted] at rejected

end

section
attribute [local instance] Sample.argon2 Sample.base64

/-- The session of the one who may not send is over. -/
theorem fail_recorded_iff_sample : ∃ (s s' : Server) (task : Task), ∃ connection events info info',
    follow Server.step (fun _ _ => True) (.start sampleConfig (.new 1 1 (from_secs 1800)) 0) (sampleSchedule.take 11) =
      some s ∧
    s.tasks[1]? = some task ∧ s.step (.Disconnect 1 5) = some s' ∧
    Alone (Server.new_session sampleConfig connection) task.stage events ∧
    (events.map fun (e : Event ProxyEffect) => (task.peer_addr,e)).Sublist s.log ∧
    s.fail2ban.peers sampleOther = some info ∧
    s'.fail2ban.peers sampleOther = some info' ∧
    info'.fails = if productive events then info.fails else (info.fails + 1) % U32_VALUES := by
  have ran : ((follow Server.step (fun _ _ => True) (.start sampleConfig (.new 1 1 (from_secs 1800)) 0)
      (sampleSchedule.take 11)).bind fun (s : Server) => (s.step (.Disconnect 1 5)).bind fun _ =>
        (s.tasks[1]?).map fun (task : Task) => (task.peer_addr,(s.fail2ban.peers sampleOther).isSome)) =
      some (sampleOther,true) := by decide +kernel
  obtain ⟨s,followed,ran⟩ := Option.bind_eq_some_iff.mp ran
  obtain ⟨s',stepped,ran⟩ := Option.bind_eq_some_iff.mp ran
  obtain ⟨task,here,same⟩ := Option.map_eq_some_iff.mp ran
  obtain ⟨peer,recorded⟩ := Prod.mk.inj same
  obtain ⟨info,known⟩ := Option.isSome_iff_exists.mp recorded
  obtain ⟨_,connection,events,-,-,-,alone,logged,fails,-⟩ :=
    fail_recorded_iff sampleConfig _ 0 _ (run_of_follow .start _ followed) 1 5 task here stepped
  obtain ⟨info',known',counted⟩ := fails info (peer ▸ known)
  exact ⟨s,s',task,connection,events,info,info',followed,here,stepped,alone,logged,known,peer ▸ known',counted⟩

/-- With one connection at a time, the second one is not served before the first is over. -/
theorem served_within_limits_sample : ∃ s s',
    follow Server.step Server.Timely sampleListen [.Accept sampleGuesser Sample.outside samplePeer 0 0] = some s ∧
    s.step (.Accept sampleGuesser Sample.outside samplePeer 1 1) = some s' ∧ (∀ q, s.counted q Stage.active ≤ 1) ∧
    (s'.tasks = s.tasks ++ [⟨samplePeer,1,.Starting ((s.admitted Sample.outside).session sampleGuesser)⟩] ↔
      (s'.tasks.countP fun task => task.peer_addr = samplePeer) ≤ 1 ∧
        ∃ info, s'.fail2ban.peers samplePeer = some info ∧ info.fails ≤ 1) := by
  have ran : ((follow Server.step Server.Timely sampleListen [.Accept sampleGuesser Sample.outside samplePeer 0 0]).bind
      fun s => (s.step (.Accept sampleGuesser Sample.outside samplePeer 1 1)).map fun _ =>
        decide (s.Timely (.Accept sampleGuesser Sample.outside samplePeer 1 1))) = some true := by decide +kernel
  obtain ⟨s,followed,ran⟩ := Option.bind_eq_some_iff.mp ran
  obtain ⟨s',stepped,timely⟩ := Option.map_eq_some_iff.mp ran
  refine ⟨s,s',followed,stepped,?_⟩
  exact served_within_limits _ 1 1 (from_secs 1800) 0 (run_of_follow .start _ followed) sampleGuesser
    Sample.outside samplePeer 1 1
    (of_decide_eq_true timely) stepped

end
end PostGraph
