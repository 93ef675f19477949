import PostGraph.Alike
import PostGraph.Lib.Interleavings
import PostGraph.SenderBinding
import PostGraph.Server

/-!
The tasks of a server do not interfere. The server only decides when a session
goes on and when it is cut off; what it does until then is what `Session::handle`
does on the connection alone (`sessions_run_alone`). So what is known of single
sessions holds of the log of a server, whatever happens between two turns of a
session.
-/
namespace PostGraph
open Interleavings Programs Runs Traces
set_option autoImplicit false

namespace Session
variable {H Effect : Type} [Handler H Effect] [Base64] {n : Nat} {s t : Session H Effect}

/-- A session that is watched on. -/
theorem loop_add (m : Nat) (ran : loop n s = .ok none t) : loop (n + m) s = loop m t := by
  induction n generalizing s with
  | zero =>
    obtain rfl : s = t := by simpa [loop,pure,EStateM.pure] using ran
    rw [Nat.zero_add]
  | succ n ih =>
    have next : n + 1 + m = n + m + 1 := by omega
    rw [next]
    simp only [loop,bind,EStateM.bind] at ran ⊢
    cases turned : turn s with
    | error err u => simp [turned] at ran
    | ok control u =>
      cases control with
      | Return => simp [turned,pure,EStateM.pure] at ran
      | Continue =>
        simp only [turned] at ran ⊢
        exact ih ran

theorem handle_add (m : Nat) (ran : handle n s = .ok none t) : handle (n + m) s = loop m t := by
  simp only [handle,bind,EStateM.bind,run_get] at ran ⊢
  cases replied : reply (.banner s.config.server_name) s with
  | error err u => simp [replied] at ran
  | ok _ u =>
    simp only [replied] at ran ⊢
    exact loop_add m ran

end Session

/-- A connection that the server accepted. -/
structure Accepted where
  stream : TcpStream
  /-- What its session is answered by the graph API. -/
  outside : Graph.Outside
  peer_addr : IpAddr
  /-- What `on_connect` answered. -/
  result : ConnectResult

/-- A connection, and what was done for it. -/
structure Conversation extends Accepted where
  events : List (Event ProxyEffect)

/-- How the log tells of it. -/
def Conversation.logged (self : Conversation) : List (IpAddr × Event ProxyEffect) :=
  self.events.map fun e => (self.peer_addr,e)

section
variable [Argon2] [Base64]

/-- The stage of a task whose session has done so much of `Session::handle`. -/
def Stage.after : EStateM.Result SessionError (Session ProxyHandler ProxyEffect) (Option Unit) → Stage
  | .ok none session => .Serving session
  | .ok (some ()) session => .Closing session.config.handler
  | .error _ session => .Closing session.config.handler

/-- The stages a task gets to with its session alone, and what the session did. -/
inductive Alone (session : Session ProxyHandler ProxyEffect) : Stage → List (Event ProxyEffect) → Prop
  | waits : Alone session (.Starting session) []
  | handled (n : Nat) : Alone session (.after (Session.handle n session)) (final (Session.handle n session)).trace
  | cut {stage stage' : Stage} {events : List (Event ProxyEffect)} (so_far : Alone session stage events)
      (cancelled : stage.cancel = some stage') : Alone session stage' events

variable {session : Session ProxyHandler ProxyEffect} {stage stage' : Stage} {events news : List (Event ProxyEffect)}

/-- A session alone has done what `Session::handle` does in a number of turns, or has not begun. -/
theorem Alone.handles (alone : Alone session stage events) :
    events = [] ∨ ∃ n, events = (final (Session.handle n session)).trace := by
  induction alone with
  | waits => exact .inl rfl
  | handled n => exact .inr ⟨n,rfl⟩
  | cut _ _ ih => exact ih

/-- What a task is in the middle of is all that its session did. -/
theorem Alone.serving {t : Session ProxyHandler ProxyEffect} (alone : Alone session stage events)
    (serving : stage = .Serving t) : ∃ n, Session.handle n session = .ok none t ∧ events = t.trace := by
  cases alone with
  | waits => simp at serving
  | handled n =>
    cases ran : Session.handle n session with
    | error err u => simp [ran,Stage.after] at serving
    | ok ended u =>
      cases ended with
      | some _ => simp [ran,Stage.after] at serving
      | none =>
        obtain rfl : u = t := by simpa [ran,Stage.after] using serving
        exact ⟨n,ran,rfl⟩
  | @cut stage _ _ _ cancelled =>
    subst serving
    cases stage <;> simp [Stage.cancel] at cancelled

theorem Alone.starting {t : Session ProxyHandler ProxyEffect} (alone : Alone session stage events)
    (starting : stage = .Starting t) : t = session ∧ events = [] := by
  cases alone with
  | waits => exact ⟨by simpa using starting.symm,rfl⟩
  | handled n =>
    cases ran : Session.handle n session with
    | error err u => simp [ran,Stage.after] at starting
    | ok ended u => cases ended <;> simp [ran,Stage.after] at starting
  | @cut stage _ _ _ cancelled =>
    subst starting
    cases stage <;> simp [Stage.cancel] at cancelled

/-- Going on with a turn of the session is going on with `Session::handle`. -/
theorem Alone.resume (alone : Alone session stage events) (fresh : session.trace = [])
    (resumed : stage.resume = some (stage',news)) : Alone session stage' (events ++ news) := by
  cases stage with
  | Starting t =>
    obtain ⟨rfl,rfl⟩ := alone.starting rfl
    have begins : (stage',news) = (.after (Session.handle 0 t),(final (Session.handle 0 t)).trace) := by
      rw [← Option.some.inj resumed,Stage.proceed,Stage.greet,Session.handle]
      simp only [bind,EStateM.bind,run_get,pure,EStateM.pure,Session.loop]
      cases Session.reply (.banner t.config.server_name) t <;> simp [Stage.after,final,fresh]
    obtain ⟨rfl,rfl⟩ := Prod.mk.inj begins
    exact .handled 0
  | Serving t =>
    obtain ⟨n,ran,rfl⟩ := alone.serving rfl
    have next := Session.handle_add 1 ran
    have grown := List.prefix_iff_eq_append.mp (loop_extends 1 t)
    have goes_on : stage' = .after (Session.loop 1 t) ∧ news = (final (Session.loop 1 t)).trace.drop t.trace.length := by
      rw [Stage.resume,Option.some.injEq,Stage.proceed] at resumed
      simp only [Session.loop,bind,EStateM.bind]
      cases turned : Session.turn t with
      | error err u => simpa [turned,Stage.after,final,eq_comm] using resumed
      | ok control u => cases control <;> simpa [turned,Stage.after,final,eq_comm,pure,EStateM.pure] using resumed
    obtain ⟨rfl,rfl⟩ := goes_on
    rw [grown,← next]
    exact .handled (n + 1)
  | Closing handler => simp [Stage.resume] at resumed

/-- The connection that an action accepts, with the answer of `on_connect`. -/
def ServerAction.connection (s : Server) : ServerAction → List Accepted
  | Accept stream outside peer_addr pushed judged =>
    [⟨stream,outside,peer_addr,(s.fail2ban.connect peer_addr pushed judged).1⟩]
  | _ => []

/-- The connections that are accepted as the actions are taken, in their order. -/
def Server.connections (s : Server) : List ServerAction → List Accepted
  | [] => []
  | a :: as => a.connection s ++ (s.step a).elim [] fun s' => s'.connections as

theorem Server.connections_append {s s' : Server} {as bs : List ServerAction} (ran : exec step s as = some s') :
    s.connections (as ++ bs) = s.connections as ++ s'.connections bs := by
  induction as generalizing s with
  | nil =>
    obtain rfl : s = s' := by simpa [exec] using ran
    rfl
  | cons a as ih =>
    cases stepped : s.step a with
    | none => simp [exec,stepped] at ran
    | some t => simp [connections,stepped,ih (by simpa [exec,stepped] using ran)]

/-- What an action makes of the numbers of the connections that the tasks serve, and of the
    number of the connection that is accepted next. -/
def ServerAction.numbers (before : List Nat × Nat) : ServerAction → List Nat × Nat
  | Accept _ _ _ _ _ => (before.1 ++ [before.2],before.2 + 1)
  | Disconnect i _ => (before.1.eraseIdx i,before.2)
  | _ => before

/-- The numbers of the connections that the tasks serve after some actions, in the order of
    the tasks, and how many connections were accepted. -/
def Server.numbers (actions : List ServerAction) : List Nat × Nat := actions.foldl ServerAction.numbers ([],0)

/-- The session of a connection at a server with this configuration. -/
def Server.new_session (config : Config ProxyHandler) (connection : Accepted) : Session ProxyHandler ProxyEffect :=
  let handler : ProxyHandler := { config.session_config.handler with productive := false }
  { config with session_config.handler := handler.with_outside connection.outside }.session connection.stream

/-- A conversation that got to a stage: a rejected connection is not served at all. -/
structure Conversation.Reaches (config : Config ProxyHandler) (c : Conversation) (stage : Stage) : Prop where
  alone : Alone (Server.new_session config c.toAccepted) stage c.events
  rejected : c.result = .Reject → c.events = [] ∧ ∃ handler, stage = .Closing handler

/-- A task and the conversation that it is for. -/
def Serves (config : Config ProxyHandler) (cs : List Conversation) (task : Task) (id : Nat) : Prop :=
  ∃ c, cs[id]? = some c ∧ c.peer_addr = task.peer_addr ∧ c.Reaches config task.stage

/-- What the log and the tasks of a server are made of, given the connections it accepted and
    the numbers of those that its tasks serve: the conversations, and the tasks with their
    numbers. -/
structure Tells (config : Config ProxyHandler) (connections : List Accepted) (numbers : List Nat × Nat) (s : Server)
    (cs : List Conversation) (served : List (Task × Nat)) : Prop where
  kept : s.config = config
  connections : cs.map Conversation.toAccepted = connections
  numbers : (served.map Prod.snd,cs.length) = numbers
  log : Interleaves (cs.map Conversation.logged) s.log
  reaches : ∀ c ∈ cs, ∃ stage, c.Reaches config stage
  tasks : served.map Prod.fst = s.tasks
  distinct : (served.map Prod.snd).Nodup
  serves : ∀ entry ∈ served, Serves config cs entry.1 entry.2

variable {config : Config ProxyHandler} {connections : List Accepted} {numbers : List Nat × Nat} {s s' : Server}
  {cs : List Conversation} {served : List (Task × Nat)} {task : Task} {id : Nat}

theorem Conversation.Reaches.resume {c : Conversation} (reaches : c.Reaches config stage)
    (resumed : stage.resume = some (stage',news)) : { c with events := c.events ++ news }.Reaches config stage' := by
  refine ⟨reaches.alone.resume rfl resumed,?_⟩
  intro rejected
  obtain ⟨-,handler,rfl⟩ := reaches.rejected rejected
  simp [Stage.resume] at resumed

theorem Conversation.Reaches.cancel {c : Conversation} (reaches : c.Reaches config stage)
    (cancelled : stage.cancel = some stage') : c.Reaches config stage' := by
  refine ⟨reaches.alone.cut cancelled,?_⟩
  intro rejected
  obtain ⟨-,handler,rfl⟩ := reaches.rejected rejected
  simp [Stage.cancel] at cancelled

theorem Serves.enter (serves : Serves config cs task id) (c : Conversation) : Serves config (cs ++ [c]) task id := by
  obtain ⟨d,here,rest⟩ := serves
  obtain ⟨inside,-⟩ := List.getElem?_eq_some_iff.mp here
  exact ⟨d,by rw [List.getElem?_append_left inside,here],rest⟩

theorem Serves.other {id' : Nat} (serves : Serves config cs task id) (other : id' ≠ id) (c : Conversation) :
    Serves config (cs.set id' c) task id := by
  obtain ⟨d,here,rest⟩ := serves
  exact ⟨d,by rw [List.getElem?_set_ne other,here],rest⟩

theorem Tells.accept (tells : Tells config connections numbers s cs served) (connection : Accepted) {pushed : Instant}
    (decided : connection.result = .Ok ∧ stage = .Starting ((s.admitted connection.outside).session connection.stream) ∨
      connection.result = .Reject ∧ stage = .Closing (s.admitted connection.outside).session_config.handler)
    (log : s'.log = s.log) (kept : s'.config = s.config)
    (entered : s'.tasks = s.tasks ++ [⟨connection.peer_addr,pushed,stage⟩]) :
    Tells config (connections ++ [connection]) (numbers.1 ++ [numbers.2],numbers.2 + 1) s' (cs ++ [⟨connection,[]⟩])
      (served ++ [(⟨connection.peer_addr,pushed,stage⟩,cs.length)]) := by
  have session : (s.admitted connection.outside).session connection.stream = Server.new_session config connection := by
    rw [Server.admitted,tells.kept]
    rfl
  have begins : (⟨connection,[]⟩ : Conversation).Reaches config stage := by
    rcases decided with ⟨accepted,rfl⟩ | ⟨-,rfl⟩
    · rw [session]
      exact ⟨.waits,by simp [accepted]⟩
    · exact ⟨.cut .waits (by rw [← session]; rfl),fun _ => ⟨rfl,_,rfl⟩⟩
  refine ⟨kept.trans tells.kept,?_,?_,?_,?_,by simp [tells.tasks,entered],?_,?_⟩
  · rw [List.map_append,tells.connections]
    rfl
  · rw [← tells.numbers]
    simp
  · rw [log]
    simpa [Conversation.logged] using tells.log.enter
  · intro c member
    rcases List.mem_append.mp member with before | new
    · exact tells.reaches c before
    · obtain rfl := List.mem_singleton.mp new
      exact ⟨stage,begins⟩
  · rw [List.map_append,List.map_singleton,List.nodup_append]
    refine ⟨tells.distinct,List.nodup_singleton _,?_⟩
    intro id member id' new
    obtain ⟨entry,inside,rfl⟩ := List.mem_map.mp member
    obtain ⟨c,here,-⟩ := tells.serves entry inside
    obtain ⟨bound,-⟩ := List.getElem?_eq_some_iff.mp here
    rw [List.mem_singleton.mp new]
    exact Nat.ne_of_lt bound
  · intro entry member
    rcases List.mem_append.mp member with before | new
    · exact (tells.serves entry before).enter _
    · obtain rfl := List.mem_singleton.mp new
      exact ⟨_,List.getElem?_concat_length,rfl,begins⟩

/-- The `i`th task goes on, and so does its conversation. -/
theorem Tells.update (tells : Tells config connections numbers s cs served) {i : Nat} (here : s.tasks[i]? = some task)
    (now : Instant)
    (goes_on : ∀ c : Conversation, c.Reaches config task.stage →
      { c with events := c.events ++ news }.Reaches config stage) :
    ∃ cs' served', Tells config connections numbers (s.update i { task with stage := stage } now news) cs' served' := by
  rw [← tells.tasks,List.getElem?_map,Option.map_eq_some_iff] at here
  obtain ⟨⟨task,id⟩,entry,rfl⟩ := here
  obtain ⟨inside,there⟩ := List.getElem?_eq_some_iff.mp entry
  obtain ⟨c,talks,peer,reaches⟩ := tells.serves _ (List.mem_of_getElem? entry)
  obtain ⟨bound,-⟩ := List.getElem?_eq_some_iff.mp talks
  have others : ∀ entry' ∈ served.eraseIdx i, entry'.2 ≠ id := by
    have distinct := (List.getElem_cons_eraseIdx_perm inside).map Prod.snd |>.nodup_iff.mpr tells.distinct
    rw [there,List.map_cons,List.nodup_cons] at distinct
    intro entry' member same
    exact distinct.1 (List.mem_map.mpr ⟨entry',member,same⟩)
  have same : (served.set i ({ task with stage := stage },id)).map Prod.snd = served.map Prod.snd :=
    Counts.map_replace Prod.snd entry rfl
  refine ⟨cs.set id { c with events := c.events ++ news },served.set i ({ task with stage := stage },id),
    tells.kept,?_,?_,?_,?_,?_,?_,?_⟩
  · rw [← tells.connections]
    exact Counts.map_replace _ talks rfl
  · rw [same,List.length_set]
    exact tells.numbers
  · have extended := tells.log.extend (i := id) (by rw [List.getElem?_map,talks]; rfl) (news.map fun e => (task.peer_addr,e))
    rw [List.map_set]
    simpa [Conversation.logged,peer,Server.update] using extended
  · intro d member
    rcases List.mem_or_eq_of_mem_set member with before | rfl
    · exact tells.reaches d before
    · exact ⟨stage,goes_on c reaches⟩
  · rw [List.map_set,tells.tasks]
    rfl
  · rw [same]
    exact tells.distinct
  · intro entry' member
    rcases List.mem_cons.mp ((List.set_perm_cons_eraseIdx inside _).mem_iff.mp member) with rfl | before
    · exact ⟨_,List.getElem?_set_self bound,peer,goes_on c reaches⟩
    · exact (tells.serves entry' (List.mem_of_mem_eraseIdx before)).other (others entry' before).symm _

theorem Tells.disconnect (tells : Tells config connections numbers s cs served) (i : Nat) (now : Instant)
    (fail2ban : Fail2Ban) :
    Tells config connections (numbers.1.eraseIdx i,numbers.2)
      { s with fail2ban := fail2ban, tasks := s.tasks.eraseIdx i, clock := now } cs (served.eraseIdx i) where
  kept := tells.kept
  connections := tells.connections
  numbers := by rw [← List.eraseIdx_map,← tells.numbers]
  log := tells.log
  reaches := tells.reaches
  tasks := by rw [← List.eraseIdx_map,tells.tasks]
  distinct := by
    rw [← List.eraseIdx_map]
    exact (List.eraseIdx_sublist _ _).nodup tells.distinct
  serves entry member := tells.serves entry (List.mem_of_mem_eraseIdx member)

theorem Tells.step {a : ServerAction} (tells : Tells config connections numbers s cs served)
    (stepped : s.step a = some s') :
    ∃ cs' served', Tells config (connections ++ a.connection s) (a.numbers numbers) s' cs' served' := by
  cases Server.steps_of_step stepped with
  | accept stream outside peer_addr pushed judged stage later after decided =>
    exact ⟨_,_,tells.accept ⟨stream,outside,peer_addr,_⟩ decided rfl rfl rfl⟩
  | handle i now task stage events here resumed later =>
    simpa [ServerAction.connection,ServerAction.numbers] using tells.update here now fun c reaches => reaches.resume resumed
  | timeout i now task stage here cancelled later due =>
    refine (List.append_nil connections).symm ▸ tells.update here now fun c reaches => ?_
    rw [List.append_nil]
    exact reaches.cancel cancelled
  | disconnect i now task handler here closing later =>
    exact ⟨cs,_,(List.append_nil connections).symm ▸ tells.disconnect i now _⟩
  | wait now later =>
    refine ⟨cs,served,tells.kept,?_,tells.numbers,tells.log,tells.reaches,tells.tasks,tells.distinct,tells.serves⟩
    rw [tells.connections]
    exact (List.append_nil _).symm

variable {actions : List ServerAction} {ok : Server → ServerAction → Prop} {fail2ban : Fail2Ban} {clock : Instant}

theorem tells_of_run (run : Run Server.step ok (.start config fail2ban clock) actions s) :
    ∃ cs served, Tells config ((Server.start config fail2ban clock).connections actions) (Server.numbers actions) s cs
      served := by
  refine run.preserves (I := fun actions s => ∃ cs served,
    Tells config ((Server.start config fail2ban clock).connections actions) (Server.numbers actions) s cs served) ?_ ?_
  · exact ⟨[],[],rfl,rfl,rfl,interleaves_nil,by simp,rfl,List.nodup_nil,by simp⟩
  · rintro actions s a s' run - stepped ⟨cs,served,tells⟩
    have one : s.connections [a] = a.connection s := by simp [Server.connections,stepped]
    have numbered : Server.numbers (actions ++ [a]) = a.numbers (Server.numbers actions) := by simp [Server.numbers]
    rw [Server.connections_append run.exec,one,numbered]
    exact tells.step stepped

/-- However the server schedules its tasks, and whatever the graph API answers each of the
    sessions, its log is an interleaving of what the sessions of its connections do when
    each is run alone, and of nothing for a connection that was rejected; and a task is
    where the session of its connection gets to alone. -/
theorem sessions_run_alone (config : Config ProxyHandler) (fail2ban : Fail2Ban) (clock : Instant)
    (ok : Server → ServerAction → Prop) (run : Run Server.step ok (.start config fail2ban clock) actions s) :
    ∃ cs : List Conversation,
      cs.map Conversation.toAccepted = (Server.start config fail2ban clock).connections actions ∧
      Interleaves (cs.map Conversation.logged) s.log ∧
      (∀ c ∈ cs, c.events = [] ∨ c.result = .Ok ∧
        ∃ n, c.events = (final (Session.handle n (Server.new_session config c.toAccepted))).trace) ∧
      ∃ served : List (Task × Nat), served.map Prod.fst = s.tasks ∧
        served.map Prod.snd = (Server.numbers actions).1 ∧ (served.map Prod.snd).Nodup ∧
        ∀ entry ∈ served, ∃ c, cs[entry.2]? = some c ∧ c.peer_addr = entry.1.peer_addr ∧
          Alone (Server.new_session config c.toAccepted) entry.1.stage c.events := by
  obtain ⟨cs,served,tells⟩ := tells_of_run run
  refine ⟨cs,tells.connections,tells.log,?_,served,tells.tasks,congrArg Prod.fst tells.numbers,tells.distinct,?_⟩
  · intro c member
    obtain ⟨stage,reaches⟩ := tells.reaches c member
    cases result : c.result with
    | Ok => exact reaches.alone.handles.imp_right fun handled => ⟨rfl,handled⟩
    | Reject => exact .inl (reaches.rejected result).1
  · intro entry member
    obtain ⟨c,here,peer,reaches⟩ := tells.serves entry member
    exact ⟨c,here,peer,reaches.alone⟩

/-! ### The log of a server -/

theorem Server.log_grows {a : ServerAction} (stepped : s.step a = some s') : s.log <+: s'.log := by
  cases steps_of_step stepped with
  | accept => exact List.prefix_refl _
  | handle => exact List.prefix_append _ _
  | timeout => exact List.prefix_append _ _
  | disconnect => exact List.prefix_refl _
  | wait => exact List.prefix_refl _

/-- The task of a connection by its number, and what its session has done alone. -/
theorem served_alone {i : Nat} (run : Run Server.step ok (.start config fail2ban clock) actions s)
    (here : s.tasks[i]? = some task) :
    ∃ id c, (Server.numbers actions).1[i]? = some id ∧
      ((Server.start config fail2ban clock).connections actions)[id]? = some c.toAccepted ∧
      c.peer_addr = task.peer_addr ∧ Conversation.Reaches config c task.stage ∧ c.logged.Sublist s.log := by
  obtain ⟨cs,served,tells⟩ := tells_of_run run
  rw [← tells.tasks,List.getElem?_map,Option.map_eq_some_iff] at here
  obtain ⟨⟨task,id⟩,entry,rfl⟩ := here
  obtain ⟨c,talks,peer,reaches⟩ := tells.serves _ (List.mem_of_getElem? entry)
  refine ⟨id,c,?_,?_,peer,reaches,tells.log.part_sublist (i := id) (by rw [List.getElem?_map,talks]; rfl)⟩
  · rw [← tells.numbers,List.getElem?_map,entry]
    rfl
  · rw [← tells.connections,List.getElem?_map,talks]
    rfl

theorem Alone.so_far {t : Session ProxyHandler ProxyEffect} (alone : Alone session stage events) (fresh : session.trace = [])
    (turn : stage = .Starting t ∨ stage = .Serving t) : events = t.trace := by
  rcases turn with starting | serving
  · obtain ⟨rfl,rfl⟩ := alone.starting starting
    exact fresh.symm
  · obtain ⟨-,-,same⟩ := alone.serving serving
    exact same

/-- How the log of a server that took these actions came to the entry for `e` behind `past`: a
    task had its turn and added it, and the session of the task had done `session` before
    it. This is all that was done for the connection, which the number of the task tells. -/
inductive Server.Logs (start : Server) (actions : List ServerAction) (past : List (IpAddr × Event ProxyEffect))
    (e : Event ProxyEffect) : Accepted → List (Event ProxyEffect) → Prop
  | entry (before after : List ServerAction) (i : Nat) (now : Instant) (s s' : Server) (task : Task)
      (session : Session ProxyHandler ProxyEffect) (id : Nat) (connection : Accepted) (news later : List (Event ProxyEffect))
      (taken : actions = before ++ .Handle i now :: after) (reached : exec step start before = some s)
      (here : s.tasks[i]? = some task) (turn : task.stage = .Starting session ∨ task.stage = .Serving session)
      (number : (Server.numbers before).1[i]? = some id) (accepted : (start.connections before)[id]? = some connection)
      (logged : past = s.log ++ news.map fun e => (connection.peer_addr,e)) (stepped : s.step (.Handle i now) = some s')
      (added : s'.log = s.log ++ (news ++ e :: later).map fun e => (connection.peer_addr,e)) :
      Logs start actions past e connection (session.trace ++ news)

/-- An entry of the log was made by the session of a connection of the peer, and stands where
    that session comes to it alone. -/
theorem server_event (run : Run Server.step ok (.start config fail2ban clock) actions s)
    {past rest : List (IpAddr × Event ProxyEffect)} {p : IpAddr} {e : Event ProxyEffect}
    (split : s.log = past ++ (p,e) :: rest) :
    ∃ connection session n after, (Server.start config fail2ban clock).Logs actions past e connection session ∧
      connection.peer_addr = p ∧ connection.result = .Ok ∧
      (final (Session.handle n (Server.new_session config connection))).trace = session ++ e :: after ∧
      (session.map fun e => (p,e)).Sublist past := by
  obtain ⟨before,a,after,u,u',added,later,rfl,reached,stepped,log,rfl⟩ :=
    run.entry Server.log rfl (fun _ _ _ stepped => Server.log_grows stepped) split
  have quiet (same : u'.log = u.log) : False := by simp [same] at log
  cases Server.steps_of_step stepped with
  | accept => exact (quiet rfl).elim
  | timeout => exact (quiet (by simp [Server.update])).elim
  | disconnect => exact (quiet rfl).elim
  | wait => exact (quiet rfl).elim
  | handle i now task stage events here resumed clock =>
    obtain ⟨news,tail,rfl,rfl,others⟩ := List.map_eq_append_iff.mp (List.append_cancel_left log)
    obtain ⟨_,last,rfl,same,-⟩ := List.map_eq_cons_iff.mp others
    obtain ⟨rfl,rfl⟩ := Prod.mk.inj same
    obtain ⟨id,c,number,accepted,peer,reaches,earlier⟩ := served_alone reached here
    obtain ⟨t,turn⟩ : ∃ t, task.stage = .Starting t ∨ task.stage = .Serving t := by
      cases at_stage : task.stage with
      | Starting t => exact ⟨t,.inl rfl⟩
      | Serving t => exact ⟨t,.inr rfl⟩
      | Closing handler => simp [at_stage,Stage.resume] at resumed
    have so_far := reaches.alone.so_far rfl turn
    have served : c.result = .Ok := by
      cases answer : c.result with
      | Ok => rfl
      | Reject =>
        obtain ⟨-,handler,closing⟩ := reaches.rejected answer
        simp [closing] at turn
    obtain ⟨n,handled⟩ := (reaches.alone.resume rfl resumed).handles.resolve_left (by simp)
    refine ⟨c.toAccepted,t.trace ++ news,n,last,?_,peer,served,?_,?_⟩
    · exact .entry before after i now u _ task t id c.toAccepted news last rfl reached.exec here turn number accepted
        (by rw [peer]) stepped (by rw [peer]; rfl)
    · rw [← handled,so_far]
      simp
    · rw [List.map_append,← so_far]
      have earlier : (c.events.map fun e => (task.peer_addr,e)).Sublist u.log := by
        simpa [Conversation.logged,peer] using earlier
      exact earlier.append (List.Sublist.refl _)

/-- Whatever other peers do, a server that requires authentication sends every mail as the
    user of a login in the same session: in all that was done for the connection that the
    mail came from, the last login was with the correct password of the sender, and it is
    still in effect. -/
theorem server_sends_as_login (config : Config ProxyHandler) (fail2ban : Fail2Ban) (clock : Instant)
    (ok : Server → ServerAction → Prop) (required : config.session_config.auth_mode ≠ .None)
    (run : Run Server.step ok (.start config fail2ban clock) actions s) (p : IpAddr) (sender : Text) (data : Bytes)
    (past rest : List (IpAddr × Event ProxyEffect)) (sent : s.log = past ++ (p,.Effect (.SendMail sender data)) :: rest) :
    ∃ connection session n after,
      (Server.start config fail2ban clock).Logs actions past (.Effect (.SendMail sender data)) connection session ∧
      connection.peer_addr = p ∧ connection.result = .Ok ∧
      (final (Session.handle n (Server.new_session config connection))).trace =
        session ++ Event.Effect (ProxyEffect.SendMail sender data) :: after ∧
      (session.map fun e => (p,e)).Sublist past ∧
      LoggedIn config.session_config.handler.config.smtp.auth session sender := by
  obtain ⟨connection,session,n,after,logs,peer,served,trace,earlier⟩ := server_event run sent
  have bound := sends_as_user (.new_plain connection.stream config.tls) (Server.new_session config connection).config
    required n
  exact ⟨connection,session,n,after,logs,peer,served,trace,earlier,bound session _ after trace⟩

end

section
attribute [local instance] Sample.argon2 Sample.base64

def sampleMailer : TcpStream := Sample.sends "EHLO x\r\nAUTH PLAIN AGEAYg==\r\nMAIL FROM:<a>\r\nRCPT TO:<c>\r\nDATA\r\n.\r\n"

def sampleConfig : Config ProxyHandler :=
  { Config.new (Sample.config .Always).handler with session_config := Sample.config .Always }

def sampleBystander : TcpStream := Sample.sends "EHLO x\r\nMAIL FROM:<a>\r\nQUIT\r\n"

/-- No request is answered. -/
def sampleOffline : Graph.Outside := ⟨[],[],⟨0,[]⟩⟩

/-- A peer sends a mail while another one tries to without a login. -/
def sampleSchedule : List ServerAction :=
  [.Accept sampleMailer Sample.outside samplePeer 0 0,.Accept sampleBystander sampleOffline sampleOther 0 0,.Handle 1 1,
    .Handle 0 1,.Handle 0 2,.Handle 1 2,.Handle 0 3,.Handle 1 3,.Handle 0 4,.Handle 1 4,.Handle 0 5,.Disconnect 1 5,
    .Handle 0 6,.Handle 0 7]

def sampleRun : Option Server :=
  follow Server.step (fun _ _ => True) (.start sampleConfig (.new 1 1 (from_secs 1800)) 0) sampleSchedule

def sampleMailSent : IpAddr × Event ProxyEffect := (samplePeer,.Effect (.SendMail "a".toList []))

theorem sampleRun_mails : (sampleRun.map fun s => decide (sampleMailSent ∈ s.log)) = some true := by decide +kernel

theorem sessions_run_alone_sample : ∃ (s : Server) (cs : List Conversation), sampleRun = some s ∧
    Interleaves (cs.map Conversation.logged) s.log ∧
    cs.map Conversation.toAccepted =
      [⟨sampleMailer,Sample.outside,samplePeer,.Ok⟩,⟨sampleBystander,sampleOffline,sampleOther,.Ok⟩] ∧
    ∀ c ∈ cs, c.events = [] ∨ c.result = .Ok ∧
      ∃ n, c.events = (final (Session.handle n (Server.new_session sampleConfig c.toAccepted))).trace := by
  obtain ⟨s,ran,-⟩ := Option.map_eq_some_iff.mp sampleRun_mails
  obtain ⟨cs,connections,log,alone,-⟩ := sessions_run_alone sampleConfig _ 0 _ (run_of_follow .start sampleSchedule ran)
  exact ⟨s,cs,ran,log,connections,alone⟩

theorem server_sends_as_login_sample : ∃ (s : Server) (past rest : List (IpAddr × Event ProxyEffect))
    (connection : Accepted) (session : List (Event ProxyEffect)), sampleRun = some s ∧
    s.log = past ++ sampleMailSent :: rest ∧
    (Server.start sampleConfig (.new 1 1 (from_secs 1800)) 0).Logs sampleSchedule past sampleMailSent.2 connection session ∧
    connection.peer_addr = samplePeer ∧
    LoggedIn sampleConfig.session_config.handler.config.smtp.auth session "a".toList := by
  obtain ⟨s,ran,mailed⟩ := Option.map_eq_some_iff.mp sampleRun_mails
  obtain ⟨past,rest,split⟩ := List.append_of_mem (of_decide_eq_true mailed)
  obtain ⟨connection,session,-,-,logs,peer,-,-,-,login⟩ := server_sends_as_login sampleConfig _ 0 _ (by decide)
    (run_of_follow .start sampleSchedule ran) _ _ _ past rest split
  exact ⟨s,past,rest,connection,session,ran,split,logs,peer,login⟩

end
end PostGraph
