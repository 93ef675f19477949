import PostGraph.Gate
import PostGraph.Proxy

/-!
`Server::listen` with its handler: every connection has a task of its own, and
the tasks take turns in any order. They share the fail2ban records, which only
`on_connect` and `on_disconnect` touch; to these the server is a `Gate`
(`server_gate`).
-/
namespace PostGraph
open Runs
set_option autoImplicit false

def SESSION_MAX_DURATION : Duration := from_secs (5 * 60)

section
variable [Argon2]

/-- How far the task of a connection got. -/
inductive Stage
  | Starting (session : Session ProxyHandler ProxyEffect)
  | Serving (session : Session ProxyHandler ProxyEffect)
  /-- The session is over, or there was none; `on_disconnect` is next. -/
  | Closing (handler : ProxyHandler)

/-- The task of a connection, from `on_connect` to `on_disconnect`. -/
structure Task where
  peer_addr : IpAddr
  since : Instant
  stage : Stage

def Task.visit (self : Task) : Visit := ⟨self.peer_addr,self.since⟩

structure Server where
  config : Config ProxyHandler
  fail2ban : Fail2Ban
  tasks : List Task
  clock : Instant
  /-- How many connections were accepted. -/
  sessions : Nat
  /-- What the sessions did, each for its peer. -/
  log : List (IpAddr × Event ProxyEffect)

def ProxyHandler.with_outside (self : ProxyHandler) (outside : Graph.Outside) : ProxyHandler :=
  { self with graph_client := self.graph_client.with_outside outside }

inductive ServerAction
  /-- A connection is accepted and `on_connect` is called, which reads the clock twice.
      `outside` is what its session will be answered by the graph API, and its clock. -/
  | Accept (stream : TcpStream) (outside : Graph.Outside) (peer_addr : IpAddr) (pushed judged : Instant)
  /-- The `i`th task goes on: it sends its banner, or takes a turn. -/
  | Handle (i : Nat) (now : Instant)
  /-- The `i`th task reaches its timeout. A turn that is cut off has done to the
      handler what the whole turn does, or nothing. -/
  | Timeout (i : Nat) (now : Instant)
  | Disconnect (i : Nat) (now : Instant)
  | Wait (now : Instant)

/-- The time at which an action is over. -/
def ServerAction.time : ServerAction → Instant
  | Accept _ _ _ _ judged => judged
  | Handle _ now => now
  | Timeout _ now => now
  | Disconnect _ now => now
  | Wait now => now

namespace Stage

/-- A part of `Session::handle`: the stage after it, and what was done. -/
def proceed (session : Session ProxyHandler ProxyEffect) (part : SessionM ProxyHandler ProxyEffect Control) :
    Stage × List (Event ProxyEffect) :=
  match part session with
  | .ok .Continue session' => (.Serving session',session'.trace.drop session.trace.length)
  | .ok .Return session' => (.Closing session'.config.handler,session'.trace.drop session.trace.length)
  | .error _ session' => (.Closing session'.config.handler,session'.trace.drop session.trace.length)

def greet : SessionM ProxyHandler ProxyEffect Control := do
  Session.reply (.banner (← get).config.server_name)
  return .Continue

def resume [Base64] : Stage → Option (Stage × List (Event ProxyEffect))
  | Starting session => some (proceed session greet)
  | Serving session => some (proceed session Session.turn)
  | Closing _ => none

def cancel : Stage → Option Stage
  | Starting session => some (.Closing session.config.handler)
  | Serving session => some (.Closing session.config.handler)
  | Closing _ => none

end Stage

namespace Server

def start (config : Config ProxyHandler) (fail2ban : Fail2Ban) (clock : Instant) : Server :=
  ⟨config,fail2ban,[],clock,0,[]⟩

def update (self : Server) (i : Nat) (task : Task) (now : Instant) (events : List (Event ProxyEffect)) : Server :=
  { self with
    tasks := self.tasks.set i task
    clock := now
    log := self.log ++ events.map fun e => (task.peer_addr,e) }

def step [Base64] (self : Server) : ServerAction → Option Server
  | .Accept stream outside peer_addr pushed judged =>
    if self.clock ≤ pushed ∧ pushed ≤ judged then
      let (result,handler,fail2ban) :=
        self.config.session_config.handler.on_connect self.fail2ban peer_addr pushed judged
      let handler := handler.with_outside outside
      let config := { self.config with session_config.handler := handler }
      let stage := match result with
        | .Ok => .Starting (config.session stream)
        | .Reject => .Closing handler
      some { self with
        fail2ban := fail2ban, tasks := self.tasks ++ [⟨peer_addr,pushed,stage⟩], clock := judged,
        sessions := self.sessions + 1 }
    else none
  | .Handle i now => do
    let task ← self.tasks[i]?
    let (stage,events) ← task.stage.resume
    if self.clock ≤ now then some (self.update i { task with stage := stage } now events) else none
  | .Timeout i now => do
    let task ← self.tasks[i]?
    let stage ← task.stage.cancel
    if self.clock ≤ now ∧ SESSION_MAX_DURATION ≤ elapsed task.since now then
      some (self.update i { task with stage := stage } now [])
    else none
  | .Disconnect i now => do
    let task ← self.tasks[i]?
    match task.stage with
    | .Closing handler =>
      if self.clock ≤ now then
        some { self with
          fail2ban := handler.on_disconnect self.fail2ban task.peer_addr now, tasks := self.tasks.eraseIdx i,
          clock := now }
      else none
    | _ => none
  | .Wait now => if self.clock ≤ now then some { self with clock := now } else none

/-- The configuration that `on_connect` leaves to a session. -/
def admitted (self : Server) (outside : Graph.Outside) : Config ProxyHandler :=
  let handler : ProxyHandler := { self.config.session_config.handler with productive := false }
  { self.config with session_config.handler := handler.with_outside outside }

/-- What a step can do. -/
inductive Steps [Base64] (s : Server) : ServerAction → Server → Prop
  | accept (stream : TcpStream) (outside : Graph.Outside) (peer_addr : IpAddr) (pushed judged : Instant) (stage : Stage)
      (later : s.clock ≤ pushed) (after : pushed ≤ judged)
      (decided : (s.fail2ban.connect peer_addr pushed judged).1 = .Ok ∧
          stage = .Starting ((s.admitted outside).session stream) ∨
        (s.fail2ban.connect peer_addr pushed judged).1 = .Reject ∧
          stage = .Closing (s.admitted outside).session_config.handler) :
      Steps s (.Accept stream outside peer_addr pushed judged) { s with
        fail2ban := (s.fail2ban.connect peer_addr pushed judged).2, tasks := s.tasks ++ [⟨peer_addr,pushed,stage⟩],
        clock := judged, sessions := s.sessions + 1 }
  | handle (i : Nat) (now : Instant) (task : Task) (stage : Stage) (events : List (Event ProxyEffect))
      (here : s.tasks[i]? = some task) (resumed : task.stage.resume = some (stage,events)) (later : s.clock ≤ now) :
      Steps s (.Handle i now) (s.update i { task with stage := stage } now events)
  | timeout (i : Nat) (now : Instant) (task : Task) (stage : Stage) (here : s.tasks[i]? = some task)
      (cancelled : task.stage.cancel = some stage) (later : s.clock ≤ now)
      (due : SESSION_MAX_DURATION ≤ elapsed task.since now) :
      Steps s (.Timeout i now) (s.update i { task with stage := stage } now [])
  | disconnect (i : Nat) (now : Instant) (task : Task) (handler : ProxyHandler) (here : s.tasks[i]? = some task)
      (closing : task.stage = .Closing handler) (later : s.clock ≤ now) :
      Steps s (.Disconnect i now) { s with
        fail2ban := s.fail2ban.disconnect task.peer_addr now handler.productive, tasks := s.tasks.eraseIdx i,
        clock := now }
  | wait (now : Instant) (later : s.clock ≤ now) : Steps s (.Wait now) { s with clock := now }

variable {s s' : Server} {a : ServerAction}

/-- What the records see of the server. -/
def gate (self : Server) : Gate := ⟨self.fail2ban,self.tasks.map Task.visit,self.clock,self.sessions⟩

theorem gate_update {i : Nat} {task : Task} (here : s.tasks[i]? = some task) (stage : Stage) (now : Instant)
    (events : List (Event ProxyEffect)) :
    (s.update i { task with stage := stage } now events).gate = { s.gate with clock := now } := by
  have same : (s.tasks.set i { task with stage := stage }).map Task.visit = s.tasks.map Task.visit :=
    Counts.map_replace Task.visit here rfl
  simp only [gate,update,same]

variable [Base64]

theorem steps_of_step (stepped : s.step a = some s') : s.Steps a s' := by
  cases a with
  | Accept stream outside peer_addr pushed judged =>
    simp only [step,ProxyHandler.on_connect] at stepped
    split_ifs at stepped with times
    obtain rfl := Option.some.inj stepped
    refine .accept stream outside peer_addr pushed judged _ times.1 times.2 ?_
    cases (s.fail2ban.connect peer_addr pushed judged).1 with
    | Ok => exact .inl ⟨rfl,rfl⟩
    | Reject => exact .inr ⟨rfl,rfl⟩
  | Handle i now =>
    simp only [step,Option.bind_eq_bind,Option.bind_eq_some_iff] at stepped
    obtain ⟨task,here,⟨stage,events⟩,resumed,stepped⟩ := stepped
    obtain ⟨later,rfl⟩ := by simpa using stepped
    exact .handle i now task stage events here resumed later
  | Timeout i now =>
    simp only [step,Option.bind_eq_bind,Option.bind_eq_some_iff] at stepped
    obtain ⟨task,here,stage,cancelled,stepped⟩ := stepped
    obtain ⟨⟨later,due⟩,rfl⟩ := by simpa using stepped
    exact .timeout i now task stage here cancelled later due
  | Disconnect i now =>
    simp only [step,Option.bind_eq_bind,Option.bind_eq_some_iff] at stepped
    obtain ⟨task,here,stepped⟩ := stepped
    split at stepped
    · next handler closing =>
      obtain ⟨later,rfl⟩ := by simpa using stepped
      exact .disconnect i now task handler here closing later
    · simp at stepped
  | Wait now =>
    obtain ⟨later,rfl⟩ := by simpa [step] using stepped
    exact .wait now later

/-! ### The server as a gate -/

/-- No session lasts for more than `max_age`, from `on_connect` to `on_disconnect`, and
    there are fewer than 2^32 sessions. -/
def Timely (s : Server) (a : ServerAction) : Prop :=
  (∀ task ∈ s.tasks, elapsed task.since a.time ≤ s.fail2ban.max_age) ∧
  ∀ stream outside peer_addr pushed judged, a = .Accept stream outside peer_addr pushed judged →
    elapsed pushed judged ≤ s.fail2ban.max_age ∧ s.sessions + 1 < U32_VALUES

instance (s : Server) (a : ServerAction) : Decidable (s.Timely a) :=
  @instDecidableAnd _ _ inferInstance <| match a with
    | .Accept stream outside peer_addr pushed judged =>
      decidable_of_iff (elapsed pushed judged ≤ s.fail2ban.max_age ∧ s.sessions + 1 < U32_VALUES)
        ⟨fun entering _ _ _ _ _ same => by cases same; exact entering,fun entering => entering _ _ _ _ _ rfl⟩
    | .Handle _ _ | .Timeout _ _ | .Disconnect _ _ | .Wait _ => .isTrue (by simp)

/-- Every step of the server is one of the gate. -/
theorem gate_step (timely : s.Timely a) (stepped : s.step a = some s') :
    ∃ b, s.gate.Timely b ∧ s.gate.step b = some s'.gate := by
  obtain ⟨lasting,entering⟩ := timely
  have visits (now : Instant) (within : ∀ task ∈ s.tasks, elapsed task.since now ≤ s.fail2ban.max_age) :
      ∀ visit ∈ s.gate.visits, elapsed visit.since now ≤ s.gate.fail2ban.max_age := by
    simpa [gate,Task.visit] using within
  cases steps_of_step stepped with
  | accept stream outside peer_addr pushed judged stage later after decided =>
    refine ⟨.Connect peer_addr pushed judged,⟨visits judged lasting,?_⟩,?_⟩
    · rintro _ _ _ ⟨⟩
      exact entering stream outside peer_addr pushed judged rfl
    · simp [Gate.step,gate,Task.visit,later,after]
  | handle i now task stage events here resumed later =>
    refine ⟨.Wait now,⟨visits now lasting,by simp⟩,?_⟩
    rw [gate_update here]
    exact if_pos later
  | timeout i now task stage here cancelled later due =>
    refine ⟨.Wait now,⟨visits now lasting,by simp⟩,?_⟩
    rw [gate_update here]
    exact if_pos later
  | disconnect i now task handler here closing later =>
    refine ⟨.Disconnect i now handler.productive,⟨visits now lasting,by simp⟩,?_⟩
    simp [Gate.step,gate,Task.visit,later,here,List.eraseIdx_map]
  | wait now later =>
    refine ⟨.Wait now,⟨visits now lasting,by simp⟩,?_⟩
    exact if_pos later

theorem server_gate {as : List ServerAction} (run : Run step Timely s as s') :
    ∃ bs, Run Gate.step Gate.Timely s.gate bs s'.gate :=
  run.simulate gate fun _ _ _ timely stepped => gate_step timely stepped

end Server
end
end PostGraph
