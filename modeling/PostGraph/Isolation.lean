import PostGraph.Lib.Shares
import PostGraph.Peers
import PostGraph.Tasks

/-!
Peers at a server. All peers share its records and its list of tasks, but what a peer
gets is what it gets at a server that it has for itself, as long as it does not
come back with fails so late that others may have purged its record.
-/
namespace PostGraph
open Projections Runs Shares
set_option autoImplicit false

/-! ### The calls of the records -/

namespace Fail2Ban

/-- The records after some calls. -/
def calling (self : Fail2Ban) (cs : List Call) : Fail2Ban := cs.foldl (fun self c => (self.call c).2) self

def connect_calls (p : IpAddr) (pushed judged : Instant) : List Call :=
  [⟨p,.PushConnection,pushed⟩,⟨p,.GetVerdict,judged⟩]

def disconnect_calls (p : IpAddr) (now : Instant) (productive : Bool) : List Call :=
  (if productive then [] else [⟨p,.PushFail,now⟩]) ++ [⟨p,.PopConnection,now⟩]

/-- The answer of `on_connect` is the verdict on what the calls leave. -/
theorem connect_judges (self : Fail2Ban) (p : IpAddr) (pushed judged : Instant) :
    (self.connect p pushed judged).1 =
      if self.judge ((self.connect p pushed judged).2.peers p) = .Ok then .Ok else .Reject := by
  obtain ⟨connections,fails,-⟩ := connect_limits self p pushed judged
  rw [judge_congr connections.symm fails.symm]
  rfl

theorem disconnect_calling (self : Fail2Ban) (p : IpAddr) (now : Instant) (productive : Bool) :
    self.disconnect p now productive = self.calling (disconnect_calls p now productive) := by
  cases productive <;> rfl

theorem connect_ordered {p : IpAddr} {pushed judged : Instant} (after : pushed ≤ judged) :
    Ordered Call.now (connect_calls p pushed judged) := by
  simp [Ordered,connect_calls,after]

theorem disconnect_called (p : IpAddr) (now : Instant) (productive : Bool) :
    ∀ c ∈ disconnect_calls p now productive, c.peer = p ∧ c.now = now := by
  intro c member
  cases productive with
  | true =>
    obtain rfl := List.mem_singleton.mp member
    exact ⟨rfl,rfl⟩
  | false =>
    rcases List.mem_cons.mp member with rfl | member
    · exact ⟨rfl,rfl⟩
    · obtain rfl := List.mem_singleton.mp member
      exact ⟨rfl,rfl⟩

theorem disconnect_ordered {p : IpAddr} {now : Instant} {productive : Bool} :
    Ordered Call.now (disconnect_calls p now productive) := by
  cases productive <;> simp [Ordered,disconnect_calls]

end Fail2Ban

section
variable {limits self : Fail2Ban} {p : IpAddr} {record : Option PeerInfo} {now last : Instant} {cs : List Call}

/-- The limits matter and the records of others do not. -/
theorem Agrees.limited {limits' : Fail2Ban} (agrees : Agrees limits p now self record)
    (kept : limits'.max_connections = limits.max_connections ∧ limits'.max_fails = limits.max_fails ∧
      limits'.max_age = limits.max_age) : Agrees limits' p now self record := by
  obtain ⟨connections,fails,age⟩ := kept
  refine ⟨by rw [connections,fails,age]; exact agrees.alike,?_⟩
  rw [age]
  exact agrees.records

/-- Where the records of a peer agree after `on_connect`, so does its answer. -/
theorem Agrees.connect {pushed judged : Instant} (agrees : Agrees (limits.connect p pushed judged).2 p judged
    (self.connect p pushed judged).2 ((limits.connect p pushed judged).2.peers p)) :
    (limits.connect p pushed judged).1 = (self.connect p pushed judged).1 := by
  obtain ⟨⟨connections,fails,-⟩,same | ⟨-,info,kept,stale⟩⟩ := agrees
  · rw [(Fail2Ban.connect_limits ..).1,(Fail2Ban.connect_limits ..).1] at connections
    rw [(Fail2Ban.connect_limits ..).2.1,(Fail2Ban.connect_limits ..).2.1] at fails
    rw [Fail2Ban.connect_judges,Fail2Ban.connect_judges,same,judge_congr connections fails]
  · rw [Fail2Ban.connect_own,Option.ite_none_right_eq_some] at kept
    obtain ⟨recent,same⟩ := kept
    obtain rfl := Option.some.inj same
    rw [(Fail2Ban.connect_limits limits p pushed judged).2.2,Fresh,Fail2Ban.pushed_info_time] at stale
    exact absurd recent stale

theorem Agrees.calls_foreign (agrees : Agrees limits p now self record) (other : ∀ c ∈ cs, c.peer ≠ p)
    (ordered : Ordered Call.now cs) (later : ∀ c ∈ cs, now ≤ c.now) (until_then : ∀ c ∈ cs, c.now ≤ last)
    (after : now ≤ last) : Agrees limits p last (self.calling cs) record := by
  induction cs generalizing now self with
  | nil => exact agrees.later after
  | cons c cs ih =>
    obtain ⟨following,ordered⟩ := List.pairwise_cons.mp ordered
    refine ih (agrees.foreign (other c (by simp)) (later c (by simp))) ?_ ordered following ?_ (until_then c (by simp))
    · exact fun d member => other d (by simp [member])
    · exact fun d member => until_then d (by simp [member])

theorem Agrees.calls_own (agrees : Agrees limits p now self record) (mine : ∀ c ∈ cs, c.peer = p)
    (ordered : Ordered Call.now cs) (later : ∀ c ∈ cs, now ≤ c.now) (until_then : ∀ c ∈ cs, c.now ≤ last)
    (after : now ≤ last)
    (prompt : Along (fun record c => c.after limits.max_age record) (Prompt limits.max_age) record cs) :
    Agrees limits p last (self.calling cs) (cs.foldl (fun record c => c.after limits.max_age record) record) := by
  induction cs generalizing now self record with
  | nil => exact agrees.later after
  | cons c cs ih =>
    obtain ⟨following,ordered⟩ := List.pairwise_cons.mp ordered
    obtain rfl : c.peer = p := mine c (by simp)
    refine ih (agrees.own (later c (by simp)) prompt.1).2 ?_ ordered following ?_ (until_then c (by simp)) prompt.2
    · exact fun d member => mine d (by simp [member])
    · exact fun d member => until_then d (by simp [member])

end

/-! ### A server with one peer -/

section
variable [Argon2]

/-- The calls of the records that an action makes. -/
def ServerAction.calls (s : Server) : ServerAction → List Call
  | .Accept _ _ peer_addr pushed judged => Fail2Ban.connect_calls peer_addr pushed judged
  | .Disconnect i now =>
    match s.tasks[i]? with
    | some ⟨peer_addr,_,.Closing handler⟩ => Fail2Ban.disconnect_calls peer_addr now handler.productive
    | _ => []
  | _ => []

/-- The number of a task among the peer's, if it is one of them. -/
def Server.number (self : Server) (p : IpAddr) (i : Nat) : Option Nat :=
  if self.tasks[i]?.any (·.peer_addr = p) then some (rank (·.peer_addr = p) self.tasks i) else none

/-- An action as the peer has it at a server of its own, if it is about the peer. -/
def ServerAction.alone (p : IpAddr) (s : Server) : ServerAction → Option ServerAction
  | .Accept stream outside peer_addr pushed judged =>
    if peer_addr = p then some (.Accept stream outside peer_addr pushed judged) else none
  | .Handle i now => (s.number p i).map (.Handle · now)
  | .Timeout i now => (s.number p i).map (.Timeout · now)
  | .Disconnect i now => (s.number p i).map (.Disconnect · now)
  | .Wait _ => none

/-- Where an action renews the record of the peer, it finds it recent, or nothing on it. -/
def Server.Prompt (p : IpAddr) (s : Server) (a : ServerAction) : Prop :=
  Along (fun record c => c.after s.fail2ban.max_age record) (PostGraph.Prompt s.fail2ban.max_age) (s.fail2ban.peers p)
    (a.calls s)

/-- A server, and one that a peer of it has for itself. -/
structure Server.Isolates (p : IpAddr) (s t : Server) : Prop where
  config : t.config = s.config
  clock : t.clock ≤ s.clock
  tasks : t.tasks = s.tasks.filter (·.peer_addr = p)
  log : t.log = s.log.filter (·.1 = p)
  records : Agrees t.fail2ban p s.clock s.fail2ban (t.fail2ban.peers p)

namespace Server
variable {p : IpAddr} {s s' t : Server} {a b : ServerAction} {task : Task} {i : Nat}

theorem number_own (here : s.tasks[i]? = some task) (own : task.peer_addr = p) :
    s.number p i = some (rank (·.peer_addr = p) s.tasks i) := by
  rw [number,here,if_pos (by simpa using own)]

theorem number_other (here : s.tasks[i]? = some task) (other : task.peer_addr ≠ p) : s.number p i = none := by
  rw [number,here,if_neg (by simpa using other)]

theorem number_some {j : Nat} (here : s.tasks[i]? = some task) (numbered : s.number p i = some j) :
    task.peer_addr = p ∧ j = rank (·.peer_addr = p) s.tasks i := by
  by_cases own : task.peer_addr = p
  · rw [number_own here own] at numbered
    exact ⟨own,(Option.some.inj numbered).symm⟩
  · simp [number_other here own] at numbered

/-- A task of the peer among those at a server of its own. -/
theorem Isolates.member {j : Nat} (isolates : s.Isolates p t) (here : s.tasks[i]? = some task)
    (numbered : s.number p i = some j) : task.peer_addr = p ∧ t.tasks[j]? = some task ∧
      (∀ task' : Task, task'.peer_addr = p → t.tasks.set j task' = (s.tasks.set i task').filter (·.peer_addr = p)) ∧
      t.tasks.eraseIdx j = (s.tasks.eraseIdx i).filter (·.peer_addr = p) := by
  obtain ⟨own,rfl⟩ := number_some here numbered
  have mine : decide (task.peer_addr = p) = true := decide_eq_true own
  rw [isolates.tasks]
  refine ⟨own,share_member here mine,?_,(share_leave here mine).symm⟩
  exact fun task' own' => (share_replace here mine (decide_eq_true own')).symm

theorem Isolates.updated {j : Nat} {now : Instant} (isolates : s.Isolates p t) (here : s.tasks[i]? = some task)
    (numbered : s.number p i = some j) (later : s.clock ≤ now) (stage : Stage) (events : List (Event ProxyEffect)) :
    (s.update i { task with stage := stage } now events).Isolates p
      (t.update j { task with stage := stage } now events) := by
  obtain ⟨own,-,replaced,-⟩ := isolates.member here numbered
  refine ⟨isolates.config,Nat.le_refl _,replaced _ own,?_,isolates.records.later later⟩
  simp [Server.update,isolates.log,List.filter_map,Function.comp_def,own]

theorem Isolates.updated_other {now : Instant} (isolates : s.Isolates p t) (here : s.tasks[i]? = some task)
    (foreign : task.peer_addr ≠ p) (later : s.clock ≤ now) (stage : Stage) (events : List (Event ProxyEffect)) :
    (s.update i { task with stage := stage } now events).Isolates p t := by
  have other : decide (task.peer_addr = p) = false := decide_eq_false foreign
  refine ⟨isolates.config,isolates.clock.trans later,?_,?_,isolates.records.later later⟩
  · rw [isolates.tasks]
    exact (share_replace_other here other other).symm
  · simp [Server.update,isolates.log,List.filter_map,Function.comp_def,foreign]

/-- Prompt calls of the peer, made on the shared records and on its own. -/
theorem Isolates.calls {cs : List Call} {last : Instant} (isolates : s.Isolates p t) (mine : ∀ c ∈ cs, c.peer = p)
    (ordered : Ordered Call.now cs) (later : ∀ c ∈ cs, s.clock ≤ c.now) (until_then : ∀ c ∈ cs, c.now ≤ last)
    (after : s.clock ≤ last) (prompt : Along (fun record c => c.after t.fail2ban.max_age record)
      (PostGraph.Prompt t.fail2ban.max_age) (t.fail2ban.peers p) cs) :
    Agrees (t.fail2ban.calling cs) p last (s.fail2ban.calling cs) ((t.fail2ban.calling cs).peers p) := by
  have agrees := isolates.records.calls_own mine ordered later until_then after prompt
  rw [← records_alone t.fail2ban mine] at agrees
  exact agrees.limited (limits_after t.fail2ban cs)

variable [Base64]

/-- What is not about the peer leaves what it has at a server of its own. -/
theorem Isolates.foreign (isolates : s.Isolates p t) (stepped : s.step a = some s') (other : a.alone p s = none) :
    s'.Isolates p t := by
  have ⟨config,clock,tasks,log,records⟩ := isolates
  cases steps_of_step stepped with
  | accept stream outside peer_addr pushed judged stage later after decided =>
    have foreign : peer_addr ≠ p := by simpa [ServerAction.alone] using other
    have past : s.clock ≤ judged := later.trans after
    refine ⟨config,clock.trans past,?_,log,?_⟩
    · simp [tasks,List.filter_append,foreign]
    · exact records.calls_foreign (by simp [Fail2Ban.connect_calls,foreign]) (Fail2Ban.connect_ordered after)
        (by simp [Fail2Ban.connect_calls,later,past]) (by simp [Fail2Ban.connect_calls,after]) past
  | handle i now task stage events here resumed later =>
    refine isolates.updated_other here ?_ later stage events
    intro own
    simp [ServerAction.alone,number_own here own] at other
  | timeout i now task stage here cancelled later due =>
    refine isolates.updated_other here ?_ later stage []
    intro own
    simp [ServerAction.alone,number_own here own] at other
  | disconnect i now task handler here closing later =>
    have foreign : task.peer_addr ≠ p := by
      intro own
      simp [ServerAction.alone,number_own here own] at other
    refine ⟨config,clock.trans later,?_,log,?_⟩
    · rw [tasks]
      exact (share_leave_other here (by simpa using foreign)).symm
    · have called := Fail2Ban.disconnect_called task.peer_addr now handler.productive
      simp only [Fail2Ban.disconnect_calling]
      refine records.calls_foreign (fun c member => (called c member).1 ▸ foreign) Fail2Ban.disconnect_ordered ?_ ?_ later
      · exact fun c member => (called c member).2 ▸ later
      · exact fun c member => Nat.le_of_eq (called c member).2
  | wait now later => exact ⟨config,clock.trans later,tasks,log,records.later later⟩

/-- What is about the peer happens at a server of its own as well. -/
theorem Isolates.own (isolates : s.Isolates p t) (stepped : s.step a = some s') (own : a.alone p s = some b)
    (prompt : t.Prompt p b) : ∃ t', t.step b = some t' ∧ s'.Isolates p t' := by
  cases steps_of_step stepped with
  | accept stream outside peer_addr pushed judged stage later after decided =>
    obtain ⟨rfl,rfl⟩ : peer_addr = p ∧ .Accept stream outside peer_addr pushed judged = b := by
      simpa [ServerAction.alone] using own
    have past : s.clock ≤ judged := later.trans after
    have agrees := isolates.calls (by simp [Fail2Ban.connect_calls]) (Fail2Ban.connect_ordered after)
      (by simp [Fail2Ban.connect_calls,later,past]) (by simp [Fail2Ban.connect_calls,after]) past prompt
    have answer := agrees.connect
    have in_time : t.clock ≤ pushed := isolates.clock.trans later
    refine ⟨{ t with
      fail2ban := (t.fail2ban.connect peer_addr pushed judged).2, tasks := t.tasks ++ [⟨peer_addr,pushed,stage⟩],
      clock := judged, sessions := t.sessions + 1 },?_,isolates.config,Nat.le_refl _,?_,isolates.log,agrees⟩
    · simp only [step,ProxyHandler.on_connect,answer,if_pos (And.intro in_time after)]
      rcases decided with ⟨accepted,rfl⟩ | ⟨rejected,rfl⟩
      · simp [accepted,admitted,isolates.config]
      · simp [rejected,admitted,isolates.config]
    · simp [isolates.tasks,List.filter_append]
  | handle i now task stage events here resumed later =>
    obtain ⟨j,numbered,rfl⟩ := Option.map_eq_some_iff.mp own
    have there := (isolates.member here numbered).2.1
    refine ⟨_,?_,isolates.updated here numbered later stage events⟩
    simp [step,there,resumed,isolates.clock.trans later]
  | timeout i now task stage here cancelled later due =>
    obtain ⟨j,numbered,rfl⟩ := Option.map_eq_some_iff.mp own
    have there := (isolates.member here numbered).2.1
    refine ⟨_,?_,isolates.updated here numbered later stage []⟩
    simp [step,there,cancelled,isolates.clock.trans later,due]
  | disconnect i now task handler here closing later =>
    obtain ⟨j,numbered,rfl⟩ := Option.map_eq_some_iff.mp own
    obtain ⟨rfl,there,-,left⟩ := isolates.member here numbered
    have called := Fail2Ban.disconnect_called task.peer_addr now handler.productive
    obtain ⟨peer_addr,since,stage⟩ := task
    obtain rfl : stage = .Closing handler := closing
    have calls : (ServerAction.Disconnect j now).calls t = Fail2Ban.disconnect_calls peer_addr now handler.productive := by
      simp only [ServerAction.calls,there]
    rw [Prompt,calls] at prompt
    have agrees := isolates.calls (fun c member => (called c member).1) Fail2Ban.disconnect_ordered
      (fun c member => (called c member).2 ▸ later) (fun c member => Nat.le_of_eq (called c member).2) later prompt
    rw [← Fail2Ban.disconnect_calling,← Fail2Ban.disconnect_calling] at agrees
    refine ⟨{ t with
      fail2ban := t.fail2ban.disconnect peer_addr now handler.productive, tasks := t.tasks.eraseIdx j, clock := now },
      ?_,isolates.config,Nat.le_refl _,left,isolates.log,agrees⟩
    simp [step,there,isolates.clock.trans later,ProxyHandler.on_disconnect]
  | wait now later => simp [ServerAction.alone] at own

/-- What is about the peer, as it has it at a server of its own. -/
def own (p : IpAddr) : Server → List ServerAction → List ServerAction := Shares.own step fun s a => a.alone p s

omit [Base64] in
theorem isolates_start (config : Config ProxyHandler) (fail2ban : Fail2Ban) (clock : Instant) :
    (start config fail2ban clock).Isolates p (start config fail2ban clock) :=
  ⟨rfl,Nat.le_refl _,rfl,rfl,⟨rfl,rfl,rfl⟩,.inl rfl⟩

end Server

variable [Base64]

/-- Whatever other peers do, a peer that does not come back too late with something on its
    record gets what it gets at a server that it has for itself: its tasks are there, and
    the log tells the same of them. So two runs of a server in which a peer does the same
    are the same to it. -/
theorem peer_served_as_if_alone (config : Config ProxyHandler) (fail2ban : Fail2Ban) (clock : Instant)
    {ok : Server → ServerAction → Prop} {actions : List ServerAction} {s : Server}
    (run : Run Server.step ok (.start config fail2ban clock) actions s) (p : IpAddr) {own : List ServerAction}
    (mine : Server.own p (.start config fail2ban clock) actions = own)
    (prompt : Along (advance Server.step) (Server.Prompt p) (.start config fail2ban clock) own) :
    (∃ t, Run Server.step (Server.Prompt p) (.start config fail2ban clock) own t ∧
      t.tasks = s.tasks.filter (·.peer_addr = p) ∧ t.log = s.log.filter (·.1 = p)) ∧
    ∀ (ok' : Server → ServerAction → Prop) (actions' : List ServerAction) (s' : Server),
      Run Server.step ok' (.start config fail2ban clock) actions' s' →
      Server.own p (.start config fail2ban clock) actions' = own →
      s'.tasks.filter (·.peer_addr = p) = s.tasks.filter (·.peer_addr = p) ∧
        s'.log.filter (·.1 = p) = s.log.filter (·.1 = p) := by
  have alone {ok : Server → ServerAction → Prop} {actions : List ServerAction} {s : Server}
      (run : Run Server.step ok (.start config fail2ban clock) actions s)
      (mine : Server.own p (.start config fail2ban clock) actions = own) :
      ∃ t, Run Server.step (Server.Prompt p) (.start config fail2ban clock) own t ∧ s.Isolates p t := by
    subst mine
    refine alone_of_run run (Server.isolates_start config fail2ban clock) ?_ ?_ prompt
    · exact fun s a s' t stepped other isolates => isolates.foreign stepped other
    · exact fun s a s' t b stepped mine prompt isolates => isolates.own stepped mine prompt
  obtain ⟨t,ran,isolates⟩ := alone run mine
  refine ⟨⟨t,ran,isolates.tasks,isolates.log⟩,?_⟩
  intro ok' actions' s' run' same
  obtain ⟨t',ran',isolates'⟩ := alone run' same
  obtain rfl : t' = t := Option.some.inj (ran'.exec.symm.trans ran.exec)
  exact ⟨isolates'.tasks.symm.trans isolates.tasks,isolates'.log.symm.trans isolates.log⟩

end

section
attribute [local instance] Sample.argon2 Sample.base64

/-- A peer comes second and is greeted while the other one says hello. -/
def sampleSecond : List ServerAction :=
  [.Accept sampleBystander sampleOffline sampleOther 0 0,.Accept sampleMailer Sample.outside samplePeer 0 0,.Handle 0 1,
    .Handle 1 2,.Handle 0 3,.Handle 1 4]

theorem peer_served_as_if_alone_sample : ∃ s t,
    follow Server.step (fun _ _ => True) (.start sampleConfig (.new 1 1 (from_secs 1800)) 0) sampleSecond = some s ∧
    Run Server.step (Server.Prompt samplePeer) (.start sampleConfig (.new 1 1 (from_secs 1800)) 0)
      [.Accept sampleMailer Sample.outside samplePeer 0 0,.Handle 0 2,.Handle 0 4] t ∧ t.log = s.log.filter (·.1 = samplePeer) := by
  have ran : (follow Server.step (fun _ _ => True) (.start sampleConfig (.new 1 1 (from_secs 1800)) 0)
      sampleSecond).isSome = true := by decide +kernel
  obtain ⟨s,followed⟩ := Option.isSome_iff_exists.mp ran
  have mine : Server.own samplePeer (.start sampleConfig (.new 1 1 (from_secs 1800)) 0) sampleSecond =
      [.Accept sampleMailer Sample.outside samplePeer 0 0,.Handle 0 2,.Handle 0 4] := rfl
  have accepted : Server.Prompt samplePeer (.start sampleConfig (.new 1 1 (from_secs 1800)) 0)
      (.Accept sampleMailer Sample.outside samplePeer 0 0) := by
    refine ⟨?_,prompt_verdict rfl,trivial⟩
    intro info known
    cases known
  obtain ⟨t,alone,-,log⟩ := (peer_served_as_if_alone sampleConfig _ 0 (run_of_follow .start _ followed) samplePeer mine
    ⟨accepted,trivial,trivial,trivial⟩).1
  exact ⟨s,t,followed,alone,log⟩

end
end PostGraph
