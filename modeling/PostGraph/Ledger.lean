import PostGraph.Gate

/-!
The fail2ban records against the history they stand for. The gate is given a
ledger of the sessions that ended; the records are then compared with what the
ledger says of a peer. A peer whose sessions are over in time has all its recent
fails on record, so repeat offenders are banned; a peer whose record is never
lost while it has open sessions has nothing on record that it did not do.
-/
namespace PostGraph
open Runs Counts
set_option autoImplicit false

namespace Fail2Ban

/-- The verdict that `on_connect` asks for. -/
def verdict_on_connect (self : Fail2Ban) (peer : IpAddr) (pushed judged : Instant) : Verdict :=
  ((self.push_connection peer pushed).get_verdict peer judged).1

theorem connect_result (self : Fail2Ban) (peer : IpAddr) (pushed judged : Instant) :
    (self.connect peer pushed judged).1 =
      if self.verdict_on_connect peer pushed judged = .Ok then .Ok else .Reject := rfl

theorem verdict_on_connect_eq (self : Fail2Ban) (peer : IpAddr) (pushed judged : Instant) :
    self.verdict_on_connect peer pushed judged = self.judge (if elapsed pushed judged ≤ self.max_age then
      some (pushed_info (self.peers peer) pushed) else none) := by
  obtain ⟨connections,fails,-⟩ := connect_limits self peer pushed judged
  have own := connect_own self peer pushed judged
  simp only [connect,get_verdict] at connections fails own
  simp only [verdict_on_connect,get_verdict,own,judge,connections,fails]

/-- There is no record exactly if the purge already finds the new one too old. -/
theorem no_record_iff (self : Fail2Ban) (peer : IpAddr) (pushed judged : Instant) :
    self.verdict_on_connect peer pushed judged = .NoRecord ↔ self.max_age < elapsed pushed judged := by
  rw [verdict_on_connect_eq]
  by_cases fresh : elapsed pushed judged ≤ self.max_age
  · rw [if_pos fresh]
    refine iff_of_false ?_ (Nat.not_lt.mpr fresh)
    simp only [judge]
    split_ifs <;> simp
  · rw [if_neg fresh]
    exact iff_of_true rfl (Nat.lt_of_not_le fresh)

end Fail2Ban

/-- A session that ended. -/
structure Departure where
  peer : IpAddr
  time : Instant
  productive : Bool
  deriving DecidableEq

structure Ledger where
  gate : Gate
  ended : List Departure

namespace Ledger

def start (max_connections max_fails : Nat) (max_age : Duration) (clock : Instant) : Ledger :=
  ⟨.start max_connections max_fails max_age clock,[]⟩

/-- The session that an action ends. -/
def ending (self : Ledger) : GateAction → List Departure
  | .Disconnect i now productive => (self.gate.visits[i]?).toList.map fun visit => ⟨visit.peer,now,productive⟩
  | _ => []

def step (self : Ledger) (a : GateAction) : Option Ledger :=
  (self.gate.step a).map fun gate => ⟨gate,self.ended ++ self.ending a⟩

/-- The sessions of a peer that ended unproductively. -/
def failed (self : Ledger) (p : IpAddr) : Nat := self.ended.countP fun e => e.peer = p ∧ ¬ e.productive

/-- Those of them that ended within the last `max_age`. -/
def failed_within (self : Ledger) (p : IpAddr) (max_age : Duration) (now : Instant) : Nat :=
  self.ended.countP fun e => (e.peer = p ∧ ¬ e.productive) ∧ elapsed e.time now ≤ max_age

def connected (self : Ledger) (peer : IpAddr) (pushed judged : Instant) : Ledger where
  gate := ⟨(self.gate.fail2ban.connect peer pushed judged).2,self.gate.visits ++ [⟨peer,pushed⟩],judged,
    self.gate.sessions + 1⟩
  ended := self.ended

def disconnected (self : Ledger) (i : Nat) (visit : Visit) (now : Instant) (productive : Bool) : Ledger where
  gate := ⟨self.gate.fail2ban.disconnect visit.peer now productive,self.gate.visits.eraseIdx i,now,
    self.gate.sessions⟩
  ended := self.ended ++ [⟨visit.peer,now,productive⟩]

/-- What a step can do. -/
inductive Steps (l : Ledger) : GateAction → Ledger → Prop
  | connect (peer : IpAddr) (pushed judged : Instant) (later : l.gate.clock ≤ pushed) (after : pushed ≤ judged) :
      Steps l (.Connect peer pushed judged) (l.connected peer pushed judged)
  | disconnect (i : Nat) (now : Instant) (productive : Bool) (visit : Visit) (here : l.gate.visits[i]? = some visit)
      (later : l.gate.clock ≤ now) : Steps l (.Disconnect i now productive) (l.disconnected i visit now productive)
  | wait (now : Instant) (later : l.gate.clock ≤ now) : Steps l (.Wait now) ⟨{ l.gate with clock := now },l.ended⟩

variable {l l' : Ledger} {a : GateAction} {as : List GateAction} {p : IpAddr}

theorem steps_of_step (stepped : l.step a = some l') : l.Steps a l' := by
  obtain ⟨gate,moved,rfl⟩ := Option.map_eq_some_iff.mp stepped
  cases Gate.steps_of_step moved with
  | connect peer pushed judged later after =>
    simpa [ending,connected] using Steps.connect (l := l) peer pushed judged later after
  | disconnect i now productive visit here later =>
    simpa [ending,here,disconnected] using Steps.disconnect (l := l) i now productive visit here later
  | wait now later => simpa [ending] using Steps.wait (l := l) now later

/-- The gate of a ledger runs as it does without one. -/
theorem gate_of_run {ok : Ledger → GateAction → Prop} {l₀ : Ledger} (run : Run step ok l₀ as l) :
    Run Gate.step (fun _ _ => True) l₀.gate as l.gate := by
  induction run with
  | start => exact .start
  | next _ _ stepped ih =>
    obtain ⟨gate,moved,rfl⟩ := Option.map_eq_some_iff.mp stepped
    exact .next ih trivial moved

theorem limits_of_run {ok : Ledger → GateAction → Prop} {max_connections max_fails : Nat} {max_age : Duration}
    {clock : Instant} (run : Run step ok (start max_connections max_fails max_age clock) as l) :
    l.gate.fail2ban.max_connections = max_connections ∧ l.gate.fail2ban.max_fails = max_fails ∧
      l.gate.fail2ban.max_age = max_age :=
  Gate.limits_of_run (gate_of_run run)

theorem disconnected_peers (i : Nat) (visit : Visit) (now : Instant) (productive : Bool) :
    (l.disconnected i visit now productive).gate.fail2ban.peers p =
      if p = visit.peer then
        (l.gate.fail2ban.peers visit.peer).map fun info => Fail2Ban.popped_info info now productive
      else l.gate.fail2ban.peers p :=
  Fail2Ban.disconnect_peers l.gate.fail2ban visit.peer p now productive

theorem disconnected_clock (i : Nat) (visit : Visit) (now : Instant) (productive : Bool) :
    (l.disconnected i visit now productive).gate.clock = now := rfl

theorem failed_disconnected (i : Nat) (visit : Visit) (now : Instant) (productive : Bool) :
    (l.disconnected i visit now productive).failed p =
      l.failed p + if visit.peer = p ∧ ¬ productive then 1 else 0 := by
  simp only [disconnected,failed,List.countP_append,List.countP_singleton,decide_eq_true_eq]

theorem failed_within_disconnected (i : Nat) (visit : Visit) (now : Instant) (productive : Bool) (max_age : Duration) :
    (l.disconnected i visit now productive).failed_within p max_age now =
      l.failed_within p max_age now + if visit.peer = p ∧ ¬ productive then 1 else 0 := by
  have recent : elapsed now now ≤ max_age := by simp [elapsed]
  simp only [disconnected,failed_within,List.countP_append,List.countP_singleton,decide_eq_true_eq,recent,and_true]

/-! ### Repeat offenders -/

/-- The sessions of the peer last at most `max_age`, those that enter included. -/
structure Lasting (p : IpAddr) (l : Ledger) (a : GateAction) : Prop where
  present : ∀ visit ∈ l.gate.visits, visit.peer = p → elapsed visit.since a.time ≤ l.gate.fail2ban.max_age
  entering : ∀ pushed judged, a = .Connect p pushed judged → elapsed pushed judged ≤ l.gate.fail2ban.max_age

/-- What is on record against a peer. -/
def recorded (self : Ledger) (p : IpAddr) : Nat := ((self.gate.fail2ban.peers p).map (·.fails)).getD 0

/-- The record of the peer is kept while it has open sessions and as recent as its
    sessions and fails, and counts its recent fails. -/
structure Watched (p : IpAddr) (l : Ledger) : Prop where
  arrived : ∀ visit ∈ l.gate.visits, visit.peer = p → visit.since ≤ l.gate.clock
  known : ∀ visit ∈ l.gate.visits, visit.peer = p →
    ∃ info, l.gate.fail2ban.peers p = some info ∧ visit.since ≤ info.time
  past : ∀ e ∈ l.ended, e.time ≤ l.gate.clock
  newest : ∀ info, l.gate.fail2ban.peers p = some info →
    ∀ e ∈ l.ended, e.peer = p → ¬ e.productive → e.time ≤ info.time
  true_fails : l.recorded p ≤ l.failed p
  counted : l.failed p < U32_VALUES → l.failed_within p l.gate.fail2ban.max_age l.gate.clock ≤ l.recorded p

theorem watched_start (max_connections max_fails : Nat) (max_age : Duration) (clock : Instant) :
    (start max_connections max_fails max_age clock).Watched p := by
  refine ⟨?_,?_,?_,?_,?_,?_⟩ <;> simp [start,Gate.start,Fail2Ban.new,recorded,failed,failed_within]

/-- Fewer fails are recent later on. -/
theorem failed_within_later (max_age : Duration) {now later : Instant} (after : now ≤ later) :
    l.failed_within p max_age later ≤ l.failed_within p max_age now := by
  apply List.countP_mono_left
  intro e _ within
  simp only [decide_eq_true_eq] at within ⊢
  exact ⟨within.1,Nat.le_trans (Nat.sub_le_sub_right after e.time) within.2⟩

theorem recorded_eq {info : PeerInfo} (known : l.gate.fail2ban.peers p = some info) : l.recorded p = info.fails := by
  simp [recorded,known]

theorem Watched.connect (watched : l.Watched p) {pushed judged : Instant}
    (lasting : l.Lasting p (.Connect p pushed judged)) (later : l.gate.clock ≤ pushed) (after : pushed ≤ judged) :
    (l.connected p pushed judged).Watched p := by
  have own := Fail2Ban.connect_own l.gate.fail2ban p pushed judged
  rw [if_pos (lasting.entering pushed judged rfl)] at own
  have age : (l.connected p pushed judged).gate.fail2ban.max_age = l.gate.fail2ban.max_age :=
    (Fail2Ban.connect_limits _ _ _ _).2.2
  have since (visit : Visit) (member : visit ∈ l.gate.visits ++ [⟨p,pushed⟩]) (mine : visit.peer = p) :
      visit.since ≤ pushed := by
    rcases List.mem_append.mp member with before | new
    · exact Nat.le_trans (watched.arrived visit before mine) later
    · obtain rfl := List.mem_singleton.mp new
      exact Nat.le_refl pushed
  have same : (l.connected p pushed judged).recorded p = l.recorded p := by
    rw [recorded_eq (l := l.connected p pushed judged) own,recorded]
    cases l.gate.fail2ban.peers p <;> rfl
  refine ⟨?_,?_,?_,?_,?_,?_⟩
  · intro visit member mine
    exact Nat.le_trans (since visit member mine) after
  · intro visit member mine
    exact ⟨_,own,by simpa using since visit member mine⟩
  · intro e member
    exact Nat.le_trans (watched.past e member) (Nat.le_trans later after)
  · intro info known e member _ _
    obtain rfl := Option.some.inj (own.symm.trans known)
    simpa using Nat.le_trans (watched.past e member) later
  · rw [same]
    exact watched.true_fails
  · intro few
    rw [same]
    rw [age]
    exact Nat.le_trans (failed_within_later _ (Nat.le_trans later after)) (watched.counted few)

/-- When another peer's purge takes the record, the peer has neither open sessions nor
    recent fails. -/
theorem Watched.connect_other (watched : l.Watched p) {q : IpAddr} (other : p ≠ q) {pushed judged : Instant}
    (lasting : l.Lasting p (.Connect q pushed judged)) (later : l.gate.clock ≤ pushed) (after : pushed ≤ judged) :
    (l.connected q pushed judged).Watched p := by
  have kept (info : PeerInfo) : (l.connected q pushed judged).gate.fail2ban.peers p = some info ↔
      l.gate.fail2ban.peers p = some info ∧ elapsed info.time judged ≤ l.gate.fail2ban.max_age :=
    Fail2Ban.connect_other _ _ _ _ _ other
  have age : (l.connected q pushed judged).gate.fail2ban.max_age = l.gate.fail2ban.max_age :=
    (Fail2Ban.connect_limits _ _ _ _).2.2
  have mine_before (visit : Visit) (member : visit ∈ l.gate.visits ++ [⟨q,pushed⟩]) (mine : visit.peer = p) :
      visit ∈ l.gate.visits := by
    rcases List.mem_append.mp member with before | new
    · exact before
    · rw [List.mem_singleton.mp new] at mine
      exact absurd mine.symm other
  have fate : (l.connected q pushed judged).recorded p = l.recorded p ∨
      (l.connected q pushed judged).recorded p = 0 ∧ l.failed_within p l.gate.fail2ban.max_age judged = 0 := by
    have peers := Fail2Ban.connect_peers l.gate.fail2ban q p pushed judged
    rw [if_neg other] at peers
    simp only [recorded,connected,peers]
    cases known : l.gate.fail2ban.peers p with
    | none => exact .inl rfl
    | some info =>
      by_cases fresh : elapsed info.time judged ≤ l.gate.fail2ban.max_age
      · exact .inl (by simp [Option.filter_some,fresh])
      · refine .inr ⟨by simp [Option.filter_some,fresh],List.countP_eq_zero.mpr ?_⟩
        intro e member within
        obtain ⟨⟨mine,unproductive⟩,recent⟩ := by simpa only [decide_eq_true_eq] using within
        have before := watched.newest info known e member mine unproductive
        exact fresh (Nat.le_trans (Nat.sub_le_sub_left before judged) recent)
  refine ⟨?_,?_,?_,?_,?_,?_⟩
  · intro visit member mine
    exact Nat.le_trans (watched.arrived visit (mine_before visit member mine) mine) (Nat.le_trans later after)
  · intro visit member mine
    have before := mine_before visit member mine
    obtain ⟨info,known,recent⟩ := watched.known visit before mine
    have fresh := Nat.le_trans (Nat.sub_le_sub_left recent judged) (lasting.present visit before mine)
    exact ⟨info,(kept info).mpr ⟨known,fresh⟩,recent⟩
  · intro e member
    exact Nat.le_trans (watched.past e member) (Nat.le_trans later after)
  · intro info known
    exact watched.newest info ((kept info).mp known).1
  · rcases fate with same | ⟨lost,-⟩
    · exact same ▸ watched.true_fails
    · exact lost ▸ Nat.zero_le _
  · intro few
    rw [age]
    rcases fate with same | ⟨-,none⟩
    · rw [same]
      exact Nat.le_trans (failed_within_later _ (Nat.le_trans later after)) (watched.counted few)
    · exact Nat.le_trans (Nat.le_of_eq none) (Nat.zero_le _)

theorem Watched.disconnect (watched : l.Watched p) {i : Nat} {now : Instant} {visit : Visit} (productive : Bool)
    (here : l.gate.visits[i]? = some visit) (later : l.gate.clock ≤ now) :
    (l.disconnected i visit now productive).Watched p := by
  have records := disconnected_peers (l := l) (p := p) i visit now productive
  have age : (l.disconnected i visit now productive).gate.fail2ban.max_age = l.gate.fail2ban.max_age :=
    (Fail2Ban.disconnect_limits _ _ _ _).2.2
  have past : ∀ e ∈ l.ended ++ [⟨visit.peer,now,productive⟩], e.time ≤ now := by
    intro e member
    rcases List.mem_append.mp member with before | new
    · exact Nat.le_trans (watched.past e before) later
    · obtain rfl := List.mem_singleton.mp new
      exact Nat.le_refl now
  have earlier := failed_within_later (l := l) (p := p) l.gate.fail2ban.max_age later
  have arrived (other : Visit) (member : other ∈ l.gate.visits.eraseIdx i) (mine : other.peer = p) :
      other.since ≤ now :=
    Nat.le_trans (watched.arrived other (List.mem_of_mem_eraseIdx member) mine) later
  by_cases own : visit.peer = p
  · obtain ⟨info,known,-⟩ := watched.known visit (List.mem_of_getElem? here) own
    obtain ⟨left,known',fails',time'⟩ : ∃ left,
        (l.disconnected i visit now productive).gate.fail2ban.peers p = some left ∧
        left.fails = (if productive then info.fails else (info.fails + 1) % U32_VALUES) ∧
        left.time = if productive then info.time else now := by
      have mine : l.gate.fail2ban.peers visit.peer = some info := by rw [own,known]
      rw [if_pos own.symm,mine,Option.map_some] at records
      exact ⟨Fail2Ban.popped_info info now productive,records,by simp [Fail2Ban.popped_info],
        by simp [Fail2Ban.popped_info]⟩
    have fails := watched.true_fails
    rw [recorded_eq known] at fails
    have recorded' : (l.disconnected i visit now productive).recorded p = left.fails := recorded_eq known'
    refine ⟨arrived,?_,past,?_,?_,?_⟩
    · intro other member mine
      refine ⟨left,known',?_⟩
      cases productive
      · exact time' ▸ arrived other member mine
      · obtain ⟨info',same,recent⟩ := watched.known other (List.mem_of_mem_eraseIdx member) mine
        obtain rfl := Option.some.inj (known.symm.trans same)
        exact time' ▸ recent
    · intro left' same e member mine unproductive
      obtain rfl := Option.some.inj (known'.symm.trans same)
      cases productive
      · exact time' ▸ past e member
      · rcases List.mem_append.mp member with before | new
        · exact time' ▸ watched.newest info known e before mine unproductive
        · simp [List.mem_singleton.mp new] at unproductive
    · have wrapped := Nat.mod_le (info.fails + 1) U32_VALUES
      rw [recorded',fails',failed_disconnected]
      cases productive
      · simp [own]
        omega
      · simp
        omega
    · intro few
      rw [failed_disconnected] at few
      rw [recorded',fails',age,disconnected_clock,failed_within_disconnected]
      cases productive
      · have more : (info.fails + 1) % U32_VALUES = info.fails + 1 := Nat.mod_eq_of_lt (by simp [own] at few; omega)
        have counted := watched.counted (by simp [own] at few; omega)
        rw [recorded_eq known] at counted
        simp only [Bool.false_eq_true,if_false,more]
        split_ifs <;> omega
      · have counted := watched.counted (by simpa using few)
        rw [recorded_eq known] at counted
        simpa using Nat.le_trans earlier counted
  · rw [if_neg (Ne.symm own)] at records
    have same : (l.disconnected i visit now productive).recorded p = l.recorded p := by
      simp only [recorded,records]
    refine ⟨arrived,?_,past,?_,?_,?_⟩
    · intro other member mine
      rw [records]
      exact watched.known other (List.mem_of_mem_eraseIdx member) mine
    · intro info known e member mine unproductive
      rw [records] at known
      rcases List.mem_append.mp member with before | new
      · exact watched.newest info known e before mine unproductive
      · rw [List.mem_singleton.mp new] at mine
        exact absurd mine own
    · rw [same,failed_disconnected,if_neg fun mine => own mine.1]
      exact watched.true_fails
    · rw [same,failed_disconnected,if_neg fun mine => own mine.1,age,disconnected_clock,failed_within_disconnected,
        if_neg fun mine => own mine.1]
      exact fun few => Nat.le_trans earlier (watched.counted few)

theorem Watched.step (watched : l.Watched p) (lasting : l.Lasting p a) (stepped : l.step a = some l') :
    l'.Watched p := by
  cases steps_of_step stepped with
  | connect q pushed judged later after =>
    by_cases same : p = q
    · subst same
      exact watched.connect lasting later after
    · exact watched.connect_other same lasting later after
  | disconnect i now productive visit here later => exact watched.disconnect productive here later
  | wait now later =>
    refine ⟨?_,watched.known,?_,watched.newest,watched.true_fails,?_⟩
    · exact fun visit member mine => Nat.le_trans (watched.arrived visit member mine) later
    · exact fun e member => Nat.le_trans (watched.past e member) later
    · exact fun few => Nat.le_trans (failed_within_later _ later) (watched.counted few)

/-- In every run in which the sessions of a peer last at most `max_age`, each `on_connect`
    of the peer with too many recent fails is rejected for them, whatever other
    peers do. -/
theorem repeat_offender_banned (max_connections max_fails : Nat) (max_age : Duration) (clock : Instant)
    {as : List GateAction} {l l' : Ledger} {p : IpAddr} {pushed judged : Instant}
    (run : Run step (Lasting p) (start max_connections max_fails max_age clock) as l)
    (few : l.failed p < U32_VALUES) (lasting : l.Lasting p (.Connect p pushed judged))
    (stepped : l.step (.Connect p pushed judged) = some l') (offender : max_fails < l.failed_within p max_age pushed) :
    l.gate.fail2ban.verdict_on_connect p pushed judged = .TooManyFails ∧
      (l.gate.fail2ban.connect p pushed judged).1 = .Reject := by
  have watched : l.Watched p := run.preserves (I := fun _ l => l.Watched p) (watched_start _ _ _ _)
    fun _ _ _ _ _ lasting stepped watched => watched.step lasting stepped
  obtain ⟨-,fails,age⟩ := limits_of_run run
  have later : l.gate.clock ≤ pushed := by
    cases steps_of_step stepped with
    | connect _ _ _ later _ => exact later
  have counted := watched.counted few
  rw [age] at counted
  have banned : max_fails < l.recorded p :=
    Nat.lt_of_lt_of_le offender (Nat.le_trans (failed_within_later _ later) counted)
  have verdict : l.gate.fail2ban.verdict_on_connect p pushed judged = .TooManyFails := by
    rw [Fail2Ban.verdict_on_connect_eq,if_pos (lasting.entering pushed judged rfl)]
    cases known : l.gate.fail2ban.peers p with
    | none => simp [recorded,known] at banned
    | some info =>
      rw [recorded_eq known] at banned
      simp [Fail2Ban.judge,Fail2Ban.pushed_info,fails,banned]
  refine ⟨verdict,?_⟩
  rw [Fail2Ban.connect_result,verdict]
  rfl

/-! ### Innocent peers -/

/-- The record of the peer is not lost while it has open sessions: its own `on_connect`
    takes at most `max_age`, and the purge of another one finds it no older. -/
def Sparing (p : IpAddr) (l : Ledger) : GateAction → Prop
  | .Connect q pushed judged =>
    if q = p then elapsed pushed judged ≤ l.gate.fail2ban.max_age
    else l.gate.open_sessions p ≠ 0 → ∀ info, l.gate.fail2ban.peers p = some info →
      elapsed info.time judged ≤ l.gate.fail2ban.max_age
  | _ => True

/-- The record of the peer has nothing that the peer did not do. -/
structure Deserved (p : IpAddr) (l : Ledger) : Prop where
  known : l.gate.open_sessions p ≠ 0 → ∃ info, l.gate.fail2ban.peers p = some info
  counts : ∀ info, l.gate.fail2ban.peers p = some info → info.connections = l.gate.open_sessions p % U32_VALUES
  fails : ∀ info, l.gate.fail2ban.peers p = some info → info.fails ≤ l.failed p

theorem deserved_start (max_connections max_fails : Nat) (max_age : Duration) (clock : Instant) :
    (start max_connections max_fails max_age clock).Deserved p := by
  refine ⟨?_,?_,?_⟩ <;> simp [start,Gate.start,Fail2Ban.new,Gate.open_sessions]

theorem Deserved.pushed (deserved : l.Deserved p) (now : Instant) :
    (Fail2Ban.pushed_info (l.gate.fail2ban.peers p) now).connections = (l.gate.open_sessions p + 1) % U32_VALUES ∧
      (Fail2Ban.pushed_info (l.gate.fail2ban.peers p) now).fails ≤ l.failed p := by
  cases known : l.gate.fail2ban.peers p with
  | some info =>
    have counted := deserved.counts info known
    refine ⟨?_,deserved.fails info known⟩
    simp only [Fail2Ban.pushed_info,counted,Nat.mod_add_mod]
  | none =>
    have nobody : l.gate.open_sessions p = 0 := by
      by_contra somebody
      obtain ⟨info,same⟩ := deserved.known somebody
      simp [known] at same
    refine ⟨?_,Nat.zero_le _⟩
    rw [nobody]
    simp [Fail2Ban.pushed_info]

theorem Deserved.connect (deserved : l.Deserved p) {q : IpAddr} {pushed judged : Instant}
    (sparing : l.Sparing p (.Connect q pushed judged)) :
    (l.connected q pushed judged).Deserved p := by
  have visits : (l.connected q pushed judged).gate.open_sessions p =
      l.gate.open_sessions p + if q = p then 1 else 0 := by
    rw [Gate.open_sessions,connected,Gate.open_sessions_connect]
  by_cases same : p = q
  · subst same
    rw [if_pos rfl] at visits
    have own := Fail2Ban.connect_own l.gate.fail2ban p pushed judged
    rw [if_pos (by simpa [Sparing] using sparing)] at own
    obtain ⟨connections,fails⟩ := deserved.pushed pushed
    refine ⟨fun _ => ⟨_,own⟩,?_,?_⟩
    · intro info known
      obtain rfl := Option.some.inj (own.symm.trans known)
      rw [visits,connections]
    · intro info known
      obtain rfl := Option.some.inj (own.symm.trans known)
      exact fails
  · have kept (info : PeerInfo) : (l.connected q pushed judged).gate.fail2ban.peers p = some info ↔
        l.gate.fail2ban.peers p = some info ∧ elapsed info.time judged ≤ l.gate.fail2ban.max_age :=
      Fail2Ban.connect_other _ _ _ _ _ same
    rw [if_neg (Ne.symm same),Nat.add_zero] at visits
    refine ⟨?_,?_,?_⟩
    · intro somebody
      rw [visits] at somebody
      obtain ⟨info,known⟩ := deserved.known somebody
      have recent : elapsed info.time judged ≤ l.gate.fail2ban.max_age := by
        simp only [Sparing,if_neg (Ne.symm same)] at sparing
        exact sparing somebody info known
      exact ⟨info,(kept info).mpr ⟨known,recent⟩⟩
    · intro info known
      rw [visits]
      exact deserved.counts info ((kept info).mp known).1
    · intro info known
      exact deserved.fails info ((kept info).mp known).1

theorem Deserved.disconnect (deserved : l.Deserved p) {i : Nat} {now : Instant} {visit : Visit} (productive : Bool)
    (here : l.gate.visits[i]? = some visit) :
    (l.disconnected i visit now productive).Deserved p := by
  have left := Gate.open_sessions_disconnect here p
  have records := disconnected_peers (l := l) (p := p) i visit now productive
  have visits : (l.disconnected i visit now productive).gate.open_sessions p =
      (l.gate.visits.eraseIdx i).countP fun visit => visit.peer = p := rfl
  by_cases own : visit.peer = p
  · rw [if_pos own,← visits] at left
    rw [if_pos own.symm,own] at records
    refine ⟨?_,?_,?_⟩
    · intro _
      obtain ⟨info,known⟩ := deserved.known (by omega)
      exact ⟨Fail2Ban.popped_info info now productive,by rw [records,known]; rfl⟩
    · intro info known
      rw [records] at known
      obtain ⟨before,recorded,rfl⟩ := Option.map_eq_some_iff.mp known
      have counted := deserved.counts before recorded
      simp only [Fail2Ban.popped_info,counted,U32_VALUES]
      omega
    · intro info known
      rw [records] at known
      obtain ⟨before,recorded,rfl⟩ := Option.map_eq_some_iff.mp known
      have fails := deserved.fails before recorded
      have wrapped := Nat.mod_le (before.fails + 1) U32_VALUES
      rw [failed_disconnected]
      cases productive
      · simp only [Fail2Ban.popped_info,own]
        simp
        omega
      · simpa [Fail2Ban.popped_info] using fails
  · rw [if_neg own,Nat.add_zero,← visits] at left
    rw [if_neg (Ne.symm own)] at records
    refine ⟨?_,?_,?_⟩
    · intro somebody
      rw [records]
      exact deserved.known (left ▸ somebody)
    · intro info known
      rw [← left]
      exact deserved.counts info (records ▸ known)
    · intro info known
      rw [failed_disconnected,if_neg fun mine => own mine.1]
      exact deserved.fails info (records ▸ known)

theorem Deserved.step (deserved : l.Deserved p) (sparing : l.Sparing p a) (stepped : l.step a = some l') :
    l'.Deserved p := by
  cases steps_of_step stepped with
  | connect q pushed judged later after => exact deserved.connect sparing
  | disconnect i now productive visit here later => exact deserved.disconnect productive here
  | wait now later => exact ⟨deserved.known,deserved.counts,deserved.fails⟩

/-- In every run in which the record of a peer is not lost while it has open sessions, an
    `on_connect` of the peer that rejects it has a reason: too many sessions of
    the peer are open, or too many of them failed. -/
theorem innocent_not_rejected (max_connections max_fails : Nat) (max_age : Duration) (clock : Instant)
    {as : List GateAction} {l : Ledger} {p : IpAddr} {pushed judged : Instant}
    (run : Run step (Sparing p) (start max_connections max_fails max_age clock) as l)
    (sparing : l.Sparing p (.Connect p pushed judged)) :
    l.gate.fail2ban.verdict_on_connect p pushed judged ≠ .NoRecord ∧
      ((l.gate.fail2ban.connect p pushed judged).1 = .Reject →
        max_connections < l.gate.open_sessions p + 1 ∨ max_fails < l.failed p) := by
  have deserved : l.Deserved p := run.preserves (I := fun _ l => l.Deserved p) (deserved_start _ _ _ _)
    fun _ _ _ _ _ sparing stepped deserved => deserved.step sparing stepped
  obtain ⟨connections,fails,-⟩ := limits_of_run run
  have fresh : elapsed pushed judged ≤ l.gate.fail2ban.max_age := by simpa [Sparing] using sparing
  obtain ⟨counted,few⟩ := deserved.pushed pushed
  have wrapped := Nat.mod_le (l.gate.open_sessions p + 1) U32_VALUES
  constructor
  · intro missing
    exact Nat.not_lt.mpr fresh ((Fail2Ban.no_record_iff _ p pushed judged).mp missing)
  · intro rejected
    rw [Fail2Ban.connect_result,Fail2Ban.verdict_on_connect_eq,if_pos fresh] at rejected
    by_contra innocent
    obtain ⟨within,within'⟩ := not_or.mp innocent
    have accepted : l.gate.fail2ban.judge (some (Fail2Ban.pushed_info (l.gate.fail2ban.peers p) pushed)) = .Ok :=
      (Fail2Ban.judge_ok _).mpr ⟨_,rfl,by omega,by omega⟩
    simp [accepted] at rejected

end Ledger

/-! ### Examples -/

section
open Ledger

def sampleLedger (max_connections max_fails : Nat) (max_age : Duration) : Ledger :=
  .start max_connections max_fails max_age 0

/-- A peer whose session failed 20 seconds ago, with no fail allowed. -/
theorem repeat_offender_banned_sample : ∃ l, exec step (sampleLedger 5 0 (from_secs 60))
      [.Connect samplePeer 0 0,.Disconnect 0 (from_secs 10) false] = some l ∧
    l.failed_within samplePeer (from_secs 60) (from_secs 30) = 1 ∧
    l.gate.fail2ban.verdict_on_connect samplePeer (from_secs 30) (from_secs 31) = .TooManyFails := by
  have first : Lasting samplePeer (sampleLedger 5 0 (from_secs 60)) (.Connect samplePeer 0 0) := by
    refine ⟨?_,?_⟩
    · intro visit member
      exact absurd member (List.not_mem_nil)
    · intro pushed judged same
      cases same
      decide
  have one : Run step (Lasting samplePeer) (sampleLedger 5 0 (from_secs 60)) [.Connect samplePeer 0 0] _ :=
    .next .start first rfl
  have second (l : Ledger) (stepped : step (sampleLedger 5 0 (from_secs 60)) (.Connect samplePeer 0 0) = some l) :
      l.Lasting samplePeer (.Disconnect 0 (from_secs 10) false) := by
    obtain rfl := Option.some.inj stepped
    refine ⟨?_,nofun⟩
    intro visit member _
    rw [List.mem_singleton.mp member]
    decide
  have two : Run step (Lasting samplePeer) (sampleLedger 5 0 (from_secs 60))
      [.Connect samplePeer 0 0,.Disconnect 0 (from_secs 10) false] _ := .next one (second _ rfl) rfl
  refine ⟨_,rfl,rfl,(repeat_offender_banned 5 0 (from_secs 60) 0 two (by decide) ?_ rfl (by decide)).1⟩
  refine ⟨?_,?_⟩
  · intro visit member
    exact absurd member (List.not_mem_nil)
  · intro pushed judged same
    cases same
    decide

/-- With a ban of no duration, the first connection of a peer is rejected if the clock
    moves while it is judged. With one of a minute, a peer is rejected that has
    no other open session and no fail, since its count was damaged before: the
    record of its first two sessions was purged, and a new one counts all three
    that end. -/
theorem innocent_peer_rejected :
    ((sampleLedger 5 5 0).gate.fail2ban.verdict_on_connect samplePeer 0 1 = .NoRecord ∧
      ((sampleLedger 5 5 0).gate.fail2ban.connect samplePeer 0 1).1 = .Reject) ∧
    ∃ l, exec step (sampleLedger 5 5 (from_secs 60)) [.Connect samplePeer 0 0,.Connect samplePeer 0 0,
        .Connect sampleOther (from_secs 61) (from_secs 61),.Connect samplePeer (from_secs 62) (from_secs 62),
        .Disconnect 0 (from_secs 63) true,.Disconnect 0 (from_secs 63) true,
        .Disconnect 1 (from_secs 63) true] = some l ∧
      l.gate.open_sessions samplePeer = 0 ∧ l.failed samplePeer = 0 ∧
      (l.gate.fail2ban.connect samplePeer (from_secs 64) (from_secs 64)).1 = .Reject :=
  ⟨by decide,_,rfl,rfl,rfl,by decide⟩

/-- Another peer connects while the session of the peer is open, which then fails; the next
    connection of the peer is rejected for this fail. -/
theorem innocent_not_rejected_sample : ∃ l, exec step (sampleLedger 1 0 (from_secs 60))
      [.Connect samplePeer 0 (from_secs 1),.Connect sampleOther (from_secs 10) (from_secs 11),
        .Disconnect 0 (from_secs 20) false] = some l ∧
    l.gate.fail2ban.verdict_on_connect samplePeer (from_secs 30) (from_secs 31) ≠ .NoRecord ∧
    (l.gate.fail2ban.connect samplePeer (from_secs 30) (from_secs 31)).1 = .Reject ∧
    (1 < l.gate.open_sessions samplePeer + 1 ∨ 0 < l.failed samplePeer) := by
  have own {l : Ledger} (pushed judged : Instant) (fresh : elapsed pushed judged ≤ l.gate.fail2ban.max_age) :
      l.Sparing samplePeer (.Connect samplePeer pushed judged) := by simpa [Sparing] using fresh
  have one : Run step (Sparing samplePeer) (sampleLedger 1 0 (from_secs 60)) [.Connect samplePeer 0 (from_secs 1)] _ :=
    .next .start (own _ _ (by decide)) rfl
  have second (l : Ledger) (stepped : step (sampleLedger 1 0 (from_secs 60)) (.Connect samplePeer 0 (from_secs 1)) = some l) :
      l.Sparing samplePeer (.Connect sampleOther (from_secs 10) (from_secs 11)) := by
    obtain rfl := Option.some.inj stepped
    rintro - info known
    cases known
    decide
  have two : Run step (Sparing samplePeer) (sampleLedger 1 0 (from_secs 60))
      [.Connect samplePeer 0 (from_secs 1),.Connect sampleOther (from_secs 10) (from_secs 11)] _ :=
    .next one (second _ rfl) rfl
  have three : Run step (Sparing samplePeer) (sampleLedger 1 0 (from_secs 60))
      [.Connect samplePeer 0 (from_secs 1),.Connect sampleOther (from_secs 10) (from_secs 11),
        .Disconnect 0 (from_secs 20) false] _ :=
    .next two trivial rfl
  obtain ⟨recorded,reason⟩ := innocent_not_rejected 1 0 (from_secs 60) 0 three
    (own (from_secs 30) (from_secs 31) (by decide))
  exact ⟨_,rfl,recorded,by decide,reason (by decide)⟩

end
end PostGraph
