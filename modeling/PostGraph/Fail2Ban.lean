import PostGraph.Graph
import PostGraph.Handler

/-!
Tracking of peers and their failed sessions. The counters are 32 bits wide and
wrap around, as the release build has it. Every call is given the time at which
it reads the clock; the purge, which asks the age of each record, reads it once.
-/
namespace PostGraph
set_option autoImplicit false

inductive IpAddr
  | V4 (address : BitVec 32)
  | V6 (address : BitVec 128)
  deriving DecidableEq

inductive Verdict
  | Ok
  | TooManyConnections
  | TooManyFails
  | NoRecord
  deriving DecidableEq

/-- The number of values of a `u32`, 2^32. -/
abbrev U32_VALUES : Nat := 4294967296

structure PeerInfo where
  connections : Nat
  fails : Nat
  time : Instant
  deriving DecidableEq

structure Fail2Ban where
  max_connections : Nat
  max_fails : Nat
  max_age : Duration
  peers : IpAddr → Option PeerInfo

namespace Fail2Ban

def new (max_connections max_fails : Nat) (max_age : Duration) : Fail2Ban :=
  ⟨max_connections,max_fails,max_age,fun _ => none⟩

def set (self : Fail2Ban) (peer : IpAddr) (info : PeerInfo) : Fail2Ban :=
  { self with peers := fun q => if q = peer then some info else self.peers q }

def push_connection (self : Fail2Ban) (peer : IpAddr) (now : Instant) : Fail2Ban :=
  match self.peers peer with
  | some info => self.set peer { info with connections := (info.connections + 1) % U32_VALUES, time := now }
  | none => self.set peer ⟨1,0,now⟩

/-- Record a connection close for a peer. The count of a peer without
    connections underflows. -/
def pop_connection (self : Fail2Ban) (peer : IpAddr) : Fail2Ban :=
  match self.peers peer with
  | some info => self.set peer { info with connections := (info.connections + (U32_VALUES - 1)) % U32_VALUES }
  | none => self

def push_fail (self : Fail2Ban) (peer : IpAddr) (now : Instant) : Fail2Ban :=
  match self.peers peer with
  | some info => self.set peer { info with fails := (info.fails + 1) % U32_VALUES, time := now }
  | none => self

def retain (self : Fail2Ban) (now : Instant) : Fail2Ban :=
  { self with peers := fun q => (self.peers q).filter fun info => elapsed info.time now ≤ self.max_age }

def judge (self : Fail2Ban) : Option PeerInfo → Verdict
  | some info =>
    if info.fails > self.max_fails then .TooManyFails
    else if info.connections > self.max_connections then .TooManyConnections
    else .Ok
  | none => .NoRecord

/-- Check if a peer has reached the thresholds, after cleaning up. -/
def get_verdict (self : Fail2Ban) (peer : IpAddr) (now : Instant) : Verdict × Fail2Ban :=
  let self := self.retain now
  (self.judge (self.peers peer),self)

/-- What `ProxyHandler::on_connect` does while it holds the lock: the clock is
    read when the connection is pushed and again for the verdict. -/
def connect (self : Fail2Ban) (peer : IpAddr) (pushed judged : Instant) : ConnectResult × Fail2Ban :=
  let (verdict,self) := (self.push_connection peer pushed).get_verdict peer judged
  (if verdict = .Ok then .Ok else .Reject,self)

/-- What `ProxyHandler::on_disconnect` does while it holds the lock. -/
def disconnect (self : Fail2Ban) (peer : IpAddr) (now : Instant) (productive : Bool) : Fail2Ban :=
  (if productive then self else self.push_fail peer now).pop_connection peer

/-! ### The records after each operation -/

section
variable (self : Fail2Ban) (peer q : IpAddr) (now pushed judged : Instant)

def pushed_info : Option PeerInfo → Instant → PeerInfo
  | some info, now => { info with connections := (info.connections + 1) % U32_VALUES, time := now }
  | none, now => ⟨1,0,now⟩

def popped_info (info : PeerInfo) (now : Instant) (productive : Bool) : PeerInfo where
  connections := (info.connections + (U32_VALUES - 1)) % U32_VALUES
  fails := if productive then info.fails else (info.fails + 1) % U32_VALUES
  time := if productive then info.time else now

theorem push_connection_peers : (self.push_connection peer now).peers q =
    if q = peer then some (pushed_info (self.peers peer) now) else self.peers q := by
  unfold push_connection
  cases self.peers peer <;> rfl

@[simp] theorem connect_limits : (self.connect peer pushed judged).2.max_connections = self.max_connections ∧
    (self.connect peer pushed judged).2.max_fails = self.max_fails ∧
    (self.connect peer pushed judged).2.max_age = self.max_age := by
  simp only [connect,get_verdict,retain,push_connection]
  cases self.peers peer <;> exact ⟨rfl,rfl,rfl⟩

@[simp] theorem disconnect_limits (productive : Bool) :
    (self.disconnect peer now productive).max_connections = self.max_connections ∧
    (self.disconnect peer now productive).max_fails = self.max_fails ∧
    (self.disconnect peer now productive).max_age = self.max_age := by
  unfold disconnect
  cases productive
  · simp only [Bool.false_eq_true,if_false,push_fail]
    cases known : self.peers peer <;> simp [pop_connection,known,set]
  · simp only [if_true,pop_connection]
    cases self.peers peer <;> exact ⟨rfl,rfl,rfl⟩

/-- The records after `on_connect`: the peer's is pushed, and of all of them
    those that are recent enough stay. -/
theorem connect_peers : (self.connect peer pushed judged).2.peers q =
    (if q = peer then some (pushed_info (self.peers peer) pushed) else self.peers q).filter fun info =>
      elapsed info.time judged ≤ self.max_age := by
  have limits := (connect_limits self peer pushed judged).2.2
  have pushed_peers := push_connection_peers self peer q pushed
  simp only [connect,get_verdict,retain] at limits ⊢
  rw [limits,pushed_peers]

@[simp] theorem pushed_info_time (info : Option PeerInfo) : (pushed_info info now).time = now := by
  cases info <;> rfl

theorem pushed_info_counted (info : Option PeerInfo) : (pushed_info info now).connections < U32_VALUES := by
  cases info with
  | none => exact Nat.one_lt_two_pow (n := 32) (by simp)
  | some info => exact Nat.mod_lt _ (by simp)

/-- The peer's own record survives the purge unless the lock was held too long. -/
theorem connect_own : (self.connect peer pushed judged).2.peers peer =
    if elapsed pushed judged ≤ self.max_age then some (pushed_info (self.peers peer) pushed) else none := by
  rw [connect_peers,if_pos rfl,Option.filter_some,pushed_info_time]
  simp only [decide_eq_true_eq]

/-- Of another peer's record it is asked whether it is recent enough. -/
theorem connect_other {info : PeerInfo} (other : q ≠ peer) :
    (self.connect peer pushed judged).2.peers q = some info ↔
      self.peers q = some info ∧ elapsed info.time judged ≤ self.max_age := by
  rw [connect_peers,if_neg other,Option.filter_eq_some_iff]
  simp

theorem judge_ok {info : Option PeerInfo} : self.judge info = .Ok ↔
    ∃ record, info = some record ∧ record.fails ≤ self.max_fails ∧ record.connections ≤ self.max_connections := by
  cases info with
  | none => simp [judge]
  | some record =>
    simp only [judge,Option.some.injEq,exists_eq_left']
    split_ifs <;> simp <;> omega

/-- A connection is accepted if the record that is left is within the limits. -/
theorem connect_accepts : (self.connect peer pushed judged).1 = .Ok ↔
    ∃ record, (self.connect peer pushed judged).2.peers peer = some record ∧ record.fails ≤ self.max_fails ∧
      record.connections ≤ self.max_connections := by
  have limits := connect_limits self peer pushed judged
  rw [← limits.1,← limits.2.1,← judge_ok]
  simp only [connect,get_verdict]
  split_ifs with ok
  · simp [ok]
  · simp [ok]

theorem disconnect_peers (productive : Bool) : (self.disconnect peer now productive).peers q =
    if q = peer then (self.peers peer).map fun info => popped_info info now productive else self.peers q := by
  unfold disconnect
  cases productive
  · simp only [Bool.false_eq_true,if_false,push_fail]
    cases known : self.peers peer with
    | none =>
      simp only [pop_connection,known,Option.map_none]
      by_cases same : q = peer
      · simp [same,known]
      · simp [same]
    | some info =>
      simp only [pop_connection,set,if_true,Option.map_some,popped_info]
      by_cases same : q = peer <;> simp [same]
  · simp only [if_true,pop_connection]
    cases known : self.peers peer with
    | none =>
      by_cases same : q = peer
      · simp [same,known]
      · simp [same]
    | some info =>
      simp only [set,Option.map_some,popped_info,if_true]

end
end Fail2Ban
end PostGraph
