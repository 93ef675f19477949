import Mathlib.Order.Nat
import PostGraph.Fail2Ban
import PostGraph.Gate
import PostGraph.Lib.Projections

/-!
What one peer sees of the fail2ban records that all peers share. The verdict on any
peer purges the records of all, so what others do reaches a peer exactly where it
renews a record that has grown too old and was not empty.
-/
namespace PostGraph
open Projections
set_option autoImplicit false

inductive Operation
  | PushConnection
  | PopConnection
  | PushFail
  | GetVerdict
  deriving DecidableEq

/-- A call of one of the operations, and the reading of the clock. -/
structure Call where
  peer : IpAddr
  operation : Operation
  now : Instant
  deriving DecidableEq

namespace Fail2Ban

def call (self : Fail2Ban) (c : Call) : Option Verdict × Fail2Ban :=
  match c.operation with
  | .PushConnection => (none,self.push_connection c.peer c.now)
  | .PopConnection => (none,self.pop_connection c.peer)
  | .PushFail => (none,self.push_fail c.peer c.now)
  | .GetVerdict =>
    let (verdict,self) := self.get_verdict c.peer c.now
    (some verdict,self)

/-- The verdicts on a peer in a run. -/
def verdicts (p : IpAddr) : Fail2Ban → List Call → List Verdict := seen call fun c => c.peer = p

end Fail2Ban

/-! ### One record alone -/

def Fresh (max_age : Duration) (now : Instant) (info : PeerInfo) : Prop := elapsed info.time now ≤ max_age

instance (max_age : Duration) (now : Instant) (info : PeerInfo) : Decidable (Fresh max_age now info) :=
  inferInstanceAs (Decidable (_ ≤ _))

def PeerInfo.popped (info : PeerInfo) : PeerInfo :=
  { info with connections := (info.connections + (U32_VALUES - 1)) % U32_VALUES }

@[simp] theorem PeerInfo.popped_time (info : PeerInfo) : info.popped.time = info.time := by
  obtain ⟨connections,fails,time⟩ := info
  exact (rfl : time = time)

def PeerInfo.failed (info : PeerInfo) (now : Instant) : PeerInfo :=
  { info with fails := (info.fails + 1) % U32_VALUES, time := now }

/-- What a call leaves of its peer's record. -/
def Call.after (c : Call) (max_age : Duration) (record : Option PeerInfo) : Option PeerInfo :=
  match c.operation with
  | .PushConnection => some (Fail2Ban.pushed_info record c.now)
  | .PopConnection => record.map PeerInfo.popped
  | .PushFail => record.map (·.failed c.now)
  | .GetVerdict => record.filter (Fresh max_age c.now ·)

/-- The calls of a peer on its record alone; the limits are those of `limits`. -/
def Call.alone (limits : Fail2Ban) (record : Option PeerInfo) (c : Call) : Option Verdict × Option PeerInfo :=
  (if c.operation = .GetVerdict then some (limits.judge (c.after limits.max_age record)) else none,
    c.after limits.max_age record)

/-- A call that renews a record finds it fresh, or finds nothing on it. -/
def Prompt (max_age : Duration) (record : Option PeerInfo) (c : Call) : Prop :=
  ∀ info, record = some info → ¬ Fresh max_age c.now info →
    c.operation ≠ .PushFail ∧ (c.operation = .PushConnection → info.connections = 0 ∧ info.fails = 0)

theorem prompt_verdict {max_age : Duration} {record : Option PeerInfo} {c : Call} (asks : c.operation = .GetVerdict) :
    Prompt max_age record c := by
  intro info _ _
  simp [asks]

section
variable {limits self : Fail2Ban} {c : Call} {p q : IpAddr} {record : Option PeerInfo}

@[simp] theorem call_limits (self : Fail2Ban) (c : Call) : (self.call c).2.max_connections = self.max_connections ∧
    (self.call c).2.max_fails = self.max_fails ∧ (self.call c).2.max_age = self.max_age := by
  obtain ⟨peer,operation,now⟩ := c
  cases operation with
  | PushConnection =>
    simp only [Fail2Ban.call,Fail2Ban.push_connection]
    cases self.peers peer <;> exact ⟨rfl,rfl,rfl⟩
  | PopConnection =>
    simp only [Fail2Ban.call,Fail2Ban.pop_connection]
    cases self.peers peer <;> exact ⟨rfl,rfl,rfl⟩
  | PushFail =>
    simp only [Fail2Ban.call,Fail2Ban.push_fail]
    cases self.peers peer <;> exact ⟨rfl,rfl,rfl⟩
  | GetVerdict => exact ⟨rfl,rfl,rfl⟩

theorem call_peers : (self.call c).2.peers q =
    if q = c.peer then c.after self.max_age (self.peers q)
    else if c.operation = .GetVerdict then (self.peers q).filter (Fresh self.max_age c.now ·) else self.peers q := by
  obtain ⟨peer,operation,now⟩ := c
  by_cases same : q = peer
  · subst same
    rw [if_pos rfl]
    cases operation with
    | PushConnection => exact (Fail2Ban.push_connection_peers self q q now).trans (if_pos rfl)
    | PopConnection =>
      cases known : self.peers q <;>
        simp [Fail2Ban.call,Fail2Ban.pop_connection,Call.after,known,Fail2Ban.set,PeerInfo.popped]
    | PushFail =>
      cases known : self.peers q <;>
        simp [Fail2Ban.call,Fail2Ban.push_fail,Call.after,known,Fail2Ban.set,PeerInfo.failed]
    | GetVerdict => rfl
  · rw [if_neg same]
    cases operation with
    | PushConnection => exact (Fail2Ban.push_connection_peers self peer q now).trans (if_neg same)
    | PopConnection =>
      cases known : self.peers peer <;> simp [Fail2Ban.call,Fail2Ban.pop_connection,known,Fail2Ban.set,same]
    | PushFail => cases known : self.peers peer <;> simp [Fail2Ban.call,Fail2Ban.push_fail,known,Fail2Ban.set,same]
    | GetVerdict => exact (if_pos rfl).symm

theorem call_verdict : (self.call c).1 =
    if c.operation = .GetVerdict then some (self.judge ((self.call c).2.peers c.peer)) else none := by
  obtain ⟨peer,operation,now⟩ := c
  cases operation <;> rfl

/-- A verdict is the same for the same record under the same limits. -/
theorem judge_congr (connections : self.max_connections = limits.max_connections)
    (fails : self.max_fails = limits.max_fails) (record : Option PeerInfo) : self.judge record = limits.judge record := by
  simp only [Fail2Ban.judge,connections,fails]

/-! ### The shared records and one record alone -/

/-- The shared records agree with the peer's record alone, or have lost it when it had
    grown too old. -/
structure Agrees (limits : Fail2Ban) (p : IpAddr) (now : Instant) (shared : Fail2Ban) (record : Option PeerInfo) :
    Prop where
  alike : shared.max_connections = limits.max_connections ∧ shared.max_fails = limits.max_fails ∧
    shared.max_age = limits.max_age
  records : shared.peers p = record ∨
    shared.peers p = none ∧ ∃ info, record = some info ∧ ¬ Fresh limits.max_age now info

theorem Agrees.later {now later : Instant} (agrees : Agrees limits p now self record) (after : now ≤ later) :
    Agrees limits p later self record := by
  refine ⟨agrees.alike,agrees.records.imp_right ?_⟩
  rintro ⟨lost,info,kept,stale⟩
  refine ⟨lost,info,kept,fun fresh => stale ?_⟩
  exact Nat.le_trans (Nat.sub_le_sub_right after info.time) fresh

theorem Agrees.foreign {now : Instant} (agrees : Agrees limits p now self record) (other : c.peer ≠ p)
    (after : now ≤ c.now) : Agrees limits p c.now (self.call c).2 record := by
  obtain ⟨⟨connections,fails,age⟩,records⟩ := agrees.later after
  have kept := call_limits self c
  refine ⟨⟨kept.1.trans connections,kept.2.1.trans fails,kept.2.2.trans age⟩,?_⟩
  rw [call_peers,if_neg (Ne.symm other),age]
  by_cases purges : c.operation = .GetVerdict
  · rw [if_pos purges]
    rcases records with same | ⟨lost,info,known,stale⟩
    · rw [same]
      cases record with
      | none => exact .inl rfl
      | some info =>
        by_cases fresh : Fresh limits.max_age c.now info
        · exact .inl (by simp [fresh])
        · exact .inr ⟨by simp [fresh],info,rfl,fresh⟩
    · exact .inr ⟨by simp [lost],info,known,stale⟩
  · rw [if_neg purges]
    exact records

theorem Agrees.own {now : Instant} (agrees : Agrees limits c.peer now self record) (after : now ≤ c.now)
    (prompt : Prompt limits.max_age record c) : (self.call c).1 = (c.alone limits record).1 ∧
      Agrees limits c.peer c.now (self.call c).2 (c.alone limits record).2 := by
  obtain ⟨⟨connections,fails,age⟩,records⟩ := agrees.later after
  have kept := call_limits self c
  have same : (self.call c).2.peers c.peer = c.after limits.max_age (self.peers c.peer) := by
    rw [call_peers,if_pos rfl,age]
  have judged : self.judge = limits.judge := funext (judge_congr connections fails)
  have agreeing : (self.call c).2.peers c.peer = c.after limits.max_age record ∨
      c.operation = .PopConnection ∧ (self.call c).2.peers c.peer = none ∧
        ∃ info, c.after limits.max_age record = some info ∧ ¬ Fresh limits.max_age c.now info := by
    rw [same]
    rcases records with equal | ⟨lost,info,rfl,stale⟩
    · exact .inl (by rw [equal])
    · rw [lost]
      obtain ⟨unfailing,empty⟩ := prompt info rfl stale
      cases operation : c.operation with
      | PushConnection =>
        obtain ⟨unconnected,unfailed⟩ := empty operation
        exact .inl (by simp [Call.after,operation,Fail2Ban.pushed_info,unconnected,unfailed])
      | PopConnection =>
        have still : ¬ Fresh limits.max_age c.now info.popped := by
          simpa only [Fresh,PeerInfo.popped_time] using stale
        exact .inr ⟨rfl,by simp [Call.after,operation],_,by simp [Call.after,operation],still⟩
      | PushFail => exact absurd operation unfailing
      | GetVerdict => exact .inl (by simp [Call.after,operation,Option.filter_some,stale])
  constructor
  · rw [call_verdict,Call.alone,judged]
    by_cases asks : c.operation = .GetVerdict
    · obtain equal := agreeing.resolve_right (by simp [asks])
      rw [if_pos asks,if_pos asks,equal]
    · rw [if_neg asks,if_neg asks]
  · refine ⟨⟨kept.1.trans connections,kept.2.1.trans fails,kept.2.2.trans age⟩,?_⟩
    exact agreeing.imp_right fun lost => lost.2

/-- The verdicts on a peer whose calls are prompt are those of its record alone. -/
theorem verdicts_alone (max_connections max_fails : Nat) (max_age : Duration) {cs : List Call}
    (ordered : Ordered Call.now cs)
    (prompt : Along (fun record c => c.after max_age record) (Prompt max_age) none (cs.filter (·.peer = p))) :
    Fail2Ban.verdicts p (.new max_connections max_fails max_age) cs =
      seen (fun record c => c.alone (.new max_connections max_fails max_age) record) (fun c => c.peer = p) none
        (cs.filter (·.peer = p)) := by
  have start : Agrees (.new max_connections max_fails max_age) p 0 (.new max_connections max_fails max_age) none :=
    ⟨⟨rfl,rfl,rfl⟩,.inl rfl⟩
  refine seen_alone ?_ ?_ start (fun c _ => Nat.zero_le c.now) ordered prompt
  · intro now shared record c other after agrees
    exact agrees.foreign (by simpa using other) after
  · intro now shared record c mine after found agrees
    obtain rfl : c.peer = p := by simpa using mine
    exact agrees.own after found

end

/-- Whatever the limits and whatever the calls of others, the verdicts on the peer are
    the same in any two runs with these calls of its own. -/
def Unaffected (max_age : Duration) (p : IpAddr) (own : List Call) : Prop :=
  ∀ max_connections max_fails cs ds, Ordered Call.now cs → Ordered Call.now ds →
    cs.filter (·.peer = p) = own → ds.filter (·.peer = p) = own →
    Fail2Ban.verdicts p (.new max_connections max_fails max_age) cs =
      Fail2Ban.verdicts p (.new max_connections max_fails max_age) ds

theorem unaffected_of_prompt {max_age : Duration} {p : IpAddr} {own : List Call}
    (prompt : Along (fun record c => c.after max_age record) (Prompt max_age) none own) : Unaffected max_age p own := by
  intro max_connections max_fails cs ds ordered ordered' mine mine'
  rw [verdicts_alone max_connections max_fails max_age ordered (mine ▸ prompt),
    verdicts_alone max_connections max_fails max_age ordered' (mine' ▸ prompt),mine,mine']

/-! ### Where others show -/

section
variable {max_age : Duration} {c : Call} {p q : IpAddr} {record : Option PeerInfo} {own : List Call}

/-- The record counts connections in 32 bits. -/
def Counted (record : Option PeerInfo) : Prop := ∀ info, record = some info → info.connections < U32_VALUES

theorem counted_after (counted : Counted record) (c : Call) : Counted (c.after max_age record) := by
  intro info left
  cases operation : c.operation with
  | PushConnection =>
    simp only [Call.after,operation,Option.some.injEq] at left
    subst left
    exact Fail2Ban.pushed_info_counted _ _
  | PopConnection =>
    simp only [Call.after,operation] at left
    obtain ⟨known,-,rfl⟩ := Option.map_eq_some_iff.mp left
    exact Nat.mod_lt _ (by decide)
  | PushFail =>
    simp only [Call.after,operation] at left
    obtain ⟨known,same,rfl⟩ := Option.map_eq_some_iff.mp left
    exact counted known same
  | GetVerdict =>
    simp only [Call.after,operation] at left
    exact counted info (Option.filter_eq_some_iff.mp left).1

theorem counted_run (own : List Call) (counted : Counted record) :
    Counted (own.foldl (fun record c => c.after max_age record) record) := by
  induction own generalizing record with
  | nil => exact counted
  | cons c own ih => exact ih (counted_after counted c)

/-- Where a call renews a record that is stale and not empty, some limits tell what it
    leaves from what it leaves of no record. -/
theorem judged_apart {info : PeerInfo} (counted : info.connections < U32_VALUES)
    (broken : ¬ Prompt max_age (some info) c) : ∃ max_connections max_fails,
      (Fail2Ban.new max_connections max_fails max_age).judge (c.after max_age (some info)) ≠
        (Fail2Ban.new max_connections max_fails max_age).judge (c.after max_age none) := by
  by_cases failing : c.operation = .PushFail
  · refine ⟨0,0,?_⟩
    simp only [Call.after,failing,Option.map_some,Option.map_none,Fail2Ban.judge]
    split_ifs <;> simp
  have pushing : c.operation = .PushConnection := by
    by_contra unpushing
    exact broken fun _ _ _ => ⟨failing,fun pushing => absurd pushing unpushing⟩
  have busy : info.fails ≠ 0 ∨ info.connections ≠ 0 := by
    by_contra idle
    obtain ⟨unfailed,unconnected⟩ := not_or.mp idle
    refine broken fun known same _ => ⟨failing,fun _ => ?_⟩
    obtain rfl := Option.some.inj same
    exact ⟨not_not.mp unconnected,not_not.mp unfailed⟩
  simp only [Call.after,pushing,Fail2Ban.pushed_info,Fail2Ban.judge,Fail2Ban.new]
  by_cases full : info.fails = 0 ∧ info.connections + 1 = U32_VALUES
  · refine ⟨0,0,?_⟩
    rw [full.1,full.2]
    simp
  · refine ⟨1,0,?_⟩
    by_cases failed : info.fails = 0
    · have more : (info.connections + 1) % U32_VALUES = info.connections + 1 := Nat.mod_eq_of_lt (by omega)
      have crowded : info.connections + 1 > 1 := by omega
      simp [failed,more,crowded]
    · have banned : info.fails > 0 := Nat.pos_of_ne_zero failed
      simp [banned]

theorem records_alone (self : Fail2Ban) (mine : ∀ c ∈ own, c.peer = p) :
    (own.foldl (fun self c => (self.call c).2) self).peers p =
      own.foldl (fun record c => c.after self.max_age record) (self.peers p) := by
  induction own generalizing self with
  | nil => rfl
  | cons c own ih =>
    have first : c.peer = p := mine c (by simp)
    have age := (call_limits self c).2.2
    simp only [List.foldl_cons]
    rw [ih _ fun c member => mine c (by simp [member]),age,call_peers,if_pos first.symm]

theorem limits_after (self : Fail2Ban) (cs : List Call) :
    (cs.foldl (fun self c => (self.call c).2) self).max_connections = self.max_connections ∧
      (cs.foldl (fun self c => (self.call c).2) self).max_fails = self.max_fails ∧
      (cs.foldl (fun self c => (self.call c).2) self).max_age = self.max_age := by
  induction cs generalizing self with
  | nil => exact ⟨rfl,rfl,rfl⟩
  | cons c cs ih =>
    obtain ⟨connections,fails,age⟩ := call_limits self c
    simpa only [List.foldl_cons,connections,fails,age] using ih (self.call c).2

/-- The verdict that is asked for at once after a call judges what the call leaves. -/
theorem verdicts_asked (self : Fail2Ban) (silent : c.operation ≠ .GetVerdict)
    (renewed : ∀ info, c.after self.max_age (self.peers c.peer) = some info → Fresh self.max_age c.now info) :
    Fail2Ban.verdicts c.peer self [c,⟨c.peer,.GetVerdict,c.now⟩] =
      [self.judge (c.after self.max_age (self.peers c.peer))] := by
  obtain ⟨connections,fails,age⟩ := call_limits self c
  have kept : (c.after self.max_age (self.peers c.peer)).filter (Fresh self.max_age c.now ·) =
      c.after self.max_age (self.peers c.peer) := by
    cases left : c.after self.max_age (self.peers c.peer) with
    | none => rfl
    | some info => simp [Option.filter_some,renewed info left]
  have nothing : (self.call c).1 = none := by rw [call_verdict,if_neg silent]
  have judged : ((self.call c).2.call ⟨c.peer,.GetVerdict,c.now⟩).1 =
      some (self.judge (c.after self.max_age (self.peers c.peer))) := by
    rw [call_verdict,if_pos rfl,judge_congr connections fails,
      call_peers,if_pos rfl,age,call_peers,if_pos rfl]
    exact congrArg (fun record => some (self.judge record)) kept
  simp [Fail2Ban.verdicts,seen,nothing,judged]

/-- A call that is not prompt leaves a renewed record, and the record is another one if
    a verdict on another peer comes before it. -/
theorem verdicts_disturbed {self : Fail2Ban} {info : PeerInfo} (other : q ≠ c.peer)
    (known : self.peers c.peer = some info) (broken : ¬ Prompt self.max_age (some info) c) :
    Fail2Ban.verdicts c.peer self [c,⟨c.peer,.GetVerdict,c.now⟩] =
        [self.judge (c.after self.max_age (some info))] ∧
      Fail2Ban.verdicts c.peer self [⟨q,.GetVerdict,c.now⟩,c,⟨c.peer,.GetVerdict,c.now⟩] =
        [self.judge (c.after self.max_age none)] := by
  have renewing : c.operation = .PushFail ∨ c.operation = .PushConnection := by
    by_contra neither
    obtain ⟨unfailing,unpushing⟩ := not_or.mp neither
    exact broken fun _ _ _ => ⟨unfailing,fun pushing => absurd pushing unpushing⟩
  have stale : ¬ Fresh self.max_age c.now info := by
    intro fresh
    refine broken fun known same stale => absurd ?_ stale
    obtain rfl := Option.some.inj same
    exact fresh
  have silent : c.operation ≠ .GetVerdict := by rcases renewing with failing | pushing <;> simp [*]
  have renewed (record : Option PeerInfo) (info : PeerInfo) (left : c.after self.max_age record = some info) :
      Fresh self.max_age c.now info := by
    have now : info.time = c.now := by
      rcases renewing with failing | pushing
      · simp only [Call.after,failing] at left
        obtain ⟨_,_,rfl⟩ := Option.map_eq_some_iff.mp left
        rfl
      · simp only [Call.after,pushing,Option.some.injEq] at left
        simp [← left]
    simp [Fresh,now,elapsed]
  constructor
  · have asked := verdicts_asked self silent (renewed (self.peers c.peer))
    rwa [known] at asked
  · obtain ⟨connections,fails,age⟩ := call_limits self ⟨q,.GetVerdict,c.now⟩
    have purged : (self.call ⟨q,.GetVerdict,c.now⟩).2.peers c.peer = none := by
      rw [call_peers,if_neg (Ne.symm other),if_pos rfl,known]
      simp [Option.filter_some,stale]
    have asked := verdicts_asked (self.call ⟨q,.GetVerdict,c.now⟩).2 silent (renewed _)
    rw [purged,judge_congr connections fails,age] at asked
    simpa [Fail2Ban.verdicts,seen,other] using asked

theorem another_peer (p : IpAddr) : ∃ q, q ≠ p := by
  by_cases first : p = .V4 0
  · exact ⟨.V4 1,by rw [first]; decide⟩
  · exact ⟨.V4 0,Ne.symm first⟩

theorem not_unaffected {before after : List Call} (ordered : Ordered Call.now (before ++ c :: after))
    (mine : ∀ d ∈ before ++ [c], d.peer = c.peer)
    (broken : ¬ Prompt max_age (before.foldl (fun record c => c.after max_age record) none) c) :
    ¬ Unaffected max_age c.peer (before ++ [c,⟨c.peer,.GetVerdict,c.now⟩]) := by
  obtain ⟨q,other⟩ := another_peer c.peer
  have counted : Counted (before.foldl (fun record c => c.after max_age record) none) :=
    counted_run before fun _ absent => nomatch absent
  cases left : before.foldl (fun record c => c.after max_age record) none with
  | none =>
    rw [left] at broken
    exact absurd (fun _ absent => nomatch absent) broken
  | some info =>
    rw [left] at broken
    obtain ⟨max_connections,max_fails,apart⟩ := judged_apart (counted info left) broken
    have same : before.filter (·.peer = c.peer) = before := by
      rw [List.filter_eq_self]
      intro d member
      simpa using mine d (by simp [member])
    intro unaffected
    have alike := unaffected max_connections max_fails (before ++ [c,⟨c.peer,.GetVerdict,c.now⟩])
      (before ++ [⟨q,.GetVerdict,c.now⟩,c,⟨c.peer,.GetVerdict,c.now⟩])
      (ordered.instead (by simp)) (ordered.instead (by simp)) ?_ ?_
    · obtain ⟨connections,fails,age⟩ := limits_after (.new max_connections max_fails max_age) before
      have known := records_alone (.new max_connections max_fails max_age)
        fun d (member : d ∈ before) => mine d (by simp [member])
      have reached := known.trans left
      have disturbed := verdicts_disturbed other reached (by rwa [age])
      simp only [Fail2Ban.verdicts,seen_append] at alike disturbed
      have tails := List.append_cancel_left alike
      rw [disturbed.1,disturbed.2,judge_congr connections fails,judge_congr connections fails,age] at tails
      exact apart (List.singleton_injective tails)
    · rw [List.filter_append,same]
      simp
    · rw [List.filter_append,same]
      simp [other]

/-- The verdicts that a peer may ask for during its calls, and at their end, do not depend
    on the calls of others exactly if its calls are prompt. -/
theorem unaffected_iff (ordered : Ordered Call.now own) (mine : ∀ c ∈ own, c.peer = p) :
    (∀ before asked, before <+: own → (∀ c ∈ asked, c.peer = p ∧ c.operation = .GetVerdict) →
        Unaffected max_age p (before ++ asked)) ↔
      Along (fun record c => c.after max_age record) (Prompt max_age) none own := by
  constructor
  · intro unaffected
    by_contra late
    obtain ⟨before,c,after,rfl,-,broken⟩ := first_failure late
    obtain rfl : c.peer = p := mine c (by simp)
    refine not_unaffected ordered (fun d member => mine d ?_) broken ?_
    · simp only [List.mem_append,List.mem_singleton] at member
      simp only [List.mem_append,List.mem_cons]
      tauto
    · have asked := unaffected (before ++ [c]) [⟨c.peer,.GetVerdict,c.now⟩] ⟨after,by simp⟩ (by simp)
      simpa using asked
  · rintro prompt before asked ⟨after,rfl⟩ asking
    refine unaffected_of_prompt (along_append.mpr ⟨(along_append.mp prompt).1,?_⟩)
    exact along_of_always fun c member _ => prompt_verdict (asking c member).2

end

def sampleReturn (meantime : List Call) : List Call :=
  [⟨samplePeer,.PushConnection,0⟩,⟨samplePeer,.PushFail,0⟩,⟨samplePeer,.PopConnection,0⟩] ++ meantime ++
    [⟨samplePeer,.PushConnection,from_secs 62⟩,⟨samplePeer,.GetVerdict,from_secs 62⟩]

/-- A peer with one fail comes back after a minute. Whether it is still banned depends on
    whether another peer asked for its verdict before. -/
theorem ban_depends_on_others :
    Ordered Call.now (sampleReturn []) ∧ Ordered Call.now (sampleReturn [⟨sampleOther,.GetVerdict,from_secs 61⟩]) ∧
    (sampleReturn []).filter (·.peer = samplePeer) =
      (sampleReturn [⟨sampleOther,.GetVerdict,from_secs 61⟩]).filter (·.peer = samplePeer) ∧
    Fail2Ban.verdicts samplePeer (.new 5 0 (from_secs 60)) (sampleReturn []) = [.TooManyFails] ∧
    Fail2Ban.verdicts samplePeer (.new 5 0 (from_secs 60))
      (sampleReturn [⟨sampleOther,.GetVerdict,from_secs 61⟩]) = [.Ok] := by
  refine ⟨?_,?_,rfl,by decide,by decide⟩
  · unfold Ordered
    decide
  · unfold Ordered
    decide

def sampleCalls : List Call := [⟨samplePeer,.PushConnection,0⟩,⟨samplePeer,.PushFail,from_secs 30⟩,
  ⟨samplePeer,.GetVerdict,from_secs 95⟩,⟨samplePeer,.PushConnection,from_secs 100⟩]

theorem unaffected_iff_sample : Ordered Call.now sampleCalls ∧ (∀ c ∈ sampleCalls, c.peer = samplePeer) ∧
    Unaffected (from_secs 60) samplePeer (sampleCalls ++ [⟨samplePeer,.GetVerdict,from_secs 100⟩]) := by
  have ordered : Ordered Call.now sampleCalls := by unfold Ordered; decide
  have mine : ∀ c ∈ sampleCalls, c.peer = samplePeer := by decide
  have prompt : Along (fun record c => c.after (from_secs 60) record) (Prompt (from_secs 60)) none sampleCalls := by
    refine ⟨?_,?_,?_,?_,trivial⟩
    · intro info known
      cases known
    · intro info known stale
      cases known
      exact absurd (by decide) stale
    · exact prompt_verdict rfl
    · intro info known
      cases known
  refine ⟨ordered,mine,(unaffected_iff ordered mine).mpr prompt sampleCalls _ (List.prefix_refl _) ?_⟩
  simp

end PostGraph
