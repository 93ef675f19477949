import PostGraph.Fail2Ban
import PostGraph.Lib.Counts
import PostGraph.Lib.Runs

/-!
The fail2ban records under any interleaving of sessions: each comes with
`on_connect` and leaves with `on_disconnect`, which hold the lock while they
work. The purge of `on_connect` asks for the age of a record and not for open
sessions, so the records count the sessions only while no record of an open
session grows old.
-/
namespace PostGraph
open Runs Counts
set_option autoImplicit false

structure Visit where
  peer : IpAddr
  /-- When its connection was pushed. -/
  since : Instant
  deriving DecidableEq

/-- The records, the open sessions in the order they came, the time of the last
    action, and how many sessions there were. -/
structure Gate where
  fail2ban : Fail2Ban
  visits : List Visit
  clock : Instant
  sessions : Nat

inductive GateAction
  | Connect (peer : IpAddr) (pushed judged : Instant)
  | Disconnect (i : Nat) (now : Instant) (productive : Bool)
  | Wait (now : Instant)

/-- The time at which an action is over. -/
def GateAction.time : GateAction → Instant
  | Connect _ _ judged => judged
  | Disconnect _ now _ => now
  | Wait now => now

namespace Gate

def start (max_connections max_fails : Nat) (max_age : Duration) (clock : Instant) : Gate :=
  ⟨.new max_connections max_fails max_age,[],clock,0⟩

def step (self : Gate) : GateAction → Option Gate
  | .Connect peer pushed judged =>
    if self.clock ≤ pushed ∧ pushed ≤ judged then
      some ⟨(self.fail2ban.connect peer pushed judged).2,self.visits ++ [⟨peer,pushed⟩],judged,self.sessions + 1⟩
    else none
  | .Disconnect i now productive =>
    if self.clock ≤ now then
      self.visits[i]?.map fun visit =>
        ⟨self.fail2ban.disconnect visit.peer now productive,self.visits.eraseIdx i,now,self.sessions⟩
    else none
  | .Wait now => if self.clock ≤ now then some { self with clock := now } else none

/-- What a step can do. -/
inductive Steps (g : Gate) : GateAction → Gate → Prop
  | connect (peer : IpAddr) (pushed judged : Instant) (later : g.clock ≤ pushed) (after : pushed ≤ judged) :
      Steps g (.Connect peer pushed judged)
        ⟨(g.fail2ban.connect peer pushed judged).2,g.visits ++ [⟨peer,pushed⟩],judged,g.sessions + 1⟩
  | disconnect (i : Nat) (now : Instant) (productive : Bool) (visit : Visit) (here : g.visits[i]? = some visit)
      (later : g.clock ≤ now) : Steps g (.Disconnect i now productive)
        ⟨g.fail2ban.disconnect visit.peer now productive,g.visits.eraseIdx i,now,g.sessions⟩
  | wait (now : Instant) (later : g.clock ≤ now) : Steps g (.Wait now) { g with clock := now }

variable {g g' : Gate} {a : GateAction} {as : List GateAction}

theorem steps_of_step (stepped : g.step a = some g') : g.Steps a g' := by
  cases a with
  | Connect peer pushed judged =>
    obtain ⟨⟨later,after⟩,rfl⟩ := by simpa [step] using stepped
    exact .connect peer pushed judged later after
  | Disconnect i now productive =>
    obtain ⟨later,visit,here,rfl⟩ := by simpa [step] using stepped
    exact .disconnect i now productive visit here later
  | Wait now =>
    obtain ⟨later,rfl⟩ := by simpa [step] using stepped
    exact .wait now later

theorem limits_of_run {ok : Gate → GateAction → Prop} (run : Run step ok g as g') :
    g'.fail2ban.max_connections = g.fail2ban.max_connections ∧ g'.fail2ban.max_fails = g.fail2ban.max_fails ∧
      g'.fail2ban.max_age = g.fail2ban.max_age := by
  refine run.preserves (I := fun _ g' => g'.fail2ban.max_connections = g.fail2ban.max_connections ∧
    g'.fail2ban.max_fails = g.fail2ban.max_fails ∧ g'.fail2ban.max_age = g.fail2ban.max_age) ⟨rfl,rfl,rfl⟩ ?_
  intro as s a s' _ _ stepped same
  cases steps_of_step stepped with
  | connect peer pushed judged later after => simpa using same
  | disconnect i now productive visit here later => simpa using same
  | wait now later => exact same

def open_sessions (self : Gate) (p : IpAddr) : Nat := self.visits.countP fun visit => visit.peer = p

/-! ### The records count the open sessions -/

/-- Each peer with an open session has a record that counts its open sessions. -/
def Accounted (self : Gate) : Prop :=
  ∀ p, self.open_sessions p ≠ 0 → ∃ info, self.fail2ban.peers p = some info ∧ info.connections = self.open_sessions p

/-- `pop_connection` does not decrement zero, whichever session leaves next. -/
def PopsSafely (self : Gate) : Prop :=
  ∀ i now productive g', self.step (.Disconnect i now productive) = some g' →
    ∀ visit, self.visits[i]? = some visit → ∀ info, self.fail2ban.peers visit.peer = some info → 0 < info.connections

/-- The records count the open sessions, also those of peers without any. -/
structure Exact (g : Gate) : Prop where
  known : ∀ p, g.open_sessions p ≠ 0 → ∃ info, g.fail2ban.peers p = some info
  counts : ∀ p info, g.fail2ban.peers p = some info → info.connections = g.open_sessions p
  few : ∀ p, g.open_sessions p < U32_VALUES

/-- What `on_connect` must find for the records to stay exact: it purges no record of
    a peer with an open session, neither its own peer's nor another one's, and
    the new session can be counted. -/
def Spares (g : Gate) : GateAction → Prop
  | .Connect p pushed judged => elapsed pushed judged ≤ g.fail2ban.max_age ∧ g.open_sessions p + 1 < U32_VALUES ∧
      ∀ q, q ≠ p → g.open_sessions q ≠ 0 → ∀ info, g.fail2ban.peers q = some info →
        elapsed info.time judged ≤ g.fail2ban.max_age
  | _ => True

theorem open_sessions_connect (q : IpAddr) (visit : Visit) : (g.visits ++ [visit]).countP (fun visit => visit.peer = q) =
    g.open_sessions q + if visit.peer = q then 1 else 0 := by
  rw [List.countP_append,List.countP_singleton]
  simp [open_sessions]

theorem open_sessions_disconnect {i : Nat} {visit : Visit} (here : g.visits[i]? = some visit) (q : IpAddr) :
    g.open_sessions q = (g.visits.eraseIdx i).countP (fun visit => visit.peer = q) +
      if visit.peer = q then 1 else 0 := by
  simpa [open_sessions] using countP_leave (fun visit : Visit => visit.peer = q) here

theorem exact_start (max_connections max_fails : Nat) (max_age : Duration) (clock : Instant) :
    (start max_connections max_fails max_age clock).Exact := by
  refine ⟨?_,?_,?_⟩
  · simp [start,open_sessions]
  · simp [start,Fail2Ban.new]
  · simp [start,open_sessions]

theorem Exact.pushed (exact : g.Exact) (p : IpAddr) (now : Instant) (room : g.open_sessions p + 1 < U32_VALUES) :
    (Fail2Ban.pushed_info (g.fail2ban.peers p) now).connections = g.open_sessions p + 1 := by
  cases known : g.fail2ban.peers p with
  | some info =>
    have counted := exact.counts p info known
    simp only [Fail2Ban.pushed_info,counted]
    exact Nat.mod_eq_of_lt room
  | none =>
    have nobody : g.open_sessions p = 0 := by
      by_contra somebody
      obtain ⟨info,same⟩ := exact.known p somebody
      simp [known] at same
    simp [Fail2Ban.pushed_info,nobody]

theorem Exact.popped (exact : g.Exact) {p : IpAddr} {info : PeerInfo} (now : Instant) (productive : Bool)
    (known : g.fail2ban.peers p = some info) (somebody : g.open_sessions p ≠ 0) :
    (Fail2Ban.popped_info info now productive).connections + 1 = g.open_sessions p := by
  have counted := exact.counts p info known
  have few := exact.few p
  simp only [Fail2Ban.popped_info,counted,U32_VALUES] at few ⊢
  omega

theorem Exact.connect (exact : g.Exact) {p : IpAddr} {pushed judged : Instant}
    (spares : g.Spares (.Connect p pushed judged)) :
    (⟨(g.fail2ban.connect p pushed judged).2,g.visits ++ [⟨p,pushed⟩],judged,g.sessions + 1⟩ : Gate).Exact := by
  obtain ⟨fresh,room,others⟩ := spares
  have own := Fail2Ban.connect_own g.fail2ban p pushed judged
  rw [if_pos fresh] at own
  refine ⟨?_,?_,?_⟩
  · intro q somebody
    by_cases same : q = p
    · subst same
      exact ⟨_,own⟩
    · simp only [open_sessions,open_sessions_connect,if_neg (Ne.symm same)] at somebody
      obtain ⟨info,known⟩ := exact.known q somebody
      exact ⟨info,(Fail2Ban.connect_other _ _ _ _ _ same).mpr ⟨known,others q same somebody info known⟩⟩
  · intro q info known
    rw [open_sessions,open_sessions_connect]
    by_cases same : q = p
    · subst same
      obtain rfl : Fail2Ban.pushed_info (g.fail2ban.peers q) pushed = info := by simpa [own] using known
      simpa using exact.pushed q pushed room
    · have before := ((Fail2Ban.connect_other _ _ _ _ _ same).mp known).1
      simpa [Ne.symm same] using exact.counts q info before
  · intro q
    rw [open_sessions,open_sessions_connect]
    by_cases same : p = q
    · simpa [same] using same ▸ room
    · simpa [same] using exact.few q

theorem Exact.disconnect (exact : g.Exact) {i : Nat} {visit : Visit} (now : Instant) (productive : Bool)
    (here : g.visits[i]? = some visit) :
    (⟨g.fail2ban.disconnect visit.peer now productive,g.visits.eraseIdx i,now,g.sessions⟩ : Gate).Exact := by
  have left := open_sessions_disconnect here
  have records := Fail2Ban.disconnect_peers g.fail2ban visit.peer
  refine ⟨?_,?_,?_⟩
  · intro q somebody
    have before : g.open_sessions q ≠ 0 := by
      rw [left]
      exact Nat.ne_of_gt (Nat.add_pos_left (Nat.pos_of_ne_zero somebody) _)
    obtain ⟨info,known⟩ := exact.known q before
    simp only [records]
    by_cases same : q = visit.peer
    · subst same
      exact ⟨Fail2Ban.popped_info info now productive,by simp [known]⟩
    · exact ⟨info,by simp [same,known]⟩
  · intro q info known
    have one := left q
    simp only [records] at known
    by_cases same : q = visit.peer
    · subst same
      obtain ⟨before,recorded,rfl⟩ := by simpa using known
      have popped := exact.popped now productive recorded (by simp [one])
      simp only [if_true] at one
      simp only [open_sessions]
      omega
    · have before := exact.counts q info (by simpa [same] using known)
      simpa [open_sessions,Ne.symm same,before] using one
  · intro q
    have few := exact.few q
    rw [left] at few
    exact Nat.lt_of_le_of_lt (Nat.le_add_right _ _) few

/-- A step that spares the records of open sessions keeps the records exact. -/
theorem Exact.step (exact : g.Exact) (spares : g.Spares a) (stepped : g.step a = some g') : g'.Exact := by
  cases steps_of_step stepped with
  | connect peer pushed judged later after => exact exact.connect spares
  | disconnect i now productive visit here later => exact exact.disconnect now productive here
  | wait now later => exact ⟨exact.known,exact.counts,exact.few⟩

theorem Exact.accounted (exact : g.Exact) : g.Accounted := by
  intro p somebody
  obtain ⟨info,known⟩ := exact.known p somebody
  exact ⟨info,known,exact.counts p info known⟩

theorem Exact.popsSafely (exact : g.Exact) : g.PopsSafely := by
  intro i now productive g' _ visit here info known
  have one := open_sessions_disconnect here visit.peer
  rw [exact.counts visit.peer info known,one,if_pos rfl]
  exact Nat.succ_pos _

/-- A step that leaves every open session's record, and with the right count, has
    spared the records. -/
theorem spares_of_accounted (stepped : g.step a = some g') (accounted : g'.Accounted) : g.Spares a := by
  cases steps_of_step stepped with
  | connect p pushed judged later after =>
    obtain ⟨info,known,counted⟩ := accounted p (by simp [open_sessions])
    rw [Fail2Ban.connect_own,Option.ite_none_right_eq_some] at known
    obtain ⟨fresh,same⟩ := known
    refine ⟨fresh,?_,?_⟩
    · have wrapped : info.connections < U32_VALUES := by
        obtain rfl : _ = info := by simpa using same
        exact Fail2Ban.pushed_info_counted _ _
      simpa [counted,open_sessions,open_sessions_connect] using wrapped
    · intro q other somebody info' recorded
      obtain ⟨later,kept,-⟩ := accounted q (by simpa [open_sessions,open_sessions_connect,Ne.symm other] using somebody)
      obtain ⟨before,recent⟩ := (Fail2Ban.connect_other _ _ _ _ _ other).mp kept
      obtain rfl : info' = later := by simpa [recorded] using before
      exact recent
  | disconnect i now productive visit here later => trivial
  | wait now later => trivial

/-- In every run in which each `on_connect` spares the records of open sessions, the
    records count the open sessions and no count underflows; the first step that
    does not spare them ends that. -/
theorem records_count_sessions (max_connections max_fails : Nat) (max_age : Duration) (clock : Instant)
    (run : Run step Spares (start max_connections max_fails max_age clock) as g) :
    (g.Accounted ∧ g.PopsSafely) ∧ ∀ a g', g.step a = some g' → (g'.Accounted ∧ g'.PopsSafely ↔ g.Spares a) := by
  have exact : g.Exact := run.preserves (I := fun _ g => g.Exact) (exact_start _ _ _ _)
    fun as g a g' run spares stepped exact => exact.step spares stepped
  refine ⟨⟨exact.accounted,exact.popsSafely⟩,?_⟩
  intro a g' stepped
  constructor
  · rintro ⟨accounted,-⟩
    exact spares_of_accounted stepped accounted
  · intro spares
    have next := exact.step spares stepped
    exact ⟨next.accounted,next.popsSafely⟩

/-! ### Sessions that are over in time -/

/-- No session is open for more than `max_age`, and they can be counted. -/
structure Timely (g : Gate) (a : GateAction) : Prop where
  lasting : ∀ visit ∈ g.visits, elapsed visit.since a.time ≤ g.fail2ban.max_age
  entering : ∀ p pushed judged, a = .Connect p pushed judged →
    elapsed pushed judged ≤ g.fail2ban.max_age ∧ g.sessions + 1 < U32_VALUES

/-- What holds while sessions are over in time: the records are exact and as recent as the
    sessions, and every session has at most one fail. -/
structure Sound (g : Gate) : Prop where
  exact : g.Exact
  past : ∀ visit ∈ g.visits, visit.since ≤ g.clock
  recent : ∀ visit ∈ g.visits, ∀ info, g.fail2ban.peers visit.peer = some info → visit.since ≤ info.time
  fails : ∀ p info, g.fail2ban.peers p = some info → info.fails + g.visits.length ≤ g.sessions
  visits : g.visits.length ≤ g.sessions
  few : g.sessions < U32_VALUES

theorem sound_start (max_connections max_fails : Nat) (max_age : Duration) (clock : Instant) :
    (start max_connections max_fails max_age clock).Sound := by
  refine ⟨exact_start _ _ _ _,?_,?_,?_,?_,?_⟩ <;> simp [start,Fail2Ban.new]

theorem open_sessions_le (p : IpAddr) : g.open_sessions p ≤ g.visits.length := List.countP_le_length

theorem Sound.spares (sound : g.Sound) (timely : g.Timely a) : g.Spares a := by
  cases a with
  | Connect p pushed judged =>
    obtain ⟨fresh,few⟩ := timely.entering p pushed judged rfl
    have counted := open_sessions_le (g := g) p
    have bounded := sound.visits
    refine ⟨fresh,by omega,?_⟩
    intro q _ somebody info known
    obtain ⟨visit,member,same⟩ := List.countP_pos_iff.mp (Nat.pos_of_ne_zero somebody)
    obtain rfl : visit.peer = q := by simpa using same
    have since := sound.recent visit member info known
    exact Nat.le_trans (Nat.sub_le_sub_left since judged) (timely.lasting visit member)
  | Disconnect i now productive => trivial
  | Wait now => trivial

theorem Sound.connect (sound : g.Sound) {p : IpAddr} {pushed judged : Instant}
    (timely : g.Timely (.Connect p pushed judged)) (later : g.clock ≤ pushed) (after : pushed ≤ judged) :
    (⟨(g.fail2ban.connect p pushed judged).2,g.visits ++ [⟨p,pushed⟩],judged,g.sessions + 1⟩ : Gate).Sound := by
  obtain ⟨fresh,few⟩ := timely.entering p pushed judged rfl
  have own := Fail2Ban.connect_own g.fail2ban p pushed judged
  rw [if_pos fresh] at own
  have members (visit : Visit) (member : visit ∈ g.visits ++ [⟨p,pushed⟩]) : visit ∈ g.visits ∨ visit = ⟨p,pushed⟩ := by
    simpa using member
  have past (visit : Visit) (member : visit ∈ g.visits ++ [⟨p,pushed⟩]) : visit.since ≤ pushed := by
    rcases members visit member with before | rfl
    · exact Nat.le_trans (sound.past visit before) later
    · exact Nat.le_refl _
  refine ⟨sound.exact.connect (sound.spares timely),?_,?_,?_,by simpa using sound.visits,few⟩
  · intro visit member
    exact Nat.le_trans (past visit member) after
  · intro visit member info known
    by_cases same : visit.peer = p
    · obtain rfl : Fail2Ban.pushed_info (g.fail2ban.peers p) pushed = info := by simpa [same,own] using known
      simpa using past visit member
    · have before : visit ∈ g.visits := (members visit member).resolve_right fun new => same (new ▸ rfl)
      exact sound.recent visit before info ((Fail2Ban.connect_other _ _ _ _ _ same).mp known).1
  · intro q info known
    simp only [List.length_append,List.length_singleton]
    have bounded := sound.visits
    by_cases same : q = p
    · subst same
      obtain rfl : Fail2Ban.pushed_info (g.fail2ban.peers q) pushed = info := by simpa [own] using known
      cases recorded : g.fail2ban.peers q with
      | none => simpa [Fail2Ban.pushed_info] using bounded
      | some info =>
        have fails := sound.fails q info recorded
        simp only [Fail2Ban.pushed_info]
        omega
    · have fails := sound.fails q info ((Fail2Ban.connect_other _ _ _ _ _ same).mp known).1
      omega

theorem Sound.disconnect (sound : g.Sound) {i : Nat} {now : Instant} {visit : Visit} (productive : Bool)
    (here : g.visits[i]? = some visit) (later : g.clock ≤ now) :
    (⟨g.fail2ban.disconnect visit.peer now productive,g.visits.eraseIdx i,now,g.sessions⟩ : Gate).Sound := by
  have records := Fail2Ban.disconnect_peers g.fail2ban visit.peer
  have bounded := sound.visits
  have gone : (g.visits.eraseIdx i).length + 1 = g.visits.length := by
    obtain ⟨inside,-⟩ := List.getElem?_eq_some_iff.mp here
    rw [List.length_eraseIdx_of_lt inside]
    omega
  have past (visit : Visit) (member : visit ∈ g.visits.eraseIdx i) : visit.since ≤ now :=
    Nat.le_trans (sound.past visit (List.mem_of_mem_eraseIdx member)) later
  refine ⟨sound.exact.disconnect now productive here,past,?_,?_,by simp only; omega,sound.few⟩
  · intro visit' member info known
    simp only [records] at known
    have recent := sound.recent visit' (List.mem_of_mem_eraseIdx member)
    by_cases same : visit'.peer = visit.peer
    · rw [if_pos same,← same] at known
      obtain ⟨old,recorded,rfl⟩ := Option.map_eq_some_iff.mp known
      cases productive
      · simpa [Fail2Ban.popped_info] using past visit' member
      · simpa [Fail2Ban.popped_info] using recent old recorded
    · exact recent info (by simpa [same] using known)
  · intro q info known
    simp only [records] at known
    by_cases same : q = visit.peer
    · rw [if_pos same] at known
      obtain ⟨old,recorded,rfl⟩ := Option.map_eq_some_iff.mp known
      have fails := sound.fails _ old recorded
      have wrapped := Nat.mod_le (old.fails + 1) U32_VALUES
      cases productive
      · simp only [Fail2Ban.popped_info,Bool.false_eq_true,if_false]
        omega
      · simp only [Fail2Ban.popped_info,if_true]
        omega
    · have fails := sound.fails q info (by simpa [same] using known)
      simp only
      omega

theorem Sound.step (sound : g.Sound) (timely : g.Timely a) (stepped : g.step a = some g') : g'.Sound := by
  cases steps_of_step stepped with
  | connect p pushed judged later after => exact sound.connect timely later after
  | disconnect i now productive visit here later => exact sound.disconnect productive here later
  | wait now later =>
    have past (visit : Visit) (member : visit ∈ g.visits) : visit.since ≤ now :=
      Nat.le_trans (sound.past visit member) later
    exact ⟨⟨sound.exact.known,sound.exact.counts,sound.exact.few⟩,past,sound.recent,sound.fails,sound.visits,sound.few⟩

theorem sound_of_run {max_connections max_fails : Nat} {max_age : Duration} {clock : Instant}
    (run : Run step Timely (start max_connections max_fails max_age clock) as g) : g.Sound :=
  run.preserves (I := fun _ g => g.Sound) (sound_start _ _ _ _)
    fun _ _ _ _ _ timely stepped sound => sound.step timely stepped

end Gate

/-! ### Examples -/

section
open Gate

def samplePeer : IpAddr := .V4 0x0A000001
def sampleOther : IpAddr := .V4 0x0A000002
def sampleGate (max_connections max_fails : Nat) : Gate := .start max_connections max_fails (from_secs 60) 0

/-- Another peer's connection purges the record of a session that is open for
    more than a minute; when the peer connects again and both sessions end, the
    new count underflows. -/
theorem purge_loses_open_session :
    (∃ g, exec step (sampleGate 5 5) [.Connect samplePeer 0 0,.Connect sampleOther (from_secs 61) (from_secs 61)] =
      some g ∧ ¬ g.Accounted) ∧
    ∃ g, exec step (sampleGate 5 5) [.Connect samplePeer 0 0,.Connect sampleOther (from_secs 61) (from_secs 61),
      .Connect samplePeer (from_secs 62) (from_secs 62),.Disconnect 0 (from_secs 63) true] = some g ∧
      ¬ g.PopsSafely := by
  refine ⟨⟨_,rfl,?_⟩,⟨_,rfl,?_⟩⟩
  · intro accounted
    obtain ⟨info,known,-⟩ := accounted samplePeer (by decide)
    exact absurd (known.symm.trans rfl : some info = none) (by simp)
  · intro safely
    exact absurd (safely 1 (from_secs 64) true _ rfl _ rfl _ rfl) (by decide)

theorem records_count_sessions_sample : ∃ g, exec step (sampleGate 5 5) [.Connect samplePeer 0 0,
      .Connect sampleOther (from_secs 30) (from_secs 31),.Disconnect 0 (from_secs 40) false] = some g ∧
    g.open_sessions sampleOther = 1 ∧ g.Accounted ∧ g.PopsSafely := by
  have first : Spares (sampleGate 5 5) (.Connect samplePeer 0 0) := by
    refine ⟨by decide,by decide,?_⟩
    intro q _ somebody
    exact absurd rfl somebody
  have one : Run step Spares (sampleGate 5 5) [.Connect samplePeer 0 0] _ := .next .start first rfl
  have second (g : Gate) (stepped : step (sampleGate 5 5) (.Connect samplePeer 0 0) = some g) :
      g.Spares (.Connect sampleOther (from_secs 30) (from_secs 31)) := by
    obtain rfl := Option.some.inj stepped
    refine ⟨by decide,by decide,?_⟩
    intro q _ somebody info known
    obtain rfl : samplePeer = q := by simpa [open_sessions,sampleGate,start] using somebody
    obtain rfl := Option.some.inj ((rfl : _ = some (PeerInfo.mk 1 0 0)).symm.trans known)
    decide
  have two : Run step Spares (sampleGate 5 5)
      [.Connect samplePeer 0 0,.Connect sampleOther (from_secs 30) (from_secs 31)] _ := .next one (second _ rfl) rfl
  have three : Run step Spares (sampleGate 5 5) [.Connect samplePeer 0 0,
      .Connect sampleOther (from_secs 30) (from_secs 31),.Disconnect 0 (from_secs 40) false] _ := .next two trivial rfl
  exact ⟨_,rfl,rfl,(records_count_sessions 5 5 (from_secs 60) 0 three).1⟩

end
end PostGraph
