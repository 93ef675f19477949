import PostGraph.Gate

/-!
When bans expire. `on_connect` renews the time of its peer's record before it
purges the old ones, so a peer's own connection never purges its fails: they
are forgotten exactly if another peer connects in the meantime.
-/
namespace PostGraph
open Runs
set_option autoImplicit false

namespace Gate
variable {g g' : Gate} {a : GateAction} {as : List GateAction}

def Without (p : IpAddr) (_ : Gate) (a : GateAction) : Prop := ∀ pushed judged, a ≠ .Connect p pushed judged

/-- Some `on_connect` took place more than `max_age` after a record's last activity. -/
def Purged (max_age : Duration) (info : PeerInfo) (as : List GateAction) : Prop :=
  ∃ q pushed judged, .Connect q pushed judged ∈ as ∧ max_age < elapsed info.time judged

theorem purged_connect {max_age : Duration} {info : PeerInfo} {q : IpAddr} {pushed judged : Instant} :
    Purged max_age info (as ++ [GateAction.Connect q pushed judged]) ↔
      Purged max_age info as ∨ max_age < elapsed info.time judged := by
  constructor
  · rintro ⟨q',pushed',judged',member,late⟩
    rcases List.mem_append.mp member with earlier | last
    · exact .inl ⟨q',pushed',judged',earlier,late⟩
    · obtain ⟨-,-,rfl⟩ := by simpa using last
      exact .inr late
  · rintro (⟨q',pushed',judged',member,late⟩ | late)
    · exact ⟨q',pushed',judged',by simp [member],late⟩
    · exact ⟨q,pushed,judged,by simp,late⟩

theorem purged_other {max_age : Duration} {info : PeerInfo} (other : ∀ q pushed judged, a ≠ .Connect q pushed judged) :
    Purged max_age info (as ++ [a]) ↔ Purged max_age info as := by
  have absent (q : IpAddr) (pushed judged : Instant) : .Connect q pushed judged ≠ a := (other q pushed judged).symm
  simp [Purged,absent]

/-- While a peer stays away, its record is kept unless a purge finds it too old. -/
theorem record_of_run {g₀ : Gate} {p : IpAddr} (idle : g₀.open_sessions p = 0) (run : Run step (Without p) g₀ as g) :
    g.open_sessions p = 0 ∧ ∀ info, g.fail2ban.peers p = some info ↔
      g₀.fail2ban.peers p = some info ∧ ¬ Purged g₀.fail2ban.max_age info as := by
  refine run.preserves (I := fun as g => g.open_sessions p = 0 ∧ ∀ info, g.fail2ban.peers p = some info ↔
      g₀.fail2ban.peers p = some info ∧ ¬ Purged g₀.fail2ban.max_age info as) ⟨idle,by simp [Purged]⟩ ?_
  rintro as g a g' run away stepped ⟨nobody,kept⟩
  have limits := (limits_of_run run).2.2
  cases steps_of_step stepped with
  | connect q pushed judged later after =>
    have other : p ≠ q := fun same => away pushed judged (same ▸ rfl)
    refine ⟨by simpa [open_sessions,open_sessions_connect,Ne.symm other] using nobody,?_⟩
    intro info
    rw [Fail2Ban.connect_other _ _ _ _ _ other,kept,limits,purged_connect,not_or,Nat.not_lt,and_assoc]
  | disconnect i now productive visit here later =>
    have left := open_sessions_disconnect here p
    have other : p ≠ visit.peer := by
      rintro rfl
      simp [nobody] at left
    constructor
    · simp only [open_sessions]
      omega
    · intro info
      rw [purged_other (by simp),← kept]
      simp [Fail2Ban.disconnect_peers,other]
  | wait now later => exact ⟨nobody,fun info => by rw [purged_other (by simp),← kept]⟩

/-- A record does not stand against the next connection of its peer: it was purged, or
    it is within the limits together with the new connection. -/
def Harmless (max_connections max_fails : Nat) (max_age : Duration) (as : List GateAction) (info : PeerInfo) : Prop :=
  Purged max_age info as ∨ info.fails ≤ max_fails ∧ (info.connections + 1) % U32_VALUES ≤ max_connections

theorem judged_within {g₀ : Gate} {p : IpAddr} {pushed judged : Instant} {limit : Nat}
    (possible : 1 ≤ g₀.fail2ban.max_connections) (idle : g₀.open_sessions p = 0)
    (meantime : Run step (Without p) g₀ as g) :
    (∃ record, (g.fail2ban.connect p pushed judged).2.peers p = some record ∧ record.fails ≤ limit ∧
        record.connections ≤ g.fail2ban.max_connections) ↔
      elapsed pushed judged ≤ g₀.fail2ban.max_age ∧ ∀ info, g₀.fail2ban.peers p = some info →
        Harmless g₀.fail2ban.max_connections limit g₀.fail2ban.max_age as info := by
  obtain ⟨connections,-,age⟩ := limits_of_run meantime
  have kept := (record_of_run idle meantime).2
  simp only [Fail2Ban.connect_own,connections,age,Option.ite_none_right_eq_some,Option.some.injEq]
  cases known : g.fail2ban.peers p with
  | none =>
    have purged (info : PeerInfo) (recorded : g₀.fail2ban.peers p = some info) : Purged g₀.fail2ban.max_age info as := by
      by_contra unpurged
      simpa [known] using (kept info).mpr ⟨recorded,unpurged⟩
    constructor
    · rintro ⟨record,⟨fresh,-⟩,-⟩
      exact ⟨fresh,fun info recorded => .inl (purged info recorded)⟩
    · rintro ⟨fresh,-⟩
      exact ⟨_,⟨fresh,rfl⟩,Nat.zero_le _,possible⟩
  | some info =>
    obtain ⟨recorded,unpurged⟩ := (kept info).mp known
    constructor
    · rintro ⟨record,⟨fresh,rfl⟩,within⟩
      refine ⟨fresh,fun info' recorded' => .inr ?_⟩
      obtain rfl : info = info' := by simpa [recorded] using recorded'
      exact within
    · rintro ⟨fresh,harmless⟩
      exact ⟨_,⟨fresh,rfl⟩,(harmless info recorded).resolve_left unpurged⟩

/-- A peer that comes back after it had no open session, at whatever time, is accepted
    exactly if its old record does not stand against it, and its old fails are
    forgotten exactly if there were none or the record was purged. -/
theorem ban_expires_iff (max_connections max_fails : Nat) (max_age : Duration) (clock : Instant)
    (possible : 1 ≤ max_connections) {before meantime : List GateAction} {g₀ g : Gate} {p : IpAddr}
    {pushed judged : Instant}
    (reached : Run step (fun _ _ => True) (start max_connections max_fails max_age clock) before g₀)
    (idle : g₀.open_sessions p = 0) (away : Run step (Without p) g₀ meantime g) :
    ((g.fail2ban.connect p pushed judged).1 = .Ok ↔ elapsed pushed judged ≤ max_age ∧
      ∀ info, g₀.fail2ban.peers p = some info → Harmless max_connections max_fails max_age meantime info) ∧
    ((g.fail2ban.connect p pushed judged).1 = .Ok ∧
        (∀ info, (g.fail2ban.connect p pushed judged).2.peers p = some info → info.fails = 0) ↔
      elapsed pushed judged ≤ max_age ∧
      ∀ info, g₀.fail2ban.peers p = some info → Harmless max_connections 0 max_age meantime info) := by
  obtain ⟨connections,fails,age⟩ : g₀.fail2ban.max_connections = max_connections ∧
      g₀.fail2ban.max_fails = max_fails ∧ g₀.fail2ban.max_age = max_age := limits_of_run reached
  have same := (limits_of_run away).2.1
  subst connections fails age
  constructor
  · rw [Fail2Ban.connect_accepts,same]
    exact judged_within possible idle away
  · rw [← judged_within possible idle away,Fail2Ban.connect_accepts]
    constructor
    · rintro ⟨⟨record,known,-,few⟩,forgotten⟩
      exact ⟨record,known,Nat.le_of_eq (forgotten record known),few⟩
    · rintro ⟨record,known,none,few⟩
      refine ⟨⟨record,known,Nat.le_trans none (Nat.zero_le _),few⟩,?_⟩
      intro info same
      obtain rfl : record = info := by simpa [known] using same
      exact Nat.le_zero.mp none

end Gate

section
open Gate

/-- With one fail and none allowed, a peer is rejected after an hour although its
    fails are to be forgotten after a minute. -/
theorem ban_outlives_max_age : ∃ g, exec step (sampleGate 1 0) [.Connect samplePeer 0 0,.Disconnect 0 0 false] = some g ∧
    g.open_sessions samplePeer = 0 ∧
    (∃ info, g.fail2ban.peers samplePeer = some info ∧ from_secs 60 < elapsed info.time (from_secs 3600)) ∧
    (g.fail2ban.connect samplePeer (from_secs 3600) (from_secs 3600)).1 = .Reject :=
  ⟨_,rfl,rfl,⟨_,rfl,by decide⟩,by decide⟩

theorem ban_expires_sample : ∃ g₀ g, exec step (sampleGate 1 0) [.Connect samplePeer 0 0,.Disconnect 0 0 false] = some g₀ ∧
    exec step g₀ [.Connect sampleOther (from_secs 3500) (from_secs 3500)] = some g ∧
    (g.fail2ban.connect samplePeer (from_secs 3600) (from_secs 3600)).1 = .Ok := by
  have reached : Run step (fun _ _ => True) (sampleGate 1 0) [.Connect samplePeer 0 0,.Disconnect 0 0 false] _ :=
    .next (.next .start trivial rfl) trivial rfl
  have other : ∀ pushed judged, GateAction.Connect sampleOther (from_secs 3500) (from_secs 3500) ≠
      .Connect samplePeer pushed judged := by
    intro pushed judged same
    cases same
  refine ⟨_,_,rfl,rfl,?_⟩
  refine (ban_expires_iff 1 0 (from_secs 60) 0 (Nat.le_refl 1) reached rfl (.next .start other rfl)).1.mpr ⟨by decide,?_⟩
  intro info known
  obtain rfl := Option.some.inj ((rfl : _ = some (PeerInfo.mk 0 1 0)).symm.trans known)
  exact .inl ⟨sampleOther,from_secs 3500,from_secs 3500,by simp,by decide⟩

end
end PostGraph
