import Mathlib.Data.List.Basic

/-!
Runs of a machine that takes one action at a time. `Run step ok` collects the
runs in which every action was possible and met the side condition `ok` in the
state it was taken in; `Run.preserves` packages the induction over a run, with the
actions taken so far at hand, and `Run.simulate` turns a run of one machine into
a run of another. A list of actions is run by `follow`, which checks `ok` too.
-/
namespace Runs
variable {State Action : Type*} {step : State → Action → Option State} {ok : State → Action → Prop}
  {start s s' : State} {as : List Action} {a : Action}

/-- The runs from `start`: the actions taken, oldest first, and the state reached. -/
inductive Run (step : State → Action → Option State) (ok : State → Action → Prop) (start : State) :
    List Action → State → Prop
  | start : Run step ok start [] start
  | next {as : List Action} {a : Action} {s s' : State} (run : Run step ok start as s) (allowed : ok s a)
      (stepped : step s a = some s') : Run step ok start (as ++ [a]) s'

/-- What holds at the start and survives every action of a run holds after the
    run. -/
theorem Run.preserves {I : List Action → State → Prop} (run : Run step ok start as s) (init : I [] start)
    (preserved : ∀ as s a s', Run step ok start as s → ok s a → step s a = some s' → I as s → I (as ++ [a]) s') :
    I as s := by
  induction run with
  | start => exact init
  | next run allowed stepped ih => exact preserved _ _ _ _ run allowed stepped ih

theorem Run.trans {bs : List Action} (first : Run step ok start as s) (later : Run step ok s bs s') :
    Run step ok start (as ++ bs) s' := by
  induction later with
  | start => simpa using first
  | next _ allowed stepped ih => simpa using Run.next ih allowed stepped

/-- Where every step is a step of a second machine on the image of the states, every
    run is one of that machine. -/
theorem Run.simulate {State' Action' : Type*} {step' : State' → Action' → Option State'}
    {ok' : State' → Action' → Prop} (f : State → State') (run : Run step ok start as s)
    (simulates : ∀ s a s', ok s a → step s a = some s' → ∃ b, ok' (f s) b ∧ step' (f s) b = some (f s')) :
    ∃ bs, Run step' ok' (f start) bs (f s) := by
  induction run with
  | start => exact ⟨[],.start⟩
  | next _ allowed stepped ih =>
    obtain ⟨bs,before⟩ := ih
    obtain ⟨b,allowed',stepped'⟩ := simulates _ _ _ allowed stepped
    exact ⟨bs ++ [b],.next before allowed' stepped'⟩

/-- Where the states keep a list that steps only add to, an entry of it was added by one of the
    actions: the list was what stands before the entry, up to what that action added. -/
theorem Run.entry {Entry : Type*} (list : State → List Entry) (run : Run step ok start as s) (none : list start = [])
    (grows : ∀ s a s', step s a = some s' → list s <+: list s') {past rest : List Entry} {e : Entry}
    (split : list s = past ++ e :: rest) :
    ∃ before a after u u' news later, as = before ++ a :: after ∧ Run step ok start before u ∧ step u a = some u' ∧
      list u' = list u ++ (news ++ e :: later) ∧ past = list u ++ news := by
  induction run generalizing rest with
  | start => simp [none] at split
  | @next as a s s' run _ stepped ih =>
    obtain ⟨added,grown⟩ := grows s a s' stepped
    have here (news : List Entry) (early : past = list s ++ news) (new : added = news ++ e :: rest) :=
      (⟨as,a,[],s,s',news,rest,rfl,run,stepped,by rw [← grown,new],early⟩ : ∃ before b after u u' news later,
        as ++ [a] = before ++ b :: after ∧ Run step ok start before u ∧ step u b = some u' ∧
          list u' = list u ++ (news ++ e :: later) ∧ past = list u ++ news)
    rcases List.append_eq_append_iff.mp (grown.trans split) with ⟨news,early,new⟩ | ⟨tail,before,new⟩
    · exact here news early new
    · cases tail with
      | nil => exact here [] (by simpa using before.symm) (by simpa using new.symm)
      | cons first tail =>
        obtain ⟨rfl,-⟩ := List.cons.inj new
        obtain ⟨before,b,after,u,u',news,later,rfl,others⟩ := ih before
        exact ⟨before,b,after ++ [a],u,u',news,later,by simp,others⟩

/-- Taking the actions of a list one after the other. -/
def exec (step : State → Action → Option State) : State → List Action → Option State
  | s, [] => some s
  | s, a :: as => (step s a).bind fun s' => exec step s' as

theorem exec_append (as bs : List Action) :
    exec step s (as ++ bs) = (exec step s as).bind fun s' => exec step s' bs := by
  induction as generalizing s with
  | nil => rfl
  | cons a as ih =>
    cases stepped : step s a with
    | none => simp [exec,stepped]
    | some s' => simpa [exec,stepped] using ih

theorem Run.exec (run : Run step ok start as s) : exec step start as = some s := by
  induction run with
  | start => rfl
  | next run allowed stepped ih => simp [exec_append,ih,Runs.exec,stepped]

/-- Taking the actions of a list as long as each meets `ok` where it is taken. -/
def follow (step : State → Action → Option State) (ok : State → Action → Prop) [∀ s a, Decidable (ok s a)] :
    State → List Action → Option State
  | s, [] => some s
  | s, a :: as => if ok s a then (step s a).bind fun s' => follow step ok s' as else none

theorem run_of_follow [∀ s a, Decidable (ok s a)] (before : Run step ok start as s) (later : List Action)
    (followed : follow step ok s later = some s') : Run step ok start (as ++ later) s' := by
  induction later generalizing s as with
  | nil =>
    obtain rfl : s = s' := by simpa [follow] using followed
    simpa using before
  | cons a later ih =>
    rw [follow,Option.ite_none_right_eq_some,Option.bind_eq_some_iff] at followed
    obtain ⟨allowed,mid,stepped,rest⟩ := followed
    simpa using ih (.next before allowed stepped) rest

end Runs
