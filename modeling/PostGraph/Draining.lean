import Mathlib.Data.Prod.Lex
import PostGraph.Alike
import PostGraph.BruteForce

/-!
Sessions end and servers drain. A session takes a line of its client in every turn it
goes on after, or is upgraded, which it is once at most; so it ends whatever is sent
to it (`loop_ends_always`). The tasks of a server that accepts nobody are done after so
many actions, and then no record counts a connection.
-/
namespace PostGraph
open Couplings Programs Runs Session
set_option autoImplicit false

/-! ### What a connection still brings -/

def Recv.size : Recv → Nat
  | Data bytes => bytes.length + 1
  | Fail => 1

/-- The bytes and the reads that are left. -/
def BufReader.supply (self : BufReader) : Nat := self.buffer.length + (self.inner.reads.map Recv.size).sum

theorem fill_buf_supply {reader reader' : BufReader} {buf : Bytes} (filled : reader.fill_buf = some (buf,reader')) :
    reader'.supply ≤ reader.supply ∧ (buf = [] ∨ reader'.buffer = buf) := by
  unfold BufReader.fill_buf at filled
  by_cases buffered : reader.buffer = []
  · rw [if_neg (by simpa using buffered)] at filled
    split at filled
    · next none =>
      obtain ⟨rfl,rfl⟩ := by simpa using filled
      exact ⟨Nat.le_refl _,.inl rfl⟩
    · next bytes reads coming =>
      obtain ⟨rfl,rfl⟩ := by simpa using filled
      refine ⟨?_,.inr rfl⟩
      simp only [BufReader.supply,coming,buffered,List.map_cons,List.sum_cons,Recv.size,List.length_nil]
      omega
    · simp at filled
  · rw [if_pos buffered] at filled
    obtain ⟨rfl,rfl⟩ := by simpa using filled
    exact ⟨Nat.le_refl _,.inr rfl⟩

/-- Reading takes from what is left, and a line that is read takes something. -/
theorem read_line_loop_supply (fuel : Nat) (acc : Bytes) (reader : BufReader) :
    (read_line_loop fuel acc reader).2.supply ≤ reader.supply ∧
      ∀ line, (read_line_loop fuel acc reader).1 = .ok (some line) →
        (read_line_loop fuel acc reader).2.supply < reader.supply := by
  induction fuel generalizing acc reader with
  | zero => simp [read_line_loop]
  | succ fuel ih =>
    rw [read_line_loop]
    cases filled : reader.fill_buf with
    | none => simp
    | some pair =>
      obtain ⟨buf,reader'⟩ := pair
      obtain ⟨less,held⟩ := fill_buf_supply filled
      by_cases empty : buf = []
      · simp only [if_pos empty]
        refine ⟨less,fun line read => ?_⟩
        split_ifs at read
        simp at read
      obtain held := held.resolve_left empty
      have bytes := List.length_pos_of_ne_nil empty
      have taken (n : Nat) (moves : 0 < n) : (reader'.consume n).supply < reader.supply := by
        refine Nat.lt_of_lt_of_le ?_ less
        simp only [BufReader.supply,BufReader.consume,List.length_drop,held]
        omega
      have goes_on (n : Nat) (moves : 0 < n) :
          let next := if acc.length + n > MAX_LINE_LENGTH then (.error .LineTooLong,reader')
            else if (acc ++ buf.take n).getLast? = some LF then (.ok (some (acc ++ buf.take n)),reader'.consume n)
            else read_line_loop fuel (acc ++ buf.take n) (reader'.consume n)
          next.2.supply ≤ reader.supply ∧ ∀ line, next.1 = .ok (some line) → next.2.supply < reader.supply := by
        obtain ⟨later,-⟩ := ih (acc ++ buf.take n) (reader'.consume n)
        split_ifs with long ended
        · exact ⟨less,by simp⟩
        · exact ⟨(taken n moves).le,fun _ _ => taken n moves⟩
        · exact ⟨(later.trans_lt (taken n moves)).le,fun _ _ => later.trans_lt (taken n moves)⟩
      simp only [if_neg empty]
      cases memchr LF buf with
      | none => exact goes_on buf.length bytes
      | some n => exact goes_on (n + 1) (Nat.succ_pos n)

/-- What a connection brings before and after an upgrade: an upgrade comes first. -/
def Connection.supply (self : Connection) : Nat ×ₗ Nat :=
  toLex (if self.supports_tls then 1 else 0,self.stream.supply)

theorem with_stream_supply {c : Connection} {reader : BufReader} (less : reader.supply ≤ c.stream.supply) :
    (c.with_stream reader).supply ≤ c.supply := by
  simp only [Connection.supply,Connection.supports_tls_with_stream,Connection.stream_with_stream]
  rw [Prod.Lex.toLex_le_toLex]
  exact .inr ⟨rfl,less⟩

theorem start_tls_supply {c d : Connection} (upgraded : c.start_tls = some d) : d.supply < c.supply := by
  have supported : c.supports_tls = true := by
    cases c with
    | Plain stream tls => cases tls with
      | none => simp [Connection.start_tls] at upgraded
      | some _ => rfl
    | Tls _ => simp [Connection.start_tls] at upgraded
  simp only [Connection.supply,supported,(Connection.start_tls_tls upgraded).2]
  rw [Prod.Lex.toLex_lt_toLex]
  exact .inl (by simp)

/-! ### The end of a session -/

section
variable {H Effect : Type}

/-- A session brings no more than this. -/
def BringsAtMost (bound : Nat ×ₗ Nat) (s : Session H Effect) : Prop := ∀ c ∈ s.connection, c.supply ≤ bound

theorem brings_kept (bound : Nat ×ₗ Nat) :
    Keeps (BringsAtMost bound : Session H Effect → Prop) (BringsAtMost bound) := by
  refine keeps_stream ?_ ?_ fun c d within upgraded => (start_tls_supply upgraded).le.trans within
  · intro c reader within buffer reads
    exact (with_stream_supply (by simp [BufReader.supply,buffer,reads])).trans within
  · intro c result reader within ran
    have less := (read_line_loop_supply (c.stream.inner.reads.length + 2) [] c.stream).1
    rw [ran] at less
    exact (with_stream_supply less).trans within

variable [Handler H Effect] [Base64] {s t : Session H Effect}

/-- A turn after which a session goes on leaves less to come. -/
theorem turn_takes (turned : turn s = .ok .Continue t) :
    ∃ c d, s.connection = some c ∧ t.connection = some d ∧ d.supply < c.supply := by
  obtain ⟨line,r,read⟩ : ∃ line r, read_line s = .ok (some line) r := by
    by_contra unread
    obtain ⟨err,_,failed,-⟩ := turn_silent fun line r read => unread ⟨line,r,read⟩
    simp [failed] at turned
  cases connected : s.connection with
  | none => simp [read_line_unconnected connected] at read
  | some c =>
    obtain ⟨result,reader,ran⟩ : ∃ result reader,
        read_line_loop (c.stream.inner.reads.length + 2) [] c.stream = (result,reader) := ⟨_,_,rfl⟩
    have taken := (read_line_loop_supply (c.stream.inner.reads.length + 2) [] c.stream).2
    rw [ran] at taken
    have next := (read_line_eq connected ran).symm.trans read
    have here : r.connection = some (c.with_stream reader) ∧ reader.supply < c.stream.supply := by
      cases result with
      | error err => simp at next
      | ok line' =>
        cases line' with
        | none => simp at next
        | some line' =>
          obtain ⟨-,rfl⟩ := by simpa using next
          exact ⟨rfl,taken line' rfl⟩
    have less : (c.with_stream reader).supply < c.supply := by
      simp only [Connection.supply,Connection.supports_tls_with_stream,Connection.stream_with_stream]
      rw [Prod.Lex.toLex_lt_toLex]
      exact .inr ⟨rfl,here.2⟩
    rw [turn_eq read] at turned
    have within : BringsAtMost (c.with_stream reader).supply r := by
      intro c' member
      obtain rfl : c.with_stream reader = c' := by simpa [here.1] using member
      exact le_rfl
    have kept := ends_of_unless ((brings_kept _).coupling.unless_handle_line line) within
    have still := ends_of_unless (keeps_connected.coupling.unless_handle_line line) (s := r) (by rw [here.1]; rfl)
    rw [turned] at kept still
    obtain ⟨d,connected'⟩ := Option.isSome_iff_exists.mp still
    exact ⟨c,d,rfl,connected',(kept d connected').trans_lt less⟩

theorem loop_continue {n : Nat} (turned : turn s = .ok .Continue t) : loop (n + 1) s = loop n t := by
  simp only [loop,bind,EStateM.bind,turned]

/-- Every session ends, whatever the client and the network do, and whether it is upgraded
    or not. By induction on what its connection still brings. -/
theorem loop_ends_always (s : Session H Effect) : ∃ n, ∀ t, loop n s ≠ .ok none t := by
  have ends (bound : Nat ×ₗ Nat) :
      ∀ s : Session H Effect, BringsAtMost bound s → ∃ n, ∀ t, loop n s ≠ .ok none t := by
    induction bound using WellFoundedLT.induction with
    | ind bound ih =>
      intro s within
      cases turned : turn s with
      | error err t =>
        refine ⟨1,fun t => ?_⟩
        simp [loop,bind,EStateM.bind,turned]
      | ok control t =>
        cases control with
        | Return =>
          refine ⟨1,fun t => ?_⟩
          simp [loop,bind,EStateM.bind,turned,pure,EStateM.pure]
        | Continue =>
          obtain ⟨c,d,connected,connected',less⟩ := turn_takes turned
          have left : BringsAtMost d.supply t := by
            intro d' member
            obtain rfl : d = d' := by simpa [connected'] using member
            exact le_rfl
          obtain ⟨n,ended⟩ := ih d.supply (less.trans_le (within c connected)) t left
          exact ⟨n + 1,fun u => by rw [loop_continue turned]; exact ended u⟩
  cases connected : s.connection with
  | none =>
    refine ends (toLex (0,0)) s fun c member => ?_
    simp [connected] at member
  | some c =>
    refine ends c.supply s fun c' member => ?_
    obtain rfl : c = c' := by simpa [connected] using member
    exact le_rfl

end

/-! ### The end of a task -/

section
variable [Argon2] [Base64]

/-- The task goes on so many times at most. -/
def Stage.EndsIn : Nat → Stage → Prop
  | 0, stage => ∃ handler, stage = .Closing handler
  | n + 1, stage => ∀ stage' events, stage.resume = some (stage',events) → stage'.EndsIn n

theorem ends_closing (handler : ProxyHandler) (n : Nat) : (Stage.Closing handler).EndsIn n := by
  cases n with
  | zero => exact ⟨handler,rfl⟩
  | succ n => exact fun _ _ resumed => nomatch resumed

theorem ends_serving {n : Nat} {session : Session ProxyHandler ProxyEffect} (ended : ∀ t, loop n session ≠ .ok none t) :
    (Stage.Serving session).EndsIn n := by
  induction n generalizing session with
  | zero => exact absurd rfl (ended session)
  | succ n ih =>
    intro stage events resumed
    obtain resumed : Stage.proceed session turn = (stage,events) := Option.some.inj resumed
    unfold Stage.proceed at resumed
    cases turned : turn session with
    | error err t =>
      obtain ⟨rfl,-⟩ := by simpa [turned] using resumed
      exact ends_closing _ n
    | ok control t =>
      cases control with
      | Return =>
        obtain ⟨rfl,-⟩ := by simpa [turned] using resumed
        exact ends_closing _ n
      | Continue =>
        obtain ⟨rfl,-⟩ := by simpa [turned] using resumed
        exact ih fun u => by rw [← loop_continue turned]; exact ended u

/-- Every task is done some time. -/
theorem stage_ends (stage : Stage) : ∃ n, stage.EndsIn n := by
  have serving (session : Session ProxyHandler ProxyEffect) : ∃ n, (Stage.Serving session).EndsIn n :=
    (loop_ends_always session).imp fun _ => ends_serving
  cases stage with
  | Closing handler => exact ⟨0,handler,rfl⟩
  | Serving session => exact serving session
  | Starting session =>
    cases begun : Stage.proceed session Stage.greet with
    | mk stage' events' =>
      have next : (Stage.Starting session).resume = some (stage',events') := congrArg some begun
      obtain ⟨n,ended⟩ : ∃ n, stage'.EndsIn n := by
        unfold Stage.proceed at begun
        split at begun
        · obtain ⟨rfl,-⟩ := by simpa using begun
          exact serving _
        all_goals
          obtain ⟨rfl,-⟩ := by simpa using begun
          exact ⟨0,_,rfl⟩
      refine ⟨n + 1,fun stage events resumed => ?_⟩
      obtain ⟨rfl,-⟩ := by simpa [next] using resumed
      exact ended

/-! ### The end of all tasks -/

/-- An action of a task that the server has. -/
def ServerAction.works : ServerAction → Bool
  | Handle _ _ => true
  | Timeout _ _ => true
  | Disconnect _ _ => true
  | _ => false

namespace Server
variable {s s' : Server} {a : ServerAction} {k : Nat}

/-- The tasks are done after so many of their actions. -/
def Owes (k : Nat) (s : Server) : Prop := ∃ owed : List (Task × Nat), owed.map Prod.fst = s.tasks ∧
  (∀ entry ∈ owed, entry.1.stage.EndsIn entry.2) ∧ (owed.map fun entry => entry.2 + 1).sum = k

theorem owes_some (s : Server) : ∃ k, s.Owes k := by
  have owed (tasks : List Task) : ∃ owed : List (Task × Nat), owed.map Prod.fst = tasks ∧
      ∀ entry ∈ owed, entry.1.stage.EndsIn entry.2 := by
    induction tasks with
    | nil => exact ⟨[],rfl,by simp⟩
    | cons task tasks ih =>
      obtain ⟨owed,rfl,ends⟩ := ih
      obtain ⟨n,ended⟩ := stage_ends task.stage
      refine ⟨(task,n) :: owed,rfl,?_⟩
      rintro entry (_ | ⟨_,member⟩)
      · exact ended
      · exact ends entry member
  obtain ⟨owed,tasks,ends⟩ := owed s.tasks
  exact ⟨_,owed,tasks,ends,rfl⟩

/-- A task that goes on, or is cut off, has less to do. -/
theorem Owes.update {i : Nat} {task : Task} {stage : Stage} {now : Instant} {events : List (Event ProxyEffect)}
    (owes : s.Owes k) (here : s.tasks[i]? = some task)
    (sooner : ∀ n, task.stage.EndsIn n → ∃ m < n, stage.EndsIn m) :
    ∃ k' < k, (s.update i { task with stage := stage } now events).Owes k' := by
  obtain ⟨owed,tasks,ends,rfl⟩ := owes
  rw [← tasks,List.getElem?_map,Option.map_eq_some_iff] at here
  obtain ⟨⟨task,n⟩,entry,rfl⟩ := here
  obtain ⟨inside,-⟩ := List.getElem?_eq_some_iff.mp entry
  obtain ⟨m,less,ended⟩ := sooner n (ends _ (List.mem_of_getElem? entry))
  have sum := Counts.sum_replace (fun entry : Task × Nat => entry.2 + 1) (y := ({ task with stage := stage },m)) entry
  refine ⟨_,?_,owed.set i ({ task with stage := stage },m),?_,?_,rfl⟩
  · simp only at sum
    omega
  · rw [List.map_set,tasks]
    rfl
  · intro entry' member
    rcases List.mem_or_eq_of_mem_set member with before | rfl
    · exact ends entry' before
    · exact ended

theorem Owes.leave {i : Nat} {task : Task} (owes : s.Owes k) (here : s.tasks[i]? = some task)
    (left : s'.tasks = s.tasks.eraseIdx i) : ∃ k' < k, s'.Owes k' := by
  obtain ⟨owed,tasks,ends,rfl⟩ := owes
  rw [← tasks,List.getElem?_map,Option.map_eq_some_iff] at here
  obtain ⟨⟨task,n⟩,entry,rfl⟩ := here
  have sum := Counts.sum_leave (fun entry : Task × Nat => entry.2 + 1) entry
  refine ⟨_,?_,owed.eraseIdx i,?_,fun entry' member => ends entry' (List.mem_of_mem_eraseIdx member),rfl⟩
  · simp only at sum
    omega
  · rw [left,← tasks,List.eraseIdx_map]

/-- Each action of a task leaves less to do. -/
theorem Owes.working (owes : s.Owes k) (works : a.works = true) (stepped : s.step a = some s') :
    ∃ k' < k, s'.Owes k' := by
  cases steps_of_step stepped with
  | accept => simp [ServerAction.works] at works
  | wait => simp [ServerAction.works] at works
  | handle i now task stage events here resumed later =>
    refine owes.update here fun n ends => ?_
    cases n with
    | zero =>
      obtain ⟨handler,closing⟩ := ends
      simp [closing,Stage.resume] at resumed
    | succ n => exact ⟨n,Nat.lt_succ_self n,ends stage events resumed⟩
  | timeout i now task stage here cancelled later due =>
    refine owes.update here fun n ends => ?_
    obtain ⟨handler,closed⟩ : ∃ handler, stage = .Closing handler := by
      cases going : task.stage with
      | Closing handler => simp [going,Stage.cancel] at cancelled
      | Starting session => exact ⟨_,(Option.some.inj (by simpa [going,Stage.cancel] using cancelled)).symm⟩
      | Serving session => exact ⟨_,(Option.some.inj (by simpa [going,Stage.cancel] using cancelled)).symm⟩
    cases n with
    | zero =>
      obtain ⟨handler,closing⟩ := ends
      simp [closing,Stage.cancel] at cancelled
    | succ n => exact ⟨n,Nat.lt_succ_self n,closed ▸ ends_closing handler n⟩
  | disconnect i now task handler here closing later => exact owes.leave here rfl

/-- The first of the tasks can go on or disconnect. -/
theorem tasks_of_stuck (stuck : ∀ a, a.works = true → s.step a = none) : s.tasks = [] := by
  cases tasks : s.tasks with
  | nil => rfl
  | cons task rest =>
    have here : s.tasks[0]? = some task := by simp [tasks]
    have working := stuck (.Handle 0 s.clock) rfl
    have leaving := stuck (.Disconnect 0 s.clock) rfl
    cases stage : task.stage with
    | Starting session => simp [step,here,stage,Stage.resume] at working
    | Serving session => simp [step,here,stage,Stage.resume] at working
    | Closing handler => simp [step,here,stage] at leaving

/-- A run of the tasks alone is as short as what they have to do. -/
theorem Owes.bounds {ok : Server → ServerAction → Prop} {later : List ServerAction} (owes : s.Owes k)
    (ran : Run step ok s later s') (works : ∀ a ∈ later, a.works = true) : later.length ≤ k := by
  have left : ∃ k', s'.Owes k' ∧ later.length + k' ≤ k := by
    induction ran with
    | start => exact ⟨k,owes,by simp⟩
    | @next as a t t' _ _ stepped ih =>
      obtain ⟨k',owes',short⟩ := ih fun a member => works a (by simp [member])
      obtain ⟨k'',less,owes''⟩ := owes'.working (works a (by simp)) stepped
      refine ⟨k'',owes'',?_⟩
      simp only [List.length_append,List.length_singleton]
      omega
  obtain ⟨k',-,short⟩ := left
  omega

end Server

/-- A server that accepts nobody any more is done with its tasks after so many actions,
    whatever its peers send and in whichever order the tasks take turns, and none of its
    tasks is stuck. If no session outlasted the records, no record counts a connection then. -/
theorem server_drains (s : Server) : ∃ k, ∀ later s', Run Server.step (fun _ _ => True) s later s' →
    (∀ a ∈ later, a.works = true) → later.length ≤ k ∧ ((∀ a, a.works = true → s'.step a = none) → s'.tasks = [] ∧
      ∀ config max_connections max_fails max_age clock actions,
        Run Server.step Server.Timely (.start config (.new max_connections max_fails max_age) clock) actions s' →
        ∀ p info, s'.fail2ban.peers p = some info → info.connections = 0) := by
  obtain ⟨k,owes⟩ := s.owes_some
  refine ⟨k,fun later s' ran works => ⟨owes.bounds ran works,fun stuck => ?_⟩⟩
  have drained := Server.tasks_of_stuck stuck
  refine ⟨drained,?_⟩
  intro config max_connections max_fails max_age clock actions timely p info known
  rw [(Server.sound_of_run timely).exact.counts p info known]
  simp [Gate.open_sessions,Server.gate,drained]

end
end PostGraph
