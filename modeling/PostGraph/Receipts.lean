import PostGraph.Endpoint
import PostGraph.Lib.Base64Text

/-!
What the reply to a mail tells the client. A mail is posted at the end of its data,
once at most; it is accepted exactly if that was done and succeeded.
-/
namespace PostGraph
open Traces Programs Session
set_option autoImplicit false

def post_of : Event ProxyEffect → Option Bytes
  | .Effect (.Request (.Mail _ _ body)) => some body
  | _ => none

/-- The bodies of the mails posted, in order. -/
def posts (events : List (Event ProxyEffect)) : List Bytes := events.filterMap post_of

def user_after (user : Option Text) : Event ProxyEffect → Option Text
  | .OnLogin username _ (.ok .Ok) => some username
  | .OnLogin _ _ _ => none
  | .OnReset _ => none
  | _ => user

/-- Who is logged in after these events. -/
def user_of (user : Option Text) (events : List (Event ProxyEffect)) : Option Text := events.foldl user_after user

/-- Events that log nobody in or out. -/
def Anonymous : Event ProxyEffect → Prop
  | .OnLogin _ _ _ => False
  | .OnReset _ => False
  | _ => True

/-- The reply to a mail follows on its handover. -/
def AnswersHandover (past : List (Event ProxyEffect)) (e : Event ProxyEffect) : Prop :=
  ∀ mail result, past.getLast? = some (.OnMail mail result) → e = .Reply (mail_reply result)

/-! ### Reading a longer trace -/

section
variable {past t u events : List (Event ProxyEffect)} {e : Event ProxyEffect} {line line' : Bytes}
  {effects effects' : List ProxyEffect} {user : Option Text}

theorem posts_append : posts (t ++ u) = posts t ++ posts u := List.filterMap_append

theorem posts_none (mailless : ∀ e ∈ u, Mailless e) : posts u = [] := by
  apply List.filterMap_eq_nil_iff.mpr
  intro e member
  cases e with
  | Effect effect => exact (mailless _ member).elim
  | _ => rfl

theorem posts_eq_nil {effects : List ProxyEffect} :
    posts (effects.map .Effect) = [] ↔ ∀ effect ∈ effects, post_of (.Effect effect) = none := by
  rw [posts,List.filterMap_eq_nil_iff,List.forall_mem_map]

theorem user_of_append : user_of user (t ++ u) = user_of (user_of user t) u := List.foldl_append

theorem user_of_anonymous (anonymous : ∀ e ∈ u, Anonymous e) : user_of user u = user := by
  induction u with
  | nil => rfl
  | cons e rest ih =>
    have same : user_after user e = user := by
      have quiet := anonymous e (by simp)
      cases e <;> first | rfl | exact quiet.elim
    rw [user_of,List.foldl_cons,same]
    exact ih fun e member => anonymous e (by simp [member])

theorem coded_anonymous {codes : List Nat} (coded : e.Coded codes) : Anonymous e := by
  cases coded
  trivial

theorem handshake_anonymous (handshake : e.Handshake) : Anonymous e := by
  cases handshake <;> trivial

/-- Where the last thing was not a handover, events that are none may follow. -/
theorem follows_mailless (before : Always AnswersHandover t) (settled : ∀ mail result, t.getLast? ≠ some (.OnMail mail result))
    (mailless : ∀ e ∈ u, ∀ mail result, e ≠ .OnMail mail result) :
    Always AnswersHandover (t ++ u) ∧ ∀ mail result, (t ++ u).getLast? ≠ some (.OnMail mail result) := by
  induction u using List.reverseRecOn with
  | nil => simpa using ⟨before,settled⟩
  | append_singleton u e ih =>
    obtain ⟨followed,open'⟩ := ih fun e member => mailless e (by simp [member])
    rw [← List.append_assoc]
    refine ⟨always_snoc.mpr ⟨followed,fun mail result last => absurd last (open' mail result)⟩,fun mail result last => ?_⟩
    rw [List.getLast?_concat] at last
    exact mailless e (by simp) mail result (Option.some.inj last)

/-- Between a line and the handover there are effects only, so the line is known. -/
theorem last_line_unique {before before' : List (Event ProxyEffect)}
    (same : before ++ Event.Received line :: effects.map .Effect = before' ++ Event.Received line' :: effects'.map .Effect) :
    before = before' ∧ effects = effects' := by
  have apart {others : List (Event ProxyEffect)} {l : Bytes} {es : List ProxyEffect}
      {later : List (Event ProxyEffect)} : es.map .Effect ≠ others ++ Event.Received l :: later := by
    intro split
    have member : .Received l ∈ (es.map .Effect : List (Event ProxyEffect)) := by simp [split]
    simp at member
  have injective : Function.Injective (Event.Effect : ProxyEffect → Event ProxyEffect) := fun _ _ equal => by
    simpa using equal
  rcases List.append_eq_append_iff.mp same with ⟨more,split,here⟩ | ⟨more,split,here⟩
  all_goals
    cases more with
    | nil =>
      simp only [List.nil_append,List.cons.injEq] at here
      exact ⟨by simp [split],List.map_injective_iff.mpr injective (by simp [here.2])⟩
    | cons first others =>
      rw [List.cons_append,List.cons.injEq] at here
      exact absurd here.2 apart

end

theorem mail_reply_accepted {result : Except Text Unit} : mail_reply result = MAIL_ACCEPTED ↔ result = .ok () := by
  cases result with
  | error err =>
    refine iff_of_false (fun same => ?_) (by simp)
    have codes := congrArg Response.code same
    simp [mail_reply,MAIL_HANDLER_ERROR,MAIL_ACCEPTED,Response.fixed] at codes
  | ok _ => simp [mail_reply]

theorem mail_reply_failed {result : Except Text Unit} : (mail_reply result).code = 451 ↔ result ≠ .ok () := by
  cases result with
  | error err => simp [mail_reply,MAIL_HANDLER_ERROR,Response.fixed,Response.extend]
  | ok _ => simp [mail_reply,MAIL_ACCEPTED,Response.fixed]

section
variable {H Effect : Type} [Handler H Effect] [Base64] {n : Nat} {s t : Session H Effect}

theorem loop_returns (returned : loop n s = .ok (some ()) t) : t.trace.getLast? = some (.Reply GOODBYE) := by
  induction n generalizing s with
  | zero => cases returned
  | succ n ih =>
    have turned := ends_of_triple (turn_spec s) rfl
    cases ran : turn s with
    | error err r =>
      rw [loop,bind_error ran] at returned
      cases returned
    | ok control r =>
      rw [loop,bind_ok ran] at returned
      cases control with
      | Continue => exact ih returned
      | Return =>
        rw [ran] at turned
        obtain ⟨line,events,trace,step⟩ := turned
        cases returned
        generalize t.view = v' at step
        cases step with
        | quit parsed phase => simp [trace]

/-- A session that returns has said goodbye. -/
theorem handle_returns (returned : handle n s = .ok (some ()) t) : t.trace.getLast? = some (.Reply GOODBYE) := by
  rw [handle,bind_ok (run_get s)] at returned
  cases greeted : reply (.banner s.config.server_name) s with
  | error err r =>
    rw [bind_error greeted] at returned
    cases returned
  | ok _ r =>
    rw [bind_ok greeted] at returned
    exact loop_returns returned

end

section
variable [Argon2]

/-- The posts to come: whether the one after `k` others succeeds. -/
def Succeeds (config : SessionConfig ProxyHandler) (k : Nat) : Prop :=
  config.handler.graph_client.config.outside.mails[k]? = some (.ok ())

/-- The username that the handler keeps is that of the last login. -/
theorem step_username [Base64] {v v' : View ProxyHandler} {line : Bytes} {events : List (Event ProxyEffect)}
    (step : Step v line events .Continue v') :
    v'.config.handler.username = user_of v.config.handler.username events := by
  cases step with
  | captured data more fits => rfl
  | delivered called data done ran =>
    obtain ⟨username,-⟩ := ProxyHandler.on_mail_effects ran
    rw [user_of_anonymous (by simp [Anonymous,or_imp,forall_and])]
    exact username
  | refused handshake response command other exchanged code =>
    have exchanges (e) (member : e ∈ handshake) := handshake_anonymous (exchanged e member)
    exact (user_of_anonymous (by simpa [Anonymous,or_imp,forall_and] using exchanges)).symm
  | greeted domain extended called responses parsed phase ran accepted codes =>
    obtain rfl := ran
    have coded (e) (member : e ∈ responses) := coded_anonymous (codes e member)
    exact (user_of_anonymous (by simpa [Anonymous,Handler.on_hello] using coded)).symm
  | informed command responses parsed which phase codes =>
    have coded (e) (member : e ∈ responses) := coded_anonymous (codes e member)
    exact (user_of_anonymous (by simpa [Anonymous] using coded)).symm
  | upgraded parsed phase supported => rfl
  | authenticated method initial handshake username password called parsed phase permitted exchanged ran accepted =>
    obtain ⟨silent,⟨succeeded,handler,-⟩ | ⟨rejected,-⟩⟩ := ProxyHandler.on_login_ok ran
    · rw [user_of_append]
      simp [silent,succeeded,handler,user_of,user_after]
    · simp [rejected] at accepted
  | mail sender parsed phase authenticated => rfl
  | recipient recipient parsed phase authenticated => rfl
  | data parsed phase authenticated => rfl
  | reset called parsed phase ran =>
    obtain rfl := ran
    simp [user_of,user_after,Handler.on_reset,ProxyHandler.on_reset]

variable [Base64]

/-- What became of a mail, if these are the effects of its handover: it was not posted,
    which is an error, or posted once, in the name of whoever is logged in, and the
    result is that of the post. -/
def Accounted (config : SessionConfig ProxyHandler) (before : List (Event ProxyEffect)) (effects : List ProxyEffect)
    (mail : Mail) (result : Except Text Unit) : Prop :=
  posts (effects.map .Effect) = [] ∧ (∃ err, result = .error err) ∨
    posts (effects.map .Effect) = [Base64.encode mail.data] ∧
      (∀ user, user_of config.handler.username before = some user → user = mail.sender) ∧
      (result = .ok () ↔ Succeeds config (posts before).length)

/-- Handovers are accounted for, and a mail is posted at the end of its data, if none
    was posted there before. -/
def Accounts (config : SessionConfig ProxyHandler) (past : List (Event ProxyEffect)) : Event ProxyEffect → Prop
  | .OnMail mail result => ∃ before line, ∃ effects : List ProxyEffect,
      past = before ++ Event.Received line :: effects.map .Effect ∧ Captured before mail.data ∧
      Accounted config before effects mail result
  | .Effect (.Request (.Mail _ _ _)) => ∃ before line, ∃ effects : List ProxyEffect,
      past = before ++ Event.Received line :: effects.map .Effect ∧ Capturing before ∧ is_data_end line = true ∧
      posts (effects.map .Effect) = []
  | _ => True

/-- What the handler knows of the posts and of the login, given what happened. -/
structure Books (config : SessionConfig ProxyHandler) (v : View ProxyHandler) (past : List (Event ProxyEffect)) :
    Prop where
  accounts : Always (Accounts config) past
  follows : Always AnswersHandover past
  settled : ∀ mail result, past.getLast? ≠ some (.OnMail mail result)
  mails : v.config.handler.graph_client.config.outside.mails =
    config.handler.graph_client.config.outside.mails.drop (posts past).length
  username : v.config.handler.username = user_of config.handler.username past

variable {config : SessionConfig ProxyHandler} {v : View ProxyHandler} {past : List (Event ProxyEffect)}

theorem accounts_effect {effect : ProxyEffect} (unposted : post_of (.Effect effect) = none)
    (past : List (Event ProxyEffect)) : Accounts config past (.Effect effect) := by
  cases effect with
  | SendMail sender data => trivial
  | Request request =>
    cases request with
    | Form url fields => trivial
    | Mail url bearer body => simp [post_of] at unposted

theorem accounts_mailless {e : Event ProxyEffect} (mailless : Mailless e) : Accounts config past e := by
  cases e with
  | Effect effect => exact mailless.elim
  | OnMail mail result => exact mailless.elim
  | _ => trivial

/-- The end of a mail. -/
theorem Books.mail (line : Bytes) {called : Called ProxyHandler ProxyEffect Unit} (books : Books config v past)
    (capturing : Capturing past) (done : is_data_end line = true)
    (ran : v.config.handler.on_mail v.state.current_mail = called) :
    Always (Accounts config) (past ++ Event.Received line :: called.effects.map .Effect) ∧
      Accounted config past called.effects v.state.current_mail called.result ∧
      called.handler.graph_client.config.outside.mails = config.handler.graph_client.config.outside.mails.drop
        ((posts past).length + (posts (called.effects.map .Effect)).length) := by
  have received : Always (Accounts config) (past ++ [Event.Received line]) := always_snoc.mpr ⟨books.accounts,trivial⟩
  obtain ⟨-,-,⟨-,none,kept,failed⟩ | ⟨permitted,effects,client,result⟩⟩ := ProxyHandler.on_mail_effects ran
  · rw [none,kept]
    exact ⟨received,.inl ⟨rfl,_,failed⟩,books.mails⟩
  · obtain ⟨requests,unposted,outcome⟩ :=
      Graph.Client.send_mail_posts v.config.handler.graph_client v.state.current_mail.sender v.state.current_mail.data
    -- what happens before the mail is posted, if it is
    generalize prepared : ProxyEffect.SendMail v.state.current_mail.sender v.state.current_mail.data ::
      requests.map .Request = preparation
    have quiet : ∀ effect ∈ preparation, post_of (.Effect effect) = none := by
      rw [← prepared,List.forall_mem_cons,List.forall_mem_map]
      refine ⟨rfl,fun request member => ?_⟩
      cases request with
      | Form url fields => rfl
      | Mail url bearer body => exact absurd member (unposted url bearer body)
    have started : Always (Accounts config) (past ++ Event.Received line :: preparation.map .Effect) := by
      rw [List.append_cons]
      refine always_quiet received ?_
      rw [List.forall_mem_map]
      exact fun effect member => accounts_effect (quiet effect member)
    have nothing := posts_eq_nil.mpr quiet
    rw [books.mails] at outcome
    rcases outcome with ⟨⟨err,failed⟩,asked,mails⟩ | ⟨url,bearer,asked,posted,mails⟩
    · rw [asked,prepared] at effects
      rw [effects,nothing]
      exact ⟨started,.inl ⟨nothing,err,result.trans failed⟩,client ▸ mails⟩
    · rw [asked,List.map_append,← List.cons_append,prepared] at effects
      have once : posts (called.effects.map .Effect) = [Base64.encode v.state.current_mail.data] := by
        rw [effects,List.map_append,posts_append,nothing]
        rfl
      refine ⟨?_,.inr ⟨once,?_,?_⟩,?_⟩
      · rw [effects,List.map_append,← List.cons_append,← List.append_assoc]
        exact always_snoc.mpr ⟨started,past,line,preparation,rfl,capturing,done,nothing⟩
      · intro user known
        simpa [ProxyHandler.permits,books.username,known] using permitted
      · rw [result,posted,Succeeds,List.head?_drop]
        cases config.handler.graph_client.config.outside.mails[(posts past).length]? <;> simp
      · rw [client,mails,once,List.tail_drop]
        rfl

/-- The reply to a mail is as it should be. -/
theorem answered_books {t : List (Event ProxyEffect)} {mail : Mail} {result : Except Text Unit}
    (last : t.getLast? = some (.OnMail mail result)) (accounts : Always (Accounts config) t) (follows : Always AnswersHandover t) :
    Always (Accounts config) (t ++ [Event.Reply (mail_reply result)]) ∧ Always AnswersHandover (t ++ [Event.Reply (mail_reply result)]) ∧
      ∀ mail' result', (t ++ [Event.Reply (mail_reply result)]).getLast? ≠ some (.OnMail mail' result') := by
  refine ⟨always_snoc.mpr ⟨accounts,trivial⟩,always_snoc.mpr ⟨follows,fun mail' result' same => ?_⟩,by simp⟩
  rw [last,Option.some.injEq,Event.OnMail.injEq] at same
  rw [same.2]

theorem books_invariant (config : SessionConfig ProxyHandler) : Invariant
    (fun (v : View ProxyHandler) past => Transaction v past ∧ Books config v past)
    (fun past => Settled past ∧ Always (Accounts config) past ∧ Always AnswersHandover past) := by
  refine transaction_invariant.extend (fun books => ⟨books.accounts,books.follows⟩) ?_
  intro v past line events outcome v' transaction books step
  have username (continues : outcome = .Continue) : v'.config.handler.username =
      user_of config.handler.username (past ++ Event.Received line :: events) := by
    subst continues
    rw [step_username step,books.username,user_of_append]
    rfl
  rcases step_effects step with ⟨mailless,client⟩ | ⟨called,after,rfl,answer,data,done,ran,handler⟩
  · have all : ∀ e ∈ .Received line :: events, Mailless e := List.forall_mem_cons.mpr ⟨trivial,mailless⟩
    have accounts : Always (Accounts config) (past ++ Event.Received line :: events) :=
      always_quiet books.accounts fun e member _ => accounts_mailless (all e member)
    obtain ⟨follows,settled⟩ := follows_mailless books.follows books.settled fun e member mail result same => by
      have quiet := all e member
      rw [same] at quiet
      exact quiet
    refine ⟨⟨accounts,follows⟩,fun continues => ⟨accounts,follows,settled,?_,username continues⟩⟩
    rw [client,books.mails,posts_append,posts_none all,List.append_nil]
  · obtain ⟨accounts,accounted,mails⟩ := books.mail line (transaction.capturing.mpr data) done ran
    obtain ⟨follows,settled⟩ := follows_mailless (u := .Received line :: called.effects.map .Effect) books.follows
      books.settled (by simp)
    have handed : Always (Accounts config) (past ++ Event.Received line :: called.effects.map .Effect ++
        [Event.OnMail v.state.current_mail called.result]) :=
      always_snoc.mpr ⟨accounts,past,line,called.effects,rfl,transaction.captured data,accounted⟩
    have open' : Always AnswersHandover (past ++ Event.Received line :: called.effects.map .Effect ++
        [Event.OnMail v.state.current_mail called.result]) :=
      always_snoc.mpr ⟨follows,fun mail result last => absurd last (settled mail result)⟩
    have trace (after : List (Event ProxyEffect)) : past ++ Event.Received line :: (called.effects.map .Effect ++
        Event.OnMail v.state.current_mail called.result :: after) = past ++ Event.Received line :: called.effects.map .Effect ++
          [Event.OnMail v.state.current_mail called.result] ++ after := by simp
    rw [trace] at username ⊢
    have posted : posts (past ++ Event.Received line :: called.effects.map .Effect ++
        [Event.OnMail v.state.current_mail called.result] ++ after) = posts past ++ posts (called.effects.map .Effect) := by
      have none : posts after = [] := by rcases answer with rfl | ⟨rfl,-⟩ <;> rfl
      rw [posts_append,posts_append,posts_append,none,List.append_nil]
      exact List.append_nil _
    rcases answer with rfl | ⟨rfl,closed⟩
    · obtain ⟨accounts',follows',settled'⟩ := answered_books List.getLast?_concat handed open'
      refine ⟨⟨accounts',follows'⟩,fun continues => ⟨accounts',follows',settled',?_,username continues⟩⟩
      rw [handler,mails,posted,List.length_append]
    · rw [List.append_nil]
      exact ⟨⟨handed,open'⟩,by simp [closed]⟩

theorem books_init (connection : Connection) (config : SessionConfig ProxyHandler) :
    Books config (Session.new connection config : Session ProxyHandler ProxyEffect).view
      [.Reply (.banner config.server_name)] where
  accounts := always_singleton.mpr trivial
  follows := always_singleton.mpr (by simp [AnswersHandover])
  settled := by simp
  mails := rfl
  username := rfl

/-- The end of the trace is no handover, unless the session failed there. -/
theorem handover_answered (connection : Connection) (config : SessionConfig ProxyHandler) (n : Nat) (mail : Mail)
    (result : Except Text Unit)
    (last : (final (handle n (.new connection config))).trace.getLast? = some (.OnMail mail result)) :
    value (handle n (.new connection config : Session ProxyHandler ProxyEffect)) = none := by
  have run := ends_of_triple ((books_invariant config).habit.handle_spec (.new connection config)
    ⟨settled_nil,always_nil,always_nil⟩ ⟨transaction_init connection config,books_init connection config⟩ n) rfl
  cases ran : handle n (.new connection config : Session ProxyHandler ProxyEffect) with
  | error err t => rfl
  | ok ended t =>
    rw [ran] at run last
    cases ended with
    | none => exact absurd last ((run.2 rfl).2.settled mail result)
    | some _ =>
      have goodbye := handle_returns ran
      rw [show t.trace.getLast? = _ from last] at goodbye
      cases goodbye

/-- The reply to a mail tells whether it was posted: accepted is a mail that was posted
    once, with its data, and with success; a 451 means that no post succeeded. -/
structure Truthful (config : SessionConfig ProxyHandler) (before : List (Event ProxyEffect))
    (effects : List ProxyEffect) (mail : Mail) (response : Response) : Prop where
  accepted : response = MAIL_ACCEPTED ↔
    (∃ body, posts (effects.map .Effect) = [body] ∧ Base64.decode body = some mail.data) ∧
      Succeeds config (posts before).length
  failed : response.code = 451 ↔
    ∀ k < (posts (effects.map .Effect)).length, ¬ Succeeds config ((posts before).length + k)

theorem Accounted.truthful {before : List (Event ProxyEffect)} {effects : List ProxyEffect} {mail : Mail}
    {result : Except Text Unit} (decodes : ∀ bytes, Base64.decode (Base64.encode bytes) = some bytes)
    (accounted : Accounted config before effects mail result) :
    Truthful config before effects mail (mail_reply result) := by
  rcases accounted with ⟨none,err,rfl⟩ | ⟨once,-,outcome⟩
  · constructor
    · rw [mail_reply_accepted,none]
      simp
    · rw [mail_reply_failed,none]
      simp
  · constructor
    · rw [mail_reply_accepted,outcome,once]
      exact ⟨fun succeeds => ⟨⟨_,rfl,decodes mail.data⟩,succeeds⟩,fun posted => posted.2⟩
    · rw [mail_reply_failed,ne_eq,outcome,once]
      simp

/-- In every session of the proxy, whatever the client sends and however requests for
    tokens and posts go: every end of data hands over the mail that was captured, which is
    posted once at most, and not at all for a sender other than the user who is logged in.
    Then the session fails to reply, or replies truthfully. Mails are posted at the ends of
    data only. -/
theorem mail_accepted_is_truthful (connection : Connection) (config : SessionConfig ProxyHandler) (n : Nat)
    (decodes : ∀ bytes, Base64.decode (Base64.encode bytes) = some bytes) :
    (∀ before line rest, (final (handle n (.new connection config))).trace = before ++ Event.Received line :: rest →
      Capturing before → is_data_end line = true →
      ∃ (effects : List ProxyEffect) (mail : Mail) (result : Except Text Unit) (after : List (Event ProxyEffect)),
        rest = effects.map .Effect ++ Event.OnMail mail result :: after ∧ Captured before mail.data ∧
        (posts (effects.map .Effect)).length ≤ 1 ∧
        (∀ user, user_of config.handler.username before = some user → user ≠ mail.sender →
          posts (effects.map .Effect) = []) ∧
        (after = [] ∧ value (handle n (.new connection config : Session ProxyHandler ProxyEffect)) = none ∨
          ∃ response later, after = .Reply response :: later ∧ Truthful config before effects mail response)) ∧
    ∀ past url bearer body rest, (final (handle n (.new connection config))).trace =
        past ++ Event.Effect (ProxyEffect.Request (.Mail url bearer body)) :: rest →
      ∃ before line, ∃ effects : List ProxyEffect, past = before ++ Event.Received line :: effects.map .Effect ∧
        Capturing before ∧ is_data_end line = true ∧ posts (effects.map .Effect) = [] := by
  obtain ⟨⟨-,answers⟩,accounts,follows⟩ := handle_always (books_invariant config) connection config
    ⟨settled_nil,always_nil,always_nil⟩ ⟨transaction_init connection config,books_init connection config⟩ n
  refine ⟨?_,fun past url bearer body rest posted => accounts past _ rest posted⟩
  intro before line rest trace capturing done
  obtain ⟨effects,mail,result,after,rfl⟩ := answers before line rest trace capturing done
  have split : before ++ Event.Received line :: (effects.map .Effect ++ Event.OnMail mail result :: after) =
      before ++ Event.Received line :: effects.map .Effect ++ Event.OnMail mail result :: after := by simp
  rw [split] at trace
  obtain ⟨before',line',effects',same,captured,accounted⟩ := accounts _ _ after trace
  obtain ⟨rfl,rfl⟩ := last_line_unique same
  refine ⟨effects,mail,result,after,rfl,captured,?_,?_,?_⟩
  · rcases accounted with ⟨none,-⟩ | ⟨once,-⟩
    · simp [none]
    · simp [once]
  · intro user known other
    rcases accounted with ⟨none,-⟩ | ⟨-,permitted,-⟩
    · exact none
    · exact absurd (permitted user known) other
  · cases after with
    | nil =>
      refine .inl ⟨rfl,handover_answered connection config n mail result ?_⟩
      rw [trace,List.getLast?_concat]
    | cons next later =>
      refine .inr ⟨mail_reply result,later,?_,accounted.truthful decodes⟩
      have replied := follows (before ++ Event.Received line :: effects.map .Effect ++ [Event.OnMail mail result]) next later
        (by rw [trace]; simp) mail result List.getLast?_concat
      rw [replied]

end
section
attribute [local instance] Sample.argon2

local instance sampleBase64 : Base64 := ⟨Base64Text.encode,Base64Text.decode⟩

/-- Two mails are sent; the post of the first one succeeds. -/
def sampleMails : EStateM.Result SessionError (Session ProxyHandler ProxyEffect) (Option Unit) :=
  Session.handle 11 (.new (.new_plain (Sample.sends ("HELO x\r\nMAIL FROM:<a>\r\nRCPT TO:<c>\r\nDATA\r\nhi\r\n.\r\n" ++
    "MAIL FROM:<a>\r\nRCPT TO:<c>\r\nDATA\r\nyou\r\n.\r\n")) none) (Sample.config .None))

theorem mail_accepted_is_truthful_sample :
    ∃ (effects : List ProxyEffect) (mail : Mail) (result : Except Text Unit) (response : Response)
      (later : List (Event ProxyEffect)), (final sampleMails).trace.drop 32 =
        effects.map .Effect ++ Event.OnMail mail result :: .Reply response :: later ∧
      Truthful (Sample.config .None) ((final sampleMails).trace.take 31) effects mail response := by
  have split : (final sampleMails).trace = (final sampleMails).trace.take 31 ++ Event.Received (ascii ".\r\n") ::
      (final sampleMails).trace.drop 32 := by decide +kernel
  have capturing : Capturing ((final sampleMails).trace.take 31) := ⟨DATA_START,by decide +kernel,rfl⟩
  have runs : value sampleMails ≠ none := by decide +kernel
  obtain ⟨effects,mail,result,after,handed,-,-,-,⟨-,failed⟩ | ⟨response,later,rfl,truthful⟩⟩ :=
    (mail_accepted_is_truthful _ (Sample.config .None) 11 Base64Text.decode_encode).1 _ _ _ split capturing (by decide)
  · exact absurd failed runs
  · exact ⟨effects,mail,result,response,later,handed,truthful⟩

end
end PostGraph
