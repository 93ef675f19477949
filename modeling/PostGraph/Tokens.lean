import PostGraph.Lib.Leases
import PostGraph.Lib.Traces
import PostGraph.Proxy

/-!
The access tokens of the graph client as leases. Whatever is called, and whenever, the
client holds the token that it was granted last, and asks for another only once that
has expired. A mail is sent with a token that passes the check in whole seconds, which
is one that has expired if its age is `expires_in` seconds and a fraction.
-/
namespace PostGraph
open Leases Traces
set_option autoImplicit false

/-- What `as_secs` counts. -/
abbrev second : Duration := 1000000000

/-- The readings of a clock; the one numbered 0 has been taken already. -/
def Clock.reading (self : Clock) : Nat → Instant
  | 0 => self.last
  | n + 1 => self.now.2.reading n

theorem now_reading (clock : Clock) : clock.now.1 = clock.reading 1 := by
  unfold Clock.reading Clock.reading Clock.now
  split <;> rfl

namespace Graph

def AccessToken.lease (self : AccessToken) (issued_at : Instant) : Lease Text :=
  ⟨self.access_token,self.expires_in,issued_at⟩

/-- What the login endpoint grants when it is asked next, if it does: a bearer token. -/
def Outside.grants (self : Outside) : Option AccessToken :=
  match self.tokens with
  | .ok token :: _ => if token.token_type = "Bearer".toList then some token else none
  | _ => none

def Request.is_form : Request → Bool
  | .Form _ _ => true
  | .Mail _ _ _ => false

/-- The token that a mail is sent with. -/
def Request.bearer : Request → Option Text
  | .Form _ _ => none
  | .Mail _ bearer _ => some bearer

inductive Call
  | Authenticate
  | SendMail (sender : Text) (mail_mime_data : Bytes)

def Call.sends : Call → Bool
  | .Authenticate => false
  | .SendMail _ _ => true

/-- A call that was made, with the client before and after it. -/
structure Made where
  call : Call
  before : Client
  requests : List Request
  after : Client

def Call.made [Base64] (self : Call) (client : Client) : Made :=
  match self with
  | .Authenticate => ⟨self,client,client.authenticate.requests,client.authenticate.client⟩
  | .SendMail sender data =>
    ⟨self,client,(client.send_mail sender data).requests,(client.send_mail sender data).client⟩

/-- The calls made of a client, one after the other. The clock moves at will between
    any two of its readings, and so between the calls. -/
def history [Base64] : Client → List Call → List Made
  | _, [] => []
  | client, call :: calls => call.made client :: history (call.made client).after calls

namespace Client

def clock (self : Client) : Clock := self.config.outside.clock

/-- The stored token as a lease, from when it was issued. -/
def lease (self : Client) : Option (Lease Text) := self.token.bind fun token => token.issued_at.map token.lease

/-- At the first reading of the clock no token passes the check. -/
def Lapsed (self : Client) : Prop := ∀ lease, self.lease = some lease → ¬ lease.Passes second (self.clock.reading 1)

/-- The token that a mail would be sent with, and when it is checked before that. It is
    the stored one if that passes, or else what the login endpoint grants. -/
inductive Offers (self : Client) : Lease Text → Instant → Prop
  | held (lease : Lease Text) (stored : self.lease = some lease) (passes : lease.Passes second (self.clock.reading 1)) :
    Offers self lease (self.clock.reading 2)
  | granted (token : AccessToken) (lapsed : self.Lapsed) (grants : self.config.outside.grants = some token) :
    Offers self (token.lease (self.clock.reading 2)) (self.clock.reading 3)

end Client

namespace Made

/-- A token is asked for. -/
def asks (self : Made) : Bool := self.requests.any Request.is_form

/-- The tokens that mails are sent with. -/
def bearers (self : Made) : List Text := self.requests.filterMap Request.bearer

/-- The first reading of the clock, at which a stored token is checked. -/
def began (self : Made) : Instant := self.before.clock.reading 1

/-- The last reading of the clock, after which a mail is sent. -/
def ended (self : Made) : Instant := self.after.clock.last

/-- The token acquired, from when it was. -/
def granted (self : Made) : Option (Lease Text) :=
  if self.asks then self.before.config.outside.grants.map fun token => token.lease (self.before.clock.reading 2)
  else none

/-- The token to be sent with a mail, if there is one, is not checked during the
    fraction of a second in which it has expired and still passes. -/
def Timely (self : Made) : Prop :=
  self.call.sends = true → ∀ lease now, self.before.Offers lease now → ¬ lease.Overstays second now

end Made

/-- The token acquired last. -/
def last_granted (past : List Made) : Option (Lease Text) := (past.filterMap Made.granted).getLast?

/-- No expired token is used, and no other replaced. -/
structure Lawful (past : List Made) (made : Made) : Prop where
  /-- A mail is sent with the token acquired last, within `expires_in` seconds. -/
  unexpired : ∀ bearer ∈ made.bearers, ∃ lease,
    last_granted (past ++ [made]) = some lease ∧ lease.value = bearer ∧ lease.Valid second made.ended
  /-- A token is asked for when none is held or that has expired. -/
  needed : made.asks = true → ∀ lease, last_granted past = some lease → ¬ lease.Valid second made.began
  /-- A failed request for a token leaves the stored one, and no mail is sent. -/
  harmless : made.asks = true → made.before.config.outside.grants = none →
    made.after.token = made.before.token ∧ made.bearers = []

/-! ### What the client is answered -/

theorem is_expired_iff {token : AccessToken} {issued_at now : Instant} (issued : token.issued_at = some issued_at) :
    token.is_expired now = true ↔ ¬ (token.lease issued_at).Passes second now := by
  simp [AccessToken.is_expired,issued,Lease.Passes,Lease.age,AccessToken.lease,as_secs,elapsed]

/-- A token that is granted is stamped with the next reading of the clock. -/
theorem get_client_credentials_granted {config : Config} {token : AccessToken}
    (grants : config.outside.grants = some token) :
    ∃ outside, AccessToken.get_client_credentials config =
        (.ok { token with issued_at := some (config.outside.clock.reading 1) },outside) ∧
      outside.clock = config.outside.clock.now.2 := by
  rw [← now_reading]
  unfold Outside.grants at grants
  unfold AccessToken.get_client_credentials
  split at grants
  · next answer tokens answers =>
    obtain ⟨bearer,rfl⟩ := Option.ite_none_right_eq_some.mp grants |>.imp_right Option.some.inj
    simp only [answers,bearer]
    exact ⟨_,rfl,rfl⟩
  · cases grants

theorem get_client_credentials_refused {config : Config} (refuses : config.outside.grants = none) :
    ∃ err outside, AccessToken.get_client_credentials config = (.error err,outside) := by
  unfold Outside.grants at refuses
  unfold AccessToken.get_client_credentials
  cases answers : config.outside.tokens with
  | nil => exact ⟨_,_,rfl⟩
  | cons answer tokens =>
    cases answer with
    | error err => exact ⟨_,_,rfl⟩
    | ok token =>
      have other : token.token_type ≠ "Bearer".toList := by
        intro bearer
        simp [answers,bearer] at refuses
      exact ⟨_,_,Prod.ext (if_pos other) rfl⟩

namespace Client
variable {client : Client} {lease : Lease Text} {now : Instant}

/-- The stored token was issued by a login of this client, so it is known when. -/
def Stamped (self : Client) : Prop := ∀ token, self.token = some token → ∃ issued_at, token.issued_at = some issued_at

/-- The client once the clock has been read. -/
def checked (self : Client) : Client := self.with_outside { self.config.outside with clock := self.clock.now.2 }

theorem lease_stored (stored : client.lease = some lease) :
    ∃ token issued_at, client.token = some token ∧ token.issued_at = some issued_at ∧ token.lease issued_at = lease := by
  obtain ⟨token,held,leased⟩ := Option.bind_eq_some_iff.mp stored
  obtain ⟨issued_at,issued,same⟩ := Option.map_eq_some_iff.mp leased
  exact ⟨token,issued_at,held,issued,same⟩

theorem get_authentication_none (bare : client.token = none) :
    client.get_authentication = (.error "not authenticated or expired".toList,client.checked) := by
  simp only [get_authentication,checked,clock,with_outside,bare]

theorem get_authentication_some {token : AccessToken} (held : client.token = some token) :
    client.get_authentication = (if token.is_expired (client.clock.reading 1) then
      .error "not authenticated or expired".toList else .ok token,client.checked) := by
  rw [← now_reading]
  simp only [get_authentication,checked,clock,with_outside,held]
  rfl

/-- The check hands out a token that passes. -/
theorem get_authentication_passes (stored : client.lease = some lease)
    (passes : lease.Passes second (client.clock.reading 1)) :
    ∃ token, client.get_authentication = (.ok token,client.checked) ∧ token.access_token = lease.value := by
  obtain ⟨token,issued_at,held,issued,rfl⟩ := lease_stored stored
  have live : ¬ token.is_expired (client.clock.reading 1) := by
    rw [is_expired_iff issued]
    exact not_not.mpr passes
  refine ⟨token,?_,rfl⟩
  rw [get_authentication_some held,if_neg live]

theorem get_authentication_lapsed (stamped : client.Stamped) (lapsed : client.Lapsed) :
    ∃ err, client.get_authentication = (.error err,client.checked) := by
  cases held : client.token with
  | none => exact ⟨_,get_authentication_none held⟩
  | some token =>
    obtain ⟨issued_at,issued⟩ := stamped token held
    have expired : token.is_expired (client.clock.reading 1) = true := by
      rw [is_expired_iff issued]
      exact lapsed _ (by simp [lease,held,issued])
    refine ⟨"not authenticated or expired".toList,?_⟩
    rw [get_authentication_some held,if_pos expired]

/-! ### What a call does -/

theorem authenticate_held (stored : client.lease = some lease) (passes : lease.Passes second (client.clock.reading 1)) :
    client.authenticate = ⟨.ok false,client.checked,[]⟩ := by
  obtain ⟨token,found,-⟩ := get_authentication_passes stored passes
  rw [authenticate,found]

/-- A token that is granted is stored, as issued at the reading after the check. -/
theorem authenticate_granted {token : AccessToken} (stamped : client.Stamped) (lapsed : client.Lapsed)
    (grants : client.config.outside.grants = some token) :
    ∃ after, client.authenticate = ⟨.ok true,after,[token_request client.checked.config]⟩ ∧
      after.token = some { token with issued_at := some (client.clock.reading 2) } ∧
      after.clock = client.clock.now.2.now.2 := by
  obtain ⟨err,lapses⟩ := get_authentication_lapsed stamped lapsed
  have granted : client.checked.config.outside.grants = some token := grants
  obtain ⟨outside,answered,clock⟩ := get_client_credentials_granted granted
  rw [authenticate,lapses]
  simp only [answered]
  exact ⟨_,rfl,rfl,clock⟩

/-- After a failure the stored token is what it was. -/
theorem authenticate_refused (stamped : client.Stamped) (lapsed : client.Lapsed)
    (refuses : client.config.outside.grants = none) :
    ∃ err after, client.authenticate = ⟨.error err,after,[token_request client.checked.config]⟩ ∧
      after.token = client.token := by
  obtain ⟨err,lapses⟩ := get_authentication_lapsed stamped lapsed
  have refused : client.checked.config.outside.grants = none := refuses
  obtain ⟨err,outside,answered⟩ := get_client_credentials_refused refused
  rw [authenticate,lapses]
  simp only [answered]
  exact ⟨_,_,rfl,rfl⟩

theorem post_mail_keeps (self : Client) : self.post_mail.2.token = self.token ∧ self.post_mail.2.clock = self.clock := by
  unfold post_mail
  split <;> exact ⟨rfl,rfl⟩

theorem lease_congr {self other : Client} (same : self.token = other.token) : self.lease = other.lease := by
  rw [lease,same,lease]

theorem Stamped.congr {self other : Client} (stamped : other.Stamped) (same : self.token = other.token) : self.Stamped := by
  rw [Stamped,same]
  exact stamped

/-- What is done so that a client can offer a token: nothing if the stored one passes, or a
    request that is granted. -/
structure Renews (before : Client) (lease : Lease Text) (now : Instant) (requests : List Request) (after : Client) :
    Prop where
  stored : after.lease = some lease
  stamped : after.Stamped
  checks : after.clock.reading 1 = now
  unsent : requests.filterMap Request.bearer = []
  origin : (requests.any Request.is_form = false ∧ before.lease = some lease) ∨
    requests.any Request.is_form = true ∧ before.Lapsed ∧
      ∃ token, before.config.outside.grants = some token ∧ token.lease (before.clock.reading 2) = lease

theorem authenticate_offers (stamped : client.Stamped) (offers : client.Offers lease now) :
    ∃ renewed after requests, client.authenticate = ⟨.ok renewed,after,requests⟩ ∧
      client.Renews lease now requests after := by
  cases offers with
  | held lease stored passes =>
    refine ⟨false,client.checked,[],authenticate_held stored passes,?_⟩
    exact ⟨stored,stamped,rfl,rfl,.inl ⟨rfl,stored⟩⟩
  | granted token lapsed grants =>
    obtain ⟨after,ran,holds,clock⟩ := authenticate_granted stamped lapsed grants
    refine ⟨true,after,_,ran,?_⟩
    refine ⟨?_,?_,by rw [clock]; rfl,rfl,.inr ⟨rfl,lapsed,token,grants,rfl⟩⟩
    · rw [lease,holds]
      rfl
    · intro stored found
      obtain rfl : _ = stored := Option.some.inj (holds.symm.trans found)
      exact ⟨_,rfl⟩

/-- A client that offers no token asks for one in vain. -/
theorem offers_or_refused (self : Client) :
    (∃ lease now, self.Offers lease now) ∨ self.Lapsed ∧ self.config.outside.grants = none := by
  by_cases lapsed : self.Lapsed
  · cases grants : self.config.outside.grants with
    | none => exact .inr ⟨lapsed,rfl⟩
    | some token => exact .inl ⟨_,_,.granted token lapsed grants⟩
  · obtain ⟨lease,stored,passes⟩ : ∃ lease, self.lease = some lease ∧ lease.Passes second (self.clock.reading 1) := by
      simpa [Lapsed] using lapsed
    exact .inl ⟨_,_,.held lease stored passes⟩

variable [Base64]

/-- A mail is sent with the token that is offered, if it passes. -/
theorem send_mail_offers (sender : Text) (data : Bytes) (stamped : client.Stamped) (offers : client.Offers lease now) :
    ∃ between requests sent, client.Renews lease now requests between ∧
      (client.send_mail sender data).requests = requests ++ sent ∧
      (client.send_mail sender data).client.token = between.token ∧
      (¬ lease.Passes second now ∧ sent = [] ∨
        lease.Passes second now ∧ (∃ url body, sent = [.Mail url lease.value body]) ∧
          (client.send_mail sender data).client.clock.last = now) := by
  obtain ⟨renewed,between,requests,ran,renews⟩ := authenticate_offers stamped offers
  have stored := renews.stored
  have checks := renews.checks
  rw [send_mail,ran]
  by_cases passes : lease.Passes second now
  · obtain ⟨token,found,value⟩ := get_authentication_passes stored (by rwa [checks])
    obtain ⟨kept,clock⟩ := post_mail_keeps between.checked
    simp only [found]
    refine ⟨between,requests,_,renews,rfl,kept,.inr ⟨passes,⟨_,_,by rw [value]⟩,?_⟩⟩
    rw [clock]
    exact checks
  · have lapsed : between.Lapsed := by
      intro other found
      obtain rfl : lease = other := Option.some.inj (stored.symm.trans found)
      rwa [checks]
    obtain ⟨err,found⟩ := get_authentication_lapsed renews.stamped lapsed
    simp only [found]
    exact ⟨between,requests,[],renews,(List.append_nil requests).symm,rfl,.inl ⟨passes,rfl⟩⟩

theorem send_mail_refused (sender : Text) (data : Bytes) (stamped : client.Stamped) (lapsed : client.Lapsed)
    (refuses : client.config.outside.grants = none) :
    (client.send_mail sender data).requests = [token_request client.checked.config] ∧
      (client.send_mail sender data).client.token = client.token := by
  obtain ⟨err,after,ran,kept⟩ := authenticate_refused stamped lapsed refuses
  rw [send_mail,ran]
  exact ⟨rfl,kept⟩

end Client

section
variable {client : Client} {lease : Lease Text} {now : Instant} {past : List Made}

/-- The client holds the token acquired last. -/
structure Holds (past : List Made) (client : Client) : Prop where
  last : client.lease = last_granted past
  stamped : client.Stamped

/-- What a call does that finds a token to offer. -/
structure Offered (lease : Lease Text) (now : Instant) (made : Made) : Prop where
  stored : made.after.lease = some lease
  stamped : made.after.Stamped
  acquired : made.granted.or made.before.lease = some lease
  asked : made.asks = true → made.before.Lapsed
  sent : ∀ bearer ∈ made.bearers, bearer = lease.value ∧ made.call.sends = true ∧ lease.Passes second now ∧
    made.ended = now
  sends : made.call.sends = true → lease.Passes second now → lease.value ∈ made.bearers

/-- After the token is offered, a mail follows or nothing. -/
theorem offered_of_renews {made : Made} {between : Client} {requests sent : List Request}
    (renews : made.before.Renews lease now requests between) (asked : made.requests = requests ++ sent)
    (kept : made.after.token = between.token)
    (answer : (made.call.sends = true → ¬ lease.Passes second now) ∧ sent = [] ∨
      (made.call.sends = true ∧ lease.Passes second now) ∧ (∃ url body, sent = [.Mail url lease.value body]) ∧
        made.ended = now) :
    Offered lease now made := by
  have unasked : sent.any Request.is_form = false := by
    rcases answer with ⟨-,rfl⟩ | ⟨-,⟨url,body,rfl⟩,-⟩ <;> rfl
  have asks : made.asks = requests.any Request.is_form := by
    rw [Made.asks,asked,List.any_append,unasked,Bool.or_false]
  have bearers : made.bearers = sent.filterMap Request.bearer := by
    rw [Made.bearers,asked,List.filterMap_append,renews.unsent,List.nil_append]
  refine ⟨(Client.lease_congr kept).trans renews.stored,renews.stamped.congr kept,?_,?_,?_,?_⟩
  · rcases renews.origin with ⟨idle,stored⟩ | ⟨form,-,token,grants,same⟩
    · simp [Made.granted,asks,idle,stored]
    · simp [Made.granted,asks,form,grants,same]
  · intro form
    rcases renews.origin with ⟨idle,-⟩ | ⟨-,lapsed,-⟩
    · simp [asks,idle] at form
    · exact lapsed
  · intro bearer member
    rw [bearers] at member
    rcases answer with ⟨-,rfl⟩ | ⟨⟨sends,passes⟩,⟨url,body,rfl⟩,ended⟩
    · cases member
    · exact ⟨by simpa [Request.bearer] using member,sends,passes,ended⟩
  · intro sends passes
    rw [bearers]
    rcases answer with ⟨stops,-⟩ | ⟨-,⟨url,body,rfl⟩,-⟩
    · exact absurd passes (stops sends)
    · simp [Request.bearer]

/-! ### Runs of calls -/

theorem last_granted_snoc (past : List Made) (made : Made) :
    last_granted (past ++ [made]) = made.granted.or (last_granted past) := by
  cases granted : made.granted with
  | none => simp [last_granted,granted]
  | some lease => simp [last_granted,granted]

theorem Holds.start (config : Config) : Holds [] (.new config) where
  last := rfl
  stamped := by simp [Client.Stamped,Client.new]

/-- A token that the client no longer lets pass has expired. -/
theorem Holds.expired (holds : Holds past client) (lapsed : client.Lapsed) (latest : last_granted past = some lease) :
    ¬ lease.Valid second (client.clock.reading 1) :=
  fun valid => lapsed lease (holds.last.trans latest) valid.passes

variable [Base64]

@[simp] theorem made_before (call : Call) (client : Client) : (call.made client).before = client := by
  cases call <;> rfl

theorem made_offers (call : Call) (stamped : client.Stamped) (offers : client.Offers lease now) :
    Offered lease now (call.made client) := by
  cases call with
  | Authenticate =>
    obtain ⟨renewed,after,requests,ran,renews⟩ := Client.authenticate_offers stamped offers
    simp only [Call.made,ran]
    exact offered_of_renews renews (List.append_nil requests).symm rfl (.inl ⟨by simp [Call.sends],rfl⟩)
  | SendMail sender data =>
    obtain ⟨between,requests,sent,renews,asked,kept,answer⟩ := Client.send_mail_offers sender data stamped offers
    refine offered_of_renews renews asked kept ?_
    rcases answer with ⟨stops,rfl⟩ | ⟨passes,mail,ended⟩
    · exact .inl ⟨fun _ => stops,rfl⟩
    · exact .inr ⟨⟨rfl,passes⟩,mail,ended⟩

/-- A request that fails changes nothing, and no mail follows. -/
theorem made_refused (call : Call) (stamped : client.Stamped) (lapsed : client.Lapsed)
    (refuses : client.config.outside.grants = none) :
    (call.made client).after.token = client.token ∧ (call.made client).bearers = [] := by
  cases call with
  | Authenticate =>
    obtain ⟨err,after,ran,kept⟩ := Client.authenticate_refused stamped lapsed refuses
    simp only [Call.made,ran]
    exact ⟨kept,rfl⟩
  | SendMail sender data =>
    obtain ⟨requests,kept⟩ := Client.send_mail_refused sender data stamped lapsed refuses
    simp only [Call.made,Made.bearers,requests]
    exact ⟨kept,rfl⟩

theorem Holds.made (holds : Holds past client) (call : Call) : Holds (past ++ [call.made client]) (call.made client).after := by
  rcases client.offers_or_refused with ⟨lease,now,offers⟩ | ⟨lapsed,refuses⟩
  · have offered := made_offers call holds.stamped offers
    have acquired := offered.acquired
    refine ⟨?_,offered.stamped⟩
    rw [offered.stored,last_granted_snoc,← holds.last]
    simpa using acquired.symm
  · obtain ⟨kept,-⟩ := made_refused call holds.stamped lapsed refuses
    have none : (call.made client).granted = none := by simp [Made.granted,refuses]
    refine ⟨?_,holds.stamped.congr kept⟩
    rw [Client.lease_congr kept,last_granted_snoc,none,holds.last]
    rfl

/-- A mail is sent with the token acquired last, which passed the check just before. -/
theorem sent_with_last (holds : Holds past client) (call : Call) {bearer : Text}
    (mailed : bearer ∈ (call.made client).bearers) :
    ∃ lease, last_granted (past ++ [call.made client]) = some lease ∧ lease.value = bearer ∧
      lease.Passes second (call.made client).ended ∧ (call.made client).call.sends = true ∧
      client.Offers lease (call.made client).ended := by
  rcases client.offers_or_refused with ⟨lease,now,offers⟩ | ⟨lapsed,refuses⟩
  · have offered := made_offers call holds.stamped offers
    obtain ⟨rfl,sends,passes,rfl⟩ := offered.sent bearer mailed
    exact ⟨lease,(holds.made call).last.symm.trans offered.stored,rfl,passes,sends,offers⟩
  · obtain ⟨-,unsent⟩ := made_refused call holds.stamped lapsed refuses
    rw [unsent] at mailed
    cases mailed

theorem asked_when_lapsed (holds : Holds past client) (call : Call) (asks : (call.made client).asks = true) :
    client.Lapsed := by
  rcases client.offers_or_refused with ⟨lease,now,offers⟩ | ⟨lapsed,-⟩
  · simpa using (made_offers call holds.stamped offers).asked asks
  · exact lapsed

/-- A call does what it should exactly if the token it checks before a mail does not overstay. -/
theorem lawful_iff (holds : Holds past client) (call : Call) :
    Lawful past (call.made client) ↔ (call.made client).Timely := by
  constructor
  · intro lawful sends lease now offers overstays
    rw [made_before] at offers
    have offered := made_offers call holds.stamped offers
    have mailed := offered.sends sends overstays.passes
    obtain ⟨-,-,-,ended⟩ := offered.sent _ mailed
    obtain ⟨acquired,latest,-,valid⟩ := lawful.unexpired _ mailed
    obtain rfl : lease = acquired :=
      Option.some.inj (offered.stored.symm.trans ((holds.made call).last.trans latest))
    rw [ended] at valid
    exact (passed_valid (by decide) overstays.passes).mp valid overstays
  · intro timely
    refine ⟨?_,?_,?_⟩
    · intro bearer mailed
      obtain ⟨lease,latest,value,passes,sends,offers⟩ := sent_with_last holds call mailed
      have stays : ¬ lease.Overstays second (call.made client).ended := timely sends lease _ (by simpa using offers)
      exact ⟨lease,latest,value,(passed_valid (by decide) passes).mpr stays⟩
    · intro asks lease latest
      rw [Made.began,made_before]
      exact holds.expired (asked_when_lapsed holds call asks) latest
    · intro asks refuses
      rw [made_before] at refuses ⊢
      exact made_refused call holds.stamped (asked_when_lapsed holds call asks) refuses

theorem history_after {P : List Made → Made → Prop} {Q : Made → Prop}
    (each : ∀ past client (call : Call), Holds past client → (P past (call.made client) ↔ Q (call.made client)))
    (holds : Holds past client) (calls : List Call) :
    Always (fun more => P (past ++ more)) (history client calls) ↔ ∀ made ∈ history client calls, Q made := by
  induction calls generalizing past client with
  | nil => exact iff_of_true always_nil (by simp [history])
  | cons call calls ih =>
    have later := ih (holds.made call)
    rw [history,always_cons,List.forall_mem_cons,List.append_nil,each past client call holds,← later]
    simp only [List.append_assoc,List.singleton_append]

/-- What is so for a call of a client that holds the token acquired last is so for every
    call of a run. -/
theorem history_iff {P : List Made → Made → Prop} {Q : Made → Prop}
    (each : ∀ past client (call : Call), Holds past client → (P past (call.made client) ↔ Q (call.made client)))
    (config : Config) (calls : List Call) :
    Always P (history (.new config) calls) ↔ ∀ made ∈ history (.new config) calls, Q made := by
  simpa only [List.nil_append] using history_after each (.start config) calls

/-- A mail is sent with the token acquired last, before it is `expires_in` seconds and
    another one old. -/
theorem mails_sent_within (config : Config) (calls : List Call) :
    Always (fun past made => ∀ bearer ∈ made.bearers, ∃ lease, last_granted (past ++ [made]) = some lease ∧
      lease.value = bearer ∧ lease.age made.ended < (lease.span + 1) * second) (history (.new config) calls) := by
  refine (history_iff (Q := fun _ => True) ?_ config calls).mpr fun _ _ => trivial
  intro past client call holds
  refine iff_of_true ?_ trivial
  intro bearer mailed
  obtain ⟨lease,latest,value,passes,-⟩ := sent_with_last holds call mailed
  exact ⟨lease,latest,value,(passes_iff (by decide)).mp passes⟩

/-- In every run of calls no expired token is used, none is asked for while a valid one
    is held, and a failed request leaves the token and sends nothing, exactly if no call
    checks a token before its mail during the fraction of a second in which it has
    expired and still passes. -/
theorem no_expired_token_iff (config : Config) (calls : List Call) :
    Always Lawful (history (.new config) calls) ↔ ∀ made ∈ history (.new config) calls, made.Timely :=
  history_iff (fun _ _ call holds => lawful_iff holds call) config calls

end

section
attribute [local instance] Sample.base64

/-- A token for an hour, and a mail half a second after that. -/
def sampleLate : Config := .new [] [] [] { Sample.outside with clock := ⟨0,[0,0,3600500000000,0]⟩ }

theorem expired_token_used :
    ¬ Always Lawful (history (.new sampleLate) [.Authenticate,.SendMail "a".toList (ascii "hi\r\n")]) := by
  intro all
  rw [history,always_cons] at all
  have lawful := (always_cons.mp all.2).1
  obtain ⟨lease,latest,-,valid⟩ := lawful.unexpired "token".toList (by decide +kernel)
  have acquired : some lease = some ⟨"token".toList,3600,0⟩ := latest.symm.trans (by decide +kernel)
  obtain rfl := Option.some.inj acquired
  exact absurd valid (by decide +kernel)

end
end Graph
end PostGraph
