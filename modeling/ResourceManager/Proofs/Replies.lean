import ResourceManager.Proofs.Exchange

/-!
# What the log says of an exchange

The program makes a reply of every response that reports success and an error of everything else.
This file says in terms of the log what that reply and that error have to be, so that a statement
about a call can be made about what came over the network and not about what the program took it to
be.

* `Exchange.Receives` is the response that an exchange has come to, `Exchange.BreaksOff` says that
  it is not complete and `Exchange.Loses` that there is none, each in terms of the answer in the
  log. `Exchange.receives_iff`, `Exchange.breaksOff_iff` and `Exchange.loses_iff` are the
  specification of `Exchange.delivery?`.
* `Exchange.Brings` says which reply a call to the service has brought and `Exchange.Fails` with
  which error it has failed.  They speak of the status, the header fields and the body of the logged
  response only; `Exchange.brings_iff` and `Exchange.fails_iff` are the specification of
  `Client.replyOf`, and so of `Reply.ofResponse`.
* `Exchange.Issues` and `Exchange.Denies` say the same of a request for a token, and specify
  `TokenSource.ofDelivery`.

Behind that stands how a run and its log go together: `Session.since` is what has been logged since
a session, `Session.Called` what of it was asked of the service.  `Client.exchange_tells` says of
the one way to the service that its result is what its log tells.

## What this is for

Had the program thrown away the bodies of all responses, most statements that begin with a reply
would hold of it all the same.  The statements of this library therefore begin with the log, and the
equivalences here are what lets their proofs go through the program nevertheless.  They are the only
place where the reading of responses is opened.
-/

set_option autoImplicit false

namespace ResourceManager

/-! ## Responses in the log

What has come of an exchange is said here of the answer in the log and of the request that was made
last.  `Exchange.delivery?` is what the program takes it to be. -/

namespace Request

/-- A response that sends a request on is no response to it, also where it may not be followed. -/
theorem reaction_of_redirect {r next : Request} {left : Nat} {answer : Answer} {response : Response}
    (h : r.redirect? answer = some (response, next)) :
    r.reaction left answer =
      match next.barrier? left with
      | some cause => .ends (.failed cause)
      | none => .goesOn response next := by
  cases hbarrier : next.barrier? left <;> simp only [reaction, h, hbarrier]

/-- Any other answer ends the exchange. -/
theorem reaction_of_last {r : Request} {left : Nat} {answer : Answer}
    (h : r.redirect? answer = none) : r.reaction left answer = .ends (.ofAnswer r answer) := by
  simp only [reaction, h]

end Request

namespace Exchange

/-- A response has come to the last request, and does not send it on.  What of its body there may be
at this method has come with it, even where the response breaks off. -/
inductive Receives (x : Exchange) : Response → Prop
  | whole {time : Timestamp} {a : Response} (hfate : x.fate = .answered time (.response a))
      (hlast : x.lastRequest.redirected? a = none) : Receives x (a.received x.lastRequest.method)
  | bare {time : Timestamp} {a : Response} (hfate : x.fate = .answered time (.truncated a))
      (hlast : x.lastRequest.redirected? a = none)
      (hbody : a.hasBody x.lastRequest.method = false) :
      Receives x (a.received x.lastRequest.method)

/-- Such a response has come, but its body breaks off. -/
inductive BreaksOff (x : Exchange) : Prop
  | truncated {time : Timestamp} {a : Response} (hfate : x.fate = .answered time (.truncated a))
      (hlast : x.lastRequest.redirected? a = none) (hbody : a.hasBody x.lastRequest.method = true)

/-- No response has come, for this cause: the request could not be sent, the connection was closed,
or the last response sends it on to where it may not be followed. -/
inductive Loses (x : Exchange) : TransportError → Prop
  | unsent {cause : TransportError} (hfate : x.fate = .unsent cause) : Loses x cause
  | dropped {time : Timestamp} (hfate : x.fate = .answered time .dropped) : Loses x .noResponse
  | barred {time : Timestamp} {a : Response} {next : Request} {cause : TransportError}
      (hfate : x.fate = .answered time (.response a) ∨ x.fate = .answered time (.truncated a))
      (hnext : x.lastRequest.redirected? a = some next)
      (hbarrier : next.barrier? (Request.redirectLimit - x.redirects.length) = some cause) :
      Loses x cause

variable {x : Exchange}

/-- This has come of an exchange: one of the three. -/
inductive Comes (x : Exchange) : Delivery → Prop
  | response {r : Response} (h : x.Receives r) : Comes x (.response r)
  | incomplete (h : x.BreaksOff) : Comes x .incomplete
  | failed {cause : TransportError} (h : x.Loses cause) : Comes x (.failed cause)

/-- Where the answer ends the exchange, it is what has come of it. -/
theorem delivery?_answered_of_last {time : Timestamp} {answer : Answer}
    (hfate : x.fate = .answered time answer) (hlast : x.lastRequest.redirect? answer = none) :
    x.delivery? = some (.ofAnswer x.lastRequest answer) := by
  rw [delivery?, hfate]
  simp only [Request.reaction_of_last hlast]

/-- A response that sends the request on to where it may not go is told by what is in the way. -/
theorem delivery?_of_barrier {time : Timestamp} {answer : Answer} {response : Response}
    {next : Request} {cause : TransportError} (hfate : x.fate = .answered time answer)
    (hnext : x.lastRequest.redirect? answer = some (response, next))
    (hbarrier : next.barrier? (Request.redirectLimit - x.redirects.length) = some cause) :
    x.delivery? = some (.failed cause) := by
  rw [delivery?, hfate]
  simp only [Request.reaction_of_redirect hnext, hbarrier]

/-- The program takes an exchange for what has come of it. -/
theorem delivery?_of_comes {d : Delivery} (h : x.Comes d) : x.delivery? = some d := by
  cases h with
  | response h =>
    cases h with
    | whole hfate hlast =>
      exact delivery?_answered_of_last hfate (by rw [Request.redirect?, hlast]; rfl)
    | bare hfate hlast hbody =>
      rw [delivery?_answered_of_last hfate (by rw [Request.redirect?, hlast]; rfl),
        Delivery.ofAnswer, if_neg (by rw [hbody]; exact Bool.false_ne_true)]
  | incomplete h =>
    cases h with
    | truncated hfate hlast hbody =>
      rw [delivery?_answered_of_last hfate (by rw [Request.redirect?, hlast]; rfl),
        Delivery.ofAnswer, if_pos hbody]
  | failed h =>
    cases h with
    | unsent hfate => rw [delivery?, hfate]
    | dropped hfate => exact delivery?_answered_of_last hfate rfl
    | barred hfate hnext hbarrier =>
      rcases hfate with hfate | hfate
      · exact delivery?_of_barrier hfate (by rw [Request.redirect?, hnext]; rfl) hbarrier
      · exact delivery?_of_barrier hfate (by rw [Request.redirect?, hnext]; rfl) hbarrier

/-- The response in an answer that sends a request on is that of the answer. -/
theorem redirected?_of_redirect? {r next : Request} {answer : Answer} {a : Response}
    (h : r.redirect? answer = some (a, next)) :
    (answer = .response a ∨ answer = .truncated a) ∧ r.redirected? a = some next := by
  cases answer with
  | response b =>
    obtain ⟨next', hnext, hpair⟩ := Option.map_eq_some_iff.mp h
    cases hpair
    exact ⟨.inl rfl, hnext⟩
  | truncated b =>
    obtain ⟨next', hnext, hpair⟩ := Option.map_eq_some_iff.mp h
    cases hpair
    exact ⟨.inr rfl, hnext⟩
  | dropped => cases h

/-- And something has come of it if the program takes it for that.  The cases are those of
`Exchange.delivery?`: the fate first, then whether the answer sends the request on, then what is in
the way. -/
theorem comes_of_delivery? {d : Delivery} (h : x.delivery? = some d) : x.Comes d := by
  rw [delivery?] at h
  cases hfate : x.fate with
  | unsent cause =>
    rw [hfate] at h
    cases h
    exact .failed (.unsent hfate)
  | underway =>
    rw [hfate] at h
    cases h
  | answered time answer =>
    simp only [hfate] at h
    cases hnext : x.lastRequest.redirect? answer with
    | some found =>
      obtain ⟨a, next⟩ := found
      obtain ⟨hanswer, hredirected⟩ := redirected?_of_redirect? hnext
      simp only [Request.reaction_of_redirect hnext] at h
      cases hbarrier : next.barrier? (Request.redirectLimit - x.redirects.length) with
      | none => simp [hbarrier] at h
      | some cause =>
        simp only [hbarrier] at h
        cases h
        rcases hanswer with rfl | rfl
        · exact .failed (.barred (.inl hfate) hredirected hbarrier)
        · exact .failed (.barred (.inr hfate) hredirected hbarrier)
    | none =>
      simp only [Request.reaction_of_last hnext] at h
      cases h
      cases answer with
      | dropped => exact .failed (.dropped hfate)
      | response a => exact .response (.whole hfate (Option.map_eq_none_iff.mp hnext))
      | truncated a =>
        have hlast := Option.map_eq_none_iff.mp hnext
        rw [Delivery.ofAnswer]
        cases hbody : a.hasBody x.lastRequest.method with
        | true => exact .incomplete (.truncated hfate hlast hbody)
        | false => exact .response (.bare hfate hlast hbody)

theorem receives_iff {r : Response} : x.Receives r ↔ x.delivery? = some (.response r) := by
  refine ⟨fun h ↦ delivery?_of_comes (.response h), fun h ↦ ?_⟩
  cases comes_of_delivery? h with
  | response h => exact h

theorem breaksOff_iff : x.BreaksOff ↔ x.delivery? = some .incomplete := by
  refine ⟨fun h ↦ delivery?_of_comes (.incomplete h), fun h ↦ ?_⟩
  cases comes_of_delivery? h with
  | incomplete h => exact h

theorem loses_iff {cause : TransportError} :
    x.Loses cause ↔ x.delivery? = some (.failed cause) := by
  refine ⟨fun h ↦ delivery?_of_comes (.failed h), fun h ↦ ?_⟩
  cases comes_of_delivery? h with
  | failed h => exact h

end Exchange

/-! ## Replies of the service

Of a response the program keeps the status, the header fields and the value that its body spells
out.  A body of blanks is no body; one that is not JSON is an error even where the status reports
success. -/

namespace Reply

/-- What the bytes of a body say: nothing if all of them are blank, else the value that they spell
out. -/
inductive BodySays (body : Bytes) : Option Json → Prop
  | nothing (h : ∀ b ∈ body, isBlankByte b = true) : BodySays body none
  | value {v : Json} (h : ∃ b ∈ body, isBlankByte b = false) (hv : Json.ofBytes? body = some v) :
      BodySays body (some v)

/-- They say nothing that can be read. -/
structure BodyFails (body : Bytes) : Prop where
  printed : ∃ b ∈ body, isBlankByte b = false
  unread : Json.ofBytes? body = none

/-- A body is blank, or it has a byte that is not. -/
theorem blank_or_printed (body : Bytes) :
    (∀ b ∈ body, isBlankByte b = true) ∧ body.all isBlankByte = true ∨
      (∃ b ∈ body, isBlankByte b = false) ∧ body.all isBlankByte = false := by
  cases h : body.all isBlankByte with
  | true => exact .inl ⟨List.all_eq_true.mp h, rfl⟩
  | false =>
    obtain ⟨b, hb, hprinted⟩ := List.all_eq_false.mp h
    exact .inr ⟨⟨b, hb, Bool.eq_false_iff.mpr hprinted⟩, rfl⟩

/-- What the program reads in a body is what the bytes say. -/
theorem bodyOf_eq_ok_iff {body : Bytes} {said : Option Json} :
    bodyOf body = .ok said ↔ BodySays body said := by
  rw [bodyOf]
  rcases blank_or_printed body with ⟨hblank, hall⟩ | ⟨hprinted, hall⟩
  · rw [if_pos hall]
    constructor
    · rintro ⟨⟩
      exact .nothing hblank
    · rintro (_ | ⟨⟨b, hb, hprinted⟩, -⟩)
      · rfl
      · rw [hblank b hb] at hprinted
        cases hprinted
  · rw [if_neg (by rw [hall]; exact Bool.false_ne_true)]
    cases hv : Json.ofBytes? body with
    | none =>
      refine iff_of_false nofun ?_
      rintro (hblank | ⟨-, hsome⟩)
      · obtain ⟨b, hb, hb'⟩ := hprinted
        rw [hblank b hb] at hb'
        cases hb'
      · cases hv.symm.trans hsome
    | some v =>
      constructor
      · rintro ⟨⟩
        exact .value hprinted hv
      · rintro (hblank | ⟨-, hsome⟩)
        · obtain ⟨b, hb, hb'⟩ := hprinted
          rw [hblank b hb] at hb'
          cases hb'
        · rw [Option.some_inj.mp (hv.symm.trans hsome)]

/-- It gives up where they say nothing that can be read. -/
theorem bodyOf_eq_error_iff {body : Bytes} {e : Error} :
    bodyOf body = .error e ↔ BodyFails body ∧ e = .json := by
  rw [bodyOf]
  rcases blank_or_printed body with ⟨hblank, hall⟩ | ⟨hprinted, hall⟩
  · rw [if_pos hall]
    refine iff_of_false nofun ?_
    rintro ⟨⟨⟨b, hb, hprinted⟩, -⟩, -⟩
    rw [hblank b hb] at hprinted
    cases hprinted
  · rw [if_neg (by rw [hall]; exact Bool.false_ne_true)]
    cases hv : Json.ofBytes? body with
    | none =>
      constructor
      · rintro ⟨⟩
        exact ⟨⟨hprinted, hv⟩, rfl⟩
      · rintro ⟨-, rfl⟩
        rfl
    | some v =>
      refine iff_of_false nofun ?_
      rintro ⟨⟨-, hnone⟩, -⟩
      cases hv.symm.trans hnone

end Reply

/-- The status reports success. -/
def Response.Succeeds (r : Response) : Prop := 200 ≤ r.status ∧ r.status ≤ 299

/-- The program's test for success is the range of the codes that report it. -/
theorem Response.isSuccess_iff {r : Response} : r.isSuccess = true ↔ r.Succeeds := by
  rw [isSuccess, HttpStatus.isSuccess, Bool.and_eq_true, decide_eq_true_eq, decide_eq_true_eq]
  rfl

namespace Reply

/-- The reply to a response: what is kept of it is all that there is in it. -/
theorem ofResponse_eq_ok_iff {r : Response} {reply : Reply} :
    ofResponse r = .ok reply ↔ r.Succeeds ∧ reply.status = r.status ∧ reply.headers = r.headers ∧
      BodySays r.body reply.body := by
  rw [ofResponse, ← bodyOf_eq_ok_iff, ← Response.isSuccess_iff]
  obtain ⟨status, headers, body⟩ := reply
  cases hsuccess : r.isSuccess with
  | false => exact iff_of_false nofun fun h ↦ Bool.false_ne_true h.1
  | true =>
    rw [if_pos rfl]
    cases hbody : bodyOf r.body with
    | error e =>
      refine iff_of_false nofun ?_
      rintro ⟨-, -, -, ⟨⟩⟩
    | ok said =>
      constructor
      · rintro ⟨⟩
        exact ⟨rfl, rfl, rfl, rfl⟩
      · rintro ⟨-, rfl, rfl, ⟨⟩⟩
        rfl

/-- The error that a response is.  The status counts before the body, so the body of a response
without success may be anything. -/
theorem ofResponse_eq_error_iff {r : Response} {e : Error} :
    ofResponse r = .error e ↔
      ¬ r.Succeeds ∧ e = .service (.ofResponse r.status r.body) ∨
        r.Succeeds ∧ BodyFails r.body ∧ e = .json := by
  rw [ofResponse, ← bodyOf_eq_error_iff, ← Response.isSuccess_iff]
  cases hsuccess : r.isSuccess with
  | false =>
    rw [if_neg Bool.false_ne_true]
    constructor
    · rintro ⟨⟩
      exact .inl ⟨Bool.false_ne_true, rfl⟩
    · rintro (⟨-, rfl⟩ | ⟨hsuccess, -⟩)
      · rfl
      · exact absurd hsuccess Bool.false_ne_true
  | true =>
    rw [if_pos rfl]
    cases hbody : bodyOf r.body with
    | ok said =>
      refine iff_of_false nofun ?_
      rintro (⟨hfails, -⟩ | ⟨-, ⟨⟩⟩)
      exact hfails rfl
    | error e' =>
      constructor
      · rintro ⟨⟩
        exact .inr ⟨rfl, rfl⟩
      · rintro (⟨hfails, -⟩ | ⟨-, ⟨⟩⟩)
        · exact absurd rfl hfails
        · rfl

end Reply

namespace Exchange

/-- The exchange has brought a reply: the response reports success, and the reply has its status,
its header fields and what its body says. -/
structure Brings (x : Exchange) (reply : Reply) : Prop where
  response : ∃ r, x.Receives r ∧ r.Succeeds ∧ reply.status = r.status ∧
    reply.headers = r.headers ∧ Reply.BodySays r.body reply.body

/-- The exchange has failed with an error. -/
inductive Fails (x : Exchange) : Error → Prop
  /-- There is no response. -/
  | lost {cause : TransportError} (h : x.Loses cause) : Fails x (.http cause)
  | incomplete (h : x.BreaksOff) : Fails x (.http .incompleteBody)
  /-- The response does not report success. -/
  | refused {r : Response} (h : x.Receives r) (hstatus : ¬ r.Succeeds) :
      Fails x (.service (.ofResponse r.status r.body))
  /-- It does, but its body is not JSON. -/
  | garbled {r : Response} (h : x.Receives r) (hstatus : r.Succeeds)
      (hbody : Reply.BodyFails r.body) : Fails x .json

variable {x : Exchange} {reply reply' : Reply} {e e' : Error}

/-- What the program reads from an exchange is the reply that the exchange has brought. -/
theorem brings_iff :
    x.Brings reply ↔ ∃ d, x.delivery? = some d ∧ Client.replyOf d = .ok reply := by
  constructor
  · rintro ⟨r, hd, h⟩
    exact ⟨.response r, receives_iff.mp hd, Reply.ofResponse_eq_ok_iff.mpr h⟩
  · rintro ⟨_ | _ | _, hd, h⟩
    · exact ⟨_, receives_iff.mpr hd, Reply.ofResponse_eq_ok_iff.mp h⟩
    · cases h
    · cases h

/-- It reads an error exactly where the exchange has failed with this error. -/
theorem fails_iff :
    x.Fails e ↔ ∃ d, x.delivery? = some d ∧ Client.replyOf d = .error e := by
  constructor
  · intro h
    cases h with
    | lost h => exact ⟨_, loses_iff.mp h, rfl⟩
    | incomplete h => exact ⟨_, breaksOff_iff.mp h, rfl⟩
    | refused h hstatus =>
      exact ⟨_, receives_iff.mp h, Reply.ofResponse_eq_error_iff.mpr (.inl ⟨hstatus, rfl⟩)⟩
    | garbled h hstatus hbody =>
      exact ⟨_, receives_iff.mp h,
        Reply.ofResponse_eq_error_iff.mpr (.inr ⟨hstatus, hbody, rfl⟩)⟩
  · rintro ⟨r | _ | cause, hd, h⟩
    · rcases Reply.ofResponse_eq_error_iff.mp h with ⟨hstatus, rfl⟩ | ⟨hstatus, hbody, rfl⟩
      · exact .refused (receives_iff.mpr hd) hstatus
      · exact .garbled (receives_iff.mpr hd) hstatus hbody
    · cases h
      exact .incomplete (breaksOff_iff.mpr hd)
    · cases h
      exact .lost (loses_iff.mpr hd)

/-- An exchange brings one reply. -/
theorem Brings.eq (h : x.Brings reply) (h' : x.Brings reply') : reply = reply' := by
  obtain ⟨d, hd, hread⟩ := brings_iff.mp h
  obtain ⟨d', hd', hread'⟩ := brings_iff.mp h'
  cases hd.symm.trans hd'
  exact Except.ok.inj (hread.symm.trans hread')

/-- It fails with one error. -/
theorem Fails.eq (h : x.Fails e) (h' : x.Fails e') : e = e' := by
  obtain ⟨d, hd, hread⟩ := fails_iff.mp h
  obtain ⟨d', hd', hread'⟩ := fails_iff.mp h'
  cases hd.symm.trans hd'
  exact Except.error.inj (hread.symm.trans hread')

/-- An exchange brings a reply or fails, and never does both. -/
theorem Brings.not_fails (h : x.Brings reply) : ¬ x.Fails e := by
  intro h'
  obtain ⟨d, hd, hread⟩ := brings_iff.mp h
  obtain ⟨d', hd', hread'⟩ := fails_iff.mp h'
  cases hd.symm.trans hd'
  cases hread.symm.trans hread'

/-- A reply has come, so the exchange is not on its way. -/
theorem Brings.delivery_ne_none (h : x.Brings reply) : x.delivery? ≠ none := by
  obtain ⟨r, hd, -⟩ := h.response
  rw [receives_iff.mp hd]
  exact nofun

theorem Fails.delivery_ne_none (h : x.Fails e) : x.delivery? ≠ none := by
  obtain ⟨d, hd, -⟩ := fails_iff.mp h
  rw [hd]
  exact nofun

/-! ## Tokens of the authority

A response with a token is read by other rules than one of the service: unknown fields are passed
over, and the lifetime counts from the time at which the response came.  That time is in the log
too. -/

/-- The exchange has brought a token: the response reports success and its body has the fields of a
token, whose lifetime counts from the time at which the response came. -/
structure Issues (x : Exchange) (token : AccessToken) : Prop where
  response : ∃ time answer r secret lifetime, x.fate = .answered time answer ∧
    x.Receives r ∧ r.Succeeds ∧
    (Json.Tree.ofBytes? r.body).bind TokenSource.decode? = some (secret, lifetime) ∧
    token = .issued secret time lifetime

/-- The exchange has brought no token, for this cause. -/
inductive Denies (x : Exchange) : CredentialError → Prop
  /-- There is no response. -/
  | lost {cause : TransportError} (h : x.Loses cause) : Denies x (.requestFailed cause)
  | incomplete (h : x.BreaksOff) : Denies x (.unreadable .incompleteBody)
  /-- The response does not report success. -/
  | rejected {r : Response} (h : x.Receives r) (hstatus : ¬ r.Succeeds) :
      Denies x (.rejected r.status (TokenSource.reason r.body))
  /-- It does, but its body lacks the fields of a token. -/
  | malformed {r : Response} (h : x.Receives r) (hstatus : r.Succeeds)
      (hbody : (Json.Tree.ofBytes? r.body).bind TokenSource.decode? = none) : Denies x .malformed

/-- What has brought something but was not refused was answered. -/
theorem answered_of_delivery {d : Delivery} (h : x.delivery? = some d)
    (hd : ∀ cause, d ≠ .failed cause) : ∃ time answer, x.fate = .answered time answer := by
  rw [delivery?] at h
  cases hfate : x.fate with
  | unsent cause =>
    rw [hfate] at h
    exact absurd (Option.some_inj.mp h).symm (hd cause)
  | underway =>
    rw [hfate] at h
    cases h
  | answered time answer => exact ⟨time, answer, rfl⟩

/-- What the program reads from the answer to a request for a token is the token that the exchange
has brought. -/
theorem issues_iff {token : AccessToken} :
    x.Issues token ↔ ∃ time answer d, x.fate = .answered time answer ∧ x.delivery? = some d ∧
      TokenSource.ofDelivery d time = .ok token := by
  constructor
  · rintro ⟨time, answer, r, secret, lifetime, hfate, hd, hstatus, hbody, rfl⟩
    refine ⟨time, answer, .response r, hfate, receives_iff.mp hd, ?_⟩
    rw [TokenSource.ofDelivery, TokenSource.ofResponse, if_pos (Response.isSuccess_iff.mpr hstatus),
      hbody]
  · rintro ⟨time, answer, r | _ | cause, hfate, hd, h⟩
    · rw [TokenSource.ofDelivery, TokenSource.ofResponse] at h
      split at h
      · rename_i hstatus
        split at h
        · rename_i secret lifetime hbody
          cases h
          exact ⟨time, answer, r, secret, lifetime, hfate, receives_iff.mpr hd,
            Response.isSuccess_iff.mp hstatus, hbody, rfl⟩
        · cases h
      · cases h
    · cases h
    · cases h

/-- It reads a refusal, at whatever time, exactly where the exchange has brought no token for this
cause. -/
theorem denies_iff {cause : CredentialError} (now : Timestamp) :
    x.Denies cause ↔ ∃ d, x.delivery? = some d ∧ TokenSource.ofDelivery d now = .error cause := by
  constructor
  · intro h
    cases h with
    | lost h => exact ⟨_, loses_iff.mp h, rfl⟩
    | incomplete h => exact ⟨_, breaksOff_iff.mp h, rfl⟩
    | rejected h hstatus =>
      refine ⟨_, receives_iff.mp h, ?_⟩
      rw [TokenSource.ofDelivery, TokenSource.ofResponse,
        if_neg (mt Response.isSuccess_iff.mp hstatus)]
    | malformed h hstatus hbody =>
      refine ⟨_, receives_iff.mp h, ?_⟩
      rw [TokenSource.ofDelivery, TokenSource.ofResponse,
        if_pos (Response.isSuccess_iff.mpr hstatus), hbody]
  · rintro ⟨r | _ | cause', hd, h⟩
    · rw [TokenSource.ofDelivery, TokenSource.ofResponse] at h
      split at h
      · rename_i hstatus
        split at h
        · cases h
        · rename_i hbody
          cases h
          exact .malformed (receives_iff.mpr hd) (Response.isSuccess_iff.mp hstatus) hbody
      · rename_i hstatus
        cases h
        exact .rejected (receives_iff.mpr hd) (mt Response.isSuccess_iff.mpr hstatus)
    · cases h
      exact .incomplete (breaksOff_iff.mpr hd)
    · cases h
      exact .lost (loses_iff.mpr hd)

/-- What has come of a request for a token is one or the other. -/
theorem issues_or_denies {d : Delivery} (h : x.delivery? = some d) :
    (∃ token, x.Issues token) ∨ ∃ cause, x.Denies cause := by
  cases hread : TokenSource.ofDelivery d ⟨0⟩ with
  | error cause => exact .inr ⟨cause, (denies_iff ⟨0⟩).mpr ⟨d, h, hread⟩⟩
  | ok token =>
    -- the time counts for the end of the token only
    obtain ⟨time, answer, hfate⟩ := answered_of_delivery h fun cause hd ↦ by
      rw [hd] at hread
      cases hread
    cases hread' : TokenSource.ofDelivery d time with
    | ok token' => exact .inl ⟨token', issues_iff.mpr ⟨time, answer, d, hfate, h, hread'⟩⟩
    | error cause => exact .inr ⟨cause, (denies_iff time).mpr ⟨d, h, hread'⟩⟩

/-- A request for a token brings one token. -/
theorem Issues.eq {token token' : AccessToken} (h : x.Issues token) (h' : x.Issues token') :
    token = token' := by
  obtain ⟨time, answer, d, hfate, hd, hread⟩ := issues_iff.mp h
  obtain ⟨time', answer', d', hfate', hd', hread'⟩ := issues_iff.mp h'
  cases hfate.symm.trans hfate'
  cases hd.symm.trans hd'
  exact Except.ok.inj (hread.symm.trans hread')

/-- What has brought one has not failed to. -/
theorem Issues.not_denies {token : AccessToken} {cause : CredentialError} (h : x.Issues token) :
    ¬ x.Denies cause := by
  intro h'
  obtain ⟨time, answer, d, -, hd, hread⟩ := issues_iff.mp h
  obtain ⟨d', hd', hread'⟩ := (denies_iff time).mp h'
  cases hd.symm.trans hd'
  cases hread.symm.trans hread'

/-- Where there is none, it is for one cause. -/
theorem Denies.eq {cause cause' : CredentialError} (h : x.Denies cause) (h' : x.Denies cause') :
    cause = cause' := by
  obtain ⟨d, hd, hread⟩ := (denies_iff ⟨0⟩).mp h
  obtain ⟨d', hd', hread'⟩ := (denies_iff ⟨0⟩).mp h'
  cases hd.symm.trans hd'
  exact Except.error.inj (hread.symm.trans hread')

theorem Denies.delivery_ne_none {cause : CredentialError} (h : x.Denies cause) :
    x.delivery? ≠ none := by
  obtain ⟨d, hd, -⟩ := (denies_iff ⟨0⟩).mp h
  rw [hd]
  exact nofun

end Exchange

/-! ## A run and its log

The log has exchanges of two kinds, and a call to the service leaves one of its own kind behind, and
perhaps one of the other before it.  What is said about calls is said of the log without the
requests for tokens. -/

namespace Request

/-- Whether a request is one to the service, which takes a token. -/
def isCall (r : Request) : Bool := r.token.isSome

theorem isCall_of_token_none {r : Request} (h : r.token = none) : r.isCall = false := by
  rw [isCall, h]
  rfl

/-- What a request asks of the service. -/
def asks (r : Request) : Method × Url × Option Payload := (r.method, r.url, r.payload)

end Request

namespace Session

variable {start s s₁ s₂ : Session} {xs ys : List Exchange}

/-- What has been logged since a session. -/
def since (start s : Session) : List Exchange := s.exchanges.drop start.exchanges.length

/-- What of it was asked of the service. -/
def callsSince (start s : Session) : List Exchange :=
  (start.since s).filter fun x ↦ x.request.isCall

/-- What has been logged since a session is what stands behind its log. -/
theorem since_eq {made : List Exchange} (h : s.exchanges = start.exchanges ++ made) :
    start.since s = made := by
  rw [since, h, List.drop_left]

/-- The log has grown, and these are the exchanges with the service that have come to it. -/
def Called (start : Session) (xs : List Exchange) (s : Session) : Prop :=
  ∃ made, s.exchanges = start.exchanges ++ made ∧
    made.filter (fun x ↦ x.request.isCall) = xs

/-- The calls in a log are determined by the two sessions. -/
theorem Called.eq (h : start.Called xs s) : start.callsSince s = xs := by
  obtain ⟨made, hlog, rfl⟩ := h
  rw [callsSince, since_eq hlog]

/-- Without requests there are no calls. -/
theorem Called.of_exchanges_eq (h : s₁.exchanges = s.exchanges) : s.Called [] s₁ :=
  ⟨[], by rw [h, List.append_nil], rfl⟩

/-- The calls of two runs, one after the other. -/
theorem Called.trans (h : s.Called xs s₁) (h' : s₁.Called ys s₂) : s.Called (xs ++ ys) s₂ := by
  obtain ⟨made, hlog, rfl⟩ := h
  obtain ⟨made', hlog', rfl⟩ := h'
  exact ⟨made ++ made', by rw [hlog', hlog, List.append_assoc], List.filter_append _ _⟩

/-- What does not touch the log may come before or behind. -/
theorem Called.of_eq_left (h : s₁.Called xs s₂) (hlog : s₁.exchanges = s.exchanges) :
    s.Called xs s₂ :=
  (Called.of_exchanges_eq hlog).trans h

theorem Called.of_eq_right (h : s.Called xs s₁) (hlog : s₂.exchanges = s₁.exchanges) :
    s.Called xs s₂ := by
  have hcalled := h.trans (Called.of_exchanges_eq hlog)
  rwa [List.append_nil] at hcalled

theorem called_made {x : Exchange} (h : x.request.isCall = true) (s : Session) (t : Timestamp) :
    s.Called [x] (s.made x t) :=
  ⟨[x], rfl, List.filter_cons_of_pos h⟩

/-- Requests for tokens are no calls. -/
theorem steady_called (start : Session) (xs : List Exchange) :
    Steady (fun r ↦ r.isCall = false) (start.Called xs) where
  made s x t hx _ _ _ hs := by
    have hother : s.Called [] (s.made x t) :=
      ⟨[x], rfl, List.filter_cons_of_neg (by rw [hx]; exact Bool.false_ne_true)⟩
    have hcalled := hs.trans hother
    rwa [List.append_nil] at hcalled
  advancedTo _ _ hs := hs.of_eq_right rfl
  tokenKept _ _ hs := hs.of_eq_right rfl

end Session

namespace Watch

/-- What a wait may be ended by that is neither a failure of an exchange nor an answer: it is called
off, or nothing would ever call it off. -/
inductive Halts (w : Watch) : Stop → Prop
  | calledOff {m : Moment} {e : Error} (h : w.interruption? m = some e) : Halts w (.error e)
  | forever (h : w.times = []) : Halts w .stuck

/-- Without a watch, a run can only wait for ever. -/
theorem Halts.eq_stuck {stop : Stop} (h : none.Halts stop) : stop = .stuck := by
  cases h with
  | calledOff h => cases h
  | forever => rfl

end Watch

/-- All that the log can tell of one request to the service, together with what has come of it. -/
inductive Told (w : Watch) (asks : Method × Url × Option Payload) :
    List Exchange → Except Stop Reply → Prop
  /-- There was no token, so the request was not made. -/
  | unasked {stop : Stop} (h : (∃ cause, stop = .error (.credential cause)) ∨ w.Halts stop) :
      Told w asks [] (.error stop)
  /-- The wait ended while the request was on its way. -/
  | unanswered {x : Exchange} {stop : Stop} (hasks : x.request.asks = asks)
      (hx : x.delivery? = none) (h : w.Halts stop) : Told w asks [x] (.error stop)
  | failed {x : Exchange} {e : Error} (hasks : x.request.asks = asks) (hx : x.Fails e) :
      Told w asks [x] (.error (.error e))
  | replied {x : Exchange} {reply : Reply} (hasks : x.request.asks = asks) (hx : x.Brings reply) :
      Told w asks [x] (.ok reply)

section

variable {w : Watch} {s s₁ : Session}

/-- The token step stands in the log of calls with nothing, whatever comes of it. -/
theorem TokenSource.token_tells (source : TokenSource) (scope : String) (w : Watch)
    (start : Session) (xs : List Exchange) :
    (source.token scope w).Meets (start.Called xs) (fun _ ↦ start.Called xs) fun stop s ↦
      start.Called xs s ∧ ((∃ cause, stop = .error (.credential cause)) ∨ w.Halts stop) := by
  have hsteady := Session.steady_called start xs
  refine token_meets (D := fun _ ↦ start.Called xs) (fun _ hs ↦ hs) (fun _ _ _ hs ↦ hs)
    (fun r hr ↦ ?_) (fun _ _ cause hs _ ↦ ⟨hs, .inl ⟨cause, rfl⟩⟩)
    fun _ s _ hs _ ↦ hsteady.tokenKept s _ hs
  have hkeeps := hsteady.send (w := w) (Request.isCall_of_token_none hr)
  refine ⟨hkeeps.ok, fun {s s₁ stop} hs ho ↦ ⟨hkeeps.error hs ho, .inr ?_⟩⟩
  obtain ⟨x, t, -, hsend⟩ := r.sending w s
  rw [ho] at hsend
  cases hsend with
  | calledOff _ _ _ he => exact .calledOff he
  | unanswered _ _ _ _ htimes => exact .forever htimes

/-- An answer in the log came just now. -/
theorem Request.Sending.now_eq {r : Request} {result : Except Stop Delivery} {x : Exchange}
    {t time : Timestamp} {answer : Answer} (h : r.Sending w s result x t)
    (hfate : x.fate = .answered time answer) : t = time := by
  cases h with
  | unsent => cases hfate
  | answered =>
    cases hfate
    rfl
  | calledOff _ hway => cases hway.fate_eq.symm.trans hfate
  | unanswered _ hway => cases hway.fate_eq.symm.trans hfate

/-- **What comes of a request to the service is what the log tells of it**, and an answer that it
tells of has just come. -/
theorem Client.exchange_tells (c : Client) (w : Watch) (m : Method) (url : Url)
    (body : Option Json) (s : Session) :
    ∃ xs, s.Called xs ((c.exchange w m url body).outcome s).2 ∧
      Told w (m, url, body.map .json) xs ((c.exchange w m url body).outcome s).1 ∧
      ∀ x ∈ xs, (∃ token, x.request = c.request token m url body) ∧
        ∀ time answer, x.fate = .answered time answer →
          ((c.exchange w m url body).outcome s).2.now = time := by
  have htells := TokenSource.token_tells c.tokens c.scope w s []
  have hstart : s.Called [] s := .of_exchanges_eq rfl
  rcases ho : (c.tokens.token c.scope w).outcome s with ⟨stop | token, s₁⟩
  · obtain ⟨hcalled, hstop⟩ := htells.error hstart ho
    rw [exchange, Run.outcome_bind_error ho]
    exact ⟨[], hcalled, .unasked hstop, fun _ hx ↦ absurd hx List.not_mem_nil⟩
  · rw [exchange, Run.outcome_bind_ok ho]
    obtain ⟨x, t, hsession, hsend⟩ := (c.request token m url body).sending w s₁
    have hrequest : x.request = c.request token m url body := hsend.request_eq
    have hcall : x.request.isCall = true := by
      rw [hrequest]
      rfl
    have hcalled : s.Called [x] (s₁.made x t) :=
      (htells.ok hstart ho).trans (Session.called_made hcall s₁ t)
    have hasks : x.request.asks = (m, url, body.map .json) := by
      rw [hrequest]
      rfl
    -- one exchange has been added, and what is read in it is a function of what it was delivered
    refine ⟨[x], ?_, ?_, fun y hy ↦ ?_⟩
    · rw [Run.session_bind_ofExcept, hsession]
      exact hcalled
    · have hdelivery := hsend.delivery_eq
      rcases hd : ((c.request token m url body).send w).outcome s₁ with ⟨stop | d, s₂⟩
      · rw [Run.outcome_bind_error hd]
        rw [hd] at hsend hdelivery
        refine .unanswered hasks hdelivery ?_
        cases hsend with
        | calledOff _ _ _ he => exact .calledOff he
        | unanswered _ _ _ _ htimes => exact .forever htimes
      · rw [Run.outcome_bind_ok hd]
        rw [hd] at hdelivery
        cases hreply : replyOf d with
        | error e => exact .failed hasks (Exchange.fails_iff.mpr ⟨d, hdelivery, hreply⟩)
        | ok reply => exact .replied hasks (Exchange.brings_iff.mpr ⟨d, hdelivery, hreply⟩)
    · obtain rfl := List.mem_singleton.mp hy
      refine ⟨⟨token, hrequest⟩, fun time answer hfate ↦ ?_⟩
      rw [Run.session_bind_ofExcept, hsession, Session.now_made]
      exact hsend.now_eq hfate

end

end ResourceManager
