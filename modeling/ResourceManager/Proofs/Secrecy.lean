import ResourceManager.Proofs.Authentication
import ResourceManager.Proofs.FormFields

/-!
# The secret of an application

The secret goes into the bodies of requests for tokens and nowhere else.  What can be told of a
session without it is `Session.redacted`, in which the text of such a body is read back as form
fields and the value of the secret is left out.

The proof goes by erasure.  Without its secret a client is still a client, and `Run.Redacts` says
that a run of the one, redacted, is the run of the other.  Its rules are those of the steps of a
run; `Factory.redacts_perform` carries it through every call.  Two clients that differ in nothing
but the secret are the same one without it, so what can be told of their runs is the same:
`Factory.secret_hidden`.

## What erasure saves

The statement compares two runs, and one might follow them side by side.  But the only difference
that two secrets make is in the bodies of requests, and there it is to be ignored; so both runs are
compared with a third one instead, that of the client without a secret, and each comparison is a
simulation by a function.  Nothing has to be said about how two runs may differ in the meantime.

The one step where something could go wrong is a request that a response sends on.  The secret goes
along with the body, to wherever the response says; `Request.redirected?_told` says that where it
goes does not depend on it.
-/

set_option autoImplicit false

namespace ResourceManager

/-! ## Redaction -/

/-- Form fields without the value of a secret. -/
def Form.redacted (pairs : List (String × String)) : List (String × String) :=
  pairs.map fun pair ↦ if pair.1 = "client_secret" then (pair.1, "") else pair

/-- A body with the fields that its text is read back as, without the value of a secret.  Reading
back the text matters: a secret with an ampersand in it could otherwise show up as a field of its
own. -/
def Payload.redacted : Payload → Payload
  | json value => json value
  | form fields => form (Form.redacted (Form.decode (Form.encode fields)))

/-- A request without the value of a secret. -/
def Request.redacted (r : Request) : Request :=
  { r with payload := r.payload.map Payload.redacted }

/-- What can be told of a request in the course of an exchange: one with the service is told as it
is. -/
def Request.told (r : Request) (isCall : Bool) : Request := if isCall then r else r.redacted

/-- What can be told of an exchange.  A request for a token that is sent on takes the secret with
it. -/
def Exchange.redacted (x : Exchange) : Exchange :=
  { x with
    request := x.request.told x.request.isCall
    redirects := x.redirects.map fun d ↦ { d with request := d.request.told x.request.isCall } }

/-- All that can be told of a session without the secret. -/
def Session.redacted (s : Session) : Session :=
  { s with exchanges := s.exchanges.map Exchange.redacted }

/-- Credentials with nothing in place of the secret. -/
def Credentials.redacted : Credentials → Credentials
  | clientSecret tenantId clientId _ => clientSecret tenantId clientId ""
  | accessToken token => accessToken token

def TokenSource.redacted (source : TokenSource) : TokenSource :=
  { source with credentials := source.credentials.redacted }

def Client.redacted (c : Client) : Client := { c with tokens := c.tokens.redacted }

def Factory.redacted (f : Factory) : Factory := { f with client := f.client.redacted }

/-! ## Redacted sessions

Redaction touches the bodies in the log, so everything else a run can look at is the same in a
redacted session: the time, the token, the answers, and the number of requests, by which a signal
may go. -/

namespace Request

variable (r : Request) (isCall : Bool)

@[simp] theorem method_told : (r.told isCall).method = r.method := by cases isCall <;> rfl

/-- Redaction leaves the reasons alone for which a request cannot be sent. -/
@[simp] theorem defect?_told : (r.told isCall).defect? = r.defect? := by cases isCall <;> rfl

/-- Whether a request is sent on with its body depends on the status and on the method. -/
theorem resent?_redacted (status : Nat) :
    r.redacted.resent? status =
      (r.resent? status).map fun m ↦ (m.1, m.2.map Payload.redacted) := by
  have hmethod : r.redacted.method = r.method := rfl
  have hpayload : r.redacted.payload = r.payload.map Payload.redacted := rfl
  rw [resent?.eq_def, resent?.eq_def, hmethod, hpayload]
  -- only a `POST` that has moved loses its payload
  have hmoved : (if r.method = .post then (Method.get, none)
      else (r.method, r.payload.map Payload.redacted)) =
      Prod.map id (Option.map Payload.redacted)
        (if r.method = .post then (Method.get, none) else (r.method, r.payload)) := by
    split <;> rfl
  split
  · exact congrArg some hmoved
  · exact congrArg some hmoved
  all_goals rfl

/-- What is sent on without the secret is what is sent on, without the secret. -/
theorem redirected?_told (response : Response) :
    (r.told isCall).redirected? response = (r.redirected? response).map (·.told isCall) := by
  cases isCall with
  | true => exact Option.map_id'.symm
  | false =>
    show r.redacted.redirected? response = _
    rw [redirected?, redirected?, resent?_redacted]
    cases r.resent? response.status with
    | none => rfl
    | some found =>
      cases response.headers.text? "location" with
      | none => rfl
      | some reference =>
        have htarget : r.redacted.target = r.target := rfl
        simp only [Option.map_some, Option.bind_some, Option.bind_eq_bind, htarget]
        cases r.target.resolved? reference with
        | none => rfl
        | some url => rfl

/-- What there is to be done about an answer does not depend on the secret. -/
theorem reaction_told (left : Nat) (answer : Answer) :
    (r.told isCall).reaction left answer =
      match r.reaction left answer with
      | .ends d => .ends d
      | .goesOn response next => .goesOn response (next.told isCall) := by
  have hredirect : (r.told isCall).redirect? answer =
      (r.redirect? answer).map fun found ↦ (found.1, found.2.told isCall) := by
    cases answer with
    | response a =>
      simp only [redirect?, redirected?_told, Option.map_map]
      rfl
    | truncated a =>
      simp only [redirect?, redirected?_told, Option.map_map]
      rfl
    | dropped => rfl
  have hanswer : Delivery.ofAnswer (r.told isCall) answer = .ofAnswer r answer := by
    cases answer with
    | response a => rw [Delivery.ofAnswer, Delivery.ofAnswer, method_told]
    | truncated a => rw [Delivery.ofAnswer, Delivery.ofAnswer, method_told]
    | dropped => rfl
  rw [reaction, reaction, hredirect, hanswer]
  cases r.redirect? answer with
  | none => rfl
  | some found =>
    have hbarrier : (found.2.told isCall).barrier? left = found.2.barrier? left := by
      rw [barrier?, barrier?, defect?_told]
    simp only [Option.map_some, hbarrier]
    cases found.2.barrier? left with
    | some cause => rfl
    | none => rfl

end Request

namespace Exchange

variable (x : Exchange)

@[simp] theorem length_requests_redacted : x.redacted.requests.length = x.requests.length := by
  rw [requests, requests, redacted]
  cases x.fate with
  | unsent => rfl
  | underway => simp
  | answered => simp

/-- Whether a request is redacted on its way depends on the one that the exchange began with. -/
theorem redacted_redirected (response : Response) (m : Moment) (next : Request) :
    (x.redirected ⟨response, m, next⟩).redacted =
      x.redacted.redirected ⟨response, m, next.told x.request.isCall⟩ := by
  simp [redacted, redirected]

theorem redacted_answered (time : Timestamp) (answer : Answer) :
    (x.answered time answer).redacted = x.redacted.answered time answer := rfl

end Exchange

namespace Session

@[simp] theorem now_redacted (s : Session) : s.redacted.now = s.now := rfl

@[simp] theorem reachable_redacted (s : Session) : s.redacted.reachable = s.reachable := rfl

@[simp] theorem token_redacted (s : Session) : s.redacted.token = s.token := rfl

theorem canTime_redacted (s : Session) (limit : Option Duration) :
    s.redacted.canTime limit = s.canTime limit := rfl

/-- A moment counts requests, and each of them is told of. -/
theorem moment_redacted (s : Session) : s.redacted.moment = s.moment := by
  have hcount : s.redacted.requests.length = s.requests.length := by
    rw [requests, requests, redacted, List.length_flatMap, List.length_flatMap, List.map_map]
    exact congrArg List.sum (List.map_congr_left fun x _ ↦ x.length_requests_redacted)
  rw [moment, hcount]
  rfl

/-- The log of a redacted session grows by redacted exchanges. -/
theorem made_redacted (s : Session) (x : Exchange) (t : Timestamp) :
    (s.made x t).redacted = s.redacted.made x.redacted t := by
  simp [redacted, made]

end Session

/-! ## Redacted runs

One rule for each way in which runs are put together.  None of them is about secrets. -/

namespace Run

variable {α β : Type}

/-- What can be told of the first run is what happens in the second one. -/
structure Redacts (r r' : Run α) : Prop where
  run : ∀ s, r'.outcome s.redacted = ((r.outcome s).1, (r.outcome s).2.redacted)

/-- So it is, if the runs begin in this session. -/
def RedactsAt (r r' : Run α) (s : Session) : Prop :=
  r'.outcome s.redacted = ((r.outcome s).1, (r.outcome s).2.redacted)

namespace Redacts

variable {r r' : Run α} {f f' : α → Run β}

theorem pure (a : α) : (pure a : Run α).Redacts (pure a) := ⟨fun _ ↦ rfl⟩

theorem throw (stop : Stop) : (throw stop : Run α).Redacts (throw stop) := ⟨fun _ ↦ rfl⟩

theorem ofExcept (x : Except Error α) : (Run.ofExcept x).Redacts (Run.ofExcept x) := by
  cases x with
  | ok a => exact pure a
  | error e => exact throw (.error e)

/-- Two redacted runs, one after the other.  The value that is handed on is the same in both. -/
theorem bind (hr : r.Redacts r') (hf : ∀ a, (f a).Redacts (f' a)) :
    (r >>= f).Redacts (r' >>= f') := by
  refine ⟨fun s ↦ ?_⟩
  have hrun := hr.run s
  rcases ho : r.outcome s with ⟨stop | a, s₁⟩
  · rw [ho] at hrun
    rw [outcome_bind_error ho, outcome_bind_error hrun]
  · rw [ho] at hrun
    rw [outcome_bind_ok ho, outcome_bind_ok hrun]
    exact (hf a).run s₁

/-- A look at the session itself. -/
theorem get_bind {f f' : Session → Run β} (hf : ∀ s : Session, (f s).Redacts (f' s.redacted)) :
    (get >>= f).Redacts (get >>= f') := by
  refine ⟨fun s ↦ ?_⟩
  rw [outcome_bind_ok (outcome_get s), outcome_bind_ok (outcome_get s.redacted)]
  exact (hf s).run s

theorem set {t t' : Session} (h : t' = t.redacted) : (set t : Run PUnit).Redacts (set t') :=
  ⟨fun _ ↦ by rw [outcome_set, outcome_set, h]⟩

theorem modify {g g' : Session → Session} (h : ∀ s, g' s.redacted = (g s).redacted) :
    (modify g : Run PUnit).Redacts (modify g') := by
  refine ⟨fun s ↦ ?_⟩
  rw [outcome_modify, outcome_modify, h]

theorem tryCatch {handler handler' : Stop → Run α} (hr : r.Redacts r')
    (hhandler : ∀ stop, (handler stop).Redacts (handler' stop)) :
    (tryCatch r handler).Redacts (tryCatch r' handler') := by
  refine ⟨fun s ↦ ?_⟩
  have hrun := hr.run s
  rw [outcome_tryCatch, outcome_tryCatch, hrun]
  rcases r.outcome s with ⟨stop | a, s₁⟩
  · exact (hhandler stop).run s₁
  · rfl

end Redacts
end Run

/-! ## Waiting and sending

Here a run looks at the session: for the moment, for the time and for the next answer. -/

namespace Watch

/-- A watch goes by the moment, which redaction leaves alone. -/
theorem redacts_check (w : Watch) : w.check.Redacts w.check := by
  refine ⟨fun s ↦ ?_⟩
  rw [outcome_check, outcome_check, s.moment_redacted]
  cases w.interruption? s.moment with
  | some e => rfl
  | none => rfl

theorem redacts_sleep (w : Watch) (wakeUp : Option Timestamp) :
    (w.sleep wakeUp).Redacts (w.sleep wakeUp) := by
  refine w.redacts_check.bind fun _ ↦ ?_
  split
  · refine (Run.Redacts.modify fun s ↦ ?_).bind fun _ ↦ w.redacts_check
    split
    · rename_i hbefore
      exact (if_pos hbefore).symm ▸ rfl
    · rename_i hbefore
      exact (if_neg hbefore).symm ▸ rfl
  · exact .throw .stuck

end Watch

theorem Arrival.redacts_receive (w : Watch) (arrival : Arrival) :
    (arrival.receive w).Redacts (arrival.receive w) := by
  cases arrival with
  | after delay answer =>
    exact Run.Redacts.get_bind fun s ↦ (w.redacts_sleep _).bind fun _ ↦ .pure answer
  | never => exact (w.redacts_sleep none).bind fun _ ↦ .throw .stuck

namespace Request

variable (r : Request) (w : Watch)

/-- An answer ends the exchange on both sides, or sends the same request on. -/
theorem redacts_answer (s : Session) (left : Nat) {x : Exchange} (hway : x.fate = .underway)
    (arrival : Arrival) (t : Timestamp) {goOn : Request → Arrival → Run Delivery}
    (hgoOn : ∀ y : Exchange, y.fate = .underway → ∀ next arrival t,
      (goOn next arrival).RedactsAt (goOn (next.told y.request.isCall) arrival) (s.made y t)) :
    (arrival.receive w >>= fun answer ↦ react goOn answer (r.reaction left answer)).RedactsAt
      (arrival.receive w >>= fun answer ↦
        react goOn answer ((r.told x.request.isCall).reaction left answer)) (s.made x t) := by
  have hreceive := (arrival.redacts_receive w).run (s.made x t)
  obtain ⟨t', hsession, -⟩ := receiving w s x t arrival
  rcases ho : (arrival.receive w).outcome (s.made x t) with ⟨stop | answer, s₁⟩
  · rw [ho] at hreceive
    rw [Run.RedactsAt, Run.outcome_bind_error ho, Run.outcome_bind_error hreceive]
  · rw [ho] at hreceive hsession
    obtain rfl : s₁ = s.made x t' := hsession
    rw [Run.RedactsAt, Run.outcome_bind_ok ho, Run.outcome_bind_ok hreceive, reaction_told]
    cases r.reaction left answer with
    | ends d =>
      have hmade := answered_made hway s t' answer
      have hmade' := answered_made (x := x.redacted) hway s.redacted t' answer
      rw [← s.made_redacted, ← x.redacted_answered, ← s.made_redacted] at hmade'
      exact congrArg (Except.ok d, ·) (hmade'.trans (congrArg Session.redacted hmade.symm))
    | goesOn response next =>
      have hmade := redirected_made hway s t' response next
      have hmade' := redirected_made (x := x.redacted) hway s.redacted t' response
        (next.told x.request.isCall)
      rw [← s.made_redacted, Session.moment_redacted, ← x.redacted_redirected,
        ← s.made_redacted] at hmade'
      have hrest := hgoOn (x.redirected ⟨response, (s.made x t').moment, next⟩) hway next
        (s.made x t').nextArrival t'
      rw [Run.RedactsAt, ← hmade] at hrest
      rw [← hmade] at hmade'
      rw [← hmade'] at hrest
      exact hrest

/-- What is told of an exchange depends on the request that was made first, so a wait for its answer
is told of where that request is known: in a session whose last exchange this is.  The induction is
on the redirects that may still be followed. -/
theorem redacts_await (s : Session) (left : Nat) :
    ∀ {x : Exchange}, x.fate = .underway → ∀ (r : Request) (arrival : Arrival) (t : Timestamp),
      (await w left r arrival).RedactsAt (await w left (r.told x.request.isCall) arrival)
        (s.made x t) := by
  induction left with
  | zero =>
    intro x hway r arrival t
    exact redacts_answer r w s 0 hway arrival t fun _ _ _ _ _ ↦ rfl
  | succ left ih =>
    intro x hway r arrival t
    exact redacts_answer r w s (left + 1) hway arrival t fun _ ↦ ih

/-- The wait for the answer begins in the session in which the request has just been logged. -/
theorem redacts_exchange : (r.exchange w).Redacts ((r.told r.isCall).exchange w) := by
  refine ⟨fun s ↦ ?_⟩
  have hsent := s.sent_eq r
  have hsent' : s.redacted.sent (r.told r.isCall) = (s.sent r).redacted := by
    rw [Session.sent_eq, hsent, s.made_redacted, s.moment_redacted]
    rfl
  have hrun := redacts_await w s redirectLimit (x := ⟨s.moment, r, [], .underway⟩) rfl r
    s.nextArrival s.now
  rw [Run.RedactsAt, ← hsent, ← hsent'] at hrun
  exact hrun

/-- A request that is not sent is logged all the same, and told of without the secret. -/
theorem redacts_refuse (cause : TransportError) :
    (r.refuse cause).Redacts ((r.told r.isCall).refuse cause) := by
  refine (Run.Redacts.modify fun s ↦ ?_).bind fun _ ↦ .pure _
  rw [Session.refused_eq, Session.refused_eq, s.made_redacted, s.moment_redacted]
  rfl

/-- Whether a request can be sent depends on its address and on the network. -/
theorem redacts_send : (r.send w).Redacts ((r.told r.isCall).send w) := by
  rw [send, send, defect?_told]
  cases r.defect? with
  | some cause => exact r.redacts_refuse cause
  | none =>
    refine Run.Redacts.get_bind fun s ↦ ?_
    rw [s.reachable_redacted]
    split
    · exact r.redacts_exchange w
    · exact r.redacts_refuse .noResponse

end Request

/-! ## Tokens and exchanges

The secret is read in one place, where the request for a token is built.  Behind it, everything is
the same for both clients, and the rest of the module follows the program through its calls. -/

namespace TokenSource

variable (source : TokenSource) (tenantId clientId secret scope : String) (w : Watch)

/-- The request for a token is the same, but for the secret in its body. -/
theorem request_redacted :
    source.redacted.request tenantId clientId "" scope =
      (source.request tenantId clientId secret scope).map Request.redacted := by
  have hauthority : source.redacted.authority = source.authority := rfl
  rw [request, request, hauthority]
  cases Url.parse (address source.authority tenantId) with
  | error cause => rfl
  | ok url =>
    refine congrArg Except.ok ?_
    rw [Request.redacted, Option.map_some, Payload.redacted, Form.decode_encode]
    rfl

theorem redacts_ask : (source.ask tenantId clientId secret scope w).Redacts
    (source.redacted.ask tenantId clientId "" scope w) := by
  rw [ask, ask, request_redacted source tenantId clientId secret scope]
  cases hr : source.request tenantId clientId secret scope with
  | error cause => exact .pure (Delivery.failed cause)
  | ok r =>
    have hsend := r.redacts_send w
    rwa [Request.isCall_of_token_none (request_token hr)] at hsend

theorem redacts_keep (d : Delivery) : (keep scope d).Redacts (keep scope d) := by
  refine ⟨fun s ↦ ?_⟩
  rw [outcome_keep, outcome_keep, s.now_redacted]
  cases ofDelivery d s.now with
  | error cause => rfl
  | ok token => rfl

/-- A token at hand is used without a look at the secret; otherwise one is asked for and kept. -/
theorem redacts_token : (source.token scope w).Redacts (source.redacted.token scope w) := by
  have hcredentials : source.redacted.credentials = source.credentials.redacted := rfl
  rw [token, token, hcredentials]
  cases source.credentials with
  | accessToken token => exact .pure (AccessToken.unlimited token)
  | clientSecret tenantId clientId secret =>
    refine Run.Redacts.get_bind fun s ↦ ?_
    rw [s.token_redacted, s.now_redacted]
    cases s.token.bind (·.usable? scope s.now) with
    | some token => exact .pure token
    | none =>
      exact (source.redacts_ask tenantId clientId secret scope w).bind (redacts_keep scope)

end TokenSource

namespace Client

variable (c : Client) (w : Watch)

/-- A call carries the token and never the secret, so it is told of as it is. -/
theorem redacts_exchange (m : Method) (url : Url) (body : Option Json) :
    (c.exchange w m url body).Redacts (c.redacted.exchange w m url body) := by
  refine (c.tokens.redacts_token c.scope w).bind fun token ↦ Run.Redacts.bind ?_ fun d ↦
    .ofExcept (replyOf d)
  exact (c.request token m url body).redacts_send w

theorem redacts_getUrl (url : Url) : (c.getUrl w url).Redacts (c.redacted.getUrl w url) :=
  c.redacts_exchange w .get url none

theorem redacts_submit (spec : OperationSpec) : (c.submit spec).Redacts (c.redacted.submit spec) :=
  c.redacts_exchange .none spec.method (spec.url c.endpoint) spec.body

end Client

/-! ## Waits and listings

From here on the client is only passed along. -/

namespace Poller

variable (c : Client) (w : Watch) (o : PollOptions) (p : Poller)

theorem redacts_bodyAt (url : Url) : (bodyAt c w url).Redacts (bodyAt c.redacted w url) :=
  (c.redacts_getUrl w url).bind fun _ ↦ .pure _

theorem redacts_result (resultUrl : Option Url) (status : Option Json) :
    (p.result c w resultUrl status).Redacts (p.result c.redacted w resultUrl status) := by
  rw [result.eq_def, result.eq_def]
  split
  · exact redacts_bodyAt c w _
  · split
    · exact .pure _
    · cases resultUrl with
      | some url => exact redacts_bodyAt c w url
      | none => exact .pure _

theorem redacts_poll : (p.poll c w).Redacts (p.poll c.redacted w) := by
  rw [poll, poll]
  cases p.tracking with
  | done body => exact .pure _
  | failed failure => exact .pure _
  | statusAt url resultUrl =>
    refine (redacts_bodyAt c w url).bind fun body ↦ ?_
    split
    · exact .throw _
    · exact .pure _
    · exact (redacts_result c w p resultUrl body).bind fun _ ↦ .pure _
    · exact .pure _
  | location url =>
    refine (c.redacts_getUrl w url).bind fun reply ↦ ?_
    split
    · exact .pure _
    · split
      · exact (redacts_bodyAt c w _).bind fun _ ↦ .pure _
      · exact .pure _
  | resource =>
    refine (redacts_bodyAt c w _).bind fun body ↦ ?_
    split
    · exact .pure _
    · exact .pure _

theorem redacts_look : (p.look c o w).Redacts (p.look c.redacted o w) := by
  rw [look, look]
  split
  · exact redacts_poll c w p
  · exact Run.Redacts.get_bind fun s ↦ (w.redacts_sleep _).bind fun _ ↦ redacts_poll c w p

theorem redacts_report (e : ProgressEvent) : (report o e).Redacts (report o e) := by
  rw [report]
  split
  · exact .modify fun _ ↦ rfl
  · exact .pure _

theorem redacts_follow (n : Nat) : (p.follow c o w n).Redacts (p.follow c.redacted o w n) := by
  induction n with
  | zero => exact .throw .stuck
  | succ n ih =>
    refine (redacts_look c w o p).bind fun progress ↦ ?_
    cases progress with
    | done body => exact .pure body
    | failed failure => exact .throw _
    | pending word => exact (redacts_report o _).bind fun _ ↦ ih

theorem redacts_followReported (n : Nat) :
    (p.followReported c o w n).Redacts (p.followReported c.redacted o w n) := by
  refine (redacts_report o _).bind fun _ ↦ Run.Redacts.tryCatch ?_ ?_
  · exact (redacts_follow c w o p n).bind fun body ↦ (redacts_report o _).bind fun _ ↦ .pure body
  · intro stop
    cases stop with
    | error e => exact (redacts_report o _).bind fun _ ↦ .throw (.error e)
    | stuck => exact .throw .stuck
    | crashed => exact .throw .crashed

theorem redacts_wait : (p.wait c o).Redacts (p.wait c.redacted o) := by
  refine Run.Redacts.get_bind fun s ↦ ?_
  rw [s.canTime_redacted]
  split
  · exact redacts_followReported c _ o p (rounds s)
  · exact .throw .crashed

end Poller

namespace Client

variable (c : Client) (o : PollOptions)

theorem redacts_begin (spec : OperationSpec) : (c.begin spec).Redacts (c.redacted.begin spec) :=
  (c.redacts_submit spec).bind fun reply ↦ .ofExcept (Poller.ofReply c.endpoint spec reply)

theorem redacts_invoke (spec : OperationSpec) :
    (c.invoke o spec).Redacts (c.redacted.invoke o spec) := by
  rw [invoke, invoke]
  split
  · exact (c.redacts_begin spec).bind fun p ↦ (p.redacts_wait c o).bind fun _ ↦ .pure _
  · exact (c.redacts_submit spec).bind fun _ ↦ .pure _

theorem redacts_fetch (spec : OperationSpec) : (c.fetch spec).Redacts (c.redacted.fetch spec) :=
  (c.redacts_submit spec).bind fun _ ↦ .pure _

end Client

namespace Cursor

variable (c : Client)

theorem redacts_fetch (cursor : Cursor) : (cursor.fetch c).Redacts (cursor.fetch c.redacted) := by
  have hreply : (cursor.reply? c).Redacts (cursor.reply? c.redacted) := by
    cases cursor with
    | first spec => exact (c.redacts_submit spec).bind fun _ ↦ .pure _
    | next url => exact (c.redacts_getUrl .none url).bind fun _ ↦ .pure _
    | exhausted => exact .pure none
  refine hreply.bind fun reply? ↦ ?_
  cases reply? with
  | none => exact .pure none
  | some reply => exact (Run.Redacts.ofExcept (pageOf reply)).bind fun _ ↦ .pure _

theorem redacts_itemsFrom (n : Nat) :
    ∀ cursor, (itemsFrom c n cursor).Redacts (itemsFrom c.redacted n cursor) := by
  induction n with
  | zero => exact fun _ ↦ .throw .stuck
  | succ n ih =>
    refine fun cursor ↦ (redacts_fetch c cursor).bind fun found ↦ ?_
    cases found with
    | none => exact .pure []
    | some found => exact (ih found.2).bind fun _ ↦ .pure _

end Cursor

theorem Client.redacts_collect (c : Client) (spec : OperationSpec) :
    (c.collect spec).Redacts (c.redacted.collect spec) :=
  Run.Redacts.get_bind fun s ↦ Cursor.redacts_itemsFrom c (Cursor.rounds s) (.first spec)

theorem Operation.redacts_call (op : Operation) (c : Client) (o : PollOptions)
    (subscription : String) (names : List String) (value : op.extra.Value) :
    (op.call c o subscription names value).Redacts
      (op.call c.redacted o subscription names value) := by
  rw [call, call]
  split
  · exact (c.redacts_collect _).bind fun _ ↦ .pure _
  · exact (c.redacts_invoke o _).bind fun _ ↦ .pure _

/-! ## Calls

The calls of a factory, and lists of calls, each of which begins at a time of its own. -/

namespace Factory

variable (f : Factory)

theorem redacts_perform (call : Call) : (f.perform call).Redacts (f.redacted.perform call) := by
  cases call with
  | operation op names value o => exact op.redacts_call f.client o f.subscriptionId names value
  | submit spec => exact f.client.redacts_submit spec
  | get url => exact f.client.redacts_getUrl .none url
  | begin spec => exact f.client.redacts_begin spec
  | invoke spec o => exact f.client.redacts_invoke o spec
  | fetch spec => exact f.client.redacts_fetch spec
  | poll p w => exact p.redacts_poll f.client w
  | wait p o => exact p.redacts_wait f.client o
  | page cursor => exact cursor.redacts_fetch f.client
  | collect spec => exact f.client.redacts_collect spec

/-- What can be told of a run of calls is what happens to a factory without the secret. -/
theorem performAll_redacted (calls : List (Timestamp × Call)) (s : Session) :
    f.redacted.performAll calls s.redacted =
      ((f.performAll calls s).1, (f.performAll calls s).2.redacted) := by
  induction calls generalizing s with
  | nil => rfl
  | cons call calls ih =>
    have hcall : (f.performAt call.1 call.2).Redacts (f.redacted.performAt call.1 call.2) :=
      (Watch.redacts_sleep .none (some call.1)).bind fun _ ↦ f.redacts_perform call.2
    have hrun := hcall.run s
    simp only [performAll, hrun, ih]

end Factory

/-! ## Settings and factories that differ in the secret

Two settings that differ in the secret are refused for the same reason or not at all, since a secret
is refused only if it is blank. -/

/-- Settings that differ in nothing but the secret of an application, which is blank in neither. -/
inductive Settings.SameButSecret : Settings → Settings → Prop
  | intro (s : Settings) (tenantId clientId : String) {secret secret' : String}
      (h : Credentials.emptyPart?.isBlank secret = false)
      (h' : Credentials.emptyPart?.isBlank secret' = false) :
      SameButSecret { s with credentials := .clientSecret tenantId clientId secret }
        { s with credentials := .clientSecret tenantId clientId secret' }

/-- Whatever is asked of two factories in sessions of which the same can be told, they say the same
of themselves, give the same back and leave sessions behind of which the same can be told. -/
structure Factory.SameButSecret (f g : Factory) : Prop where
  description : ∀ {s t : Session}, s.redacted = t.redacted → f.description s = g.description t
  returned : ∀ {s t : Session}, s.redacted = t.redacted → ∀ calls,
    (f.performAll calls s).1 = (g.performAll calls t).1
  session : ∀ {s t : Session}, s.redacted = t.redacted → ∀ calls,
    (f.performAll calls s).2.redacted = (g.performAll calls t).2.redacted

/-- A client describes itself by its addresses alone. -/
theorem Client.description_redacted (c : Client) : c.redacted.description = c.description := by
  unfold description
  rw [redacted]

/-- A signal is described by whether it has fired, which is a matter of the moment. -/
theorem PollOptions.description_redacted (o : PollOptions) (s : Session) :
    o.description s.redacted = o.description s := by
  unfold description
  rw [s.moment_redacted]

/-- So the description of a factory tells nothing of the secret. -/
theorem Factory.description_redacted (f : Factory) (s : Session) :
    f.redacted.description s.redacted = f.description s := by
  rw [description, description, redacted, Client.description_redacted,
    PollOptions.description_redacted]

/-- Factories that are the same without their secrets. -/
theorem Factory.sameButSecret {f g : Factory} (h : f.redacted = g.redacted) :
    f.SameButSecret g where
  description {s t} hst := by
    rw [← description_redacted, h, hst, description_redacted]
  returned {s t} hst calls := by
    have hrun := g.performAll_redacted calls t
    rw [← h, ← hst, f.performAll_redacted calls s] at hrun
    exact (Prod.mk.inj hrun).1
  session {s t} hst calls := by
    have hrun := g.performAll_redacted calls t
    rw [← h, ← hst, f.performAll_redacted calls s] at hrun
    exact (Prod.mk.inj hrun).2

/-- A client is built of its addresses, whatever the secret is. -/
theorem Client.build_redacted (addition : Option String) (credentials : Credentials)
    (authority endpoint scope : String) :
    (build addition credentials authority endpoint scope).map redacted =
      build addition credentials.redacted authority endpoint scope := by
  rw [build, build]
  split
  · rfl
  · cases Url.parse endpoint with
    | error cause => rfl
    | ok url => rfl

namespace Settings.SameButSecret

variable {a b : Settings}

theorem description (h : a.SameButSecret b) : a.description = b.description := by
  cases h
  rfl

theorem credentials_description (h : a.SameButSecret b) :
    a.credentials.description = b.credentials.description := by
  cases h
  rfl

/-- A secret that is not blank is no reason to refuse credentials. -/
theorem emptyPart? (h : a.SameButSecret b) :
    a.credentials.emptyPart? = b.credentials.emptyPart? := by
  cases h with
  | intro s tenantId clientId h h' => simp [Credentials.emptyPart?, List.find?_cons, h, h']

/-- Both clients are refused for the same reason, or they are the same but for the secret. -/
theorem ofSettings (h : a.SameButSecret b) :
    (Client.ofSettings a).map Client.redacted = (Client.ofSettings b).map Client.redacted := by
  have hempty := h.emptyPart?
  cases h with
  | intro s tenantId clientId =>
    rw [Client.ofSettings, Client.ofSettings, Client.new, Client.new, hempty]
    split
    · rfl
    · split
      · rfl
      · rw [Client.build_redacted, Client.build_redacted]
        rfl

end Settings.SameButSecret

/-- **The secret of an application does not leak.**  Settings that differ in the secret have the
same descriptions.  Either no factory can be built of them, for the same reason, or whatever is
asked of the two factories, by one call after another, in any session, nothing shows which secret
they have but the text of a request for a token, and in that only the value of the secret. -/
theorem Factory.secret_hidden {a b : Settings} (h : a.SameButSecret b) :
    a.description = b.description ∧ a.credentials.description = b.credentials.description ∧
      ((∃ e, Factory.new a = .error e ∧ Factory.new b = .error e) ∨
        ∃ f g, Factory.new a = .ok f ∧ Factory.new b = .ok g ∧ f.SameButSecret g) := by
  refine ⟨h.description, h.credentials_description, ?_⟩
  rw [new_eq, new_eq]
  rcases Run.cases_of_map_eq h.ofSettings with ⟨e, ha, hb⟩ | ⟨c, d, ha, hb, hsame⟩
  · rw [ha, hb]
    exact .inl ⟨e, rfl, rfl⟩
  · rw [ha, hb]
    refine .inr ⟨_, _, rfl, rfl, sameButSecret ?_⟩
    cases h
    rw [redacted, redacted, hsame]

/-- Two secrets, one of which cannot stand in a form as it is, are asked for a token. -/
theorem Factory.secret_hidden_of_two :
    let a := Settings.sampleAt "http://login.test"
    let b := { a with credentials := .clientSecret "t" "c" "k=1&k" }
    a ≠ b ∧ a.SameButSecret b ∧
      ∃ f g, Factory.new a = .ok f ∧ Factory.new b = .ok g ∧ f.SameButSecret g := by
  intro a b
  have hab : a.SameButSecret b := .intro a "t" "c" (by decide) (by decide)
  refine ⟨by decide, hab, ?_⟩
  obtain ⟨-, -, ⟨e, he, -⟩ | hbuilt⟩ := secret_hidden hab
  · rw [new_sampleAt] at he
    cases he
  · exact hbuilt

end ResourceManager
