import ResourceManager.Listing.Pager
import ResourceManager.Proofs.Interruption
import ResourceManager.Proofs.Pages
import ResourceManager.Proofs.Submission

/-!
# Reading exchanges

What makes an exchange fail depends on what the call expects of it.  A token has to come from the
authority; the service has to report success with a body that is blank or JSON; and the reply to a
submission, a status and the page of a listing have a form of their own.

`Stage` says what a call expects next.  An exchange in the log either takes the call to another
stage (`Stage.Moves`) or ends it with an error (`Stage.Breaks`), and the two speak of the logged
answer only, not of what the program makes of it.  `Stage.moves_or_breaks` says that there is no
third way, and `Stage.Moves.eq`, `Stage.Breaks.eq` and `Stage.Moves.not_breaks` that an exchange can
be read in one way only.  A log that can be read from one end to the other `Passes`.

The rules at the end follow a call through its requests.  `Reads` holds where all exchanges so far
have been read, `Brings` where one has just come in, and `Stopped` where the call has stopped.  What
may call it off is a matter of the moment at which it stops.

## Two sides

The relations are the specification, and they are given case by case, with the members and the
header fields that a reader can look up in a response.  The program's side is one function,
`Stage.next`, which puts together the functions that the program calls on a reply.  The two are
connected twice, once in either direction (`accepts_of_next`, `Accepts.next_eq` and the same for
rejections), and everything about a reading being the only one follows from `next` being a function.

The rules of the second part use `next`, since that is what appears when a run is taken apart, and
hand on the relations, since that is what is to be shown.
-/

set_option autoImplicit false

namespace ResourceManager

/-! ## Stages

Which form a reply must have is not seen from the exchange.  The same body is a page to a listing, a
status to one poll and a resource to another, so reading a log means carrying along what is
expected. -/

/-- What a call expects of the next reply of the service, besides a success. -/
inductive Stage where
  | plain
  /-- The reply to the submission of an operation that is to be followed. -/
  | submission
  /-- The status of an operation that has an address for it. -/
  | status
  /-- A page of a listing behind the items of other ones. -/
  | page (items : List Json)
  /-- There are no more pages. -/
  | listed (items : List Json)

namespace Stage

/-- A reply is what is expected, and takes the call to another stage. -/
inductive Accepts (reply : Reply) : Stage → Stage → Prop
  | plain : Accepts reply plain plain
  | tracked {url : Url} {location : Option Url}
      (hstatus : reply.headers.Names "azure-asyncoperation" (some url))
      (hlocation : reply.headers.Names "location" location) : Accepts reply submission status
  | untracked {location : Option Url} (hstatus : reply.headers.Names "azure-asyncoperation" none)
      (hlocation : reply.headers.Names "location" location) : Accepts reply submission plain
  | running {word : String} (h : (Report.ofStatus reply).Runs word) : Accepts reply status status
  | succeeded (h : (Report.ofStatus reply).Succeeds) : Accepts reply status plain
  | failed {f : OperationFailure} (h : (Report.ofStatus reply).Fails f) : Accepts reply status plain
  | linked {items more : List Json} {link : String} {url : Url}
      (hpage : Page.Describes reply.body ⟨more, some link⟩) (hurl : Url.parse link = .ok url) :
      Accepts reply (page items) (page (items ++ more))
  | last {items more : List Json} (hpage : Page.Describes reply.body ⟨more, none⟩) :
      Accepts reply (page items) (listed (items ++ more))
  | listed {items : List Json} : Accepts reply (listed items) (listed items)

/-- A reply is not what is expected, and this is the error. -/
inductive Rejects (reply : Reply) : Stage → Error → Prop
  | statusAddress {cause : UrlError}
      (h : reply.headers.Misnames "azure-asyncoperation" cause) :
      Rejects reply submission (.url cause)
  | location {address : Option Url} {cause : UrlError}
      (hstatus : reply.headers.Names "azure-asyncoperation" address)
      (h : reply.headers.Misnames "location" cause) : Rejects reply submission (.url cause)
  | unclear (h : (Report.ofStatus reply).word = none) :
      Rejects reply status (.invalidResponse .missingStatus)
  | noPage {items : List Json} {defect : ResponseDefect}
      (h : Page.Malformed reply.body defect) : Rejects reply (page items) (.invalidResponse defect)
  /-- The items have arrived, but the link is no address. -/
  | link {items more : List Json} {link : String} {cause : UrlError}
      (hpage : Page.Describes reply.body ⟨more, some link⟩) (hurl : Url.parse link = .error cause) :
      Rejects reply (page items) (.url cause)

/-- An exchange can be read, and takes the call from one stage to another.  Only a reply of the
service does so; a token changes nothing about what the service has to say next. -/
inductive Moves (stage : Stage) (x : Exchange) : Stage → Prop
  /-- What is still on its way has not failed. -/
  | underway (h : x.delivery? = none) : Moves stage x stage
  | token {token : AccessToken} (hcall : x.request.isCall = false) (h : x.Issues token) :
      Moves stage x stage
  | reply {reply : Reply} {stage' : Stage} (hcall : x.request.isCall = true) (h : x.Brings reply)
      (haccepts : Accepts reply stage stage') : Moves stage x stage'

/-- An exchange fails, and this is the error. -/
inductive Breaks (stage : Stage) (x : Exchange) : Error → Prop
  | token {cause : CredentialError} (hcall : x.request.isCall = false) (h : x.Denies cause) :
      Breaks stage x (.credential cause)
  | exchange {e : Error} (hcall : x.request.isCall = true) (h : x.Fails e) : Breaks stage x e
  | reply {reply : Reply} {e : Error} (hcall : x.request.isCall = true) (h : x.Brings reply)
      (hrejects : Rejects reply stage e) : Breaks stage x e

/-- Exchanges that can be read, one after the other, take a call from one stage to another. -/
inductive Passes : Stage → List Exchange → Stage → Prop
  | nil {stage : Stage} : Passes stage [] stage
  | cons {stage stage' stage'' : Stage} {x : Exchange} {xs : List Exchange}
      (h : stage.Moves x stage') (hrest : Passes stage' xs stage'') : Passes stage (x :: xs) stage''

/-! ## Every exchange is read in one way -/

/-- The stage of a walk that has come to a cursor with some items. -/
def ofCursor (items : List Json) : Cursor → Stage
  | .exhausted => listed items
  | _ => page items

/-- The stage in which an operation is followed. -/
def ofPoller (p : Poller) : Stage :=
  match p.tracking with
  | .statusAt _ _ => status
  | _ => plain

/-- The stage behind a reply, as the program finds it: by the addresses that it reads in the header
of a submission, by the report in a status, and by the page in a listing.  A failed operation is no
error of reading: its status has been understood. -/
def next (reply : Reply) : Stage → Except Error Stage
  | plain => .ok plain
  | submission => do
    let address ← Poller.addressIn reply.headers Poller.statusField
    let _ ← Poller.addressIn reply.headers Poller.locationField
    return if address.isSome then status else plain
  | status =>
    match (Report.ofStatus reply).finding with
    | .unclear => .error (.invalidResponse .missingStatus)
    | .running _ => .ok status
    | _ => .ok plain
  | page items =>
    (Cursor.pageOf reply).map fun found ↦ ofCursor (items ++ found.1.items) found.2
  | listed items => .ok (listed items)

variable {reply : Reply} {stage stage' stage'' : Stage} {x : Exchange} {xs ys : List Exchange}
  {e e' : Error}

/-- The two addresses of a submission are read in turn, which makes for three cases. -/
theorem next_submission_cases (reply : Reply) :
    (∃ address location, Poller.addressIn reply.headers Poller.statusField = .ok address ∧
        Poller.addressIn reply.headers Poller.locationField = .ok location ∧
        next reply submission = .ok (if address.isSome then status else plain)) ∨
      (∃ cause, next reply submission = .error cause ∧
        Poller.addressIn reply.headers Poller.statusField = .error cause) ∨
      ∃ address cause, next reply submission = .error cause ∧
        Poller.addressIn reply.headers Poller.statusField = .ok address ∧
        Poller.addressIn reply.headers Poller.locationField = .error cause := by
  rw [next]
  cases hstatus : Poller.addressIn reply.headers Poller.statusField with
  | error cause => exact .inr (.inl ⟨cause, rfl, rfl⟩)
  | ok address =>
    cases hlocation : Poller.addressIn reply.headers Poller.locationField with
    | error cause => exact .inr (.inr ⟨address, cause, rfl, rfl, rfl⟩)
    | ok location => exact .inl ⟨address, location, rfl, rfl, rfl⟩

/-- What the program reads in a reply is accepted or rejected. -/
theorem accepts_of_next (h : next reply stage = .ok stage') : Accepts reply stage stage' := by
  cases stage with
  | plain =>
    cases h
    exact .plain
  | submission =>
    rcases next_submission_cases reply with
      ⟨address, location, hstatus, hlocation, hnext⟩ | ⟨_, hnext, -⟩ | ⟨_, _, hnext, -⟩
    · cases hnext.symm.trans h
      cases address with
      | none => exact .untracked (Headers.names_iff.mp hstatus) (Headers.names_iff.mp hlocation)
      | some url => exact .tracked (Headers.names_iff.mp hstatus) (Headers.names_iff.mp hlocation)
    · cases hnext.symm.trans h
    · cases hnext.symm.trans h
  | status =>
    rw [next] at h
    cases hfinding : (Report.ofStatus reply).finding with
    | unclear => simp [hfinding] at h
    | running word =>
      simp only [hfinding] at h
      cases h
      exact .running (Report.finding_eq_running.mp hfinding)
    | ended =>
      simp only [hfinding] at h
      cases h
      exact .succeeded (Report.finding_eq_ended.mp hfinding)
    | failed f =>
      simp only [hfinding] at h
      cases h
      exact .failed (Report.finding_eq_failed.mp hfinding)
  | page items =>
    rw [next, Cursor.pageOf] at h
    cases hbody : Page.ofBody reply.body with
    | error defect =>
      rw [hbody] at h
      cases h
    | ok page =>
      -- a page of the right shape is refused all the same if its link is no URL
      obtain ⟨more, nextLink⟩ := page
      have hpage := Page.ofBody_eq_ok_iff.mp hbody
      rw [hbody] at h
      simp only [Cursor.behind] at h
      cases nextLink with
      | none =>
        cases h
        exact .last hpage
      | some link =>
        cases hurl : Url.parse link with
        | error cause => simp [hurl, Except.map] at h
        | ok url =>
          simp only [hurl] at h
          cases h
          exact .linked hpage hurl
  | listed items =>
    cases h
    exact .listed

/-- What it refuses is rejected, with the error that it says. -/
theorem rejects_of_next (h : next reply stage = .error e) : Rejects reply stage e := by
  cases stage with
  | plain => cases h
  | submission =>
    rcases next_submission_cases reply with
      ⟨_, _, -, -, hnext⟩ | ⟨_, hnext, hstatus⟩ | ⟨_, _, hnext, hstatus, hlocation⟩
    · cases hnext.symm.trans h
    · cases hnext.symm.trans h
      obtain ⟨cause, rfl, hmisnames⟩ := Headers.misnames_iff.mp hstatus
      exact .statusAddress hmisnames
    · cases hnext.symm.trans h
      obtain ⟨cause, rfl, hmisnames⟩ := Headers.misnames_iff.mp hlocation
      exact .location (Headers.names_iff.mp hstatus) hmisnames
  | status =>
    rw [next] at h
    cases hfinding : (Report.ofStatus reply).finding with
    | unclear =>
      simp only [hfinding] at h
      cases h
      exact .unclear (Report.finding_eq_unclear.mp hfinding)
    | running word => simp [hfinding] at h
    | ended => simp [hfinding] at h
    | failed f => simp [hfinding] at h
  | page items =>
    rw [next, Cursor.pageOf] at h
    cases hbody : Page.ofBody reply.body with
    | error defect =>
      rw [hbody] at h
      cases h
      exact .noPage (Page.ofBody_eq_error_iff.mp hbody)
    | ok page =>
      obtain ⟨more, nextLink⟩ := page
      have hpage := Page.ofBody_eq_ok_iff.mp hbody
      rw [hbody] at h
      simp only [Cursor.behind] at h
      cases nextLink with
      | none => cases h
      | some link =>
        cases hurl : Url.parse link with
        | error cause =>
          simp only [hurl] at h
          cases h
          exact .link hpage hurl
        | ok url => simp [hurl, Except.map] at h
  | listed items => cases h

/-- The other way round, nothing else is accepted. -/
theorem Accepts.next_eq (h : Accepts reply stage stage') : next reply stage = .ok stage' := by
  cases h with
  | plain => rfl
  | tracked hstatus hlocation =>
    rw [next, Poller.statusField, Poller.locationField, Headers.names_iff.mpr hstatus,
      Headers.names_iff.mpr hlocation]
    rfl
  | untracked hstatus hlocation =>
    rw [next, Poller.statusField, Poller.locationField, Headers.names_iff.mpr hstatus,
      Headers.names_iff.mpr hlocation]
    rfl
  | running h => rw [next, Report.finding_eq_running.mpr h]
  | succeeded h => rw [next, Report.finding_eq_ended.mpr h]
  | failed h => rw [next, Report.finding_eq_failed.mpr h]
  | linked hpage hurl =>
    rw [next, Cursor.pageOf, Page.ofBody_eq_ok_iff.mpr hpage]
    simp only [Cursor.behind, hurl]
    rfl
  | last hpage =>
    rw [next, Cursor.pageOf, Page.ofBody_eq_ok_iff.mpr hpage]
    rfl
  | listed => rfl

/-- And nothing else is rejected. -/
theorem Rejects.next_eq (h : Rejects reply stage e) : next reply stage = .error e := by
  cases h with
  | statusAddress h =>
    rw [next, Poller.statusField, Headers.misnames_iff.mpr ⟨_, rfl, h⟩]
    rfl
  | location hstatus h =>
    rw [next, Poller.statusField, Poller.locationField, Headers.names_iff.mpr hstatus,
      Headers.misnames_iff.mpr ⟨_, rfl, h⟩]
    rfl
  | unclear h => rw [next, Report.finding_eq_unclear.mpr h]
  | noPage h =>
    rw [next, Cursor.pageOf, Page.ofBody_eq_error_iff.mpr h]
    rfl
  | link hpage hurl =>
    rw [next, Cursor.pageOf, Page.ofBody_eq_ok_iff.mpr hpage]
    simp only [Cursor.behind, hurl]
    rfl

/-- Each exchange can be read at each stage, or it fails there. -/
theorem moves_or_breaks (stage : Stage) (x : Exchange) :
    (∃ stage', stage.Moves x stage') ∨ ∃ e, stage.Breaks x e := by
  cases hd : x.delivery? with
  | none => exact .inl ⟨stage, .underway hd⟩
  | some d =>
    cases hcall : x.request.isCall with
    | true =>
      cases hread : Client.replyOf d with
      | error e => exact .inr ⟨e, .exchange hcall (Exchange.fails_iff.mpr ⟨d, hd, hread⟩)⟩
      | ok reply =>
        have hbrings := Exchange.brings_iff.mpr ⟨d, hd, hread⟩
        cases hnext : next reply stage with
        | ok stage' => exact .inl ⟨stage', .reply hcall hbrings (accepts_of_next hnext)⟩
        | error e => exact .inr ⟨e, .reply hcall hbrings (rejects_of_next hnext)⟩
    | false =>
      rcases Exchange.issues_or_denies hd with ⟨token, h⟩ | ⟨cause, h⟩
      · exact .inl ⟨stage, .token hcall h⟩
      · exact .inr ⟨_, .token hcall h⟩

/-- An exchange leads to one stage.  That of a call is told from that of a token by its request, so
the two kinds of exchanges never compete. -/
theorem Moves.eq (h : stage.Moves x stage') (h' : stage.Moves x stage'') : stage' = stage'' := by
  cases h with
  | underway hnone =>
    cases h' with
    | underway => rfl
    | token => rfl
    | reply _ hbrings => exact absurd hnone hbrings.delivery_ne_none
  | token hcall =>
    cases h' with
    | underway => rfl
    | token => rfl
    | reply hcall' => cases hcall.symm.trans hcall'
  | reply hcall hbrings haccepts =>
    cases h' with
    | underway hnone => exact absurd hnone hbrings.delivery_ne_none
    | token hcall' => cases hcall.symm.trans hcall'
    | reply _ hbrings' haccepts' =>
      obtain rfl := hbrings.eq hbrings'
      exact Except.ok.inj (haccepts.next_eq.symm.trans haccepts'.next_eq)

/-- An exchange that fails has one error. -/
theorem Breaks.eq (h : stage.Breaks x e) (h' : stage.Breaks x e') : e = e' := by
  cases h with
  | token hcall hdenies =>
    cases h' with
    | token _ hdenies' => rw [hdenies.eq hdenies']
    | exchange hcall' => cases hcall.symm.trans hcall'
    | reply hcall' => cases hcall.symm.trans hcall'
  | exchange hcall hfails =>
    cases h' with
    | token hcall' => cases hcall.symm.trans hcall'
    | exchange _ hfails' => exact hfails.eq hfails'
    | reply _ hbrings => exact absurd hfails hbrings.not_fails
  | reply hcall hbrings hrejects =>
    cases h' with
    | token hcall' => cases hcall.symm.trans hcall'
    | exchange _ hfails => exact absurd hfails hbrings.not_fails
    | reply _ hbrings' hrejects' =>
      obtain rfl := hbrings.eq hbrings'
      exact Except.error.inj (hrejects.next_eq.symm.trans hrejects'.next_eq)

/-- It does not fail where it can be read. -/
theorem Moves.not_breaks (h : stage.Moves x stage') : ¬ stage.Breaks x e := by
  intro h'
  cases h with
  | underway hnone =>
    cases h' with
    | token _ hdenies => exact hdenies.delivery_ne_none hnone
    | exchange _ hfails => exact hfails.delivery_ne_none hnone
    | reply _ hbrings => exact hbrings.delivery_ne_none hnone
  | token hcall hissues =>
    cases h' with
    | token _ hdenies => exact hissues.not_denies hdenies
    | exchange hcall' => cases hcall.symm.trans hcall'
    | reply hcall' => cases hcall.symm.trans hcall'
  | reply hcall hbrings haccepts =>
    cases h' with
    | token hcall' => cases hcall.symm.trans hcall'
    | exchange _ hfails => exact hbrings.not_fails hfails
    | reply _ hbrings' hrejects =>
      obtain rfl := hbrings.eq hbrings'
      cases haccepts.next_eq.symm.trans hrejects.next_eq

/-- What can be read has not been lost on its way. -/
theorem Moves.delivery_ne_failed {cause : TransportError} (h : stage.Moves x stage') :
    x.delivery? ≠ some (.failed cause) := by
  intro hd
  have hlost := Exchange.loses_iff.mpr hd
  cases hcall : x.request.isCall with
  | true => exact h.not_breaks (.exchange hcall (.lost hlost))
  | false => exact h.not_breaks (.token hcall (.lost hlost))

/-! ## Logs that can be read -/

/-- Readings are put together where one stage is the last of the one and the first of the other. -/
theorem Passes.append (h : stage.Passes xs stage') (h' : stage'.Passes ys stage'') :
    stage.Passes (xs ++ ys) stage'' := by
  induction h with
  | nil => exact h'
  | cons hmoves _ ih => exact .cons hmoves (ih h')

theorem Passes.concat (h : stage.Passes xs stage') (hx : stage'.Moves x stage'') :
    stage.Passes (xs ++ [x]) stage'' :=
  h.append (.cons hx .nil)

/-- Since every exchange leads to one stage, so does every log. -/
theorem Passes.eq (h : stage.Passes xs stage') (h' : stage.Passes xs stage'') :
    stage' = stage'' := by
  induction h with
  | nil =>
    cases h'
    rfl
  | cons hmoves _ ih =>
    cases h' with
    | cons hmoves' hrest' => exact ih (hmoves.eq hmoves' ▸ hrest')

/-- A log that can be read can be cut anywhere. -/
theorem Passes.of_append (h : stage.Passes (xs ++ ys) stage'') :
    ∃ stage', stage.Passes xs stage' ∧ stage'.Passes ys stage'' := by
  induction xs generalizing stage with
  | nil => exact ⟨stage, .nil, h⟩
  | cons x xs ih =>
    cases h with
    | cons hmoves hrest =>
      obtain ⟨stage', hxs, hys⟩ := ih hrest
      exact ⟨stage', .cons hmoves hxs, hys⟩

end Stage

/-! ## Where a call has got to -/

/-- How many requests of a log were sent, the ones that responses sent on included.  An exchange
that could not even begin counts for none. -/
def sentIn (log : List Exchange) : Nat := (log.flatMap Exchange.requests).length

@[simp] theorem sentIn_nil : sentIn [] = 0 := rfl

@[simp] theorem sentIn_append (log more : List Exchange) :
    sentIn (log ++ more) = sentIn log + sentIn more := by
  rw [sentIn, List.flatMap_append, List.length_append, sentIn, sentIn]

@[simp] theorem sentIn_singleton (x : Exchange) : sentIn [x] = x.requests.length := by
  rw [sentIn, List.flatMap_singleton]

namespace Session

variable {start s s' : Session}

/-- No request has been made between the two sessions, and time does not go back. -/
structure Quiet (s s' : Session) : Prop where
  exchanges : s'.exchanges = s.exchanges
  answers : s'.answers = s.answers
  horizon : s'.horizon = s.horizon
  moment : s.moment ≤ s'.moment

theorem Quiet.since_eq (h : s.Quiet s') : start.since s' = start.since s := by
  rw [since, h.exchanges, since]

theorem quiet_passed {w : Watch} (h : w.Passed s s') : s.Quiet s' where
  exchanges := h.exchanges_eq
  answers := h.answers_eq
  horizon := by
    cases h with
    | same => rfl
    | upTo =>
      rw [passedTo]
      split <;> rfl
  moment := by
    cases h with
    | same => exact Moment.le_refl _
    | upTo =>
      rw [passedTo]
      split
      · rename_i hbefore
        rw [Watch.isBefore_iff] at hbefore
        exact ⟨Int.le_of_lt hbefore, Nat.le_refl _, Nat.le_refl _⟩
      · exact Moment.le_refl _

theorem quiet_noted (s : Session) (o : PollOptions) (e : ProgressEvent) :
    s.Quiet (s.noted o e) where
  exchanges := s.exchanges_noted o e
  answers := s.answers_noted o e
  horizon := by
    rw [noted]
    split <;> rfl
  moment := by
    rw [noted]
    split
    · refine ⟨Int.le_refl _, Nat.le_refl _, ?_⟩
      show s.events.length ≤ (s.events ++ [e]).length
      rw [List.length_append]
      exact Nat.le_add_right _ _
    · exact Moment.le_refl _

theorem quiet_tokenKept (s : Session) (token : Option ScopedToken) :
    s.Quiet { s with token := token } :=
  ⟨rfl, rfl, rfl, Moment.le_refl _⟩

end Session

namespace Stage

variable {source : TokenSource} {first stage stage' : Stage} {start s s' : Session}
  {allowed : Moment → Stop → Prop} {w : Watch}

/-- All exchanges since the start can be read, and have led to a stage.  Each request of theirs has
used up an answer. -/
structure Reads (first : Stage) (start : Session) (stage : Stage) (s : Session) : Prop where
  log : s.exchanges = start.exchanges ++ start.since s
  passes : first.Passes (start.since s) stage
  answers : s.answers = start.answers.drop (sentIn (start.since s))
  room : sentIn (start.since s) ≤ start.answers.length
  now : start.now.nanoseconds ≤ s.now.nanoseconds
  horizon : s.horizon = start.horizon

/-- There is a new exchange, and all others can be read.  Whether this one can is still open; the
field `settled` says what is gained if so. -/
structure Newest (first : Stage) (start : Session) (stage : Stage) (x : Exchange) (s : Session) :
    Prop where
  log : ∃ made, s.exchanges = start.exchanges ++ (made ++ [x]) ∧ first.Passes made stage
  answers : s.answers = start.answers.drop (sentIn (start.since s))
  /-- Its last request may have found no answer. -/
  room : sentIn (start.since s) ≤ start.answers.length + 1
  /-- If it has ended and can be read, there was one. -/
  settled : ∀ stage', stage.Moves x stage' → x.fate ≠ .underway →
    sentIn (start.since s) ≤ start.answers.length
  now : start.now.nanoseconds ≤ s.now.nanoseconds
  horizon : s.horizon = start.horizon

/-- The new exchange has brought something just now. -/
def Brings (first : Stage) (start : Session) (stage : Stage) (isCall : Bool) (d : Delivery)
    (s : Session) : Prop :=
  ∃ x, Newest first start stage x s ∧ x.request.isCall = isCall ∧ x.delivery? = some d ∧
    ∀ time answer, x.fate = .answered time answer → s.now = time

/-- A call has brought a reply. -/
def Replied (first : Stage) (start : Session) (stage : Stage) (reply : Reply) (s : Session) :
    Prop :=
  ∃ x, Newest first start stage x s ∧ x.request.isCall = true ∧ x.Brings reply

/-- What a call that began in `start` may stop with in `s` although no exchange has failed: the
network keeps silent about the last request, something that is allowed to has called the wait off,
the operation has failed, or there is no address for a request for a token. -/
inductive Excuses (source : TokenSource) (start s : Session) (allowed : Moment → Stop → Prop) :
    Stop → Prop
  | silence {x : Exchange} (hanswers : .never ∈ start.answers)
      (hlast : (start.since s).getLast? = some x) (hx : x.fate = .underway) :
      Excuses source start s allowed .stuck
  | interrupted {stop : Stop} (h : allowed s.moment stop) : Excuses source start s allowed stop
  | failed {f : OperationFailure} :
      Excuses source start s allowed (.error (.operationFailed f))
  | unaddressed {cause : TransportError} (h : source.Unaddressed cause) :
      Excuses source start s allowed (.error (.credential (.requestFailed cause)))

/-- All that a stop can be: an excuse when no exchange has failed, or the error that the last
exchange is, unless something that is allowed to has come before it. -/
inductive Stopped (source : TokenSource) (first : Stage) (start : Session)
    (allowed : Moment → Stop → Prop) (stop : Stop) (s : Session) : Prop
  | otherwise {stage : Stage} (hlog : s.exchanges = start.exchanges ++ start.since s)
      (hpasses : first.Passes (start.since s) stage)
      (hroom : sentIn (start.since s) ≤ start.answers.length + 1)
      (hstop : Excuses source start s allowed stop)
  | failing {stage : Stage} {x : Exchange} {e : Error} (h : Newest first start stage x s)
      (hx : stage.Breaks x e)
      (hstop : stop = .error e ∨ ∃ cause, allowed s.moment (.error cause) ∧ stop = .error cause)

theorem Reads.refl (first : Stage) (start : Session) : Reads first start first start := by
  have hsince : start.since start = [] :=
    Session.since_eq (List.append_nil start.exchanges).symm
  refine ⟨?_, ?_, ?_, ?_, Int.le_refl _, rfl⟩
  · rw [hsince, List.append_nil]
  · rw [hsince]
    exact .nil
  · rw [hsince, sentIn_nil, List.drop_zero]
  · rw [hsince]
    exact Nat.zero_le _

/-! What makes no request leaves all this alone. -/

theorem Reads.quiet (h : Reads first start stage s) (hquiet : s.Quiet s') :
    Reads first start stage s' where
  log := by rw [hquiet.since_eq, hquiet.exchanges]; exact h.log
  passes := by rw [hquiet.since_eq]; exact h.passes
  answers := by rw [hquiet.since_eq, hquiet.answers]; exact h.answers
  room := by rw [hquiet.since_eq]; exact h.room
  now := Int.le_trans h.now hquiet.moment.1
  horizon := hquiet.horizon.trans h.horizon

/-- A stop outlives what makes no request, provided that what has called the wait off goes on doing
so at later moments. -/
theorem Stopped.quiet {stop : Stop} (h : Stopped source first start allowed stop s)
    (hallowed : ∀ {m m' stop}, m ≤ m' → allowed m stop → allowed m' stop) (hquiet : s.Quiet s') :
    Stopped source first start allowed stop s' := by
  cases h with
  | otherwise hlog hpasses hroom hstop =>
    rw [← hquiet.since_eq] at hlog hpasses hroom
    refine .otherwise (hquiet.exchanges ▸ hlog) hpasses hroom ?_
    cases hstop with
    | silence hanswers hlast hx => exact .silence hanswers (hquiet.since_eq ▸ hlast) hx
    | interrupted h => exact .interrupted (hallowed hquiet.moment h)
    | failed => exact .failed
    | unaddressed h => exact .unaddressed h
  | @failing stage x e h hx hstop =>
    have hnewest : Newest first start stage x s' := by
      refine ⟨hquiet.exchanges ▸ h.log, ?_, ?_, ?_, Int.le_trans h.now hquiet.moment.1,
        hquiet.horizon.trans h.horizon⟩
      · rw [hquiet.since_eq, hquiet.answers]
        exact h.answers
      · rw [hquiet.since_eq]
        exact h.room
      · rw [hquiet.since_eq]
        exact h.settled
    refine .failing hnewest hx ?_
    rcases hstop with hstop | ⟨cause, hcause, hstop⟩
    · exact .inl hstop
    · exact .inr ⟨cause, hallowed hquiet.moment hcause, hstop⟩

/-- The more may call a wait off, the more stops there are. -/
theorem Stopped.mono {allowed' : Moment → Stop → Prop} {stop : Stop}
    (h : Stopped source first start allowed stop s)
    (hallowed : ∀ {m stop}, allowed m stop → allowed' m stop) :
    Stopped source first start allowed' stop s := by
  cases h with
  | otherwise hlog hpasses hroom hstop =>
    refine .otherwise hlog hpasses hroom ?_
    cases hstop with
    | silence hanswers hlast hx => exact .silence hanswers hlast hx
    | interrupted h => exact .interrupted (hallowed h)
    | failed => exact .failed
    | unaddressed h => exact .unaddressed h
  | failing h hx hstop =>
    refine .failing h hx ?_
    rcases hstop with hstop | ⟨cause, hcause, hstop⟩
    · exact .inl hstop
    · exact .inr ⟨cause, hallowed hcause, hstop⟩

/-- Where everything has been read, a stop needs an excuse. -/
theorem Reads.stopped {stop : Stop} (h : Reads first start stage s)
    (hstop : Excuses source start s allowed stop) : Stopped source first start allowed stop s :=
  .otherwise h.log h.passes (Nat.le_succ_of_le h.room) hstop

/-- A new exchange that can be read is one more that has been read. -/
theorem Newest.reads {x : Exchange} (h : Newest first start stage x s)
    (hx : stage.Moves x stage') (hended : x.fate ≠ .underway) : Reads first start stage' s := by
  obtain ⟨made, hlog, hpasses⟩ := h.log
  have hsince := Session.since_eq hlog
  refine ⟨?_, ?_, h.answers, h.settled stage' hx hended, h.now, h.horizon⟩
  · rw [hsince]
    exact hlog
  · rw [hsince]
    exact hpasses.concat hx

/-- One that fails stops the call with its error. -/
theorem Newest.stopped {x : Exchange} {e : Error} (h : Newest first start stage x s)
    (hx : stage.Breaks x e) : Stopped source first start allowed (.error e) s :=
  .failing h hx (.inl rfl)

/-- A call that stops while its last request is on its way has an excuse. -/
theorem Newest.underway {x : Exchange} {stop : Stop} (h : Newest first start stage x s)
    (hx : x.fate = .underway) (hstop : Excuses source start s allowed stop) :
    Stopped source first start allowed stop s := by
  obtain ⟨made, hlog, hpasses⟩ := h.log
  have hsince := Session.since_eq hlog
  have hnone : x.delivery? = none := by rw [Exchange.delivery?, hx]
  have hread := hpasses.concat (.underway hnone)
  rw [← hsince] at hlog hread
  exact .otherwise hlog hread h.room hstop

/-- The new exchange is the last one in the log. -/
theorem Newest.getLast? {x : Exchange} (h : Newest first start stage x s) :
    (start.since s).getLast? = some x := by
  obtain ⟨made, hlog, -⟩ := h.log
  rw [Session.since_eq hlog, List.getLast?_concat]

/-- A reply has come to an end. -/
theorem ended_of_delivery {x : Exchange} {d : Delivery} (h : x.delivery? = some d) :
    x.fate ≠ .underway := by
  intro hfate
  rw [Exchange.delivery?, hfate] at h
  cases h

/-- A reply that the program accepts takes the call to its next stage. -/
theorem Replied.reads {reply : Reply} (h : Replied first start stage reply s)
    (hnext : next reply stage = .ok stage') : Reads first start stage' s := by
  obtain ⟨x, hnewest, hcall, hbrings⟩ := h
  obtain ⟨d, hd, -⟩ := Exchange.brings_iff.mp hbrings
  exact hnewest.reads (.reply hcall hbrings (accepts_of_next hnext)) (ended_of_delivery hd)

/-- One that it refuses stops the call. -/
theorem Replied.stopped {reply : Reply} {e : Error} (h : Replied first start stage reply s)
    (hnext : next reply stage = .error e) : Stopped source first start allowed (.error e) s := by
  obtain ⟨x, hnewest, hcall, hbrings⟩ := h
  exact hnewest.stopped (.reply hcall hbrings (rejects_of_next hnext))

/-! ## Requests

The rules for the steps of a call, by what the step makes of `Reads`.  A sleep keeps it, a request
puts something new in its place, and a reply that is accepted restores it. -/

/-- Whatever comes of a request, it is the new exchange. -/
theorem Reads.newest {r : Request} {result : Except Stop Delivery} {x : Exchange} {t : Timestamp}
    (h : Reads first start stage s) (hsend : r.Sending w s result x t) :
    Newest first start stage x (s.made x t) := by
  have hlog : (s.made x t).exchanges = start.exchanges ++ (start.since s ++ [x]) := by
    rw [Session.exchanges_made, ← List.append_assoc, ← h.log]
  have hsince := Session.since_eq hlog
  have hleft : s.answers.length = start.answers.length - sentIn (start.since s) := by
    rw [h.answers, List.length_drop]
  refine ⟨⟨_, hlog, h.passes⟩, ?_, ?_, fun stage' hx hended ↦ ?_, ?_, h.horizon⟩
  · rw [hsince, sentIn_append, sentIn_singleton, Session.answers_made, h.answers, List.drop_drop]
  · have hlength := hsend.length_requests_le_succ
    have hroom := h.room
    rw [hsince, sentIn_append, sentIn_singleton]
    omega
  · -- only a response can be read, and that has come out of the answers
    have hroom := h.room
    have hresult := hsend.delivery_eq
    rw [hsince, sentIn_append, sentIn_singleton]
    cases result with
    | error stop =>
      cases hsend with
      | calledOff _ hway => exact absurd hway.fate_eq hended
      | unanswered _ hway => exact absurd hway.fate_eq hended
    | ok d =>
      have hlength := hsend.length_requests_le fun cause hd ↦ by
        rw [hd] at hresult
        exact hx.delivery_ne_failed hresult
      omega
  · exact Int.le_trans h.now hsend.now_le

/-- A sleep keeps what has been read, and stops only where the watch has called the wait off. -/
theorem reads_sleep (hw : ∀ m e, w.interruption? m = some e → allowed m (.error e))
    (t : Timestamp) :
    (w.sleep (some t)).Keeps (Reads first start stage) (Stopped source first start allowed) where
  ok {s _ _} hs ho := by
    have hsleep := w.sleeping (some t) s
    rw [ho] at hsleep
    cases hsleep with
    | awake _ hpass _ => exact hs.quiet (Session.quiet_passed hpass)
  error {s _ _} hs ho := by
    have hsleep := w.sleeping (some t) s
    rw [ho] at hsleep
    cases hsleep with
    | calledOff hpass he =>
      exact (hs.quiet (Session.quiet_passed hpass)).stopped (.interrupted (hw _ _ he))
    | forever hwake => cases hwake

/-- A request brings something, or the call stops on the way. -/
theorem brings_send (hw : ∀ m e, w.interruption? m = some e → allowed m (.error e)) (r : Request) :
    (r.send w).Meets (Reads first start stage) (Brings first start stage r.isCall)
      (Stopped source first start allowed) where
  ok {s s₁ d} hs ho := by
    obtain ⟨x, t, hsession, hsend⟩ := r.sending w s
    rw [ho] at hsession hsend
    obtain rfl : s₁ = s.made x t := hsession
    refine ⟨x, hs.newest hsend, by rw [hsend.request_eq], hsend.delivery_eq, fun _ _ hfate ↦ ?_⟩
    exact hsend.now_eq hfate
  error {s s₁ _} hs ho := by
    obtain ⟨x, t, hsession, hsend⟩ := r.sending w s
    rw [ho] at hsession hsend
    obtain rfl : s₁ = s.made x t := hsession
    have hnewest := hs.newest hsend
    cases hsend with
    | calledOff _ hway _ he =>
      exact hnewest.underway hway.fate_eq (.interrupted (hw _ _ he))
    | unanswered _ hway harrival =>
      refine hnewest.underway hway.fate_eq (.silence ?_ hnewest.getLast? hway.fate_eq)
      have hmem : Arrival.never ∈ s.answers := Session.never_mem_of_arrival harrival
      rw [hs.answers] at hmem
      exact List.mem_of_mem_drop hmem

/-- Acquiring a token leaves the stage alone. -/
theorem reads_token (hw : ∀ m e, w.interruption? m = some e → allowed m (.error e))
    (source : TokenSource) (scope : String) :
    (source.token scope w).Keeps (Reads first start stage)
      (Stopped source first start allowed) := by
  -- a request that cannot even be built fails without an exchange
  refine TokenSource.token_meets
    (D := fun d s ↦ Brings first start stage false d s ∨
      Reads first start stage s ∧ ∃ cause, source.Unaddressed cause ∧ d = .failed cause)
    (fun _ hs ↦ hs) (fun cause s hcause hs ↦ .inr ⟨hs, cause, hcause, rfl⟩) (fun r hr ↦ ?_)
    (fun d s cause hd hcause ↦ ?_) fun d s token hd htoken ↦ ?_
  · have hsend : (r.send w).Meets (Reads first start stage) (Brings first start stage r.isCall)
        (Stopped source first start allowed) := brings_send hw r
    rw [Request.isCall_of_token_none hr] at hsend
    exact hsend.mono (fun _ hs ↦ hs) (fun _ _ ↦ .inl) fun _ _ hs ↦ hs
  · rcases hd with ⟨x, hnewest, hcall, hd, -⟩ | ⟨hs, cause', hunaddressed, rfl⟩
    · exact hnewest.stopped (.token hcall ((Exchange.denies_iff s.now).mpr ⟨d, hd, hcause⟩))
    · cases hcause
      exact hs.stopped (.unaddressed hunaddressed)
  · rcases hd with ⟨x, hnewest, hcall, hd, hnow⟩ | ⟨-, cause, -, rfl⟩
    · obtain ⟨time, answer, hfate⟩ := Exchange.answered_of_delivery hd fun cause hfailed ↦ by
        rw [hfailed] at htoken
        cases htoken
      rw [hnow time answer hfate] at htoken
      have hissues := Exchange.issues_iff.mpr ⟨time, answer, d, hfate, hd, htoken⟩
      exact (hnewest.reads (.token hcall hissues) (ended_of_delivery hd)).quiet
        (s.quiet_tokenKept _)
    · cases htoken

/-- An exchange with the service brings a reply. -/
theorem replied_exchange (hw : ∀ m e, w.interruption? m = some e → allowed m (.error e))
    {c : Client} {m : Method} {url : Url} {body : Option Json} :
    (c.exchange w m url body).Meets (Reads first start stage) (Replied first start stage)
      (Stopped c.tokens first start allowed) := by
  refine Client.exchange_meets (D := Brings first start stage true) (reads_token hw _ _)
    (fun token ↦ brings_send hw (c.request token m url body)) (fun d s e hd he ↦ ?_)
    fun d s reply hd hreply ↦ ?_
  · obtain ⟨x, hnewest, hcall, hd, -⟩ := hd
    exact hnewest.stopped (.exchange hcall (Exchange.fails_iff.mpr ⟨d, hd, he⟩))
  · obtain ⟨x, hnewest, hcall, hd, -⟩ := hd
    exact ⟨x, hnewest, hcall, Exchange.brings_iff.mpr ⟨d, hd, hreply⟩⟩

end Stage
end ResourceManager
