import ResourceManager.Proofs.Submission

/-!
# The course of a long-running call

A long-running call is its submission and, if that is accepted, a wait for the operation.
`Client.Course` lists all that the log can tell of such a call, together with its result and its
reports, and `Client.invoke_course` says that the list is complete.  What later files say about the
results, the failures and the reports of these calls is read off it.

The reply to the submission decides how the operation is followed.  `Reply.Names` is what its header
says about that, and `Client.Follows` the channel that comes of it, for each of the three ways to
follow an operation; both speak of the reply only.  `Poller.following` is the poller that the
program makes of the same reply.

A wait begins when the submission has been answered, and its limit counts from then on.  A limit
that leads past what the clock of deadlines can tell ends the call right there, in front of
everything that the wait would do, its first report included: `Client.Course.untimed`.

## How it is used

`ResourceManager.Proofs.Conclusion` is about calls that end with a payload,
`ResourceManager.Proofs.TerminalFailure` about those that end with the failure of the operation, and
`ResourceManager.Proofs.Reporting` about the reports of both.  Each goes through the six cases once.
The other direction, from a log to the result, begins with `Client.Course.of_names`: a submission
that was accepted leaves open only how the poller of its reply goes on.
-/

set_option autoImplicit false

namespace ResourceManager

/-! ## Kinds of methods -/

namespace Method

/-- The method creates or changes a resource. -/
def Writes (m : Method) : Prop := m = .put ∨ m = .patch

/-- The method neither writes nor deletes. -/
def Acts (m : Method) : Prop := ¬ m.Writes ∧ m ≠ .delete

/-- The program tells these methods by a test of its own. -/
theorem yieldsResource_iff {m : Method} : m.yieldsResource = true ↔ m.Writes := by
  cases m <;> simp [yieldsResource, Writes]

/-- Every method is of one kind. -/
theorem cases_kind (m : Method) : m.Writes ∨ m = .delete ∨ m.Acts := by
  by_cases hwrites : m.Writes
  · exact .inl hwrites
  · by_cases hdelete : m = .delete
    · exact .inr (.inl hdelete)
    · exact .inr (.inr ⟨hwrites, hdelete⟩)

/-- What only acts does not yield a resource. -/
theorem Acts.not_yieldsResource {m : Method} (h : m.Acts) : ¬ m.yieldsResource = true :=
  mt yieldsResource_iff.mp h.1

theorem Writes.ne_delete {m : Method} (h : m.Writes) : m ≠ .delete := by
  rcases h with rfl | rfl
  · exact nofun
  · exact nofun

end Method

/-! ## What the reply to a submission says

The header comes first: an address in it decides on the channel, and the address of the status
before that of the location.  Only without one is the body looked at, and of a deletion not even
that. -/

/-- The addresses that the header of a reply names, of the status and of the location. -/
structure Reply.Names (reply : Reply) (status location : Option Url) : Prop where
  status : reply.headers.Names "azure-asyncoperation" status
  location : reply.headers.Names "location" location

/-- One of the two is no address.  The one of the status is read first. -/
inductive Reply.Misnames (reply : Reply) (cause : UrlError) : Prop
  | status (h : reply.headers.Misnames "azure-asyncoperation" cause)
  | location {status : Option Url} (hstatus : reply.headers.Names "azure-asyncoperation" status)
      (h : reply.headers.Misnames "location" cause)

namespace Client

/-- The address of the resource: that of the submission without the query of the caller. -/
def resourceAt (c : Client) (spec : OperationSpec) : Url :=
  (c.endpoint.setPath spec.path).appendQuery [("api-version", spec.apiVersion)]

/-- The channel at which an operation is followed that `reply` has accepted, if it has not ended
yet.  A deleted resource is not looked after when no address is named. -/
inductive Follows (c : Client) (spec : OperationSpec) (reply : Reply) : Option Channel → Prop
  | status {url : Url} {location : Option Url} (hnames : reply.Names (some url) location) :
      Follows c spec reply (some (.status url))
  | location {url : Url} (hnames : reply.Names none (some url)) :
      Follows c spec reply (some (.location url))
  | resource {word : String} (hnames : reply.Names none none) (hmethod : spec.method ≠ .delete)
      (h : (Report.ofState reply).Runs word) :
      Follows c spec reply (some (.resource (c.resourceAt spec)))
  | nothing (hnames : reply.Names none none)
      (h : spec.method = .delete ∨ ∀ word, ¬ (Report.ofState reply).Runs word) :
      Follows c spec reply none

end Client

variable {c : Client} {o : PollOptions} {spec : OperationSpec} {reply : Reply} {p : Poller}
  {s s₁ s₂ : Session} {status location : Option Url}

namespace Poller

/-- The poller of an operation whose reply names these addresses. -/
def following (c : Client) (spec : OperationSpec) (reply : Reply) (status location : Option Url) :
    Poller :=
  ⟨spec.method, spec.path, c.resourceAt spec, trackingAt spec.method reply.body status location⟩

/-- The program follows an operation by the addresses that the reply names. -/
theorem ofReply_iff :
    ofReply c.endpoint spec reply = .ok p ↔
      ∃ status location, reply.Names status location ∧
        p = following c spec reply status location := by
  rw [ofReply_eq_ok]
  constructor
  · rintro ⟨status, location, hstatus, hlocation, hp⟩
    exact ⟨status, location, ⟨Headers.names_iff.mp hstatus, Headers.names_iff.mp hlocation⟩, hp⟩
  · rintro ⟨status, location, hnames, hp⟩
    exact ⟨status, location, Headers.names_iff.mpr hnames.status,
      Headers.names_iff.mpr hnames.location, hp⟩

/-- If it cannot, an address in the reply is none. -/
theorem misnames_of_ofReply {e : Error} (h : ofReply c.endpoint spec reply = .error e) :
    ∃ cause, e = .url cause ∧ reply.Misnames cause := by
  rw [ofReply] at h
  cases hstatus : addressIn reply.headers statusField with
  | error e' =>
    rw [hstatus] at h
    cases h
    obtain ⟨cause, rfl, hmisnames⟩ := Headers.misnames_iff.mp hstatus
    exact ⟨cause, rfl, .status hmisnames⟩
  | ok status =>
    cases hlocation : addressIn reply.headers locationField with
    | error e' =>
      rw [hstatus, hlocation] at h
      cases h
      obtain ⟨cause, rfl, hmisnames⟩ := Headers.misnames_iff.mp hlocation
      exact ⟨cause, rfl, .location (Headers.names_iff.mp hstatus) hmisnames⟩
    | ok location =>
      rw [hstatus, hlocation] at h
      cases h

/-! ## How the poller of a reply goes on

Where the reply names an address, the poller has a channel.  Where it names none, the poller has one
only if the body says that the operation is running. -/

/-- A deletion without an address is done. -/
theorem tracking_of_delete (hmethod : spec.method = .delete) :
    (following c spec reply none none).tracking = .done none := if_pos hmethod

/-- Any other operation without one goes by the report in the body. -/
theorem tracking_of_ne_delete (c : Client) (reply : Reply) (hmethod : spec.method ≠ .delete) :
    (following c spec reply none none).tracking =
      match (Report.ofState reply).finding with
      | .running _ => .resource
      | .failed failure => .failed failure
      | _ => .done reply.body := by
  show trackingOf spec.method reply.body = _
  rw [trackingOf, if_neg hmethod, Report.progressOf_eq]
  cases (Report.ofState reply).finding <;> rfl

/-- A body that says that the operation is running leads to the resource. -/
theorem channel_of_runs {word : String} (hmethod : spec.method ≠ .delete)
    (h : (Report.ofState reply).Runs word) :
    (following c spec reply none none).channel? = some (.resource (c.resourceAt spec)) := by
  have htracking := tracking_of_ne_delete c reply hmethod
  rw [Report.finding_eq_running.mpr h] at htracking
  rw [channel?, htracking]
  rfl

/-- The channel of the poller is the one that the reply says. -/
theorem follows_of_names (c : Client) (spec : OperationSpec)
    (hnames : reply.Names status location) :
    c.Follows spec reply (following c spec reply status location).channel? := by
  cases status with
  | some url => exact .status hnames
  | none =>
    cases location with
    | some url => exact .location hnames
    | none =>
      by_cases hmethod : spec.method = .delete
      · rw [channel?, tracking_of_delete hmethod]
        exact .nothing hnames (.inl hmethod)
      · have htracking := tracking_of_ne_delete c reply hmethod
        cases hfinding : (Report.ofState reply).finding with
        | running word =>
          have hruns := Report.finding_eq_running.mp hfinding
          rw [channel_of_runs hmethod hruns]
          exact .resource hnames hmethod hruns
        | _ =>
          have hnone (word : String) : ¬ (Report.ofState reply).Runs word := by
            intro hruns
            rw [Report.finding_eq_running.mpr hruns] at hfinding
            cases hfinding
          rw [channel?, htracking, hfinding]
          exact .nothing hnames (.inr hnone)

end Poller

/-! ## The course

There are six courses.  Three end with the submission, one of them because of the clock; in two the
operation has ended by the time it is accepted; and in the last one it is followed. -/

namespace Session

/-- A limit that counts from the answer to an exchange ends when the clock can still tell. -/
def Times (s : Session) (limit : Option Duration) (x : Exchange) : Prop :=
  ∀ time answer, x.fate = .answered time answer →
    ∀ d ∈ limit, (time.add d).nanoseconds ≤ s.horizon.nanoseconds

theorem canTime_iff {limit : Option Duration} :
    s.canTime limit = true ↔
      ∀ d ∈ limit, (s.now.add d).nanoseconds ≤ s.horizon.nanoseconds := by
  rw [canTime]
  cases limit with
  | none => exact iff_of_true rfl nofun
  | some d =>
    rw [Option.all_some, Bool.not_eq_true', Bool.eq_false_iff, Ne, Watch.isBefore_iff, Int.not_lt]
    constructor
    · rintro h _ ⟨⟩
      exact h
    · exact fun h ↦ h d rfl

/-- What the clock can tell is the same for the whole session. -/
theorem steady_horizon (t : Timestamp) : Steady (fun _ ↦ True) fun s ↦ s.horizon = t where
  made _ _ _ _ _ _ _ hs := hs
  advancedTo _ _ hs := hs
  tokenKept _ _ hs := hs

end Session

namespace Client

/-- All that the log can tell of a long-running call from `s` on, together with the final payload or
what has stopped the call, and with the reports. -/
inductive Course (c : Client) (o : PollOptions) (spec : OperationSpec) (s : Session) :
    List Exchange → Except Stop (Option Json) → List ProgressEvent → Prop
  /-- There is no reply to the submission. -/
  | unaccepted {xs : List Exchange} {stop : Stop}
      (htold : Told .none (c.submits spec) xs (.error stop)) : Course c o spec s xs (.error stop) []
  /-- There is one, but an address in it is none. -/
  | misnamed {x : Exchange} {reply : Reply} {cause : UrlError}
      (hx : x.Replies (c.submits spec) reply) (hmisnames : reply.Misnames cause) :
      Course c o spec s [x] (.error (.error (.url cause))) []
  /-- The clock cannot tell when the wait would reach its limit. -/
  | untimed {x : Exchange} {reply : Reply} {status location : Option Url}
      (hx : x.Replies (c.submits spec) reply) (hnames : reply.Names status location)
      (htimes : ¬ s.Times o.policy.timeout x) : Course c o spec s [x] (.error .crashed) []
  /-- The operation has ended already. -/
  | done {x : Exchange} {reply : Reply} {status location : Option Url} {body : Option Json}
      (hx : x.Replies (c.submits spec) reply) (hnames : reply.Names status location)
      (htimes : s.Times o.policy.timeout x)
      (htracking : (Poller.following c spec reply status location).tracking = .done body) :
      Course c o spec s [x] (.ok body)
        (Poller.reportsOf spec.path [] (.ok body : Except Stop (Option Json)))
  /-- It has failed already. -/
  | failed {x : Exchange} {reply : Reply} {status location : Option Url} {f : OperationFailure}
      (hx : x.Replies (c.submits spec) reply) (hnames : reply.Names status location)
      (htimes : s.Times o.policy.timeout x)
      (htracking : (Poller.following c spec reply status location).tracking = .failed f) :
      Course c o spec s [x] (.error (.error (.operationFailed f)))
        (Poller.reportsOf spec.path []
          (.error (.error (.operationFailed f)) : Except Stop (Option Json)))
  /-- It is followed at a channel. -/
  | waited {x : Exchange} {reply : Reply} {status location : Option Url} {ch : Channel} {w : Watch}
      {xs : List Exchange} {words : List String} {result : Except Stop (Option Json)}
      (hx : x.Replies (c.submits spec) reply) (hnames : reply.Names status location)
      (htimes : s.Times o.policy.timeout x)
      (hch : (Poller.following c spec reply status location).channel? = some ch)
      (hwaited : (Poller.following c spec reply status location).Waited w ch xs words result) :
      Course c o spec s (x :: xs) result (Poller.reportsOf spec.path words result)

/-! Where the submission is accepted, its reply decides on the course. -/

/-- A reply names its addresses in one way only. -/
theorem names_eq {status' location' : Option Url} (h : reply.Names status location)
    (h' : reply.Names status' location') : status = status' ∧ location = location' :=
  ⟨Except.ok.inj ((Headers.names_iff.mpr h.status).symm.trans (Headers.names_iff.mpr h'.status)),
    Except.ok.inj
      ((Headers.names_iff.mpr h.location).symm.trans (Headers.names_iff.mpr h'.location))⟩

/-- An address that is none keeps the others from being read. -/
theorem names_of_misnames {cause : UrlError} (h : reply.Names status location) :
    ¬ reply.Misnames cause := by
  intro h'
  cases h' with
  | status h' =>
    cases (Headers.names_iff.mpr h.status).symm.trans (Headers.misnames_iff.mpr ⟨_, rfl, h'⟩)
  | location _ h' =>
    cases (Headers.names_iff.mpr h.location).symm.trans (Headers.misnames_iff.mpr ⟨_, rfl, h'⟩)

/-- What all courses have in common whose submission is accepted, and whose limit the clock can
tell: what is left is how the poller of the reply goes on. -/
theorem Course.of_names {x : Exchange} {xs : List Exchange} {result : Except Stop (Option Json)}
    {reports : List ProgressEvent} (h : c.Course o spec s (x :: xs) result reports)
    (hx : x.Replies (c.submits spec) reply) (hnames : reply.Names status location)
    (htimes : s.Times o.policy.timeout x) :
    xs = [] ∧ (∃ body, (Poller.following c spec reply status location).tracking = .done body ∧
        result = .ok body) ∨
      xs = [] ∧ (∃ f, (Poller.following c spec reply status location).tracking = .failed f ∧
        result = .error (.error (.operationFailed f))) ∨
      ∃ ch w words, (Poller.following c spec reply status location).channel? = some ch ∧
        (Poller.following c spec reply status location).Waited w ch xs words result := by
  cases h with
  | unaccepted htold => exact absurd hx.brings htold.not_brings
  | misnamed hx' hmisnames =>
    obtain rfl := hx.brings.eq hx'.brings
    exact absurd hmisnames (names_of_misnames hnames)
  | untimed _ _ htimes' => exact absurd htimes htimes'
  | done hx' hnames' _ htracking =>
    obtain rfl := hx.brings.eq hx'.brings
    obtain ⟨rfl, rfl⟩ := names_eq hnames hnames'
    exact .inl ⟨rfl, _, htracking, rfl⟩
  | failed hx' hnames' _ htracking =>
    obtain rfl := hx.brings.eq hx'.brings
    obtain ⟨rfl, rfl⟩ := names_eq hnames hnames'
    exact .inr (.inl ⟨rfl, _, htracking, rfl⟩)
  | waited hx' hnames' _ hch hwaited =>
    obtain rfl := hx.brings.eq hx'.brings
    obtain ⟨rfl, rfl⟩ := names_eq hnames hnames'
    exact .inr (.inr ⟨_, _, _, hch, hwaited⟩)

/-- A submission leaves the reports and the clock alone. -/
theorem submit_keeps (c : Client) (spec : OperationSpec) (s : Session) :
    ((c.submit spec).outcome s).2.events = s.events ∧
      ((c.submit spec).outcome s).2.horizon = s.horizon :=
  ⟨((Session.steady_events s.events).exchange (fun _ _ ↦ trivial) fun _ ↦ trivial).session rfl,
    ((Session.steady_horizon s.horizon).exchange (fun _ _ ↦ trivial) fun _ ↦ trivial).session rfl⟩

/-- Where the wait begins, its limit counts from the answer to the submission. -/
theorem canTime_iff_times (s : Session) (limit : Option Duration) {x : Exchange}
    (hbrings : x.Brings reply)
    (hnow : ∀ time answer, x.fate = .answered time answer → s₁.now = time)
    (hhorizon : s₁.horizon = s.horizon) : s₁.canTime limit = true ↔ s.Times limit x := by
  obtain ⟨d, hd, hread⟩ := Exchange.brings_iff.mp hbrings
  obtain ⟨time, answer, hfate⟩ := Exchange.answered_of_delivery hd fun cause hcause ↦ by
    rw [hcause] at hread
    cases hread
  rw [Session.canTime_iff, hnow time answer hfate, hhorizon]
  constructor
  · intro h time' answer' hfate'
    cases hfate.symm.trans hfate'
    exact h
  · exact fun h ↦ h time answer hfate

/-- The wait for an operation that was accepted. -/
theorem wait_course {x : Exchange} (hx : x.Replies (c.submits spec) reply)
    (hnames : reply.Names status location)
    (hclock : s₁.canTime o.policy.timeout = true ↔ s.Times o.policy.timeout x) :
    ∃ xs result reports,
      s₁.Called xs (((Poller.following c spec reply status location).wait c o).outcome s₁).2 ∧
      c.Course o spec s (x :: xs) result reports ∧
      (((Poller.following c spec reply status location).wait c o).outcome s₁).1 = result ∧
      (((Poller.following c spec reply status location).wait c o).outcome s₁).2.events =
        s₁.events ++ o.heard reports := by
  cases htime : s₁.canTime o.policy.timeout with
  | false =>
    rw [Poller.outcome_wait_of_crash htime]
    refine ⟨[], .error .crashed, [], .of_exchanges_eq rfl, ?_, rfl, ?_⟩
    · exact .untimed hx hnames (mt hclock.mpr (by rw [htime]; exact Bool.false_ne_true))
    · rw [PollOptions.heard, ite_self, List.append_nil]
  | true =>
    have htimes := hclock.mp htime
    cases hch : (Poller.following c spec reply status location).channel? with
    | some ch =>
      obtain ⟨xs, words, hcalled, hwaited, hevents⟩ := Poller.wait_tells hch htime c
      exact ⟨xs, _, _, hcalled, .waited hx hnames htimes hch hwaited, rfl, hevents⟩
    | none =>
      have hquiet : ∀ e e', s₁.Called [] ((s₁.noted o e).noted o e') := fun e e' ↦
        .of_exchanges_eq ((Session.exchanges_noted _ o e').trans (s₁.exchanges_noted o e))
      rcases Poller.tracking_of_channel_none hch with ⟨body, htracking⟩ | ⟨f, htracking⟩
      · rw [Poller.outcome_wait_of_done htime htracking]
        exact ⟨[], _, _, hquiet _ _, .done hx hnames htimes htracking, rfl,
          s₁.events_noted_twice o _ _⟩
      · rw [Poller.outcome_wait_of_failed htime htracking]
        exact ⟨[], _, _, hquiet _ _, .failed hx hnames htimes htracking, rfl,
          s₁.events_noted_twice o _ _⟩

/-- **Every long-running call takes its course.** -/
theorem invoke_course (c : Client) (o : PollOptions) (spec : OperationSpec) (s : Session) :
    ∃ xs result reports,
      s.Called xs ((c.invoke o spec.asLongRunning).outcome s).2 ∧
      c.Course o spec s xs result reports ∧
      ((c.invoke o spec.asLongRunning).outcome s).1 = result.map (⟨spec.path, ·⟩) ∧
      ((c.invoke o spec.asLongRunning).outcome s).2.events = s.events ++ o.heard reports := by
  have hinvoke : c.invoke o spec.asLongRunning =
      c.begin spec >>= fun p ↦ p.wait c o >>= fun body ↦ pure ⟨spec.path, body⟩ :=
    if_pos rfl
  obtain ⟨hevents, hhorizon⟩ := submit_keeps c spec s
  obtain ⟨xs, hcalled, htold, hnow⟩ :=
    c.exchange_tells .none spec.method (spec.url c.endpoint) spec.body s
  rw [hinvoke]
  rcases hsubmit : (c.submit spec).outcome s with ⟨stop | reply, s₁⟩
  · have hbegin : (c.begin spec).outcome s = (.error stop, s₁) := Run.outcome_bind_error hsubmit _
    rw [submit] at hsubmit
    rw [hsubmit] at hcalled htold
    rw [submit, hsubmit] at hevents
    rw [Run.outcome_bind_error hbegin]
    exact ⟨xs, _, [], hcalled, .unaccepted htold, rfl, by
      rw [hevents, PollOptions.heard, ite_self, List.append_nil]⟩
  · have hbegin := Run.outcome_bind_ok hsubmit
      fun reply ↦ Run.ofExcept (Poller.ofReply c.endpoint spec reply)
    rw [submit] at hsubmit
    rw [hsubmit] at hcalled htold hnow
    rw [submit, hsubmit] at hevents hhorizon
    cases htold with
    | @replied x _ hasks hbrings =>
      have hx : x.Replies (c.submits spec) reply := ⟨hasks, hbrings⟩
      -- the clock is asked for the end of the wait when the reply has come
      have hclock := canTime_iff_times s o.policy.timeout hbrings
        (hnow x (List.mem_singleton.mpr rfl)).2 hhorizon
      cases hpoller : Poller.ofReply c.endpoint spec reply with
      | error e =>
        rw [hpoller, Run.outcome_ofExcept_error] at hbegin
        obtain ⟨cause, rfl, hmisnames⟩ := Poller.misnames_of_ofReply hpoller
        rw [begin, Run.outcome_bind_error hbegin]
        exact ⟨[x], _, [], hcalled, .misnamed hx hmisnames, rfl, by
          rw [hevents, PollOptions.heard, ite_self, List.append_nil]⟩
      | ok p =>
        rw [hpoller, Run.outcome_ofExcept_ok] at hbegin
        obtain ⟨status, location, hnames, rfl⟩ := Poller.ofReply_iff.mp hpoller
        obtain ⟨ys, result, reports, hwaits, hcourse, hresult, hreports⟩ :=
          wait_course (o := o) hx hnames hclock
        refine ⟨x :: ys, result, reports, ?_, hcourse, ?_, ?_⟩
        · rw [begin, Run.outcome_bind_ok hbegin, Run.session_bind_pure]
          exact hcalled.trans hwaits
        · rw [begin, Run.outcome_bind_ok hbegin, ← hresult]
          exact Run.outcome_fst_bind_pure _ _ _
        · rw [begin, Run.outcome_bind_ok hbegin, Run.session_bind_pure, hreports, hevents]

end Client
end ResourceManager
