import ResourceManager.Proofs.LongRunning

/-!
# How an operation fails

An operation fails when the service says so, in the body at the address of the status or, where the
reply to the submission names no address, in the properties of the resource.  `Report.Fails` says
which words are a failure and how it is put into an error.  `Client.Fails` says of a log that it
tells of such a failure: the submission is accepted, some number of replies say that the operation
is running, and the last one says that it has failed.

`Client.invoke_failed_iff` says that a long-running call ends so if and only if its log tells it,
however the caller waits.  There is one exception, and it is a limit that leads past what the clock
can tell.  It ends every call right behind its submission, and so hides a failure that the reply to
the submission reports: `Client.crash_behind_failure`.
-/

set_option autoImplicit false

namespace ResourceManager

namespace Client

/-- The log of a call tells of an operation that has failed.  Where the reply to the submission
names a location only, or a resource is deleted without an address being named, there is no rule. -/
inductive Fails (c : Client) (spec : OperationSpec) : List Exchange → OperationFailure → Prop
  /-- The status says that it has failed. -/
  | status {x last : Exchange} {xs : List Exchange} {words : List String} {reply report : Reply}
      {statusUrl : Url} {location : Option Url} {f : OperationFailure}
      (hx : x.Replies (c.submits spec) reply) (hnames : reply.Names (some statusUrl) location)
      (hran : (Channel.status statusUrl).Ran xs words)
      (hlast : last.Replies (read statusUrl) report) (h : (Report.ofStatus report).Fails f) :
      Fails c spec (x :: (xs ++ [last])) f
  /-- The reply to the submission is a resource that says so. -/
  | submitted {x : Exchange} {reply : Reply} {f : OperationFailure}
      (hx : x.Replies (c.submits spec) reply) (hnames : reply.Names none none)
      (hmethod : spec.method ≠ .delete) (h : (Report.ofState reply).Fails f) : Fails c spec [x] f
  /-- The reply is a resource that is not ready yet, and which later says so. -/
  | resource {x last : Exchange} {xs : List Exchange} {word : String} {words : List String}
      {reply report : Reply} {f : OperationFailure} (hx : x.Replies (c.submits spec) reply)
      (hnames : reply.Names none none) (hmethod : spec.method ≠ .delete)
      (hrunning : (Report.ofState reply).Runs word)
      (hran : (Channel.resource (c.resourceAt spec)).Ran xs words)
      (hlast : last.Replies (read (c.resourceAt spec)) report)
      (h : (Report.ofState report).Fails f) : Fails c spec (x :: (xs ++ [last])) f

end Client

variable {c : Client} {o : PollOptions} {spec : OperationSpec} {reply : Reply} {s : Session}
  {status location : Option Url} {f : OperationFailure} {x : Exchange} {xs : List Exchange}
  {words : List String} {result : Except Stop (Option Json)} {reports : List ProgressEvent}

/-! ## Failures by the rules -/

namespace Client

/-- The failure at the end of a wait is one that a rule gives. -/
theorem fails_of_waited {ch : Channel} {w : Watch} (hx : x.Replies (c.submits spec) reply)
    (hnames : reply.Names status location)
    (hch : (Poller.following c spec reply status location).channel? = some ch)
    (hwaited : (Poller.following c spec reply status location).Waited w ch xs words
      (.error (.error (.operationFailed f)))) : c.Fails spec (x :: xs) f := by
  obtain ⟨ys, last, report, rfl, hran, hlast, hfailed⟩ := hwaited.of_operationFailed
  have hfollows := Poller.follows_of_names c spec hnames
  rw [hch] at hfollows
  cases hfollows with
  | status hnames' => exact .status hx hnames' hran hlast hfailed
  | location => exact hfailed.elim
  | resource hnames' hmethod hruns => exact .resource hx hnames' hmethod hruns hran hlast hfailed

/-- What failed at once has said so in the reply to the submission. -/
theorem fails_of_tracking (hx : x.Replies (c.submits spec) reply)
    (hnames : reply.Names status location)
    (htracking : (Poller.following c spec reply status location).tracking = .failed f) :
    c.Fails spec [x] f := by
  cases status with
  | some url => cases htracking
  | none =>
    cases location with
    | some url => cases htracking
    | none =>
      by_cases hmethod : spec.method = .delete
      · cases (Poller.tracking_of_delete hmethod).symm.trans htracking
      · rw [Poller.tracking_of_ne_delete c _ hmethod] at htracking
        cases hfinding : (Report.ofState reply).finding with
        | failed failure =>
          rw [hfinding] at htracking
          cases htracking
          exact .submitted hx hnames hmethod (Report.finding_eq_failed.mp hfinding)
        | running word =>
          rw [hfinding] at htracking
          cases htracking
        | ended =>
          rw [hfinding] at htracking
          cases htracking
        | unclear =>
          rw [hfinding] at htracking
          cases htracking

/-- A log that tells of a failure begins with the reply to the submission. -/
theorem Fails.accepted {log : List Exchange} (h : c.Fails spec log f) :
    ∃ x xs reply status location, log = x :: xs ∧ x.Replies (c.submits spec) reply ∧
      reply.Names status location := by
  cases h with
  | status hx hnames => exact ⟨_, _, _, _, _, rfl, hx, hnames⟩
  | submitted hx hnames => exact ⟨_, _, _, _, _, rfl, hx, hnames⟩
  | resource hx hnames => exact ⟨_, _, _, _, _, rfl, hx, hnames⟩

/-- Where the operation is followed, the rule that gives a failure goes along the rounds of the
wait. -/
theorem Fails.of_following {ch : Channel} (h : c.Fails spec (x :: xs) f)
    (hx : x.Replies (c.submits spec) reply) (hnames : reply.Names status location)
    (hch : (Poller.following c spec reply status location).channel? = some ch) :
    ∃ ys words last report, xs = ys ++ [last] ∧ ch.Ran ys words ∧ last.Brings report ∧
      ch.failed report f := by
  cases h with
  | status hx' hnames' hran hlast hfails =>
    obtain rfl := hx.brings.eq hx'.brings
    obtain ⟨rfl, rfl⟩ := names_eq hnames hnames'
    cases hch
    exact ⟨_, _, _, _, rfl, hran, hlast.brings, hfails⟩
  | submitted hx' hnames' hmethod hfails =>
    obtain rfl := hx.brings.eq hx'.brings
    obtain ⟨rfl, rfl⟩ := names_eq hnames hnames'
    rw [Poller.channel?, Poller.tracking_of_ne_delete c _ hmethod,
      Report.finding_eq_failed.mpr hfails] at hch
    cases hch
  | resource hx' hnames' hmethod hruns hran hlast hfails =>
    obtain rfl := hx.brings.eq hx'.brings
    obtain ⟨rfl, rfl⟩ := names_eq hnames hnames'
    rw [Poller.channel_of_runs hmethod hruns] at hch
    cases hch
    exact ⟨_, _, _, _, rfl, hran, hlast.brings, hfails⟩

/-- An operation that has not ended in the reply to the submission has not failed there. -/
theorem Fails.tracking_eq (h : c.Fails spec [x] f) (hx : x.Replies (c.submits spec) reply)
    (hnames : reply.Names status location) :
    (Poller.following c spec reply status location).tracking = .failed f := by
  generalize hlog : [x] = log at h
  cases h with
  | @status y last ys =>
    have hlength := congrArg List.length hlog
    simp at hlength
  | submitted hx' hnames' hmethod hfails =>
    cases hlog
    obtain rfl := hx.brings.eq hx'.brings
    obtain ⟨rfl, rfl⟩ := names_eq hnames hnames'
    rw [Poller.tracking_of_ne_delete c _ hmethod, Report.finding_eq_failed.mpr hfails]
  | @resource y last ys =>
    have hlength := congrArg List.length hlog
    simp at hlength

/-! ## Calls -/

/-- A course that ends with a failure has the log for it, and the limit is one that the clock can
tell. -/
theorem Course.fails (h : c.Course o spec s xs (.error (.error (.operationFailed f))) reports) :
    c.Fails spec xs f ∧ ∀ x ∈ xs.head?, s.Times o.policy.timeout x := by
  cases h with
  | unaccepted htold => exact absurd rfl htold.ne_operationFailed
  | failed hx hnames htimes htracking =>
    refine ⟨fails_of_tracking hx hnames htracking, ?_⟩
    rintro _ ⟨⟩
    exact htimes
  | waited hx hnames htimes hch hwaited =>
    refine ⟨fails_of_waited hx hnames hch hwaited, ?_⟩
    rintro _ ⟨⟩
    exact htimes

/-- The other way round, there is no other course with such a log. -/
theorem Course.eq_operationFailed (h : c.Course o spec s xs result reports)
    (hfails : c.Fails spec xs f) (htimes : ∀ x ∈ xs.head?, s.Times o.policy.timeout x) :
    result = .error (.error (.operationFailed f)) := by
  obtain ⟨y, ys, reply, status, location, rfl, hy, hnames⟩ := hfails.accepted
  rcases h.of_names hy hnames (htimes y rfl) with
    ⟨rfl, _, htracking, rfl⟩ | ⟨rfl, _, htracking, rfl⟩ | ⟨_, _, _, hch, hwaited⟩
  · cases (hfails.tracking_eq hy hnames).symm.trans htracking
  · cases (hfails.tracking_eq hy hnames).symm.trans htracking
    rfl
  · obtain ⟨zs, words', last, report, rfl, hran, hlast, hfailed⟩ :=
      hfails.of_following hy hnames hch
    exact hwaited.eq_operationFailed (Poller.finds_of_channel hch) rfl hran hlast hfailed

/-- **An operation fails when the service says so.**  A long-running call ends with a failure if and
only if its log tells of it: the submission was accepted, where the operation is followed replies
have said as often as may be that it is running, and the last reply says that it has failed or was
canceled.  There is nothing behind that reply.  It is taken for granted that the clock can tell when
the limit of the wait is reached. -/
theorem invoke_failed_iff (c : Client) (o : PollOptions) (spec : OperationSpec) (s : Session)
    (f : OperationFailure) :
    ((c.invoke o spec.asLongRunning).outcome s).1 = .error (.error (.operationFailed f)) ↔
      c.Fails spec (s.callsSince ((c.invoke o spec.asLongRunning).outcome s).2) f ∧
        ∀ x ∈ (s.callsSince ((c.invoke o spec.asLongRunning).outcome s).2).head?,
          s.Times o.policy.timeout x := by
  obtain ⟨xs, result, reports, hcalled, hcourse, hresult, -⟩ := c.invoke_course o spec s
  rw [hresult, hcalled.eq]
  constructor
  · intro h
    cases result with
    | ok body => cases h
    | error stop =>
      cases h
      exact hcourse.fails
  · rintro ⟨hfails, htimes⟩
    rw [hcourse.eq_operationFailed hfails htimes]
    rfl

end Client

/-- The reply of a resource whose creation has failed. -/
def Response.failedState : Response :=
  ⟨200, [], Utf8.encode "\x7b\"properties\":\x7b\"provisioningState\":\"Failed\"\x7d\x7d".toList⟩

/-- A limit that leads past what the clock can tell hides a failure that the service has reported.
The same call without a limit hands it on. -/
theorem Client.crash_behind_failure :
    let call limit := (Client.ofToken.invoke (.ofPolicy ⟨.ofSeconds 1, limit⟩)
      (OperationSpec.new .put "/p" "1").asLongRunning).outcome
        (.start ⟨0⟩ [.after (.ofSeconds 1) (.response .failedState)])
    let unlimited := call none
    let limited := call (some (.ofSeconds 9223372036854775807))
    (unlimited.1 matches .error (.error (.operationFailed ⟨"Failed", _, _⟩))) ∧
      (limited.1 matches .error .crashed) ∧ limited.2.requests.length = 1 := by
  decide +kernel

end ResourceManager
