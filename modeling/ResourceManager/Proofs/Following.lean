import ResourceManager.Proofs.Replies
import ResourceManager.Proofs.Rounds
import ResourceManager.Proofs.StatusReports

/-!
# Following an operation

While an operation is followed, one address is asked again and again, and its replies say how far
the operation has got.  `Channel` says what they mean, in terms of the status and of the members of
the body: that the operation is running, that it has succeeded, how it has failed, or nothing at
all.

* `Poller.poll_eq` takes a poll apart into the reply of its channel and what is made of that:
  `Poller.finding` is what the reply says, and `Poller.finds_of_channel` that this is what it means
  by the channel, so that a reply has one meaning only.
* `Channel.Ran` are exchanges that have found the operation running, in some words.  `Poller.Looked`
  is what the log tells of the look behind them.
* `Poller.wait_tells` puts both together to what the log tells of a whole wait, whatever it is ended
  by.  The rounds of the wait are those of `Poller.wait_rounds`; only the log is new here.

## Why the log

A statement about a wait that begins from the replies the program has seen is true of a program that
sees nothing.  So the statements here begin from the log, which has the responses as they came over
the network.  `Exchange.Brings` says what reply a response is, and `Channel` what a reply says; the
program's own functions occur in neither.

The last part turns the direction around.  `Poller.Waited` says what log a wait with a given result
has; `Poller.Waited.eq_ok` and `Poller.Waited.eq_operationFailed` say what result a wait with a
given log has.  Both directions are needed for a specification that is an equivalence, and the
second rests on `Poller.Waited.split`: a log is cut into rounds and a last look in one way only.
-/

set_option autoImplicit false

namespace ResourceManager

/-! ## Channels

There are three ways to follow an operation, and they differ in where a reply says how it is getting
on.  At an address of the status a reply has to say something; a location speaks by the status code
of its replies alone; a resource need not say anything. -/

/-- Where an operation is followed, and what the replies there say about it. -/
structure Channel where
  url : Url
  /-- The operation is still running, which is put in a word. -/
  running : Reply → String → Prop
  /-- The operation has succeeded. -/
  ended : Reply → Prop
  /-- The operation has failed or was canceled. -/
  failed : Reply → OperationFailure → Prop
  /-- There is no telling. -/
  unclear : Reply → Prop

namespace Channel

/-- The body has the status. -/
def status (url : Url) : Channel where
  url := url
  running reply := (Report.ofStatus reply).Runs
  ended reply := (Report.ofStatus reply).Succeeds
  failed reply := (Report.ofStatus reply).Fails
  unclear reply := (Report.ofStatus reply).word = none

/-- The reply is "accepted" as long as the operation is running.  Any other success is its end. -/
def location (url : Url) : Channel where
  url := url
  running reply word := reply.status = 202 ∧ word = "InProgress"
  ended reply := reply.status ≠ 202
  failed _ _ := False
  unclear _ := False

/-- The resource says how it is getting on; when it says nothing, it is done. -/
def resource (url : Url) : Channel where
  url := url
  running reply := (Report.ofState reply).Runs
  ended reply := (Report.ofState reply).word = none ∨ (Report.ofState reply).Succeeds
  failed reply := (Report.ofState reply).Fails
  unclear _ := False

/-- What a function finds in replies is what they mean by the channel. -/
structure Finds (ch : Channel) (find : Reply → Finding) : Prop where
  running : ∀ {reply word}, find reply = .running word ↔ ch.running reply word
  ended : ∀ {reply}, find reply = .ended ↔ ch.ended reply
  failed : ∀ {reply f}, find reply = .failed f ↔ ch.failed reply f
  unclear : ∀ {reply}, find reply = .unclear ↔ ch.unclear reply

/-- At an address of the status, what is found is the report in the body. -/
theorem status_finds (url : Url) :
    (status url).Finds fun reply ↦ (Report.ofStatus reply).finding :=
  ⟨Report.finding_eq_running, Report.finding_eq_ended, Report.finding_eq_failed,
    Report.finding_eq_unclear⟩

/-- At a location, what is found goes by the code and never is a failure. -/
theorem location_finds (url : Url) : (location url).Finds fun reply ↦
    if reply.status = 202 then .running "InProgress" else .ended := by
  refine ⟨fun {reply word} ↦ ?_, fun {reply} ↦ ?_, fun {reply f} ↦ ?_, fun {reply} ↦ ?_⟩
  all_goals
    by_cases hstatus : reply.status = 202
    · simp [location, hstatus, eq_comm]
    · simp [location, hstatus]

/-- At a resource, what says nothing counts as the end. -/
theorem resource_finds (url : Url) : (resource url).Finds fun reply ↦
    match (Report.ofState reply).finding with
    | .unclear => .ended
    | finding => finding := by
  refine ⟨fun {reply word} ↦ ?_, fun {reply} ↦ ?_, fun {reply f} ↦ ?_, fun {reply} ↦ ?_⟩
  · show _ ↔ (Report.ofState reply).Runs word
    rw [← Report.finding_eq_running]
    cases (Report.ofState reply).finding <;> simp
  · show _ ↔ (Report.ofState reply).word = none ∨ (Report.ofState reply).Succeeds
    rw [← Report.finding_eq_unclear, ← Report.finding_eq_ended]
    cases (Report.ofState reply).finding <;> simp
  · show _ ↔ (Report.ofState reply).Fails f
    rw [← Report.finding_eq_failed]
    cases (Report.ofState reply).finding <;> simp
  · show _ ↔ False
    cases (Report.ofState reply).finding <;> simp

end Channel

/-! ## Polls

The three ways to poll are three functions of the program, each with a read of the result where it
needs one.  Here they are brought to one form: the channel is asked, its reply is judged, and what
is left to do depends on the verdict and on nothing else.  All later proofs are about that form. -/

/-- Where the result of an operation is had from: it is there, or it is at an address. -/
inductive Whereabouts where
  | here (body : Option Json)
  | at (url : Url)

variable {c : Client} {o : PollOptions} {w : Watch} {p : Poller} {s s₁ s₂ : Session}

namespace Poller

/-- The channel of an operation that has not ended. -/
def channel? (p : Poller) : Option Channel :=
  match p.tracking with
  | .statusAt url _ => some (.status url)
  | .location url => some (.location url)
  | .resource => some (.resource p.resourceUrl)
  | .done _ | .failed _ => none

/-- What a reply of the channel says. -/
def finding (p : Poller) (reply : Reply) : Finding :=
  match p.tracking with
  | .statusAt .. => (Report.ofStatus reply).finding
  | .location _ => if reply.status = HttpStatus.accepted then .running acceptedWord else .ended
  | _ =>
    match (Report.ofState reply).finding with
    | .unclear => .ended
    | finding => finding

/-- Where the result is, once a reply has said that the operation has succeeded.  A deleted resource
leaves nothing behind. -/
def whereabouts (p : Poller) (last : Reply) : Whereabouts :=
  if p.method = .delete then .here none
  else
    match p.tracking with
    | .statusAt _ resultUrl =>
      if p.method.yieldsResource then .at p.resourceUrl
      else
        match resultUrl with
        | some url => .at url
        | none => .here (outputOf last.body)
    | .location _ => if p.method.yieldsResource then .at p.resourceUrl else .here last.body
    | _ => .here last.body

/-- Gets the result from where it is. -/
def retrieve (c : Client) (w : Watch) : Whereabouts → Run (Option Json)
  | .here body => return body
  | .at url => bodyAt c w url

/-- What a poll makes of the reply of its channel. -/
def judge (c : Client) (w : Watch) (p : Poller) (reply : Reply) : Run Progress :=
  match p.finding reply with
  | .running word => return .pending word
  | .ended => do return .done (← retrieve c w (p.whereabouts reply))
  | .failed failure => return .failed failure
  | .unclear => throw (.error (.invalidResponse .missingStatus))

/-- A deleted resource is nowhere to be read, so what is noted of it at last is what was found.  The
program drops the body of a deletion behind the read, and `whereabouts` does not read at all; that
comes to the same, because a deletion does not read here either. -/
theorem result_finished {url : Url} {resultUrl : Option Url}
    (htracking : p.tracking = .statusAt url resultUrl) (reply : Reply) :
    (do return p.finished (← p.result c w resultUrl reply.body) : Run Progress) =
      do return .done (← retrieve c w (p.whereabouts reply)) := by
  by_cases hdelete : p.method = .delete
  · have hyields : ¬ p.method.yieldsResource = true := by
      rw [hdelete]
      exact Bool.false_ne_true
    rw [result.eq_def, if_neg hyields, if_pos hdelete, whereabouts, if_pos hdelete, retrieve,
      pure_bind, pure_bind, finished, if_pos hdelete]
  · have hfinished : p.finished = .done := funext fun body ↦ by rw [finished, if_neg hdelete]
    rw [hfinished, whereabouts, if_neg hdelete, htracking, result.eq_def, if_neg hdelete]
    by_cases hyields : p.method.yieldsResource = true
    · simp only [if_pos hyields, retrieve]
    · simp only [if_neg hyields]
      cases resultUrl <;> rfl

/-- At a location, the program decides by the code and then by the method. -/
theorem judgeLocation_eq {url : Url} (htracking : p.tracking = .location url) (reply : Reply) :
    (if reply.status = HttpStatus.accepted then return .pending acceptedWord
      else if p.method.yieldsResource then do return p.finished (← bodyAt c w p.resourceUrl)
      else return p.finished reply.body : Run Progress) = p.judge c w reply := by
  rw [judge, finding, whereabouts, htracking]
  by_cases hstatus : reply.status = HttpStatus.accepted
  · simp only [if_pos hstatus]
  · simp only [if_neg hstatus]
    by_cases hdelete : p.method = .delete
    · have hyields : ¬ p.method.yieldsResource = true := by
        rw [hdelete]
        exact Bool.false_ne_true
      rw [if_neg hyields, if_pos hdelete, finished, if_pos hdelete, retrieve, pure_bind]
    · have hfinished : p.finished = .done := funext fun body ↦ by rw [finished, if_neg hdelete]
      rw [if_neg hdelete, hfinished]
      by_cases hyields : p.method.yieldsResource = true
      · rw [if_pos hyields, if_pos hyields, retrieve]
      · rw [if_neg hyields, if_neg hyields, retrieve, pure_bind]

/-- At a resource, the reply that says how it is getting on is itself the result. -/
theorem judgeResource_eq (htracking : p.tracking = .resource) (reply : Reply) :
    (match progressOf reply.body with
      | .done body => return p.finished body
      | progress => return progress : Run Progress) = p.judge c w reply := by
  rw [judge, finding, whereabouts, htracking, Report.progressOf_eq]
  cases (Report.ofState reply).finding with
  | running word => rfl
  | failed failure => rfl
  | ended =>
    by_cases hdelete : p.method = .delete
    · simp only [finished, if_pos hdelete, retrieve, pure_bind]
    · simp only [finished, if_neg hdelete, retrieve, pure_bind]
  | unclear =>
    by_cases hdelete : p.method = .delete
    · simp only [finished, if_pos hdelete, retrieve, pure_bind]
    · simp only [finished, if_neg hdelete, retrieve, pure_bind]

section Channel

variable {ch : Channel} (hch : p.channel? = some ch)

include hch

/-- A poll asks its channel and judges the reply. -/
theorem poll_eq (c : Client) (w : Watch) : p.poll c w = c.getUrl w ch.url >>= p.judge c w := by
  rw [channel?] at hch
  split at hch
  · rename_i url resultUrl htracking
    cases hch
    rw [poll, htracking]
    show pollStatus c w p url resultUrl = _
    rw [pollStatus, bodyAt, bind_assoc]
    refine bind_congr fun reply ↦ (pure_bind _ _).trans ?_
    rw [judge, ← result_finished htracking, finding, htracking]
    simp only [Report.finding, Report.word_ofStatus]
    rcases (statusWord? reply.body).map OperationStatus.parse with _ | (word | _ | _ | _) <;> rfl
  · rename_i url htracking
    cases hch
    rw [poll, htracking]
    exact bind_congr fun reply ↦ judgeLocation_eq htracking reply
  · rename_i htracking
    cases hch
    rw [poll, htracking]
    show pollResource c w p = _
    rw [pollResource, bodyAt, bind_assoc]
    exact bind_congr fun reply ↦ (pure_bind _ _).trans (judgeResource_eq htracking reply)
  · cases hch
  · cases hch

/-- What a poll finds in a reply is what the reply means. -/
theorem finds_of_channel : ch.Finds p.finding := by
  rw [channel?] at hch
  split at hch
  · rename_i htracking
    cases hch
    have hfinding : p.finding = fun reply ↦ (Report.ofStatus reply).finding := by
      funext reply
      rw [finding, htracking]
    exact hfinding ▸ Channel.status_finds _
  · rename_i htracking
    cases hch
    have hfinding : p.finding = fun reply ↦
        if reply.status = 202 then .running "InProgress" else .ended := by
      funext reply
      rw [finding, htracking]
      rfl
    exact hfinding ▸ Channel.location_finds _
  · rename_i htracking
    cases hch
    have hfinding : p.finding = fun reply ↦
        match (Report.ofState reply).finding with
        | .unclear => .ended
        | finding => finding := by
      funext reply
      rw [finding, htracking]
    exact hfinding ▸ Channel.resource_finds _
  · cases hch
  · cases hch

/-- An operation with a channel has not ended, so a look at it sleeps first. -/
theorem isDone_of_channel : p.isDone = false := by
  rw [channel?] at hch
  rw [isDone]
  split at hch
  · rename_i htracking
    rw [htracking]
  · rename_i htracking
    rw [htracking]
  · rename_i htracking
    rw [htracking]
  · cases hch
  · cases hch

end Channel

/-- An operation without a channel has ended. -/
theorem tracking_of_channel_none (hch : p.channel? = none) :
    (∃ body, p.tracking = .done body) ∨ ∃ failure, p.tracking = .failed failure := by
  rw [channel?] at hch
  split at hch
  · cases hch
  · cases hch
  · cases hch
  · rename_i body htracking
    exact .inl ⟨body, htracking⟩
  · rename_i failure htracking
    exact .inr ⟨failure, htracking⟩

end Poller

/-! ## What the log tells of looks

A look makes at most two calls: one to the channel, and one for the result behind a reply that says
that the operation has succeeded.  Each may stop for reasons of its own (`Told`), and all the ways
in which a look can go are the constructors of `Poller.Looked`. -/

/-- What a submission asks of the service. -/
def Client.submits (c : Client) (spec : OperationSpec) : Method × Url × Option Payload :=
  (spec.method, spec.url c.endpoint, spec.body.map .json)

/-- A read without a body. -/
def Client.read (url : Url) : Method × Url × Option Payload := (.get, url, none)

/-- The exchange is a request that asks this, and it has brought this reply. -/
structure Exchange.Replies (x : Exchange) (asks : Method × Url × Option Payload) (reply : Reply) :
    Prop where
  asks : x.request.asks = asks
  brings : x.Brings reply

/-- Exchanges that have found an operation running, in these words. -/
inductive Channel.Ran (ch : Channel) : List Exchange → List String → Prop
  | never : Ran ch [] []
  | again {x : Exchange} {xs : List Exchange} {reply : Reply} {word : String}
      {words : List String} (hx : x.Replies (Client.read ch.url) reply)
      (h : ch.running reply word) (hrest : Ran ch xs words) : Ran ch (x :: xs) (word :: words)

/-- The result that a reply promises has been had, by these exchanges behind it. -/
inductive Poller.Retrieved (p : Poller) (last : Reply) : List Exchange → Option Json → Prop
  | here {body : Option Json} (h : p.whereabouts last = .here body) : Retrieved p last [] body
  | read {url : Url} {x : Exchange} {final : Reply} (h : p.whereabouts last = .at url)
      (hx : x.Replies (Client.read url) final) : Retrieved p last [x] final.body

/-- All that the log can tell of one look at a channel, together with what it has shown. -/
inductive Poller.Looked (w : Watch) (p : Poller) (ch : Channel) :
    List Exchange → Except Stop Progress → Prop
  | stopped {xs : List Exchange} {stop : Stop}
      (h : Told w (Client.read ch.url) xs (.error stop)) : Looked w p ch xs (.error stop)
  | running {x : Exchange} {reply : Reply} {word : String}
      (hx : x.Replies (Client.read ch.url) reply) (h : ch.running reply word) :
      Looked w p ch [x] (.ok (.pending word))
  | failed {x : Exchange} {reply : Reply} {f : OperationFailure}
      (hx : x.Replies (Client.read ch.url) reply) (h : ch.failed reply f) :
      Looked w p ch [x] (.ok (.failed f))
  | unclear {x : Exchange} {reply : Reply} (hx : x.Replies (Client.read ch.url) reply)
      (h : ch.unclear reply) :
      Looked w p ch [x] (.error (.error (.invalidResponse .missingStatus)))
  | ended {x : Exchange} {reply : Reply} {ys : List Exchange} {body : Option Json}
      (hx : x.Replies (Client.read ch.url) reply) (h : ch.ended reply)
      (hbody : p.Retrieved reply ys body) : Looked w p ch (x :: ys) (.ok (.done body))
  /-- The operation has succeeded, but its result could not be read. -/
  | unread {x : Exchange} {reply : Reply} {url : Url} {ys : List Exchange} {stop : Stop}
      (hx : x.Replies (Client.read ch.url) reply) (h : ch.ended reply)
      (hurl : p.whereabouts reply = .at url)
      (hread : Told w (Client.read url) ys (.error stop)) : Looked w p ch (x :: ys) (.error stop)

namespace Poller

variable {ch : Channel}

/-- What the log tells of the read of a result. -/
inductive Fetched (w : Watch) (p : Poller) (last : Reply) :
    List Exchange → Except Stop (Option Json) → Prop
  | found {ys : List Exchange} {body : Option Json} (h : p.Retrieved last ys body) :
      Fetched w p last ys (.ok body)
  | unread {ys : List Exchange} {url : Url} {stop : Stop} (hurl : p.whereabouts last = .at url)
      (hread : Told w (Client.read url) ys (.error stop)) : Fetched w p last ys (.error stop)

theorem retrieve_tells (c : Client) (w : Watch) (p : Poller) (last : Reply) (s : Session) :
    ∃ ys, s.Called ys ((retrieve c w (p.whereabouts last)).outcome s).2 ∧
      p.Fetched w last ys ((retrieve c w (p.whereabouts last)).outcome s).1 := by
  cases hwhere : p.whereabouts last with
  | here body => exact ⟨[], .of_exchanges_eq rfl, .found (.here hwhere)⟩
  | «at» url =>
    obtain ⟨ys, hcalled, htold, -⟩ := c.exchange_tells w .get url none s
    show ∃ ys, s.Called ys ((c.getUrl w url >>= fun reply ↦ pure reply.body).outcome s).2 ∧
      p.Fetched w last ys ((c.getUrl w url >>= fun reply ↦ pure reply.body).outcome s).1
    rw [Run.session_bind_pure]
    refine ⟨ys, hcalled, ?_⟩
    rcases hget : (c.getUrl w url).outcome s with ⟨stop | final, s₁⟩
    · rw [Run.outcome_bind_error hget]
      rw [Client.getUrl] at hget
      rw [hget] at htold
      exact .unread hwhere htold
    · rw [Run.outcome_bind_ok hget]
      rw [Client.getUrl] at hget
      rw [hget] at htold
      cases htold with
      | replied hasks hbrings => exact .found (.read hwhere ⟨hasks, hbrings⟩)

/-- A reply shows what it means by the channel, and what is read behind it. -/
theorem judge_tells (hch : p.channel? = some ch) {x : Exchange} {reply : Reply}
    (hx : x.Replies (Client.read ch.url) reply) (w : Watch) (s : Session) :
    ∃ ys, s.Called ys ((p.judge c w reply).outcome s).2 ∧
      p.Looked w ch (x :: ys) ((p.judge c w reply).outcome s).1 := by
  have hfinds := finds_of_channel hch
  have hsame : s.Called [] s := .of_exchanges_eq rfl
  rw [judge]
  cases hfinding : p.finding reply with
  | running word => exact ⟨[], hsame, .running hx (hfinds.running.mp hfinding)⟩
  | failed f => exact ⟨[], hsame, .failed hx (hfinds.failed.mp hfinding)⟩
  | unclear => exact ⟨[], hsame, .unclear hx (hfinds.unclear.mp hfinding)⟩
  | ended =>
    have hended := hfinds.ended.mp hfinding
    obtain ⟨ys, hcalled, hfetched⟩ := retrieve_tells c w p reply s
    refine ⟨ys, ?_, ?_⟩
    · simp only
      rw [Run.session_bind_pure]
      exact hcalled
    · rcases hget : (retrieve c w (p.whereabouts reply)).outcome s with ⟨stop | body, s₁⟩
      · simp only [Run.outcome_bind_error hget]
        rw [hget] at hfetched
        cases hfetched with
        | unread hurl hread => exact .unread hx hended hurl hread
      · simp only [Run.outcome_bind_ok hget]
        rw [hget] at hfetched
        cases hfetched with
        | found hbody => exact .ended hx hended hbody

/-- A poll shows what the log tells of it. -/
theorem poll_tells (hch : p.channel? = some ch) (w : Watch) (s : Session) :
    ∃ xs, s.Called xs ((p.poll c w).outcome s).2 ∧
      p.Looked w ch xs ((p.poll c w).outcome s).1 := by
  rw [poll_eq hch]
  obtain ⟨xs, hcalled, htold, -⟩ := c.exchange_tells w .get ch.url none s
  rcases hget : (c.getUrl w ch.url).outcome s with ⟨stop | reply, s₁⟩
  · rw [Run.outcome_bind_error hget]
    rw [Client.getUrl] at hget
    rw [hget] at hcalled htold
    exact ⟨xs, hcalled, .stopped htold⟩
  · rw [Run.outcome_bind_ok hget]
    rw [Client.getUrl] at hget
    rw [hget] at hcalled htold
    cases htold with
    | replied hasks hbrings =>
      obtain ⟨ys, hcalled', hlooked⟩ := judge_tells (c := c) hch ⟨hasks, hbrings⟩ w s₁
      exact ⟨_, hcalled.trans hcalled', hlooked⟩

/-- So does a look.  Only the sleep is before it, and that makes no request. -/
theorem look_tells (hch : p.channel? = some ch) (o : PollOptions) (w : Watch) (s : Session) :
    ∃ xs, s.Called xs ((p.look c o w).outcome s).2 ∧
      p.Looked w ch xs ((p.look c o w).outcome s).1 := by
  rw [look, if_neg (by rw [isDone_of_channel hch]; exact Bool.false_ne_true),
    Run.outcome_bind_ok (Run.outcome_get s)]
  have hsleep := w.sleeping (some (s.now.add o.policy.interval)) s
  rcases ho : (w.sleep (some (s.now.add o.policy.interval))).outcome s with ⟨stop | a, s₁⟩
  · rw [Run.outcome_bind_error ho]
    rw [ho] at hsleep
    cases hsleep with
    | calledOff hpass he =>
      exact ⟨[], .of_exchanges_eq hpass.exchanges_eq, .stopped (.unasked (.inr (.calledOff he)))⟩
    | forever hwake => cases hwake
  · rw [Run.outcome_bind_ok ho]
    rw [ho] at hsleep
    have hsame : s₁.exchanges = s.exchanges := by
      cases hsleep with
      | awake _ hpass => exact hpass.exchanges_eq
    obtain ⟨xs, hcalled, hlooked⟩ := poll_tells (c := c) hch w s₁
    exact ⟨xs, hcalled.of_eq_left hsame, hlooked⟩

/-! ## What the log tells of waits -/

/-- The rounds of a wait are the exchanges that have found the operation running. -/
theorem Running.tells {words : List String} (hch : p.channel? = some ch)
    (h : Running c o w p words s s₁) : ∃ xs, s.Called xs s₁ ∧ ch.Ran xs words := by
  induction h with
  | begun => exact ⟨[], .of_exchanges_eq rfl, .never⟩
  | @again word words s s₁ s₂ hlook _ ih =>
    obtain ⟨xs, hcalled, hlooked⟩ := look_tells (c := c) hch o w s
    rw [hlook] at hcalled hlooked
    obtain ⟨ys, hcalled', hran⟩ := ih
    cases hlooked with
    | running hx hrunning =>
      exact ⟨_, hcalled.trans (hcalled'.of_eq_left (s₁.exchanges_noted o _)),
        .again hx hrunning hran⟩

/-- All that the log can tell of a wait at a channel, with the words in which the operation was
found running and the result of the wait: rounds, and one look more. -/
inductive Waited (w : Watch) (p : Poller) (ch : Channel) :
    List Exchange → List String → Except Stop (Option Json) → Prop
  | rounds {xs ys : List Exchange} {words : List String} {shown : Except Stop Progress}
      {result : Except Stop (Option Json)} (hran : ch.Ran xs words)
      (hlooked : p.Looked w ch ys shown) (hverdict : verdict? shown = some result) :
      Waited w p ch (xs ++ ys) words result

theorem exchanges_ending (path : String) (outcome : Except Stop (Option Json) × Session) :
    (ending o path outcome).2.exchanges = outcome.2.exchanges := by
  rcases outcome with ⟨(e | _ | _) | body, s⟩
  · exact s.exchanges_noted o _
  · rfl
  · rfl
  · exact s.exchanges_noted o _

/-- **A wait comes to what the log tells of it**, and its reports have the words of the log. -/
theorem wait_tells (hch : p.channel? = some ch) (hclock : s.canTime o.policy.timeout = true)
    (c : Client) :
    ∃ xs words, s.Called xs ((p.wait c o).outcome s).2 ∧
      p.Waited (.start o.signal o.policy.timeout s.now) ch xs words ((p.wait c o).outcome s).1 ∧
      ((p.wait c o).outcome s).2.events =
        s.events ++ o.heard (reportsOf p.path words ((p.wait c o).outcome s).1) := by
  obtain ⟨words, s₁, result, hrunning, hverdict, hwait, hevents⟩ := wait_rounds hclock c p
  obtain ⟨xs, hcalled, hran⟩ := hrunning.tells hch
  obtain ⟨ys, hcalled', hlooked⟩ := look_tells (c := c) hch o
    (.start o.signal o.policy.timeout s.now) s₁
  have hresult : ((p.wait c o).outcome s).1 = result := by rw [hwait, ending_fst]
  rw [hresult]
  refine ⟨xs ++ ys, words, ?_, .rounds hran hlooked hverdict, hevents⟩
  rw [hwait]
  exact ((hcalled.of_eq_left (s.exchanges_noted o _)).trans hcalled').of_eq_right
    (exchanges_ending _ _)

end Poller

/-! ## One log, one end

From here on, the log is given and the result is asked for.  A reply of a channel has one meaning,
since it has one finding; so a log that tells of a failure, or of success and a result, is the log
of no wait but one that ended so. -/

section

variable {ch : Channel} {find : Reply → Finding} {x : Exchange} {xs ys zs : List Exchange}
  {reply : Reply} {word : String} {words words' : List String} {shown : Except Stop Progress}
  {result : Except Stop (Option Json)} {body body' : Option Json} {f : OperationFailure}
  {asks : Method × Url × Option Payload} {stop : Stop}

/-- A request with a reply has not stopped the run. -/
theorem Told.not_brings (h : Told w asks (x :: ys) (.error stop)) : ¬ x.Brings reply := by
  intro hx
  cases h with
  | unanswered _ hnone => exact hx.delivery_ne_none hnone
  | failed _ hfails => exact hx.not_fails hfails

/-- Nothing that keeps a request from its reply is a failure of the operation. -/
theorem Told.ne_operationFailed (h : Told w asks xs (.error stop)) :
    stop ≠ .error (.operationFailed f) := by
  have hhalts : w.Halts stop → stop ≠ .error (.operationFailed f) := by
    rintro (he | _) ⟨⟩
    rcases Watch.interruption?_cases he with h | ⟨limit, h⟩
    · cases h
    · cases h
  cases h with
  | unasked h =>
    rcases h with ⟨cause, rfl⟩ | h
    · exact nofun
    · exact hhalts h
  | unanswered _ _ h => exact hhalts h
  | failed _ hfails =>
    rintro ⟨⟩
    cases hfails

namespace Poller

/-- The reads behind a reply have one result. -/
theorem Retrieved.eq (h : p.Retrieved reply ys body) (h' : p.Retrieved reply ys body') :
    body = body' := by
  cases h with
  | here hwhere =>
    cases h' with
    | here hwhere' =>
      cases hwhere.symm.trans hwhere'
      rfl
  | read _ hx =>
    cases h' with
    | read _ hx' => rw [hx.brings.eq hx'.brings]

namespace Looked

variable (hfinds : ch.Finds find)

include hfinds

/-- A look whose first reply says that the operation is running has shown no more. -/
theorem of_running (h : p.Looked w ch (x :: ys) shown) (hx : x.Brings reply)
    (hrunning : ch.running reply word) : shown = .ok (.pending word) := by
  have hfind := hfinds.running.mpr hrunning
  cases h with
  | stopped htold => exact absurd hx htold.not_brings
  | running hx' h =>
    rw [hx'.brings.eq hx, ← hfinds.running, hfind] at h
    cases h
    rfl
  | failed hx' h =>
    rw [hx'.brings.eq hx, ← hfinds.failed, hfind] at h
    cases h
  | unclear hx' h =>
    rw [hx'.brings.eq hx, ← hfinds.unclear, hfind] at h
    cases h
  | ended hx' h =>
    rw [hx'.brings.eq hx, ← hfinds.ended, hfind] at h
    cases h
  | unread hx' h =>
    rw [hx'.brings.eq hx, ← hfinds.ended, hfind] at h
    cases h

/-- One whose first reply says that it has failed has shown this failure, and has asked nothing
more. -/
theorem of_failed (h : p.Looked w ch (x :: ys) shown) (hx : x.Brings reply)
    (hfailed : ch.failed reply f) : ys = [] ∧ shown = .ok (.failed f) := by
  have hfind := hfinds.failed.mpr hfailed
  cases h with
  | stopped htold => exact absurd hx htold.not_brings
  | running hx' h =>
    rw [hx'.brings.eq hx, ← hfinds.running, hfind] at h
    cases h
  | failed hx' h =>
    rw [hx'.brings.eq hx, ← hfinds.failed, hfind] at h
    cases h
    exact ⟨rfl, rfl⟩
  | unclear hx' h =>
    rw [hx'.brings.eq hx, ← hfinds.unclear, hfind] at h
    cases h
  | ended hx' h =>
    rw [hx'.brings.eq hx, ← hfinds.ended, hfind] at h
    cases h
  | unread hx' h =>
    rw [hx'.brings.eq hx, ← hfinds.ended, hfind] at h
    cases h

/-- One whose first reply says that it has succeeded, and whose result has been had behind it, has
shown this result. -/
theorem of_retrieved (h : p.Looked w ch (x :: ys) shown) (hx : x.Brings reply)
    (hended : ch.ended reply) (hbody : p.Retrieved reply ys body) : shown = .ok (.done body) := by
  have hfind := hfinds.ended.mpr hended
  cases h with
  | stopped htold => exact absurd hx htold.not_brings
  | running hx' h =>
    rw [hx'.brings.eq hx, ← hfinds.running, hfind] at h
    cases h
  | failed hx' h =>
    rw [hx'.brings.eq hx, ← hfinds.failed, hfind] at h
    cases h
  | unclear hx' h =>
    rw [hx'.brings.eq hx, ← hfinds.unclear, hfind] at h
    cases h
  | ended hx' _ hbody' =>
    rw [hx'.brings.eq hx] at hbody'
    rw [hbody.eq hbody']
  | unread hx' _ hurl htold =>
    rw [hx'.brings.eq hx] at hurl
    cases hbody with
    | here hwhere => cases hwhere.symm.trans hurl
    | read _ hy => exact absurd hy.brings htold.not_brings

end Looked

/-- Where the log tells of rounds and then of a reply that does not say that the operation is
running, those are the rounds of the wait, and the look behind them has begun with this reply.  The
induction is on the rounds that the log tells of. -/
theorem Waited.split (hfinds : ch.Finds find) {log : List Exchange}
    (h : p.Waited w ch log words result) (hran : ch.Ran xs words') :
    log = xs ++ x :: zs → (∀ reply word, x.Brings reply → ¬ ch.running reply word) →
      words = words' ∧ ∃ shown, p.Looked w ch (x :: zs) shown ∧ verdict? shown = some result := by
  intro hlog hx
  cases h with
  | @rounds xs' ys' words shown result hran' hlooked hverdict =>
    induction hran generalizing xs' words with
    | never =>
      cases hran' with
      | never =>
        obtain rfl : ys' = x :: zs := hlog
        exact ⟨rfl, shown, hlooked, hverdict⟩
      | again hy hrunning =>
        obtain ⟨rfl, -⟩ := List.cons_eq_cons.mp hlog
        exact absurd hrunning (hx _ _ hy.brings)
    | again hy hrunning _ ih =>
      cases hran' with
      | never =>
        obtain rfl : ys' = _ := hlog
        rw [hlooked.of_running hfinds hy.brings hrunning] at hverdict
        cases hverdict
      | again hy' hrunning' hrest =>
        obtain ⟨rfl, htail⟩ := List.cons_eq_cons.mp hlog
        rw [hy'.brings.eq hy.brings, ← hfinds.running, hfinds.running.mpr hrunning] at hrunning'
        cases hrunning'
        obtain ⟨rfl, hsplit⟩ := ih htail hrest
        exact ⟨rfl, hsplit⟩

/-- What a wait with a result has behind its rounds. -/
theorem Waited.of_ok {log : List Exchange} (h : p.Waited w ch log words (.ok body)) :
    ∃ xs x ys reply, log = xs ++ x :: ys ∧ ch.Ran xs words ∧
      x.Replies (Client.read ch.url) reply ∧ ch.ended reply ∧ p.Retrieved reply ys body := by
  cases h with
  | rounds hran hlooked hverdict =>
    cases hlooked with
    | stopped => cases hverdict
    | running => cases hverdict
    | failed => cases hverdict
    | unclear => cases hverdict
    | ended hx hended hbody =>
      cases hverdict
      exact ⟨_, _, _, _, rfl, hran, hx, hended, hbody⟩
    | unread => cases hverdict

/-- What a wait that ends with the failure of the operation has behind its rounds. -/
theorem Waited.of_operationFailed {log : List Exchange}
    (h : p.Waited w ch log words (.error (.error (.operationFailed f)))) :
    ∃ xs x reply, log = xs ++ [x] ∧ ch.Ran xs words ∧ x.Replies (Client.read ch.url) reply ∧
      ch.failed reply f := by
  cases h with
  | rounds hran hlooked hverdict =>
    cases hlooked with
    | stopped htold =>
      cases hverdict
      exact absurd rfl htold.ne_operationFailed
    | running => cases hverdict
    | failed hx hfailed =>
      cases hverdict
      exact ⟨_, _, _, rfl, hran, hx, hfailed⟩
    | unclear => cases hverdict
    | ended => cases hverdict
    | unread _ _ _ htold =>
      cases hverdict
      exact absurd rfl htold.ne_operationFailed

/-- The log of a wait decides on its result. -/
theorem Waited.eq_ok (hfinds : ch.Finds find) {log : List Exchange}
    (h : p.Waited w ch log words result) (hlog : log = xs ++ x :: ys) (hran : ch.Ran xs words')
    (hx : x.Brings reply) (hended : ch.ended reply) (hbody : p.Retrieved reply ys body) :
    result = .ok body := by
  obtain ⟨-, shown, hlooked, hverdict⟩ := h.split hfinds hran hlog fun reply' word hx' hrunning ↦ by
    rw [hx'.eq hx, ← hfinds.running, hfinds.ended.mpr hended] at hrunning
    cases hrunning
  rw [hlooked.of_retrieved hfinds hx hended hbody] at hverdict
  exact (Option.some_inj.mp hverdict).symm

/-- A reply that says how the operation has failed is the end of the wait, with this failure. -/
theorem Waited.eq_operationFailed (hfinds : ch.Finds find) {log : List Exchange}
    (h : p.Waited w ch log words result) (hlog : log = xs ++ x :: ys) (hran : ch.Ran xs words')
    (hx : x.Brings reply) (hfailed : ch.failed reply f) :
    result = .error (.error (.operationFailed f)) := by
  obtain ⟨-, shown, hlooked, hverdict⟩ := h.split hfinds hran hlog fun reply' word hx' hrunning ↦ by
    rw [hx'.eq hx, ← hfinds.running, hfinds.failed.mpr hfailed] at hrunning
    cases hrunning
  rw [(hlooked.of_failed hfinds hx hfailed).2] at hverdict
  exact (Option.some_inj.mp hverdict).symm

end Poller

end

end ResourceManager
