import ResourceManager.Proofs.LongRunning

/-!
# What is reported of a call

The reports of a long-running call tell its story as the log does: that the wait began, every status
check that found the operation still running with the word of the service for it, and how the call
ended.  A call that is not accepted, or whose reply names an address that is none, is not reported.

* `Channel.Tells` reads the words off the exchanges in the log, as far as their replies say that the
  operation is running.  It is defined for every log and gives one list of words for it
  (`Channel.Tells.total`, `Channel.Tells.eq`), so it can serve as a specification.
* `Client.Reports` says by cases on the reply to the submission what is to be reported, and
  `Client.reports_mirror_outcome` that every call does so, whatever has stopped it.

A limit of the wait that leads past what the clock can tell makes for a third kind of call without
reports.  The reply is fine then and the operation accepted, and still nobody hears of it:
`Client.silent_crash` is such a call.  It is why `Client.Reports` has to look at the clock at all.
-/

set_option autoImplicit false

namespace ResourceManager

variable {c : Client} {o : PollOptions} {spec : OperationSpec} {s : Session} {w : Watch}
  {p : Poller}
  {ch : Channel} {x : Exchange} {xs ys log : List Exchange} {reply : Reply} {word : String}
  {words words' : List String} {stop : Stop} {shown : Except Stop Progress}
  {result : Except Stop (Option Json)} {reports : List ProgressEvent}

/-! ## Words in the log -/

/-- The exchanges of a wait tell in these words that the operation is running, up to the first one
that does not.  That one may have failed, still be underway, or have another reply; the reads behind
it are not asked how the operation is getting on, and so have no words. -/
inductive Channel.Tells (ch : Channel) : List Exchange → List String → Prop
  | nothing : Tells ch [] []
  | ended {x : Exchange} {xs : List Exchange}
      (h : ∀ reply word, x.Brings reply → ¬ ch.running reply word) : Tells ch (x :: xs) []
  | running {x : Exchange} {xs : List Exchange} {reply : Reply} {word : String}
      {words : List String} (hx : x.Brings reply) (h : ch.running reply word)
      (hrest : Tells ch xs words) : Tells ch (x :: xs) (word :: words)

/-- Every log has its words. -/
theorem Channel.Tells.total (ch : Channel) (xs : List Exchange) : ∃ words, ch.Tells xs words := by
  induction xs with
  | nil => exact ⟨[], .nothing⟩
  | cons x xs ih =>
    by_cases hrunning : ∃ reply word, x.Brings reply ∧ ch.running reply word
    · obtain ⟨reply, word, hx, h⟩ := hrunning
      obtain ⟨words, hwords⟩ := ih
      exact ⟨word :: words, .running hx h hwords⟩
    · exact ⟨[], .ended fun reply word hx h ↦ hrunning ⟨reply, word, hx, h⟩⟩

/-- It has them in one way only, as long as a reply of the channel has one meaning. -/
theorem Channel.Tells.eq {find : Reply → Finding} (hfinds : ch.Finds find) (h : ch.Tells xs words)
    (h' : ch.Tells xs words') : words = words' := by
  induction h generalizing words' with
  | nothing =>
    cases h'
    rfl
  | ended hnone =>
    cases h' with
    | ended => rfl
    | running hx hrunning => exact absurd hrunning (hnone _ _ hx)
  | running hx hrunning _ ih =>
    cases h' with
    | ended hnone => exact absurd hrunning (hnone _ _ hx)
    | running hx' hrunning' hrest' =>
      obtain rfl := hx.eq hx'
      cases (hfinds.running.mpr hrunning).symm.trans (hfinds.running.mpr hrunning')
      rw [ih hrest']

/-! ## Waits -/

/-- Rounds tell their words, whatever stands behind them. -/
theorem Channel.Ran.tells (h : ch.Ran xs words) (hrest : ch.Tells ys []) :
    ch.Tells (xs ++ ys) words := by
  induction h with
  | never => exact hrest
  | again hx hrunning _ ih => exact .running hx.brings hrunning ih

namespace Poller

/-- The look that ends a wait has no word for it: were its first reply one that says that the
operation is running, the look would not have ended the wait. -/
theorem Looked.tells (hch : p.channel? = some ch) (h : p.Looked w ch xs shown)
    (hverdict : verdict? shown = some result) : ch.Tells xs [] := by
  cases xs with
  | nil => exact .nothing
  | cons x ys =>
    refine .ended fun reply word hx hrunning ↦ ?_
    rw [h.of_running (finds_of_channel hch) hx hrunning] at hverdict
    cases hverdict

/-- The log of a wait tells the words of its rounds. -/
theorem Waited.tells (hch : p.channel? = some ch) (h : p.Waited w ch xs words result) :
    ch.Tells xs words := by
  cases h with
  | rounds hran hlooked hverdict => exact hran.tells (hlooked.tells hch hverdict)

/-- A wait that has begun does not crash. -/
theorem Waited.ne_crashed (h : p.Waited w ch xs words result) : result ≠ .error .crashed := by
  rintro rfl
  have htold {asks : Method × Url × Option Payload} {ys : List Exchange} :
      ¬ Told w asks ys (.error .crashed) := by
    intro htold
    cases htold with
    | unasked h =>
      rcases h with ⟨cause, ⟨⟩⟩ | h
      cases h
    | unanswered _ _ h => cases h
  cases h with
  | rounds _ hlooked hverdict =>
    cases hlooked with
    | stopped h =>
      cases hverdict
      exact htold h
    | running => cases hverdict
    | failed => cases hverdict
    | unclear => cases hverdict
    | ended => cases hverdict
    | unread _ _ _ h =>
      cases hverdict
      exact htold h

/-- The reports do not depend on the form that the result is given in. -/
theorem reportsOf_map {α β : Type} (path : String) (words : List String) (result : Except Stop α)
    (f : α → β) : reportsOf path words (result.map f) = reportsOf path words result := by
  rcases result with (_ | _ | _) | _ <;> rfl

end Poller

/-! ## Calls -/

namespace Client

/-- What is to be reported of a long-running call from `s` on with such a log and such a result. -/
inductive Reports (c : Client) (o : PollOptions) (spec : OperationSpec) (s : Session) :
    List Exchange → Except Stop Completion → List ProgressEvent → Prop
  /-- There is no reply to the submission. -/
  | rejected {xs : List Exchange} {stop : Stop} (h : ∀ x ∈ xs, ∀ reply, ¬ x.Brings reply) :
      Reports c o spec s xs (.error stop) []
  /-- An address in the reply is none. -/
  | misnamed {x : Exchange} {reply : Reply} {cause : UrlError}
      (hx : x.Replies (c.submits spec) reply) (hmisnames : reply.Misnames cause) :
      Reports c o spec s [x] (.error (.error (.url cause))) []
  /-- The addresses are fine, but the clock cannot tell when the wait would reach its limit. -/
  | untimed {x : Exchange} {reply : Reply} {status location : Option Url}
      (hx : x.Replies (c.submits spec) reply) (hnames : reply.Names status location)
      (htimes : ¬ s.Times o.policy.timeout x) : Reports c o spec s [x] (.error .crashed) []
  /-- The operation has ended with the reply, so there is nothing to look after. -/
  | settled {x : Exchange} {reply : Reply} {result : Except Stop Completion}
      (hx : x.Replies (c.submits spec) reply) (hfollows : c.Follows spec reply none)
      (htimes : s.Times o.policy.timeout x) (hresult : result ≠ .error .crashed) :
      Reports c o spec s [x] result (Poller.reportsOf spec.path [] result)
  /-- The operation is followed. -/
  | followed {x : Exchange} {xs : List Exchange} {reply : Reply} {ch : Channel}
      {words : List String} {result : Except Stop Completion}
      (hx : x.Replies (c.submits spec) reply) (hfollows : c.Follows spec reply (some ch))
      (htimes : s.Times o.policy.timeout x) (hwords : ch.Tells xs words)
      (hresult : result ≠ .error .crashed) :
      Reports c o spec s (x :: xs) result (Poller.reportsOf spec.path words result)

/-- What has stopped a request before its reply has left no reply in the log. -/
theorem brings_nothing_of_told {asks : Method × Url × Option Payload}
    (h : Told w asks xs (.error stop)) : ∀ x ∈ xs, ∀ reply, ¬ x.Brings reply := by
  cases h with
  | unasked => exact fun _ hx ↦ absurd hx List.not_mem_nil
  | unanswered _ hnone =>
    intro x hx reply hbrings
    rw [List.mem_singleton.mp hx] at hbrings
    exact hbrings.delivery_ne_none hnone
  | failed _ hfails =>
    intro x hx reply hbrings
    rw [List.mem_singleton.mp hx] at hbrings
    exact hbrings.not_fails hfails

/-- Every course has the reports that it is to have. -/
theorem Course.reported (h : c.Course o spec s xs result reports) :
    c.Reports o spec s xs (result.map (⟨spec.path, ·⟩)) reports := by
  cases h with
  | unaccepted htold => exact .rejected (brings_nothing_of_told htold)
  | misnamed hx hmisnames => exact .misnamed hx hmisnames
  | untimed hx hnames htimes => exact .untimed hx hnames htimes
  | done hx hnames htimes htracking =>
    have hfollows := Poller.follows_of_names c spec hnames
    rw [Poller.channel?, htracking] at hfollows
    exact .settled hx hfollows htimes (by intro hcrashed; cases hcrashed)
  | failed hx hnames htimes htracking =>
    have hfollows := Poller.follows_of_names c spec hnames
    rw [Poller.channel?, htracking] at hfollows
    exact .settled hx hfollows htimes (by intro hcrashed; cases hcrashed)
  | @waited _ _ _ _ _ _ _ words _ hx hnames htimes hch hwaited =>
    have hfollows := Poller.follows_of_names c spec hnames
    rw [hch] at hfollows
    rw [← Poller.reportsOf_map spec.path words result (⟨spec.path, ·⟩ : _ → Completion)]
    refine .followed hx hfollows htimes (hwaited.tells hch) fun hcrashed ↦ ?_
    rcases result with stop | body
    · cases hcrashed
      exact hwaited.ne_crashed rfl
    · cases hcrashed

/-- **The reports mirror the outcome.**  A call that is not accepted, or whose reply names an
address that is none, is not reported.  Of any other call a caller who asks for it hears that the
wait began, the word of every reply that found the operation running, in their order, and last how
it ended: with the result, or with the message of the very error that is the result.  Every report
names the path of the call.  All this goes for a limit that the clock can tell; behind any other
there is silence. -/
theorem reports_mirror_outcome (c : Client) (o : PollOptions) (spec : OperationSpec)
    (s : Session) :
    ∃ reports,
      c.Reports o spec s (s.callsSince ((c.invoke o spec.asLongRunning).outcome s).2)
        ((c.invoke o spec.asLongRunning).outcome s).1 reports ∧
      ((c.invoke o spec.asLongRunning).outcome s).2.events = s.events ++ o.heard reports := by
  obtain ⟨xs, result, reports, hcalled, hcourse, hresult, hevents⟩ := c.invoke_course o spec s
  rw [hcalled.eq, hresult]
  exact ⟨reports, hcourse.reported, hevents⟩

end Client

/-- The reply to a submission that has been accepted and is done. -/
def Response.accepted : Response := ⟨200, [], []⟩

/-- A call that is accepted and of which its caller hears nothing, not even that the wait began.
The limit of its wait is the longest that a file can hold; the answer takes a second to come. -/
theorem Client.silent_crash :
    let o : PollOptions := ⟨⟨.ofSeconds 1, some (.ofSeconds 9223372036854775807)⟩, .never, true⟩
    let out := (Client.ofToken.invoke o (OperationSpec.new .put "/p" "1").asLongRunning).outcome
      (.start ⟨0⟩ [.after (.ofSeconds 1) (.response .accepted)])
    (out.1 matches .error .crashed) ∧ out.2.events = [] ∧
      out.2.exchanges.map Exchange.delivery? = [some (.response .accepted)] := by
  decide +kernel

end ResourceManager
