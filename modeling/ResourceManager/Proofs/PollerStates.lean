import ResourceManager.Proofs.Interruption
import ResourceManager.Proofs.Rounds
import ResourceManager.Proofs.Following
import ResourceManager.Proofs.Submission

/-!
# The states of a poller

A poller follows an operation until one of its polls learns how the operation ended.  From then on
it only says so, and asks nobody.  Until then no poll changes it, whatever goes wrong and whenever
the poll is dropped: the next one asks at the same address.

* `Poller.stepInPlace` writes a step down as a caller sees it who lends the poller out: the end is
  noted at the two places where it becomes known, in the midst of the requests of the poll.
  `Poller.stepInPlace_eq` says that this is `Poller.step`, so that noting the end at last, when all
  requests have been answered, is no other step.
* `Poller.Conduct` is what one poll may do to a poller, `Poller.Polls` any number of them, and
  `Poller.OfKind` what holds of the state of every poller from its submission on.
* `Poller.states_of_polls` is the theorem on all polls of all pollers.
-/

set_option autoImplicit false

namespace ResourceManager

variable {c : Client} {w : Watch} {p q : Poller} {s s₁ : Session}

/-! ## Steps in place -/

/-- A run that has a poller at hand and may change it on its way. -/
abbrev PollerRun := ExceptT Stop (StateM (Poller × Session))

namespace PollerRun

variable {α β : Type}

/-- The result of such a run, with the poller and the session behind it. -/
def outcome (r : PollerRun α) (p : Poller) (s : Session) : Except Stop α × Poller × Session :=
  (ExceptT.run r).run (p, s)

/-- A run that does not touch the poller. -/
def ofRun (r : Run α) : PollerRun α :=
  ExceptT.mk fun x ↦ ((r.outcome x.2).1, x.1, (r.outcome x.2).2)

/-- Notes that the operation has ended with a result; a deleted resource leaves none. -/
def finish (body : Option Json) : PollerRun Progress := do
  let (p, s) ← get
  let body := if p.method = .delete then none else body
  set ({ p with tracking := .done body }, s)
  return .done body

/-- Notes that the operation has failed. -/
def fail (failure : OperationFailure) : PollerRun Progress := do
  modify fun x ↦ ({ x.1 with tracking := .failed failure }, x.2)
  return .failed failure

/-- One run after another: the second begins with the poller that the first one leaves. -/
theorem outcome_bind (r : PollerRun α) (f : α → PollerRun β) (p : Poller) (s : Session) :
    (r >>= f).outcome p s =
      match r.outcome p s with
      | (.ok a, p₁, s₁) => (f a).outcome p₁ s₁
      | (.error stop, p₁, s₁) => (.error stop, p₁, s₁) := by
  simp only [outcome, ExceptT.run_bind, StateT.run_bind]
  show (match StateT.run (ExceptT.run r) (p, s) with | (a, x) => _) = _
  rcases StateT.run (ExceptT.run r) (p, s) with ⟨stop | a, p₁, s₁⟩
  · rfl
  · rfl

/-- A run that does not know of the poller leaves it alone. -/
theorem outcome_ofRun (r : Run α) (p : Poller) (s : Session) :
    (ofRun r).outcome p s = ((r.outcome s).1, p, (r.outcome s).2) := rfl

end PollerRun

namespace Poller

/-- A poll that notes the end of the operation as soon as it is known. -/
def pollInPlace (c : Client) (w : Watch) (p : Poller) : PollerRun Progress := do
  match p.tracking with
  | .done body => return .done body
  | .failed failure => return .failed failure
  | .statusAt url resultUrl =>
    let body ← PollerRun.ofRun (bodyAt c w url)
    match (statusWord? body).map OperationStatus.parse with
    | none => throw (.error (.invalidResponse .missingStatus))
    | some (.inProgress word) => return .pending word
    | some .succeeded => PollerRun.finish (← PollerRun.ofRun (p.result c w resultUrl body))
    | some status => PollerRun.fail (.ofStatus status body)
  | .location url =>
    let reply ← PollerRun.ofRun (c.getUrl w url)
    if reply.status = HttpStatus.accepted then return .pending acceptedWord
    else if p.method.yieldsResource then
      PollerRun.finish (← PollerRun.ofRun (bodyAt c w p.resourceUrl))
    else PollerRun.finish reply.body
  | .resource =>
    let body ← PollerRun.ofRun (bodyAt c w p.resourceUrl)
    match progressOf body with
    | .pending word => return .pending word
    | .done body => PollerRun.finish body
    | .failed failure => PollerRun.fail failure

/-- A step that polls in place. -/
def stepInPlace (c : Client) (w : Watch) (p : Poller) (s : Session) :
    Except Stop Progress × Poller × Session :=
  (p.pollInPlace c w).outcome p s

/-- What a run shows, noted behind it. -/
def noted (p : Poller) : Except Stop Progress × Session → Except Stop Progress × Poller × Session
  | (.ok progress, s) => (.ok progress, p.after progress, s)
  | (.error stop, s) => (.error stop, p, s)

/-- A run that notes on its way what another one shows at its end. -/
structure Notes (p : Poller) (g : PollerRun Progress) (f : Run Progress) : Prop where
  outcome : ∀ s, g.outcome p s = p.noted (f.outcome s)

namespace Notes

/-- What ends a poll early leaves nothing to note. -/
theorem throw (stop : Stop) : p.Notes (throw stop) (throw stop) := ⟨fun _ ↦ rfl⟩

/-- A running operation leaves nothing to note either. -/
theorem pending (word : String) : p.Notes (pure (.pending word)) (pure (.pending word)) :=
  ⟨fun _ ↦ rfl⟩

/-- Noting the end is what is shown at the end. -/
theorem finish (body : Option Json) : p.Notes (PollerRun.finish body) (pure (p.finished body)) :=
  ⟨fun _ ↦ rfl⟩

/-- So is noting a failure. -/
theorem fail (failure : OperationFailure) :
    p.Notes (PollerRun.fail failure) (pure (.failed failure)) :=
  ⟨fun _ ↦ rfl⟩

/-- What is known already need not be noted. -/
theorem known {progress : Progress} (h : p.after progress = p) :
    p.Notes (pure progress) (pure progress) :=
  ⟨fun s ↦ by
    show (Except.ok progress, p, s) = (Except.ok progress, p.after progress, s)
    rw [h]⟩

/-- What comes before does not touch the poller. -/
theorem bind {α : Type} {r : Run α} {g : α → PollerRun Progress} {f : α → Run Progress}
    (h : ∀ a, p.Notes (g a) (f a)) : p.Notes (PollerRun.ofRun r >>= g) (r >>= f) := by
  refine ⟨fun s ↦ ?_⟩
  rw [PollerRun.outcome_bind, PollerRun.outcome_ofRun]
  rcases ho : r.outcome s with ⟨stop | a, s₁⟩
  · rw [Run.outcome_bind_error ho]
    rfl
  · rw [Run.outcome_bind_ok ho]
    exact (h a).outcome s₁

end Notes

theorem after_of_done {body : Option Json} (h : p.tracking = .done body) :
    p.after (.done body) = p := by
  rw [after, ← h]

theorem after_of_failed {failure : OperationFailure} (h : p.tracking = .failed failure) :
    p.after (.failed failure) = p := by
  rw [after, ← h]

/-- **A step notes the end of the operation where it becomes known.** -/
theorem notes_poll (c : Client) (w : Watch) (p : Poller) :
    p.Notes (p.pollInPlace c w) (p.poll c w) := by
  rw [pollInPlace, poll]
  cases htracking : p.tracking with
  | done body => exact .known (after_of_done htracking)
  | failed failure => exact .known (after_of_failed htracking)
  | statusAt url resultUrl =>
    refine .bind fun body ↦ ?_
    rcases (statusWord? body).map OperationStatus.parse with _ | (word | _ | _ | _)
    · exact .throw _
    · exact .pending word
    · exact .bind fun found ↦ .finish found
    · exact .fail _
    · exact .fail _
  | location url =>
    refine .bind fun reply ↦ ?_
    split
    · exact .pending _
    · split
      · exact .bind fun found ↦ .finish found
      · exact .finish _
  | resource =>
    refine .bind fun body ↦ ?_
    cases progressOf body with
    | pending word => exact .pending word
    | done found => exact .finish found
    | failed failure => exact .fail failure

/-- The step of the program notes what a poll shows. -/
theorem step_eq_noted (c : Client) (w : Watch) (p : Poller) (s : Session) :
    p.step c w s = p.noted ((p.poll c w).outcome s) := by
  rw [step]
  rcases (p.poll c w).outcome s with ⟨stop | progress, s₁⟩
  · rfl
  · rfl

/-- What is noted as soon as it is known is what is noted at last. -/
theorem stepInPlace_eq (c : Client) (w : Watch) (p : Poller) (s : Session) :
    p.stepInPlace c w s = p.step c w s := by
  rw [stepInPlace, (notes_poll c w p).outcome, step_eq_noted]

end Poller

/-! ## One poll -/

/-- Nothing that goes wrong with an exchange is a failure of the operation. -/
theorem Client.exchange_stop (c : Client) (w : Watch) (m : Method) (url : Url)
    (body : Option Json) :
    (c.exchange w m url body).Keeps (fun _ ↦ True) fun stop _ ↦
      ∀ failure, stop ≠ .error (.operationFailed failure) := by
  have hsend : ∀ r : Request, (r.send w).Meets (fun _ ↦ True) (fun _ _ ↦ True) fun stop _ ↦
      ∀ failure, stop ≠ .error (.operationFailed failure) := by
    refine fun r ↦ ⟨fun _ _ ↦ trivial, fun {s _ _} _ ho failure hstop ↦ ?_⟩
    obtain ⟨x, t, -, hsend⟩ := r.sending w s
    rw [ho, hstop] at hsend
    cases hsend with
    | calledOff _ _ _ he =>
      rcases Watch.interruption?_cases he with h | ⟨limit, h⟩
      · cases h
      · cases h
  refine exchange_meets (TokenSource.token_meets (fun _ h ↦ h) (fun _ _ _ h ↦ h) (fun r _ ↦ hsend r)
    (fun _ _ _ _ _ ↦ nofun) fun _ _ _ _ _ ↦ trivial) (fun _ ↦ hsend _) (fun d s e _ he ↦ ?_)
    fun _ _ _ _ _ ↦ trivial
  rintro failure ⟨⟩
  rcases replyOf_error_kind he with ⟨_, h⟩ | ⟨_, h⟩ | h
  · cases h
  · cases h
  · cases h

namespace Poller

/-- The failure of an operation is what a poll has found, not what has kept it from finding. -/
theorem poll_stop (c : Client) (w : Watch) (p : Poller) :
    (p.poll c w).Keeps (fun _ ↦ True) fun stop _ ↦
      ∀ failure, stop ≠ .error (.operationFailed failure) :=
  poll_keeps (fun url _ ↦ c.exchange_stop w .get url none) fun _ _ ↦ nofun

/-- A poll asks at the address of its channel first, if it asks the service at all: whatever is read
besides is read because of the reply there. -/
theorem called_poll {ch : Channel} (hch : p.channel? = some ch) (w : Watch) (s : Session) :
    ∃ xs, s.Called xs ((p.poll c w).outcome s).2 ∧
      ∀ x ∈ xs.head?, ∃ token, x.request = c.request token .get ch.url none := by
  rw [poll_eq hch]
  obtain ⟨xs, hcalled, htold, hrequests⟩ := c.exchange_tells w .get ch.url none s
  rcases ho : (c.getUrl w ch.url).outcome s with ⟨stop | reply, s₁⟩
  · rw [Run.outcome_bind_error ho]
    rw [Client.getUrl] at ho
    rw [ho] at hcalled
    exact ⟨xs, hcalled, fun x hx ↦ (hrequests x (List.mem_of_mem_head? hx)).1⟩
  · rw [Run.outcome_bind_ok ho]
    rw [Client.getUrl] at ho
    rw [ho] at hcalled htold
    cases htold with
    | @replied x _ hasks hbrings =>
      obtain ⟨ys, hcalled', -⟩ := judge_tells (c := c) hch ⟨hasks, hbrings⟩ w s₁
      refine ⟨[x] ++ ys, hcalled.trans hcalled', fun y hy ↦ ?_⟩
      obtain rfl : x = y := Option.some_inj.mp hy
      exact (hrequests x (List.mem_singleton.mpr rfl)).1

/-- What a poll of `p` that shows `shown` makes of the poller, and where it asks. -/
structure Conduct (c : Client) (p : Poller) (s : Session) (shown : Except Stop Progress)
    (q : Poller) (s₁ : Session) : Prop where
  /-- The poller is the same behind a poll that has not found the end of the operation: one that
  finds it running, one with an error of another kind, and one that is dropped. -/
  kept : (∀ body, verdict? shown ≠ some (.ok body)) →
    (∀ failure, verdict? shown ≠ some (.error (.error (.operationFailed failure)))) → q = p
  /-- A poll with a result leaves the poller done with this result. -/
  done : ∀ body, verdict? shown = some (.ok body) → q = { p with tracking := .done body }
  /-- A poll that reports the failure of the operation leaves the poller failed with this failure.
  -/
  failed : ∀ failure, verdict? shown = some (.error (.error (.operationFailed failure))) →
    q = { p with tracking := .failed failure }
  /-- While the operation is followed, the channel is asked before anything else. -/
  asks : ∀ ch, p.channel? = some ch → ∃ xs, s.Called xs s₁ ∧
    ∀ x ∈ xs.head?, ∃ token, x.request = c.request token .get ch.url none

/-- Every poll conducts itself so. -/
theorem conduct (c : Client) (w : Watch) (p : Poller) (s : Session) :
    Conduct c p s (p.step c w s).1 (p.step c w s).2.1 (p.step c w s).2.2 := by
  have hcalls := fun (ch : Channel) (hch : p.channel? = some ch) ↦ called_poll (c := c) hch w s
  rw [step_eq_noted]
  rcases ho : (p.poll c w).outcome s with ⟨stop | (word | body | failure), s₁⟩
  · rw [ho] at hcalls
    refine ⟨fun _ _ ↦ rfl, nofun, fun failure hstop ↦ ?_, hcalls⟩
    exact absurd (Except.error.inj (Option.some_inj.mp hstop))
      ((poll_stop c w p).error trivial ho _)
  · rw [ho] at hcalls
    exact ⟨fun _ _ ↦ rfl, nofun, nofun, hcalls⟩
  · rw [ho] at hcalls
    refine ⟨fun hnot _ ↦ absurd rfl (hnot body), ?_, nofun, hcalls⟩
    rintro _ ⟨⟩
    rfl
  · rw [ho] at hcalls
    refine ⟨fun _ hnot ↦ absurd rfl (hnot failure), nofun, ?_, hcalls⟩
    rintro _ ⟨⟩
    rfl

/-! ## Any number of polls -/

/-- A poller that has come from another one by polls, each in a session and under a watch of its
own. -/
inductive Polls (c : Client) (p : Poller) : Poller → Prop
  | none : Polls c p p
  | again {q : Poller} (h : Polls c p q) (w : Watch) (s : Session) : Polls c p (q.step c w s).2.1

/-- What a step shows is the state of the poller behind it, or the poller is the same. -/
theorem step_cases (c : Client) (w : Watch) (p : Poller) (s : Session) :
    (p.step c w s).2.1 = p ∨
      (∃ body, ((p.poll c w).outcome s).1 = .ok (.done body) ∧
        (p.step c w s).2.1 = { p with tracking := .done body }) ∨
      ∃ failure, (p.step c w s).2.1 = { p with tracking := .failed failure } := by
  rw [step_eq_noted]
  rcases (p.poll c w).outcome s with ⟨stop | (word | body | failure), s₁⟩
  · exact .inl rfl
  · exact .inl rfl
  · exact .inr (.inl ⟨body, rfl, rfl⟩)
  · exact .inr (.inr ⟨failure, rfl⟩)

/-- The method of a poller is the one it was submitted with. -/
theorem method_step (c : Client) (w : Watch) (p : Poller) (s : Session) :
    (p.step c w s).2.1.method = p.method := by
  rcases p.step_cases c w s with h | ⟨_, -, h⟩ | ⟨_, h⟩
  · rw [h]
  · rw [h]
  · rw [h]

/-- An operation that has ended is not polled any more. -/
theorem step_of_done {body : Option Json} (h : p.tracking = .done body) (w : Watch) (s : Session) :
    p.step c w s = (.ok (.done body), p, s) := by
  have hpoll : (p.poll c w).outcome s = (.ok (.done body), s) := by
    rw [poll, h]
    rfl
  rw [step_eq_noted, hpoll, noted, after_of_done h]

/-- Nor is one that has failed. -/
theorem step_of_failed {failure : OperationFailure} (h : p.tracking = .failed failure) (w : Watch)
    (s : Session) : p.step c w s = (.ok (.failed failure), p, s) := by
  have hpoll : (p.poll c w).outcome s = (.ok (.failed failure), s) := by
    rw [poll, h]
    rfl
  rw [step_eq_noted, hpoll, noted, after_of_failed h]

/-- So the poller is the same behind any number of polls, which is what makes its last state the
last. -/
theorem Polls.eq_of_done {body : Option Json} (hp : p.tracking = .done body) (h : Polls c p q) :
    q = p := by
  induction h with
  | none => rfl
  | again _ w s ih => rw [ih, step_of_done hp]

/-- A failure stays as well. -/
theorem Polls.eq_of_failed {failure : OperationFailure} (hp : p.tracking = .failed failure)
    (h : Polls c p q) : q = p := by
  induction h with
  | none => rfl
  | again _ w s ih => rw [ih, step_of_failed hp]

/-! ## Deletions

Nothing forbids the header of a deletion to name an address, so a deletion may be followed like any
other operation.  What it never has is a result, and the invariant has to speak of the resource as
well: a poll there would take what it finds for one. -/

/-- A deletion leaves no result, and it is not followed at the resource that it deletes. -/
def LeavesNothing (p : Poller) : Prop :=
  p.method = .delete → p.tracking ≠ .resource ∧ ∀ body, p.tracking = .done body → body = none

/-- Every poller begins so.  Without an address a deletion is done with its submission. -/
theorem leavesNothing_of_ofReply {endpoint : Url} {spec : OperationSpec} {reply : Reply}
    (h : ofReply endpoint spec reply = .ok p) : p.LeavesNothing := by
  obtain ⟨status, location, -, -, rfl⟩ := ofReply_eq_ok.mp h
  intro hdelete
  have hspec : spec.method = .delete := hdelete
  show trackingAt spec.method reply.body status location ≠ .resource ∧
    ∀ body, trackingAt spec.method reply.body status location = .done body → body = none
  rcases status with _ | url
  · rcases location with _ | url
    · rw [trackingAt, trackingOf, if_pos hspec]
      exact ⟨Tracking.noConfusion, fun body hbody ↦ (Tracking.done.inj hbody).symm⟩
    · exact ⟨Tracking.noConfusion, fun _ ↦ Tracking.noConfusion⟩
  · exact ⟨Tracking.noConfusion, fun _ ↦ Tracking.noConfusion⟩

/-- The poll of a deletion shows no result. -/
theorem LeavesNothing.poll (hp : p.LeavesNothing) (hdelete : p.method = .delete)
    {body : Option Json} (h : ((p.poll c w).outcome s).1 = .ok (.done body)) : body = none := by
  have hdone : (p.poll c w).outcome s = (.ok (.done body), ((p.poll c w).outcome s).2) :=
    Prod.ext h rfl
  cases hch : p.channel? with
  | some ch =>
    -- the log has the body that was retrieved, and of a deletion nothing is
    obtain ⟨xs, -, hlooked⟩ := poll_tells (c := c) hch w s
    rw [h] at hlooked
    cases hlooked with
    | ended _ _ hretrieved =>
      have hhere (last : Reply) : p.whereabouts last = .here none := if_pos hdelete
      cases hretrieved with
      | here hwhere =>
        cases (hhere _).symm.trans hwhere
        rfl
      | read hwhere => cases (hhere _).symm.trans hwhere
  | none =>
    rcases tracking_of_channel_none hch with ⟨stored, htracking⟩ | ⟨failure, htracking⟩
    · rw [Poller.poll, htracking] at hdone
      cases hdone
      exact (hp hdelete).2 _ htracking
    · rw [Poller.poll, htracking] at hdone
      cases hdone

/-- A poll keeps it, in whatever way it changes the state. -/
theorem LeavesNothing.step (hp : p.LeavesNothing) (c : Client) (w : Watch) (s : Session) :
    (p.step c w s).2.1.LeavesNothing := by
  intro hdelete
  rw [method_step] at hdelete
  rcases p.step_cases c w s with h | ⟨body, hshown, h⟩ | ⟨failure, h⟩
  · rw [h]
    exact hp hdelete
  · rw [h]
    refine ⟨nofun, ?_⟩
    rintro _ ⟨⟩
    exact hp.poll hdelete hshown
  · rw [h]
    exact ⟨nofun, nofun⟩

/-- So do any number of polls. -/
theorem Polls.leavesNothing (hp : p.LeavesNothing) (h : Polls c p q) : q.LeavesNothing := by
  induction h with
  | none => exact hp
  | again _ w s ih => exact ih.step c w s

/-- None of them changes the method. -/
theorem Polls.method_eq (h : Polls c p q) : q.method = p.method := by
  induction h with
  | none => rfl
  | again _ w s ih => rw [method_step, ih]

/-- **The states of a poller.**  Noting the end of an operation where it becomes known is noting it
behind the poll.  A poll that does not find this end leaves the poller as it was, to ask at the same
address again, and only one that does find it leaves the poller done or failed.  It stays so through
any number of polls, all of which show the same and do not touch the session.  A deletion never has
a result and is never followed at the resource. -/
theorem states_of_polls (c : Client) (w : Watch) (p : Poller) (s : Session) :
    p.stepInPlace c w s = p.step c w s ∧
      Conduct c p s (p.step c w s).1 (p.step c w s).2.1 (p.step c w s).2.2 ∧
      (∀ body q, p.tracking = .done body → Polls c p q →
        q = p ∧ q.step c w s = (.ok (.done body), p, s)) ∧
      (∀ failure q, p.tracking = .failed failure → Polls c p q →
        q = p ∧ q.step c w s = (.ok (.failed failure), p, s)) ∧
      ∀ endpoint spec reply start, ofReply endpoint spec reply = .ok start → Polls c start p →
        spec.method = .delete →
          p.tracking ≠ .resource ∧ (∀ body, p.tracking = .done body → body = none) ∧
            ∀ body, verdict? (p.step c w s).1 = some (.ok body) → body = none := by
  refine ⟨p.stepInPlace_eq c w s, p.conduct c w s, fun body q hp hpolls ↦ ?_,
    fun failure q hp hpolls ↦ ?_, fun endpoint spec reply start hstart hpolls hdelete ↦ ?_⟩
  · rw [hpolls.eq_of_done hp]
    exact ⟨rfl, step_of_done hp w s⟩
  · rw [hpolls.eq_of_failed hp]
    exact ⟨rfl, step_of_failed hp w s⟩
  · obtain ⟨_, _, -, -, rfl⟩ := ofReply_eq_ok.mp hstart
    have hmethod : p.method = .delete := hpolls.method_eq.trans hdelete
    have hnothing := hpolls.leavesNothing (leavesNothing_of_ofReply hstart)
    refine ⟨(hnothing hmethod).1, (hnothing hmethod).2, fun body hbody ↦ ?_⟩
    have hdone := (p.conduct c w s).done body hbody
    exact ((hnothing.step c w s) (by rw [method_step, hmethod])).2 body (by rw [hdone])

end Poller
end ResourceManager
