import ResourceManager.Operation.Wait
import ResourceManager.Proofs.Exchange

/-!
# Rules for polling

Facts about exchanges become facts about waits here, one function of the poller at a time.  A poll
is at most two exchanges, a look is a sleep and a poll, a loop is looks until one says that the
operation has ended, and a wait is a loop between two reports.  A fact about a wait is proved along
this chain, and the modules that follow enter it at the function they have something to say about.

* `Poller.poll_keeps`, `Poller.look_meets`: what holds across every exchange at the addresses of a
  poller holds across a look.
* `Poller.follow_meets`: what a look hands on from one round to the next holds of the whole loop.
  The loop counts rounds, but the count never stops it: a look that leaves an operation running has
  used up an answer (`Poller.look_pending`), so there are fewer such looks than answers.
* `Poller.outcome_wait`, `Poller.wait_meets`: a wait is its loop between two reports.
* `Session.Stable.wait`: what no request to an address of the poller destroys outlives a wait.

## The count of rounds

The loop of the program has no bound.  Here it is given one more round than there are answers in
the session, so that it is a definition by recursion on a number.  That this is not a bound in
disguise is what the first section is for: `Client.exchange_answers` says that an exchange which
brings a reply has consumed an answer, and the rule `Poller.follow_meets` carries the inequality
between answers and rounds along with the invariant of its user.  No later module mentions rounds.

## The crash

A limit that the clock cannot add to the present stops a wait before its first report.  The rules
for waits have a case of their own for it, and `Poller.outcome_wait_of_crash` says that in this
case nothing has happened: no report, no request, no sleep.
-/

set_option autoImplicit false

namespace ResourceManager

variable {c : Client} {o : PollOptions} {w : Watch} {p : Poller}
  {I J : Session → Prop} {E : Stop → Session → Prop}

/-! ## Answers are used up

The loop ends because the answers do.  A request may take more than one answer, since a token is
asked for before it and the server may send it on, but it never takes fewer than one. -/

namespace Session

/-- There are at most `n` answers left, and this stays so. -/
theorem stable_answers (n : Nat) : Stable (fun _ ↦ True) fun s ↦ s.answers.length ≤ n where
  made s x _ _ _ _ _ hs := by
    rw [answers_made, List.length_drop]
    exact Nat.le_trans (Nat.sub_le _ _) hs
  reported _ _ hs := hs
  advancedTo _ _ hs := hs
  tokenKept _ _ hs := hs

end Session

/-- An exchange that brings a reply uses up an answer.  One that fails need not: a call is not
sent at all under a limit that has passed or by a caller without a token. -/
theorem Client.exchange_answers {m : Method} {url : Url} {body : Option Json} (n : Nat) :
    (c.exchange w m url body).Meets (fun s ↦ s.answers.length ≤ n)
      (fun _ s ↦ s.answers.length < n) fun _ _ ↦ True := by
  refine Client.exchange_meets (J := fun s ↦ s.answers.length ≤ n)
    (D := fun d s ↦ ∀ reply, Client.replyOf d = .ok reply → s.answers.length < n)
    (((Session.stable_answers n).token (fun _ _ ↦ trivial) _ _).mono (fun _ h ↦ h)
      (fun _ _ h ↦ h) fun _ _ _ ↦ trivial)
    (fun token ↦ ⟨fun {s s₁ d} hs ho reply hreply ↦ ?_, fun _ _ ↦ trivial⟩)
    (fun _ _ _ _ _ ↦ trivial) fun _ _ reply hs hreply ↦ hs reply hreply
  obtain ⟨x, t, hsession, hsend⟩ := (c.request token m url body).sending w s
  rw [ho] at hsession hsend
  obtain rfl : s₁ = s.made x t := hsession
  have hlength := hsend.length_requests_le fun cause hd ↦ by
    rw [hd] at hreply
    cases hreply
  rw [Session.answers_made, List.length_drop]
  omega

namespace Poller

/-! ## Pollers -/

/-- A reply makes a poller exactly if the addresses in its header can be read.  Both are read, also
where the first alone decides how the operation is tracked. -/
theorem ofReply_eq_ok {endpoint : Url} {spec : OperationSpec} {reply : Reply} :
    ofReply endpoint spec reply = .ok p ↔
      ∃ status location, addressIn reply.headers statusField = .ok status ∧
        addressIn reply.headers locationField = .ok location ∧
        p = ⟨spec.method, spec.path, spec.resourceUrl endpoint,
          trackingAt spec.method reply.body status location⟩ := by
  rw [ofReply]
  cases addressIn reply.headers statusField with
  | error e =>
    refine ⟨nofun, ?_⟩
    rintro ⟨_, _, ⟨⟩, _⟩
  | ok status =>
    cases addressIn reply.headers locationField with
    | error e =>
      refine ⟨nofun, ?_⟩
      rintro ⟨_, _, _, ⟨⟩, _⟩
    | ok location =>
      constructor
      · intro h
        cases h
        exact ⟨status, location, rfl, rfl, rfl⟩
      · rintro ⟨_, _, ⟨⟩, ⟨⟩, rfl⟩
        rfl

/-- The status address is read first, so an error names the field that it is about, and a bad
location is only seen behind a good status address. -/
theorem ofReply_eq_error {endpoint : Url} {spec : OperationSpec} {reply : Reply} {e : Error}
    (h : ofReply endpoint spec reply = .error e) :
    ∃ field, (field = statusField ∨ field = locationField) ∧
      addressIn reply.headers field = .error e := by
  rw [ofReply] at h
  cases hstatus : addressIn reply.headers statusField with
  | error cause =>
    rw [hstatus] at h
    cases h
    exact ⟨_, .inl rfl, hstatus⟩
  | ok status =>
    cases hlocation : addressIn reply.headers locationField with
    | error cause =>
      rw [hstatus, hlocation] at h
      cases h
      exact ⟨_, .inr rfl, hlocation⟩
    | ok location =>
      rw [hstatus, hlocation] at h
      cases h

/-! ## Looks -/

/-- The addresses that a poller may ask.  A status report may end an operation whose result has to
be fetched, from the resource or from the location, depending on the method; a location that no
longer answers "accepted" may be followed by a look at the resource. -/
def addresses (p : Poller) : List Url :=
  match p.tracking with
  | .statusAt url result => url :: p.resourceUrl :: result.toList
  | .location url => [url, p.resourceUrl]
  | .resource => [p.resourceUrl]
  | .done _ | .failed _ => []

/-- Without an address in the header, there is only the resource to be asked, and not even that
for a deletion, which has ended with its submission. -/
theorem addresses_of_trackingOf {body : Option Json}
    (h : p.tracking = trackingOf p.method body) : ∀ url ∈ p.addresses, url = p.resourceUrl := by
  intro url hurl
  rw [addresses, h, trackingOf] at hurl
  by_cases hdelete : p.method = .delete
  · rw [if_pos hdelete] at hurl
    exact absurd hurl List.not_mem_nil
  · rw [if_neg hdelete] at hurl
    cases hprogress : progressOf body with
    | pending word =>
      rw [hprogress] at hurl
      exact List.mem_singleton.mp hurl
    | done body =>
      rw [hprogress] at hurl
      exact absurd hurl List.not_mem_nil
    | failed failure =>
      rw [hprogress] at hurl
      exact absurd hurl List.not_mem_nil

/-- The rules here are for what an exchange *keeps*: one invariant `I` before and after it, and `E`
where it stops.  A body is what is left of a reply, so it inherits the rule unchanged. -/
theorem bodyAt_keeps {url : Url} (hget : (c.getUrl w url).Keeps I E) :
    (bodyAt c w url).Keeps I E :=
  hget.bind fun _ ↦ Run.Meets.pure fun _ h ↦ h

/-- The result of an operation that reports success is at one of two addresses, or in the report;
the method says which. -/
theorem result_keeps {resultUrl : Option Url} {status : Option Json}
    (hresource : (c.getUrl w p.resourceUrl).Keeps I E)
    (hresult : ∀ url ∈ resultUrl, (c.getUrl w url).Keeps I E) :
    (p.result c w resultUrl status).Keeps I E := by
  rw [result.eq_def]
  split
  · exact bodyAt_keeps hresource
  · split
    · exact Run.Meets.pure fun _ h ↦ h
    · split
      · exact bodyAt_keeps (hresult _ rfl)
      · exact Run.Meets.pure fun _ h ↦ h

/-- What every exchange of a poll leaves alone, the poll leaves alone.  Apart from its exchanges, a
poll can only stop at a status report without a status. -/
theorem poll_keeps (hget : ∀ url ∈ p.addresses, (c.getUrl w url).Keeps I E)
    (hmissing : ∀ s, I s → E (.error (.invalidResponse .missingStatus)) s) :
    (p.poll c w).Keeps I E := by
  rw [addresses] at hget
  rw [poll]
  split
  · exact Run.Meets.pure fun _ h ↦ h
  · exact Run.Meets.pure fun _ h ↦ h
  · rename_i url resultUrl htracking
    rw [htracking] at hget
    refine (bodyAt_keeps (hget url List.mem_cons_self)).bind fun body ↦ ?_
    split
    · exact Run.Meets.throw hmissing
    · exact Run.Meets.pure fun _ h ↦ h
    · refine (result_keeps (hget _ (by simp)) fun url hurl ↦ hget url ?_).bind fun _ ↦
        Run.Meets.pure fun _ h ↦ h
      exact List.mem_cons_of_mem _ (List.mem_cons_of_mem _ (Option.mem_toList.mpr hurl))
    · exact Run.Meets.pure fun _ h ↦ h
  · rename_i url htracking
    rw [htracking] at hget
    refine (hget url List.mem_cons_self).bind fun reply ↦ ?_
    split
    · exact Run.Meets.pure fun _ h ↦ h
    · split
      · exact (bodyAt_keeps (hget _ (by simp))).bind fun _ ↦
          Run.Meets.pure fun _ h ↦ h
      · exact Run.Meets.pure fun _ h ↦ h
  · rename_i htracking
    rw [htracking] at hget
    refine (bodyAt_keeps (hget _ List.mem_cons_self)).bind fun body ↦ ?_
    split
    · exact Run.Meets.pure fun _ h ↦ h
    · exact Run.Meets.pure fun _ h ↦ h

/-- A poll that leaves an operation running has used up an answer.  The case split is the one of
`Poller.poll`, by the way in which the operation is tracked; in the two cases without a request the
operation has ended. -/
theorem poll_pending (n : Nat) :
    (p.poll c w).Meets (fun s ↦ s.answers.length ≤ n)
      (fun progress s ↦ ∀ word, progress = .pending word → s.answers.length < n)
      fun _ _ ↦ True := by
  have hbody : ∀ url, (bodyAt c w url).Meets (fun s ↦ s.answers.length ≤ n)
      (fun _ s ↦ s.answers.length < n) fun _ _ ↦ True := fun url ↦
    (Client.exchange_answers n).bind fun _ ↦ Run.Meets.pure fun _ h ↦ h
  rw [poll]
  split
  · refine Run.Meets.pure fun _ _ word h ↦ ?_
    cases h
  · refine Run.Meets.pure fun _ _ word h ↦ ?_
    cases h
  · refine (hbody _).bind fun body ↦ ?_
    split
    · exact Run.Meets.throw fun _ _ ↦ trivial
    · exact Run.Meets.pure fun _ h _ _ ↦ h
    · refine Run.Meets.trivial.bind fun _ ↦ Run.Meets.pure fun _ _ word h ↦ ?_
      cases h
    · exact Run.Meets.pure fun _ h _ _ ↦ h
  · refine (Client.exchange_answers n).bind fun reply ↦ ?_
    split
    · exact Run.Meets.pure fun _ h _ _ ↦ h
    · split
      · refine Run.Meets.trivial.bind fun _ ↦ Run.Meets.pure fun _ _ word h ↦ ?_
        cases h
      · exact Run.Meets.pure fun _ h _ _ ↦ h
  · refine (hbody _).bind fun body ↦ ?_
    split
    · exact Run.Meets.pure fun _ h _ _ ↦ h
    · exact Run.Meets.pure fun _ h _ _ ↦ h

/-- A look at an operation that has not ended is a sleep and a poll.  The length of the sleep
depends on the session, so the rule asks for all of them. -/
theorem look_meets {Q : Progress → Session → Prop} (hdone : p.isDone = false)
    (hsleep : ∀ t, (w.sleep (some t)).Meets J (fun _ ↦ I) E) (hpoll : (p.poll c w).Meets I Q E) :
    (p.look c o w).Meets J Q E := by
  rw [look, if_neg (by rw [hdone]; exact Bool.false_ne_true)]
  exact Run.Meets.get_bind fun t ht ↦ ((hsleep _).at_session ht).bind fun _ ↦ hpoll

/-- The same for looks: a sleep consumes no answer. -/
theorem look_pending (n : Nat) :
    (p.look c o w).Meets (fun s ↦ s.answers.length ≤ n)
      (fun progress s ↦ ∀ word, progress = .pending word → s.answers.length < n)
      fun _ _ ↦ True := by
  cases hdone : p.isDone with
  | true =>
    rw [look, if_pos hdone]
    exact poll_pending n
  | false =>
    refine look_meets hdone (fun t ↦ ?_) (poll_pending n)
    exact ((Session.stable_answers n).sleep _).mono (fun _ h ↦ h) (fun _ _ h ↦ h)
      fun _ _ _ ↦ trivial

end Poller

/-! ## Rounds

A report is an event in the session of a caller who asked for reports, and nothing for one who did
not.  `Session.noted` is the session after either, so that the rules below need no case for the
caller. -/

namespace Session

/-- The session after a report to a caller who may not ask for it. -/
def noted (s : Session) (o : PollOptions) (e : ProgressEvent) : Session :=
  if o.reports then s.reported e else s

@[simp] theorem now_noted (s : Session) (o : PollOptions) (e : ProgressEvent) :
    (s.noted o e).now = s.now := by
  rw [noted]
  split <;> rfl

@[simp] theorem answers_noted (s : Session) (o : PollOptions) (e : ProgressEvent) :
    (s.noted o e).answers = s.answers := by
  rw [noted]
  split <;> rfl

@[simp] theorem exchanges_noted (s : Session) (o : PollOptions) (e : ProgressEvent) :
    (s.noted o e).exchanges = s.exchanges := by
  rw [noted]
  split <;> rfl

theorem Stable.noted {ok : Request → Prop} (h : Stable ok I) {s : Session} (hs : I s)
    (e : ProgressEvent) : I (s.noted o e) := by
  rw [Session.noted]
  split
  · exact h.reported s e hs
  · exact hs

end Session

namespace Poller

/-- A report never fails. -/
theorem outcome_report (e : ProgressEvent) (s : Session) :
    (report o e).outcome s = (.ok ⟨⟩, s.noted o e) := by
  rw [report, Session.noted]
  split <;> rfl

/-- The rule for the loop: `J` holds before every look.

A look takes `J` to `Q`; from there, a word goes back to `J` across its report, a result goes on to
`R`, and a failure goes on to `E`.  The rule for a look with nothing pending is left to its user.
The induction is on the rounds, with the inequality `answers < rounds` beside `J`: it starts true
and every pending look keeps it, so the case without rounds left has no session to be about. -/
theorem follow_meets {Q : Progress → Session → Prop} {R : Option Json → Session → Prop}
    (hlook : (p.look c o w).Meets J Q E)
    (hpending : ∀ word s, Q (.pending word) s → J (s.noted o (.polling p.path word)))
    (hend : ∀ body s, Q (.done body) s → R body s)
    (hfailed : ∀ f s, Q (.failed f) s → E (.error (.operationFailed f)) s) (n : Nat) :
    (p.follow c o w n).Meets (fun s ↦ J s ∧ s.answers.length < n) R E := by
  induction n with
  | zero => exact Run.Meets.throw fun s hs ↦ absurd hs.2 (Nat.not_lt_zero _)
  | succ n ih =>
    have hround := (hlook.and (look_pending n)).mono
      (fun s (hs : J s ∧ s.answers.length < n + 1) ↦ ⟨hs.1, Nat.le_of_lt_succ hs.2⟩)
      (fun _ _ h ↦ h) fun _ _ h ↦ h.1
    refine hround.bind fun progress ↦ ?_
    cases progress with
    | done body => exact Run.Meets.pure fun s hs ↦ hend body s hs.1
    | failed f => exact Run.Meets.throw fun s hs ↦ hfailed f s hs.1
    | pending word =>
      refine Run.Meets.bind (Q := fun _ s ↦ J s ∧ s.answers.length < n) ?_ fun _ ↦ ih
      refine Run.Meets.of_outcome (outcome_report _) fun s hs ↦ ⟨hpending word s hs.1, ?_⟩
      rw [Session.answers_noted]
      exact hs.2 word rfl

/-- What is left of a wait when its loop has ended: a report of the result or of the error.  A run
that goes on for ever or crashes has neither, and reports nothing. -/
def ending (o : PollOptions) (path : String) :
    Except Stop (Option Json) × Session → Except Stop (Option Json) × Session
  | (.ok body, s) => (.ok body, s.noted o (.completed path))
  | (.error (.error e), s) => (.error (.error e), s.noted o (.failed path e.message))
  | (.error stop, s) => (.error stop, s)

/-- The loop of a wait stands between two reports. -/
theorem outcome_followReported (c : Client) (o : PollOptions) (w : Watch) (p : Poller) (n : Nat)
    (s : Session) :
    (p.followReported c o w n).outcome s =
      ending o p.path ((p.follow c o w n).outcome (s.noted o (.started p.path))) := by
  rw [followReported, Run.outcome_bind_ok (outcome_report _ s), Run.outcome_tryCatch]
  rcases h : (p.follow c o w n).outcome (s.noted o (.started p.path)) with ⟨(e | _ | _) | body, s₁⟩
  · rw [Run.outcome_bind_error h]
    exact Run.outcome_bind_ok (outcome_report _ s₁) _
  · rw [Run.outcome_bind_error h]
    rfl
  · rw [Run.outcome_bind_error h]
    rfl
  · rw [Run.outcome_bind_ok h, Run.outcome_bind_ok (outcome_report _ s₁)]
    rfl

/-- Where the clock can tell when the limit is reached, a wait is its loop between two reports. -/
theorem outcome_wait {s : Session} (h : s.canTime o.policy.timeout = true) (c : Client)
    (p : Poller) :
    (p.wait c o).outcome s =
      ending o p.path ((p.follow c o (.start o.signal o.policy.timeout s.now) (rounds s)).outcome
        (s.noted o (.started p.path))) := by
  rw [wait, Run.outcome_bind_ok (Run.outcome_get s), if_pos h, outcome_followReported]

/-- Where it cannot, there is no wait and no report. -/
theorem outcome_wait_of_crash {s : Session} (h : s.canTime o.policy.timeout = false) (c : Client)
    (p : Poller) : (p.wait c o).outcome s = (.error .crashed, s) := by
  rw [wait, Run.outcome_bind_ok (Run.outcome_get s), h]
  rfl

theorem answers_lt_rounds (s : Session) : s.answers.length < rounds s := Nat.lt_succ_self _

/-- An operation that has ended is not looked after. -/
theorem outcome_follow_of_done {body : Option Json} (hp : p.tracking = .done body) (n : Nat)
    (s : Session) : (p.follow c o w (n + 1)).outcome s = (.ok body, s) := by
  have hlook : (p.look c o w).outcome s = (.ok (.done body), s) := by
    rw [look, isDone, poll, hp]
    rfl
  rw [follow, Run.outcome_bind_ok hlook]
  rfl

/-- A stored failure is handed out in the first round, without a sleep and without a request. -/
theorem outcome_follow_of_failed {failure : OperationFailure}
    (hp : p.tracking = .failed failure) (n : Nat) (s : Session) :
    (p.follow c o w (n + 1)).outcome s = (.error (.error (.operationFailed failure)), s) := by
  have hlook : (p.look c o w).outcome s = (.ok (.failed failure), s) := by
    rw [look, isDone, poll, hp]
    rfl
  rw [follow, Run.outcome_bind_ok hlook]
  rfl

/-- A wait for an operation that has ended reports its beginning and its end, however short the
limit and even if the signal has fired: neither is consulted where there is nothing to wait for. -/
theorem outcome_wait_of_done {body : Option Json} {s : Session}
    (h : s.canTime o.policy.timeout = true) (hp : p.tracking = .done body) :
    (p.wait c o).outcome s =
      (.ok body, (s.noted o (.started p.path)).noted o (.completed p.path)) := by
  rw [outcome_wait h, rounds, outcome_follow_of_done hp]
  rfl

theorem outcome_wait_of_failed {failure : OperationFailure} {s : Session}
    (h : s.canTime o.policy.timeout = true) (hp : p.tracking = .failed failure) :
    (p.wait c o).outcome s = (.error (.error (.operationFailed failure)),
      (s.noted o (.started p.path)).noted o
        (.failed p.path (Error.operationFailed failure).message)) := by
  rw [outcome_wait h, rounds, outcome_follow_of_failed hp]
  rfl

/-- The rule for the loop and its two reports, in a session `t` that is fixed: the watch of the
loop begins in that session, so the loop cannot be spoken of for all sessions at once. -/
theorem followReported_meets {P : Session → Prop} {R : Option Json → Session → Prop} {n : Nat}
    {t : Session} (hfollow : (p.follow c o w n).Meets P R E)
    (hbegin : P (t.noted o (.started p.path)))
    (hend : ∀ body s e, R body s → R body (s.noted o e))
    (hstop : ∀ stop s e, E stop s → E stop (s.noted o e)) :
    (p.followReported c o w n).Meets (· = t) R E := by
  constructor
  · rintro s s₁ body rfl ho
    rw [outcome_followReported] at ho
    rcases h : (p.follow c o w n).outcome (s.noted o (.started p.path)) with
      ⟨(e | _ | _) | body', s₂⟩
    all_goals
      rw [h] at ho
      cases ho
    exact hend _ _ _ (hfollow.ok hbegin h)
  · rintro s s₁ stop rfl ho
    rw [outcome_followReported] at ho
    rcases h : (p.follow c o w n).outcome (s.noted o (.started p.path)) with
      ⟨(e | _ | _) | body', s₂⟩
    all_goals
      rw [h] at ho
      cases ho
    · exact hstop _ _ _ (hfollow.error hbegin h)
    · exact hfollow.error hbegin h
    · exact hfollow.error hbegin h

/-- The rule for waits: what its loop meets, a wait meets, if reports do not matter to it.  The
watch begins in a session where `J` holds. -/
theorem wait_meets {R : Option Json → Session → Prop}
    (hfollow : ∀ t n, J t → (p.follow c o (.start o.signal o.policy.timeout t.now) n).Meets
      (fun s ↦ J s ∧ s.answers.length < n) R E)
    (hstart : ∀ s e, J s → J (s.noted o e)) (hend : ∀ body s e, R body s → R body (s.noted o e))
    (hstop : ∀ stop s e, E stop s → E stop (s.noted o e))
    (hcrash : ∀ s, J s → s.canTime o.policy.timeout = false → E .crashed s) :
    (p.wait c o).Meets J R E := by
  refine Run.Meets.get_bind fun t ht ↦ ?_
  split
  · have hloop : (p.follow c o (.start o.signal o.policy.timeout t.now) (rounds t)).Meets
        (fun s ↦ J s ∧ s.answers.length < rounds t) R E := hfollow t _ ht
    have hbegin : J (t.noted o (.started p.path)) ∧
        (t.noted o (.started p.path)).answers.length < rounds t :=
      ⟨hstart t _ ht, by rw [Session.answers_noted]; exact answers_lt_rounds t⟩
    exact followReported_meets hloop hbegin hend hstop
  · rename_i htime
    exact Run.Meets.throw fun s hs ↦ hs ▸ hcrash t ht (Bool.eq_false_iff.mpr htime)

end Poller

/-! ## What a wait leaves alone

An invariant of sessions that sleeps, reports and permitted requests preserve is preserved by
waits.  The parameter `ok` says which requests are permitted, so one lemma serves for what concerns
tokens, for what concerns addresses, and for what concerns neither. -/

namespace Session

variable {ok : Request → Prop}

/-- A look at an address is an exchange without a body. -/
theorem Steady.getUrl (h : Steady ok I) (hok : ∀ r : Request, r.token = none → ok r) {url : Url}
    (hcall : ∀ token, ok (c.request token .get url none)) :
    (c.getUrl w url).Keeps I fun _ ↦ I :=
  h.exchange hok hcall

/-- An invariant need not outlive reports to outlive a look: a look makes none. -/
theorem Steady.look (h : Steady ok I) (hok : ∀ r : Request, r.token = none → ok r)
    (hcall : ∀ url ∈ p.addresses, ∀ token, ok (c.request token .get url none)) :
    (p.look c o w).Keeps I fun _ ↦ I := by
  have hpoll : (p.poll c w).Keeps I fun _ ↦ I :=
    Poller.poll_keeps (fun url hurl ↦ h.getUrl hok (hcall url hurl)) fun _ hs ↦ hs
  cases hdone : p.isDone with
  | true =>
    rw [Poller.look, if_pos hdone]
    exact hpoll
  | false => exact Poller.look_meets hdone (fun _ ↦ h.sleep _) hpoll

/-- In a loop there are reports between the looks, so here the invariant has to outlive them. -/
theorem Stable.follow (h : Stable ok I) (hok : ∀ r : Request, r.token = none → ok r)
    (hcall : ∀ url ∈ p.addresses, ∀ token, ok (c.request token .get url none)) (n : Nat) :
    (p.follow c o w n).Keeps I fun _ ↦ I := by
  induction n with
  | zero => exact Run.Meets.throw fun _ hs ↦ hs
  | succ n ih =>
    refine (h.look hok hcall).bind fun progress ↦ ?_
    cases progress with
    | done body => exact Run.Meets.pure fun _ hs ↦ hs
    | failed failure => exact Run.Meets.throw fun _ hs ↦ hs
    | pending word =>
      exact (Run.Meets.of_outcome (Poller.outcome_report _) fun _ hs ↦ h.noted hs _).bind
        fun _ ↦ ih

theorem Stable.wait (h : Stable ok I) (hok : ∀ r : Request, r.token = none → ok r)
    (hcall : ∀ url ∈ p.addresses, ∀ token, ok (c.request token .get url none)) :
    (p.wait c o).Keeps I fun _ ↦ I :=
  Poller.wait_meets (fun _ n _ ↦ (h.follow hok hcall n).mono (fun _ hs ↦ hs.1) (fun _ _ hs ↦ hs)
    fun _ _ hs ↦ hs) (fun _ _ hs ↦ h.noted hs _) (fun _ _ _ hs ↦ h.noted hs _)
    (fun _ _ _ hs ↦ h.noted hs _) fun _ hs _ ↦ hs

end Session
end ResourceManager
