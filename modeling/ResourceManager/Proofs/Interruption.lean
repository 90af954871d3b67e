import ResourceManager.Proofs.Polling

/-!
# Waits that are called off

A wait heeds its signal and its limit whatever the network does: no request is made once one of them
has called the wait off, not even one that an answer sends on, and the result says which of them it
was.  An operation that has ended before the wait begins is out of their reach.

`Heeds` is the specification and `Poller.wait_interruption` the theorem.  The proof follows the wait
with two invariants.  `Watch.Guarded` says that every request so far was made at a moment when
nothing had called the wait off, and that no such moment was slept through; it holds throughout.
Inside a look the watch is open besides.  `Watch.Verdict` ties what stops the wait to what the watch
says at the end.

## Why two invariants

Between two looks a wait may have been called off without having noticed: a report counts towards a
signal, and nothing consults the watch behind it.  So all that holds there is `Guarded`.  The next
thing a wait does is to sleep, and a sleep ends with the watch open or not at all
(`Watch.sleep_awake`).  From there on `Awake` holds, and an exchange keeps it as long as it brings
something (`Watch.send_awake`).  That a request is never made behind the firing of the signal is
then no property of requests, but of the order in which sleeps and requests come.

The specification does not mention the watch.  It speaks of the signal, the limit and the moments
of requests, and the last part of the module translates one into the other.
-/

set_option autoImplicit false

namespace ResourceManager

/-! ## Moments go forward

A signal may be due at a point in time, at a number of requests or at a number of reports.  None of
the three ever goes back, so a signal that has fired stays fired, and a request that finds it
unfired was made before. -/

/-- A moment is no later than another one if neither the time nor a count has gone back. -/
instance : LE Moment :=
  ⟨fun m m' ↦ m.time.nanoseconds ≤ m'.time.nanoseconds ∧ m.requests ≤ m'.requests ∧
    m.reports ≤ m'.reports⟩

/-- Every moment is among those that have come by then, the last one of a wait included. -/
theorem Moment.le_refl (m : Moment) : m ≤ m :=
  ⟨Int.le_refl _, Nat.le_refl _, Nat.le_refl _⟩

/-- A trigger that is reached stays reached. -/
theorem Trigger.isReached_mono {trigger : Trigger} {m m' : Moment} (hle : m ≤ m')
    (h : trigger.isReached m = true) : trigger.isReached m' = true := by
  obtain ⟨htime, hrequests, hreports⟩ := hle
  cases trigger with
  | time t => exact decide_eq_true (Int.le_trans (of_decide_eq_true h) htime)
  | events count => exact decide_eq_true (Nat.le_trans (of_decide_eq_true h) hreports)
  | requests count => exact decide_eq_true (Nat.le_trans (of_decide_eq_true h) hrequests)

/-- A signal that has fired stays so. -/
theorem Signal.isFired_mono {signal : Signal} {m m' : Moment} (hle : m ≤ m')
    (h : signal.isFired m = true) : signal.isFired m' = true := by
  obtain ⟨trigger, hmem, hreached⟩ := List.any_eq_true.mp h
  exact List.any_eq_true.mpr ⟨trigger, hmem, trigger.isReached_mono hle hreached⟩

/-! ## What a watch says

A watch that begins now says one of three things at a later moment, and each of the three lemmas
says when, in terms of the signal and the limit alone.  They are what turns statements about the
watch into the specification.  Where the signal has fired and the limit is reached at once, the
signal is what counts. -/

namespace Watch

variable {signal : Signal} {limit : Option Duration} {now : Timestamp} {m : Moment}

/-- The watch is open while the signal has not fired and the limit lies ahead. -/
theorem interruption?_start_eq_none :
    (start signal limit now).interruption? m = .none ↔
      signal.isFired m = false ∧ ∀ d ∈ limit, m.time.nanoseconds < (now.add d).nanoseconds := by
  rw [interruption?, start]
  cases hf : signal.isFired m with
  | true => simp
  | false =>
    cases limit with
    | none => simp
    | some d => simp

/-- A signal that has fired calls the wait off, whether or not the limit is reached as well. -/
theorem interruption?_start_eq_canceled :
    (start signal limit now).interruption? m = some .canceled ↔ signal.isFired m = true := by
  rw [interruption?, start]
  cases hf : signal.isFired m with
  | true => simp
  | false =>
    cases limit with
    | none => simp
    | some d => simp

/-- A limit that is reached calls the wait off unless the signal has. -/
theorem interruption?_start_eq_pollTimeout {d : Duration} :
    (start signal limit now).interruption? m = some (.pollTimeout d) ↔
      signal.isFired m = false ∧ limit = some d ∧
        (now.add d).nanoseconds ≤ m.time.nanoseconds := by
  rw [interruption?, start]
  cases hf : signal.isFired m with
  | true => simp
  | false =>
    cases limit with
    | none => simp
    | some d' =>
      by_cases hle : (now.add d').nanoseconds ≤ m.time.nanoseconds
      · simp [hle]
        rintro rfl
        exact hle
      · simp [hle]
        rintro rfl
        exact Int.not_le.mp hle

-- the limit counts from the very moment, and the signal comes before it
example : (start [] (some ⟨3⟩) ⟨10⟩).interruption? ⟨⟨13⟩, 0, 0⟩ = some (.pollTimeout ⟨3⟩) := rfl
example : (start [.time ⟨13⟩] (some ⟨3⟩) ⟨10⟩).interruption? ⟨⟨13⟩, 0, 0⟩ = some .canceled := rfl

/-- A watch that is due at no point in time has no limit, and its signal waits for requests or
reports only.  Such a wait may last for ever. -/
theorem times_start_eq_nil (h : (start signal limit now).times = []) :
    limit = Option.none ∧ ∀ t, Trigger.time t ∉ signal := by
  obtain ⟨hlimit, hsignal⟩ := List.append_eq_nil_iff.mp h
  refine ⟨?_, fun t ht ↦ ?_⟩
  · cases limit with
    | none => rfl
    | some d => cases hlimit
  · have htime := List.filterMap_eq_nil_iff.mp hsignal _ ht
    cases htime

end Watch

/-! ## The specification -/

/-- What is asked of a wait that was begun in `s` by `o`, whose loop ended in `e` with `result`. -/
structure Heeds (o : PollOptions) (s : Session) (result : Except Stop (Option Json)) (e : Session) :
    Prop where
  /-- A request is only made while the signal has not fired and the limit is not reached.  The
  moments of an exchange are those of all its requests. -/
  requests : ∃ made, e.exchanges = s.exchanges ++ made ∧ ∀ x ∈ made, ∀ m ∈ x.moments,
    o.signal.isFired m = false ∧
      ∀ limit ∈ o.policy.timeout, m.time.nanoseconds < (s.now.add limit).nanoseconds
  /-- Wherever the signal fires on the way, no request is made from there on, and the wait is
  canceled. -/
  fired : ∀ m ≤ e.moment, o.signal.isFired m = true →
    result = .error (.error .canceled) ∧
      ∀ x ∈ e.exchanges.drop s.exchanges.length, ∀ m' ∈ x.moments, ¬ m ≤ m'
  /-- It is canceled for no other reason. -/
  canceled : result = .error (.error .canceled) → o.signal.isFired e.moment = true
  /-- The limit ends the wait when it is reached, and not before. -/
  timeout : ∀ limit, result = .error (.error (.pollTimeout limit)) ↔
    o.signal.isFired e.moment = false ∧ o.policy.timeout = some limit ∧
      (s.now.add limit).nanoseconds ≤ e.now.nanoseconds
  /-- The wait does not outlast its limit, nor a point in time at which the signal fires. -/
  prompt : (∀ limit ∈ o.policy.timeout, e.now.nanoseconds ≤ (s.now.add limit).nanoseconds) ∧
    ∀ t, Trigger.time t ∈ o.signal → e.now.nanoseconds ≤ max s.now.nanoseconds t.nanoseconds
  /-- Only a wait without a limit, whose signal is not due at any point in time, waits for ever. -/
  stuck : result = .error .stuck → o.policy.timeout = none ∧ ∀ t, Trigger.time t ∉ o.signal

/-- What can be wrong with a delivery: it never came, it reports no success, or it is not JSON. -/
theorem Client.replyOf_error_kind {d : Delivery} {e : Error} (h : replyOf d = .error e) :
    (∃ cause, e = .http cause) ∨ (∃ error, e = .service error) ∨ e = .json := by
  cases d with
  | failed cause =>
    cases h
    exact .inl ⟨_, rfl⟩
  | incomplete =>
    cases h
    exact .inl ⟨_, rfl⟩
  | response r =>
    rw [replyOf, Reply.ofResponse] at h
    split at h
    · rw [Reply.bodyOf] at h
      split at h
      · cases h
      · split at h
        · cases h
        · cases h
          exact .inr (.inr rfl)
    · cases h
      exact .inr (.inl ⟨_, rfl⟩)

/-- What is wrong with a reply never looks as if the wait had been called off. -/
theorem Client.replyOf_error {d : Delivery} {e : Error} (h : replyOf d = .error e) :
    e ≠ .canceled ∧ ∀ limit, e ≠ .pollTimeout limit := by
  obtain ⟨cause, rfl⟩ | ⟨error, rfl⟩ | rfl := replyOf_error_kind h
  all_goals
    refine ⟨fun hcanceled ↦ ?_, fun limit htimeout ↦ ?_⟩
    · cases hcanceled
    · cases htimeout

/-! ## Requests under a watch

What is said here of one exchange holds of all the requests it makes, the ones that an answer sends
on included: each of those is made only if the watch is still open when the answer before it is
there. -/

namespace Watch

variable {w : Watch} {s s₁ : Session}

/-- A watch that is open has not come to any point in time at which it is due. -/
theorem IsOpen.lt_of_mem_times (h : w.IsOpen s) {u : Timestamp} (hu : u ∈ w.times) :
    s.now.nanoseconds < u.nanoseconds := by
  refine Int.lt_of_not_ge fun hle ↦ ?_
  obtain ⟨e, he⟩ := interruption?_of_mem_times (m := s.moment) hu hle
  rw [h] at he
  cases he

theorem Passed.prompt (h : w.Passed s s₁) {u : Timestamp} (hu : u ∈ w.times) :
    s₁.now.nanoseconds ≤ max s.now.nanoseconds u.nanoseconds := by
  cases h with
  | same => exact Int.le_max_left _ _
  | upTo ht =>
    rw [Session.now_passedTo]
    exact Int.max_le.mpr ⟨Int.le_max_left _ _, Int.le_trans (ht u hu) (Int.le_max_right _ _)⟩

end Watch

namespace Request

variable {r : Request} {w : Watch} {s : Session} {x : Exchange} {t : Timestamp}
  {result : Except Stop Delivery}

/-- Redirects are followed in front of the points in time at which the watch is due. -/
theorem Underway.prompt (h : r.Underway w s x t) {u : Timestamp} (hu : u ∈ w.times) :
    t.nanoseconds ≤ max s.now.nanoseconds u.nanoseconds := by
  cases h with
  | sent => exact Int.le_max_left _ _
  | redirected _ _ hopen =>
    exact Int.le_trans (Int.le_of_lt (hopen.lt_of_mem_times hu)) (Int.le_max_right _ _)

/-- A request does not outlast the points in time at which the watch is due. -/
theorem Sending.prompt (h : r.Sending w s result x t) {u : Timestamp} (hu : u ∈ w.times) :
    t.nanoseconds ≤ max s.now.nanoseconds u.nanoseconds := by
  cases h with
  | unsent => exact Int.le_max_left _ _
  | answered _ _ _ hopen =>
    exact Int.le_trans (Int.le_of_lt (hopen.lt_of_mem_times hu)) (Int.le_max_right _ _)
  | calledOff _ hway hpass =>
    exact Int.le_trans (hpass.prompt hu) (Int.max_le.mpr ⟨hway.prompt hu, Int.le_max_right _ _⟩)
  | unanswered _ hway => exact hway.prompt hu

/-- Under an open watch, no request of an exchange is made once the wait has been called off. -/
theorem Sending.moments_open (h : r.Sending w s result x t) (hopen : w.IsOpen s) :
    ∀ m ∈ x.moments, w.interruption? m = none := by
  have hredirects : ∀ redirect ∈ x.redirects, w.interruption? redirect.moment = none := by
    cases h with
    | unsent => exact fun _ hmem ↦ absurd hmem List.not_mem_nil
    | answered _ hway => exact hway.redirects_open
    | calledOff _ hway => exact hway.redirects_open
    | unanswered _ hway => exact hway.redirects_open
  intro m hm
  rcases List.mem_cons.mp hm with rfl | hm
  · rw [h.moment_eq]
    exact hopen
  · obtain ⟨redirect, hmem, rfl⟩ := List.mem_map.mp hm
    exact hredirects redirect hmem

end Request

/-! ## The two invariants -/

namespace Watch

variable {w : Watch} {start s s' : Session}

/-- All requests since the start were made while the watch was open, and the time has not passed a
point at which the watch was due. -/
structure Guarded (w : Watch) (start s : Session) : Prop where
  requests : ∃ made, s.exchanges = start.exchanges ++ made ∧
    ∀ x ∈ made, ∀ m ∈ x.moments, w.interruption? m = Option.none
  prompt : ∀ t ∈ w.times, s.now.nanoseconds ≤ max start.now.nanoseconds t.nanoseconds

/-- The watch is open as well. -/
def Awake (w : Watch) (start s : Session) : Prop := w.Guarded start s ∧ w.IsOpen s

/-- What stops the wait is what the watch says; while that says nothing, it is something else, and
it is a wait for ever only if the watch is not due at any point in time. -/
def Verdict (w : Watch) (stop : Stop) (s : Session) : Prop :=
  match w.interruption? s.moment with
  | some e => stop = .error e
  | .none => stop ≠ .error .canceled ∧ (∀ d, stop ≠ .error (.pollTimeout d)) ∧
    (stop = .stuck → w.times = [])

/-- The wait was stopped where both hold. -/
def Ended (w : Watch) (start : Session) (stop : Stop) (s : Session) : Prop :=
  w.Guarded start s ∧ w.Verdict stop s

/-- The wait begins with a report, which neither is a request nor takes time. -/
theorem Guarded.refl (h : s.exchanges = start.exchanges) (hnow : s.now = start.now) :
    w.Guarded start s := by
  refine ⟨⟨[], ?_, fun _ hx ↦ absurd hx List.not_mem_nil⟩, fun t _ ↦ ?_⟩
  · rw [h, List.append_nil]
  · rw [hnow]
    exact Int.le_max_left _ _

/-- One more exchange.  Its first request is made where the watch is open, and the watch is heeded
from there to its end, so neither its moments nor its time break the guard.  Whether the watch is
still open at the end is another matter: the wait may have been called off on the way. -/
theorem Guarded.made (h : w.Guarded start s) (hopen : w.IsOpen s) {r : Request}
    {result : Except Stop Delivery} {x : Exchange} {t : Timestamp}
    (hsend : r.Sending w s result x t) : w.Guarded start (s.made x t) := by
  obtain ⟨made, hlog, hmade⟩ := h.requests
  refine ⟨⟨made ++ [x], ?_, fun y hy ↦ ?_⟩, fun u hu ↦ ?_⟩
  · rw [Session.exchanges_made, hlog, List.append_assoc]
  · rcases List.mem_append.mp hy with hy | hy
    · exact hmade y hy
    · rw [List.mem_singleton.mp hy]
      exact hsend.moments_open hopen
  · exact Int.le_trans (hsend.prompt hu) (Int.max_le.mpr ⟨h.prompt u hu, Int.le_max_right _ _⟩)

/-- A step that neither sends nor takes time, such as a report or a token that is kept. -/
theorem Guarded.of_eq (h : w.Guarded start s) (he : s'.exchanges = s.exchanges)
    (hnow : s'.now = s.now) : w.Guarded start s' where
  requests := he ▸ h.requests
  prompt := hnow ▸ h.prompt

/-- Time that passes under a watch does not pass the point at which the watch is due. -/
theorem Guarded.passed (h : w.Guarded start s) (hpass : w.Passed s s') : w.Guarded start s' where
  requests := by
    rw [hpass.exchanges_eq]
    exact h.requests
  prompt u hu :=
    Int.le_trans (hpass.prompt hu) (Int.max_le.mpr ⟨h.prompt u hu, Int.le_max_right _ _⟩)

/-- Where the watch has called the wait off, the verdict is the watch's own. -/
theorem Ended.calledOff {e : Error} (h : w.Guarded start s)
    (he : w.interruption? s.moment = some e) : w.Ended start (.error e) s := by
  refine ⟨h, ?_⟩
  rw [Verdict, he]

/-- An error that has nothing to do with the watch, found while the watch is open.  The hypotheses
are needed: an error of the same name that came from somewhere else would be a false verdict. -/
theorem Ended.failed {e : Error} (h : w.Awake start s) (hcanceled : e ≠ .canceled)
    (htimeout : ∀ d, e ≠ .pollTimeout d) : w.Ended start (.error e) s := by
  refine ⟨h.1, ?_⟩
  rw [Verdict, h.2]
  refine ⟨?_, fun d ↦ ?_, nofun⟩
  · rintro ⟨⟩
    exact hcanceled rfl
  · rintro ⟨⟩
    exact htimeout d rfl

/-- A wait for ever is no verdict of the watch, so the watch must have been open, and due at no
point in time. -/
theorem Ended.stuck (h : w.Awake start s) (htimes : w.times = []) : w.Ended start .stuck s := by
  refine ⟨h.1, ?_⟩
  rw [Verdict, h.2]
  exact ⟨nofun, nofun, fun _ ↦ htimes⟩

/-! ## The steps of a look -/

/-- A sleep leads from the guarded sessions between two looks into the open watch of a look.  This
is the one step that establishes `Awake`; the others keep it. -/
theorem sleep_awake (t : Timestamp) :
    (w.sleep (some t)).Meets (w.Guarded start) (fun _ ↦ w.Awake start) (w.Ended start) where
  ok {s _ _} hs ho := by
    have hsleep := w.sleeping (some t) s
    rw [ho] at hsleep
    cases hsleep with
    | awake _ hpass hopen => exact ⟨hs.passed hpass, hopen⟩
  error {s _ _} hs ho := by
    have hsleep := w.sleeping (some t) s
    rw [ho] at hsleep
    cases hsleep with
    | calledOff hpass he => exact .calledOff (hs.passed hpass) he
    | forever hwake => cases hwake

/-- A request leaves the watch open if it brings something.  Where it does not, the watch has called
the wait off, or there is nothing to wait for that would ever call it off. -/
theorem send_awake (r : Request) : (r.send w).Keeps (w.Awake start) (w.Ended start) := by
  constructor
  · intro s s₁ d hs ho
    obtain ⟨x, t, hsession, hsend⟩ := r.sending w s
    rw [ho] at hsession hsend
    obtain rfl : s₁ = s.made x t := hsession
    refine ⟨hs.1.made hs.2 hsend, ?_⟩
    cases hsend with
    | @unsent cause =>
      rw [IsOpen, ← s.refused_eq, Session.moment_refused]
      exact hs.2
    | answered _ hway _ hopen _ =>
      rw [IsOpen, Request.moment_answered hway.fate_eq]
      exact hopen
  · intro s s₁ stop hs ho
    obtain ⟨x, t, hsession, hsend⟩ := r.sending w s
    rw [ho] at hsession hsend
    obtain rfl : s₁ = s.made x t := hsession
    have hguard := hs.1.made hs.2 hsend
    cases hsend with
    | calledOff _ _ _ he => exact .calledOff hguard he
    | unanswered _ _ _ hopen htimes => exact .stuck ⟨hguard, hopen⟩ htimes

/-- An exchange consults the watch through its two requests, the one for the token and its own.
All that is left is what can be wrong with an answer that has come, and none of that is mistaken
for a wait that was called off. -/
theorem getUrl_awake (c : Client) (url : Url) :
    (c.getUrl w url).Keeps (w.Awake start) (w.Ended start) := by
  refine Client.exchange_meets (J := w.Awake start) (D := fun _ ↦ w.Awake start) ?_
    (fun _ ↦ send_awake _) (fun d s e hs he ↦ ?_) fun _ _ _ hs _ ↦ hs
  · exact TokenSource.token_meets (fun _ hs ↦ hs) (fun _ _ _ hs ↦ hs) (fun _ _ ↦ send_awake _)
      (fun _ _ _ hs _ ↦ .failed hs nofun nofun) fun _ _ _ hs _ ↦ ⟨hs.1.of_eq rfl rfl, hs.2⟩
  · obtain ⟨hcanceled, htimeout⟩ := Client.replyOf_error he
    exact .failed hs hcanceled htimeout

end Watch

namespace Poller

variable {c : Client} {o : PollOptions} {w : Watch} {p : Poller} {start : Session}

/-- Because the sleep comes first, a look asks only for the guard and hands on an open watch. -/
theorem look_awake (hdone : p.isDone = false) :
    (p.look c o w).Meets (w.Guarded start) (fun _ ↦ w.Awake start) (w.Ended start) :=
  look_meets hdone (fun t ↦ w.sleep_awake t)
    (poll_keeps (fun url _ ↦ w.getUrl_awake c url) fun _ hs ↦ .failed hs nofun nofun)

/-- The report between two looks gives up the open watch, and the look behind it wins it back; the
guard goes through both. -/
theorem follow_awake (hdone : p.isDone = false) (n : Nat) :
    (p.follow c o w n).Meets (fun s ↦ w.Guarded start s ∧ s.answers.length < n)
      (fun _ ↦ w.Awake start) (w.Ended start) :=
  follow_meets (look_awake hdone)
    (fun _ s hs ↦ hs.1.of_eq (s.exchanges_noted o _) (s.now_noted o _)) (fun _ _ hs ↦ hs)
    (fun _ _ hs ↦ .failed hs nofun nofun) n

end Poller

/-! ## Waits

From the invariants to the specification.  A guarded session has heeded the watch in all its
requests and in its time; what is left is to say of the result which of the two it owes to. -/

section

variable {o : PollOptions} {s e : Session}

/-- Every request since the start was made while the signal had not fired, before the limit. -/
theorem Watch.Guarded.requests_heeded
    (h : (Watch.start o.signal o.policy.timeout s.now).Guarded s e) :
    ∃ made, e.exchanges = s.exchanges ++ made ∧ ∀ x ∈ made, ∀ m ∈ x.moments,
      o.signal.isFired m = false ∧
        ∀ limit ∈ o.policy.timeout, m.time.nanoseconds < (s.now.add limit).nanoseconds := by
  obtain ⟨made, hlog, hmade⟩ := h.requests
  exact ⟨made, hlog, fun x hx m hm ↦ Watch.interruption?_start_eq_none.mp (hmade x hx m hm)⟩

/-- A signal that has fired has not fired for any request before. -/
theorem Watch.Guarded.not_le
    (h : (Watch.start o.signal o.policy.timeout s.now).Guarded s e) {m : Moment}
    (hm : o.signal.isFired m = true) :
    ∀ x ∈ e.exchanges.drop s.exchanges.length, ∀ m' ∈ x.moments, ¬ m ≤ m' := by
  obtain ⟨made, hlog, hmade⟩ := h.requests_heeded
  rw [hlog, List.drop_left]
  intro x hx m' hm' hle
  have hunfired := (hmade x hx m' hm').1
  rw [Signal.isFired_mono hle hm] at hunfired
  cases hunfired

/-- The limit and the points in time of the signal are where the watch is due, so neither is slept
through.  A point in time that lies before the start bounds nothing, hence the maximum. -/
theorem Watch.Guarded.prompt_heeded
    (h : (Watch.start o.signal o.policy.timeout s.now).Guarded s e) :
    (∀ limit ∈ o.policy.timeout, e.now.nanoseconds ≤ (s.now.add limit).nanoseconds) ∧
      ∀ t, Trigger.time t ∈ o.signal →
        e.now.nanoseconds ≤ max s.now.nanoseconds t.nanoseconds := by
  refine ⟨fun limit hlimit ↦ ?_, fun t ht ↦ ?_⟩
  · have hdue : s.now.add limit ∈ (Watch.start o.signal o.policy.timeout s.now).times := by
      rw [Watch.times, Watch.start, Option.mem_def.mp hlimit]
      exact List.mem_append_left _ (List.mem_singleton.mpr rfl)
    have hprompt := h.prompt _ hdue
    refine Int.le_trans hprompt (Int.max_le.mpr ⟨?_, Int.le_refl _⟩)
    exact Int.le_add_of_nonneg_right (Int.natCast_nonneg _)
  · exact h.prompt t (List.mem_append_right _ (List.mem_filterMap.mpr ⟨_, ht, rfl⟩))

/-- A wait with a value has been open to its end. -/
theorem Heeds.of_awake (body : Option Json)
    (h : (Watch.start o.signal o.policy.timeout s.now).Awake s e) :
    Heeds o s (.ok body) e := by
  obtain ⟨hguard, hopen⟩ := h
  obtain ⟨hunfired, hbefore⟩ := Watch.interruption?_start_eq_none.mp hopen
  refine ⟨hguard.requests_heeded, fun m hle hm ↦ ?_, nofun, fun limit ↦ ⟨nofun, ?_⟩,
    hguard.prompt_heeded, nofun⟩
  · rw [Signal.isFired_mono hle hm] at hunfired
    cases hunfired
  · rintro ⟨-, hlimit, hreached⟩
    exact absurd (hbefore limit hlimit) (Int.not_lt.mpr hreached)

/-- A wait that was stopped was stopped by what the watch says. -/
theorem Heeds.of_ended {stop : Stop}
    (h : (Watch.start o.signal o.policy.timeout s.now).Ended s stop e) :
    Heeds o s (.error stop) e := by
  obtain ⟨hguard, hverdict⟩ := h
  rw [Watch.Verdict] at hverdict
  split at hverdict
  · -- the watch has said something, so this is what the wait ends with
    rename_i cause hcause
    rw [hverdict]
    refine ⟨hguard.requests_heeded, fun m hle hm ↦ ⟨?_, hguard.not_le hm⟩, ?_,
      fun limit ↦ ⟨?_, ?_⟩, hguard.prompt_heeded, nofun⟩
    · have hcanceled : (Watch.start o.signal o.policy.timeout s.now).interruption? e.moment =
          some .canceled :=
        Watch.interruption?_start_eq_canceled.mpr (Signal.isFired_mono hle hm)
      rw [Option.some_inj.mp (hcause.symm.trans hcanceled)]
    · rintro ⟨⟩
      exact Watch.interruption?_start_eq_canceled.mp hcause
    · rintro ⟨⟩
      exact Watch.interruption?_start_eq_pollTimeout.mp hcause
    · intro hlimit
      have htimeout : (Watch.start o.signal o.policy.timeout s.now).interruption? e.moment =
          some (.pollTimeout limit) :=
        Watch.interruption?_start_eq_pollTimeout.mpr hlimit
      rw [Option.some_inj.mp (hcause.symm.trans htimeout)]
  · rename_i hopen
    obtain ⟨hcanceled, htimeout, hstuck⟩ := hverdict
    obtain ⟨hunfired, hbefore⟩ := Watch.interruption?_start_eq_none.mp hopen
    refine ⟨hguard.requests_heeded, fun m hle hm ↦ ?_, ?_, fun limit ↦ ⟨?_, ?_⟩,
      hguard.prompt_heeded, ?_⟩
    · rw [Signal.isFired_mono hle hm] at hunfired
      cases hunfired
    · rintro ⟨⟩
      exact absurd rfl hcanceled
    · rintro ⟨⟩
      exact absurd rfl (htimeout limit)
    · rintro ⟨-, hlimit, hreached⟩
      exact absurd (hbefore limit hlimit) (Int.not_lt.mpr hreached)
    · rintro ⟨⟩
      exact Watch.times_start_eq_nil (hstuck rfl)

end

namespace Poller

/-- The wait for an operation that has not ended. -/
theorem wait_heeds {c : Client} {o : PollOptions} {p : Poller} {s : Session}
    (hclock : s.canTime o.policy.timeout = true) (hdone : p.isDone = false) :
    ∃ result e, (p.wait c o).outcome s = ending o p.path (result, e) ∧ Heeds o s result e := by
  rw [outcome_wait hclock]
  have hstart : (Watch.start o.signal o.policy.timeout s.now).Guarded s
      (s.noted o (.started p.path)) :=
    .refl (s.exchanges_noted o _) (s.now_noted o _)
  have hrounds : (s.noted o (.started p.path)).answers.length < rounds s := by
    rw [Session.answers_noted]
    exact answers_lt_rounds s
  have hfollow : (p.follow c o (.start o.signal o.policy.timeout s.now) (rounds s)).Meets _
      (fun _ ↦ (Watch.start o.signal o.policy.timeout s.now).Awake s)
      ((Watch.start o.signal o.policy.timeout s.now).Ended s) :=
    follow_awake hdone (rounds s)
  rcases h : (p.follow c o (.start o.signal o.policy.timeout s.now) (rounds s)).outcome
    (s.noted o (.started p.path)) with ⟨stop | body, e⟩
  · exact ⟨.error stop, e, rfl, .of_ended (hfollow.error ⟨hstart, hrounds⟩ h)⟩
  · exact ⟨.ok body, e, rfl, .of_awake body (hfollow.ok ⟨hstart, hrounds⟩ h)⟩

/-- **A wait heeds its signal and its limit**, where the clock can tell when the limit is reached.
When the operation has ended already, they have no part in it: the outcome is the one at hand, and
nothing happens but the two reports.  Else the loop of the wait ends in a session in which both have
been heeded; the closing report is all that comes after it. -/
theorem wait_interruption (c : Client) (o : PollOptions) (p : Poller) (s : Session) :
    if s.canTime o.policy.timeout then
      match p.tracking with
      | .done body => (p.wait c o).outcome s =
          (.ok body, (s.noted o (.started p.path)).noted o (.completed p.path))
      | .failed failure => (p.wait c o).outcome s =
          (.error (.error (.operationFailed failure)), (s.noted o (.started p.path)).noted o
            (.failed p.path (Error.operationFailed failure).message))
      | _ => ∃ result e,
          (p.wait c o).outcome s = ending o p.path (result, e) ∧ Heeds o s result e
    else (p.wait c o).outcome s = (.error .crashed, s) := by
  split
  · rename_i hclock
    split
    · rename_i body hp
      exact outcome_wait_of_done hclock hp
    · rename_i failure hp
      exact outcome_wait_of_failed hclock hp
    · rename_i hdone hfailed
      refine wait_heeds hclock ?_
      rw [isDone]
      split
      · rename_i body hp
        exact absurd hp (hdone body)
      · rename_i failure hp
        exact absurd hp (hfailed failure)
      · rfl
  · rename_i hclock
    exact outcome_wait_of_crash (Bool.eq_false_iff.mpr hclock) c p

end Poller
end ResourceManager
