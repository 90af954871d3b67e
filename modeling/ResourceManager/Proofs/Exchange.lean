import ResourceManager.Client.Basic
import ResourceManager.Proofs.Run

/-!
# What becomes of a request

Everything a client does on the network is done by `Request.send`, and whatever comes of it, the
session has one more exchange in its log behind it.  `Session.made` is that session.

`Request.Underway` says how far a request may get: it is sent, and each answer that sends it on
makes one more redirect of the exchange.  `Request.Sending` lists all that can come of it then: the
request is not sent at all, it is answered, the wait is called off while it is on its way, or nobody
answers and nothing will ever call the wait off.  `Request.sending` says that the list is complete;
whatever later files say about requests is read off it.

The program waits for an answer in a loop that counts the redirects it may still follow down, while
the log counts those that were followed up.  `Request.Underway` is the invariant that brings the two
together: an exchange with `n` redirects has used up `n + 1` answers, and the next one that comes is
the answer in place `n + 1` of the session in which the request was made.  So nothing has to be said
about the sessions in between.

What calls a wait off is looked at when a wait begins and when it ends, and time passes in between
up to the first thing that is due.  `Watch.Sleeping` says that of every wait, for a fixed time or
for an answer; the point is that a wait which nothing calls off ends when it should, and that one
which never ends has nothing that could have called it off.

The last part is about what a run leaves alone.  A run does four things to a session: it makes
requests, it lets time pass, it keeps a token and it reports.  `Session.Steady` says of a property
that none of the first three destroys it, which is enough for tokens and exchanges; with the fourth
it is `Session.Stable`, which is enough for a whole wait.
-/

set_option autoImplicit false

namespace ResourceManager

/-! ## Watching -/

namespace Watch

variable {w : Watch} {s : Session}

/-- The wait has not been called off. -/
def IsOpen (w : Watch) (s : Session) : Prop := w.interruption? s.moment = Option.none

/-- A check does nothing to the session.  All it does is to end the run. -/
theorem outcome_check (w : Watch) (s : Session) :
    w.check.outcome s =
      match w.interruption? s.moment with
      | some e => (.error (.error e), s)
      | .none => (.ok ⟨⟩, s) := by
  rw [check, Run.outcome_bind_ok (Run.outcome_get s)]
  cases w.interruption? s.moment with
  | some e => rfl
  | none => rfl

theorem outcome_check_of_isOpen (h : w.IsOpen s) : w.check.outcome s = (.ok ⟨⟩, s) := by
  rw [outcome_check, h]

theorem outcome_check_of_interruption {e : Error} (h : w.interruption? s.moment = some e) :
    w.check.outcome s = (.error (.error e), s) := by
  rw [outcome_check, h]

-- The earliest of some points in time is the one at which a sleep ends.  It is one of them, it is
-- there when there is any, and no other one is before it.
theorem earliest?_mem : ∀ {times : List Timestamp} {t : Timestamp},
    earliest? times = some t → t ∈ times
  | [], t, h => by simp [earliest?] at h
  | u :: rest, t, h => by
    rw [earliest?] at h
    split at h
    · rename_i v hv
      rw [Option.some_inj] at h
      split at h
      · rw [← h]
        exact List.mem_cons_of_mem _ (earliest?_mem hv)
      · rw [← h]
        exact List.mem_cons_self
    · rw [Option.some_inj] at h
      rw [h]
      exact List.mem_cons_self

theorem isBefore_iff {t u : Timestamp} : t.isBefore u = true ↔ t.nanoseconds < u.nanoseconds := by
  rw [Timestamp.isBefore, decide_eq_true_eq]

theorem earliest?_eq_none : ∀ {times : List Timestamp}, earliest? times = Option.none → times = []
  | [], _ => rfl
  | _ :: rest, h => by
    rw [earliest?] at h
    split at h <;> cases h

/-- No other one comes before the first point in time. -/
theorem earliest?_le : ∀ {times : List Timestamp} {t : Timestamp}, earliest? times = some t →
    ∀ u ∈ times, t.nanoseconds ≤ u.nanoseconds
  | [], _, _ => fun _ hu ↦ absurd hu List.not_mem_nil
  | v :: rest, t, h => by
    rw [earliest?] at h
    intro u hu
    split at h
    · rename_i w hw
      have hrest := earliest?_le hw
      rw [Option.some_inj] at h
      by_cases hwv : w.isBefore v = true
      · rw [if_pos hwv] at h
        rw [isBefore_iff] at hwv
        rcases List.mem_cons.mp hu with rfl | hu
        · exact h ▸ Int.le_of_lt hwv
        · exact h ▸ hrest u hu
      · rw [if_neg hwv] at h
        rw [isBefore_iff, Int.not_lt] at hwv
        rcases List.mem_cons.mp hu with rfl | hu
        · exact h ▸ Int.le_refl _
        · exact h ▸ Int.le_trans hwv (hrest u hu)
    · rename_i hnone
      rw [Option.some_inj] at h
      rcases List.mem_cons.mp hu with rfl | hu
      · exact h ▸ Int.le_refl _
      · rw [earliest?_eq_none hnone] at hu
        exact absurd hu List.not_mem_nil

/-- Once a point in time has come at which the wait may be called off, it is. -/
theorem interruption?_of_mem_times {t : Timestamp} {m : Moment} (ht : t ∈ w.times)
    (hm : t.nanoseconds ≤ m.time.nanoseconds) : ∃ e, w.interruption? m = some e := by
  rw [interruption?]
  by_cases hf : w.signal.isFired m = true
  · rw [if_pos hf]
    exact ⟨_, rfl⟩
  · rw [if_neg hf]
    rw [times, List.mem_append] at ht
    rcases ht with hd | hs
    · cases hw : w.deadline with
      | none => simp [hw] at hd
      | some d =>
        rw [hw] at hd
        simp only [Option.map_some, Option.toList_some, List.mem_singleton] at hd
        rw [hd] at hm
        exact ⟨_, if_pos hm⟩
      -- of what a signal waits for only the clock is known beforehand
    · obtain ⟨trigger, htrigger, htime⟩ := List.mem_filterMap.mp hs
      cases trigger with
      | time u =>
        rw [Trigger.time?, Option.some_inj] at htime
        refine absurd (List.any_eq_true.mpr ⟨_, htrigger, ?_⟩) hf
        rw [htime]
        exact decide_eq_true hm
      | events => cases htime
      | requests => cases htime

/-- Two things call a wait off, and each has an error of its own. -/
theorem interruption?_cases {w : Watch} {m : Moment} {e : Error} (h : w.interruption? m = some e) :
    e = .canceled ∨ ∃ d, e = .pollTimeout d := by
  rw [interruption?] at h
  split at h
  · exact .inl (Option.some_inj.mp h).symm
  · split at h
    · rename_i d _
      split at h
      · exact .inr ⟨d.limit, (Option.some_inj.mp h).symm⟩
      · cases h
    · cases h

end Watch

namespace Session

/-- The answer to the request behind so many others.  All connections are closed behind the last
one. -/
def arrival (s : Session) (n : Nat) : Arrival :=
  s.answers[n]?.getD (.after ⟨0⟩ .dropped)

/-- The answers are counted from the session in which a request was made. -/
theorem nextArrival_eq (s : Session) : s.nextArrival = s.arrival 0 := by
  rw [nextArrival, arrival, List.head?_eq_getElem?]

/-- Where there is no answer left, the network is closed rather than silent.  So a list of answers
describes what the network does for good, and silence has to be asked for. -/
theorem arrival_of_le {s : Session} {n : Nat} (h : s.answers.length ≤ n) :
    s.arrival n = .after ⟨0⟩ .dropped := by
  rw [arrival, List.getElem?_eq_none h]
  rfl

/-- Silence is an answer like any other: it is in store. -/
theorem never_mem_of_arrival {s : Session} {n : Nat} (h : s.arrival n = .never) :
    .never ∈ s.answers := by
  rw [arrival] at h
  cases hn : s.answers[n]? with
  | none =>
    rw [hn] at h
    cases h
  | some arrival =>
    rw [hn] at h
    exact h ▸ List.mem_of_getElem? hn

/-- The session with one more exchange, which has taken until a point in time.  Each of its requests
has used up an answer. -/
def made (s : Session) (x : Exchange) (t : Timestamp) : Session :=
  { s with
    now := t
    answers := s.answers.drop x.requests.length
    exchanges := s.exchanges ++ [x] }

-- What a session is behind an exchange, one lemma for each field that is looked at.
@[simp] theorem now_made (s : Session) (x : Exchange) (t : Timestamp) : (s.made x t).now = t := rfl

@[simp] theorem exchanges_made (s : Session) (x : Exchange) (t : Timestamp) :
    (s.made x t).exchanges = s.exchanges ++ [x] := rfl

@[simp] theorem answers_made (s : Session) (x : Exchange) (t : Timestamp) :
    (s.made x t).answers = s.answers.drop x.requests.length := rfl

/-- An exchange may have sent several requests, or none. -/
theorem requests_made (s : Session) (x : Exchange) (t : Timestamp) :
    (s.made x t).requests = s.requests ++ x.requests := by
  rw [requests, exchanges_made, List.flatMap_append, List.flatMap_singleton, requests]

theorem moment_made (s : Session) (x : Exchange) (t : Timestamp) :
    (s.made x t).moment = ⟨t, s.requests.length + x.requests.length, s.events.length⟩ := by
  rw [moment, requests_made, List.length_append]
  rfl

theorem nextArrival_made (s : Session) (x : Exchange) (t : Timestamp) :
    (s.made x t).nextArrival = s.arrival x.requests.length := by
  rw [nextArrival, answers_made, List.head?_drop, arrival]

/-- A request that has just been sent is an exchange of which nothing is known yet. -/
theorem sent_eq (s : Session) (r : Request) :
    s.sent r = s.made ⟨s.moment, r, [], .underway⟩ s.now := by
  have hanswers : s.answers.tail = s.answers.drop 1 := List.drop_one.symm
  rw [sent, hanswers]
  rfl

/-- And one that is not sent is over at once. -/
theorem refused_eq (s : Session) (r : Request) (cause : TransportError) :
    s.refused r cause = s.made ⟨s.moment, r, [], .unsent cause⟩ s.now := rfl

/-- A request that is not sent takes nothing from the network and counts as none. -/
theorem moment_refused (s : Session) (r : Request) (cause : TransportError) :
    (s.refused r cause).moment = s.moment := by
  rw [refused_eq, moment_made]
  rfl

/-- The session at a point in time, unless that is past already. -/
def passedTo (s : Session) (t : Timestamp) : Session :=
  if s.now.isBefore t then s.advancedTo t else s

-- Time only goes on, and with it nothing else changes.
theorem le_passedTo (s : Session) (t : Timestamp) :
    t.nanoseconds ≤ (s.passedTo t).now.nanoseconds := by
  rw [passedTo]
  split
  · exact Int.le_refl _
  · rename_i h
    rw [Watch.isBefore_iff] at h
    exact Int.not_lt.mp h

theorem now_passedTo (s : Session) (t : Timestamp) :
    (s.passedTo t).now.nanoseconds = max s.now.nanoseconds t.nanoseconds := by
  rw [passedTo]
  split
  · rename_i h
    rw [Watch.isBefore_iff] at h
    exact (Int.max_eq_right (Int.le_of_lt h)).symm
  · rename_i h
    rw [Watch.isBefore_iff, Int.not_lt] at h
    exact (Int.max_eq_left h).symm

theorem exchanges_passedTo (s : Session) (t : Timestamp) :
    (s.passedTo t).exchanges = s.exchanges := by
  rw [passedTo]
  split <;> rfl

/-- What lies ahead is not past. -/
theorem passedTo_add (s : Session) (d : Duration) :
    s.passedTo (s.now.add d) = s.advancedTo (s.now.add d) := by
  rw [passedTo]
  split
  · rfl
  · rename_i h
    rw [Watch.isBefore_iff, Int.not_lt] at h
    have hle : s.now.nanoseconds + (d.nanoseconds : Int) ≤ s.now.nanoseconds := h
    have hd : (d.nanoseconds : Int) = 0 := by omega
    have hnow : s.now.add d = s.now := by
      rw [Timestamp.add, hd, Int.add_zero]
    rw [hnow]
    rfl

end Session

namespace Watch

/-- The time has passed in which the wait cannot be called off, at most. -/
inductive Passed (w : Watch) (s : Session) : Session → Prop
  | same : Passed w s s
  | upTo {t : Timestamp} (ht : ∀ u ∈ w.times, t.nanoseconds ≤ u.nanoseconds) :
      Passed w s (s.passedTo t)

-- While time passes nothing is sent and nothing comes in.
theorem Passed.exchanges_eq {w : Watch} {s s₁ : Session} (h : w.Passed s s₁) :
    s₁.exchanges = s.exchanges := by
  cases h with
  | same => rfl
  | upTo => exact s.exchanges_passedTo _

theorem Passed.answers_eq {w : Watch} {s s₁ : Session} (h : w.Passed s s₁) :
    s₁.answers = s.answers := by
  cases h with
  | same => rfl
  | upTo =>
    rw [Session.passedTo]
    split <;> rfl

theorem Passed.now_le {w : Watch} {s s₁ : Session} (h : w.Passed s s₁) :
    s.now.nanoseconds ≤ s₁.now.nanoseconds := by
  cases h with
  | same => exact Int.le_refl _
  | upTo =>
    rw [s.now_passedTo]
    exact Int.le_max_left _ _

/-- All that can come of a sleep: time passes until the wait is called off or until it is time to
wake up, or nothing will ever end the sleep. -/
inductive Sleeping (w : Watch) (wakeUp : Option Timestamp) (s : Session) :
    Except Stop PUnit → Session → Prop
  | calledOff {e : Error} {s₁ : Session} (hpass : w.Passed s s₁)
      (h : w.interruption? s₁.moment = some e) : Sleeping w wakeUp s (.error (.error e)) s₁
  | awake {t : Timestamp} (ht : t ∈ wakeUp) (hpass : w.Passed s (s.passedTo t))
      (h : w.IsOpen (s.passedTo t)) : Sleeping w wakeUp s (.ok ⟨⟩) (s.passedTo t)
  | forever (hwake : wakeUp = Option.none) (htimes : w.times = []) (h : w.IsOpen s) :
      Sleeping w wakeUp s (.error .stuck) s

/-- **There is no other end to a sleep.**  The cases are those of the code: what has called the wait
off already, what does so while time passes, and the end of the sleep. -/
theorem sleeping (w : Watch) (wakeUp : Option Timestamp) (s : Session) :
    Sleeping w wakeUp s ((w.sleep wakeUp).outcome s).1 ((w.sleep wakeUp).outcome s).2 := by
  cases hnow : w.interruption? s.moment with
  | some e =>
    rw [sleep, Run.outcome_bind_error (outcome_check_of_interruption hnow)]
    exact .calledOff .same hnow
  | none =>
    rw [sleep, Run.outcome_bind_ok (outcome_check_of_isOpen hnow)]
    cases ht : earliest? (wakeUp.toList ++ w.times) with
    | none =>
      have hnil := List.append_eq_nil_iff.mp (earliest?_eq_none ht)
      exact .forever (Option.toList_eq_nil_iff.mp hnil.1) hnil.2 hnow
    | some t =>
      have hpass : w.Passed s (s.passedTo t) :=
        .upTo fun u hu ↦ earliest?_le ht u (List.mem_append_right _ hu)
      rw [Run.outcome_bind_ok (Run.outcome_modify _ s)]
      show Sleeping w wakeUp s (w.check.outcome (s.passedTo t)).1
        (w.check.outcome (s.passedTo t)).2
      cases hthen : w.interruption? (s.passedTo t).moment with
      | some e =>
        rw [outcome_check_of_interruption hthen]
        exact .calledOff hpass hthen
      | none =>
        rw [outcome_check_of_isOpen hthen]
        refine .awake ?_ hpass hthen
        -- a point in time of the watch itself would have called the wait off
        rcases List.mem_append.mp (earliest?_mem ht) with hmem | hmem
        · exact Option.mem_toList.mp hmem
        · obtain ⟨e, he⟩ := interruption?_of_mem_times (m := (s.passedTo t).moment) hmem
            (s.le_passedTo t)
          rw [he] at hthen
          cases hthen

/-- Nothing calls a sleep off without a watch. -/
theorem outcome_sleep_none (t : Timestamp) (s : Session) :
    (none.sleep (some t)).outcome s = (.ok ⟨⟩, s.passedTo t) := by
  have hsleep := none.sleeping (some t) s
  generalize (none.sleep (some t)).outcome s = outcome at hsleep ⊢
  obtain ⟨result, s₁⟩ := outcome
  cases hsleep with
  | calledOff _ h => cases h
  | awake ht =>
    cases ht
    rfl
  | forever hwake => cases hwake

end Watch

/-! ## Sending -/

namespace Exchange

/-- What an exchange has brought, unless it is still on its way. -/
def delivery? (x : Exchange) : Option Delivery :=
  match x.fate with
  | .unsent cause => some (.failed cause)
  | .underway => none
  | .answered _ answer =>
    match x.lastRequest.reaction (Request.redirectLimit - x.redirects.length) answer with
    | .ends d => some d
    | .goesOn _ _ => none

/-- For an exchange that was answered, it is what there was to be done about the answer. -/
theorem delivery?_answered (x : Exchange) (t : Timestamp) (answer : Answer) :
    (x.answered t answer).delivery? =
      match x.lastRequest.reaction (Request.redirectLimit - x.redirects.length) answer with
      | .ends d => some d
      | .goesOn _ _ => none := rfl

end Exchange

namespace Request

/-- Why a request is not sent: it has a defect, or no connection can be made. -/
def obstacle? (r : Request) (s : Session) : Option TransportError :=
  match r.defect? with
  | some cause => some cause
  | none => if s.reachable then none else some .noResponse

/-- A request is on its way since a point in time.  It has been sent, and as often as an answer came
in while the wait was open, it has been sent on. -/
inductive Underway (r : Request) (w : Watch) (s : Session) : Exchange → Timestamp → Prop
  | sent : Underway r w s ⟨s.moment, r, [], .underway⟩ s.now
  | redirected {x : Exchange} {t : Timestamp} {delay : Duration} {answer : Answer}
      {response : Response} {next : Request} (h : Underway r w s x t)
      (harrival : s.arrival x.redirects.length = .after delay answer)
      (hopen : w.IsOpen (s.made x (t.add delay)))
      (hreaction : x.lastRequest.reaction (redirectLimit - x.redirects.length) answer =
        .goesOn response next) :
      Underway r w s (x.redirected ⟨response, (s.made x (t.add delay)).moment, next⟩) (t.add delay)

/-- All that can come of sending a request.  Whatever it is, the session has one more exchange. -/
inductive Sending (r : Request) (w : Watch) (s : Session) :
    Except Stop Delivery → Exchange → Timestamp → Prop
  | unsent {cause : TransportError} (h : r.obstacle? s = some cause) :
      Sending r w s (.ok (.failed cause)) ⟨s.moment, r, [], .unsent cause⟩ s.now
  | answered {x : Exchange} {t : Timestamp} {delay : Duration} {answer : Answer} {d : Delivery}
      (h : r.obstacle? s = none) (hway : Underway r w s x t)
      (harrival : s.arrival x.redirects.length = .after delay answer)
      (hopen : w.IsOpen (s.made x (t.add delay)))
      (hreaction : x.lastRequest.reaction (redirectLimit - x.redirects.length) answer = .ends d) :
      Sending r w s (.ok d) (x.answered (t.add delay) answer) (t.add delay)
  | calledOff {x : Exchange} {t t' : Timestamp} {e : Error} (h : r.obstacle? s = none)
      (hway : Underway r w s x t) (hpass : w.Passed (s.made x t) (s.made x t'))
      (he : w.interruption? (s.made x t').moment = some e) : Sending r w s (.error (.error e)) x t'
  | unanswered {x : Exchange} {t : Timestamp} (h : r.obstacle? s = none)
      (hway : Underway r w s x t) (harrival : s.arrival x.redirects.length = .never)
      (hopen : w.IsOpen (s.made x t)) (htimes : w.times = []) : Sending r w s (.error .stuck) x t


namespace Underway

variable {r : Request} {w : Watch} {s : Session} {x : Exchange} {t : Timestamp}

-- What the exchange of a request on its way looks like: all redirects are in it, and no answer.
theorem fate_eq (h : r.Underway w s x t) : x.fate = .underway := by
  induction h with
  | sent => rfl
  | redirected _ _ _ _ ih => exact ih

theorem request_eq (h : r.Underway w s x t) : x.request = r := by
  induction h with
  | sent => rfl
  | redirected _ _ _ _ ih => exact ih

theorem moment_eq (h : r.Underway w s x t) : x.moment = s.moment := by
  induction h with
  | sent => rfl
  | redirected _ _ _ _ ih => exact ih

/-- Time does not go back. -/
theorem now_le (h : r.Underway w s x t) : s.now.nanoseconds ≤ t.nanoseconds := by
  induction h with
  | sent => exact Int.le_refl _
  | redirected _ _ _ _ ih =>
    exact Int.le_trans ih (Int.le_add_of_nonneg_right (Int.natCast_nonneg _))

/-- No redirect is followed once the wait has been called off. -/
theorem redirects_open (h : r.Underway w s x t) :
    ∀ redirect ∈ x.redirects, w.interruption? redirect.moment = none := by
  induction h with
  | sent => exact fun _ hmem ↦ absurd hmem List.not_mem_nil
  | redirected _ _ hopen _ ih =>
    intro redirect hmem
    rcases List.mem_append.mp hmem with hmem | hmem
    · exact ih redirect hmem
    · rw [List.mem_singleton.mp hmem]
      exact hopen

/-- Over the network went the request itself, and then one for each redirect. -/
theorem requests_eq (h : r.Underway w s x t) :
    x.requests = r :: x.redirects.map Redirect.request := by
  rw [Exchange.requests, h.fate_eq, h.request_eq]

/-- The first request and each one behind it have used up an answer. -/
theorem length_requests (h : r.Underway w s x t) :
    x.requests.length = x.redirects.length + 1 := by
  rw [h.requests_eq, List.length_cons, List.length_map]

end Underway

/-! A redirect is one that the response before it asks for, and there is a limit to them.  Later
files need no more of redirects than this: whoever wants to know what else is in a request that was
sent on looks at `Request.redirected?`. -/

/-- The redirects lead on from a request, one after the other: each response sends on the request
that was made before. -/
inductive Leads : Request → List Redirect → Prop
  | nowhere {r : Request} : Leads r []
  | on {r : Request} {d : Redirect} {rest : List Redirect}
      (h : r.redirected? d.response = some d.request) (hrest : Leads d.request rest) :
      Leads r (d :: rest)

/-- A chain of redirects is put together at its end, as the responses come in, and read from its
front. -/
theorem Leads.concat {r : Request} {ds : List Redirect} {d : Redirect} (h : r.Leads ds)
    (hd : ((ds.getLast?.map Redirect.request).getD r).redirected? d.response = some d.request) :
    r.Leads (ds ++ [d]) := by
  induction h with
  | nowhere => exact .on hd .nowhere
  | @on r e rest h _ ih =>
    refine .on h (ih ?_)
    cases rest with
    | nil => exact hd
    | cons e' rest => exact hd

/-- A request goes on where a response sends it, as long as the limit is not reached. -/
theorem redirected_of_reaction {r next : Request} {left : Nat} {answer : Answer}
    {response : Response} (h : r.reaction left answer = .goesOn response next) :
    r.redirected? response = some next ∧ 0 < left := by
  rw [reaction] at h
  cases hnext : r.redirect? answer with
  | none =>
    rw [hnext] at h
    cases h
  | some found =>
    obtain ⟨response', next'⟩ := found
    simp only [hnext] at h
    cases hbarrier : next'.barrier? left with
    | some cause =>
      rw [hbarrier] at h
      cases h
    | none =>
      rw [hbarrier] at h
      cases h
      constructor
      · cases answer with
        | response a =>
          obtain ⟨next', hredirect, hpair⟩ := Option.map_eq_some_iff.mp hnext
          cases hpair
          exact hredirect
        | truncated a =>
          obtain ⟨next', hredirect, hpair⟩ := Option.map_eq_some_iff.mp hnext
          cases hpair
          exact hredirect
        | dropped => cases hnext
      · refine Nat.pos_of_ne_zero fun hzero ↦ ?_
        rw [barrier?, if_pos hzero] at hbarrier
        cases hbarrier

end Request

/-- The redirects of an exchange lead on from its request, as far as redirects are followed. -/
structure Exchange.Led (x : Exchange) : Prop where
  leads : x.request.Leads x.redirects
  limit : x.redirects.length ≤ Request.redirectLimit

namespace Request

/-- The limit is kept because the loop has only so many rounds. -/
theorem Underway.led {r : Request} {w : Watch} {s : Session} {x : Exchange} {t : Timestamp}
    (h : r.Underway w s x t) : x.Led := by
  induction h with
  | sent => exact ⟨.nowhere, Nat.zero_le _⟩
  | @redirected x t delay answer response next _ _ _ hreaction ih =>
    obtain ⟨hnext, hleft⟩ := redirected_of_reaction hreaction
    refine ⟨ih.leads.concat hnext, ?_⟩
    have hlimit := ih.limit
    rw [Exchange.redirected, List.length_append, List.length_singleton]
    omega

/-- There was an answer left for an arrival that is no closed connection. -/
theorem lt_length_answers {s : Session} {delay : Duration} {answer : Answer} {n : Nat}
    (harrival : s.arrival n = .after delay answer) (hanswer : answer ≠ .dropped) :
    n < s.answers.length := by
  refine Nat.lt_of_not_le fun hle ↦ ?_
  rw [Session.arrival_of_le hle] at harrival
  cases harrival
  exact hanswer rfl

/-- Only responses send a request on, so there was an answer for each redirect. -/
theorem Underway.length_redirects_le {r : Request} {w : Watch} {s : Session} {x : Exchange}
    {t : Timestamp} (h : r.Underway w s x t) : x.redirects.length ≤ s.answers.length := by
  induction h with
  | sent => exact Nat.zero_le _
  | redirected _ harrival _ hreaction =>
    rw [Exchange.redirected, List.length_append, List.length_singleton]
    refine Nat.succ_le_of_lt (lt_length_answers harrival ?_)
    rintro rfl
    cases hreaction

/-! What the steps of a wait do to a session whose last exchange is under way.  Each of them is an
equation between sessions of the form `s.made x t`, where `s` is the session in which the request
was made; the induction below never leaves that form. -/

section

variable {x : Exchange}

/-- Waiting for an answer moves the end of the exchange. -/
theorem made_passedTo (s : Session) (x : Exchange) (t : Timestamp) (d : Duration) :
    (s.made x t).passedTo (t.add d) = s.made x (t.add d) :=
  (s.made x t).passedTo_add d

theorem updated_made (s : Session) (x : Exchange) (t : Timestamp) (f : Exchange → Exchange) :
    (s.made x t).updated f = { s.made x t with exchanges := s.exchanges ++ [f x] } := by
  rw [Session.updated, Session.exchanges_made, List.dropLast_concat, List.getLast?_concat]
  rfl

/-- A redirect uses up the answer of the request that it makes. -/
theorem redirected_made (h : x.fate = .underway) (s : Session) (t : Timestamp) (response : Response)
    (next : Request) :
    (s.made x t).redirected response next =
      s.made (x.redirected ⟨response, (s.made x t).moment, next⟩) t := by
  have hanswers : (s.made x t).answers.tail =
      s.answers.drop (x.redirected ⟨response, (s.made x t).moment, next⟩).requests.length := by
    rw [Session.answers_made, List.tail_drop, Exchange.requests, Exchange.redirected,
      Exchange.requests, h]
    simp
  rw [Session.redirected, updated_made, hanswers]
  rfl

/-- An answer is not a request. -/
theorem requests_answered (h : x.fate = .underway) (t : Timestamp) (answer : Answer) :
    (x.answered t answer).requests = x.requests := by
  rw [Exchange.requests, Exchange.requests, h]
  rfl

/-- An answer is no step of its own: it comes when it comes. -/
theorem moment_answered (h : x.fate = .underway) (s : Session) (t u : Timestamp)
    (answer : Answer) : (s.made (x.answered u answer) t).moment = (s.made x t).moment := by
  rw [Session.moment_made, Session.moment_made, requests_answered h]

theorem answered_made (h : x.fate = .underway) (s : Session) (t : Timestamp) (answer : Answer) :
    (s.made x t).answered answer = s.made (x.answered t answer) t := by
  have hanswers : (s.made x t).answers = s.answers.drop (x.answered t answer).requests.length := by
    rw [Session.answers_made, requests_answered h]
  rw [Session.answered, updated_made]
  exact congrArg (fun answers ↦ { s with
    now := t
    answers := answers
    exchanges := s.exchanges ++ [x.answered t answer] }) hanswers

end

/-- All that can come of waiting for an answer to a request that is under way. -/
inductive Receiving (w : Watch) (s : Session) (x : Exchange) (t : Timestamp) :
    Arrival → Except Stop Answer → Timestamp → Prop
  | arrived {delay : Duration} {answer : Answer} (hopen : w.IsOpen (s.made x (t.add delay))) :
      Receiving w s x t (.after delay answer) (.ok answer) (t.add delay)
  | calledOff {arrival : Arrival} {t' : Timestamp} {e : Error}
      (hpass : w.Passed (s.made x t) (s.made x t'))
      (he : w.interruption? (s.made x t').moment = some e) :
      Receiving w s x t arrival (.error (.error e)) t'
  | silent (hopen : w.IsOpen (s.made x t)) (htimes : w.times = []) :
      Receiving w s x t .never (.error .stuck) t

/-- Whatever time passes, the exchange is still the last one. -/
theorem passed_made {w : Watch} {s s₁ : Session} {x : Exchange} {t : Timestamp}
    (h : w.Passed (s.made x t) s₁) : ∃ t', s₁ = s.made x t' := by
  cases h with
  | same => exact ⟨t, rfl⟩
  | @upTo u =>
    rw [Session.passedTo]
    split
    · exact ⟨u, rfl⟩
    · exact ⟨t, rfl⟩

/-- **Nothing else can come of waiting for an answer.**  The wait is a sleep, until the answer comes
or for ever. -/
theorem receiving (w : Watch) (s : Session) (x : Exchange) (t : Timestamp) (arrival : Arrival) :
    ∃ t', ((arrival.receive w).outcome (s.made x t)).2 = s.made x t' ∧
      Receiving w s x t arrival ((arrival.receive w).outcome (s.made x t)).1 t' := by
  cases arrival with
  | after delay answer =>
    rw [Arrival.receive, Run.outcome_bind_ok (Run.outcome_get _), Session.now_made]
    have hsleep := w.sleeping (some (t.add delay)) (s.made x t)
    rcases ho : (w.sleep (some (t.add delay))).outcome (s.made x t) with ⟨stop | a, s₁⟩
    · rw [Run.outcome_bind_error ho]
      rw [ho] at hsleep
      cases hsleep with
      | calledOff hpass he =>
        obtain ⟨t', rfl⟩ := passed_made hpass
        exact ⟨t', rfl, .calledOff hpass he⟩
      | forever hwake => cases hwake
    · rw [Run.outcome_bind_ok ho]
      rw [ho] at hsleep
      -- a sleep that is not called off ends just when the answer comes
      have hawake : s₁ = s.made x (t.add delay) ∧ w.IsOpen s₁ := by
        cases hsleep with
        | awake ht _ hopen =>
          cases ht
          exact ⟨made_passedTo s x t delay, hopen⟩
      obtain ⟨rfl, hopen⟩ := hawake
      exact ⟨t.add delay, rfl, .arrived hopen⟩
  | never =>
    rw [Arrival.receive]
    have hsleep := w.sleeping none (s.made x t)
    rcases ho : (w.sleep none).outcome (s.made x t) with ⟨stop | a, s₁⟩
    · rw [Run.outcome_bind_error ho]
      rw [ho] at hsleep
      cases hsleep with
      | calledOff hpass he =>
        obtain ⟨t', rfl⟩ := passed_made hpass
        exact ⟨t', rfl, .calledOff hpass he⟩
      | forever _ htimes hopen => exact ⟨t, rfl, .silent hopen htimes⟩
    · rw [ho] at hsleep
      cases hsleep with
      | awake ht => cases ht

/-- The loop goes on with the request of the redirect. -/
theorem lastRequest_redirected (x : Exchange) (redirect : Redirect) :
    (x.redirected redirect).lastRequest = redirect.request := by
  rw [Exchange.lastRequest, Exchange.redirected, List.getLast?_concat]
  rfl

/-- No redirect goes beyond the limit. -/
theorem reaction_zero (r : Request) (answer : Answer) (response : Response) (next : Request) :
    r.reaction 0 answer ≠ .goesOn response next := by
  rw [reaction]
  split
  · exact nofun
  · exact nofun

/-- What comes of the next answer to a request that is under way, when it is known what comes of the
requests that may follow. -/
theorem sending_answer {r : Request} {w : Watch} {s : Session} {x : Exchange} {t : Timestamp}
    {goOn : Request → Arrival → Run Delivery} (hnone : r.obstacle? s = none)
    (hway : r.Underway w s x t)
    (hgoOn : ∀ {t' answer redirect},
      x.lastRequest.reaction (redirectLimit - x.redirects.length) answer =
        .goesOn redirect.response redirect.request →
      r.Underway w s (x.redirected redirect) t' →
      ∃ x' u, ((goOn redirect.request (s.arrival (x.redirects.length + 1))).outcome
          (s.made (x.redirected redirect) t')).2 = s.made x' u ∧
        r.Sending w s ((goOn redirect.request (s.arrival (x.redirects.length + 1))).outcome
          (s.made (x.redirected redirect) t')).1 x' u) :
    ∃ x' u, (((s.arrival x.redirects.length).receive w >>= fun answer ↦ react goOn answer
        (x.lastRequest.reaction (redirectLimit - x.redirects.length) answer)).outcome
          (s.made x t)).2 = s.made x' u ∧
      r.Sending w s (((s.arrival x.redirects.length).receive w >>= fun answer ↦ react goOn answer
        (x.lastRequest.reaction (redirectLimit - x.redirects.length) answer)).outcome
          (s.made x t)).1 x' u := by
  obtain ⟨t', hs, hreceive⟩ := receiving w s x t (s.arrival x.redirects.length)
  rcases ho : ((s.arrival x.redirects.length).receive w).outcome (s.made x t) with
    ⟨stop | answer, s₁⟩
  · rw [Run.outcome_bind_error ho]
    rw [ho] at hs hreceive
    refine ⟨x, t', hs, ?_⟩
    generalize harrival : s.arrival x.redirects.length = arrival at hreceive
    cases hreceive with
    | calledOff hpass he => exact .calledOff hnone hway hpass he
    | silent hopen htimes => exact .unanswered hnone hway harrival hopen htimes
  · rw [Run.outcome_bind_ok ho]
    rw [ho] at hs hreceive
    obtain rfl : s₁ = s.made x t' := hs
    generalize harrival : s.arrival x.redirects.length = arrival at hreceive
    cases hreceive with
    | @arrived delay _ hopen =>
      cases hreaction : x.lastRequest.reaction (redirectLimit - x.redirects.length) answer with
      | ends d =>
        refine ⟨x.answered (t.add delay) answer, t.add delay, ?_,
          .answered hnone hway harrival hopen hreaction⟩
        exact answered_made hway.fate_eq s _ answer
      | goesOn response next =>
        -- the response is recorded before the next request is made, so the log is up to date
        have hnext := Underway.redirected hway harrival hopen hreaction
        rw [react, Run.outcome_bind_ok (Run.outcome_get _),
          Run.outcome_bind_ok (Run.outcome_set _ _), redirected_made hway.fate_eq,
          Session.nextArrival_made, hway.length_requests]
        exact hgoOn hreaction hnext

/-- A request that is under way comes to one of the ends that sending it may have.  The induction is
on the redirects that may still be followed. -/
theorem sending_await {r : Request} {w : Watch} {s : Session} (hnone : r.obstacle? s = none) :
    ∀ (left : Nat) {x : Exchange} {t : Timestamp}, r.Underway w s x t →
      x.redirects.length + left = redirectLimit →
      ∃ x' u, ((await w left x.lastRequest (s.arrival x.redirects.length)).outcome
          (s.made x t)).2 = s.made x' u ∧
        r.Sending w s ((await w left x.lastRequest (s.arrival x.redirects.length)).outcome
          (s.made x t)).1 x' u := by
  intro left
  induction left with
  | zero =>
    intro x t hway hleft
    have hlimit : redirectLimit - x.redirects.length = 0 := by omega
    rw [await, ← hlimit]
    refine sending_answer hnone hway fun hreaction _ ↦ ?_
    rw [hlimit] at hreaction
    exact absurd hreaction (reaction_zero _ _ _ _)
  | succ left ih =>
    intro x t hway hleft
    have hlimit : redirectLimit - x.redirects.length = left + 1 := by omega
    rw [await, ← hlimit]
    refine sending_answer hnone hway fun {t' answer redirect} _ hnext ↦ ?_
    have hlength : (x.redirected redirect).redirects.length = x.redirects.length + 1 :=
      List.length_append
    have hrest := ih hnext (by rw [hlength]; omega)
    rw [hlength, lastRequest_redirected] at hrest
    exact hrest

/-- **Nothing else can come of a request.** -/
theorem sending (r : Request) (w : Watch) (s : Session) :
    ∃ x t, ((r.send w).outcome s).2 = s.made x t ∧ r.Sending w s ((r.send w).outcome s).1 x t := by
  rw [send]
  cases hd : r.defect? with
  | some cause => exact ⟨_, _, rfl, .unsent (by rw [obstacle?, hd])⟩
  | none =>
    rw [Run.outcome_bind_ok (Run.outcome_get s)]
    by_cases hs : s.reachable = true
    · have hnone : r.obstacle? s = none := by rw [obstacle?, hd, if_pos hs]
      rw [if_pos hs, exchange, Run.outcome_bind_ok (Run.outcome_get s),
        Run.outcome_bind_ok (Run.outcome_set s (s.sent r)), s.sent_eq, s.nextArrival_eq]
      exact sending_await hnone redirectLimit .sent rfl
    · rw [if_neg hs]
      exact ⟨_, _, rfl, .unsent (by rw [obstacle?, hd, if_neg hs])⟩

namespace Sending

variable {r : Request} {w : Watch} {s : Session} {x : Exchange} {t : Timestamp}
  {result : Except Stop Delivery}

-- What all ends have in common: the exchange is that of the request, made when it was asked for.
theorem request_eq (h : r.Sending w s result x t) : x.request = r := by
  cases h with
  | unsent => rfl
  | answered _ hway => exact hway.request_eq
  | calledOff _ hway => exact hway.request_eq
  | unanswered _ hway => exact hway.request_eq

theorem moment_eq (h : r.Sending w s result x t) : x.moment = s.moment := by
  cases h with
  | unsent => rfl
  | answered _ hway => exact hway.moment_eq
  | calledOff _ hway => exact hway.moment_eq
  | unanswered _ hway => exact hway.moment_eq

/-- Whatever comes of a request, its redirects are those that were asked for. -/
theorem led (h : r.Sending w s result x t) : x.Led := by
  cases h with
  | unsent => exact ⟨.nowhere, Nat.zero_le _⟩
  | answered _ hway => exact ⟨hway.led.leads, hway.led.limit⟩
  | calledOff _ hway => exact hway.led
  | unanswered _ hway => exact hway.led

/-- Whatever comes of it, time has not gone back. -/
theorem now_le (h : r.Sending w s result x t) : s.now.nanoseconds ≤ t.nanoseconds := by
  cases h with
  | unsent => exact Int.le_refl _
  | answered _ hway =>
    exact Int.le_trans hway.now_le (Int.le_add_of_nonneg_right (Int.natCast_nonneg _))
  | calledOff _ hway hpass => exact Int.le_trans hway.now_le hpass.now_le
  | unanswered _ hway => exact hway.now_le

/-- What a request brings is what the log says of it, and an exchange that the log says nothing of
stops the run. -/
theorem delivery_eq (h : r.Sending w s result x t) : x.delivery? = result.toOption := by
  cases h with
  | unsent => rfl
  | answered _ hway _ _ hreaction =>
    rw [Exchange.delivery?_answered, hreaction]
    rfl
  | calledOff _ hway =>
    rw [Exchange.delivery?, hway.fate_eq]
    rfl
  | unanswered _ hway =>
    rw [Exchange.delivery?, hway.fate_eq]
    rfl

/-- What is not a failure has come out of the answers that were left. -/
theorem length_requests_le {d : Delivery} (h : r.Sending w s (.ok d) x t)
    (hd : ∀ cause, d ≠ .failed cause) :
    0 < x.requests.length ∧ x.requests.length ≤ s.answers.length := by
  cases h with
  | unsent => exact absurd rfl (hd _)
  | @answered x t delay answer d _ hway harrival _ hreaction =>
    rw [requests_answered hway.fate_eq, hway.length_requests]
    refine ⟨Nat.succ_pos _, Nat.succ_le_of_lt (lt_length_answers harrival ?_)⟩
    rintro rfl
    cases hreaction
    exact hd _ rfl

/-- The last request may find no answer, but all before it have been sent on by one. -/
theorem length_requests_le_succ (h : r.Sending w s result x t) :
    x.requests.length ≤ s.answers.length + 1 := by
  cases h with
  | unsent => exact Nat.zero_le _
  | answered _ hway =>
    rw [requests_answered hway.fate_eq, hway.length_requests]
    exact Nat.succ_le_succ hway.length_redirects_le
  | calledOff _ hway =>
    rw [hway.length_requests]
    exact Nat.succ_le_succ hway.length_redirects_le
  | unanswered _ hway =>
    rw [hway.length_requests]
    exact Nat.succ_le_succ hway.length_redirects_le

/-- An obstacle is known before anything is sent, and it leaves no choice. -/
theorem eq_of_obstacle {cause : TransportError} (h : r.Sending w s result x t)
    (hcause : r.obstacle? s = some cause) :
    result = .ok (.failed cause) ∧ x = ⟨s.moment, r, [], .unsent cause⟩ ∧ t = s.now := by
  cases h with
  | unsent hsome =>
    rw [Option.some_inj.mp (hcause.symm.trans hsome)]
    exact ⟨rfl, rfl, rfl⟩
  | answered hnone => cases hcause.symm.trans hnone
  | calledOff hnone => cases hcause.symm.trans hnone
  | unanswered hnone => cases hcause.symm.trans hnone

end Sending
end Request

/-! ## Tokens and exchanges -/

variable {α : Type} {w : Watch} {I J : Session → Prop} {D : Delivery → Session → Prop}
  {E : Stop → Session → Prop}

namespace TokenSource

/-- A request for a token does not carry one. -/
theorem request_token {source : TokenSource} {tenantId clientId secret scope : String} {r : Request}
    (h : source.request tenantId clientId secret scope = .ok r) : r.token = none := by
  rw [request] at h
  split at h
  · cases h
  · cases h
    rfl

/-- There is no address at which a token could be requested, so the request cannot even be made. -/
inductive Unaddressed (source : TokenSource) : TransportError → Prop
  | invalid {tenantId clientId secret : String} {cause : UrlError}
      (hcredentials : source.credentials = .clientSecret tenantId clientId secret)
      (hurl : Url.parse (address source.authority tenantId) = .error cause) :
      Unaddressed source (.invalidUrl cause)

/-- An address that cannot be read is the only thing that keeps a request for a token from being
made. -/
theorem unaddressed_of_request {source : TokenSource} {tenantId clientId secret scope : String}
    {cause : TransportError}
    (hcredentials : source.credentials = .clientSecret tenantId clientId secret)
    (h : source.request tenantId clientId secret scope = .error cause) :
    source.Unaddressed cause := by
  rw [request] at h
  split at h
  · rename_i hurl
    cases h
    exact .invalid hcredentials hurl
  · cases h

-- The two steps behind a token that is not at hand.  Between them stands what the request has
-- brought, `D`; the rules say what has to be known of it.
theorem ask_meets {source : TokenSource} {tenantId clientId secret scope : String}
    (hcredentials : source.credentials = .clientSecret tenantId clientId secret)
    (hunsent : ∀ cause s, source.Unaddressed cause → I s → D (.failed cause) s)
    (hsend : ∀ r : Request, r.token = none → (r.send w).Meets I D E) :
    (source.ask tenantId clientId secret scope w).Meets I D E := by
  rw [ask]
  split
  · rename_i hcause
    exact Run.Meets.pure fun s ↦ hunsent _ s (unaddressed_of_request hcredentials hcause)
  · rename_i r hr
    exact hsend r (request_token hr)

theorem keep_meets {scope : String} {d : Delivery}
    (hrefused : ∀ s cause, I s → ofDelivery d s.now = .error cause →
      E (.error (.credential cause)) s)
    (hkept : ∀ s token, I s → ofDelivery d s.now = .ok token →
      J { s with token := some ⟨scope, token⟩ }) :
    (keep scope d).Meets I (fun _ ↦ J) E := by
  refine Run.Meets.get_bind fun t ht ↦ ?_
  split
  · rename_i cause hcause
    exact Run.Meets.throw fun s hs ↦ hs ▸ hrefused t cause ht hcause
  · rename_i token htoken
    refine Run.Meets.bind (Q := fun _ ↦ J) (Run.Meets.modify fun s hs ↦ ?_) fun _ ↦
      Run.Meets.pure fun _ h ↦ h
    rw [hs]
    exact hkept t token ht htoken

/-- The rule for tokens: one is at hand, or a request for one is sent, read and kept. -/
theorem token_meets {source : TokenSource} {scope : String} (hhand : ∀ s, I s → J s)
    (hunsent : ∀ cause s, source.Unaddressed cause → I s → D (.failed cause) s)
    (hsend : ∀ r : Request, r.token = none → (r.send w).Meets I D E)
    (hrefused : ∀ d s cause, D d s → ofDelivery d s.now = .error cause →
      E (.error (.credential cause)) s)
    (hkept : ∀ d s token, D d s → ofDelivery d s.now = .ok token →
      J { s with token := some ⟨scope, token⟩ }) :
    (source.token scope w).Meets I (fun _ ↦ J) E := by
  rw [token]
  split
  · exact Run.Meets.pure hhand
  · rename_i tenantId clientId secret hcredentials
    refine Run.Meets.get_bind fun t ht ↦ ?_
    split
    · exact (Run.Meets.pure hhand).at_session ht
    · have hrenew : (source.renew tenantId clientId secret scope w).Meets I (fun _ ↦ J) E := by
        rw [renew]
        exact (ask_meets hcredentials hunsent hsend).bind fun d ↦ keep_meets (hrefused d) (hkept d)
      exact hrenew.at_session ht

end TokenSource

namespace Client

/-- The rule for exchanges: a token, a request, and a reply that can be read. -/
theorem exchange_meets {c : Client} {m : Method} {url : Url} {body : Option Json}
    {Q : Reply → Session → Prop}
    (htoken : (c.tokens.token c.scope w).Meets I (fun _ ↦ J) E)
    (hsend : ∀ token, ((c.request token m url body).send w).Meets J D E)
    (hfailed : ∀ d s e, D d s → replyOf d = .error e → E (.error e) s)
    (hreply : ∀ d s reply, D d s → replyOf d = .ok reply → Q reply s) :
    (c.exchange w m url body).Meets I Q E :=
  htoken.bind fun token ↦ (hsend token).bind fun d ↦
    Run.Meets.ofExcept (fun reply s h hs ↦ hreply d s reply hs h) fun e s h hs ↦ hfailed d s e hs h

end Client

/-! ## What a run leaves alone -/

namespace Session

/-- `I` survives requests, as long as they are of the kind `ok`, the time that passes and the tokens
that are kept. -/
structure Steady (ok : Request → Prop) (I : Session → Prop) : Prop where
  made : ∀ s x t, ok x.request → x.Led → x.moment = s.moment →
    s.now.nanoseconds ≤ t.nanoseconds → I s → I (s.made x t)
  advancedTo : ∀ s t, I s → I (s.advancedTo t)
  tokenKept : ∀ s t, I s → I { s with token := t }

/-- `I` survives reports as well, and so whatever a run does to a session. -/
structure Stable (ok : Request → Prop) (I : Session → Prop) : Prop extends Steady ok I where
  reported : ∀ s e, I s → I (s.reported e)

namespace Steady

variable {ok : Request → Prop}

/-- Time passes in steps of the clock. -/
theorem passedTo (h : Steady ok I) {s : Session} (hs : I s) (t : Timestamp) : I (s.passedTo t) := by
  rw [Session.passedTo]
  split
  · exact h.advancedTo s t hs
  · exact hs

theorem passed (h : Steady ok I) {s s₁ : Session} (hs : I s) (hpass : w.Passed s s₁) : I s₁ := by
  cases hpass with
  | same => exact hs
  | upTo => exact h.passedTo hs _

/-- What survives the passing of time survives a sleep, however it ends. -/
theorem sleep (h : Steady ok I) (wakeUp : Option Timestamp) :
    (w.sleep wakeUp).Keeps I fun _ ↦ I where
  ok {s _ _} hs ho := by
    have hsleep := w.sleeping wakeUp s
    rw [ho] at hsleep
    cases hsleep with
    | awake => exact h.passedTo hs _
  error {s _ _} hs ho := by
    have hsleep := w.sleeping wakeUp s
    rw [ho] at hsleep
    cases hsleep with
    | calledOff hpass _ => exact h.passed hs hpass
    | forever => exact hs

/-- Of an exchange no more is known than `Steady.made` asks for, and so a property that survives it
survives every request of the kind. -/
theorem send (h : Steady ok I) {r : Request} (hr : ok r) : (r.send w).Keeps I fun _ ↦ I := by
  have hmade : ∀ s, I s → I ((r.send w).outcome s).2 := by
    intro s hs
    obtain ⟨x, t, hsession, hsend⟩ := r.sending w s
    rw [hsession]
    exact h.made s x t (hsend.request_eq ▸ hr) hsend.led hsend.moment_eq hsend.now_le hs
  constructor
  · intro s s₁ d hs ho
    have hsession := hmade s hs
    rwa [ho] at hsession
  · intro s s₁ stop hs ho
    have hsession := hmade s hs
    rwa [ho] at hsession

/-- A token is got by way of at most one request, which does not carry a token itself. -/
theorem token (h : Steady ok I) (hok : ∀ r : Request, r.token = none → ok r)
    (source : TokenSource) (scope : String) : (source.token scope w).Keeps I fun _ ↦ I :=
  TokenSource.token_meets (fun _ hs ↦ hs) (fun _ _ _ hs ↦ hs) (fun _ hr ↦ h.send (hok _ hr))
    (fun _ _ _ hs _ ↦ hs) fun _ s _ hs _ ↦ h.tokenKept s _ hs

/-- The rule for a call of the service. -/
theorem exchange (h : Steady ok I) (hok : ∀ r : Request, r.token = none → ok r) {c : Client}
    {m : Method} {url : Url} {body : Option Json}
    (hcall : ∀ token, ok (c.request token m url body)) :
    (c.exchange w m url body).Keeps I fun _ ↦ I :=
  Client.exchange_meets (h.token hok _ _) (fun token ↦ h.send (hcall token)) (fun _ _ _ hs _ ↦ hs)
    fun _ _ _ hs _ ↦ hs

end Steady
end Session
end ResourceManager
