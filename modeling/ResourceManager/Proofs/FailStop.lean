import ResourceManager.Catalogue.Operation
import ResourceManager.Proofs.Interruption
import ResourceManager.Proofs.Reading

/-!
# The first failure is the last exchange

Whatever a call does, it goes on only from an exchange that has been read.  The first one that
cannot be read ends it, and the error is handed on as it is; nothing is tried again and nothing is
kept of what came before.  `FailStop` is the specification, for calls of all kinds.  It reads the
log by `Stage`, and so by the responses as they came over the network.

An exchange is what comes of one request, wherever that is led.  A response that sends a request on
does not report success, and yet it is no failure: `Client.call_led_on` is a call that goes on
behind one.

There is one induction for each loop, over the rounds of a wait and over the pages of a listing.
What it carries along is the stage that the log has led to: `Reads` holds before every round.  That
the rounds suffice is a matter of the answers that each of them uses up.

## The shape of the proof

* Of every kind of call it is shown that it meets one triple: it takes `Reads` at its first stage to
  `Reads` at some stage, and stops only in `Stopped`.  These are the lemmas named `reads_...`.
* `FailStop.of_meets` draws all that `FailStop` asks from such a triple, once for all calls.
* What may call a wait off is a parameter throughout.  It is nothing at all for calls that do not
  wait, and `PollOptions.Interrupts` for those that do.
-/

set_option autoImplicit false

namespace ResourceManager

open Stage

/-- What may call off a wait that was begun by a call from `start` on, in a session that has come to
`m`: the signal if it has fired, and the limit if that much time has passed.  A wait whose limit the
clock cannot tell does not even begin. -/
def PollOptions.Interrupts (o : PollOptions) (start : Session) (m : Moment) : Stop → Prop
  | .error .canceled => o.signal.isFired m = true
  | .error (.pollTimeout limit) => o.policy.timeout = some limit ∧
    (start.now.add limit).nanoseconds ≤ m.time.nanoseconds
  | .crashed => ∃ limit, o.policy.timeout = some limit ∧
    start.horizon.nanoseconds < (m.time.add limit).nanoseconds
  | _ => False

/-- What has called a wait off once keeps on doing so. -/
theorem PollOptions.Interrupts.later {o : PollOptions} {start : Session} {m m' : Moment}
    {stop : Stop} (hle : m ≤ m') (h : o.Interrupts start m stop) : o.Interrupts start m' stop := by
  cases stop with
  | error e =>
    cases e with
    | canceled => exact Signal.isFired_mono hle h
    | pollTimeout limit => exact ⟨h.1, Int.le_trans h.2 hle.1⟩
    | _ => exact h
  | stuck => exact h
  | crashed =>
    obtain ⟨limit, hlimit, hbeyond⟩ := h
    exact ⟨limit, hlimit, Int.lt_of_lt_of_le hbeyond (Int.add_le_add_right hle.1 _)⟩

/-- What the watch of a wait says is counted from the beginning of the wait, and the wait begins
after the call; so the limit is reached if it is counted from the call. -/
theorem PollOptions.interrupts_of_interruption {o : PollOptions} {start : Session} {now : Timestamp}
    {m : Moment} {e : Error} (hnow : start.now.nanoseconds ≤ now.nanoseconds)
    (h : (Watch.start o.signal o.policy.timeout now).interruption? m = some e) :
    o.Interrupts start m (.error e) := by
  rcases Watch.interruption?_cases h with rfl | ⟨limit, rfl⟩
  · exact Watch.interruption?_start_eq_canceled.mp h
  · obtain ⟨-, hlimit, hreached⟩ := Watch.interruption?_start_eq_pollTimeout.mp h
    exact ⟨hlimit, Int.le_trans (Int.add_le_add_right hnow _) hreached⟩

/-- The clock cannot tell when the limit is reached exactly if that is behind its horizon. -/
theorem Session.canTime_eq_false_iff {s : Session} {limit : Option Duration} :
    s.canTime limit = false ↔
      ∃ d, limit = some d ∧ s.horizon.nanoseconds < (s.now.add d).nanoseconds := by
  rw [canTime]
  cases limit with
  | none => simp
  | some d =>
    rw [Option.all_some, Bool.not_eq_false', Watch.isBefore_iff]
    constructor
    · exact fun h ↦ ⟨d, rfl, h⟩
    · rintro ⟨_, ⟨⟩, h⟩
      exact h

variable {first : Stage} {start : Session} {allowed : Moment → Stop → Prop} {w : Watch}
  {c : Client} {o : PollOptions} {p : Poller}

/-! ## The specification

The fields of `FailStop` are about the log, the result and the excuse, in this order, and then about
the number of requests.  The bound on the number comes of the failure being last
(`FailStop.bounded_of_last`).  It counts requests and not exchanges, since an exchange makes as many
as the responses on its way send it on; hence `Stage.FailsBehind`. -/

namespace Stage

/-- An exchange in a log that fails where all before it can be read. -/
structure Fails (first : Stage) (made before : List Exchange) (x : Exchange)
    (after : List Exchange) (e : Error) : Prop where
  log : made = before ++ x :: after
  breaks : ∃ stage, first.Passes before stage ∧ stage.Breaks x e

/-- In a log, every request behind the first `n` fails: its exchange has no request behind it and
breaks the call. -/
def FailsBehind (first : Stage) (made : List Exchange) (n : Nat) : Prop :=
  ∀ before x after stage, made = before ++ x :: after → first.Passes before stage →
    n < sentIn (before ++ [x]) → sentIn (before ++ [x]) = n + 1 ∧ ∃ e, stage.Breaks x e

/-- A log can be read, or there is a first exchange in it that fails. -/
theorem passes_or_fails (first : Stage) (made : List Exchange) :
    (∃ stage, first.Passes made stage) ∨ ∃ before x after e, first.Fails made before x after e := by
  induction made generalizing first with
  | nil => exact .inl ⟨first, .nil⟩
  | cons x rest ih =>
    rcases first.moves_or_breaks x with ⟨stage, hx⟩ | ⟨e, hx⟩
    · rcases ih stage with ⟨stage', hrest⟩ | ⟨before, y, after, e, hlog, stage', hbefore, hy⟩
      · exact .inl ⟨stage', .cons hx hrest⟩
      · exact .inr ⟨x :: before, y, after, e, by rw [hlog]; rfl, stage', .cons hx hbefore, hy⟩
    · exact .inr ⟨[], x, rest, e, rfl, first, .nil, hx⟩

/-- These are two different logs: where all can be read, nothing fails. -/
theorem Passes.not_fails {made before after : List Exchange} {x : Exchange} {e : Error}
    {stage : Stage} (h : first.Passes made stage) : ¬ first.Fails made before x after e := by
  rintro ⟨rfl, stage', hbefore, hx⟩
  obtain ⟨mid, hmid, hrest⟩ := h.of_append
  obtain rfl := hmid.eq hbefore
  cases hrest with
  | cons hmoves => exact hmoves.not_breaks hx

end Stage

/-- What is asked of a call that began in `start` by expecting `first`, and ended in `s` with
`result`.  Only what calls it off may come before an error that is on its way. -/
structure FailStop {α : Type} (source : TokenSource) (first : Stage)
    (interrupts : Moment → Stop → Prop) (start : Session) (result : Except Stop α) (s : Session) :
    Prop where
  /-- The log grows at its end. -/
  log : s.exchanges = start.exchanges ++ start.since s
  /-- The first exchange that fails is the last one, and the call ends with the error that it is. -/
  failure : ∀ before x after e, first.Fails (start.since s) before x after e →
    after = [] ∧ (result = .error (.error e) ∨
      ∃ cause, interrupts s.moment (.error cause) ∧ result = .error (.error cause))
  /-- A call with a value has no exchange that fails. -/
  value : ∀ a, result = .ok a → ∃ stage, first.Passes (start.since s) stage
  /-- A call that stops without one has an excuse. -/
  excuse : ∀ stop stage, result = .error stop → first.Passes (start.since s) stage →
    Excuses source start s interrupts stop
  /-- If every request fails from some point on, there is at most one from there on. -/
  bounded : ∀ n, first.FailsBehind (start.since s) n → sentIn (start.since s) ≤ n + 1
  /-- There are no more of them than answers, and one. -/
  answers : sentIn (start.since s) ≤ start.answers.length + 1
  /-- Only silence keeps a call from its end. -/
  ends : .never ∉ start.answers → result ≠ .error .stuck

namespace FailStop

variable {α : Type} {source : TokenSource} {first : Stage} {interrupts : Moment → Stop → Prop}
  {start s : Session}

/-- A log with more than `n` requests has an exchange that takes it there. -/
theorem exists_crossing (made : List Exchange) : ∀ n, n < sentIn made →
    ∃ before x after, made = before ++ x :: after ∧ sentIn before ≤ n ∧
      n < sentIn (before ++ [x]) := by
  induction made with
  | nil => exact fun n hn ↦ absurd hn (Nat.not_lt_zero n)
  | cons x rest ih =>
    intro n hn
    by_cases hx : n < sentIn [x]
    · exact ⟨[], x, rest, rfl, Nat.zero_le n, hx⟩
    · have hcount : sentIn (x :: rest) = sentIn [x] + sentIn rest := sentIn_append [x] rest
      obtain ⟨before, y, after, hlog, hbefore, hy⟩ := ih (n - sentIn [x]) (by omega)
      have hcons : sentIn (x :: before) = sentIn [x] + sentIn before := sentIn_append [x] before
      have hconcat : sentIn (x :: (before ++ [y])) = sentIn [x] + sentIn (before ++ [y]) :=
        sentIn_append [x] (before ++ [y])
      refine ⟨x :: before, y, after, by rw [hlog]; rfl, by omega, ?_⟩
      rw [List.cons_append]
      omega

/-- Where a failure is the last exchange, a log of failures is short. -/
theorem bounded_of_last {made : List Exchange}
    (hlast : ∀ before x after e, first.Fails made before x after e → after = []) (n : Nat)
    (hfail : first.FailsBehind made n) : sentIn made ≤ n + 1 := by
  refine Nat.le_of_not_lt fun hlong ↦ ?_
  obtain ⟨before, x, after, hlog, -, hx⟩ := exists_crossing made n (by omega)
  rcases first.passes_or_fails before with ⟨stage, hbefore⟩ | ⟨front, y, back, e, hfront, hy⟩
  · obtain ⟨hcount, e, hbreaks⟩ := hfail before x after stage hlog hbefore hx
    obtain rfl : after = [] := hlast before x after e ⟨hlog, stage, hbefore, hbreaks⟩
    rw [hlog] at hlong
    omega
  · -- then an exchange has failed before, and there is something behind it
    have hnil := hlast front y (back ++ x :: after) e ⟨by simp [hlog, hfront], hy⟩
    exact absurd hnil (List.append_ne_nil_of_right_ne_nil _ (List.cons_ne_nil _ _))

/-- A log that can be read asks for an excuse only. -/
theorem of_passes {stage : Stage} {result : Except Stop α}
    (hlog : s.exchanges = start.exchanges ++ start.since s)
    (hpasses : first.Passes (start.since s) stage)
    (hroom : sentIn (start.since s) ≤ start.answers.length + 1)
    (hexcuse : ∀ stop, result = .error stop → Excuses source start s interrupts stop)
    (hends : .never ∉ start.answers → result ≠ .error .stuck) :
    FailStop source first interrupts start result s :=
  ⟨hlog, fun _ _ _ _ hfails ↦ absurd hfails hpasses.not_fails, fun _ _ ↦ ⟨stage, hpasses⟩,
    fun stop _ hstop _ ↦ hexcuse stop hstop,
    bounded_of_last fun _ _ _ _ hfails ↦ absurd hfails hpasses.not_fails, hroom, hends⟩

/-- With a value there is nothing to excuse. -/
theorem of_reads {stage : Stage} (h : Reads first start stage s) (a : α) :
    FailStop source first interrupts start (.ok a) s :=
  of_passes h.log h.passes (Nat.le_succ_of_le h.room) nofun nofun

/-- What fails in a log with a new exchange that fails is this exchange. -/
theorem eq_of_newest {made before after : List Exchange} {x y : Exchange} {stage : Stage}
    {e e' : Error} (hmade : first.Passes made stage) (hx : stage.Breaks x e)
    (h : first.Fails (made ++ [x]) before y after e') : after = [] ∧ e' = e := by
  obtain ⟨hlog, stage', hbefore, hy⟩ := h
  rcases List.eq_nil_or_concat after with rfl | ⟨init, last, rfl⟩
  · obtain ⟨rfl, hyx⟩ := List.append_inj' hlog rfl
    cases hyx
    obtain rfl := hmade.eq hbefore
    exact ⟨rfl, hy.eq hx⟩
  · rw [List.concat_eq_append, ← List.cons_append, ← List.append_assoc] at hlog
    have hinit : made = before ++ y :: init := List.append_inj_left' hlog rfl
    exact absurd ⟨hinit, stage', hbefore, hy⟩ hmade.not_fails

/-- The two kinds of stops: without a failure the log can be read and there is an excuse, and with
one the failure is the new exchange. -/
theorem of_stopped {stop : Stop} (hinterrupts : ∀ m, ¬ interrupts m .stuck)
    (h : Stopped source first start interrupts stop s) :
    FailStop (α := α) source first interrupts start (.error stop) s := by
  cases h with
  | otherwise hlog hpasses hroom hstop =>
    refine of_passes hlog hpasses hroom (fun stop' heq ↦ Except.error.inj heq ▸ hstop) ?_
    rintro hanswers ⟨⟩
    cases hstop with
    | silence hnever => exact hanswers hnever
    | interrupted h => exact hinterrupts _ h
  | @failing stage x e h hx hstop =>
    obtain ⟨made, hlog, hmade⟩ := h.log
    have hsince := Session.since_eq hlog
    -- every failure in the log is this one, so it is the first and the last
    have hlast : ∀ before y after e', first.Fails (start.since s) before y after e' →
        after = [] ∧ e' = e := by
      intro before y after e' hfails
      rw [hsince] at hfails
      exact eq_of_newest hmade hx hfails
    have hfails : first.Fails (start.since s) made x [] e := ⟨hsince, stage, hmade, hx⟩
    refine ⟨?_, fun before y after e' hfails' ↦ ?_, nofun, fun _ _ _ hpasses ↦ ?_,
      bounded_of_last fun _ _ _ _ hfails' ↦ (hlast _ _ _ _ hfails').1, h.room, ?_⟩
    · rw [hsince]
      exact hlog
    · obtain ⟨hnil, rfl⟩ := hlast _ _ _ _ hfails'
      refine ⟨hnil, ?_⟩
      rcases hstop with rfl | ⟨cause, hcause, rfl⟩
      · exact .inl rfl
      · exact .inr ⟨cause, hcause, rfl⟩
    · exact absurd hfails hpasses.not_fails
    · rintro - ⟨⟩
      rcases hstop with hstop | ⟨cause, -, hstop⟩
      · cases hstop
      · cases hstop

/-- A call that goes on only from what has been read fails as it should. -/
theorem of_meets {r : Run α} {start : Session} (hinterrupts : ∀ m, ¬ interrupts m .stuck)
    (h : r.Meets (Reads first start first) (fun _ s ↦ ∃ stage, Reads first start stage s)
      (Stopped source first start interrupts)) :
    FailStop source first interrupts start (r.outcome start).1 (r.outcome start).2 := by
  have hstart := Reads.refl first start
  rcases ho : r.outcome start with ⟨stop | a, s⟩
  · exact of_stopped hinterrupts (h.error hstart ho)
  · obtain ⟨stage, hs⟩ := h.ok hstart ho
    exact of_reads hs a

end FailStop

/-- What keeps a call from a value that nothing calls off: an exchange that fails, which then is the
last one, an authority without an address, and silence. -/
inductive Obstructs (source : TokenSource) (first : Stage) (start s : Session) : Stop → Prop
  | failing {before : List Exchange} {x : Exchange} {e : Error}
      (h : first.Fails (start.since s) before x [] e) : Obstructs source first start s (.error e)
  | unaddressed {cause : TransportError} (h : source.Unaddressed cause) :
      Obstructs source first start s (.error (.credential (.requestFailed cause)))
  | silence {x : Exchange} (hanswers : .never ∈ start.answers)
      (hlast : (start.since s).getLast? = some x) (hx : x.fate = .underway) :
      Obstructs source first start s .stuck

/-- A call that stops at its first failure and is not called off is obstructed, unless it says that
the operation has failed. -/
theorem FailStop.obstructs {α : Type} {source : TokenSource} {s : Session} {stop : Stop}
    (h : FailStop (α := α) source first allowed start (.error stop) s)
    (hnone : ∀ m stop, ¬ allowed m stop) :
    Obstructs source first start s stop ∨ ∃ f, stop = .error (.operationFailed f) := by
  rcases first.passes_or_fails (start.since s) with
    ⟨stage, hpasses⟩ | ⟨before, x, after, e, hfails⟩
  · cases h.excuse stop stage rfl hpasses with
    | silence hanswers hlast hx => exact .inl (.silence hanswers hlast hx)
    | interrupted hstop => exact absurd hstop (hnone _ _)
    | failed => exact .inr ⟨_, rfl⟩
    | unaddressed hcause => exact .inl (.unaddressed hcause)
  · obtain ⟨rfl, hresult⟩ := h.failure before x after e hfails
    rcases hresult with hresult | ⟨_, hcause, -⟩
    · cases hresult
      exact .inl (.failing hfails)
    · exact absurd hcause (hnone _ _)

/-- A submission is one exchange at whatever stage the call is, and nothing calls it off. -/
theorem Client.reads_submit {stage : Stage} (spec : OperationSpec) :
    (c.submit spec).Meets (Reads first start stage) (Replied first start stage)
      (Stopped c.tokens first start allowed) :=
  replied_exchange nofun

/-! ## Rounds of a wait

The stage of a poller does not change while the operation is running, so it is the invariant of the
loop.  What a look hands on besides is that the stage has been left, when it says so. -/

/-- What a poll finds in the reply of its channel is what its stage makes of it. -/
theorem Stage.next_ofPoller (p : Poller) (reply : Reply) :
    next reply (ofPoller p) =
      match p.finding reply with
      | .running _ => .ok (ofPoller p)
      | .unclear => .error (.invalidResponse .missingStatus)
      | _ => .ok .plain := by
  rw [ofPoller, Poller.finding]
  cases p.tracking with
  | statusAt =>
    rw [next]
    cases (Report.ofStatus reply).finding <;> rfl
  | location =>
    simp only
    by_cases hstatus : reply.status = HttpStatus.accepted
    · rw [if_pos hstatus]
      rfl
    · rw [if_neg hstatus]
      rfl
  | _ =>
    simp only
    cases (Report.ofState reply).finding <;> rfl

namespace Poller

theorem reads_getUrl (hw : ∀ m e, w.interruption? m = some e → allowed m (.error e)) (url : Url) :
    (c.getUrl w url).Keeps (Reads first start .plain) (Stopped c.tokens first start allowed) :=
  (replied_exchange hw).mono (fun _ hs ↦ hs) (fun _ _ hs ↦ hs.reads rfl) fun _ _ hs ↦ hs

/-- What a look has led to. -/
def Found (first : Stage) (start : Session) (p : Poller) : Progress → Session → Prop
  | .pending _, s => Reads first start (ofPoller p) s
  | _, s => ∃ stage, Reads first start stage s

theorem found_judge (hw : ∀ m e, w.interruption? m = some e → allowed m (.error e))
    (reply : Reply) :
    (p.judge c w reply).Meets (Replied first start (ofPoller p) reply) (Found first start p)
      (Stopped c.tokens first start allowed) := by
  have hnext := next_ofPoller p reply
  rw [judge]
  cases hfinding : p.finding reply with
  | running word =>
    rw [hfinding] at hnext
    exact Run.Meets.pure fun _ hs ↦ hs.reads hnext
  | failed failure =>
    rw [hfinding] at hnext
    exact Run.Meets.pure fun _ hs ↦ ⟨_, hs.reads hnext⟩
  | unclear =>
    rw [hfinding] at hnext
    exact Run.Meets.throw fun _ hs ↦ hs.stopped hnext
  | ended =>
    rw [hfinding] at hnext
    have hretrieve : (retrieve c w (p.whereabouts reply)).Keeps (Reads first start .plain)
        (Stopped c.tokens first start allowed) := by
      cases p.whereabouts reply with
      | here body => exact Run.Meets.pure fun _ hs ↦ hs
      | «at» url => exact bodyAt_keeps (reads_getUrl hw url)
    exact (hretrieve.mono (fun _ hs ↦ hs.reads hnext) (fun _ _ hs ↦ hs) fun _ _ hs ↦ hs).bind
      fun _ ↦ Run.Meets.pure fun _ hs ↦ ⟨_, hs⟩

/-- A poll is an exchange that is judged; one of an operation that has ended reads nothing. -/
theorem found_poll (hw : ∀ m e, w.interruption? m = some e → allowed m (.error e)) :
    (p.poll c w).Meets (Reads first start (ofPoller p)) (Found first start p)
      (Stopped c.tokens first start allowed) := by
  cases hch : p.channel? with
  | some ch =>
    rw [poll_eq hch]
    exact (replied_exchange hw).bind (found_judge hw)
  | none =>
    rw [poll]
    rcases tracking_of_channel_none hch with ⟨body, htracking⟩ | ⟨failure, htracking⟩
    · rw [htracking]
      exact Run.Meets.pure fun _ hs ↦ ⟨_, hs⟩
    · rw [htracking]
      exact Run.Meets.pure fun _ hs ↦ ⟨_, hs⟩

/-- The sleep in front of it reads nothing either. -/
theorem found_look (hw : ∀ m e, w.interruption? m = some e → allowed m (.error e)) :
    (p.look c o w).Meets (Reads first start (ofPoller p)) (Found first start p)
      (Stopped c.tokens first start allowed) := by
  cases hdone : p.isDone with
  | true =>
    rw [look, if_pos hdone]
    exact found_poll hw
  | false => exact look_meets hdone (fun t ↦ reads_sleep hw t) (found_poll hw)

/-- The rounds of a wait go from one reading to the next. -/
theorem reads_follow (hw : ∀ m e, w.interruption? m = some e → allowed m (.error e)) (n : Nat) :
    (p.follow c o w n).Meets
      (fun s ↦ Reads first start (ofPoller p) s ∧ s.answers.length < n)
      (fun _ s ↦ ∃ stage, Reads first start stage s) (Stopped c.tokens first start allowed) := by
  refine follow_meets (found_look hw) (fun word s hs ↦ ?_) (fun _ _ hs ↦ hs) (fun _ s hs ↦ ?_) n
  · exact Reads.quiet hs (s.quiet_noted o (.polling p.path word))
  · obtain ⟨stage, hs⟩ := hs
    exact hs.stopped .failed

/-- A wait may be called off before it begins, by a limit that the clock cannot tell; that is the
last case of the rule. -/
theorem reads_wait :
    (p.wait c o).Meets (Reads first start (ofPoller p))
      (fun _ s ↦ ∃ stage, Reads first start stage s)
      (Stopped c.tokens first start (o.Interrupts start)) := by
  refine wait_meets (fun t n ht ↦ ?_) (fun s e hs ↦ hs.quiet (s.quiet_noted o e))
    (fun _ s e hs ↦ ?_) (fun _ s e hs ↦ hs.quiet PollOptions.Interrupts.later (s.quiet_noted o e))
    fun s hs hclock ↦ ?_
  · exact reads_follow (fun _ _ ↦ PollOptions.interrupts_of_interruption ht.now) n
  · obtain ⟨stage, hs⟩ := hs
    exact ⟨stage, hs.quiet (s.quiet_noted o e)⟩
  · obtain ⟨limit, hlimit, hbeyond⟩ := Session.canTime_eq_false_iff.mp hclock
    rw [hs.horizon] at hbeyond
    exact hs.stopped (.interrupted ⟨limit, hlimit, hbeyond⟩)

end Poller

/-! ## Pages of a listing

Here the stage does change: it holds the items of the pages so far.  With it in the invariant, the
loop yields at once that a listing which ends has read its last page, and that its value is the
items of all pages. -/

namespace Cursor

variable {cursor : Cursor} {items : List Json}

/-- What a step of the walk has led to: the stage behind the page, or the end of the listing. -/
def Fetched (first : Stage) (start : Session) (items : List Json) :
    Option (Page × Cursor) → Session → Prop
  | none, s => Reads first start (.listed items) s
  | some found, s => Reads first start (ofCursor (items ++ found.1.items) found.2) s

/-- What comes of the reply with a page. -/
def found (reply : Reply) : Run (Option (Page × Cursor)) := do
  return some (← Run.ofExcept (pageOf reply))

/-- The first page is the reply to the submission. -/
theorem fetch_first (c : Client) (spec : OperationSpec) :
    (Cursor.first spec).fetch c = c.submit spec >>= found := by
  rw [fetch, reply?, bind_assoc]
  exact bind_congr fun _ ↦ pure_bind _ _

/-- Any other page is read at the link of the one before. -/
theorem fetch_next (c : Client) (url : Url) :
    (Cursor.next url).fetch c = c.getUrl .none url >>= found := by
  rw [fetch, reply?, bind_assoc]
  exact bind_congr fun _ ↦ pure_bind _ _

/-- A reply with a page takes the walk to the stage behind that page. -/
theorem fetched_found (reply : Reply) :
    (found reply).Meets (Replied first start (.page items) reply) (Fetched first start items)
      (Stopped c.tokens first start allowed) := by
  refine Run.Meets.bind (Q := fun page ↦ Fetched first start items (some page)) ?_ fun page ↦
    Run.Meets.pure fun _ hs ↦ hs
  exact Run.Meets.ofExcept (fun page s hpage hs ↦ hs.reads (by rw [Stage.next, hpage]; rfl))
    fun e s he hs ↦ hs.stopped (by rw [Stage.next, he]; rfl)

/-- So does a step of the walk; one that has come to the end makes no request. -/
theorem fetched_fetch : (cursor.fetch c).Meets (Reads first start (ofCursor items cursor))
    (Fetched first start items) (Stopped c.tokens first start allowed) := by
  cases cursor with
  | first spec =>
    rw [fetch_first]
    exact (Client.reads_submit spec).bind fetched_found
  | next url =>
    rw [fetch_next]
    exact (replied_exchange nofun).bind fetched_found
  | exhausted => exact Run.Meets.pure fun _ hs ↦ hs

/-- A page uses up an answer. -/
theorem fetch_answers (n : Nat) :
    (cursor.fetch c).Meets (fun s ↦ s.answers.length ≤ n)
      (fun page? s ↦ ∀ page, page? = some page → s.answers.length < n) fun _ _ ↦ True := by
  have hfound : ∀ reply, (found reply).Meets (fun s ↦ s.answers.length < n)
      (fun page? s ↦ ∀ page, page? = some page → s.answers.length < n) fun _ _ ↦ True := by
    intro reply
    refine Run.Meets.bind (Q := fun _ s ↦ s.answers.length < n) ?_ fun _ ↦
      Run.Meets.pure fun _ hs _ _ ↦ hs
    exact Run.Meets.ofExcept (fun _ _ _ hs ↦ hs) fun _ _ _ _ ↦ trivial
  cases cursor with
  | first spec =>
    rw [fetch_first]
    exact (Client.exchange_answers n).bind hfound
  | next url =>
    rw [fetch_next]
    exact (Client.exchange_answers n).bind hfound
  | exhausted =>
    refine Run.Meets.pure fun s _ page hpage ↦ ?_
    cases hpage

/-- The walk from a cursor, when some items have been read.  By induction on the rounds, of which
there are more than answers, so that the case without rounds does not occur. -/
theorem reads_itemsFrom (n : Nat) : ∀ (cursor : Cursor) (items : List Json),
    (itemsFrom c n cursor).Meets
      (fun s ↦ Reads first start (ofCursor items cursor) s ∧ s.answers.length < n)
      (fun rest s ↦ Reads first start (.listed (items ++ rest)) s)
      (Stopped c.tokens first start allowed) := by
  induction n with
  | zero => exact fun _ _ ↦ Run.Meets.throw fun s hs ↦ absurd hs.2 (Nat.not_lt_zero _)
  | succ n ih =>
    intro cursor items
    have hround : (cursor.fetch c).Meets
        (fun s ↦ Reads first start (ofCursor items cursor) s ∧ s.answers.length < n + 1)
        (fun page? s ↦ Fetched first start items page? s ∧
          ∀ page, page? = some page → s.answers.length < n)
      (Stopped c.tokens first start allowed) :=
      (fetched_fetch.and (fetch_answers n)).mono (fun _ hs ↦ ⟨hs.1, Nat.le_of_lt_succ hs.2⟩)
        (fun _ _ hs ↦ hs) fun _ _ hs ↦ hs.1
    refine hround.bind fun page? ↦ ?_
    cases page? with
    | none =>
      refine Run.Meets.pure fun s hs ↦ ?_
      rw [List.append_nil]
      exact hs.1
    | some found =>
      have hrest := (ih found.2 (items ++ found.1.items)).mono
        (fun s (hs : Fetched first start items (some found) s ∧ ∀ page, some found = some page →
          s.answers.length < n) ↦ ⟨hs.1, hs.2 found rfl⟩) (fun _ _ hs ↦ hs) fun _ _ hs ↦ hs
      refine hrest.bind fun rest ↦ Run.Meets.pure fun s hs ↦ ?_
      rw [← List.append_assoc]
      exact hs

end Cursor

/-! ## Calls

Each kind of call begins at a stage of its own, and the lemmas put its parts together. -/

namespace Stage

/-- What a call expects first. -/
def ofSpec (spec : OperationSpec) : Stage :=
  if spec.longRunning then .submission else .plain

/-- An operation is followed by its status if the reply to its submission names an address. -/
theorem next_submission (endpoint : Url) (spec : OperationSpec) (reply : Reply) :
    next reply submission = (Poller.ofReply endpoint spec reply).map ofPoller := by
  rw [next, Poller.ofReply]
  cases Poller.addressIn reply.headers Poller.statusField with
  | error e => rfl
  | ok address =>
    cases Poller.addressIn reply.headers Poller.locationField with
    | error e => rfl
    | ok location =>
      cases address with
      | some url => rfl
      | none =>
        cases location with
        | some url => rfl
        | none =>
          show Except.ok plain = .ok (ofPoller ⟨_, _, _, Poller.trackingOf spec.method reply.body⟩)
          rw [ofPoller, Poller.trackingOf]
          by_cases hdelete : spec.method = .delete
          · rw [if_pos hdelete]
          · rw [if_neg hdelete]
            cases Poller.progressOf reply.body <;> rfl

end Stage

namespace Client

/-- Beginning an operation leads to the stage in which its poller is followed. -/
theorem reads_begin (spec : OperationSpec) :
    (c.begin spec).Meets (Reads first start .submission)
      (fun p ↦ Reads first start (ofPoller p)) (Stopped c.tokens first start allowed) := by
  refine (reads_submit spec).bind fun reply ↦ Run.Meets.ofExcept (fun p s hp hs ↦ ?_)
    fun e s he hs ↦ ?_
  · exact hs.reads (by rw [next_submission c.endpoint spec, hp]; rfl)
  · exact hs.stopped (by rw [next_submission c.endpoint spec, he]; rfl)

/-- Only a long-running call can be called off, which is kept in what is allowed to do so. -/
theorem reads_invoke (spec : OperationSpec) :
    (c.invoke o spec).Meets (Reads first start (.ofSpec spec))
      (fun _ s ↦ ∃ stage, Reads first start stage s)
      (Stopped c.tokens first start fun m stop ↦
        spec.longRunning = true ∧ o.Interrupts start m stop) := by
  by_cases hspec : spec.longRunning = true
  · rw [invoke, if_pos hspec, Stage.ofSpec, if_pos hspec]
    refine (reads_begin spec).bind fun p ↦ ?_
    have hwait : (p.wait c o).Meets (Reads first start (ofPoller p))
        (fun _ s ↦ ∃ stage, Reads first start stage s)
        (Stopped c.tokens first start fun m stop ↦
          spec.longRunning = true ∧ o.Interrupts start m stop) :=
      Poller.reads_wait.mono (fun _ hs ↦ hs) (fun _ _ hs ↦ hs)
        fun _ _ hs ↦ hs.mono fun hstop ↦ ⟨hspec, hstop⟩
    exact hwait.bind fun _ ↦ Run.Meets.pure fun _ hs ↦ hs
  · rw [invoke, if_neg hspec, Stage.ofSpec, if_neg hspec]
    exact (reads_submit spec).bind fun _ ↦ Run.Meets.pure fun _ hs ↦ ⟨_, hs.reads rfl⟩

/-- A listing that has a value has read its last page. -/
theorem reads_collect (spec : OperationSpec) :
    (c.collect spec).Meets (Reads first start (.page []))
      (fun items ↦ Reads first start (.listed items)) (Stopped c.tokens first start allowed) :=
  Run.Meets.get_bind fun t ht ↦ ((Cursor.reads_itemsFrom (Cursor.rounds t) (.first spec) []).mono
    (fun s (hs : s = t) ↦ by rw [hs]; exact ⟨ht, Nat.lt_succ_self _⟩) (fun _ _ hs ↦ hs)
    fun _ _ hs ↦ hs)

end Client

namespace Operation

/-- What may call such an operation off.  A listing does not wait for anything. -/
def Interrupts (op : Operation) (spec : OperationSpec) (o : PollOptions) (start : Session)
    (m : Moment) (stop : Stop) : Prop :=
  op.result ≠ .items ∧ spec.longRunning = true ∧ o.Interrupts start m stop

end Operation

namespace Client

end Client
end ResourceManager
