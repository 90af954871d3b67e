import ResourceManager.Proofs.Polling

/-!
# The rounds of a wait

The loop of a wait is some number of looks that find the operation running, each of them reported,
and one look more that ends it.  `Poller.Running` are the rounds of the first kind and
`Poller.verdict?` is what the last look makes of the wait; `Poller.follow_rounds` says that every
loop is of this form, whatever calls it off.

A look itself reports nothing (`Poller.events_look`), so the reports of a wait can be read off its
rounds: `Poller.events_wait`.

The rules of `ResourceManager.Proofs.Polling` say what an invariant becomes across a wait.  They are
not enough where two waits are compared, or where the reports are to be listed one by one: there the
looks themselves have to be at hand, with the sessions between them.  This is the form in which
`ResourceManager.Proofs.HandPolling` compares a wait with polls made by hand, and in which
`ResourceManager.Proofs.Reporting` lists what is heard of a wait.
-/

set_option autoImplicit false

namespace ResourceManager

variable {c : Client} {o : PollOptions} {w : Watch} {p : Poller} {s s₁ s₂ : Session}
  {words : List String}

/-! ## Rounds -/

namespace Poller

/-- What a look makes of the wait, unless it leaves the operation running.  A look that was called
off ends the wait as well, with what called it off. -/
def verdict? : Except Stop Progress → Option (Except Stop (Option Json))
  | .ok (.pending _) => none
  | .ok (.done body) => some (.ok body)
  | .ok (.failed failure) => some (.error (.error (.operationFailed failure)))
  | .error stop => some (.error stop)

/-- Looks that find the operation running, in these words, each with its report. -/
inductive Running (c : Client) (o : PollOptions) (w : Watch) (p : Poller) :
    List String → Session → Session → Prop
  | begun {s : Session} : Running c o w p [] s s
  | again {word : String} {words : List String} {s s₁ s₂ : Session}
      (hlook : (p.look c o w).outcome s = (.ok (.pending word), s₁))
      (hrest : Running c o w p words (s₁.noted o (.polling p.path word)) s₂) :
      Running c o w p (word :: words) s s₂

/-- Every loop is some rounds and a look that ends it.  The session of the last look is the session
of the loop, since nothing comes behind it.  The induction is on the rounds the loop is given, of
which there are more than answers. -/
theorem follow_rounds (n : Nat) : ∀ {s : Session}, s.answers.length < n →
    ∃ words s₁ result, Running c o w p words s s₁ ∧
      verdict? ((p.look c o w).outcome s₁).1 = some result ∧
      (p.follow c o w n).outcome s = (result, ((p.look c o w).outcome s₁).2) := by
  induction n with
  | zero => exact fun h ↦ absurd h (Nat.not_lt_zero _)
  | succ n ih =>
    intro s hs
    rcases hlook : (p.look c o w).outcome s with ⟨stop | progress, s'⟩
    · refine ⟨[], s, .error stop, .begun, by rw [hlook]; rfl, ?_⟩
      rw [follow, Run.outcome_bind_error hlook, hlook]
    · cases progress with
      | done body =>
        refine ⟨[], s, .ok body, .begun, by rw [hlook]; rfl, ?_⟩
        rw [follow, Run.outcome_bind_ok hlook, hlook]
        rfl
      | failed failure =>
        refine ⟨[], s, .error (.error (.operationFailed failure)), .begun, by rw [hlook]; rfl, ?_⟩
        rw [follow, Run.outcome_bind_ok hlook, hlook]
        rfl
      | pending word =>
        -- such a look has used up an answer, so there are rounds enough for what comes behind it
        have hused : (s'.noted o (.polling p.path word)).answers.length < n := by
          have hless := (look_pending s.answers.length).ok (Nat.le_refl _) hlook word rfl
          rw [Session.answers_noted]
          omega
        obtain ⟨words, s₁, result, hrunning, hverdict, hfollow⟩ := ih hused
        refine ⟨word :: words, s₁, result, .again hlook hrunning, hverdict, ?_⟩
        rw [follow, Run.outcome_bind_ok hlook]
        exact (Run.outcome_bind_ok (outcome_report _ s') _).trans hfollow

end Poller

/-! ## Reports -/

/-- Wait as long as it takes. -/
def PollOptions.patient (interval : Duration) (reports : Bool) : PollOptions :=
  ⟨⟨interval, none⟩, .never, reports⟩

/-- What is heard of some reports: nothing, where nobody asks for them. -/
def PollOptions.heard (o : PollOptions) (reports : List ProgressEvent) : List ProgressEvent :=
  if o.reports then reports else []

theorem PollOptions.heard_append (o : PollOptions) (reports more : List ProgressEvent) :
    o.heard (reports ++ more) = o.heard reports ++ o.heard more := by
  rw [heard, heard, heard]
  split
  · rfl
  · rfl

theorem Session.events_noted (s : Session) (o : PollOptions) (e : ProgressEvent) :
    (s.noted o e).events = s.events ++ o.heard [e] := by
  rw [noted, PollOptions.heard]
  split
  · rfl
  · exact (List.append_nil _).symm

/-- Two reports, one after the other. -/
theorem Session.events_noted_twice (s : Session) (o : PollOptions) (e e' : ProgressEvent) :
    ((s.noted o e).noted o e').events = s.events ++ o.heard [e, e'] := by
  rw [Session.events_noted, Session.events_noted, List.append_assoc, ← PollOptions.heard_append]
  rfl

/-- Only reports are heard of: the list of events outlives requests, sleeps and renewed tokens.  It
is steady and not stable, because a report is what it does not outlive. -/
theorem Session.steady_events (events : List ProgressEvent) :
    Steady (fun _ ↦ True) fun s ↦ s.events = events where
  made _ _ _ _ _ _ _ hs := hs
  advancedTo _ _ hs := hs
  tokenKept _ _ hs := hs

namespace Poller

/-- A look makes no report, not even one of what it has found; the loop around it does. -/
theorem events_look (c : Client) (o : PollOptions) (w : Watch) (p : Poller) (s : Session) :
    ((p.look c o w).outcome s).2.events = s.events :=
  ((Session.steady_events s.events).look (fun _ _ ↦ trivial) fun _ _ _ ↦ trivial).session rfl

/-- The rounds are heard of by their words. -/
theorem Running.events (h : Running c o w p words s s₁) :
    s₁.events = s.events ++ o.heard (words.map (.polling p.path)) := by
  induction h with
  | begun =>
    rw [List.map_nil, PollOptions.heard, ite_self, List.append_nil]
  | @again word words s s' _ hlook _ ih =>
    have hsame := events_look c o w p s
    rw [hlook] at hsame
    rw [ih, Session.events_noted, hsame, List.append_assoc, ← PollOptions.heard_append]
    rfl

/-- The report that closes a wait; a wait that never ends has none. -/
def closing {α : Type} (path : String) : Except Stop α → List ProgressEvent
  | .ok _ => [.completed path]
  | .error (.error e) => [.failed path e.message]
  | .error _ => []

/-- The reports of a wait with a result, when some looks have found the operation running. -/
def reportsOf {α : Type} (path : String) (words : List String) (result : Except Stop α) :
    List ProgressEvent :=
  .started path :: (words.map (.polling path) ++ closing path result)

/-- The ending of a wait adds its closing report and nothing else. -/
theorem events_ending (path : String) (result : Except Stop (Option Json)) (s : Session) :
    (ending o path (result, s)).2.events = s.events ++ o.heard (closing path result) := by
  have hnone : s.events = s.events ++ o.heard [] := by
    rw [PollOptions.heard, ite_self, List.append_nil]
  rcases result with (e | _ | _) | body
  · exact s.events_noted o _
  · exact hnone
  · exact hnone
  · exact s.events_noted o _

/-- Reports leave the result as it is. -/
theorem ending_fst (path : String) (outcome : Except Stop (Option Json) × Session) :
    (ending o path outcome).1 = outcome.1 := by
  rcases outcome with ⟨(e | _ | _) | body, s⟩ <;> rfl

/-- **A wait is its rounds and one look more, between two reports.**  The rounds say what is heard
of it. -/
theorem wait_rounds (hclock : s.canTime o.policy.timeout = true) (c : Client) (p : Poller) :
    ∃ words s₁ result,
      Running c o (.start o.signal o.policy.timeout s.now) p words
        (s.noted o (.started p.path)) s₁ ∧
      verdict? ((p.look c o (.start o.signal o.policy.timeout s.now)).outcome s₁).1 =
        some result ∧
      (p.wait c o).outcome s = ending o p.path
        (result, ((p.look c o (.start o.signal o.policy.timeout s.now)).outcome s₁).2) ∧
      ((p.wait c o).outcome s).2.events = s.events ++ o.heard (reportsOf p.path words result) := by
  have hrounds : (s.noted o (.started p.path)).answers.length < rounds s := by
    rw [Session.answers_noted]
    exact answers_lt_rounds s
  obtain ⟨words, s₁, result, hrunning, hverdict, hfollow⟩ := follow_rounds (rounds s) hrounds
  have hwait := outcome_wait hclock c p
  rw [hfollow] at hwait
  refine ⟨words, s₁, result, hrunning, hverdict, hwait, ?_⟩
  rw [hwait, events_ending, events_look, hrunning.events, Session.events_noted, reportsOf,
    List.append_assoc, List.append_assoc, ← PollOptions.heard_append, ← PollOptions.heard_append]
  rfl

end Poller
end ResourceManager
