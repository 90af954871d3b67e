import ResourceManager.Proofs.Parallel
import ResourceManager.Proofs.Rounds

/-!
# Waiting and polling by hand

A poller can be waited for, or it can be polled by hand until it shows something else than a running
operation.  `Poller.ByHand` is the loop that a caller would write for the second, with pauses of any
length between the polls.  It always ends (`Poller.byHand_total`).

A patient wait is this loop with the interval for every pause, whether it is reported or not.  Other
pauses make no difference as long as the token at hand lasts; when it does not, a poll requests a
new one first, so the polls of a slower loop are answered by what a quicker one gets later
(`Poller.wait_depends_on_interval`).  `Poller.wait_refines_polling` says all of it.

## How the loops are compared

A wait is not a loop of steps by its definition: it sleeps under a watch, it reports, and it keeps
its poller.  The comparison goes in two steps.

* `Poller.byHand_of_running` turns the rounds of a patient wait into a loop by hand with the same
  words and the same verdict, in a session that is alike.  Sessions are alike
  (`ResourceManager.Proofs.Parallel`) if they differ at most in their time and in what was
  reported, and these are just the two things in which a wait and a loop by hand differ.
* `Poller.ByHand.agree` compares two loops by hand, whose pauses may differ.  Here the time does
  matter, because it decides when a token is renewed.  So the loops have to be comparable
  (`Poller.Comparable`): their polls come at the same times, or the token at hand lasts for both.

Every statement about waits then follows by passing through loops by hand.
-/

set_option autoImplicit false

namespace ResourceManager

/-- The session after a pause. -/
def Session.paused (s : Session) (d : Duration) : Session :=
  s.advancedTo (s.now.add d)

/-- Sessions alike at the same time are so after a pause.  The second field is the ground on which
polls in the two sessions agree, whatever becomes of the token. -/
theorem Session.Alike.paused {c : Client} {s t : Session} (h : s.Alike t) (hnow : s.now = t.now)
    (d : Duration) : (s.paused d).Twin c .sameTime (t.paused d) :=
  ⟨h.advancedTo _ _, congrArg (Timestamp.add · d) hnow⟩

namespace Poller

/-- Polling by hand, with a pause before each poll, until a poll shows something else than a running
operation: the words for it so far, what the last poll makes of the loop, and the session behind. -/
inductive ByHand (c : Client) : (Nat → Duration) → Poller → Session → List String →
    Except Stop (Option Json) → Session → Prop
  | ended {pauses : Nat → Duration} {p p' : Poller} {s s₁ : Session}
      {shown : Except Stop Progress} {result : Except Stop (Option Json)}
      (hstep : p.step c .none (s.paused (pauses 0)) = (shown, p', s₁))
      (hverdict : verdict? shown = some result) : ByHand c pauses p s [] result s₁
  | again {pauses : Nat → Duration} {p p' : Poller} {s s₁ s₂ : Session} {word : String}
      {words : List String} {result : Except Stop (Option Json)}
      (hstep : p.step c .none (s.paused (pauses 0)) = (.ok (.pending word), p', s₁))
      (hrest : ByHand c (fun i ↦ pauses (i + 1)) p' s₁ words result s₂) :
      ByHand c pauses p s (word :: words) result s₂

variable {c : Client} {o : PollOptions} {p p' : Poller} {s s₁ s₂ t t₂ : Session}
  {pauses pauses' : Nat → Duration} {words words' : List String}
  {result result' : Except Stop (Option Json)}

/-! ## Steps

A step is a poll and the poller for the next one.  While the operation is running that is the same
poller, so a loop by hand may as well be said to keep it; the lemmas here let the proofs below pass
from steps to polls, about which `Poller.poll_agrees` speaks, and back. -/

/-- Only a running operation leaves a loop without a verdict. -/
theorem verdict?_eq_none {shown : Except Stop Progress} :
    verdict? shown = none ↔ ∃ word, shown = .ok (.pending word) := by
  rcases shown with stop | (word | body | failure)
  · exact ⟨nofun, by rintro ⟨_, ⟨⟩⟩⟩
  · exact ⟨fun _ ↦ ⟨word, rfl⟩, fun _ ↦ rfl⟩
  · exact ⟨nofun, by rintro ⟨_, ⟨⟩⟩⟩
  · exact ⟨nofun, by rintro ⟨_, ⟨⟩⟩⟩

/-- A step shows what the poll shows. -/
theorem poll_of_step {w : Watch} {shown : Except Stop Progress}
    (h : p.step c w s = (shown, p', s₁)) : (p.poll c w).outcome s = (shown, s₁) := by
  rw [step] at h
  rcases hpoll : (p.poll c w).outcome s with ⟨stop | progress, s'⟩
  · rw [hpoll] at h
    cases h
    rfl
  · rw [hpoll] at h
    cases h
    rfl

/-- Every poll belongs to a step, whatever poller it leads to. -/
theorem step_of_poll {w : Watch} {shown : Except Stop Progress}
    (h : (p.poll c w).outcome s = (shown, s₁)) : ∃ p', p.step c w s = (shown, p', s₁) := by
  rw [step, h]
  cases shown with
  | error stop => exact ⟨p, rfl⟩
  | ok progress => exact ⟨p.after progress, rfl⟩

/-- An operation that is running is polled on in the same way. -/
theorem step_eq_pending {w : Watch} {word : String} :
    p.step c w s = (.ok (.pending word), p', s₁) ↔
      (p.poll c w).outcome s = (.ok (.pending word), s₁) ∧ p' = p := by
  constructor
  · intro h
    have hpoll := poll_of_step h
    rw [step, hpoll] at h
    cases h
    exact ⟨hpoll, rfl⟩
  · rintro ⟨hpoll, rfl⟩
    rw [step, hpoll]
    rfl

/-- A poll takes its time, and never goes back in it. -/
theorem now_le_of_step {shown : Except Stop Progress} (h : p.step c .none s = (shown, p', s₁)) :
    s.now.nanoseconds ≤ s₁.now.nanoseconds := by
  have hforward := (poll_agrees (g := .sameTime) c p).forward s
  rw [poll_of_step h] at hforward
  exact hforward

/-- A look without a watch is a poll behind a pause. -/
theorem outcome_look_none {ch : Channel} (hch : p.channel? = some ch) :
    (p.look c o .none).outcome s = (p.poll c .none).outcome (s.paused o.policy.interval) := by
  rw [look, isDone_of_channel hch, if_neg Bool.false_ne_true,
    Run.outcome_bind_ok (Run.outcome_get s),
    Run.outcome_bind_ok (Watch.outcome_sleep_none _ s), s.passedTo_add]
  rfl

/-! ## The loop by hand

The comparison is by induction on the first loop, with the second one inverted at every step: the
polls at the head agree, so both loops end there or both go on.  Time enters through the bound on
the token.  What has to be known of a poll in the middle is that it lies before the end of its loop,
which is what `ByHand.now_le` is for. -/

/-- Time goes on in the loop. -/
theorem ByHand.now_le (h : ByHand c pauses p s words result s₂) :
    s.now.nanoseconds ≤ s₂.now.nanoseconds := by
  induction h with
  | @ended pauses _ _ s _ _ _ hstep =>
    exact Int.le_trans (s.now.le_add (pauses 0)) (now_le_of_step hstep)
  | @again pauses _ _ s _ _ _ _ _ hstep _ ih =>
    exact Int.le_trans (Int.le_trans (s.now.le_add (pauses 0)) (now_le_of_step hstep)) ih

/-- **The loop ends**, since each poll that finds the operation running has used up an answer. -/
theorem byHand_total (c : Client) (p : Poller) (pauses : Nat → Duration) (s : Session) :
    ∃ words result s₂, ByHand c pauses p s words result s₂ := by
  suffices h : ∀ n (pauses : Nat → Duration) (s : Session), s.answers.length < n →
      ∃ words result s₂, ByHand c pauses p s words result s₂ from
    h (s.answers.length + 1) pauses s (Nat.lt_succ_self _)
  intro n
  induction n with
  | zero => exact fun _ _ h ↦ absurd h (Nat.not_lt_zero _)
  | succ n ih =>
    intro pauses s hs
    rcases hstep : p.step c .none (s.paused (pauses 0)) with ⟨shown, p', s₁⟩
    cases hverdict : verdict? shown with
    | some result => exact ⟨[], result, s₁, .ended hstep hverdict⟩
    | none =>
      obtain ⟨word, rfl⟩ := verdict?_eq_none.mp hverdict
      obtain ⟨hpoll, rfl⟩ := step_eq_pending.mp hstep
      have hless := (poll_pending (s.paused (pauses 0)).answers.length).ok (Nat.le_refl _) hpoll
        word rfl
      have hsame : (s.paused (pauses 0)).answers.length = s.answers.length := rfl
      obtain ⟨words, result, s₂, hrest⟩ := ih (fun i ↦ pauses (i + 1)) s₁ (by omega)
      exact ⟨word :: words, result, s₂, .again hstep hrest⟩

/-- Two loops can be compared: they poll at the same times, or the token at hand lasts for both. -/
def Comparable (c : Client) (pauses pauses' : Nat → Duration) (s t s₂ t₂ : Session) : Prop :=
  s.now = t.now ∧ pauses = pauses' ∨
    c.HoldsToken s.token s₂.now ∧ c.HoldsToken s.token t₂.now

/-- The first polls of loops that can be compared agree, and what is left of the loops can be
compared again. -/
theorem Comparable.poll {shown shown' : Except Stop Progress} {t₁ : Session}
    (h : Comparable c pauses pauses' s t s₂ t₂) (halike : s.Alike t)
    (hpoll : (p.poll c .none).outcome (s.paused (pauses 0)) = (shown, s₁))
    (hpoll' : (p.poll c .none).outcome (t.paused (pauses' 0)) = (shown', t₁))
    (hle : s₁.now.nanoseconds ≤ s₂.now.nanoseconds)
    (hle' : t₁.now.nanoseconds ≤ t₂.now.nanoseconds) :
    shown' = shown ∧ s₁.Alike t₁ ∧
      Comparable c (fun i ↦ pauses (i + 1)) (fun i ↦ pauses' (i + 1)) s₁ t₁ s₂ t₂ := by
  rcases h with ⟨hnow, rfl⟩ | ⟨hheld, hheld'⟩
  · have hagree := (poll_agrees c p).run (halike.paused hnow (pauses 0)) trivial
    rw [hpoll, hpoll'] at hagree
    exact ⟨hagree.1.symm, hagree.2.toAlike, .inl ⟨hagree.2.grounds, rfl⟩⟩
  · -- the token at hand lasts to the end of both loops, and no poll gets past that
    have htwin : (s.paused (pauses 0)).Twin c (.held s.token s₂.now t₂.now)
        (t.paused (pauses' 0)) := ⟨halike.advancedTo _ _, rfl, hheld, hheld'⟩
    have hagree := (poll_agrees c p).run htwin
    rw [hpoll, hpoll'] at hagree
    obtain ⟨hshown, hrest⟩ := hagree ⟨hle, hle'⟩
    have htoken : s₁.token = s.token := hrest.grounds.1
    exact ⟨hshown.symm, hrest.toAlike, .inr (htoken ▸ ⟨hheld, hheld'⟩)⟩

/-- Loops that can be compared agree: they find the same words, come to the same verdict, and leave
sessions that are alike.  Two of the four cases are loops of which one ends and the other goes on;
the same poll would have to show two things there. -/
theorem ByHand.agree (h : ByHand c pauses p s words result s₂) :
    ∀ {pauses' t words' result' t₂}, ByHand c pauses' p t words' result' t₂ → s.Alike t →
      Comparable c pauses pauses' s t s₂ t₂ →
        words' = words ∧ result' = result ∧ s₂.Alike t₂ := by
  induction h with
  | @ended _ p _ _ _ _ _ hstep hverdict =>
    intro pauses' t words' result' t₂ h' halike hcomparable
    cases h' with
    | ended hstep' hverdict' =>
      obtain ⟨rfl, hrest, -⟩ := hcomparable.poll halike (poll_of_step hstep)
        (poll_of_step hstep') (Int.le_refl _) (Int.le_refl _)
      exact ⟨rfl, Option.some_inj.mp (hverdict'.symm.trans hverdict), hrest⟩
    | again hstep' hrest' =>
      obtain ⟨rfl, -⟩ := hcomparable.poll halike (poll_of_step hstep) (poll_of_step hstep')
        (Int.le_refl _) hrest'.now_le
      cases hverdict
  | @again _ p _ _ _ _ _ _ _ hstep hrest ih =>
    intro pauses' t words' result' t₂ h' halike hcomparable
    obtain ⟨hpoll, rfl⟩ := step_eq_pending.mp hstep
    cases h' with
    | ended hstep' hverdict' =>
      obtain ⟨rfl, -⟩ := hcomparable.poll halike hpoll (poll_of_step hstep') hrest.now_le
        (Int.le_refl _)
      cases hverdict'
    | again hstep' hrest' =>
      obtain ⟨hpoll', rfl⟩ := step_eq_pending.mp hstep'
      obtain ⟨hword, halike', hnext⟩ :=
        hcomparable.poll halike hpoll hpoll' hrest.now_le hrest'.now_le
      cases hword
      obtain ⟨rfl, rfl, halike₂⟩ := ih hrest' halike' hnext
      exact ⟨rfl, rfl, halike₂⟩

/-! ## The loop of a wait

A patient wait has no limit and no signal, so its watch is the one that never speaks and its sleeps
are pauses. -/

/-- The looks of a patient wait are polls by hand, with the interval before each of them. -/
theorem byHand_of_running {ch : Channel} (hch : p.channel? = some ch)
    (h : Running c o .none p words s s₁)
    (hverdict : verdict? ((p.look c o .none).outcome s₁).1 = some result) :
    ∀ {t}, s.Alike t → s.now = t.now →
      ∃ t₂, ByHand c (fun _ ↦ o.policy.interval) p t words result t₂ ∧
        ((p.look c o .none).outcome s₁).2.Alike t₂ ∧
        ((p.look c o .none).outcome s₁).2.now = t₂.now := by
  induction h with
  | @begun s =>
    intro t halike hnow
    rw [outcome_look_none hch] at hverdict ⊢
    obtain ⟨hshown, hrest⟩ :=
      (poll_agrees c p).run (halike.paused hnow o.policy.interval) trivial
    obtain ⟨p', hstep⟩ := step_of_poll (c := c) (p := p) (w := .none)
      (s := t.paused o.policy.interval) rfl
    exact ⟨_, .ended hstep (hshown ▸ hverdict), hrest.toAlike, hrest.grounds⟩
  | @again word words s s₁ _ hlook _ ih =>
    intro t halike hnow
    rw [outcome_look_none hch] at hlook
    have hagree := (poll_agrees c p).run (halike.paused hnow o.policy.interval) trivial
    rcases hpoll : (p.poll c .none).outcome (t.paused o.policy.interval) with ⟨shown, t₁⟩
    rw [hlook, hpoll] at hagree
    obtain ⟨rfl, hrest⟩ := hagree
    have hnow' : (s₁.noted o (.polling p.path word)).now = t₁.now := by
      rw [Session.now_noted]
      exact hrest.grounds
    obtain ⟨t₂, hby, halike', hnow₂⟩ :=
      ih hverdict ((s₁.alike_noted o _).trans hrest.toAlike) hnow'
    exact ⟨t₂, .again (step_eq_pending.mpr ⟨hpoll, rfl⟩) hby, halike', hnow₂⟩

/-- The closing report is not part of what sessions are compared in. -/
theorem alike_ending (path : String) (outcome : Except Stop (Option Json) × Session) :
    (ending o path outcome).2.Alike outcome.2 := by
  rcases outcome with ⟨(e | _ | _) | body, s⟩
  · exact s.alike_noted o _
  · exact .refl s
  · exact .refl s
  · exact s.alike_noted o _

/-- Nor does it take time. -/
theorem now_ending (path : String) (outcome : Except Stop (Option Json) × Session) :
    (ending o path outcome).2.now = outcome.2.now := by
  rcases outcome with ⟨(e | _ | _) | body, s⟩
  · exact s.now_noted o _
  · rfl
  · rfl
  · exact s.now_noted o _

/-- What the poll of an operation that has ended shows is how it ended, and nothing is asked. -/
theorem outcome_of_channel_none (hch : p.channel? = none) : ∃ shown result,
    verdict? (.ok shown) = some result ∧
      (∀ w s, (p.poll c w).outcome s = (.ok shown, s)) ∧
      ∀ o s, s.canTime o.policy.timeout = true →
        ∃ e, (p.wait c o).outcome s = (result, (s.noted o (.started p.path)).noted o e) ∧
          closing p.path result = [e] := by
  rcases tracking_of_channel_none hch with ⟨body, hp⟩ | ⟨failure, hp⟩
  · refine ⟨.done body, .ok body, rfl, fun w s ↦ ?_, fun o s hclock ↦
      ⟨_, outcome_wait_of_done hclock hp, rfl⟩⟩
    rw [poll, hp]
    rfl
  · refine ⟨.failed failure, .error (.error (.operationFailed failure)), rfl, fun w s ↦ ?_,
      fun o s hclock ↦ ⟨_, outcome_wait_of_failed hclock hp, rfl⟩⟩
    rw [poll, hp]
    rfl

/-- A patient wait is the loop by hand.  For an operation that has ended before, the loop pauses
once where the wait does not, so the two agree in all but the time; that is the disjunction at the
end. -/
theorem wait_byHand (c : Client) (p : Poller) (s : Session) (interval : Duration)
    (reports : Bool) : ∃ words result s₁ t₂,
      (p.wait c (.patient interval reports)).outcome s = (result, s₁) ∧
      s₁.events = s.events ++
        (PollOptions.patient interval reports).heard (reportsOf p.path words result) ∧
      ByHand c (fun _ ↦ interval) p s words result t₂ ∧ s₁.Alike t₂ ∧
      (p.channel? = none ∨ s₁.now = t₂.now) := by
  cases hch : p.channel? with
  | some ch =>
    obtain ⟨words, s', result, hrunning, hverdict, hwait, hevents⟩ :=
      wait_rounds (s := s) (o := .patient interval reports) rfl c p
    obtain ⟨t₂, hby, halike, hnow⟩ := byHand_of_running hch hrunning hverdict
      (s.alike_noted _ _) (s.now_noted _ _)
    refine ⟨words, result, _, t₂, Prod.ext ?_ rfl, hevents, hby, ?_, .inr ?_⟩
    · rw [hwait, ending_fst]
    · rw [hwait]
      exact (alike_ending _ _).trans halike
    · rw [hwait, now_ending]
      exact hnow
  | none =>
    obtain ⟨shown, result, hverdict, hpoll, hwait⟩ := outcome_of_channel_none (c := c) hch
    obtain ⟨e, hwait, hclosing⟩ := hwait (.patient interval reports) s rfl
    obtain ⟨p', hstep⟩ := step_of_poll (hpoll .none (s.paused interval))
    refine ⟨[], result, _, _, hwait, ?_, .ended hstep hverdict, ?_, .inl rfl⟩
    · rw [Session.events_noted_twice, reportsOf, hclosing]
      rfl
    · exact ((Session.alike_noted _ _ _).trans (Session.alike_noted _ _ _)).trans
        ⟨rfl, rfl, rfl, rfl⟩

/-- Loops by hand from one session agree if the operation has ended before, or if they can be
compared. -/
theorem ByHand.agree_of (h : ByHand c pauses p s words result s₂)
    (h' : ByHand c pauses' p s words' result' t₂)
    (hgrounds : p.channel? = none ∨ Comparable c pauses pauses' s s s₂ t₂) :
    words' = words ∧ result' = result ∧ s₂.Alike t₂ := by
  rcases hgrounds with hch | hcomparable
  · obtain ⟨shown, found, hverdict, hpoll, -⟩ := outcome_of_channel_none (c := c) hch
    have honce : ∀ {pauses : Nat → Duration} {words : List String}
        {result : Except Stop (Option Json)} {s₂ : Session},
        ByHand c pauses p s words result s₂ → words = [] ∧ result = found ∧ s.Alike s₂ := by
      intro pauses words result s₂ h
      cases h with
      | ended hstep hended =>
        have hshown := (poll_of_step hstep).symm.trans (hpoll .none _)
        cases hshown
        exact ⟨rfl, Option.some_inj.mp (hended.symm.trans hverdict), rfl, rfl, rfl, rfl⟩
      | again hstep =>
        have hshown := (poll_of_step hstep).symm.trans (hpoll .none _)
        cases hshown
        cases hverdict
    obtain ⟨rfl, rfl, halike⟩ := honce h
    obtain ⟨rfl, rfl, halike'⟩ := honce h'
    exact ⟨rfl, rfl, halike.symm.trans halike'⟩
  · exact h.agree h' (.refl s) hcomparable

/-- **A patient wait is the loop that polls by hand.**  The loop ends, whatever its pauses are.
With the interval for every pause its polls find the words that are reported, its result is the
result of the wait, and it has the same dialogue with the network.  It makes no difference whether
the wait is reported.  Nor does it make a difference how long the pauses or the interval are, as
long as the token at hand lasts to the end of both. -/
theorem wait_refines_polling (c : Client) (p : Poller) (s : Session) :
    (∀ pauses, ∃ words result s₂, ByHand c pauses p s words result s₂) ∧
    ∀ interval reports, ∃ words result s₁,
      (p.wait c (.patient interval reports)).outcome s = (result, s₁) ∧
      s₁.events = s.events ++
        (PollOptions.patient interval reports).heard (reportsOf p.path words result) ∧
      (∀ words' result' s₂, ByHand c (fun _ ↦ interval) p s words' result' s₂ →
        words' = words ∧ result' = result ∧ s₂.dialogue = s₁.dialogue) ∧
      (∀ reports', ∃ s₂, (p.wait c (.patient interval reports')).outcome s = (result, s₂) ∧
        s₂.dialogue = s₁.dialogue) ∧
      (∀ pauses words' result' s₂, ByHand c pauses p s words' result' s₂ →
        c.HoldsToken s.token s₁.now → c.HoldsToken s.token s₂.now →
          words' = words ∧ result' = result ∧ s₂.dialogue = s₁.dialogue) ∧
      ∀ interval' reports' result' s₂,
        (p.wait c (.patient interval' reports')).outcome s = (result', s₂) →
        c.HoldsToken s.token s₁.now → c.HoldsToken s.token s₂.now →
          result' = result ∧ s₂.dialogue = s₁.dialogue := by
  refine ⟨fun pauses ↦ byHand_total c p pauses s, fun interval reports ↦ ?_⟩
  obtain ⟨words, result, s₁, t₁, hwait, hevents, hby, halike, hnow⟩ :=
    wait_byHand c p s interval reports
  refine ⟨words, result, s₁, hwait, hevents, ?_, ?_, ?_, ?_⟩
  · -- the loop with the interval for its pauses
    intro words' result' s₂ hby'
    obtain ⟨hwords, hresult, halike'⟩ := hby.agree_of hby' (.inr (.inl ⟨rfl, rfl⟩))
    exact ⟨hwords, hresult, (halike.trans halike').dialogue.symm⟩
  · -- another wait with it, reported or not: both are that loop
    intro reports'
    obtain ⟨_, result', s₂, t₂, hwait', -, hby', halike', -⟩ :=
      wait_byHand c p s interval reports'
    obtain ⟨-, rfl, halike''⟩ := hby.agree_of hby' (.inr (.inl ⟨rfl, rfl⟩))
    exact ⟨s₂, hwait', (halike.trans (halike''.trans halike'.symm)).dialogue.symm⟩
  · -- a loop with other pauses runs at other times
    intro pauses words' result' s₂ hby' hheld hheld'
    have hgrounds : p.channel? = none ∨ Comparable c (fun _ ↦ interval) pauses s s t₁ s₂ := by
      rcases hnow with hch | hnow
      · exact .inl hch
      · exact .inr (.inr ⟨hnow ▸ hheld, hheld'⟩)
    obtain ⟨hwords, hresult, halike'⟩ := hby.agree_of hby' hgrounds
    exact ⟨hwords, hresult, (halike.trans halike').dialogue.symm⟩
  · intro interval' reports' result' s₂ hwait' hheld hheld'
    obtain ⟨_, result'', s₂', t₂, hwait'', -, hby', halike', hnow'⟩ :=
      wait_byHand c p s interval' reports'
    cases hwait'.symm.trans hwait''
    have hgrounds : p.channel? = none ∨
        Comparable c (fun _ ↦ interval) (fun _ ↦ interval') s s t₁ t₂ := by
      rcases hnow with hch | hnow
      · exact .inl hch
      · rcases hnow' with hch | hnow'
        · exact .inl hch
        · exact .inr (.inr ⟨hnow ▸ hheld, hnow' ▸ hheld'⟩)
    obtain ⟨-, hresult, halike''⟩ := hby.agree_of hby' hgrounds
    exact ⟨hresult, (halike.trans (halike''.trans halike'.symm)).dialogue.symm⟩

end Poller

/-! ## A token that runs out

The condition on the token cannot be dropped.  In the session below the second poll of a slow loop
finds the token used up, and the request for another one takes the answer meant for the poll. -/

/-- A client that gets its tokens for a secret. -/
def Client.ofSecret : Client where
  endpoint := ⟨"http", [], none, some "arm.test".toList, none, .segments [[]], none, none⟩
  scope := "http://arm.test/.default"
  tokens := ⟨.clientSecret "t" "c" "k", "http://login.test", Client.product⟩

/-- A session that has three answers to come: a token that is to be used for one second, a resource
that is being created, and one that says nothing about how it is getting on. -/
def Session.ofShortToken : Session :=
  .start ⟨0⟩ (["\x7b\"access_token\":\"t\",\"expires_in\":301\x7d",
    "\x7b\"properties\":\x7b\"provisioningState\":\"A\"\x7d\x7d", "\x7b\x7d"].map fun body ↦
    .after ⟨0⟩ (.response ⟨200, [], Utf8.encode body.toList⟩))

/-- Whether a run ended with credentials that could not be read. -/
def Stop.isMalformedCredential {α : Type} : Except Stop α → Bool
  | .error (.error (.credential .malformed)) => true
  | _ => false

theorem Stop.eq_of_isMalformedCredential {α : Type} {r : Except Stop α}
    (h : isMalformedCredential r = true) : r = .error (.error (.credential .malformed)) := by
  unfold isMalformedCredential at h
  split at h
  · rfl
  · cases h

/-- Where the token at hand does not last, the interval makes a difference.  Polled at once, the
operation has ended; after two seconds, the answer is the one to a request for a token. -/
theorem Poller.wait_depends_on_interval : ∃ p s body words s₂,
    (Client.ofSecret.begin (.new .put "/p" "2024-07-01")).outcome .ofShortToken = (.ok p, s) ∧
      ByHand .ofSecret (fun _ ↦ ⟨0⟩) p s words (.ok body) s₂ ∧
      ((p.wait .ofSecret (.patient ⟨0⟩ false)).outcome s).1 = .ok body ∧
      ((p.wait .ofSecret (.patient (.ofSeconds 2) false)).outcome s).1 =
        .error (.error (.credential .malformed)) := by
  have hruns : (((Client.ofSecret.begin (.new .put "/p" "2024-07-01")).outcome
      .ofShortToken).1.toOption.any fun p ↦
        let s := ((Client.ofSecret.begin (.new .put "/p" "2024-07-01")).outcome .ofShortToken).2
        ((p.wait .ofSecret (.patient ⟨0⟩ false)).outcome s).1.isOk &&
          Stop.isMalformedCredential
            ((p.wait .ofSecret (.patient (.ofSeconds 2) false)).outcome s).1) = true := by
    decide +kernel
  rcases hbegin : (Client.ofSecret.begin (.new .put "/p" "2024-07-01")).outcome .ofShortToken with
    ⟨stop | p, s⟩
  · rw [hbegin] at hruns
    cases hruns
  · rw [hbegin] at hruns
    obtain ⟨hquick, hslow⟩ := Bool.and_eq_true_iff.mp hruns
    obtain ⟨words, result, s₁, s₂, hwait, -, hby, -⟩ := wait_byHand .ofSecret p s ⟨0⟩ false
    rw [hwait] at hquick
    cases result with
    | error stop => cases hquick
    | ok body =>
      exact ⟨p, s, body, words, s₂, rfl, hby, by rw [hwait],
        Stop.eq_of_isMalformedCredential hslow⟩

end ResourceManager
