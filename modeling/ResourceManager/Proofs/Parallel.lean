import ResourceManager.Proofs.Following

/-!
# Runs side by side

Two sessions may differ in what has been reported and in the time, and still have had the same
requests and answers, with the same ones to come.  This file follows one run in two such sessions.

`Session.Twin` says that two sessions are alike, and that there is a reason why a client finds the
same token in both.  Either the times are the same, or the token at hand is still to be used at two
later times, one for each session.  The second reason is a hypothesis on the end of the runs: a run
takes as long as its answers do, so how long the token has to last is not known before.

`Run.Agrees` says of a run that it comes to the same in both sessions, as long as it does not get
past those times, and that it does not turn back the time.  The two go together.  Where a run is
made of two others, the first of them has ended in time because the second has, and time went on in
between. Its rules are those of the steps of a run, and `Poller.poll_agrees` puts them together for
a poll.

Only runs without a watch are followed.  A watch looks at the time and at the number of reports, and
in these two the sessions may differ.
-/

set_option autoImplicit false

namespace ResourceManager

/-! ## Sessions alike

A log has times in it, so two sessions that have had the same exchanges at different times do not
have the same log.  They have the same dialogue, which is the log without the times. -/

namespace Exchange

/-- What was said in an exchange, without the times: the request, the responses that sent it on with
the requests that were then made, and the answer, if one has come. -/
structure Said where
  request : Request
  redirects : List (Response × Request)
  answer : Except TransportError (Option Answer)

def said (x : Exchange) : Said where
  request := x.request
  redirects := x.redirects.map fun d ↦ (d.response, d.request)
  answer :=
    match x.fate with
    | .unsent cause => .error cause
    | .underway => .ok none
    | .answered _ answer => .ok (some answer)

/-- The requests that were sent can be told from what was said. -/
def Said.requests (x : Said) : List Request :=
  match x.answer with
  | .error _ => []
  | .ok _ => x.request :: x.redirects.map Prod.snd

def Said.redirected (x : Said) (response : Response) (r : Request) : Said :=
  { x with redirects := x.redirects ++ [(response, r)] }

def Said.answered (x : Said) (answer : Answer) : Said :=
  { x with answer := .ok (some answer) }

/-- The requests of an exchange are part of what was said. -/
theorem requests_said (x : Exchange) : x.said.requests = x.requests := by
  rw [Said.requests, requests, said]
  cases x.fate with
  | unsent => rfl
  | underway => simp
  | answered => simp

/-- When a redirect was followed is not said. -/
theorem said_redirected (x : Exchange) (redirect : Redirect) :
    (x.redirected redirect).said =
      x.said.redirected redirect.response redirect.request := by
  simp only [said, Said.redirected, redirected, List.map_append, List.map_cons, List.map_nil]

/-- Nor is it said when an answer came. -/
theorem said_answered (x : Exchange) (time : Timestamp) (answer : Answer) :
    (x.answered time answer).said = x.said.answered answer := rfl

end Exchange

namespace Session

/-- What was asked and answered, the first request first. -/
def dialogue (s : Session) : List Exchange.Said := s.exchanges.map Exchange.said

/-- The dialogue says which requests were sent. -/
theorem requests_eq_dialogue (s : Session) :
    s.requests = s.dialogue.flatMap Exchange.Said.requests := by
  rw [requests, dialogue, List.flatMap_map]
  exact congrArg (s.exchanges.flatMap ·) (funext fun x ↦ x.requests_said.symm)

/-- What brings the last exchange up to date goes on with the dialogue, if it goes on with what was
said in an exchange. -/
theorem dialogue_updated {f : Exchange → Exchange} (g : Exchange.Said → Exchange.Said)
    (h : ∀ x, (f x).said = g x.said) (s : Session) :
    (s.updated f).dialogue = s.dialogue.dropLast ++ s.dialogue.getLast?.toList.map g := by
  have hlast : (s.exchanges.getLast?.toList.map f).map Exchange.said =
      (s.exchanges.map Exchange.said).getLast?.toList.map g := by
    rw [List.getLast?_map]
    cases s.exchanges.getLast? with
    | none => rfl
    | some x => exact congrArg ([·]) (h x)
  rw [dialogue, updated, List.map_append, List.map_dropLast, hlast, dialogue]

/-- Two sessions with the same past and the same future, whatever the time and the reports. -/
structure Alike (s t : Session) : Prop where
  reachable : s.reachable = t.reachable
  answers : s.answers = t.answers
  token : s.token = t.token
  dialogue : s.dialogue = t.dialogue

namespace Alike

variable {s t u : Session}

theorem refl (s : Session) : s.Alike s := ⟨rfl, rfl, rfl, rfl⟩

theorem symm (h : s.Alike t) : t.Alike s :=
  ⟨h.reachable.symm, h.answers.symm, h.token.symm, h.dialogue.symm⟩

theorem trans (h : s.Alike t) (h' : t.Alike u) : s.Alike u :=
  ⟨h.reachable.trans h'.reachable, h.answers.trans h'.answers, h.token.trans h'.token,
    h.dialogue.trans h'.dialogue⟩

/-- Sessions alike have the same answer to come next. -/
theorem nextArrival (h : s.Alike t) : s.nextArrival = t.nextArrival := by
  rw [Session.nextArrival, Session.nextArrival, h.answers]

/-- They stay alike whatever time it gets to be in either. -/
theorem advancedTo (h : s.Alike t) (n n' : Timestamp) : (s.advancedTo n).Alike (t.advancedTo n') :=
  ⟨h.reachable, h.answers, h.token, h.dialogue⟩

/-! The steps of a request, with the same request and the same answer on both sides. -/

theorem sent (h : s.Alike t) (r : Request) : (s.sent r).Alike (t.sent r) where
  reachable := h.reachable
  answers := congrArg List.tail h.answers
  token := h.token
  dialogue := by
    have hlog : s.exchanges.map Exchange.said = t.exchanges.map Exchange.said := h.dialogue
    simp only [Session.dialogue, Session.sent, List.map_append, hlog]
    rfl

theorem refused (h : s.Alike t) (r : Request) (cause : TransportError) :
    (s.refused r cause).Alike (t.refused r cause) where
  reachable := h.reachable
  answers := h.answers
  token := h.token
  dialogue := by
    have hlog : s.exchanges.map Exchange.said = t.exchanges.map Exchange.said := h.dialogue
    simp only [Session.dialogue, Session.refused, List.map_append, hlog]
    rfl

theorem redirected (h : s.Alike t) (response : Response) (r : Request) :
    (s.redirected response r).Alike (t.redirected response r) where
  reachable := h.reachable
  answers := congrArg List.tail h.answers
  token := h.token
  dialogue := by
    show (s.updated _).dialogue = (t.updated _).dialogue
    rw [dialogue_updated (·.redirected response r) fun x ↦ x.said_redirected _,
      dialogue_updated (·.redirected response r) fun x ↦ x.said_redirected _, h.dialogue]

theorem answered (h : s.Alike t) (answer : Answer) :
    (s.answered answer).Alike (t.answered answer) where
  reachable := h.reachable
  answers := h.answers
  token := h.token
  dialogue := by
    rw [Session.answered, Session.answered,
      dialogue_updated (·.answered answer) fun x ↦ x.said_answered _ _,
      dialogue_updated (·.answered answer) fun x ↦ x.said_answered _ _, h.dialogue]

end Alike

/-- Reports do not count. -/
theorem alike_noted (s : Session) (o : PollOptions) (e : ProgressEvent) :
    (s.noted o e).Alike s := by
  rw [noted]
  split
  · exact ⟨rfl, rfl, rfl, rfl⟩
  · exact .refl s

end Session

/-! ## The token at hand

The one way in which the time gets into a dialogue is the renewal of a token. -/

/-- The client needs no other token at a point in time: it has been given one, or the one at hand
is still to be used. -/
def Client.HoldsToken (c : Client) (token : Option ScopedToken) (t : Timestamp) : Prop :=
  match c.tokens.credentials with
  | .accessToken _ => True
  | .clientSecret .. => (token.bind (·.usable? c.scope t)).isSome = true

namespace AccessToken

/-- A token that is to be used later is to be used now. -/
theorem isFresh_of_le {token : AccessToken} {t u : Timestamp}
    (hle : t.nanoseconds ≤ u.nanoseconds) (h : token.isFresh u = true) :
    token.isFresh t = true := by
  rw [isFresh, Watch.isBefore_iff] at h ⊢
  have hadd : (t.add margin).nanoseconds ≤ (u.add margin).nanoseconds :=
    Int.add_le_add_right hle _
  exact Int.lt_of_le_of_lt hadd h

end AccessToken

namespace ScopedToken

variable {token : ScopedToken} {scope : String} {t : Timestamp}

/-- A token is to be used for its own scope while it is fresh. -/
theorem usable?_isSome :
    (token.usable? scope t).isSome = true ↔ token.scope = scope ∧ token.token.isFresh t = true := by
  rw [usable?]
  split
  · rename_i h
    exact ⟨fun _ ↦ h, fun _ ↦ rfl⟩
  · rename_i h
    exact ⟨nofun, fun h' ↦ absurd h' h⟩

/-- What is handed out then is this token. -/
theorem usable?_of_isSome (h : (token.usable? scope t).isSome = true) :
    token.usable? scope t = some token.token :=
  if_pos (usable?_isSome.mp h)

end ScopedToken

/-- If a client needs no other token at some time, it has not needed one before. -/
theorem Client.HoldsToken.of_le {c : Client} {token : Option ScopedToken} {t u : Timestamp}
    (h : c.HoldsToken token u) (hle : t.nanoseconds ≤ u.nanoseconds) : c.HoldsToken token t := by
  rw [HoldsToken] at h ⊢
  split at h
  · exact trivial
  · cases token with
    | none => exact h
    | some token =>
      rw [Option.bind_some, ScopedToken.usable?_isSome] at h ⊢
      exact ⟨h.1, AccessToken.isFresh_of_le hle h.2⟩

/-! ## Twins

The two grounds are treated together as far as they go.  They part in one place,
`TokenSource.token_agrees`: at the same time a token may be renewed, in both sessions alike; at
different times it must not be. -/

/-- Why a client finds the same token in two sessions. -/
inductive Grounds where
  | sameTime
  /-- The token at hand is still to be used at two later times. -/
  | held (token : Option ScopedToken) (last last' : Timestamp)

namespace Grounds

/-- The grounds hold of two sessions with the same token at hand. -/
def Hold (c : Client) (s t : Session) : Grounds → Prop
  | sameTime => s.now = t.now
  | held token last last' =>
    s.token = token ∧ c.HoldsToken token last ∧ c.HoldsToken token last'

/-- Two sessions have not got past the times for which the grounds are. -/
def Covers (s t : Session) : Grounds → Prop
  | sameTime => True
  | held _ last last' =>
    s.now.nanoseconds ≤ last.nanoseconds ∧ t.now.nanoseconds ≤ last'.nanoseconds

/-- What has not been passed at the end of a run was not passed before. -/
theorem Covers.of_le {g : Grounds} {s t s' t' : Session} (h : g.Covers s' t')
    (hs : s.now.nanoseconds ≤ s'.now.nanoseconds) (ht : t.now.nanoseconds ≤ t'.now.nanoseconds) :
    g.Covers s t := by
  cases g with
  | sameTime => exact h
  | held => exact ⟨Int.le_trans hs h.1, Int.le_trans ht h.2⟩

end Grounds

/-- Two sessions are alike, and a client finds the same token in both. -/
structure Session.Twin (c : Client) (g : Grounds) (s t : Session) : Prop extends s.Alike t where
  grounds : g.Hold c s t

/-! ## Agreement

The rules for runs.  The condition that the grounds cover the end of a run is what makes them other
than the rules of a simulation: for two runs one after the other, it has to be handed back to the
end of the first. -/

namespace Run

variable {α β : Type} {c : Client} {g : Grounds}

/-- Time does not go back in the run, and in twin sessions it has the same result and leaves twins
behind, as long as it does not get past the times for which they are so. -/
structure Agrees (c : Client) (g : Grounds) (r : Run α) : Prop where
  forward : ∀ s : Session, s.now.nanoseconds ≤ (r.outcome s).2.now.nanoseconds
  run : ∀ {s t : Session}, s.Twin c g t → g.Covers (r.outcome s).2 (r.outcome t).2 →
    (r.outcome s).1 = (r.outcome t).1 ∧ (r.outcome s).2.Twin c g (r.outcome t).2

namespace Agrees

theorem pure (a : α) : (pure a : Run α).Agrees c g :=
  ⟨fun _ ↦ Int.le_refl _, fun h _ ↦ ⟨rfl, h⟩⟩

theorem throw (stop : Stop) : (throw stop : Run α).Agrees c g :=
  ⟨fun _ ↦ Int.le_refl _, fun h _ ↦ ⟨rfl, h⟩⟩

theorem ofExcept (x : Except Error α) : (Run.ofExcept x).Agrees c g := by
  cases x with
  | ok a => exact pure a
  | error e => exact throw (.error e)

/-- What a run does besides goes on in the same way on both sides. -/
theorem of_outcome {r : Run α} (result : Except Stop α) (f : Session → Session)
    (hr : ∀ s, r.outcome s = (result, f s))
    (hforward : ∀ s, s.now.nanoseconds ≤ (f s).now.nanoseconds)
    (htwin : ∀ {s t : Session}, s.Twin c g t → (f s).Twin c g (f t)) : r.Agrees c g := by
  refine ⟨fun s ↦ ?_, fun {s t} h _ ↦ ?_⟩
  · rw [hr]
    exact hforward s
  · rw [hr, hr]
    exact ⟨rfl, htwin h⟩

/-- A run that looks at the session goes on as it is told to in the session that was seen.  Since
time goes on whatever it is told, the times that the grounds are for have not come before. -/
theorem get_bind {f : Session → Run β}
    (hforward : ∀ s : Session, s.now.nanoseconds ≤ ((f s).outcome s).2.now.nanoseconds)
    (hrun : ∀ {s t : Session}, s.Twin c g t → g.Covers s t →
      g.Covers ((f s).outcome s).2 ((f t).outcome t).2 →
        ((f s).outcome s).1 = ((f t).outcome t).1 ∧
          ((f s).outcome s).2.Twin c g ((f t).outcome t).2) :
    (get >>= f).Agrees c g := by
  have hget (s : Session) : (get >>= f).outcome s = (f s).outcome s :=
    outcome_bind_ok (outcome_get s) f
  refine ⟨fun s ↦ ?_, fun {s t} h hcovers ↦ ?_⟩
  · rw [hget]
    exact hforward s
  · rw [hget, hget] at hcovers ⊢
    exact hrun h (hcovers.of_le (hforward s) (hforward t)) hcovers

/-- Behind the first of two runs time goes on. -/
theorem le_bind {f : α → Run β} (hf : ∀ a, (f a).Agrees c g) (r : Run α) (s : Session) :
    (r.outcome s).2.now.nanoseconds ≤ ((r >>= f).outcome s).2.now.nanoseconds := by
  rcases hs : r.outcome s with ⟨stop | a, s₁⟩
  · exact Int.le_of_eq (by rw [outcome_bind_error hs])
  · rw [outcome_bind_ok hs]
    exact (hf a).forward s₁

/-- Two runs that agree, one after the other.  The first one has the same result in both sessions,
so it leads to the same second one. -/
theorem bind {r : Run α} {f : α → Run β} (hr : r.Agrees c g) (hf : ∀ a, (f a).Agrees c g) :
    (r >>= f).Agrees c g := by
  refine ⟨fun s ↦ Int.le_trans (hr.forward s) (le_bind hf r s), fun {s t} h hcovers ↦ ?_⟩
  obtain ⟨hresult, hrest⟩ := hr.run h (hcovers.of_le (le_bind hf r s) (le_bind hf r t))
  rcases hs : r.outcome s with ⟨stop | a, s₁⟩
  · rcases ht : r.outcome t with ⟨stop' | b, t₁⟩
    · rw [hs, ht] at hresult hrest
      cases hresult
      rw [outcome_bind_error hs, outcome_bind_error ht]
      exact ⟨rfl, hrest⟩
    · rw [hs, ht] at hresult
      cases hresult
  · rcases ht : r.outcome t with ⟨stop' | b, t₁⟩
    · rw [hs, ht] at hresult
      cases hresult
    · rw [hs, ht] at hresult hrest
      cases hresult
      rw [outcome_bind_ok hs, outcome_bind_ok ht] at hcovers ⊢
      exact (hf a).run hrest hcovers

end Agrees
end Run

/-! ## Requests side by side

A request makes the same steps in both sessions, since what it does depends on itself and on the
answers.  Time passes by the same spans, though not from the same point on. -/

variable {c : Client} {p : Poller} {g : Grounds}

namespace Session.Twin

variable {s t : Session}

/-- What does not change the time and the token leaves the grounds alone. -/
theorem of_alike {s' t' : Session} (h : s.Twin c g t) (halike : s'.Alike t') (hs : s'.now = s.now)
    (ht : t'.now = t.now) (htoken : s'.token = s.token) : s'.Twin c g t' := by
  refine ⟨halike, ?_⟩
  have hgrounds := h.grounds
  cases g with
  | sameTime => exact hs.trans (hgrounds.trans ht.symm)
  | held => exact ⟨htoken.trans hgrounds.1, hgrounds.2⟩

/-- Nor does it matter if the same time passes in both. -/
theorem advanced (h : s.Twin c g t) (d : Duration) :
    (s.advancedTo (s.now.add d)).Twin c g (t.advancedTo (t.now.add d)) := by
  refine ⟨h.toAlike.advancedTo _ _, ?_⟩
  have hgrounds := h.grounds
  cases g with
  | sameTime => exact congrArg (Timestamp.add · d) hgrounds
  | held => exact hgrounds

/-- At the same time any token may be kept. -/
theorem tokenKept (h : s.Twin c .sameTime t) (token : Option ScopedToken) :
    Twin c .sameTime { s with token := token } { t with token := token } :=
  ⟨⟨h.reachable, h.answers, rfl, h.dialogue⟩, h.grounds⟩

end Session.Twin

/-- A span of time never leads back. -/
theorem Timestamp.le_add (t : Timestamp) (d : Duration) :
    t.nanoseconds ≤ (t.add d).nanoseconds :=
  Int.le_add_of_nonneg_right (Int.natCast_nonneg _)

/-- Without a watch an answer takes its time, or the run waits for ever. -/
theorem Arrival.receive_agrees (arrival : Arrival) : (arrival.receive .none).Agrees c g := by
  cases arrival with
  | after delay answer =>
    refine .of_outcome (.ok answer) (fun s ↦ s.advancedTo (s.now.add delay))
      (fun s ↦ ?_) (fun s ↦ s.now.le_add delay) fun h ↦ h.advanced delay
    rw [receive, Run.outcome_bind_ok (Run.outcome_get s),
      Run.outcome_bind_ok (Watch.outcome_sleep_none _ s), s.passedTo_add]
    rfl
  | never =>
    exact .of_outcome (.error .stuck) id (fun _ ↦ rfl) (fun _ ↦ Int.le_refl _) id

namespace Request

/-- What is done about an answer ends the exchange, or sends a request on. -/
theorem react_agrees {goOn : Request → Arrival → Run Delivery}
    (hgoOn : ∀ r arrival, (goOn r arrival).Agrees c g) (answer : Answer) (reaction : Reaction) :
    (react goOn answer reaction).Agrees c g := by
  cases reaction with
  | ends d =>
    exact .of_outcome (.ok d) (·.answered answer) (fun _ ↦ rfl)
      (fun _ ↦ Int.le_refl _) fun h ↦ h.of_alike (h.toAlike.answered answer) rfl rfl rfl
  | goesOn response next =>
    have hreact (s : Session) : (react goOn answer (.goesOn response next)).outcome s =
        (goOn next s.nextArrival).outcome (s.redirected response next) := rfl
    refine ⟨fun s ↦ ?_, fun {s t} h hcovers ↦ ?_⟩
    · rw [hreact]
      exact (hgoOn next _).forward (s.redirected response next)
    · rw [hreact, hreact, h.toAlike.nextArrival] at hcovers ⊢
      exact (hgoOn next _).run
        (h.of_alike (h.toAlike.redirected response next) rfl rfl rfl) hcovers

/-- Waiting for answers, by induction on the redirects that may still be followed. -/
theorem await_agrees (left : Nat) : ∀ (r : Request) (arrival : Arrival),
    (await .none left r arrival).Agrees c g := by
  induction left with
  | zero =>
    exact fun r arrival ↦ arrival.receive_agrees.bind fun answer ↦
      react_agrees (fun _ _ ↦ .throw _) answer _
  | succ left ih =>
    exact fun r arrival ↦ arrival.receive_agrees.bind fun answer ↦ react_agrees ih answer _

/-- An exchange sends a request and waits for the answer that comes next. -/
theorem exchange_agrees (r : Request) : (r.exchange .none).Agrees c g := by
  have hawait (arrival : Arrival) := await_agrees (c := c) (g := g) redirectLimit r arrival
  refine .get_bind (fun s ↦ (hawait _).forward (s.sent r)) fun {s t} h _ hcovers ↦ ?_
  have hset (s : Session) (f : Run Delivery) :
      (set (s.sent r) >>= fun _ ↦ f).outcome s = f.outcome (s.sent r) := rfl
  rw [hset, hset, h.toAlike.nextArrival] at hcovers ⊢
  exact (hawait _).run (h.of_alike (h.toAlike.sent r) rfl rfl rfl) hcovers

/-- A request that is not sent takes no time. -/
theorem refuse_agrees (r : Request) (cause : TransportError) :
    (r.refuse cause).Agrees c g :=
  .of_outcome (.ok (.failed cause)) (·.refused r cause) (fun _ ↦ rfl)
    (fun _ ↦ Int.le_refl _) fun h ↦ h.of_alike (h.toAlike.refused r cause) rfl rfl rfl

/-- Whether it is sent depends on itself and on the network being there at all. -/
theorem send_agrees (r : Request) : (r.send .none).Agrees c g := by
  rw [send]
  cases r.defect? with
  | some cause => exact r.refuse_agrees cause
  | none =>
    have hway (b : Bool) :
        (if b then r.exchange .none else r.refuse .noResponse).Agrees c g := by
      cases b with
      | true => exact r.exchange_agrees
      | false => exact r.refuse_agrees _
    refine .get_bind (fun s ↦ (hway s.reachable).forward s) fun {s t} h _ hcovers ↦ ?_
    rw [h.reachable] at hcovers ⊢
    exact (hway t.reachable).run h hcovers

end Request

namespace TokenSource

/-- What is kept is read off the time that it is. -/
theorem keep_agrees (scope : String) (d : Delivery) : (keep scope d).Agrees c .sameTime := by
  refine .get_bind (fun s ↦ ?_) fun {s t} h _ _ ↦ ?_
  · cases ofDelivery d s.now with
    | error cause => exact Int.le_refl _
    | ok token => exact Int.le_refl _
  · have hread : ofDelivery d s.now = ofDelivery d t.now := congrArg (ofDelivery d) h.grounds
    rw [hread]
    cases ofDelivery d t.now with
    | error cause => exact ⟨rfl, h⟩
    | ok token => exact ⟨rfl, h.tokenKept _⟩

/-- A request for a token is a request like others; only what is made of its answer depends on the
time. -/
theorem ask_agrees (source : TokenSource) (tenantId clientId secret scope : String) :
    (source.ask tenantId clientId secret scope .none).Agrees c g := by
  rw [ask]
  split
  · exact .pure _
  · exact Request.send_agrees _

/-- A token that is requested at the same time is the same. -/
theorem renew_agrees (source : TokenSource) (tenantId clientId secret scope : String) :
    (source.renew tenantId clientId secret scope .none).Agrees c .sameTime :=
  (source.ask_agrees _ _ _ _).bind fun d ↦ keep_agrees scope d

/-- The token is the same: it is at hand in both sessions, or requested at the same time. -/
theorem token_agrees (c : Client) : (c.tokens.token c.scope .none).Agrees c g := by
  rw [token]
  split
  · exact .pure _
  · rename_i tenantId clientId secret hcredentials
    have hrenew := renew_agrees (c := c) c.tokens tenantId clientId secret c.scope
    refine .get_bind (fun s ↦ ?_) fun {s t} h hstart _ ↦ ?_
    · cases s.token.bind (·.usable? c.scope s.now) with
      | some token => exact Int.le_refl _
      | none =>
        dsimp only
        exact hrenew.forward s
    · cases g with
      | sameTime =>
        -- one clock, so one decision, and a request is answered alike
        have hnow : s.now = t.now := h.grounds
        have husable : s.token.bind (·.usable? c.scope s.now) =
            t.token.bind (·.usable? c.scope t.now) := by rw [h.token, hnow]
        rw [husable]
        cases t.token.bind (·.usable? c.scope t.now) with
        | some token => exact ⟨rfl, h⟩
        | none =>
          dsimp only
          exact hrenew.run h trivial
      | held token last last' =>
        -- two clocks, but the token outlasts both runs, so neither requests another one
        obtain ⟨hatHand, hlast, hlast'⟩ := h.grounds
        have hleft := hlast.of_le hstart.1
        have hright := hlast'.of_le hstart.2
        rw [← h.token, hatHand]
        rw [Client.HoldsToken, hcredentials] at hleft hright
        cases token with
        | none => cases hleft
        | some token =>
          simp only [Option.bind_some, ScopedToken.usable?_of_isSome hleft,
            ScopedToken.usable?_of_isSome hright]
          exact ⟨rfl, h⟩

end TokenSource

/-- So an exchange agrees if the token does. -/
theorem Client.exchange_agrees (c : Client) (m : Method) (url : Url) (body : Option Json) :
    (c.exchange .none m url body).Agrees c g :=
  (TokenSource.token_agrees c).bind fun _ ↦ (Request.send_agrees _).bind fun _ ↦ .ofExcept _

namespace Poller

theorem bodyAt_agrees (c : Client) (url : Url) : (bodyAt c .none url).Agrees c g :=
  (c.exchange_agrees .get url none).bind fun _ ↦ .pure _

theorem result_agrees (c : Client) (p : Poller) (resultUrl : Option Url) (status : Option Json) :
    (p.result c .none resultUrl status).Agrees c g := by
  rw [result.eq_def]
  split
  · exact bodyAt_agrees c _
  · split
    · exact .pure _
    · split
      · exact bodyAt_agrees c _
      · exact .pure _

/-- **A poll has the same result in both sessions.** -/
theorem poll_agrees (c : Client) (p : Poller) : (p.poll c .none).Agrees c g := by
  rw [poll]
  split
  · exact .pure _
  · exact .pure _
  · refine (bodyAt_agrees c _).bind fun body ↦ ?_
    split
    · exact .throw _
    · exact .pure _
    · exact (result_agrees c p _ _).bind fun _ ↦ .pure _
    · exact .pure _
  · refine (c.exchange_agrees .get _ none).bind fun reply ↦ ?_
    split
    · exact .pure _
    · split
      · exact (bodyAt_agrees c _).bind fun _ ↦ .pure _
      · exact .pure _
  · refine (bodyAt_agrees c _).bind fun body ↦ ?_
    split
    · exact .pure _
    · exact .pure _

end Poller
end ResourceManager
