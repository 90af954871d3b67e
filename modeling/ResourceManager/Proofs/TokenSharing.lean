import ResourceManager.Proofs.Parallel
import ResourceManager.Token.Lock

/-!
# Sharing a token

The calls for tokens that go on side by side are served one at a time.  This file says what comes of
them in every execution of `TokenLock`, whatever the order, the time and the answers, and whoever
gives up.

* `TokenLock.Told` is the invariant of an execution: the token at hand is the one that was issued
  last, and each call has come as far as the events about it tell.
* `TokenLock.Story` lists how a call can end.  A token is requested at most once for it.
* `TokenLock.executes_token` puts `TokenSource.token` under the relation: a call that nobody else
  disturbs is an execution.
* `TokenLock.sharing` is the theorem on all executions.

## How the invariant is kept

There are eight kinds of steps, and they do one of four things to the invariant.  A call comes
(`Told.called`), a caller is let in and asks (`Told.asked`), a call ends (`Told.ends`), or something
happens elsewhere (`Told.elsewhere`).  A call ends in one of five ways, which differ only in the
event that tells of it and in what becomes of the token; `Told.step` is the list.

Two of the fields are there for the sake of the others.  `numbers` says that a call that has not
come yet is nowhere to be found, so that a new caller cannot be taken for an old one, and
`withoutToken` says that nobody is inside who could have been served at the door.  The second is
what makes the statement about a token that lasts true from the first moment: a caller who is
already inside would ask for another token.
-/

set_option autoImplicit false

namespace ResourceManager

/-! ## The token at hand

Whether a token is of use is a matter of its scope and of the clock.  Time only goes on, so a token
that is of use later is of use now, and one that is of no use now never is again. -/

/-- The margin is five minutes. -/
theorem AccessToken.isFresh_iff {token : AccessToken} {now : Timestamp} :
    token.isFresh now = true ↔
      now.nanoseconds + (Duration.ofSeconds 300).nanoseconds < token.expiresAt.nanoseconds := by
  rw [isFresh, Watch.isBefore_iff]
  rfl

namespace Session

variable {s t : Session} {scope : String} {token : AccessToken}

/-- The token at hand was issued for a scope, and it is more than five minutes from its end. -/
structure Holds (s : Session) (scope : String) (token : AccessToken) : Prop where
  atHand : s.token = some ⟨scope, token⟩
  fresh : s.now.nanoseconds + (Duration.ofSeconds 300).nanoseconds < token.expiresAt.nanoseconds

/-- The program's test for the token at hand is this condition. -/
theorem usable?_eq_some : s.usable? scope = some token ↔ s.Holds scope token := by
  rw [usable?]
  constructor
  · intro h
    obtain ⟨⟨scope', token'⟩, hs, husable⟩ := Option.bind_eq_some_iff.mp h
    rw [ScopedToken.usable?] at husable
    split at husable
    · rename_i hfresh
      obtain ⟨rfl, hfresh⟩ := hfresh
      cases husable
      exact ⟨hs, AccessToken.isFresh_iff.mp hfresh⟩
    · cases husable
  · rintro ⟨hs, hfresh⟩
    rw [hs]
    exact if_pos ⟨rfl, AccessToken.isFresh_iff.mpr hfresh⟩

/-- And there is none to be handed out exactly if no token meets it. -/
theorem usable?_eq_none : s.usable? scope = none ↔ ¬∃ token, s.Holds scope token := by
  simp only [← usable?_eq_some, ← Option.isSome_iff_exists, Option.not_isSome_iff_eq_none]

/-- A token that is of use later is of use now. -/
theorem Holds.earlier (h : t.Holds scope token) (htoken : t.token = s.token)
    (hnow : s.now.nanoseconds ≤ t.now.nanoseconds) : s.Holds scope token :=
  ⟨htoken ▸ h.atHand, Int.lt_of_le_of_lt (Int.add_le_add_right hnow _) h.fresh⟩

/-- A scope without a token stays without one while nothing is issued. -/
theorem usable?_eq_none_of_later (h : s.usable? scope = none) (htoken : t.token = s.token)
    (hnow : s.now.nanoseconds ≤ t.now.nanoseconds) : t.usable? scope = none := by
  rw [usable?_eq_none] at h ⊢
  rintro ⟨token, htoken'⟩
  exact h ⟨token, htoken'.earlier htoken hnow⟩

/-- The requests for tokens that were made, the first one first. -/
def tokenRequests (s : Session) : List Request :=
  (s.exchanges.map Exchange.request).filter (·.token.isNone)

/-- What happens beside the lock requests no token. -/
theorem Beside.tokenRequests_eq (h : s.Beside t) : t.tokenRequests = s.tokenRequests := by
  obtain ⟨more, hmore, hcalls⟩ := h.exchanges
  have hnone : (more.map Exchange.request).filter (·.token.isNone) = [] := by
    refine List.filter_eq_nil_iff.mpr fun r hr ↦ ?_
    obtain ⟨x, hx, rfl⟩ := List.mem_map.mp hr
    simpa [Option.isSome_iff_ne_none] using hcalls x hx
  rw [tokenRequests, hmore, List.map_append, List.filter_append, hnone, List.append_nil]
  rfl

/-- Time may pass. -/
theorem Beside.later {now : Timestamp} (h : now.nanoseconds ≤ s.now.nanoseconds) :
    Beside { s with now := now } s where
  token := rfl
  now := h
  exchanges := ⟨[], (List.append_nil s.exchanges).symm, by simp⟩

end Session

/-! ## Requests for tokens

A call for a token that is let in goes through two functions of the program: one that asks, and one
that keeps what comes.  Between the two, time passes and other calls may come, which is why the lock
takes them apart.  Each has its frame: asking leaves the token alone and makes one request, keeping
makes none. -/

namespace TokenSource

variable {source : TokenSource} {tenantId clientId secret scope : String} {s s₁ : Session}

/-- The request that a source makes for a scope, unless the address of the authority is no URL. -/
def requestFor? (source : TokenSource) (scope : String) : Option Request :=
  match source.credentials with
  | .clientSecret tenantId clientId secret =>
    (source.request tenantId clientId secret scope).toOption
  | .accessToken _ => none

/-- What comes of the request for a scope in some session. -/
def Asks (source : TokenSource) (scope : String) (coming : Except Stop Delivery) : Prop :=
  ∃ tenantId clientId secret w s, source.credentials = .clientSecret tenantId clientId secret ∧
    coming = ((source.ask tenantId clientId secret scope w).outcome s).1

/-- Asking for a token takes time and makes one request, which is logged whatever comes of it. -/
theorem ask_frame (hsource : source.credentials = .clientSecret tenantId clientId secret)
    (s : Session) (scope : String) (w : Watch) :
    let s₁ := ((source.ask tenantId clientId secret scope w).outcome s).2
    s₁.token = s.token ∧ s.now.nanoseconds ≤ s₁.now.nanoseconds ∧
      s₁.tokenRequests = s.tokenRequests ++ (source.requestFor? scope).toList := by
  rw [requestFor?, hsource]
  simp only [ask]
  cases hr : source.request tenantId clientId secret scope with
  | error cause => exact ⟨rfl, Int.le_refl _, (List.append_nil _).symm⟩
  | ok r =>
    obtain ⟨x, t, hsession, hsend⟩ := r.sending w s
    simp only [hsession]
    refine ⟨rfl, hsend.now_le, ?_⟩
    have hnew : [x.request].filter (·.token.isNone) = [r] := by
      rw [hsend.request_eq]
      exact List.filter_cons_of_pos (by rw [request_token hr]; rfl)
    rw [Session.tokenRequests, s.exchanges_made, List.map_append, List.filter_append]
    exact congrArg (_ ++ ·) hnew

/-- Nothing stops a request for a token but what calls it off, or the silence of the authority. -/
theorem ask_stopped {w : Watch} {stop : Stop}
    (h : (source.ask tenantId clientId secret scope w).outcome s = (.error stop, s₁)) :
    (∃ m e, stop = .error e ∧ w.interruption? m = some e) ∨ stop = .stuck := by
  rw [ask] at h
  split at h
  · cases h
  · rename_i r _
    obtain ⟨x, t, -, hsend⟩ := r.sending w s
    rw [h] at hsend
    cases hsend with
    | calledOff _ _ _ he => exact .inl ⟨_, _, rfl, he⟩
    | unanswered => exact .inr rfl

/-- A token is kept where there is one. -/
theorem outcome_keep (scope : String) (d : Delivery) (s : Session) :
    (keep scope d).outcome s =
      match ofDelivery d s.now with
      | .error cause => (.error (.error (.credential cause)), s)
      | .ok token => (.ok token, { s with token := some ⟨scope, token⟩ }) := by
  rw [keep, Run.outcome_bind_ok (Run.outcome_get s)]
  cases ofDelivery d s.now with
  | error cause => rfl
  | ok token => rfl

/-- If a token is kept, the delivery has it, and nothing else has changed. -/
theorem keep_eq_ok {d : Delivery} {token : AccessToken}
    (h : (keep scope d).outcome s = (.ok token, s₁)) :
    ofDelivery d s.now = .ok token ∧ s₁ = { s with token := some ⟨scope, token⟩ } := by
  rw [outcome_keep] at h
  cases hd : ofDelivery d s.now with
  | error cause =>
    rw [hd] at h
    cases h
  | ok token' =>
    rw [hd] at h
    cases h
    exact ⟨rfl, rfl⟩

/-- If none can be kept, the delivery says why, and nothing has changed at all. -/
theorem keep_eq_error {d : Delivery} {cause : CredentialError}
    (h : (keep scope d).outcome s = (.error (.error (.credential cause)), s₁)) :
    ofDelivery d s.now = .error cause ∧ s₁ = s := by
  rw [outcome_keep] at h
  cases hd : ofDelivery d s.now with
  | error cause' =>
    rw [hd] at h
    cases h
    exact ⟨rfl, rfl⟩
  | ok token =>
    rw [hd] at h
    cases h

end TokenSource

/-! ## What the events tell

Events are appended, so these lemmas say what one more event adds to what is told: something about
the call it is about, and nothing about any other. -/

namespace TokenEvent

variable {call : TokenCall} {event : TokenEvent} {events : List TokenEvent}

/-- One more event is told about the call it is about. -/
theorem about_concat (call : TokenCall) (events : List TokenEvent) (event : TokenEvent) :
    about call (events ++ [event]) =
      about call events ++ if event.call? = some call then [event] else [] := by
  rw [about, List.filter_append, about]
  by_cases h : event.call? = some call
  · simp [h]
  · simp [h]

theorem about_concat_of_eq (h : event.call? = some call) :
    about call (events ++ [event]) = about call events ++ [event] := by
  rw [about_concat, if_pos h]

theorem about_concat_of_ne {other : TokenCall} (h : event.call? = some other) (hne : call ≠ other) :
    about call (events ++ [event]) = about call events := by
  rw [about_concat, if_neg, List.append_nil]
  rw [h, Option.some_inj]
  exact hne.symm

/-- A token that is issued takes the place of the one before. -/
theorem lastIssued_concat (events : List TokenEvent) (event : TokenEvent) :
    lastIssued (events ++ [event]) = event.issued?.or (lastIssued events) := by
  rw [lastIssued, List.filterMap_append, lastIssued]
  cases h : event.issued? with
  | none => simp [h]
  | some token => simp [h]

/-- A token that was issued was issued to a call for its scope. -/
theorem eq_issued_of_issued? {scope : String} {token : AccessToken}
    (h : event.issued? = some ⟨scope, token⟩) :
    ∃ call, event = .issued call token ∧ call.scope = scope := by
  unfold issued? at h
  split at h
  · obtain ⟨rfl, rfl⟩ := ScopedToken.mk.inj (Option.some_inj.mp h)
    exact ⟨_, rfl, rfl⟩
  · cases h

end TokenEvent

namespace TokenLock

open TokenEvent

variable {source : TokenSource} {s : Session} {lock lock₁ lock' : TokenLock} {call : TokenCall}
  {event : TokenEvent} {events : List TokenEvent}

/-- How a call can end, told by the events about it.  In two of the five ways nobody is asked, and
in none is there more than one request. -/
inductive Story (source : TokenSource) (call : TokenCall) : List TokenEvent → Prop
  | handed (token : AccessToken) : Story source call [.called call, .handed call token]
  | issued {d : Delivery} {now : Timestamp} {token : AccessToken}
      (hasks : source.Asks call.scope (.ok d))
      (htoken : TokenSource.ofDelivery d now = .ok token) :
      Story source call [.called call, .asked call (.ok d), .issued call token]
  | failed {d : Delivery} {now : Timestamp} {cause : CredentialError}
      (hasks : source.Asks call.scope (.ok d))
      (hcause : TokenSource.ofDelivery d now = .error cause) :
      Story source call [.called call, .asked call (.ok d), .failed call cause]
  | droppedWaiting : Story source call [.called call, .dropped call]
  | droppedInside {coming : Except Stop Delivery} (hasks : source.Asks call.scope coming) :
      Story source call [.called call, .asked call coming, .dropped call]

/-- What the events of an execution tell about the lock behind it. -/
structure Told (source : TokenSource) (s : Session) (events : List TokenEvent)
    (lock : TokenLock) : Prop where
  token : lock.session.token = (lastIssued events).or s.token
  distinct : lock.present.Nodup
  numbers : ∀ call, lock.calls ≤ call.number → call ∉ lock.present ∧ about call events = []
  waiting : ∀ call ∈ lock.waiting, about call events = [.called call]
  inside : ∀ flight, lock.holder = some flight →
    about flight.call events = [.called flight.call, .asked flight.call flight.coming] ∧
      source.Asks flight.call.scope flight.coming
  /-- Whoever is inside had no token at hand, and has none now. -/
  withoutToken : ∀ flight, lock.holder = some flight →
    lock.session.usable? flight.call.scope = none
  ended : ∀ call, call ∉ lock.present →
    about call events = [] ∨ Story source call (about call events)

namespace Told

/-- In the beginning nobody has come. -/
theorem free (source : TokenSource) (s : Session) : Told source s [] (free s) where
  token := rfl
  distinct := List.nodup_nil
  numbers _ _ := ⟨List.not_mem_nil, rfl⟩
  waiting _ h := absurd h List.not_mem_nil
  inside _ h := by cases h
  withoutToken _ h := by cases h
  ended _ _ := .inl rfl

/-- A call comes. -/
theorem called (h : Told source s events lock) (scope : String) :
    Told source s (events ++ [.called ⟨lock.calls, scope⟩])
      { lock with waiting := lock.waiting ++ [⟨lock.calls, scope⟩], calls := lock.calls + 1 } := by
  have hpresent : present { lock with
      waiting := lock.waiting ++ [⟨lock.calls, scope⟩], calls := lock.calls + 1 } =
      lock.present ++ [⟨lock.calls, scope⟩] := by
    simp [present]
  obtain ⟨habsent, hnothing⟩ := h.numbers ⟨lock.calls, scope⟩ (Nat.le_refl _)
  have hother : ∀ call ∈ lock.present,
      about call (events ++ [.called ⟨lock.calls, scope⟩]) = about call events := by
    refine fun call hcall ↦ about_concat_of_ne rfl ?_
    rintro rfl
    exact habsent hcall
  refine ⟨?_, ?_, fun call hcall ↦ ?_, fun call hcall ↦ ?_, fun flight hflight ↦ ?_,
    fun flight hflight ↦ h.withoutToken flight hflight, fun call hcall ↦ ?_⟩
  · rw [lastIssued_concat]
    exact h.token
  · rw [hpresent]
    refine List.nodup_append.mpr ⟨h.distinct, by simp, fun other hmem new hnew ↦ ?_⟩
    rintro rfl
    exact habsent (List.mem_singleton.mp hnew ▸ hmem)
  · have hne : call ≠ ⟨lock.calls, scope⟩ := by
      rintro rfl
      exact Nat.not_succ_le_self _ hcall
    obtain ⟨hgone, hnone⟩ := h.numbers call (Nat.le_of_succ_le hcall)
    refine ⟨?_, ?_⟩
    · rw [hpresent]
      simp [hgone, hne]
    · rw [about_concat_of_ne rfl hne, hnone]
  · rcases List.mem_append.mp hcall with hold | hnew
    · rw [hother call (List.mem_append_right _ hold), h.waiting call hold]
    · rw [List.mem_singleton.mp hnew, about_concat_of_eq rfl, hnothing, List.nil_append]
  · have hmem : flight.call ∈ lock.present := by
      rw [present, show lock.holder = some flight from hflight]
      exact List.mem_cons_self
    rw [hother _ hmem]
    exact h.inside flight hflight
  · rw [hpresent, List.mem_append, not_or] at hcall
    rw [about_concat_of_ne rfl fun heq ↦ hcall.2 (List.mem_singleton.mpr heq)]
    exact h.ended call hcall.1

/-- A caller is let in and asks.  The time of the lock stands still in this step; the time that the
answer takes passes elsewhere. -/
theorem asked (h : Told source s events lock) {coming : Except Stop Delivery} {t : Session}
    (hfree : lock.holder = none) (hcall : call ∈ lock.waiting)
    (htoken : lock.session.usable? call.scope = none) (hasks : source.Asks call.scope coming)
    (hsame : t.token = lock.session.token) (hnow : t.now = lock.session.now) (time : Timestamp) :
    Told source s (events ++ [.asked call coming])
      { lock with
        session := t
        waiting := lock.waiting.erase call
        holder := some ⟨call, coming, time⟩ } := by
  have hpresent : present { lock with
      session := t, waiting := lock.waiting.erase call, holder := some ⟨call, coming, time⟩ } =
      call :: lock.waiting.erase call := rfl
  have hbefore : lock.present = lock.waiting := by rw [present, hfree]; rfl
  have hperm : lock.present.Perm (call :: lock.waiting.erase call) := by
    rw [hbefore]
    exact List.perm_cons_erase hcall
  have hdistinct : (call :: lock.waiting.erase call).Nodup := hperm.nodup_iff.mp h.distinct
  have hother : ∀ other, other ≠ call →
      about other (events ++ [.asked call coming]) = about other events :=
    fun _ hne ↦ about_concat_of_ne rfl hne
  refine ⟨?_, hdistinct, fun other hother' ↦ ?_, fun other hmem ↦ ?_, ?_, ?_, fun other hgone ↦ ?_⟩
  · rw [lastIssued_concat]
    exact hsame.trans h.token
  · obtain ⟨hgone, hnone⟩ := h.numbers other hother'
    refine ⟨?_, ?_⟩
    · rw [hpresent]
      exact fun hmem ↦ hgone (hperm.mem_iff.mpr hmem)
    · rw [hother other, hnone]
      rintro rfl
      exact hgone (hbefore ▸ hcall)
  · have hne : other ≠ call := by
      rintro rfl
      exact (List.nodup_cons.mp hdistinct).1 hmem
    rw [hother other hne]
    exact h.waiting other (List.mem_of_mem_erase hmem)
  · rintro _ ⟨⟩
    rw [about_concat_of_eq rfl, h.waiting call hcall]
    exact ⟨rfl, hasks⟩
  · rintro _ ⟨⟩
    exact Session.usable?_eq_none_of_later htoken hsame (Int.le_of_eq (by rw [hnow]))
  · rw [hpresent] at hgone
    rw [hother other (List.ne_of_not_mem_cons hgone)]
    exact h.ended other fun hmem ↦ hgone (hperm.mem_iff.mp hmem)

/-- A call ends.  What is asked of the lock behind it is what the five ways have in common: one
caller fewer, nobody new inside, and the token changed only by the event. -/
theorem ends (h : Told source s events lock) (hevent : event.call? = some call)
    (hperm : lock.present.Perm (call :: lock'.present))
    (hwaiting : ∀ other ∈ lock'.waiting, other ∈ lock.waiting)
    (hholder : ∀ flight, lock'.holder = some flight →
      lock.holder = some flight ∧ lock'.session = lock.session)
    (hcalls : lock'.calls = lock.calls)
    (htoken : lock'.session.token = event.issued?.or lock.session.token)
    (hstory : Story source call (about call events ++ [event])) :
    Told source s (events ++ [event]) lock' := by
  have hdistinct : (call :: lock'.present).Nodup := hperm.nodup_iff.mp h.distinct
  have hother : ∀ other, other ≠ call →
      about other (events ++ [event]) = about other events :=
    fun _ hne ↦ about_concat_of_ne hevent hne
  have hne : ∀ other ∈ lock'.present, other ≠ call := by
    rintro other hmem rfl
    exact (List.nodup_cons.mp hdistinct).1 hmem
  have hinside : ∀ flight, lock'.holder = some flight → flight.call ∈ lock'.present := by
    intro flight hflight
    rw [present, hflight]
    exact List.mem_cons_self
  refine ⟨?_, (List.nodup_cons.mp hdistinct).2, fun other hnumber ↦ ?_, fun other hmem ↦ ?_,
    fun flight hflight ↦ ?_, fun flight hflight ↦ ?_, fun other hgone ↦ ?_⟩
  · rw [htoken, h.token, lastIssued_concat, Option.or_assoc]
  · rw [hcalls] at hnumber
    obtain ⟨hgone, hnone⟩ := h.numbers other hnumber
    refine ⟨fun hmem ↦ hgone (hperm.mem_iff.mpr (List.mem_cons_of_mem _ hmem)), ?_⟩
    rw [hother other, hnone]
    rintro rfl
    exact hgone (hperm.mem_iff.mpr List.mem_cons_self)
  · rw [hother other (hne other (List.mem_append_right _ hmem))]
    exact h.waiting other (hwaiting other hmem)
  · rw [hother _ (hne _ (hinside flight hflight))]
    exact h.inside flight (hholder flight hflight).1
  · rw [(hholder flight hflight).2]
    exact h.withoutToken flight (hholder flight hflight).1
  · -- this caller is gone now and has a whole story; the others who are gone were so before
    by_cases heq : other = call
    · rw [heq, about_concat_of_eq hevent]
      exact .inr hstory
    · rw [hother other heq]
      refine h.ended other fun hmem ↦ ?_
      rcases List.mem_cons.mp (hperm.mem_iff.mp hmem) with hsame | hmem
      · exact heq hsame
      · exact hgone hmem

/-- What goes on elsewhere does not count.  Time may pass there, and a token may run out, but none
is issued. -/
theorem elsewhere (h : Told source s events lock) {t : Session} (hbeside : lock.session.Beside t) :
    Told source s (events ++ [.elsewhere]) { lock with session := t } := by
  have hsame : ∀ call, about call (events ++ [.elsewhere]) = about call events := by
    intro call
    rw [about_concat, if_neg nofun, List.append_nil]
  refine ⟨?_, h.distinct, fun call hcall ↦ ?_, fun call hcall ↦ ?_, fun flight hflight ↦ ?_,
    fun flight hflight ↦ ?_, fun call hcall ↦ ?_⟩
  · rw [lastIssued_concat]
    exact hbeside.token.trans h.token
  · rw [hsame]
    exact h.numbers call hcall
  · rw [hsame]
    exact h.waiting call hcall
  · rw [hsame]
    exact h.inside flight hflight
  · exact Session.usable?_eq_none_of_later (h.withoutToken flight hflight) hbeside.token hbeside.now
  · rw [hsame]
    exact h.ended call hcall

/-- The caller who is inside leaves. -/
theorem leaves (h : Told source s events lock) {coming : Except Stop Delivery}
    {time : Timestamp} (hholder : lock.holder = some ⟨call, coming, time⟩) {t : Session}
    (hevent : event.call? = some call) (htoken : t.token = event.issued?.or lock.session.token)
    (hstory : source.Asks call.scope coming →
      Story source call [.called call, .asked call coming, event]) :
    Told source s (events ++ [event]) { lock with session := t, holder := none } := by
  obtain ⟨habout, hasks⟩ := h.inside _ hholder
  refine h.ends hevent ?_ (fun _ hmem ↦ hmem) nofun rfl htoken ?_
  · rw [present, hholder]
    exact .refl _
  · rw [habout]
    exact hstory hasks

/-- **A step keeps the invariant.** -/
theorem step (h : Told source s events lock) (hstep : Step source lock event lock') :
    Told source s (events ++ [event]) lock' := by
  cases hstep with
  | called scope => exact h.called scope
  | @handed call token hfree hcall =>
    refine h.ends rfl ?_ (fun _ ↦ List.mem_of_mem_erase) (fun _ hflight ↦ ⟨hflight, rfl⟩) rfl rfl ?_
    · rw [present, present, hfree]
      exact List.perm_cons_erase hcall
    · rw [h.waiting call hcall]
      exact .handed token
  | @asked call tenantId clientId secret w coming t hfree hcall htoken hsource hask =>
    have hframe := TokenSource.ask_frame hsource lock.session call.scope w
    rw [hask] at hframe
    have hasks : source.Asks call.scope coming :=
      ⟨tenantId, clientId, secret, w, lock.session, hsource, by rw [hask]⟩
    exact h.asked (t := { t with now := lock.session.now }) hfree hcall htoken hasks hframe.1 rfl
      t.now
  | @issued call d _ token t hholder _ hkeep =>
    obtain ⟨htoken, rfl⟩ := TokenSource.keep_eq_ok hkeep
    exact h.leaves hholder rfl rfl fun hasks ↦ .issued hasks htoken
  | @failed call d _ cause t hholder _ hkeep =>
    obtain ⟨hcause, rfl⟩ := TokenSource.keep_eq_error hkeep
    exact h.leaves hholder rfl rfl fun hasks ↦ .failed hasks hcause
  | @droppedWaiting call hcall =>
    refine h.ends rfl ?_ (fun _ ↦ List.mem_of_mem_erase) (fun _ hflight ↦ ⟨hflight, rfl⟩) rfl rfl ?_
    · rw [present, present]
      exact ((List.perm_cons_erase hcall).append_left _).trans List.perm_middle
    · rw [h.waiting call hcall]
      exact .droppedWaiting
  | droppedInside hholder =>
    exact h.leaves hholder rfl rfl .droppedInside
  | elsewhere hbeside => exact h.elsewhere hbeside

/-- So every execution keeps it, from the lock that nobody has come to. -/
theorem of_execution (h : Execution source (.free s) events lock) : Told source s events lock := by
  induction h with
  | start => exact .free source s
  | next _ hstep ih => exact ih.step hstep

end Told

/-! ## Time and requests

A second pass over the steps, for what does not concern any single call. -/

/-- What a step takes and asks.  Only two kinds of steps do either: a caller who asks makes one
request, and what goes on elsewhere takes time. -/
theorem Step.frame (h : Step source lock event lock') :
    lock.session.now.nanoseconds ≤ lock'.session.now.nanoseconds ∧
      lock'.session.tokenRequests = lock.session.tokenRequests ++
        (event.asked?.bind fun call ↦ source.requestFor? call.scope).toList := by
  have hquiet : ∀ t : Session, t.now = lock.session.now → t.exchanges = lock.session.exchanges →
      lock.session.now.nanoseconds ≤ t.now.nanoseconds ∧
        t.tokenRequests = lock.session.tokenRequests ++ [] := by
    intro t hnow hlog
    rw [hnow, Session.tokenRequests, hlog, List.append_nil]
    exact ⟨Int.le_refl _, rfl⟩
  cases h with
  | called => exact hquiet _ rfl rfl
  | handed => exact hquiet _ rfl rfl
  | @asked call tenantId clientId secret w coming t hfree hcall htoken hsource hask =>
    obtain ⟨-, -, hrequests⟩ := TokenSource.ask_frame hsource lock.session call.scope w
    rw [hask] at hrequests
    exact ⟨Int.le_refl _, hrequests⟩
  | issued _ _ hkeep =>
    obtain ⟨-, rfl⟩ := TokenSource.keep_eq_ok hkeep
    exact hquiet _ rfl rfl
  | failed _ _ hkeep =>
    obtain ⟨-, rfl⟩ := TokenSource.keep_eq_error hkeep
    exact hquiet _ rfl rfl
  | droppedWaiting => exact hquiet _ rfl rfl
  | droppedInside => exact hquiet _ rfl rfl
  | elsewhere hbeside =>
    exact ⟨hbeside.now, hbeside.tokenRequests_eq.trans (List.append_nil _).symm⟩

/-- Time goes on in an execution. -/
theorem Execution.now_le (h : Execution source lock events lock') :
    lock.session.now.nanoseconds ≤ lock'.session.now.nanoseconds := by
  induction h with
  | start => exact Int.le_refl _
  | next _ hstep ih => exact Int.le_trans ih hstep.frame.1

/-- The requests for tokens are those of the callers who asked, in order. -/
theorem Execution.tokenRequests (h : Execution source lock events lock') :
    lock'.session.tokenRequests = lock.session.tokenRequests ++
      (events.filterMap asked?).filterMap fun call ↦ source.requestFor? call.scope := by
  induction h with
  | start => exact (List.append_nil _).symm
  | @next events event lock₁ lock₂ _ hstep ih =>
    rw [hstep.frame.2, ih, List.append_assoc, List.filterMap_append, List.filterMap_append]
    cases hasked : event.asked? with
    | none => simp [hasked]
    | some call =>
      cases hrequest : source.requestFor? call.scope with
      | none => simp [hasked, hrequest]
      | some r => simp [hasked, hrequest]

/-! ## While a token lasts

As long as the token at hand is fresh at the end of an execution, it was so all along, and then the
lock cannot take any of the steps that need a caller inside.  Here the induction carries `Supplied`,
which is smaller than `Told`: a lock that nobody is in, with callers for one scope only. -/

/-- In an event of this kind nobody asks for a token, and nobody gets another one than this. -/
def ServedBy (token : AccessToken) : TokenEvent → Prop
  | .called _ | .dropped _ | .elsewhere => True
  | .handed _ other => other = token
  | .asked .. | .issued .. | .failed .. => False

/-- In particular nobody asks. -/
theorem ServedBy.asked?_eq_none {token : AccessToken} (h : ServedBy token event) :
    event.asked? = none := by
  cases event with
  | asked => exact h.elim
  | called | handed | issued | failed | dropped | elsewhere => rfl

/-- A lock with a token at hand for the only scope that is asked for. -/
structure Supplied (scope : String) (token : AccessToken) (lock : TokenLock) : Prop where
  holder : lock.holder = none
  waiting : ∀ call ∈ lock.waiting, call.scope = scope
  token : lock.session.token = some ⟨scope, token⟩

variable {scope : String} {token : AccessToken}

/-- A step of a lock with a fresh token hands that token out, or has nothing to do with tokens. -/
theorem Supplied.step (h : Supplied scope token lock) (hstep : Step source lock event lock')
    (hcalled : ∀ call, event = .called call → call.scope = scope)
    (hfresh : lock.session.Holds scope token) :
    Supplied scope token lock' ∧ ServedBy token event := by
  cases hstep with
  | called other =>
    refine ⟨⟨h.holder, fun call hcall ↦ ?_, h.token⟩, trivial⟩
    rcases List.mem_append.mp hcall with hold | hnew
    · exact h.waiting call hold
    · rw [List.mem_singleton.mp hnew]
      exact hcalled _ rfl
  | @handed call other hfree hcall htoken =>
    rw [h.waiting call hcall, Session.usable?_eq_some.mpr hfresh, Option.some_inj] at htoken
    exact ⟨⟨h.holder, fun call hcall ↦ h.waiting call (List.mem_of_mem_erase hcall), h.token⟩,
      htoken.symm⟩
  | @asked call _ _ _ _ _ _ hfree hcall htoken =>
    rw [h.waiting call hcall, Session.usable?_eq_some.mpr hfresh] at htoken
    cases htoken
  | issued hholder => cases h.holder.symm.trans hholder
  | failed hholder => cases h.holder.symm.trans hholder
  | droppedWaiting =>
    exact ⟨⟨h.holder, fun call hcall ↦ h.waiting call (List.mem_of_mem_erase hcall), h.token⟩,
      trivial⟩
  | droppedInside hholder => cases h.holder.symm.trans hholder
  | elsewhere hbeside =>
    exact ⟨⟨h.holder, h.waiting, hbeside.token.trans h.token⟩, trivial⟩

/-- As long as the token is fresh, everybody gets it. -/
theorem Supplied.execution (h : Supplied scope token lock)
    (hexec : Execution source lock events lock')
    (hcalled : ∀ call, .called call ∈ events → call.scope = scope)
    (hfresh : token.isFresh lock'.session.now = true) :
    Supplied scope token lock' ∧ ∀ event ∈ events, ServedBy token event := by
  induction hexec with
  | start => exact ⟨h, nofun⟩
  | @next events event lock₁ lock₂ _ hstep ih =>
    have hfresh₁ := AccessToken.isFresh_of_le hstep.frame.1 hfresh
    obtain ⟨hsupplied, hserved⟩ := ih
      (fun call hcall ↦ hcalled call (List.mem_append_left _ hcall)) hfresh₁
    have hholds : lock₁.session.Holds scope token :=
      ⟨hsupplied.token, AccessToken.isFresh_iff.mp hfresh₁⟩
    obtain ⟨hsupplied', hserved'⟩ := hsupplied.step hstep
      (fun call hcall ↦ hcalled call (hcall ▸ List.mem_append_right _ List.mem_cons_self)) hholds
    refine ⟨hsupplied', fun other hother ↦ ?_⟩
    rcases List.mem_append.mp hother with hold | hnew
    · exact hserved other hold
    · rw [List.mem_singleton.mp hnew]
      exact hserved'

/-- Nobody is inside on behalf of a scope that there is a token for. -/
theorem Told.supplied (h : Told source s events lock)
    (hscope : ∀ call ∈ lock.present, call.scope = scope) (hholds : lock.session.Holds scope token) :
    Supplied scope token lock := by
  refine ⟨?_, fun call hcall ↦ hscope call (List.mem_append_right _ hcall), hholds.atHand⟩
  cases hholder : lock.holder with
  | none => rfl
  | some flight =>
    have hmem : flight.call ∈ lock.present := by
      rw [present, hholder]
      exact List.mem_cons_self
    have hnone := h.withoutToken flight hholder
    rw [hscope _ hmem, Session.usable?_eq_some.mpr hholds] at hnone
    cases hnone

/-! ## Scopes

The cache is one place for all scopes, so a token could be handed out for the wrong one if it were
not for the test at the door. -/

/-- Whoever is handed a token is handed one that was issued for the same scope. -/
theorem Execution.issued_of_handed (h : Execution source (.free s) events lock)
    (hs : s.token = none) (hcall : .handed call token ∈ events) :
    ∃ other, .issued other token ∈ events ∧ other.scope = call.scope := by
  induction h with
  | start => cases hcall
  | @next events event lock₁ lock₂ hexec hstep ih =>
    rcases List.mem_append.mp hcall with hold | hnew
    · obtain ⟨other, hmem, hscope⟩ := ih hold
      exact ⟨other, List.mem_append_left _ hmem, hscope⟩
    · rw [← List.mem_singleton.mp hnew] at hstep
      cases hstep with
      | handed _ _ htoken =>
        have hlast := (Told.of_execution hexec).token
        rw [(Session.usable?_eq_some.mp htoken).atHand, hs, Option.or_none] at hlast
        obtain ⟨origin, hmem, horigin⟩ :=
          List.mem_filterMap.mp (List.mem_of_getLast? hlast.symm)
        obtain ⟨other, rfl, hscope⟩ := eq_issued_of_issued? horigin
        exact ⟨other, List.mem_append_left _ hmem, hscope⟩

/-! ## The program

The relation is an account of what the lock allows, and nothing so far says that the program does
any of it.  `TokenLock.executes_token` does: if nobody is inside, a call of the program takes the
steps of one caller, with the result that the events tell. -/

/-- What a call gives back, told by the events of its execution.  Time passes until a request is
answered or called off. -/
inductive Shows (call : TokenCall) : Except Stop AccessToken → List TokenEvent → Prop
  | handed (token : AccessToken) : Shows call (.ok token) [.called call, .handed call token]
  | issued (d : Delivery) (token : AccessToken) :
      Shows call (.ok token)
        [.called call, .asked call (.ok d), .elsewhere, .issued call token]
  | failed (d : Delivery) (cause : CredentialError) :
      Shows call (.error (.error (.credential cause)))
        [.called call, .asked call (.ok d), .elsewhere, .failed call cause]
  | calledOff {w : Watch} {m : Moment} {e : Error} (he : w.interruption? m = some e) :
      Shows call (.error (.error e))
        [.called call, .asked call (.error (.error e)), .elsewhere, .dropped call]
  | stuck : Shows call (.error .stuck)
      [.called call, .asked call (.error .stuck), .elsewhere]

/-- A call that nobody else disturbs is an execution, and it gives back what the events tell. -/
theorem executes_token {tenantId clientId secret : String}
    (hsource : source.credentials = .clientSecret tenantId clientId secret)
    (hfree : lock.holder = none) (scope : String) (w : Watch) :
    ∃ events lock', Execution source lock events lock' ∧
      lock'.session = ((source.token scope w).outcome lock.session).2 ∧
      Shows ⟨lock.calls, scope⟩ ((source.token scope w).outcome lock.session).1 events := by
  -- the steps of the program one by one: it queues, finds the lock free, and looks at the token
  have hcalled : Execution source lock [.called ⟨lock.calls, scope⟩] _ :=
    Execution.start.next (.called scope)
  have hmem : ⟨lock.calls, scope⟩ ∈ lock.waiting ++ [⟨lock.calls, scope⟩] :=
    List.mem_append_right _ List.mem_cons_self
  rw [TokenSource.token, hsource]
  simp only [Run.outcome_bind_ok (Run.outcome_get lock.session)]
  cases husable : lock.session.token.bind (·.usable? scope lock.session.now) with
  | some token => exact ⟨_, _, hcalled.next (.handed hfree hmem husable), rfl, .handed token⟩
  | none =>
    rcases hask : (source.ask tenantId clientId secret scope w).outcome lock.session
      with ⟨coming, t⟩
    have hnow := (TokenSource.ask_frame hsource lock.session scope w).2.1
    rw [hask] at hnow
    have hasked := hcalled.next (.asked hfree hmem husable hsource hask)
    -- the time that the answer takes passes outside the lock
    have hcome := hasked.next (.elsewhere (.later hnow))
    cases coming with
    | error stop =>
      dsimp only
      rw [TokenSource.renew, Run.outcome_bind_error hask]
      rcases TokenSource.ask_stopped hask with ⟨m, e, rfl, he⟩ | rfl
      · exact ⟨_, _, hcome.next (.droppedInside rfl), rfl, .calledOff he⟩
      · exact ⟨_, _, hcome, rfl, .stuck⟩
    | ok d =>
      have hkeep := TokenSource.outcome_keep scope d t
      dsimp only
      rw [TokenSource.renew, Run.outcome_bind_ok hask]
      cases hd : TokenSource.ofDelivery d t.now with
      | error cause =>
        rw [hd] at hkeep
        rw [hkeep]
        exact ⟨_, _, hcome.next (.failed rfl (Int.le_refl _) hkeep), rfl, .failed d cause⟩
      | ok token =>
        rw [hd] at hkeep
        rw [hkeep]
        exact ⟨_, _, hcome.next (.issued rfl (Int.le_refl _) hkeep), rfl, .issued d token⟩

/-! ## All executions -/

/-- What the executions of a lock keep to that begin without a token. -/
structure Sharing (source : TokenSource) (s : Session) (events : List TokenEvent)
    (lock : TokenLock) : Prop where
  /-- If there is a token at hand it is the one that was issued last, for the scope it was asked
  for. -/
  cache : lock.session.token = lastIssued events
  /-- Only a token that is issued changes the one at hand. -/
  keeps : ∀ event lock', Step source lock event lock' →
    lock'.session.token = event.issued?.or lock.session.token
  /-- Whoever is let in gets the token at hand exactly if it is of use. -/
  hands : lock.holder = none → ∀ call ∈ lock.waiting, ∀ token,
    (∃ lock', Step source lock (.handed call token) lock') ↔ lock.session.Holds call.scope token
  /-- Else, and only then, a token is requested. -/
  asks : lock.holder = none → ∀ call ∈ lock.waiting,
    (∃ coming lock', Step source lock (.asked call coming) lock') ↔
      ¬∃ token, lock.session.Holds call.scope token
  /-- Whoever has asked gets what the response says when it comes. -/
  brings : ∀ call token lock', Step source lock (.issued call token) lock' →
    ∃ d time, lock.holder = some ⟨call, .ok d, time⟩ ∧
      time.nanoseconds ≤ lock.session.now.nanoseconds ∧
      TokenSource.ofDelivery d lock.session.now = .ok token
  /-- While one caller is inside nobody else is let in. -/
  serves : ∀ flight, lock.holder = some flight → ∀ call lock',
    (∀ token, ¬Step source lock (.handed call token) lock') ∧
      ∀ coming, ¬Step source lock (.asked call coming) lock'
  /-- Each caller who asked has made one request, unless the authority has no address, and nobody
  else has made any. -/
  requests : lock.session.tokenRequests = s.tokenRequests ++
    (events.filterMap asked?).filterMap fun call ↦ source.requestFor? call.scope
  /-- A call has not come yet, it waits, it is inside, or it has ended in one of five ways. -/
  calls : ∀ call, about call events = [] ∨
    (call ∈ lock.waiting ∧ about call events = [.called call]) ∨
    (∃ coming time, lock.holder = some ⟨call, coming, time⟩ ∧ source.Asks call.scope coming ∧
      about call events = [.called call, .asked call coming]) ∨
    Story source call (about call events)
  /-- Nobody gets a token that was issued for another scope. -/
  scopes : ∀ call token, .handed call token ∈ events →
    ∃ other, .issued other token ∈ events ∧ other.scope = call.scope
  /-- While the token at hand lasts and only its scope is asked for, no request is made, and whoever
  is served gets this token. -/
  lasts : ∀ more lock' scope token, Execution source lock more lock' →
    lock.session.token = some ⟨scope, token⟩ → token.isFresh lock'.session.now = true →
    (∀ call ∈ lock.present, call.scope = scope) →
    (∀ call, .called call ∈ more → call.scope = scope) →
      lock'.session.token = lock.session.token ∧
        lock'.session.tokenRequests = lock.session.tokenRequests ∧
        ∀ event ∈ more, ServedBy token event
  /-- The calls of a client are executions themselves. -/
  program : lock.holder = none → ∀ scope w, ∃ more lock', Execution source lock more lock' ∧
    lock'.session = ((source.token scope w).outcome lock.session).2 ∧
    Shows ⟨lock.calls, scope⟩ ((source.token scope w).outcome lock.session).1 more

/-- **One token for many callers.**  In every execution, whatever comes in whatever order, the token
at hand is the one that was issued last.  A call gets it without a request exactly if it is for the
scope of the call and more than five minutes from its end; else the call makes one request and gets
what that brings. -/
theorem sharing {tenantId clientId secret : String}
    (hsource : source.credentials = .clientSecret tenantId clientId secret)
    (hs : s.token = none) (h : Execution source (.free s) events lock) :
    Sharing source s events lock where
  cache := by rw [(Told.of_execution h).token, hs, Option.or_none]
  keeps event lock' hstep := by
    have hbehind := ((Told.of_execution h).step hstep).token
    rw [lastIssued_concat, Option.or_assoc, ← (Told.of_execution h).token] at hbehind
    exact hbehind
  hands hfree call hcall token := by
    rw [← Session.usable?_eq_some]
    constructor
    · rintro ⟨lock', hstep⟩
      cases hstep with
      | handed _ _ htoken => exact htoken
    · intro htoken
      exact ⟨_, .handed hfree hcall htoken⟩
  asks hfree call hcall := by
    rw [← Session.usable?_eq_none]
    constructor
    · rintro ⟨coming, lock', hstep⟩
      cases hstep with
      | asked _ _ htoken => exact htoken
    · intro htoken
      rcases hask : (source.ask tenantId clientId secret call.scope .none).outcome lock.session
        with ⟨coming, t⟩
      exact ⟨_, _, .asked hfree hcall htoken hsource hask⟩
  brings call token lock' hstep := by
    cases hstep with
    | issued hholder hcome hkeep =>
      exact ⟨_, _, hholder, hcome, (TokenSource.keep_eq_ok hkeep).1⟩
  serves flight hflight call lock' := by
    refine ⟨fun token hstep ↦ ?_, fun coming hstep ↦ ?_⟩
    · cases hstep with
      | handed hfree => cases hfree.symm.trans hflight
    · cases hstep with
      | asked hfree => cases hfree.symm.trans hflight
  requests := h.tokenRequests
  calls call := by
    have htold := Told.of_execution h
    by_cases hmem : call ∈ lock.present
    · rcases List.mem_append.mp hmem with hinside | hwaiting
      · obtain ⟨flight, hflight, rfl⟩ := List.mem_map.mp hinside
        have hholder := Option.mem_toList.mp hflight
        obtain ⟨habout, hasks⟩ := htold.inside flight hholder
        exact .inr (.inr (.inl ⟨flight.coming, flight.time, hholder, hasks, habout⟩))
      · exact .inr (.inl ⟨hwaiting, htold.waiting call hwaiting⟩)
    · rcases htold.ended call hmem with hnothing | hstory
      · exact .inl hnothing
      · exact .inr (.inr (.inr hstory))
  scopes call token := h.issued_of_handed hs
  lasts more lock' scope token hmore htoken hfresh hscope hcalled := by
    have hholds : lock.session.Holds scope token :=
      ⟨htoken, AccessToken.isFresh_iff.mp (AccessToken.isFresh_of_le hmore.now_le hfresh)⟩
    have hsupplied := (Told.of_execution h).supplied hscope hholds
    obtain ⟨hbehind, hserved⟩ := hsupplied.execution hmore hcalled hfresh
    refine ⟨hbehind.token.trans htoken.symm, ?_, hserved⟩
    rw [hmore.tokenRequests, List.filterMap_eq_nil_iff.mpr fun event hmem ↦
      (hserved event hmem).asked?_eq_none]
    exact List.append_nil _
  program hfree scope w := executes_token hsource hfree scope w

end TokenLock

/-! ## Two callers

An execution in which two callers come before the first answer is there.  It is the one case in
which sharing a token is more than finding one. -/

namespace TokenSource

/-- A source that has a secret. -/
def sample : TokenSource := ⟨.clientSecret "t" "c" "k", "http://login.test", "agent"⟩

/-- The request that it makes for the scope `s`. -/
def sampleRequest : Request where
  method := .post
  url := ⟨"http", [], none, some "login.test".toList, none,
    .segments ["t".toList, "oauth2".toList, "v2.0".toList, "token".toList], none, none⟩
  userAgent := "agent"
  token := none
  payload := some (.form (fields "c" "k" "s"))

/-- The response with a token for an hour. -/
def sampleResponse : Response :=
  ⟨200, [], Utf8.encode "\x7b\"access_token\":\"t\",\"expires_in\":3600\x7d".toList⟩

/-- The address of the authority is a URL, so there is a request. -/
theorem request_sample : sample.request "t" "c" "k" "s" = .ok sampleRequest := by
  have hurl : Url.parse (address sample.authority "t") = .ok sampleRequest.url :=
    Run.eq_ok_of_toOption (by decide +kernel)
  simp only [request, hurl]
  rfl

/-- When the response comes. -/
def sampleTime : Timestamp := .add ⟨0⟩ (.ofSeconds 1)

/-- A session in which the response comes after a second. -/
def sampleStart : Session :=
  .start ⟨0⟩ [.after (.ofSeconds 1) (.response sampleResponse)]

/-- The session when it has come. -/
def sampleSession : Session :=
  sampleStart.made
    ⟨sampleStart.moment, sampleRequest, [], .answered sampleTime (.response sampleResponse)⟩
    sampleTime

/-- Asking takes the second that the answer takes. -/
theorem outcome_ask_sample : (sample.ask "t" "c" "k" "s" .none).outcome sampleStart =
    (.ok (.response sampleResponse), sampleSession) := by
  rw [ask, request_sample]
  rfl

/-- The answer has a token, which is kept. -/
theorem outcome_keep_sample : (keep "s" (.response sampleResponse)).outcome sampleSession =
    (.ok (.issued "t" sampleTime 3600),
      { sampleSession with token := some ⟨"s", .issued "t" sampleTime 3600⟩ }) := by
  have hread : ofDelivery (.response sampleResponse) sampleSession.now =
      .ok (.issued "t" sampleTime 3600) := Run.eq_ok_of_toOption (by decide +kernel)
  rw [outcome_keep, hread]

end TokenSource

namespace TokenLock

open TokenEvent

/-- Two callers come.  The second one is let in first and requests a token, which comes a second
later; then the first one gets it too, without a request. -/
theorem sharing_two_callers : ∃ lock,
    let token := AccessToken.issued "t" TokenSource.sampleTime 3600
    let events := [called ⟨0, "s"⟩, called ⟨1, "s"⟩,
      asked ⟨1, "s"⟩ (.ok (.response TokenSource.sampleResponse)), elsewhere,
      issued ⟨1, "s"⟩ token, handed ⟨0, "s"⟩ token]
    Execution .sample (.free TokenSource.sampleStart) events lock ∧
      Sharing .sample TokenSource.sampleStart events lock ∧
      lock.session.now = TokenSource.sampleTime ∧
      lock.session.tokenRequests = [TokenSource.sampleRequest] := by
  have hcome : Execution .sample (.free TokenSource.sampleStart)
      [called ⟨0, "s"⟩, called ⟨1, "s"⟩] _ :=
    (Execution.start.next (.called "s")).next (.called "s")
  have hasked := hcome.next (.asked rfl (List.mem_cons_of_mem _ List.mem_cons_self) rfl rfl
    TokenSource.outcome_ask_sample)
  have hpassed := hasked.next (.elsewhere (.later (by decide)))
  have hissued := hpassed.next (.issued rfl (by decide) TokenSource.outcome_keep_sample)
  have hhanded := hissued.next (.handed rfl List.mem_cons_self (Session.usable?_eq_some.mpr
    ⟨rfl, by decide⟩))
  exact ⟨_, hhanded, sharing rfl rfl hhanded, rfl, rfl⟩

end TokenLock
end ResourceManager
