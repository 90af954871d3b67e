import ResourceManager.Catalogue.VirtualMachine
import ResourceManager.Proofs.Calls
import ResourceManager.Proofs.TokenLog

/-!
# The authentication of whole runs

Every request to the service carries a token.  This file says which one, for all calls that are made
on a factory one after another: the token that was issued last.  A token is requested directly
before the request that needs it, when none has been issued or the last one is about to end, and at
no other time.  Time passes while responses are waited for, so a token may end in the middle of a
call.

* `Records` says that a session has come from another one by a log that goes by the grammar of
  `Authorized`.  `Client.records_exchange` shows that an exchange adds to such a log, and by the
  rule for calls so does every call.
* `Journal` puts the calls together, each with the part of the log that it has left behind.
* `Factory.authentication` is the theorem on all runs.  What it says is said of the log, by the
  grammar and from outside.

## The states of an exchange

An exchange begins and ends with a log that is complete (`Signed`).  In between it goes through two
other states: a request for a token has been answered but not read (`Asked`), and a token is at hand
for the request that comes next (`Ready`).  It can stop in any of them, and `Halted` is what is left
then: a complete log with at most one request for a token behind it.

A call that fails leaves the log in a state from which the next call can go on, which is why
`Records` is about a session and not about a result.  The induction over calls carries one thing
besides, the date at which the log ends: a request for a token that has brought none may be the last
of one call, and the next call has to find the token still lacking. -/

set_option autoImplicit false

namespace ResourceManager

/-- What was made at a point in time has come as far as the log says between that point and the one
at which it was left. -/
theorem Request.Sending.time_bounds {r : Request} {w : Watch} {s : Session}
    {result : Except Stop Delivery} {x : Exchange} {t : Timestamp} (h : r.Sending w s result x t) :
    s.now.nanoseconds ≤ x.time.nanoseconds ∧ x.time.nanoseconds ≤ t.nanoseconds := by
  have hmade : x.moment.time = s.now := congrArg Moment.time h.moment_eq
  cases hfate : x.fate with
  | unsent cause =>
    rw [Exchange.time, hfate]
    exact ⟨Int.le_of_eq (by rw [hmade]), by rw [hmade]; exact h.now_le⟩
  | underway =>
    rw [Exchange.time, hfate]
    exact ⟨Int.le_of_eq (by rw [hmade]), by rw [hmade]; exact h.now_le⟩
  | answered time answer =>
    rw [Exchange.time, hfate, ← h.now_eq hfate]
    exact ⟨h.now_le, Int.le_refl _⟩

/-- What is handed on has just come. -/
theorem Request.Sending.time_eq {r : Request} {w : Watch} {s : Session} {d : Delivery}
    {x : Exchange} {t : Timestamp} (h : r.Sending w s (.ok d) x t) : x.time = t := by
  cases h with
  | unsent => rfl
  | answered => rfl

/-- What stops a request leaves it on its way, and concerns no credentials. -/
theorem Request.Sending.stopped {r : Request} {w : Watch} {s : Session} {stop : Stop}
    {x : Exchange} {t : Timestamp} (h : r.Sending w s (.error stop) x t) :
    x.fate = .underway ∧ (stop = .stuck ∨ stop = .error .canceled ∨
      ∃ limit, stop = .error (.pollTimeout limit)) := by
  cases h with
  | calledOff _ hway _ he =>
    refine ⟨hway.fate_eq, .inr ?_⟩
    rcases Watch.interruption?_cases he with rfl | ⟨limit, rfl⟩
    · exact .inl rfl
    · exact .inr ⟨limit, rfl⟩
  | unanswered _ hway => exact ⟨hway.fate_eq, .inl rfl⟩

/-! ## What a call adds -/

section Records

variable {c : Client} {start : Session} {first latest : Option AccessToken} {s t : Session}
  {made rest : List Exchange} {token : AccessToken} {w : Watch}

/-- A session that has come from a start by such requests, and perhaps one at their end. -/
structure Records (c : Client) (start : Session) (first : Option AccessToken)
    (made rest : List Exchange) (latest : Option AccessToken) (s : Session) : Prop where
  log : s.exchanges = start.exchanges ++ (made ++ rest)
  authorized : Authorized c first made latest
  token : s.token = latest.map (⟨c.scope, ·⟩)
  dated : Dated start.now s.now (made ++ rest)
  led : ∀ x ∈ made ++ rest, x.Led

/-- All requests to the service have been made. -/
def Signed (c : Client) (start : Session) (first : Option AccessToken) (s : Session) : Prop :=
  ∃ made latest, Records c start first made [] latest s

/-- A call has been stopped. -/
def Halted (c : Client) (start : Session) (first : Option AccessToken) (stop : Stop)
    (s : Session) : Prop :=
  ∃ made rest latest, Records c start first made rest latest s ∧ Ending c latest rest (some stop)

/-- A token is at hand, and what is asked of the service next may carry it.  Whether it was at hand
or has just been requested makes a difference to the grammar, but none to the request. -/
structure Ready (c : Client) (start : Session) (first : Option AccessToken) (token : AccessToken)
    (s : Session) : Prop where
  atHand : s.token = some ⟨c.scope, token⟩
  next : ∃ made, s.exchanges = start.exchanges ++ made ∧ Dated start.now s.now made ∧
    (∀ x ∈ made, x.Led) ∧
    ∀ x : Exchange, x.moment.time = s.now → x.request.Bears token →
      Authorized c first (made ++ [x]) (some token)

/-- Nothing is asked, and the token at hand stays. -/
structure Session.Idle (s t : Session) : Prop extends s.Quiet t where
  token : t.token = s.token

/-- Time that passes under a watch changes neither the log nor the token. -/
theorem Session.idle_passed (h : w.Passed s t) : s.Idle t := by
  refine ⟨quiet_passed h, ?_⟩
  cases h with
  | same => rfl
  | upTo =>
    rw [passedTo]
    split
    · rfl
    · rfl

/-- Nor does a report. -/
theorem Session.idle_noted (s : Session) (o : PollOptions) (e : ProgressEvent) :
    s.Idle (s.noted o e) := by
  refine ⟨s.quiet_noted o e, ?_⟩
  rw [noted]
  split <;> rfl

/-- What is idle leaves all records as they are.  Time may have gone on, but it only has to be later
than the log. -/
theorem Records.idle (h : Records c start first made rest latest s) (hidle : s.Idle t) :
    Records c start first made rest latest t where
  log := hidle.exchanges.trans h.log
  authorized := h.authorized
  token := hidle.token.trans h.token
  dated := h.dated.later hidle.moment.1
  led := h.led

theorem Signed.idle (h : Signed c start first s) (hidle : s.Idle t) : Signed c start first t := by
  obtain ⟨made, latest, hrecords⟩ := h
  exact ⟨made, latest, hrecords.idle hidle⟩

theorem Halted.idle {stop : Stop} (h : Halted c start first stop s) (hidle : s.Idle t) :
    Halted c start first stop t := by
  obtain ⟨made, rest, latest, hrecords, hending⟩ := h
  exact ⟨made, rest, latest, hrecords.idle hidle, hending⟩

/-- A stop that is no matter of credentials. -/
theorem Signed.halted {stop : Stop} (h : Signed c start first s)
    (hstop : ∀ cause, stop ≠ .error (.credential cause)) : Halted c start first stop s := by
  obtain ⟨made, latest, hrecords⟩ := h
  exact ⟨made, [], latest, hrecords, .complete fun cause heq ↦ hstop cause (Option.some_inj.mp heq)⟩

/-- A request with the token at hand completes the log, whatever comes of it. -/
theorem Ready.signed (h : Ready c start first token s) {r : Request} (hr : r.Bears token)
    {result : Except Stop Delivery} {x : Exchange} {u : Timestamp}
    (hsend : r.Sending w s result x u) : Signed c start first (s.made x u) := by
  obtain ⟨made, hmade, hdated, hled, hnext⟩ := h.next
  have hmoment : x.moment.time = s.now := congrArg Moment.time hsend.moment_eq
  have hbears : x.request.Bears token := hsend.request_eq ▸ hr
  refine ⟨made ++ [x], some token, ?_, hnext x hmoment hbears, h.atHand, ?_, ?_⟩
  · rw [List.append_nil, s.exchanges_made, hmade, List.append_assoc]
  · rw [List.append_nil]
    exact hdated.concat hmoment hsend.time_bounds.1 hsend.time_bounds.2
  · rw [List.append_nil]
    intro y hy
    rcases List.mem_append.mp hy with hy | hy
    · exact hled y hy
    · rw [List.mem_singleton.mp hy]
      exact hsend.led

/-- A request for a token is made behind a complete log. -/
theorem Records.asked (h : Records c start first made [] latest s) {r : Request}
    {result : Except Stop Delivery} {y : Exchange} {u : Timestamp}
    (hsend : r.Sending w s result y u) :
    Records c start first made [y] latest (s.made y u) where
  log := by
    rw [s.exchanges_made, h.log, List.append_nil, List.append_assoc]
  authorized := h.authorized
  token := h.token
  dated := by
    have hdated := h.dated
    rw [List.append_nil] at hdated
    exact hdated.concat (congrArg Moment.time hsend.moment_eq) hsend.time_bounds.1
      hsend.time_bounds.2
  led x hx := by
    rcases List.mem_append.mp hx with hx | hx
    · exact h.led x (List.mem_append_left _ hx)
    · rw [List.mem_singleton.mp hx]
      exact hsend.led

/-- The token that was issued last is the one at hand, so if none is of use that one is not. -/
theorem Records.lacking (h : Records c start first made rest latest s)
    (husable : s.usable? c.scope = none) : Lacking latest s.now := by
  rintro token rfl
  rw [Session.usable?_eq_none] at husable
  refine Bool.eq_false_iff.mpr fun hfresh ↦ husable ⟨token, h.token, ?_⟩
  exact AccessToken.isFresh_iff.mp hfresh

/-- What a request for a token has brought, before it is read. -/
inductive Asked (c : Client) (start : Session) (first : Option AccessToken) (d : Delivery)
    (s : Session) : Prop
  | answered {made : List Exchange} {latest : Option AccessToken} {y : Exchange}
      (h : Records c start first made [y] latest s) (hlacking : Lacking latest y.moment.time)
      (hy : c.tokens.requestFor? c.scope = some y.request) (hd : y.delivery? = some d)
      (htime : y.time = s.now) : Asked c start first d s
  | unaddressed {made : List Exchange} {latest : Option AccessToken} {cause : TransportError}
      (h : Records c start first made [] latest s) (hlacking : Lacking latest s.now)
      (hnone : c.tokens.requestFor? c.scope = none) (hd : d = .failed cause) :
      Asked c start first d s

/-! ## Tokens and exchanges

The functions of the program, in the order in which an exchange calls them, each with the states it
leads from and to. -/

namespace TokenSource

/-- The request for a token, sent from a session that is fixed: the log behind it speaks of the
moment at which it was made. -/
theorem asked_send {r : Request} (hs : Records c start first made [] latest s)
    (hlacking : Lacking latest s.now) (hr : c.tokens.requestFor? c.scope = some r) :
    (r.send w).Meets (· = s) (Asked c start first) (Halted c start first) := by
  obtain ⟨y, u, hsession, hsend⟩ := r.sending w s
  have hrecords := hs.asked hsend
  have hrequest : c.tokens.requestFor? c.scope = some y.request := hsend.request_eq ▸ hr
  have hlack : Lacking latest y.moment.time := by
    rw [hsend.moment_eq]
    exact hlacking
  constructor
  · rintro s₀ s₁ d rfl ho
    rw [ho] at hsession hsend
    obtain rfl : s₁ = s₀.made y u := hsession
    exact .answered hrecords hlack hrequest hsend.delivery_eq hsend.time_eq
  · rintro s₀ s₁ stop rfl ho
    rw [ho] at hsession hsend
    obtain rfl : s₁ = s₀.made y u := hsession
    obtain ⟨hway, hstop⟩ := hsend.stopped
    exact ⟨made, [y], latest, hrecords, .abandoned hlack hrequest hway hstop⟩

/-- Reading what has come.  A token that is kept is the one that was issued last, and any request
made at this moment may bear it. -/
theorem ready_keep (d : Delivery) :
    (keep c.scope d).Meets (Asked c start first d) (Ready c start first)
      (Halted c start first) where
  ok {s s₁ token} hs ho := by
    obtain ⟨htoken, rfl⟩ := keep_eq_ok ho
    cases hs with
    | @answered made latest y h hlacking hy hd htime =>
      have hissues : y.Issues token := Exchange.issues_of_delivery hd (htime ▸ htoken)
      refine ⟨rfl, made ++ [y], h.log, h.dated, h.led, fun x hx hbears ↦ ?_⟩
      exact .renewed h.authorized hlacking hy hissues hbears (hx.trans htime.symm)
    | unaddressed _ _ _ hd =>
      rw [hd] at htoken
      cases htoken
  error {s s₁ stop} hs ho := by
    rw [outcome_keep] at ho
    cases hresult : ofDelivery d s.now with
    | ok token =>
      rw [hresult] at ho
      cases ho
    | error cause =>
      rw [hresult] at ho
      cases ho
      cases hs with
      | @answered made latest y h hlacking hy hd htime =>
        have hdenies : y.Denies cause := (Exchange.denies_iff s.now).mpr ⟨d, hd, hresult⟩
        exact ⟨made, [y], latest, h, .refused hlacking hy hdenies⟩
      | @unaddressed made latest cause' h hlacking hnone hd =>
        rw [hd] at hresult
        cases hresult
        exact ⟨made, [], latest, h, .unaddressed hlacking hnone⟩

/-- A token is at hand, or it is requested. -/
theorem ready_token {tenantId clientId secret : String}
    (hsource : c.tokens.credentials = .clientSecret tenantId clientId secret) :
    (c.tokens.token c.scope w).Meets (Signed c start first) (Ready c start first)
      (Halted c start first) := by
  rw [token, hsource]
  refine Run.Meets.get_bind fun s hs ↦ ?_
  obtain ⟨made, latest, hrecords⟩ := hs
  cases husable : s.token.bind (·.usable? c.scope s.now) with
  | some token =>
    refine Run.Meets.pure fun s' hs' ↦ ?_
    cases hs'
    have hholds := Session.usable?_eq_some.mp husable
    -- the token in the session is the one that the log says was issued last
    have hlatest : latest = some token := by
      have hsame := hrecords.token.symm.trans hholds.atHand
      cases latest with
      | none => cases hsame
      | some other =>
        cases hsame
        rfl
    have hlog := hrecords.log
    have hdated := hrecords.dated
    have hled := hrecords.led
    rw [List.append_nil] at hlog hdated hled
    refine ⟨hholds.atHand, made, hlog, hdated, hled, fun x hx hbears ↦ ?_⟩
    refine .held (hlatest ▸ hrecords.authorized) ?_ hbears
    rw [hx]
    exact AccessToken.isFresh_iff.mpr hholds.fresh
  | none =>
    have hlacking := hrecords.lacking husable
    have hask : (c.tokens.ask tenantId clientId secret c.scope w).Meets (· = s)
        (Asked c start first) (Halted c start first) := by
      have hrequest : c.tokens.requestFor? c.scope =
          (c.tokens.request tenantId clientId secret c.scope).toOption := by
        rw [requestFor?, hsource]
      rw [ask]
      cases hr : c.tokens.request tenantId clientId secret c.scope with
      | error cause =>
        refine Run.Meets.pure fun s' hs' ↦ ?_
        cases hs'
        exact .unaddressed hrecords hlacking (by rw [hrequest, hr]; rfl) rfl
      | ok r => exact asked_send hrecords hlacking (by rw [hrequest, hr]; rfl)
    exact hask.bind ready_keep

end TokenSource

/-- The token is carried to the service. -/
theorem Ready.send {m : Method} {url : Url} {body : Option Json} :
    ((c.request token m url body).send w).Meets (Ready c start first token)
      (fun _ ↦ Signed c start first) (Halted c start first) := by
  have hsigned : ∀ {s}, Ready c start first token s →
      Signed c start first (((c.request token m url body).send w).outcome s).2 := by
    intro s hs
    obtain ⟨x, u, hsession, hsend⟩ := (c.request token m url body).sending w s
    rw [hsession]
    exact hs.signed (Request.bears_of_token rfl) hsend
  constructor
  · intro s s₁ d hs ho
    have hbehind := hsigned hs
    rwa [ho] at hbehind
  · intro s s₁ stop hs ho
    have hbehind := hsigned hs
    rw [ho] at hbehind
    obtain ⟨x, u, -, hsend⟩ := (c.request token m url body).sending w s
    rw [ho] at hsend
    refine hbehind.halted fun cause hcause ↦ ?_
    rcases hsend.stopped.2 with rfl | rfl | ⟨limit, rfl⟩
    · cases hcause
    · cases hcause
    · cases hcause

/-- An exchange completes the log, or it ends with a request for a token. -/
theorem Client.records_exchange {tenantId clientId secret : String}
    (hsource : c.tokens.credentials = .clientSecret tenantId clientId secret) (w : Watch)
    (m : Method) (url : Url) (body : Option Json) :
    (c.exchange w m url body).Keeps (Signed c start first) (Halted c start first) := by
  refine (TokenSource.ready_token hsource).bind fun token ↦ Ready.send.bind fun d ↦
    Run.Meets.ofExcept (fun _ _ _ hs ↦ hs) fun e s he hs ↦ hs.halted fun cause hcause ↦ ?_
  rcases replyOf_error_kind he with ⟨_, rfl⟩ | ⟨_, rfl⟩ | rfl
  · cases hcause
  · cases hcause
  · cases hcause

/-- The log is complete behind every call that is not stopped. -/
theorem Client.upholds_signed {tenantId clientId secret : String}
    (hsource : c.tokens.credentials = .clientSecret tenantId clientId secret) :
    c.Upholds (Signed c start first) (Halted c start first) where
  exchange := c.records_exchange hsource
  passed hpass hs := hs.idle (Session.idle_passed hpass)
  noted o e s hs := hs.idle (s.idle_noted o e)
  stop _ _ hstop hs := hs.halted hstop
  notedStop o e _ s hs := hs.idle (s.idle_noted o e)

end Records

/-! ## Runs of calls

A journal joins the logs of the calls.  The token that was issued last passes from one call to the
next, and so does the question whether the last request of a log has brought one. -/

/-- The calls of a factory with the log of them all and the token that was issued last. -/
inductive Journal (c : Client) : List Returned → List Exchange → Option AccessToken → Prop
  | start : Journal c [] [] none
  | call {calls : List Returned} {log made rest : List Exchange}
      {latest latest' : Option AccessToken} {r : Returned} (h : Journal c calls log latest)
      (hmade : Authorized c latest made latest') (hrest : Ending c latest' rest r.stop?) :
      Journal c (calls ++ [r]) (log ++ (made ++ rest)) latest'

/-- What holds of a run of calls that began in `start`, ended in `s` and gave back `calls`. -/
structure Authenticated (c : Client) (start : Session) (calls : List Returned) (s : Session)
    (log : List Exchange) (latest : Option AccessToken) : Prop where
  exchanges : s.exchanges = start.exchanges ++ log
  /-- The responses show which token was issued last. -/
  shown : LastIssued log latest
  /-- It is the one at hand. -/
  token : s.token = latest.map (⟨c.scope, ·⟩)
  journal : Journal c calls log latest
  dated : Dated start.now s.now log
  carries : Carried log
  /-- A request for a token carries none, wherever it is sent on to. -/
  asks : ∀ x ∈ log, x.request.isCall = false →
    c.tokens.requestFor? c.scope = some x.request ∧
      ∀ r ∈ x.request :: x.redirects.map Redirect.request,
        r.authorization = r.basic ∧ (r.userInfo? = none → r.authorization = [])
  /-- What a request carries is carried on to the same server, and to no other. -/
  passes : ∀ x ∈ log, (x.request :: x.redirects.map Redirect.request).IsChain Request.PassesOn
  /-- Behind a request for a token that brings none there is another one, if anything. -/
  follows : log.IsChain Follows
  /-- Nor has one at the end of the log brought any. -/
  settled : ∀ y ∈ log.getLast?, y.request.isCall = false → Lacking latest y.moment.time

section Journal

variable {c : Client} {start : Session} {first latest latest' : Option AccessToken} {s t : Session}
  {log made rest : List Exchange} {calls : List Returned} {r : Returned} {x : Exchange}

/-- Where the first request has no token, none of those that follow has. -/
theorem Request.PassesOn.isCall_eq_false {r : Request} {rs : List Request}
    (h : (r :: rs).IsChain PassesOn) (hr : r.isCall = false) :
    ∀ r' ∈ r :: rs, r'.isCall = false := by
  induction rs generalizing r with
  | nil =>
    intro r' hr'
    rw [List.mem_singleton.mp hr']
    exact hr
  | cons next rs ih =>
    obtain ⟨hnext, hrest⟩ := List.isChain_cons_cons.mp h
    have hnone : next.isCall = false := by
      refine Bool.eq_false_iff.mpr fun hcall ↦ ?_
      rw [hnext.isCall hcall] at hr
      cases hr
    intro r' hr'
    rcases List.mem_cons.mp hr' with rfl | hr'
    · exact hr
    · exact ih hrest hnone r' hr'

/-- What is asked of the authority goes without a token. -/
theorem Request.authorization_of_asks (hled : x.Led) (hx : x.request.isCall = false) :
    ∀ r ∈ x.request :: x.redirects.map Redirect.request,
      r.authorization = r.basic ∧ (r.userInfo? = none → r.authorization = []) := by
  intro r hr
  have hnone := PassesOn.isCall_eq_false hled.leads.passesOn hx r hr
  have hauthorization : r.authorization = r.basic :=
    authorization_of_token_none
      (Option.isNone_iff_eq_none.mp (Option.isSome_eq_false_iff.mp hnone))
  exact ⟨hauthorization, fun huser ↦ hauthorization.trans (basic_of_userInfo_none huser)⟩

/-- What one more call adds.  Each field is a property of a log that is put together of two, so
there is something to show where they meet; only for `follows` is that more than a matter of
lists. -/
theorem Authenticated.call (h : Authenticated c start calls s log latest)
    (hrecords : Records c s latest made rest latest' t) (hrest : Ending c latest' rest r.stop?) :
    Authenticated c start (calls ++ [r]) t (log ++ (made ++ rest)) latest' := by
  have hauthorized := hrecords.authorized
  have hmem : ∀ x ∈ made ++ rest, (∃ token, x.request.Bears token) ∨
      c.tokens.requestFor? c.scope = some x.request := by
    intro x hx
    rcases List.mem_append.mp hx with hx | hx
    · exact hauthorized.mem x hx
    · rcases hrest.cases_rest with hnil | ⟨y, hrest, hy, -⟩
      · rw [hnil] at hx
        cases hx
      · rw [hrest] at hx
        rw [List.mem_singleton.mp hx]
        exact .inr hy
  have hchain : (made ++ rest).IsChain Follows := by
    refine List.isChain_append.mpr ⟨hauthorized.follows, ?_, fun y hy x _ hcall ↦ ?_⟩
    · rcases hrest.cases_rest with hnil | ⟨y, hrest, -⟩
      · rw [hnil]
        exact .nil
      · rw [hrest]
        exact .singleton _
    · rw [hauthorized.last y hy] at hcall
      cases hcall
  have hhead : ∀ x ∈ (made ++ rest).head?, x.request.isCall = true →
      ∃ token, latest = some token ∧ token.isFresh x.moment.time = true := by
    intro x hx hcall
    cases made with
    | cons z made => exact hauthorized.head x hx hcall
    | nil =>
      rcases hrest.cases_rest with hnil | ⟨y, hrest, hy, -⟩
      · rw [hnil] at hx
        cases hx
      · rw [hrest] at hx
        cases Option.some_inj.mp hx
        rw [TokenSource.isCall_of_requestFor? hy] at hcall
        cases hcall
  have hcarried : Carried (log ++ (made ++ rest)) ∧ LastIssued (log ++ (made ++ rest)) latest' := by
    have hmade := hauthorized.carried h.carries h.shown
    rw [← List.append_assoc]
    rcases hrest.cases_rest with hnil | ⟨y, hrest, hy, -, hnone⟩
    · rw [hnil, List.append_nil]
      exact hmade
    · rw [hrest]
      exact ⟨hmade.1.concat_request (TokenSource.isCall_of_requestFor? hy),
        hmade.2.unchanged fun token hsupplies ↦ hnone token hsupplies.issues⟩
  refine ⟨?_, hcarried.2, hrecords.token, h.journal.call hauthorized hrest,
    h.dated.append hrecords.dated, hcarried.1, fun x hx hcall ↦ ?_, fun x hx ↦ ?_, ?_,
    fun y hy hcall ↦ ?_⟩
  · rw [hrecords.log, h.exchanges, List.append_assoc]
  · rcases List.mem_append.mp hx with hx | hx
    · exact h.asks x hx hcall
    · rcases hmem x hx with ⟨token, hbears⟩ | hrequest
      · rw [hbears.isCall] at hcall
        cases hcall
      · exact ⟨hrequest, Request.authorization_of_asks (hrecords.led x hx) hcall⟩
  · rcases List.mem_append.mp hx with hx | hx
    · exact h.passes x hx
    · exact (hrecords.led x hx).leads.passesOn
  · refine List.isChain_append.mpr ⟨h.follows, hchain, fun y hy x hx htoken hcall ↦ ?_⟩
    -- the token was lacking when `y` was made, so it cannot be of use later
    obtain ⟨token, hlatest, hfresh⟩ := hhead x hx hcall
    obtain ⟨-, hspan, hend⟩ := h.dated.mem y (List.mem_of_getLast? hy)
    have hle : y.moment.time.nanoseconds ≤ x.moment.time.nanoseconds :=
      Int.le_trans (Int.le_trans hspan hend) (hrecords.dated.mem x (List.mem_of_head? hx)).1
    have hlacking := h.settled y hy htoken token hlatest
    rw [AccessToken.isFresh_of_le hle hfresh] at hlacking
    cases hlacking
  · rcases hrest.cases_rest with hnil | ⟨z, hrest, -, hlacking, -⟩
    · rw [hnil, List.append_nil] at hy
      cases made with
      | nil =>
        rw [List.append_nil] at hy
        rw [hauthorized.of_nil]
        exact h.settled y hy hcall
      | cons x made =>
        rw [List.getLast?_append_of_ne_nil _ (List.cons_ne_nil _ _)] at hy
        rw [hauthorized.last y hy] at hcall
        cases hcall
    · rw [hrest, ← List.append_assoc, List.getLast?_concat] at hy
      cases Option.some_inj.mp hy
      exact hlacking

end Journal

/-- What one call leaves behind, whatever comes of it. -/
theorem Factory.records_performAt {f : Factory} {tenantId clientId secret : String}
    (hsource : f.client.tokens.credentials = .clientSecret tenantId clientId secret)
    {s : Session} {first : Option AccessToken} (hs : s.token = first.map (⟨f.client.scope, ·⟩))
    (t : Timestamp) (call : Call) :
    ∃ made rest latest,
      Records f.client s first made rest latest ((f.performAt t call).outcome s).2 ∧
        Ending f.client latest rest
          (Returned.stop? ⟨call, ((f.performAt t call).outcome s).1⟩) := by
  have hstart : Signed f.client s first s := by
    exact ⟨[], first, (List.append_nil _).symm, .nothing, hs, .nil (Int.le_refl _), by simp⟩
  have hcall : (f.performAt t call).Keeps (Signed f.client s first) (Halted f.client s first) :=
    ((Client.upholds_signed hsource).sleep t).bind fun _ ↦
      perform_upholds (Client.upholds_signed hsource) call
  rcases ho : (f.performAt t call).outcome s with ⟨stop | a, s₁⟩
  · exact hcall.error hstart ho
  · obtain ⟨made, latest, hrecords⟩ := hcall.ok hstart ho
    exact ⟨made, [], latest, hrecords, .complete nofun⟩

/-- Any number of calls go on from what is behind others. -/
theorem Authenticated.performAll {f : Factory} {tenantId clientId secret : String}
    (hsource : f.client.tokens.credentials = .clientSecret tenantId clientId secret)
    {start : Session} (calls : List (Timestamp × Call)) : ∀ {before : List Returned} {s : Session}
    {log : List Exchange} {latest : Option AccessToken},
    Authenticated f.client start before s log latest →
      ∃ log' latest', Authenticated f.client start (before ++ (f.performAll calls s).1)
        (f.performAll calls s).2 log' latest' := by
  induction calls with
  | nil =>
    intro before s log latest h
    refine ⟨log, latest, ?_⟩
    rw [Factory.performAll, List.append_nil]
    exact h
  | cons call calls ih =>
    intro before s log latest h
    obtain ⟨made, rest, latest', hrecords, hrest⟩ :=
      Factory.records_performAt hsource h.token call.1 call.2
    obtain ⟨log', latest'', hrun⟩ := ih (h.call hrecords hrest)
    refine ⟨log', latest'', ?_⟩
    rw [Factory.performAll]
    rw [List.append_assoc, List.singleton_append] at hrun
    exact hrun

/-! ## Whole runs

A factory has the credentials that it was built from, so a factory with the secret of an application
meets the hypothesis of all that stands above. -/

/-- A factory is built of its client and of what credentials have no part in. -/
theorem Factory.new_eq (settings : Settings) :
    new settings = (Client.ofSettings settings).map
      (⟨·, settings.subscriptionId, settings.location, settings.resourceGroup,
        .ofPolicy settings.poll⟩) := by
  rw [new]
  cases Client.ofSettings settings with
  | error e => rfl
  | ok c => rfl

section Built

variable {addition : Option String} {credentials : Credentials}
  {authority endpoint scope : String} {c : Client}

/-- A client keeps the credentials that it is built with. -/
theorem Client.credentials_of_build
    (h : build addition credentials authority endpoint scope = .ok c) :
    c.tokens.credentials = credentials := by
  rw [build] at h
  split at h
  · cases h
  · split at h
    · cases h
    · cases h
      rfl

/-- Credentials that are refused make no client. -/
theorem Client.credentials_of_new (h : new addition credentials authority endpoint scope = .ok c) :
    c.tokens.credentials = credentials := by
  rw [new] at h
  split at h
  · cases h
  · split at h
    · cases h
    · exact credentials_of_build h

end Built

/-- The credentials of a factory are those of the settings. -/
theorem Factory.credentials_of_new {settings : Settings} {f : Factory}
    (h : Factory.new settings = .ok f) : f.client.tokens.credentials = settings.credentials := by
  rw [new_eq] at h
  cases hclient : Client.ofSettings settings with
  | error e =>
    rw [hclient] at h
    cases h
  | ok c =>
    rw [hclient] at h
    cases h
    exact Client.credentials_of_new hclient

/-- **Every request to the service carries the token that was issued last, and a token is requested
only when it is needed.**  A factory with the secret of an application is built without a request.
In a session without a token, whatever is asked of it afterwards leaves such a log. -/
theorem Factory.authentication {settings : Settings} {tenantId clientId secret : String}
    {f : Factory} (hcredentials : settings.credentials = .clientSecret tenantId clientId secret)
    (hf : Factory.new settings = .ok f) {s : Session} (hs : s.token = none)
    (calls : List (Timestamp × Call)) :
    (Factory.build settings).outcome s = (.ok f, s) ∧
      ∃ log latest, Authenticated f.client s (f.performAll calls s).1 (f.performAll calls s).2
        log latest := by
  refine ⟨by rw [build, hf, Run.outcome_ofExcept_ok], ?_⟩
  have hstart : Authenticated f.client s [] s [] none :=
    ⟨(List.append_nil _).symm, .nothing, hs, .start, .nil (Int.le_refl _), .nil, by simp, by simp,
      .nil, by simp⟩
  exact hstart.performAll ((credentials_of_new hf).trans hcredentials) calls

/-- Settings with an authority. -/
def Settings.sampleAt (authority : String) : Settings :=
  { Settings.new "sub-1" (.clientSecret "t" "c" "k") with
    endpoint := some "http://arm.test", authority := some authority }

/-- The factory that they describe. -/
def Factory.sampleAt (authority : String) : Factory where
  client :=
    ⟨⟨"http", [], none, some "arm.test".toList, none, .segments [[]], none, none⟩,
      Cloud.publicCloud.tokenScope, ⟨.clientSecret "t" "c" "k", authority, Client.product⟩⟩
  subscriptionId := "sub-1"
  location := defaultLocation
  resourceGroup := none
  poll := .ofPolicy .default

/-- A network that issues a token for an hour and takes its time over the first page of a listing.
There is another token to be had, and a last page. -/
def Session.sampleOfTokens : Session :=
  .start ⟨0⟩
    [.after (.ofSeconds 1) (.response TokenSource.sampleResponse),
      .after (.ofSeconds 3300)
        (.response ⟨200, [], Utf8.encode "\x7b\"nextLink\":\"http://arm.test/n\"\x7d".toList⟩),
      .after (.ofSeconds 1) (.response TokenSource.sampleResponse),
      .after (.ofSeconds 1) (.response ⟨200, [], []⟩)]

/-- The sample settings describe the sample factory. -/
theorem Factory.new_sampleAt :
    Factory.new (.sampleAt "http://login.test") = .ok (.sampleAt "http://login.test") :=
  Run.eq_ok_of_toOption (by decide +kernel)

/-- Five minutes before the end of a token it is given up, also in the middle of a listing. -/
theorem Factory.authentication_renewed : ∃ log latest,
    let f := Factory.sampleAt "http://login.test"
    let calls := [(Timestamp.mk 0, Call.collect (.new .get "/l" "2024-07-01"))]
    let s := (f.performAll calls .sampleOfTokens).2
    Factory.new (.sampleAt "http://login.test") = .ok f ∧
      Authenticated f.client .sampleOfTokens (f.performAll calls .sampleOfTokens).1 s log latest ∧
      s.requests.map (·.authorization) = [[], ["Bearer t"], [], ["Bearer t"]] := by
  have hsecret : (Settings.sampleAt "http://login.test").credentials = .clientSecret "t" "c" "k" :=
    rfl
  have hnone : Session.sampleOfTokens.token = none := rfl
  obtain ⟨-, log, latest, hrun⟩ := authentication hsecret new_sampleAt hnone
    [(⟨0⟩, .collect (.new .get "/l" "2024-07-01"))]
  exact ⟨log, latest, new_sampleAt, hrun, by decide +kernel⟩

/-- What the address of the authority says about the user does go with a request for a token. -/
theorem Factory.authorization_of_user_in_authority :
    let f := Factory.sampleAt "http://u:p@login.test"
    let calls := [(Timestamp.mk 0, Call.collect (.new .get "/l" "2024-07-01"))]
    Factory.new (.sampleAt "http://u:p@login.test") = .ok f ∧
      ((f.performAll calls .sampleOfTokens).2.requests.map
          (fun r ↦ (r.isCall, r.authorization))).take 2 =
        [(false, ["Basic dTpw"]), (true, ["Bearer t"])] :=
  ⟨Run.eq_ok_of_toOption (by decide +kernel), by decide +kernel⟩

end ResourceManager
