import ResourceManager.Catalogue.Operation
import ResourceManager.Proofs.Following

/-!
# One submission

A call submits its operation at most once.  Whatever else it asks of the service only reads, and
only at addresses that the reply to the submission has opened: the two that its header may name, and
the resource itself.  `Client.SubmittedOnce` says what the log of a call may hold.  It does not
mention how the caller waits, so neither a limit nor a signal, however early it fires, keeps the
submission from being sent.

An exchange is more than one request where responses send it on.  The sender follows such responses
by itself, and where they ask for it, it makes the very submission again at another address:
`Client.submission_sent_on`.  `Exchange.Led` is all that there is to be said then.  Each request is
the one that the response before it asks for, and there are at most ten of them.
-/

set_option autoImplicit false

namespace ResourceManager

/-! ## Addresses in headers -/

/-- The address that a field of a header names, if it is there. -/
inductive Headers.Names (h : Headers) (field : String) : Option Url → Prop
  | nothing (hfield : h.text? field = none) : Names h field none
  | address {text : String} {url : Url} (hfield : h.text? field = some text)
      (hurl : Url.parse text = .ok url) : Names h field (some url)

/-- The field is there, but it is no address. -/
structure Headers.Misnames (h : Headers) (field : String) (cause : UrlError) : Prop where
  field : ∃ text, h.text? field = some text ∧ Url.parse text = .error cause

theorem Headers.names_iff {h : Headers} {field : String} {address : Option Url} :
    Poller.addressIn h field = .ok address ↔ h.Names field address := by
  rw [Poller.addressIn]
  cases hfield : h.text? field with
  | none =>
    constructor
    · rintro ⟨⟩
      exact .nothing hfield
    · rintro (_ | ⟨hfield', -⟩)
      · rfl
      · cases hfield.symm.trans hfield'
  | some text =>
    cases hurl : Url.parse text with
    | ok url =>
      simp only [hurl]
      constructor
      · rintro ⟨⟩
        exact .address hfield hurl
      · rintro (hfield' | ⟨hfield', hurl'⟩)
        · cases hfield.symm.trans hfield'
        · cases hfield.symm.trans hfield'
          cases hurl.symm.trans hurl'
          rfl
    | error cause =>
      simp only [hurl]
      refine iff_of_false nofun ?_
      rintro (hfield' | ⟨hfield', hurl'⟩)
      · cases hfield.symm.trans hfield'
      · cases hfield.symm.trans hfield'
        cases hurl.symm.trans hurl'

theorem Headers.misnames_iff {h : Headers} {field : String} {e : Error} :
    Poller.addressIn h field = .error e ↔ ∃ cause, e = .url cause ∧ h.Misnames field cause := by
  rw [Poller.addressIn]
  cases hfield : h.text? field with
  | none =>
    refine iff_of_false nofun ?_
    rintro ⟨cause, -, text, hfield', -⟩
    cases hfield.symm.trans hfield'
  | some text =>
    cases hurl : Url.parse text with
    | ok url =>
      simp only [hurl]
      refine iff_of_false nofun ?_
      rintro ⟨cause, -, text', hfield', hurl'⟩
      cases hfield.symm.trans hfield'
      cases hurl.symm.trans hurl'
    | error cause =>
      simp only [hurl]
      constructor
      · rintro ⟨⟩
        exact ⟨cause, rfl, text, hfield, hurl⟩
      · rintro ⟨cause', rfl, text', hfield', hurl'⟩
        cases hfield.symm.trans hfield'
        cases hurl.symm.trans hurl'
        rfl

/-! ## Exchanges of a kind -/

namespace Session

/-- Only exchanges of one kind have come to the log, and each of them has been led where responses
sent it. -/
theorem stable_called (kind : Request → Prop) (start : Session) :
    Stable (fun r ↦ r.isCall = true → kind r) fun s ↦
      ∃ xs, start.Called xs s ∧ ∀ x ∈ xs, kind x.request ∧ x.Led where
  made s x t hx hled _ _ hs := by
    obtain ⟨xs, hcalled, hxs⟩ := hs
    by_cases hcall : x.request.isCall = true
    · refine ⟨xs ++ [x], hcalled.trans (called_made hcall s t), fun y hy ↦ ?_⟩
      rcases List.mem_append.mp hy with hy | hy
      · exact hxs y hy
      · rw [List.mem_singleton.mp hy]
        exact ⟨hx hcall, hled⟩
    · have hnone : s.Called [] (s.made x t) := ⟨[x], rfl, List.filter_cons_of_neg hcall⟩
      have hboth := hcalled.trans hnone
      rw [List.append_nil] at hboth
      exact ⟨xs, hboth, hxs⟩
  reported _ _ hs := by
    obtain ⟨xs, hcalled, hxs⟩ := hs
    exact ⟨xs, hcalled.of_eq_right rfl, hxs⟩
  advancedTo _ _ hs := by
    obtain ⟨xs, hcalled, hxs⟩ := hs
    exact ⟨xs, hcalled.of_eq_right rfl, hxs⟩
  tokenKept _ _ hs := by
    obtain ⟨xs, hcalled, hxs⟩ := hs
    exact ⟨xs, hcalled.of_eq_right rfl, hxs⟩

end Session

namespace Client

variable {c : Client} {spec : OperationSpec} {s : Session}

/-! ## The submission -/

/-- The request that submits an operation. -/
def submission (c : Client) (token : AccessToken) (spec : OperationSpec) : Request :=
  c.request token spec.method (spec.url c.endpoint) spec.body

/-- The addresses that may be read once a submission has been replied to. -/
inductive Opened (c : Client) (spec : OperationSpec) (reply : Reply) : Url → Prop
  | status {url : Url} (h : reply.headers.Names "azure-asyncoperation" (some url)) :
      Opened c spec reply url
  | location {url : Url} (h : reply.headers.Names "location" (some url)) : Opened c spec reply url
  /-- The address of the submission without the query of the caller. -/
  | resource : Opened c spec reply (spec.resourceUrl c.endpoint)

/-- What a call that began in `s` and ended in `s'` has added to the exchanges with the service. -/
inductive SubmittedOnce (c : Client) (spec : OperationSpec) (s s' : Session) : Prop
  /-- There is no token, which ends the call: nothing has been asked of the service. -/
  | withoutToken {stop : Stop}
      (htoken : (c.tokens.token c.scope .none).outcome s = (.error stop, s'))
      (hcalls : s.callsSince s' = [])
  /-- The submission cannot be sent, which ends the call. -/
  | unsent {token : AccessToken} {s₁ : Session} {x : Exchange} {cause : TransportError}
      (htoken : (c.tokens.token c.scope .none).outcome s = (.ok token, s₁))
      (hobstacle : (c.submission token spec).obstacle? s₁ = some cause)
      (hcalls : s.callsSince s' = [x]) (hrequest : x.request = c.submission token spec)
      (hnothing : x.requests = [])
  /-- The submission is the first exchange, and reads are the others. -/
  | submitted {token : AccessToken} {s₁ : Session} {x : Exchange} (reads : List Exchange)
      (htoken : (c.tokens.token c.scope .none).outcome s = (.ok token, s₁))
      (hobstacle : (c.submission token spec).obstacle? s₁ = none)
      (hcalls : s.callsSince s' = x :: reads) (hrequest : x.request = c.submission token spec)
      (hsent : x.requests = x.request :: x.redirects.map Redirect.request) (hled : x.Led)
      (hsync : spec.longRunning = false → reads = [])
      (hreads : ∀ y ∈ reads, y.Led ∧ ∃ reply token url, x.Brings reply ∧
        y.request = c.request token .get url none ∧ c.Opened spec reply url)

/-- A request that nothing keeps from being sent is sent, wherever it is led to then. -/
theorem requests_of_sending {r : Request} {w : Watch} {x : Exchange} {t : Timestamp}
    {result : Except Stop Delivery} (h : r.Sending w s result x t) (hnone : r.obstacle? s = none) :
    x.requests = x.request :: x.redirects.map Redirect.request := by
  cases h with
  | unsent hsome => cases hnone.symm.trans hsome
  | answered _ hway =>
    rw [Request.requests_answered hway.fate_eq, hway.requests_eq, hway.request_eq.symm]
    rfl
  | calledOff _ hway => rw [hway.requests_eq, hway.request_eq]
  | unanswered _ hway => rw [hway.requests_eq, hway.request_eq]

/-- A call that begins with a submission and goes on with reads, if that is accepted. -/
theorem submittedOnce_of_submit {s' : Session} (reads : List Exchange)
    (hstop : ∀ stop s₂, (c.submit spec).outcome s = (.error stop, s₂) → s' = s₂)
    (hcalls : ((c.submit spec).outcome s).2.Called reads s')
    (hsync : spec.longRunning = false → reads = [])
    (hreads : ∀ y ∈ reads, y.Led ∧ ∃ reply s₂ token url,
      (c.submit spec).outcome s = (.ok reply, s₂) ∧ y.request = c.request token .get url none ∧
        c.Opened spec reply url) :
    c.SubmittedOnce spec s s' := by
  have htells := TokenSource.token_tells c.tokens c.scope .none s []
  have hstart : s.Called [] s := .of_exchanges_eq rfl
  rcases ho : (c.tokens.token c.scope .none).outcome s with ⟨stop | token, s₁⟩
  · have hsubmit : (c.submit spec).outcome s = (.error stop, s₁) := Run.outcome_bind_error ho _
    obtain rfl : s' = s₁ := hstop _ _ hsubmit
    exact .withoutToken ho (htells.error hstart ho).1.eq
  · have hsubmit : (c.submit spec).outcome s =
        (((c.submission token spec).send .none) >>= fun d ↦ Run.ofExcept (replyOf d)).outcome s₁ :=
      Run.outcome_bind_ok ho _
    obtain ⟨x, t, hsession, hsend⟩ := (c.submission token spec).sending .none s₁
    have hcall : x.request.isCall = true := by
      rw [hsend.request_eq]
      rfl
    have hbehind : ((c.submit spec).outcome s).2 = s₁.made x t := by
      rw [hsubmit, Run.session_bind_ofExcept, hsession]
    -- whatever follows, the submission is the first exchange of the call
    have hcalled : s.callsSince s' = x :: reads :=
      (((htells.ok hstart ho).trans (Session.called_made hcall s₁ t)).trans (hbehind ▸ hcalls)).eq
    cases hobstacle : (c.submission token spec).obstacle? s₁ with
    | some cause =>
      -- nothing is sent, and what fails without being sent is not followed by reads
      obtain ⟨hfailed, hx, -⟩ := hsend.eq_of_obstacle hobstacle
      rw [Run.outcome_bind_ok (Prod.ext hfailed hsession)] at hsubmit
      obtain rfl : s' = s₁.made x t := hstop _ _ hsubmit
      have hsame : s.callsSince (s₁.made x t) = [x] :=
        ((htells.ok hstart ho).trans (Session.called_made hcall s₁ t)).eq
      exact .unsent ho hobstacle hsame hsend.request_eq (by rw [hx]; rfl)
    | none =>
      refine .submitted reads ho hobstacle hcalled hsend.request_eq
        (requests_of_sending hsend hobstacle) hsend.led hsync fun y hy ↦ ?_
      obtain ⟨hled, reply, s₂, token', url, hreply, hrequest, hopened⟩ := hreads y hy
      refine ⟨hled, reply, token', url, ?_, hrequest, hopened⟩
      rw [hsubmit] at hreply
      obtain ⟨d, s₃, hd, hread⟩ := Run.outcome_bind_eq_ok.mp hreply
      have hdelivery := hsend.delivery_eq
      rw [hd] at hdelivery
      exact Exchange.brings_iff.mpr ⟨d, hdelivery, (Run.outcome_ofExcept_eq_ok.mp hread).1⟩

/-! ## Calls of operations -/

/-- The addresses of a poller are those that the reply has opened. -/
theorem opened_of_mem_addresses {reply : Reply} {p : Poller}
    (h : Poller.ofReply c.endpoint spec reply = .ok p) :
    ∀ url ∈ p.addresses, c.Opened spec reply url := by
  obtain ⟨status, location, hstatus, hlocation, rfl⟩ := Poller.ofReply_eq_ok.mp h
  intro url hurl
  rw [Poller.addresses] at hurl
  cases status with
  | some statusUrl =>
    rcases List.mem_cons.mp hurl with rfl | hurl
    · exact .status (Headers.names_iff.mp hstatus)
    · rcases List.mem_cons.mp hurl with rfl | hurl
      · exact .resource
      · rw [Option.mem_toList.mp hurl] at hlocation
        exact .location (Headers.names_iff.mp hlocation)
  | none =>
    cases location with
    | some locationUrl =>
      rcases List.mem_cons.mp hurl with rfl | hurl
      · exact .location (Headers.names_iff.mp hlocation)
      · rw [List.mem_singleton.mp hurl]
        exact .resource
    | none =>
      rw [Poller.addresses_of_trackingOf rfl url hurl]
      exact .resource

/-- A wait adds reads at addresses of its poller. -/
theorem called_wait (c : Client) (o : PollOptions) (p : Poller) (s : Session) :
    ∃ reads, s.Called reads ((p.wait c o).outcome s).2 ∧
      ∀ y ∈ reads, (∃ token, ∃ url ∈ p.addresses, y.request = c.request token .get url none) ∧
        y.Led := by
  have hstable := Session.stable_called
    (fun r ↦ ∃ token, ∃ url ∈ p.addresses, r = c.request token .get url none) s
  have hkeeps := hstable.wait (c := c) (o := o)
    (fun r hr hcall ↦ by rw [Request.isCall_of_token_none hr] at hcall; cases hcall)
    fun url hurl token _ ↦ ⟨token, url, hurl, rfl⟩
  exact hkeeps.session ⟨[], .of_exchanges_eq rfl, fun _ h ↦ absurd h List.not_mem_nil⟩

/-- A call that ends with its submission. -/
theorem submittedOnce_of_session_eq {s' : Session} (h : s' = ((c.submit spec).outcome s).2) :
    c.SubmittedOnce spec s s' := by
  refine submittedOnce_of_submit [] (fun stop s₂ hstop ↦ ?_) ?_ (fun _ ↦ rfl)
    fun _ hr ↦ absurd hr List.not_mem_nil
  · rw [h, hstop]
  · rw [h]
    exact .of_exchanges_eq rfl

/-- Every call of an operation submits it once. -/
theorem submittedOnce_invoke (c : Client) (o : PollOptions) (spec : OperationSpec) (s : Session) :
    c.SubmittedOnce spec s ((c.invoke o spec).outcome s).2 := by
  by_cases hspec : spec.longRunning = true
  · rw [invoke, if_pos hspec]
    have hbegin : ((c.begin spec).outcome s).2 = ((c.submit spec).outcome s).2 :=
      Run.session_bind_ofExcept _ _ s
    rcases hpoller : (c.begin spec).outcome s with ⟨stop | poller, s₂⟩
    · rw [Run.outcome_bind_error hpoller]
      refine submittedOnce_of_session_eq ?_
      rw [← hbegin, hpoller]
    · rw [Run.outcome_bind_ok hpoller, Run.session_bind_pure]
      obtain ⟨reply, s₃, hsubmit, hread⟩ := Run.outcome_bind_eq_ok.mp hpoller
      obtain ⟨hofReply, rfl⟩ := Run.outcome_ofExcept_eq_ok.mp hread
      obtain ⟨reads, hcalls, hreads⟩ := called_wait c o poller s₃
      refine submittedOnce_of_submit reads (fun stop s₂ hstop ↦ ?_) ?_ (fun hsync ↦ ?_)
        fun y hy ↦ ?_
      · rw [hsubmit] at hstop
        cases hstop
      · rw [hsubmit]
        exact hcalls
      · rw [hspec] at hsync
        cases hsync
      · obtain ⟨⟨token, url, hurl, hrequest⟩, hled⟩ := hreads y hy
        exact ⟨hled, reply, s₃, token, url, hsubmit, hrequest,
          opened_of_mem_addresses hofReply url hurl⟩
  · rw [invoke, if_neg hspec]
    exact submittedOnce_of_session_eq (Run.session_bind_pure _ _ s)

/-- **One submission, no retries.**  A call of an operation, whoever makes it and however it is
waited for, adds the submission to the exchanges with the service and then nothing but reads, or it
adds none that is sent.  The calls of the catalogue that are no listings are such calls.  A call
that is answered at once adds the submission alone, whatever the reply says about following it; so
does `fetch`, which takes every operation to be of that kind.  What an exchange sends is its
request, and after it only what responses send it on to. -/
theorem one_submission (c : Client) (s : Session) :
    (∀ o spec, c.SubmittedOnce spec s ((c.invoke o spec).outcome s).2) ∧
      (∀ spec, c.SubmittedOnce { spec with longRunning := false } s ((c.fetch spec).outcome s).2) ∧
      ∀ o (op : Operation) subscription names value, op.result ≠ .items →
        c.SubmittedOnce (op.spec subscription names value) s
          ((op.call c o subscription names value).outcome s).2 := by
  refine ⟨fun o spec ↦ submittedOnce_invoke c o spec s, fun spec ↦ ?_, ?_⟩
  · exact submittedOnce_of_session_eq (Run.session_bind_pure _ _ s)
  · intro o op subscription names value hitems
    rw [Operation.call, if_neg hitems, Run.session_bind_pure]
    exact submittedOnce_invoke c o _ s

/-- A client with a token that it was given. -/
def ofToken : Client where
  endpoint := ⟨"http", [], none, some "arm.test".toList, none, .segments [[]], none, none⟩
  scope := "http://arm.test/.default"
  tokens := ⟨.accessToken "t", "http://login.test", product⟩

end Client

/-- The response that sends a request on to another address as it is. -/
def Response.sendingOn (address : String) : Response :=
  ⟨307, [("location", Utf8.encode address.toList)], []⟩

/-- A network that sends the first request on to another address, where it is answered. -/
def Session.ofMoved (response : Response) : Session :=
  .start ⟨0⟩
    [.after ⟨0⟩ (.response (.sendingOn "http://arm.test/q")), .after ⟨0⟩ (.response response)]

/-- Where a response asks for it, a submission is made twice, with its method and its body. -/
theorem Client.submission_sent_on :
    let spec := (OperationSpec.new .put "/p" "1").withBody (.array []) |>.asLongRunning
    ((Client.ofToken.invoke (.ofPolicy .default) spec).outcome
        (.ofMoved ⟨201, [], []⟩)).2.requests.map
        (fun r ↦ (r.method, r.url.text, r.payload.map Payload.text)) =
      [(.put, "http://arm.test/p?api-version=1", some ['[', ']']),
        (.put, "http://arm.test/q", some ['[', ']'])] := by
  decide +kernel

end ResourceManager
