import ResourceManager.Proofs.Calls
import ResourceManager.Proofs.FormFields
import ResourceManager.Proofs.PollerStates
import ResourceManager.Proofs.TokenSharing

/-!
# Parameters

Names and values reach the service and the token authority as form fields.  `Form.decode_encode`
says that such fields are read back whatever characters they have; this file follows them to the
places where they are sent:

* `OperationSpec.carries_url`: the query of a call, behind an endpoint that has none of its own.
* `Poller.reads_of_polls`: the addresses at which an operation is read.
* `TokenSource.says_of_request`: the body of a request for a token.

`Factory.parameters` puts them together, for every call that makes such a request.
-/

set_option autoImplicit false

namespace ResourceManager

/-! ## Written fields

That the text of a query reads back is not enough.  It is put into a URL, and a mark in it would end
the query, so `Writes` also says which characters it is made of.
-/

namespace Form

/-- `Writes text pairs`: the text is read as these pairs, and apart from separators it is made of
characters of fields.  None of these is a mark of the URL, a blank or past ASCII. -/
structure Writes (text : List Char) (pairs : List (String × String)) : Prop where
  decode : Form.decode text = pairs
  chars : ∀ c ∈ text, isFieldChar c = true ∨ c = '=' ∨ c = '&'

theorem of_mem_encodePair {pair : String × String} {c : Char} (h : c ∈ encodePair pair) :
    isFieldChar c = true ∨ c = '=' := by
  rw [encodePair, List.mem_append, List.mem_cons] at h
  rcases h with h | rfl | h
  · exact .inl (isFieldChar_of_mem h)
  · exact .inr rfl
  · exact .inl (isFieldChar_of_mem h)

theorem of_mem_encode {pairs : List (String × String)} {c : Char} (h : c ∈ encode pairs) :
    isFieldChar c = true ∨ c = '=' ∨ c = '&' := by
  induction pairs with
  | nil => cases h
  | cons pair rest ih =>
    have hpair : ∀ {d : Char}, d ∈ encodePair pair → isFieldChar d = true ∨ d = '=' ∨ d = '&' :=
      fun hd ↦ (of_mem_encodePair hd).imp_right .inl
    cases rest with
    | nil => exact hpair (by simpa [encode] using h)
    | cons next rest =>
      have hencode : encode (pair :: next :: rest) =
          encodePair pair ++ '&' :: encode (next :: rest) := rfl
      rw [hencode, List.mem_append, List.mem_cons] at h
      rcases h with h | rfl | h
      · exact hpair h
      · exact .inr (.inr rfl)
      · exact ih h

theorem writes_encode (pairs : List (String × String)) : Writes (encode pairs) pairs where
  decode := decode_encode pairs
  chars _ := of_mem_encode

end Form

/-- A URL with these pairs as its query, and with nothing else in it. -/
def Url.Carries (u : Url) (pairs : List (String × String)) : Prop :=
  ∃ query, u.query = some query ∧ Form.Writes query pairs

/-! ## The query of a call -/

theorem Url.query_setPath (u : Url) (path : String) : (u.setPath path).query = u.query := by
  rw [setPath]
  split <;> rfl

theorem Url.carries_appendQuery {u : Url} (h : u.query.getD [] = [])
    (pairs : List (String × String)) : (u.appendQuery pairs).Carries pairs := by
  refine ⟨Form.encode pairs, ?_, Form.writes_encode pairs⟩
  rw [appendQuery]
  rcases hquery : u.query with _ | _ | ⟨c, query⟩
  · rfl
  · rfl
  · rw [hquery] at h
    cases h

namespace OperationSpec

/-- Adds query pairs one after another, where there are values. -/
def withOptionalQueries (spec : OperationSpec) (pairs : List (String × Option String)) :
    OperationSpec :=
  pairs.foldl (fun spec pair ↦ spec.withOptionalQuery pair.1 pair.2) spec

/-- The pairs that have values. -/
def present (pairs : List (String × Option String)) : List (String × String) :=
  pairs.filterMap fun pair ↦ pair.2.map (pair.1, ·)

theorem withOptionalQueries_eq (spec : OperationSpec) (pairs : List (String × Option String)) :
    spec.withOptionalQueries pairs = { spec with query := spec.query ++ present pairs } := by
  induction pairs generalizing spec with
  | nil => rw [present, List.filterMap_nil, List.append_nil]; rfl
  | cons pair pairs ih =>
    obtain ⟨name, value⟩ := pair
    rw [withOptionalQueries, List.foldl_cons, ← withOptionalQueries, ih]
    cases value with
    | none => rfl
    | some value =>
      rw [withOptionalQuery, withQuery, List.append_assoc]
      rfl

/-- A call carries its version and its pairs. -/
theorem carries_url {endpoint : Url} (h : endpoint.query.getD [] = []) (spec : OperationSpec) :
    (spec.url endpoint).Carries (("api-version", spec.apiVersion) :: spec.query) :=
  Url.carries_appendQuery (by rw [Url.query_setPath, h]) spec.queryPairs

theorem carries_resourceUrl {endpoint : Url} (h : endpoint.query.getD [] = [])
    (spec : OperationSpec) :
    (spec.resourceUrl endpoint).Carries [("api-version", spec.apiVersion)] :=
  carries_url h { spec with query := [] }

end OperationSpec

/-! ## The addresses of a poller

A poller is made from the reply to a submission and knows its addresses from then on.  Polling may
forget one, but it never learns one.
-/

namespace Poller

variable {c : Client} {spec : OperationSpec} {reply : Reply} {p q : Poller}

theorem resourceUrl_of_ofReply {endpoint : Url} (h : ofReply endpoint spec reply = .ok p) :
    p.resourceUrl = spec.resourceUrl endpoint := by
  obtain ⟨status, location, -, -, rfl⟩ := ofReply_eq_ok.mp h
  rfl

/-- A poll leaves a poller with the same addresses, or with none to ask any more. -/
theorem Polls.addresses (h : Polls c p q) :
    q.resourceUrl = p.resourceUrl ∧ ∀ url ∈ q.addresses, url ∈ p.addresses := by
  induction h with
  | none => exact ⟨rfl, fun _ h ↦ h⟩
  | @again q _ w s ih =>
    rcases q.step_cases c w s with h | ⟨body, -, h⟩ | ⟨failure, h⟩
    · rw [h]
      exact ih
    · rw [h]
      exact ⟨ih.1, fun _ h ↦ absurd h List.not_mem_nil⟩
    · rw [h]
      exact ⟨ih.1, fun _ h ↦ absurd h List.not_mem_nil⟩

/-- Where an operation is read: at an address that the reply to its submission has named, or at the
resource. -/
def Reads (reply : Reply) (version : String) (x : Exchange) : Prop :=
  x.request.url.Carries [("api-version", version)] ∨
    reply.headers.Names "azure-asyncoperation" (some x.request.url) ∨
    reply.headers.Names "location" (some x.request.url)

theorem reads_of_opened (h : c.endpoint.query.getD [] = []) {x : Exchange}
    (hurl : c.Opened spec reply x.request.url) : Reads reply spec.apiVersion x := by
  generalize hx : x.request.url = url at hurl
  cases hurl with
  | status h => exact .inr (.inl (hx ▸ h))
  | location h => exact .inr (.inr (hx ▸ h))
  | resource => exact .inl (hx ▸ OperationSpec.carries_resourceUrl h spec)

/-- A poll reads at addresses of its poller. -/
theorem called_addresses (c : Client) (w : Watch) (p : Poller) (s : Session) :
    ∃ reads, s.Called reads ((p.poll c w).outcome s).2 ∧
      ∀ x ∈ reads, (∃ token, ∃ url ∈ p.addresses, x.request = c.request token .get url none) ∧
        x.Led := by
  have hstable := Session.stable_called
    (fun r ↦ ∃ token, ∃ url ∈ p.addresses, r = c.request token .get url none) s
  have hkeeps : (p.poll c w).Keeps _ _ := poll_keeps (fun url hurl ↦ hstable.exchange
    (fun r hr hcall ↦ by rw [Request.isCall_of_token_none hr] at hcall; cases hcall)
    fun token _ ↦ ⟨token, url, hurl, rfl⟩) fun _ hs ↦ hs
  exact hkeeps.session ⟨[], .of_exchanges_eq rfl, fun _ h ↦ absurd h List.not_mem_nil⟩

/-- What a poller reads through any number of polls, and however it is waited for. -/
theorem reads_of_polls (hquery : c.endpoint.query.getD [] = [])
    (hp : ofReply c.endpoint spec reply = .ok p) (hpolls : Polls c p q) :
    q.resourceUrl.Carries [("api-version", spec.apiVersion)] ∧
      (∀ w (s : Session), ∃ reads, s.Called reads (q.step c w s).2.2 ∧
        ∀ x ∈ reads, Reads reply spec.apiVersion x) ∧
      ∀ o (s : Session), ∃ reads, s.Called reads ((q.wait c o).outcome s).2 ∧
        ∀ x ∈ reads, Reads reply spec.apiVersion x := by
  obtain ⟨hresource, haddresses⟩ := hpolls.addresses
  have hreads : ∀ {x : Exchange},
      (∃ token, ∃ url ∈ q.addresses, x.request = c.request token .get url none) ∧ x.Led →
        Reads reply spec.apiVersion x := by
    rintro x ⟨⟨token, url, hurl, hrequest⟩, -⟩
    refine reads_of_opened hquery ?_
    rw [hrequest]
    exact Client.opened_of_mem_addresses hp url (haddresses url hurl)
  refine ⟨?_, fun w s ↦ ?_, fun o s ↦ ?_⟩
  · rw [hresource, resourceUrl_of_ofReply hp]
    exact OperationSpec.carries_resourceUrl hquery spec
  · obtain ⟨reads, hcalled, hkind⟩ := called_addresses c w q s
    refine ⟨reads, ?_, fun x hx ↦ hreads (hkind x hx)⟩
    rw [step]
    rcases ho : (q.poll c w).outcome s with ⟨_ | _, s₁⟩
    · rwa [ho] at hcalled
    · rwa [ho] at hcalled
  · obtain ⟨reads, hcalled, hkind⟩ := c.called_wait o q s
    exact ⟨reads, hcalled, fun x hx ↦ hreads (hkind x hx)⟩

end Poller

/-! ## Requests for tokens

Calls make such requests wherever a token is missing, in the middle of listings and waits.  Instead
of following each call to these places, the property of a request is carried as an invariant of the
session, which every call of a client keeps (`Session.Stable.upholds`).
-/

namespace Session

variable {kind : Request → Prop} {start s t : Session}

/-- What a session has come to that has made only such requests for tokens since `start`. -/
def Asked (kind : Request → Prop) (start s : Session) : Prop :=
  ∃ added, s.tokenRequests = start.tokenRequests ++ added ∧ ∀ r ∈ added, kind r

theorem Asked.concat (h : Asked kind start s) {x : Exchange}
    (hlog : t.exchanges = s.exchanges ++ [x]) (hx : x.request.token = none → kind x.request) :
    Asked kind start t := by
  obtain ⟨added, hadded, hkind⟩ := h
  have hlog' : t.tokenRequests = s.tokenRequests ++ [x.request].filter (·.token.isNone) := by
    rw [tokenRequests, hlog, List.map_append, List.filter_append]
    rfl
  cases htoken : x.request.token with
  | none =>
    rw [List.filter_cons_of_pos (by rw [htoken]; rfl), List.filter_nil] at hlog'
    refine ⟨added ++ [x.request], by rw [hlog', hadded, List.append_assoc], fun r hr ↦ ?_⟩
    rcases List.mem_append.mp hr with hr | hr
    · exact hkind r hr
    · exact List.mem_singleton.mp hr ▸ hx htoken
  | some token =>
    rw [List.filter_cons_of_neg (by rw [htoken]; exact Bool.false_ne_true), List.filter_nil,
      List.append_nil] at hlog'
    exact ⟨added, hlog'.trans hadded, hkind⟩

theorem stable_asked (kind : Request → Prop) (start : Session) :
    Stable (fun r ↦ r.token = none → kind r) (Asked kind start) where
  made s x t hx _ _ _ hs := hs.concat (s.exchanges_made x t) hx
  reported _ _ hs := hs
  advancedTo _ _ hs := hs
  tokenKept _ _ hs := hs

end Session

section Tokens

variable {c : Client} {w : Watch} {ok : Request → Prop} {I : Session → Prop}

theorem Session.Stable.tokenFor (h : Stable ok I)
    (hask : ∀ r, c.tokens.requestFor? c.scope = some r → ok r) :
    (c.tokens.token c.scope w).Keeps I fun _ ↦ I := by
  rw [TokenSource.token]
  split
  · exact Run.Meets.pure fun _ hs ↦ hs
  · rename_i tenantId clientId secret hsource
    refine Run.Meets.get_bind fun t ht ↦ ?_
    split
    · exact (Run.Meets.pure fun _ hs ↦ hs).at_session ht
    · have hask' : (c.tokens.ask tenantId clientId secret c.scope w).Keeps I fun _ ↦ I := by
        rw [TokenSource.ask]
        split
        · exact Run.Meets.pure fun _ hs ↦ hs
        · rename_i r hr
          exact h.send (hask r (by rw [TokenSource.requestFor?, hsource]; simp only [hr]; rfl))
      have hrenew : (c.tokens.renew tenantId clientId secret c.scope w).Keeps I fun _ ↦ I :=
        hask'.bind fun d ↦ TokenSource.keep_meets (fun _ _ hs _ ↦ hs) fun s token hs _ ↦
          h.tokenKept s _ hs
      exact hrenew.at_session ht

/-- What survives the requests that a client makes, every call of the client leaves alone. -/
theorem Session.Stable.upholds (h : Stable ok I)
    (hask : ∀ r, c.tokens.requestFor? c.scope = some r → ok r)
    (hcall : ∀ token m url body, ok (c.request token m url body)) : c.Upholds I fun _ ↦ I where
  exchange _ m url body := Client.exchange_meets (h.tokenFor hask)
    (fun token ↦ h.send (hcall token m url body)) (fun _ _ _ hs _ ↦ hs) fun _ _ _ hs _ ↦ hs
  passed hpass hs := h.passed hs hpass
  noted _ _ _ hs := h.noted hs _
  stop _ _ _ hs := hs
  notedStop _ _ _ _ hs := h.noted hs _

end Tokens

namespace TokenSource

variable {source : TokenSource} {tenantId clientId secret scope : String} {r : Request}

/-- A request for a token that says who asks and for what. -/
def Says (clientId secret scope : String) (r : Request) : Prop :=
  ∃ payload, r.payload = some payload ∧
    Form.Writes payload.text [("grant_type", "client_credentials"), ("client_id", clientId),
      ("client_secret", secret), ("scope", scope)]

theorem says_of_request (h : source.request tenantId clientId secret scope = .ok r) :
    Says clientId secret scope r := by
  rw [request] at h
  split at h
  · cases h
  · cases h
    exact ⟨_, rfl, Form.writes_encode _⟩

theorem says_of_requestFor? (h : source.requestFor? scope = some r) :
    ∃ tenantId clientId secret, source.credentials = .clientSecret tenantId clientId secret ∧
      Says clientId secret scope r := by
  rw [requestFor?] at h
  split at h
  · rename_i tenantId clientId secret hsource
    exact ⟨tenantId, clientId, secret, hsource, says_of_request (Run.eq_ok_of_toOption h)⟩
  · cases h

end TokenSource

namespace Factory

/-- **Parameters cannot be injected.**  A client whose endpoint has no query sends the version of
the interface and the pairs of a call as they are, in order and without those that have no value.
What a poller reads, it reads at an address that it was given or at the resource with nothing but
the version.  A request for a token says who asks and for what, also where a call makes it.  Nothing
in a name or a value makes another pair of it. -/
theorem parameters {f : Factory} (hquery : f.client.endpoint.query.getD [] = []) :
    (∀ (spec : OperationSpec) pairs,
      ((spec.withOptionalQueries pairs).url f.client.endpoint).Carries
        (("api-version", spec.apiVersion) :: (spec.query ++ OperationSpec.present pairs))) ∧
    (∀ spec reply p q, Poller.ofReply f.client.endpoint spec reply = .ok p →
      Poller.Polls f.client p q →
        q.resourceUrl.Carries [("api-version", spec.apiVersion)] ∧
        (∀ w (s : Session), ∃ reads, s.Called reads (q.step f.client w s).2.2 ∧
          ∀ x ∈ reads, Poller.Reads reply spec.apiVersion x) ∧
        ∀ o (s : Session), ∃ reads, s.Called reads ((q.wait f.client o).outcome s).2 ∧
          ∀ x ∈ reads, Poller.Reads reply spec.apiVersion x) ∧
    (∀ (source : TokenSource) tenantId clientId secret scope r,
      source.request tenantId clientId secret scope = .ok r →
        TokenSource.Says clientId secret scope r) ∧
    ∀ call s, ∃ asked,
      ((f.perform call).outcome s).2.tokenRequests = s.tokenRequests ++ asked ∧
        ∀ r ∈ asked, ∃ tenantId clientId secret,
          f.client.tokens.credentials = .clientSecret tenantId clientId secret ∧
            TokenSource.Says clientId secret f.client.scope r := by
  refine ⟨fun spec pairs ↦ ?_, fun spec reply p q ↦ Poller.reads_of_polls hquery,
    fun _ _ _ _ _ _ ↦ TokenSource.says_of_request, fun call s ↦ ?_⟩
  · rw [OperationSpec.withOptionalQueries_eq]
    exact OperationSpec.carries_url hquery _
  · have hcall := perform_upholds ((Session.stable_asked _ s).upholds (c := f.client)
      (fun _ hr _ ↦ TokenSource.says_of_requestFor? hr) fun _ _ _ _ ↦ nofun) call
    exact hcall.session ⟨[], (List.append_nil _).symm, fun _ h ↦ absurd h List.not_mem_nil⟩

/-- A factory with all kinds of marks in what it tells the authority. -/
def sampleWithMarks : Factory where
  client :=
    ⟨⟨"http", [], none, some "arm.test".toList, none, .segments [[]], some [], none⟩, "s & t",
      ⟨.clientSecret "t" "c&client_secret=x" "k+%26#é", "http://login.test", Client.product⟩⟩
  subscriptionId := "s"
  location := "l"
  resourceGroup := none
  poll := .ofPolicy .default

/-- A call of the factory with marks in its query, after a request for a token. -/
theorem parameters_with_marks :
    sampleWithMarks.client.endpoint.query.getD [] = [] ∧
      (((OperationSpec.new .get "/a" "2024").withOptionalQueries
        [("$filter", some "a&b=c+d%26#é"), ("top", none), ("", some " ")]).url
          sampleWithMarks.client.endpoint).Carries
        [("api-version", "2024"), ("$filter", "a&b=c+d%26#é"), ("", " ")] ∧
      ∃ r, ((sampleWithMarks.perform (.submit (.new .get "/a" "2024"))).outcome
          (.start ⟨0⟩ [])).2.tokenRequests = [r] ∧
        TokenSource.Says "c&client_secret=x" "k+%26#é" "s & t" r := by
  obtain ⟨hurl, -, -, hcall⟩ := parameters (f := sampleWithMarks) rfl
  refine ⟨rfl, hurl (.new .get "/a" "2024")
    [("$filter", some "a&b=c+d%26#é"), ("top", none), ("", some " ")], ?_⟩
  obtain ⟨asked, hasked, hsays⟩ := hcall (.submit (.new .get "/a" "2024")) (.start ⟨0⟩ [])
  have hlength : ((sampleWithMarks.perform (.submit (.new .get "/a" "2024"))).outcome
      (.start ⟨0⟩ [])).2.tokenRequests.length = 1 := by
    decide +kernel
  obtain ⟨r, hr⟩ := List.length_eq_one_iff.mp hlength
  have hmem : asked = [r] := hasked.symm.trans hr
  obtain ⟨_, _, _, hcredentials, hr'⟩ := hsays r (by rw [hmem, List.mem_singleton])
  cases hcredentials
  exact ⟨r, hr, hr'⟩

end Factory
end ResourceManager
