import Mathlib.Data.List.Chain
import ResourceManager.Proofs.TokenSharing

/-!
# Tokens in a log

Every request to the service carries a token, and a log shows which one it has to be: the token in
the last response before it that has brought one.  This file says what such a log looks like; that
the calls of a client leave such logs behind is said elsewhere.

* `Request.Bears` is about the authorization of a request that is made to the service, and
  `Request.PassesOn` about that of the one behind it when a response sends it on.
* `LastIssued` is the token that has been issued last, read off the responses in a log, and
  `Carried` says that every request to the service bears the one before it.
* `Authorized` is the same as a grammar, with the token that was issued last as its state.  A
  program can keep to the grammar step by step, which it cannot do with `Carried`;
  `Authorized.carried` says that this is enough.  `Ending` is what may stand behind such a log when
  a call has ended.

A log of one call begins with a token that an earlier call has been issued.  All the notions here
are therefore relative to a token that stands in front of the log, and the lemmas on appending are
what puts the logs of several calls together.
-/

set_option autoImplicit false

namespace ResourceManager

/-! ## The authorization field

A request may have two values in this field, one from the user information of its URL and one from
its token.  Which of them go along when a response sends the request on depends on where to: to the
same server both do, and to another one neither. -/

namespace Request

/-- What the URL says about the user, as values of the authorization field. -/
def basic (r : Request) : List String :=
  match r.userInfo? with
  | some (name, password) =>
    ["Basic " ++ String.ofList (Base64.encode (Utf8.encode (name ++ ':' :: password)))]
  | none => []

/-- What the token says. -/
def bearer (r : Request) : List String := r.token.toList.map ("Bearer " ++ ·)

/-- The user information comes first. -/
theorem authorization_eq (r : Request) : r.authorization = r.basic ++ r.bearer := by
  rw [authorization, bearer]
  cases r.token with
  | none => rfl
  | some token => rfl

/-- The request is one to the service, and its authorization is the token. -/
structure Bears (r : Request) (token : AccessToken) : Prop where
  isCall : r.isCall = true
  authorization : r.authorization = r.basic ++ ["Bearer " ++ token.secret]

/-- A request that is built with a token bears it. -/
theorem bears_of_token {r : Request} {token : AccessToken} (h : r.token = some token.secret) :
    r.Bears token where
  isCall := by
    rw [isCall, h]
    rfl
  authorization := by
    rw [authorization_eq, bearer, h]
    rfl

/-- Without a token there is no authorization but that of the URL. -/
theorem authorization_of_token_none {r : Request} (h : r.token = none) :
    r.authorization = r.basic := by
  rw [authorization_eq, bearer, h]
  exact List.append_nil _

/-- Without user information in the URL there is nothing said about the user. -/
theorem basic_of_userInfo_none {r : Request} (h : r.userInfo? = none) : r.basic = [] := by
  rw [basic, h]

/-- A request that is made because a response has sent another one on takes over its token, as long
as it is for the same server.  No other server gets to see a token. -/
structure PassesOn (r next : Request) : Prop where
  authorization : next.authorization =
    next.basic ++ if r.url.hasSameServer next.url then r.bearer else []
  /-- Only a request with a token has one to pass on. -/
  isCall : next.isCall = true → r.isCall = true

/-- Every request that a response sends on passes the token on so: the one place in which the sender
decides on it is `Request.sentTo`. -/
theorem passesOn_of_redirected {r next : Request} {response : Response}
    (h : r.redirected? response = some next) : r.PassesOn next := by
  rw [redirected?] at h
  obtain ⟨⟨m, payload⟩, -, h⟩ := Option.bind_eq_some_iff.mp h
  obtain ⟨reference, -, h⟩ := Option.bind_eq_some_iff.mp h
  obtain ⟨url, -, h⟩ := Option.bind_eq_some_iff.mp h
  obtain rfl : r.sentTo url m payload = next := Option.some_inj.mp h
  -- who is asked does not depend on the user information, which is all that is put in
  have hserver : r.url.hasSameServer (r.sentTo url m payload).url = r.url.hasSameServer url := rfl
  have htoken : (r.sentTo url m payload).token =
      if r.url.hasSameServer url then r.token else none := rfl
  constructor
  · rw [authorization_eq, hserver, bearer, htoken]
    split
    · rfl
    · rfl
  · rw [isCall, htoken]
    split
    · exact id
    · intro hcall
      cases hcall

-- another port is another server, which does not get to see the token
example : ({ TokenSource.sampleRequest with token := some "t" }.redirected?
    ⟨307, [("location", Utf8.encode "http://login.test:8080/".toList)], []⟩).map (authorization ·) =
      some [] := by
  decide +kernel

/-- So it goes on with all that follow. -/
theorem Leads.passesOn {r : Request} {redirects : List Redirect} (h : r.Leads redirects) :
    (r :: redirects.map Redirect.request).IsChain PassesOn := by
  induction h with
  | nowhere => exact .singleton _
  | on hnext _ ih => exact .cons_cons (passesOn_of_redirected hnext) ih

end Request

/-! ## Times in a log

An exchange has a time at which it was made and one at which its answer came, and nothing else is
done in between.  So the exchanges of a log stand in a row, which is what it takes to say that a
token was still fresh when the request behind it was made. -/

/-- When an exchange had come as far as the log says: its answer came then, or else it was made. -/
def Exchange.time (x : Exchange) : Timestamp :=
  match x.fate with
  | .answered time _ => time
  | _ => x.moment.time

/-- The lifetime of a token counts from the time at which its response came. -/
theorem Exchange.issues_of_delivery {x : Exchange} {d : Delivery} {token : AccessToken}
    (hd : x.delivery? = some d) (h : TokenSource.ofDelivery d x.time = .ok token) :
    x.Issues token := by
  obtain ⟨time, answer, hfate⟩ := answered_of_delivery hd fun cause hcause ↦ by
    rw [hcause] at h
    cases h
  rw [Exchange.time, hfate] at h
  exact issues_iff.mpr ⟨time, answer, d, hfate, hd, h⟩

/-- The exchanges were made between two points in time, and each one had come to its end before the
next. -/
structure Dated (a b : Timestamp) (log : List Exchange) : Prop where
  le : a.nanoseconds ≤ b.nanoseconds
  mem : ∀ x ∈ log, a.nanoseconds ≤ x.moment.time.nanoseconds ∧
    x.moment.time.nanoseconds ≤ x.time.nanoseconds ∧ x.time.nanoseconds ≤ b.nanoseconds
  sorted : log.Pairwise fun x y ↦ x.time.nanoseconds ≤ y.moment.time.nanoseconds

namespace Dated

variable {a b t : Timestamp} {log rest : List Exchange}

/-- Nothing may happen for as long as it likes. -/
theorem nil (h : a.nanoseconds ≤ b.nanoseconds) : Dated a b [] :=
  ⟨h, by simp, .nil⟩

/-- Logs are put together where the one ends and the other begins. -/
theorem append (h : Dated a b log) (h' : Dated b t rest) : Dated a t (log ++ rest) where
  le := Int.le_trans h.le h'.le
  mem x hx := by
    rcases List.mem_append.mp hx with hx | hx
    · obtain ⟨hfrom, hspan, hto⟩ := h.mem x hx
      exact ⟨hfrom, hspan, Int.le_trans hto h'.le⟩
    · obtain ⟨hfrom, hspan, hto⟩ := h'.mem x hx
      exact ⟨Int.le_trans h.le hfrom, hspan, hto⟩
  sorted := List.pairwise_append.mpr ⟨h.sorted, h'.sorted, fun x hx y hy ↦
    Int.le_trans (h.mem x hx).2.2 (h'.mem y hy).1⟩

/-- Time may go on behind a log. -/
theorem later (h : Dated a b log) (hle : b.nanoseconds ≤ t.nanoseconds) : Dated a t log := by
  have happend := h.append (nil hle)
  rwa [List.append_nil] at happend

/-- One more exchange, made where the log ends. -/
theorem concat (h : Dated a b log) {x : Exchange} (hmade : x.moment.time = b)
    (hle : b.nanoseconds ≤ x.time.nanoseconds) (hend : x.time.nanoseconds ≤ t.nanoseconds) :
    Dated a t (log ++ [x]) := by
  refine h.append ⟨Int.le_trans hle hend, fun y hy ↦ ?_, List.pairwise_singleton _ _⟩
  rw [List.mem_singleton.mp hy, hmade]
  exact ⟨Int.le_refl _, hle, hend⟩

end Dated

/-! ## Tokens in responses

The token that was issued last is a matter of the responses alone.  The relation is defined from the
end of the log, as a call would look for it. -/

/-- The exchange was a request for a token, and it has brought this one. -/
structure Exchange.Supplies (x : Exchange) (token : AccessToken) : Prop where
  asks : x.request.isCall = false
  issues : x.Issues token

/-- The token in the last response of a log that has brought one, if there is such a response. -/
inductive LastIssued : List Exchange → Option AccessToken → Prop
  | nothing : LastIssued [] none
  | issued {log : List Exchange} {x : Exchange} {token : AccessToken} (hx : x.Supplies token) :
      LastIssued (log ++ [x]) (some token)
  | unchanged {log : List Exchange} {latest : Option AccessToken} {x : Exchange}
      (h : LastIssued log latest) (hx : ∀ token, ¬ x.Supplies token) :
      LastIssued (log ++ [x]) latest

/-- There is no more than one. -/
theorem LastIssued.eq {log : List Exchange} {latest latest' : Option AccessToken}
    (h : LastIssued log latest) (h' : LastIssued log latest') : latest = latest' := by
  induction h generalizing latest' with
  | nothing =>
    generalize hlog : ([] : List Exchange) = log at h'
    cases h' with
    | nothing => rfl
    | issued => simp at hlog
    | unchanged => simp at hlog
  | @issued log x token hx =>
    generalize hlog : log ++ [x] = log' at h'
    cases h' with
    | nothing => simp at hlog
    | issued hx' =>
      cases (List.append_inj' hlog rfl).2
      exact congrArg some (hx.issues.eq hx'.issues)
    | unchanged _ hx' =>
      cases (List.append_inj' hlog rfl).2
      exact absurd hx (hx' token)
  | @unchanged log latest x _ hx ih =>
    generalize hlog : log ++ [x] = log' at h'
    cases h' with
    | nothing => simp at hlog
    | @issued _ _ token hx' =>
      cases (List.append_inj' hlog rfl).2
      exact absurd hx' (hx token)
    | unchanged h' =>
      obtain ⟨rfl, -⟩ := List.append_inj' hlog rfl
      exact ih h'

/-- A request to the service brings no token, whatever its response says. -/
theorem LastIssued.concat_call {log : List Exchange} {latest : Option AccessToken} {x : Exchange}
    (h : LastIssued log latest) (hx : x.request.isCall = true) : LastIssued (log ++ [x]) latest :=
  h.unchanged fun _ hsupplies ↦ by
    rw [hsupplies.asks] at hx
    cases hx

/-- Every request to the service bears the token that was issued last before it. -/
def Carried (log : List Exchange) : Prop :=
  ∀ before x, before ++ [x] <+: log → x.request.isCall = true →
    ∃ token, LastIssued before (some token) ∧ x.request.Bears token

/-- A request to the service directly behind one for a token bears that token. -/
def Follows (y x : Exchange) : Prop :=
  y.request.isCall = false → x.request.isCall = true →
    ∃ token, y.Issues token ∧ x.request.Bears token

namespace Carried

variable {log : List Exchange} {x : Exchange}

/-- Where there are no requests, none lacks a token. -/
theorem nil : Carried [] := by
  intro before x hprefix
  simp at hprefix

/-- One more request is added with the token that was last before it. -/
theorem concat (h : Carried log) (hx : x.request.isCall = true →
    ∃ token, LastIssued log (some token) ∧ x.request.Bears token) : Carried (log ++ [x]) := by
  intro before z hprefix hcall
  rcases List.prefix_concat_iff.mp hprefix with hall | hprefix
  · obtain ⟨rfl, hlast⟩ := List.append_inj' hall rfl
    cases hlast
    exact hx hcall
  · exact h before z hprefix hcall

/-- A request for a token need not bear any. -/
theorem concat_request (h : Carried log) (hx : x.request.isCall = false) : Carried (log ++ [x]) :=
  h.concat fun hcall ↦ by
    rw [hx] at hcall
    cases hcall

end Carried

/-! ## The grammar

A word of the grammar is either a request to the service with the token at hand, or a request for a
token and directly behind it the request that it is for.  There is no word for a request for a token
that has brought none; after one of those a call ends, and `Ending` has them. -/

/-- No token is of use at a point in time: there is none, or it is at most five minutes from its
end. -/
def Lacking (latest : Option AccessToken) (now : Timestamp) : Prop :=
  ∀ token, latest = some token → token.isFresh now = false

/-- A log of requests to the service, each with the token that was issued last before it.  `first`
is the last token that was issued before all of them, and the other one is the last of all.  A token
is renewed when it is lacking, and what it was renewed for is asked when it has come. -/
inductive Authorized (c : Client) (first : Option AccessToken) :
    List Exchange → Option AccessToken → Prop
  | nothing : Authorized c first [] first
  | held {log : List Exchange} {token : AccessToken} {x : Exchange}
      (h : Authorized c first log (some token)) (hfresh : token.isFresh x.moment.time = true)
      (hx : x.request.Bears token) : Authorized c first (log ++ [x]) (some token)
  | renewed {log : List Exchange} {latest : Option AccessToken} {y x : Exchange}
      {token : AccessToken} (h : Authorized c first log latest)
      (hlacking : Lacking latest y.moment.time)
      (hy : c.tokens.requestFor? c.scope = some y.request) (htoken : y.Issues token)
      (hx : x.request.Bears token) (htime : x.moment.time = y.time) :
      Authorized c first (log ++ [y] ++ [x]) (some token)

/-- What may stand at the end of a log when a call has been stopped, or has ended with a value. -/
inductive Ending (c : Client) (latest : Option AccessToken) :
    List Exchange → Option Stop → Prop
  /-- Only a token that cannot be had is a matter of credentials. -/
  | complete {stop? : Option Stop} (h : ∀ cause, stop? ≠ some (.error (.credential cause))) :
      Ending c latest [] stop?
  | refused {y : Exchange} {cause : CredentialError} (hlacking : Lacking latest y.moment.time)
      (hy : c.tokens.requestFor? c.scope = some y.request) (hcause : y.Denies cause) :
      Ending c latest [y] (some (.error (.credential cause)))
  /-- The address of the authority is no URL, so there is no request. -/
  | unaddressed {now : Timestamp} {cause : TransportError} (hlacking : Lacking latest now)
      (hnone : c.tokens.requestFor? c.scope = none) :
      Ending c latest [] (some (.error (.credential (.requestFailed cause))))
  /-- The caller does not wait for the token, or waits for ever because there is no answer. -/
  | abandoned {y : Exchange} {stop : Stop} (hlacking : Lacking latest y.moment.time)
      (hy : c.tokens.requestFor? c.scope = some y.request) (hway : y.fate = .underway)
      (hstop : stop = .stuck ∨ stop = .error .canceled ∨
        ∃ limit, stop = .error (.pollTimeout limit)) : Ending c latest [y] (some stop)

/-- A request for a token has none itself, which is how it is told from a call. -/
theorem TokenSource.token_of_requestFor? {source : TokenSource} {scope : String} {r : Request}
    (h : source.requestFor? scope = some r) : r.token = none := by
  rw [requestFor?] at h
  split at h
  · rename_i tenantId clientId secret _
    cases hr : source.request tenantId clientId secret scope with
    | error cause =>
      rw [hr] at h
      cases h
    | ok r' =>
      rw [hr] at h
      cases h
      exact request_token hr
  · cases h

theorem TokenSource.isCall_of_requestFor? {source : TokenSource} {scope : String} {r : Request}
    (h : source.requestFor? scope = some r) : r.isCall = false :=
  Request.isCall_of_token_none (token_of_requestFor? h)

section Grammar

variable {c : Client} {first latest : Option AccessToken} {log rest : List Exchange}

namespace Authorized

/-- Where nothing was asked, the token is the one before. -/
theorem of_nil (h : Authorized c first [] latest) : latest = first := by
  generalize hlog : ([] : List Exchange) = log at h
  cases h with
  | nothing => rfl
  | held => simp at hlog
  | renewed => simp at hlog

/-- The last request is one to the service. -/
theorem last (h : Authorized c first log latest) : ∀ x ∈ log.getLast?, x.request.isCall = true := by
  cases h with
  | nothing => simp
  | held _ _ hx => simp [hx.isCall]
  | renewed _ _ _ _ hx => simp [hx.isCall]

/-- If the first request is one to the service, there has been a token for it. -/
theorem head (h : Authorized c first log latest) : ∀ x ∈ log.head?, x.request.isCall = true →
    ∃ token, first = some token ∧ token.isFresh x.moment.time = true := by
  induction h with
  | nothing => simp
  | @held log token x h hfresh hx ih =>
    intro x' hx' hcall
    cases log with
    | nil =>
      cases Option.some_inj.mp hx'
      exact ⟨token, h.of_nil.symm, hfresh⟩
    | cons y log => exact ih x' hx' hcall
  | @renewed log latest y x token h hlacking hy htoken hx htime ih =>
    intro x' hx' hcall
    cases log with
    | nil =>
      cases Option.some_inj.mp hx'
      rw [TokenSource.isCall_of_requestFor? hy] at hcall
      cases hcall
    | cons z log => exact ih x' hx' hcall

/-- Behind a request for a token stands the request it was for. -/
theorem follows (h : Authorized c first log latest) : log.IsChain Follows := by
  have hcall : ∀ {log latest} {x : Exchange}, Authorized c first log latest →
      ∀ y ∈ log.getLast?, Follows y x := by
    intro log latest x h y hy htoken
    rw [h.last y hy] at htoken
    cases htoken
  induction h with
  | nothing => exact .nil
  | held h _ _ ih =>
    refine List.isChain_append.mpr ⟨ih, .singleton _, fun y hy x hx ↦ ?_⟩
    exact hcall h y hy
  | @renewed log latest y x token h _ _ htoken hx _ ih =>
    rw [List.append_assoc]
    refine List.isChain_append.mpr ⟨ih, ?_, fun z hz x hx ↦ hcall h z hz⟩
    exact .cons_cons (fun _ _ ↦ ⟨token, htoken, hx⟩) (.singleton _)

/-- There are requests of two kinds in such a log. -/
theorem mem (h : Authorized c first log latest) :
    ∀ x ∈ log, (∃ token, x.request.Bears token) ∨
      c.tokens.requestFor? c.scope = some x.request := by
  induction h with
  | nothing => simp
  | @held _ token _ _ _ hx ih =>
    intro x hmem
    rcases List.mem_append.mp hmem with hmem | hmem
    · exact ih x hmem
    · rw [List.mem_singleton.mp hmem]
      exact .inl ⟨token, hx⟩
  | @renewed _ _ _ _ token _ _ hy _ hx _ ih =>
    intro x hmem
    rcases List.mem_append.mp hmem with hmem | hmem
    · rcases List.mem_append.mp hmem with hmem | hmem
      · exact ih x hmem
      · rw [List.mem_singleton.mp hmem]
        exact .inr hy
    · rw [List.mem_singleton.mp hmem]
      exact .inl ⟨token, hx⟩

/-- The state of the grammar is the token that the log shows to be the last one, so a log that goes
by the grammar is one in which every request bears it.  The induction is on the grammar; a part of
the log alone does not say which token was issued before it, hence what stands in front. -/
theorem carried {before : List Exchange} (h : Authorized c first log latest)
    (hcarried : Carried before) (hfirst : LastIssued before first) :
    Carried (before ++ log) ∧ LastIssued (before ++ log) latest := by
  induction h with
  | nothing =>
    rw [List.append_nil]
    exact ⟨hcarried, hfirst⟩
  | @held log token x h hfresh hx ih =>
    obtain ⟨hcarried, hlatest⟩ := ih
    rw [← List.append_assoc]
    exact ⟨hcarried.concat fun _ ↦ ⟨token, hlatest, hx⟩, hlatest.concat_call hx.isCall⟩
  | @renewed log latest y x token h _ hy htoken hx _ ih =>
    have hasks := TokenSource.isCall_of_requestFor? hy
    have hlatest : LastIssued (before ++ log ++ [y]) (some token) := .issued ⟨hasks, htoken⟩
    rw [← List.append_assoc, ← List.append_assoc]
    exact ⟨(ih.1.concat_request hasks).concat fun _ ↦ ⟨token, hlatest, hx⟩,
      hlatest.concat_call hx.isCall⟩

end Authorized

/-- There is nothing behind a complete log but a request for a token that brings none. -/
theorem Ending.cases_rest {stop? : Option Stop} (h : Ending c latest rest stop?) :
    rest = [] ∨ ∃ y, rest = [y] ∧ c.tokens.requestFor? c.scope = some y.request ∧
      Lacking latest y.moment.time ∧ ∀ token, ¬ y.Issues token := by
  cases h with
  | complete => exact .inl rfl
  | refused hlacking hy hcause =>
    exact .inr ⟨_, rfl, hy, hlacking, fun _ hissues ↦ hissues.not_denies hcause⟩
  | unaddressed => exact .inl rfl
  | abandoned hlacking hy hway =>
    refine .inr ⟨_, rfl, hy, hlacking, fun token hissues ↦ ?_⟩
    obtain ⟨time, answer, r, secret, lifetime, hfate, -⟩ := hissues.response
    cases hway.symm.trans hfate

end Grammar
end ResourceManager
