import ResourceManager.Proofs.Serialization
import ResourceManager.Proofs.TokenSharing

/-!
# How long a token is used

A response gives the lifetime of its token in seconds, as any number of 64 bits.  On its way to a
point in time it meets three limits, those of a word with a sign, of a span of time and of the
calendar, and a lifetime that does not pass one of them has no end of its own.

* `AccessToken.expiry_eq` says that the three limits amount to one: the token ends where the sum of
  the integers says, or with the last point in time.
* `TokenSource.reuses_iff` says when the token at hand is returned again, and
  `TokenSource.tokenRequests_renew` what is done where it is not.
* `TokenSource.use_of_lifetime` puts both together for the token of a response, in the words of
  `TokenSource.Lasts`.
-/

set_option autoImplicit false

namespace ResourceManager

/-! ## Three limits

Each of the three steps can fail, and failing in any of them means that the token has no end before
the last point in time.  The limits are nested: what is too large for a word would be too long for a
span, and what is too long for a span would lead out of the calendar.
-/

namespace Timespan

/-- A number of seconds has a span exactly if there is a span of that length: the limit of words
lies behind that of spans. -/
theorem ofNat?_eq_some_iff {n : Nat} {d : Timespan} :
    (signedWord? n).bind ofSeconds? = some d ↔ d.nanoseconds = n * Duration.perSecond := by
  have hpow : Nat.pow 2 63 = 9223372036854775808 := by decide
  have hlongest : longest = 9223372036854775807000000 := by decide
  constructor
  · intro h
    obtain ⟨word, hword, hspan⟩ := Option.bind_eq_some_iff.mp h
    rw [signedWord?] at hword
    split at hword
    · rename_i hfits
      cases hword
      rw [ofSeconds?] at hspan
      split at hspan
      · cases hspan
        show (Int64.ofNat n).toInt * _ = _
        rw [Int64.toInt_ofNat_of_lt hfits]
      · cases hspan
    · cases hword
  · intro h
    have hbound := d.natAbs_le
    rw [h, Duration.perSecond, hlongest] at hbound
    have hfits : n < Nat.pow 2 63 := by omega
    have hword : (Int64.ofNat n).toInt = n := Int64.toInt_ofNat_of_lt hfits
    rw [signedWord?, if_pos hfits, Option.bind_some, ofSeconds?]
    simp only [hword, ← h]
    exact dif_pos d.natAbs_le

end Timespan

namespace Timestamp

/-- The days of the calendar are the points from the least to the greatest. -/
theorem later?_eq_some_iff {t u : Timestamp} {d : Timespan} :
    t.later? d = some u ↔ u.nanoseconds = t.nanoseconds + d.nanoseconds ∧ u.IsPoint := by
  have hday : nanosecondsPerDay = 86400000000000 := by decide
  have hcalendar : ∀ sum : Int, (firstDay ≤ sum.fdiv nanosecondsPerDay ∧
      sum.fdiv nanosecondsPerDay ≤ lastDay) ↔ IsPoint ⟨sum⟩ := by
    intro sum
    rw [hday, Int.fdiv_eq_ediv_of_nonneg _ (by decide), firstDay, lastDay]
    constructor
    · rintro ⟨hfirst, hlast⟩
      refine ⟨?_, ?_⟩
      · show (-8334601228800000000000 : Int) ≤ sum
        omega
      · show sum ≤ (8210266876799999999999 : Int)
        omega
    · rintro ⟨hleast, hgreatest⟩
      replace hleast : (-8334601228800000000000 : Int) ≤ sum := hleast
      replace hgreatest : sum ≤ (8210266876799999999999 : Int) := hgreatest
      omega
  rw [later?]
  split
  · rename_i hdays
    have hpoint := (hcalendar _).mp hdays
    constructor
    · rintro ⟨⟩
      exact ⟨rfl, hpoint⟩
    · rintro ⟨hsum, -⟩
      rw [← hsum]
  · rename_i hdays
    refine iff_of_false nofun fun h ↦ hdays ((hcalendar _).mpr ?_)
    rw [← h.1]
    exact h.2

end Timestamp

namespace AccessToken

variable {now : Timestamp}

/-- The limits of words, of spans and of the calendar amount to the last point in time. -/
theorem expiry_eq (h : now.IsPoint) (n : Nat) :
    expiry now n = now.addBounded (Duration.ofSeconds n) := by
  have hleast : (-8334601228800000000000 : Int) ≤ now.nanoseconds := h.least_le
  have hlongest : Timespan.longest = 9223372036854775807000000 := by decide
  have hgreatest : Timestamp.greatest.nanoseconds = 8210266876799999999999 := rfl
  have hlength : ((Duration.ofSeconds n).nanoseconds : Int) = n * 1000000000 :=
    Int.natCast_mul n _
  rw [expiry, Timestamp.addBounded, hlength, hgreatest]
  cases hspan : (signedWord? n).bind Timespan.ofSeconds? with
  | none =>
    -- a lifetime that is no span would lead past all points
    have hlong : ¬ n * 1000000000 ≤ Timespan.longest := fun hle ↦ by
      rw [(Timespan.ofNat?_eq_some_iff (d := ⟨n * 1000000000, by omega⟩)).mpr rfl] at hspan
      cases hspan
    show Timestamp.greatest = _
    rw [Timestamp.greatest, Int.min_eq_right (by omega)]
  | some d =>
    have hd : d.nanoseconds = n * 1000000000 := Timespan.ofNat?_eq_some_iff.mp hspan
    rw [Option.bind_some, ← hd]
    cases hlater : now.later? d with
    | none =>
      have hpast : ¬ now.nanoseconds + d.nanoseconds ≤ 8210266876799999999999 := fun hle ↦ by
        have hpoint : Timestamp.IsPoint ⟨now.nanoseconds + d.nanoseconds⟩ :=
          ⟨Int.le_trans h.least_le (by show now.nanoseconds ≤ _ + _; omega), hle⟩
        rw [Timestamp.later?_eq_some_iff.mpr ⟨rfl, hpoint⟩] at hlater
        cases hlater
      show Timestamp.greatest = _
      rw [Timestamp.greatest, Int.min_eq_right (by omega)]
    | some u =>
      obtain ⟨hsum, hpoint⟩ := Timestamp.later?_eq_some_iff.mp hlater
      have hle : u.nanoseconds ≤ 8210266876799999999999 := hpoint.le_greatest
      rw [Option.getD_some, ← hsum, Int.min_eq_left hle]

/-- A longer lifetime does not end earlier. -/
theorem expiry_mono (h : now.IsPoint) {m n : Nat} (hle : m ≤ n) :
    (expiry now m).nanoseconds ≤ (expiry now n).nanoseconds := by
  have hlength : (Duration.ofSeconds m).nanoseconds ≤ (Duration.ofSeconds n).nanoseconds :=
    Nat.mul_le_mul_right _ hle
  rw [expiry_eq h, expiry_eq h, Timestamp.addBounded, Timestamp.addBounded]
  show min _ _ ≤ min _ _
  omega

/-- Five minutes are a span, and they lead to a point wherever one lies there. -/
theorem later?_margin {t : Timestamp} (h : (t.add margin).IsPoint) :
    (Timespan.ofSeconds? 300).bind t.later? = some (t.add margin) := by
  have hspan : ∃ d, Timespan.ofSeconds? 300 = some d ∧ d.nanoseconds = margin.nanoseconds :=
    ⟨⟨300000000000, by decide⟩, by decide, by decide⟩
  obtain ⟨d, hd, hlength⟩ := hspan
  rw [hd, Option.bind_some, Timestamp.later?_eq_some_iff, hlength]
  exact ⟨rfl, h⟩

end AccessToken

/-! ## Use of a token

That a token is used again is stated of the whole call: it returns the token and leaves the session
as it was.  A call that requests another one cannot be mistaken for that, since the request is in
the log.
-/

namespace TokenSource

variable {source : TokenSource} {tenantId clientId secret scope : String} {s : Session}
  {token : AccessToken} {w : Watch}

/-- A call for a token returns this one, and nothing else happens. -/
def Reuses (source : TokenSource) (scope : String) (w : Watch) (s : Session) (token : AccessToken) :
    Prop :=
  (source.token scope w).outcome s = (.ok token, s)

theorem outcome_token (hsource : source.credentials = .clientSecret tenantId clientId secret)
    (scope : String) (w : Watch) (s : Session) :
    (source.token scope w).outcome s =
      match s.usable? scope with
      | some token => (.ok token, s)
      | none => (source.renew tenantId clientId secret scope w).outcome s := by
  rw [token, hsource]
  simp only [Run.outcome_bind_ok (Run.outcome_get s)]
  show Run.outcome (match s.usable? scope with | some token => _ | none => _) s = _
  cases s.usable? scope with
  | some token => rfl
  | none => rfl

/-- Another token is requested once, unless the address of the authority is no URL. -/
theorem tokenRequests_renew (hsource : source.credentials = .clientSecret tenantId clientId secret)
    (scope : String) (w : Watch) (s : Session) :
    ((source.renew tenantId clientId secret scope w).outcome s).2.tokenRequests =
      s.tokenRequests ++ (source.requestFor? scope).toList := by
  have hask := (ask_frame hsource s scope w).2.2
  rw [renew, Run.outcome_bind, ← hask]
  rcases (source.ask tenantId clientId secret scope w).outcome s with ⟨stop | d, s₁⟩
  · rfl
  · show ((keep scope d).outcome s₁).2.tokenRequests = s₁.tokenRequests
    rw [outcome_keep]
    cases ofDelivery d s₁.now with
    | error cause => rfl
    | ok token => rfl

/-- Where a token is requested, the call does not end as if none had been. -/
theorem outcome_renew_ne (hsource : source.credentials = .clientSecret tenantId clientId secret)
    (scope : String) (w : Watch) (s : Session) (token : AccessToken) :
    (source.renew tenantId clientId secret scope w).outcome s ≠ (.ok token, s) := by
  intro h
  have hrequests := tokenRequests_renew hsource scope w s
  rw [h, List.self_eq_append_right, Option.toList_eq_nil_iff, requestFor?, hsource] at hrequests
  cases hr : source.request tenantId clientId secret scope with
  | ok r =>
    simp only [hr] at hrequests
    cases hrequests
  | error cause =>
    rw [renew, ask, hr] at h
    cases h

/-- **The token at hand is returned again** exactly if it was issued for the scope and is more than
five minutes from its end. -/
theorem reuses_iff (hsource : source.credentials = .clientSecret tenantId clientId secret) :
    source.Reuses scope w s token ↔ s.Holds scope token := by
  rw [Reuses, outcome_token hsource, ← Session.usable?_eq_some]
  cases s.usable? scope with
  | some other =>
    rw [Prod.mk.injEq, Except.ok.injEq, Option.some_inj]
    exact and_iff_left rfl
  | none => exact iff_of_false (outcome_renew_ne hsource scope w s token) nofun

/-! ## Lifetimes in responses

`Grants` reads the body of a response as the authority means it.  Which lifetimes can occur at all
is a statement about bodies, and every one of them does occur in one.
-/

/-- The response brings a token with a lifetime in seconds. -/
structure Grants (r : Response) (secret : String) (seconds : Nat) : Prop where
  isSuccess : r.isSuccess = true
  body : (Json.Tree.ofBytes? r.body).bind decode? = some (secret, seconds)

theorem ofResponse_of_grants {r : Response} {n : Nat} (h : Grants r secret n) (now : Timestamp) :
    ofResponse r now = .ok (.issued secret now n) := by
  rw [ofResponse, if_pos h.isSuccess, h.body]

/-- A number in a text that is read as one fits 64 bits. -/
theorem natural?_lt {t : Json.Tree} {n : Nat} (h : Datum.natural? t = some n) :
    n < Nat.pow 2 64 := by
  cases t with
  | number m =>
    obtain ⟨v, hvalue, hv⟩ := Option.bind_eq_some_iff.mp h
    have hdouble : m.double?.map Json.double ≠ some v := fun hdouble ↦ by
      obtain ⟨x, -, rfl⟩ := Option.map_eq_some_iff.mp hdouble
      cases hv
    rw [Json.Numeral.value?] at hvalue
    split at hvalue
    · exact absurd hvalue hdouble
    split at hvalue
    · split at hvalue
      · rename_i hpositive
        -- a negative integer is no natural number
        cases hvalue
        obtain ⟨k, hk⟩ := Nat.exists_eq_add_of_lt hpositive.1
        rw [hk, Nat.zero_add] at hv
        cases hv
      · exact absurd hvalue hdouble
    · split at hvalue
      · rename_i hfits
        cases hvalue
        cases hv
        exact Nat.lt_of_le_pred (by decide) hfits
      · exact absurd hvalue hdouble
  | _ => cases h

/-- A lifetime can be any number of 64 bits and no other. -/
theorem exists_grants_iff (secret : String) (n : Nat) :
    (∃ r, Grants r secret n) ↔ n < Nat.pow 2 64 := by
  constructor
  · rintro ⟨r, -, hbody⟩
    obtain ⟨t, -, hdecode⟩ := Option.bind_eq_some_iff.mp hbody
    rw [decode?] at hdecode
    obtain ⟨l, -, hdecode⟩ := Option.bind_eq_some_iff.mp hdecode
    obtain ⟨slots, -, hdecode⟩ := Option.bind_eq_some_iff.mp hdecode
    split at hdecode
    · simp only [Option.bind_eq_bind, Option.bind_eq_some_iff, Option.pure_def, Option.some.injEq,
        Prod.mk.injEq] at hdecode
      obtain ⟨_, -, _, -, _, -, seconds, hseconds, -, rfl⟩ := hdecode
      exact natural?_lt hseconds
    · cases hdecode
  · intro h
    let written := [("access_token", Json.textWriter.string secret),
      ("expires_in", Json.textWriter.natural n)]
    let read := [("access_token", Json.Tree.writer.string secret),
      ("expires_in", Json.Tree.writer.natural n)]
    have hmembers : Datum.MembersRelate Json.Spells written read :=
      .cons ⟨rfl, Json.relates_writer.string secret⟩
        (.cons ⟨rfl, Json.relates_writer.natural n⟩ .nil)
    have htext : Json.Tree.ofBytes? (Utf8.encode (Json.textWriter.object written).write) =
        some (Json.Tree.writer.object read) := by
      rw [Json.Tree.ofBytes?, Utf8.scan_encode]
      exact (Json.relates_writer.object hmembers).ofSymbols?
    have hlifetime : Datum.natural? (Json.Tree.writer.natural n) = some n :=
      Json.Tree.lawful_writer.natural? n h
    refine ⟨⟨200, [], _⟩, rfl, (congrArg (·.bind decode?) htext).trans ?_⟩
    show (Datum.natural? (Json.Tree.writer.natural n)).bind (fun m ↦ some (secret, m)) = _
    rw [hlifetime, Option.bind_some]

/-! ## The token of a response -/

/-- What a lifetime in seconds means for a token that came at a point in time. -/
structure Lasts (source : TokenSource) (scope : String) (now : Timestamp) (n : Nat)
    (token : AccessToken) : Prop where
  /-- The end is the sum of integers or the greatest point, whichever comes first. -/
  expiry : token.expiresAt.nanoseconds =
    min (now.nanoseconds + n * 1000000000) Timestamp.greatest.nanoseconds
  /-- A shorter lifetime would not end later. -/
  mono : ∀ {r : Response} {secret : String} {m : Nat} {other : AccessToken}, Grants r secret m →
    ofResponse r now = .ok other → m ≤ n → other.expiresAt.nanoseconds ≤ token.expiresAt.nanoseconds
  /-- Looking five minutes ahead does not lead out of the calendar by itself. -/
  ahead : ∀ {t : Timestamp}, (t.add AccessToken.margin).IsPoint →
    (Timespan.ofSeconds? 300).bind t.later? = some (t.add AccessToken.margin)
  /-- The token at hand is returned again exactly if its end is more than five minutes away. -/
  reused : ∀ (w : Watch) {t : Session}, t.token = some ⟨scope, token⟩ →
    now.nanoseconds ≤ t.now.nanoseconds → (t.now.add AccessToken.margin).IsPoint →
      (source.Reuses scope w t token ↔
        t.now.nanoseconds + 300 * 1000000000 < token.expiresAt.nanoseconds)
  /-- With a lifetime of five minutes or less it never is. -/
  brief : n ≤ 300 → ∀ (w : Watch) {t : Session}, t.token = some ⟨scope, token⟩ →
    now.nanoseconds ≤ t.now.nanoseconds → (t.now.add AccessToken.margin).IsPoint →
      ¬source.Reuses scope w t token
  /-- With a lifetime past the greatest point it is until five minutes before that point. -/
  endless : Timestamp.greatest.nanoseconds ≤ now.nanoseconds + n * 1000000000 →
    ∀ (w : Watch) {t : Session}, t.token = some ⟨scope, token⟩ →
      now.nanoseconds ≤ t.now.nanoseconds → (t.now.add AccessToken.margin).IsPoint →
        (source.Reuses scope w t token ↔
          t.now.nanoseconds + 300 * 1000000000 < Timestamp.greatest.nanoseconds)

theorem lasts_issued (hsource : source.credentials = .clientSecret tenantId clientId secret)
    {now : Timestamp} (hnow : now.IsPoint) (scope text : String) (n : Nat) :
    source.Lasts scope now n (.issued text now n) := by
  have hend : (AccessToken.issued text now n).expiresAt.nanoseconds =
      min (now.nanoseconds + n * 1000000000) Timestamp.greatest.nanoseconds := by
    show (AccessToken.expiry now n).nanoseconds = _
    rw [AccessToken.expiry_eq hnow]
    exact congrArg (fun length ↦ min (now.nanoseconds + length) _) (Int.natCast_mul n _)
  have hreused : ∀ (w : Watch) {t : Session}, t.token = some ⟨scope, .issued text now n⟩ →
      (source.Reuses scope w t (.issued text now n) ↔ t.now.nanoseconds + 300 * 1000000000 <
        (AccessToken.issued text now n).expiresAt.nanoseconds) := by
    intro w t htoken
    rw [reuses_iff hsource]
    exact ⟨fun h ↦ h.fresh, fun h ↦ ⟨htoken, h⟩⟩
  refine ⟨hend, ?_, AccessToken.later?_margin, fun w t htoken _ _ ↦ hreused w htoken,
    fun hn w t htoken hle _ ↦ ?_, fun hpast w t htoken _ _ ↦ ?_⟩
  · intro r secret m other hgrants hother hmn
    rw [ofResponse_of_grants hgrants] at hother
    cases hother
    exact AccessToken.expiry_mono hnow hmn
  · rw [hreused w htoken, hend]
    omega
  · rw [hreused w htoken, hend, Int.min_eq_right hpast]

/-- **A token is used until five minutes before its end**, and its end is where its lifetime says or
the last point in time.  A lifetime is any number of 64 bits; when the request for a token is
answered with one, the call has the token and keeps it, and `Lasts` says for how long. -/
theorem use_of_lifetime {clientSecret : String} {s₀ : Session} {w₀ : Watch} {r : Response} {n : Nat}
    (hsource : source.credentials = .clientSecret tenantId clientId clientSecret)
    (hnone : s₀.usable? scope = none)
    (hask : (source.ask tenantId clientId clientSecret scope w₀).outcome s₀ =
      (.ok (.response r), s))
    (hgrants : Grants r secret n) (hnow : s.now.IsPoint) :
    (∀ m, (∃ r', Grants r' secret m) ↔ m < Nat.pow 2 64) ∧
      ∃ token, (source.token scope w₀).outcome s₀ =
          (.ok token, { s with token := some ⟨scope, token⟩ }) ∧
        source.Lasts scope s.now n token := by
  refine ⟨exists_grants_iff secret, .issued secret s.now n, ?_, lasts_issued hsource hnow _ _ n⟩
  rw [outcome_token hsource, hnone]
  show (source.renew tenantId clientId clientSecret scope w₀).outcome s₀ = _
  rw [renew, Run.outcome_bind_ok hask, outcome_keep]
  simp only [ofDelivery, ofResponse_of_grants hgrants]

/-- The response with a token for the longest lifetime there is. -/
def longestResponse : Response :=
  ⟨200, [], Utf8.encode
    "\x7b\"access_token\":\"t\",\"expires_in\":18446744073709551615\x7d".toList⟩

/-- A session in which it comes at once. -/
def longestStart : Session := .start ⟨0⟩ [.after ⟨0⟩ (.response longestResponse)]

/-- The session when it has come. -/
def longestSession : Session :=
  longestStart.made
    ⟨longestStart.moment, sampleRequest, [], .answered ⟨0⟩ (.response longestResponse)⟩ ⟨0⟩

/-- The longest lifetime has no end of its own. -/
theorem use_of_longest_lifetime : ∃ token t,
    (sample.token "s" .none).outcome longestStart = (.ok token, t) ∧
      token.expiresAt = Timestamp.greatest ∧
      sample.Reuses "s" .none (t.advancedTo (.ofSeconds 8210266876499)) token ∧
      ¬sample.Reuses "s" .none (t.advancedTo ⟨8210266876499999999999⟩) token := by
  have hask : (sample.ask "t" "c" "k" "s" .none).outcome longestStart =
      (.ok (.response longestResponse), longestSession) := by
    rw [ask, request_sample]
    rfl
  have hgrants : Grants longestResponse "t" 18446744073709551615 := ⟨rfl, by decide +kernel⟩
  have hsource : sample.credentials = .clientSecret "t" "c" "k" := rfl
  obtain ⟨-, token, htoken, hlasts⟩ :=
    use_of_lifetime hsource rfl hask hgrants ⟨by decide, by decide⟩
  let t : Session := { longestSession with token := some ⟨"s", token⟩ }
  have hreuses : ∀ u : Timestamp, 0 ≤ u.nanoseconds → (u.add AccessToken.margin).IsPoint →
      (sample.Reuses "s" .none (t.advancedTo u) token ↔
        u.nanoseconds + 300 * 1000000000 < Timestamp.greatest.nanoseconds) :=
    fun u hle hpoint ↦ hlasts.endless (by decide) .none (t := t.advancedTo u) rfl hle hpoint
  refine ⟨token, t, htoken, congrArg Timestamp.mk hlasts.expiry, ?_, ?_⟩
  · exact (hreuses (.ofSeconds 8210266876499) (by decide) ⟨by decide, by decide⟩).mpr (by decide)
  · rw [hreuses ⟨8210266876499999999999⟩ (by decide) ⟨by decide, by decide⟩]
    decide

end TokenSource
end ResourceManager
