import Mathlib.Data.List.DropRight
import ResourceManager.Proofs.JsonText

/-!
# Written numbers are numerals

Integers and floating point numbers are written as JSON wants numerals: digits of which a zero is
the first only if it is the only one, perhaps digits behind a point, perhaps an exponent.

* `Json.Numeral.unsigned?_of_tail` puts a numeral together from its parts.
* `Json.Numeral.exists_ofChars?_writeInteger` and `Double.exists_ofChars?_text` say that the texts
  of numbers are numerals, whichever digits were found for them.
* `Json.Numeral.written`: the text of a numeral is read as one token.

The tree of a text keeps a number as its numeral, so which number the digits stand for does not
matter here, with one exception.  A leading zero is only allowed alone, and the digits that a writer
finds may only begin with one if the number is zero (`digits_ne_zero_of_onGrid?`, `Leads`).
-/

set_option autoImplicit false

namespace ResourceManager
namespace Json
namespace Numeral

/-! ## Numerals from their parts

The reader takes digits as far as they go and then looks at what is left.  So a part of a numeral
is only found where the rest does not go on with a digit, and `hrest` says so in each lemma.
-/

variable {digits whole rest s : List Char} {negative : Bool} {n : Numeral}

/-- The digits that are taken are those in front, if none follows. -/
theorem takeWhile_append (h : ∀ c ∈ digits, c.isDigit = true)
    (hrest : rest.takeWhile Char.isDigit = []) :
    (digits ++ rest).takeWhile Char.isDigit = digits := by
  rw [List.takeWhile_append_of_pos h, hrest, List.append_nil]

/-- What is left behind them is the rest. -/
theorem dropWhile_append (h : ∀ c ∈ digits, c.isDigit = true)
    (hrest : rest.takeWhile Char.isDigit = []) :
    (digits ++ rest).dropWhile Char.isDigit = rest := by
  have hsplit := List.takeWhile_append_dropWhile (p := Char.isDigit) (l := rest)
  rw [hrest, List.nil_append] at hsplit
  rw [List.dropWhile_append_of_pos h, hsplit]

/-- An exponent is written with its sign, also where it is not negative. -/
theorem exponent?_of_digits (negative : Bool) (hne : digits ≠ [])
    (h : ∀ c ∈ digits, c.isDigit = true) :
    exponent? ('e' :: (if negative then '-' else '+') :: digits) =
      some (some (negative, digits)) := by
  have hall : digits.all Char.isDigit = true := List.all_eq_true.mpr h
  cases negative with
  | true => simp [exponent?, hne, hall]
  | false => simp [exponent?, hne, hall]

/-- Digits behind a point, and what is found behind those. -/
theorem tail?_of_fraction {exponent : Option (Bool × List Char)} (hne : digits ≠ [])
    (h : ∀ c ∈ digits, c.isDigit = true) (hrest : rest.takeWhile Char.isDigit = [])
    (hexponent : exponent? rest = some exponent) :
    tail? ('.' :: (digits ++ rest)) = some (some digits, exponent) := by
  simp only [tail?, takeWhile_append h hrest, dropWhile_append h hrest, if_neg hne, hexponent,
    Option.map_some]

/-- Digits behind a point, and nothing more. -/
theorem tail?_of_digits (hne : digits ≠ []) (h : ∀ c ∈ digits, c.isDigit = true) :
    tail? ('.' :: digits) = some (some digits, none) := by
  have hfraction : tail? ('.' :: (digits ++ [])) = some (some digits, none) :=
    tail?_of_fraction hne h rfl rfl
  rwa [List.append_nil] at hfraction

/-- An exponent without digits in front of it: the mark is not a point. -/
theorem tail?_of_exponent {exponent : Option (Bool × List Char)}
    (h : exponent? ('e' :: s) = some exponent) : tail? ('e' :: s) = some (none, exponent) := by
  rw [tail?.eq_def]
  exact congrArg (Option.map (none, ·)) h

/-- **A numeral is put together from its parts.**  `hzero` is the rule on leading zeros. -/
theorem unsigned?_of_tail (negative : Bool) (whole : List Char)
    {tail : Option (List Char) × Option (Bool × List Char)} (hne : whole ≠ [])
    (h : ∀ c ∈ whole, c.isDigit = true)
    (hzero : whole.head? = some '0' → whole.length = 1)
    (hrest : rest.takeWhile Char.isDigit = []) (htail : tail? rest = some tail) :
    unsigned? negative (whole ++ rest) = some ⟨negative, whole, tail.1, tail.2⟩ := by
  have hleading : ¬ (whole = [] ∨ (whole.head? = some '0' ∧ whole.length ≠ 1)) := by
    rintro (hnil | ⟨hhead, hlength⟩)
    · exact hne hnil
    · exact hlength (hzero hhead)
  simp only [unsigned?, takeWhile_append h hrest, dropWhile_append h hrest, if_neg hleading, htail,
    Option.map_some]

/-! ## What a numeral is made of

A lexer reads a numeral as long as the characters may belong to one.  So every character of a
numeral has to be such a part, and the first one has to be told from the beginning of other tokens.
-/

/-- A numeral without a sign begins with a digit. -/
theorem head_of_unsigned? (h : unsigned? negative s = some n) :
    ∃ c rest, s = c :: rest ∧ c.isDigit = true := by
  cases s with
  | nil => cases h
  | cons c rest =>
    refine ⟨c, rest, rfl, ?_⟩
    by_cases hc : c.isDigit = true
    · exact hc
    · have hnone : (c :: rest).takeWhile Char.isDigit = [] := List.takeWhile_cons_of_neg hc
      simp only [unsigned?, hnone, true_or, if_true] at h
      cases h

/-- Without a sign, the whole text is the numeral: it does not begin with a minus. -/
theorem ofChars?_of_unsigned? (h : unsigned? false s = some n) : ofChars? s = some n := by
  obtain ⟨c, rest, rfl, hc⟩ := head_of_unsigned? h
  rw [ofChars?.eq_def]
  split
  · rename_i hs
    rw [(List.cons.inj hs).1] at hc
    cases hc
  · exact h

/-- A part in front of parts. -/
theorem isPart_of_cons {c : Char} (hc : isPart c = true) (h : ∀ d ∈ s, isPart d = true) :
    ∀ d ∈ c :: s, isPart d = true := by
  intro d hd
  rcases List.mem_cons.mp hd with rfl | hd
  · exact hc
  · exact h d hd

/-- An exponent is its mark, a sign and digits, and all of these are parts. -/
theorem isPart_of_exponent? {e : Option (Bool × List Char)} (h : exponent? s = some e) :
    ∀ c ∈ s, isPart c = true := by
  rw [exponent?.eq_def] at h
  split at h
  · exact fun c hc ↦ absurd hc List.not_mem_nil
  · rename_i c rest
    split at h
    · rename_i hc
      have hfirst : isPart c = true := by
        rcases hc with rfl | rfl
        · rfl
        · rfl
      refine isPart_of_cons hfirst ?_
      split at h
      rename_i negative digits hsign
      split at h
      · rename_i hdigits
        have hparts : ∀ d ∈ digits, isPart d = true :=
          fun d hd ↦ isPart_of_isDigit (List.all_eq_true.mp hdigits.2 d hd)
        split at hsign
        · cases hsign
          exact isPart_of_cons rfl hparts
        · cases hsign
          exact isPart_of_cons rfl hparts
        · cases hsign
          exact hparts
      · cases h
    · cases h

/-- Digits are parts, so only what stands behind the first ones has to be looked at. -/
theorem isPart_of_takeWhile (h : ∀ c ∈ s.dropWhile Char.isDigit, isPart c = true) :
    ∀ c ∈ s, isPart c = true := by
  intro c hc
  rw [← List.takeWhile_append_dropWhile (p := Char.isDigit) (l := s)] at hc
  rcases List.mem_append.mp hc with hc | hc
  · exact isPart_of_isDigit (List.mem_takeWhile_imp hc)
  · exact h c hc

/-- The point is a part, like the digits and the exponent behind it. -/
theorem isPart_of_tail? {t : Option (List Char) × Option (Bool × List Char)}
    (h : tail? s = some t) : ∀ c ∈ s, isPart c = true := by
  rw [tail?.eq_def] at h
  split at h
  · rename_i rest
    simp only at h
    split at h
    · cases h
    · obtain ⟨e, he, -⟩ := Option.map_eq_some_iff.mp h
      exact isPart_of_cons rfl (isPart_of_takeWhile (isPart_of_exponent? he))
  · obtain ⟨e, he, -⟩ := Option.map_eq_some_iff.mp h
    exact isPart_of_exponent? he

/-- A numeral without a sign is made of parts. -/
theorem isPart_of_unsigned? (h : unsigned? negative s = some n) : ∀ c ∈ s, isPart c = true := by
  rw [unsigned?.eq_def] at h
  simp only at h
  split at h
  · cases h
  · obtain ⟨t, ht, -⟩ := Option.map_eq_some_iff.mp h
    exact isPart_of_takeWhile (isPart_of_tail? ht)

/-- A numeral begins with a sign or a digit, and parts of numerals are all that follows. -/
theorem parts_of_ofChars? (h : ofChars? s = some n) :
    ∃ c rest, s = c :: rest ∧ (c = '-' ∨ c.isDigit = true) ∧ ∀ d ∈ rest, isPart d = true := by
  rw [ofChars?.eq_def] at h
  split at h
  · exact ⟨_, _, rfl, .inl rfl, isPart_of_unsigned? h⟩
  · obtain ⟨c, rest, rfl, hc⟩ := head_of_unsigned? h
    exact ⟨c, rest, rfl, .inr hc, fun d hd ↦ isPart_of_unsigned? h d (List.mem_cons_of_mem _ hd)⟩

/-- The text of a numeral is read as one token. -/
theorem written (h : ofChars? s = some n) : Token.Written s [.number n] := by
  obtain ⟨c, rest, rfl, hc, hparts⟩ := parts_of_ofChars? h
  exact .parts hc hparts h

/-! ## Integers -/

/-- Only zero is written with a zero in front. -/
theorem head_toDigits {m : Nat} (h : (Nat.toDigits 10 m).head? = some '0') : m = 0 := by
  have hdigits := Toml.Statement.toDigits_of_head? h
  have hvalue : Nat.ofDigitChars 10 (Nat.toDigits 10 m) 0 = m :=
    Nat.ofDigitChars_toDigits (by decide) (by decide)
  rw [← hvalue, hdigits]
  rfl

/-- The digits of a natural number are a numeral. -/
theorem unsigned?_toDigits (negative : Bool) (m : Nat) :
    unsigned? negative (Nat.toDigits 10 m) = some ⟨negative, Nat.toDigits 10 m, none, none⟩ := by
  have hzero : (Nat.toDigits 10 m).head? = some '0' → (Nat.toDigits 10 m).length = 1 := by
    intro h
    rw [head_toDigits h]
    rfl
  have hparts : unsigned? negative (Nat.toDigits 10 m ++ []) = _ :=
    unsigned?_of_tail negative _ Nat.toDigits_ne_nil isDigit_of_mem hzero rfl rfl
  rwa [List.append_nil] at hparts

/-- The text of an integer is a numeral. -/
theorem exists_ofChars?_writeInteger (m : Int) : ∃ n, ofChars? (writeInteger m) = some n := by
  cases m with
  | ofNat m => exact ⟨_, ofChars?_of_unsigned? (unsigned?_toDigits false m)⟩
  | negSucc m => exact ⟨_, unsigned?_toDigits true (m + 1)⟩

end Numeral
end Json

/-! ## Floating point numbers

A number is written out in full or with an exponent, by the size of the exponent of its first digit.
Both forms are numerals if the digits do not begin with a zero.  The digits come from the search for
the shortest decimal that reads back, and their trailing zeros are dropped.
-/

namespace Double

open Json (Numeral)

/-- Significant digits with the exponent of the first one; where there are none, it is zero. -/
structure Leads (digits : List Char) (exponent : Int) : Prop where
  isDigit : ∀ c ∈ digits, c.isDigit = true
  head : digits.head? ≠ some '0'
  nil : digits = [] → exponent = 0

variable {digits : List Char} {exponent : Int}

/-- The zeros that fill up a number are digits. -/
theorem isDigit_of_mem_replicate {n : Nat} : ∀ c ∈ List.replicate n '0', c.isDigit = true := by
  intro c hc
  rw [List.eq_of_mem_replicate hc]
  rfl

/-- A text begins as its beginning does. -/
theorem head_of_prefix {α : Type} {s t : List α} {a : α} (h : s <+: t) (hs : s.head? = some a) :
    t.head? = some a := by
  obtain ⟨rest, rfl⟩ := h
  cases s with
  | nil => cases hs
  | cons b s => exact hs

/-- A number that is written out in full is a numeral.  Where the exponent is negative the number
begins with a zero, a point and perhaps more zeros; otherwise the point stands among the digits, or
behind them and as many zeros as are missing. -/
theorem unsigned?_positional (h : Leads digits exponent) (negative : Bool) :
    ∃ n, Numeral.unsigned? negative (positional digits exponent) = some n := by
  rw [positional]
  split
  · -- all digits stand behind the point
    rename_i hnegative
    have hne : digits ≠ [] := by
      intro hnil
      rw [h.nil hnil] at hnegative
      exact absurd hnegative (by decide)
    have hdigits : ∀ c ∈ List.replicate (-exponent - 1).toNat '0' ++ digits, c.isDigit = true := by
      intro c hc
      rcases List.mem_append.mp hc with hc | hc
      · exact isDigit_of_mem_replicate c hc
      · exact h.isDigit c hc
    have htail := Numeral.tail?_of_digits (List.append_ne_nil_of_right_ne_nil _ hne) hdigits
    refine ⟨_, Numeral.unsigned?_of_tail negative ['0'] (List.cons_ne_nil _ _) ?_ (fun _ ↦ rfl)
      rfl htail⟩
    intro c hc
    rw [List.mem_singleton.mp hc]
    rfl
  · -- as many digits stand in front of the point as the exponent says, zeros where they are missing
    rename_i hpositive
    have hwhole : ∀ c ∈ digits.take (exponent.toNat + 1) ++
        List.replicate (exponent.toNat + 1 - digits.length) '0', c.isDigit = true := by
      intro c hc
      rcases List.mem_append.mp hc with hc | hc
      · exact h.isDigit c (List.mem_of_mem_take hc)
      · exact isDigit_of_mem_replicate c hc
    have hfraction : ∀ c ∈ if (digits.drop (exponent.toNat + 1)).isEmpty then ['0']
        else digits.drop (exponent.toNat + 1), c.isDigit = true := by
      intro c hc
      split at hc
      · rw [List.mem_singleton.mp hc]
        rfl
      · exact h.isDigit c (List.mem_of_mem_drop hc)
    have hfractionNe : (if (digits.drop (exponent.toNat + 1)).isEmpty then ['0']
        else digits.drop (exponent.toNat + 1)) ≠ [] := by
      split
      · exact List.cons_ne_nil _ _
      · rename_i hempty
        exact fun hnil ↦ hempty (List.isEmpty_iff.mpr hnil)
    have htail := Numeral.tail?_of_digits hfractionNe hfraction
    have hlength : (digits.take (exponent.toNat + 1) ++
        List.replicate (exponent.toNat + 1 - digits.length) '0').length = exponent.toNat + 1 := by
      rw [List.length_append, List.length_take, List.length_replicate]
      omega
    refine ⟨_, Numeral.unsigned?_of_tail negative _ ?_ hwhole (fun hzero ↦ ?_) rfl htail⟩
    · rw [← List.length_pos_iff, hlength]
      exact Nat.succ_pos _
    · -- only where there are no digits does a zero come first, and then it is the only one
      cases digits with
      | nil => rw [h.nil rfl]; rfl
      | cons c digits => exact absurd hzero h.head

/-- A number that is written with an exponent is a numeral: one digit in front of the point, and a
point only if more digits follow. -/
theorem unsigned?_exponential (h : Leads digits exponent) (hne : digits ≠ []) (negative : Bool) :
    ∃ n, Numeral.unsigned? negative (exponential digits exponent) = some n := by
  obtain ⟨c, rest, rfl⟩ := List.exists_cons_of_ne_nil hne
  have hpower : ∀ d ∈ Nat.toDigits 10 exponent.natAbs, d.isDigit = true := Numeral.isDigit_of_mem
  generalize hpadded : (if (Nat.toDigits 10 exponent.natAbs).length < 2 then
    '0' :: Nat.toDigits 10 exponent.natAbs else Nat.toDigits 10 exponent.natAbs) = padded
  have hdigits : ∀ d ∈ padded, d.isDigit = true := by
    intro d hd
    rw [← hpadded] at hd
    split at hd
    · rcases List.mem_cons.mp hd with rfl | hd
      · rfl
      · exact hpower d hd
    · exact hpower d hd
  have hpaddedNe : padded ≠ [] := by
    rw [← hpadded]
    split
    · exact List.cons_ne_nil _ _
    · exact Nat.toDigits_ne_nil
  have hexponent := Numeral.exponent?_of_digits (decide (exponent < 0)) hpaddedNe hdigits
  rw [exponential, hpadded]
  simp only [decide_eq_true_eq] at hexponent
  have hfirst : ∀ d ∈ [c], d.isDigit = true :=
    fun d hd ↦ h.isDigit d (List.mem_singleton.mp hd ▸ List.mem_cons_self)
  have hrest : ∀ d ∈ rest, d.isDigit = true := fun d hd ↦ h.isDigit d (List.mem_cons_of_mem _ hd)
  cases rest with
  | nil =>
    exact ⟨_, Numeral.unsigned?_of_tail negative [c] (List.cons_ne_nil _ _) hfirst (fun _ ↦ rfl)
      rfl (Numeral.tail?_of_exponent hexponent)⟩
  | cons d rest =>
    have htail := Numeral.tail?_of_fraction (List.cons_ne_nil _ _) hrest rfl hexponent
    exact ⟨_, Numeral.unsigned?_of_tail negative [c] (List.cons_ne_nil _ _) hfirst (fun _ ↦ rfl)
      rfl htail⟩

/-- The digits of a decimal without their trailing zeros do not begin with a zero; there may be
none, if the decimal is zero. -/
theorem leads_scientific {d : Decimal} (h : d.digits = 0 → d.exponent = 0) :
    Leads (scientific d).1 (scientific d).2 := by
  have hdigits : (scientific d).1 = (Nat.toDigits 10 d.digits).rdropWhile (· == '0') := rfl
  have hprefix : (scientific d).1 <+: Nat.toDigits 10 d.digits := List.rdropWhile_prefix _ _
  have hzero : d.digits = 0 → (scientific d).1 = [] ∧ (scientific d).2 = 0 := by
    intro hzero
    rw [scientific, hzero, h hzero]
    exact ⟨rfl, rfl⟩
  have hsubset := List.IsPrefix.subset hprefix
  refine ⟨fun c hc ↦ Numeral.isDigit_of_mem c (hsubset hc), fun hhead ↦ ?_, fun hnil ↦ ?_⟩
  · -- the first digit stands in front of the digits that are dropped
    have hfirst := head_of_prefix hprefix hhead
    rw [(hzero (Numeral.head_toDigits hfirst)).1] at hhead
    cases hhead
  · rw [hdigits, List.rdropWhile_eq_nil_iff] at hnil
    obtain ⟨c, rest, hcons⟩ := List.exists_cons_of_ne_nil (Nat.toDigits_ne_nil (n := d.digits))
    have hfirst : (Nat.toDigits 10 d.digits).head? = some '0' := by
      rw [hcons] at hnil ⊢
      exact congrArg some (beq_iff_eq.mp (hnil c List.mem_cons_self))
    exact (hzero (Numeral.head_toDigits hfirst)).2

/-- The digits that are found for a number are not all zero: zero does not read back as it. -/
theorem digits_ne_zero_of_onGrid? {x : Double} {k : Int} {d : Decimal} (hx : x.significand ≠ 0)
    (h : x.onGrid? k = some d) : d.digits ≠ 0 := by
  have hlow : 0 < x.interval.low := by
    rw [interval]
    simp only
    split <;> omega
  rw [onGrid?] at h
  simp only at h
  generalize Nat.pow 10 k.toNat * Nat.pow 2 (-(x.exponent - 2)).toNat = a at h
  generalize hb : Nat.pow 10 (-k).toNat * Nat.pow 2 (x.exponent - 2).toNat = b at h
  have hproduct : 0 < x.interval.low * b :=
    hb ▸ Nat.mul_pos hlow (Nat.mul_pos (Nat.pow_pos (by decide)) (Nat.pow_pos (by decide)))
  generalize x.interval.value * b / a = below at h
  cases below with
  | zero =>
    -- the grid point above it is the only one that may read back
    have hzero : (if x.interval.closed = true then
        decide (x.interval.low * b ≤ 0 * a) && decide (0 * a ≤ x.interval.high * b)
      else decide (x.interval.low * b < 0 * a) && decide (0 * a < x.interval.high * b)) =
        false := by
      rw [Nat.zero_mul, decide_eq_false (Nat.not_le.mpr hproduct),
        decide_eq_false (Nat.not_lt_zero _), Bool.false_and, Bool.false_and, ite_self]
    rw [hzero] at h
    split at h
    · rename_i hreads _
      cases hreads
    · rename_i hreads _
      cases hreads
    · cases h
      exact Nat.succ_ne_zero _
    · cases h
  | succ n =>
    split at h
    · cases h
      show (if _ then _ else _) ≠ 0
      split
      · exact Nat.succ_ne_zero _
      · exact Nat.succ_ne_zero _
    · cases h
      exact Nat.succ_ne_zero _
    · cases h
      exact Nat.succ_ne_zero _
    · cases h

/-- The decimal that is found has no digits only for zero, and then its exponent is zero too. -/
theorem shortest_digits {x : Double} (hx : x.significand ≠ 0) (h : x.shortest.digits = 0) :
    x.shortest.exponent = 0 := by
  rw [shortest] at h ⊢
  cases hfound : (List.range 17).findSome? fun n : Nat ↦
      x.onGrid? (leadingExponent x.significand x.exponent - n) with
  | none => rfl
  | some d =>
    rw [hfound] at h
    obtain ⟨n, -, hgrid⟩ := List.exists_of_findSome?_eq_some hfound
    exact absurd h (digits_ne_zero_of_onGrid? hx hgrid)

/-- The text of a floating point number is a numeral. -/
theorem exists_ofChars?_text (x : Double) : ∃ n, Numeral.ofChars? x.text = some n := by
  have hsigned : ∀ {s : List Char}, (∀ negative, ∃ n, Numeral.unsigned? negative s = some n) →
      ∃ n, Numeral.ofChars? ((if x.negative then ['-'] else []) ++ s) = some n := by
    intro s hs
    cases x.negative with
    | true => exact hs true
    | false =>
      obtain ⟨n, hn⟩ := hs false
      exact ⟨n, Numeral.ofChars?_of_unsigned? hn⟩
  rw [text]
  simp only
  split
  · exact hsigned fun negative ↦ ⟨_, rfl⟩
  · rename_i hx
    have hleads := leads_scientific (shortest_digits hx)
    refine hsigned fun negative ↦ ?_
    split
    · exact unsigned?_positional hleads negative
    · rename_i hexponential
      refine unsigned?_exponential hleads (fun hnil ↦ hexponential ?_) negative
      rw [hleads.nil hnil]
      rfl

end Double
end ResourceManager
