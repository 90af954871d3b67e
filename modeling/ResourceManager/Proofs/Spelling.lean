import ResourceManager.Text.Percent

/-!
# Spellings of segments

A text may be written with any of its characters escaped: `Percent.Spells s t` says that `t` is the
text `s` written so.  `Percent.spells_iff` says that decoding finds the text of every spelling, and
that nothing else is decoded, so that a segment stands for the text it spells, or for itself where
it spells none (`Percent.decodeSegment_eq_iff`).

That nothing else is decoded rests on `Utf8.decode?_eq_some`: bytes are decoded as the characters
they encode, and as no others.

The two directions are of different difficulty.  From a spelling to its text is an induction on the
spelling.  From a text that was decoded to a spelling, the characters have to be found again in the
bytes: escapes are of bytes, and a character of several bytes may not be escaped in part.  What
helps is that the bytes behind the first one of a character are never those of another one
(`Utf8.Continues`), so where the first byte is an escape the others are too.
-/

set_option autoImplicit false

namespace ResourceManager

/-! ## Decoded bytes

The decoder looks at one byte at a time and remembers the character it is in.  A stretch of bytes
that belongs to no character is read as none, so bytes are decoded where there is no such stretch.
-/

namespace Utf8

/-- Bytes are decoded as a text if every place of it is a character. -/
theorem decode?_eq_some_iff {bytes : Bytes} {s : List Char} :
    decode? bytes = some s ↔ scan bytes = s.map some := by
  rw [decode?]
  generalize scan bytes = symbols
  induction symbols generalizing s with
  | nil => cases s <;> simp
  | cons symbol symbols ih =>
    cases symbol with
    | none => cases s <;> simp
    | some c =>
      rw [List.mapM_cons]
      cases s with
      | nil => simp [Option.bind_eq_some_iff]
      | cons d s =>
        simp only [← ih, Option.bind_eq_bind, Option.bind_eq_some_iff, Option.pure_def, id,
          Option.some.injEq, List.map_cons, List.cons.injEq]
        constructor
        · rintro ⟨_, rfl, _, hs, rfl, rfl⟩
          exact ⟨rfl, hs⟩
        · rintro ⟨rfl, hs⟩
          exact ⟨_, rfl, _, hs, rfl, rfl⟩

/-- An unfinished character is continued by a byte within its bounds. -/
theorem exists_of_scanFrom_some {u : Unfinished} {bytes : Bytes} {s : List Char}
    (h : scanFrom (some u) bytes = s.map some) :
    ∃ b rest, bytes = b :: rest ∧ (u.low ≤ b.toNat ∧ b.toNat ≤ u.high) ∧
      (match u.following with
        | 0 => some (Char.ofNat (64 * u.value + (b.toNat - 0x80))) :: scanFrom none rest
        | n + 1 => scanFrom (some ⟨64 * u.value + (b.toNat - 0x80), 0x80, 0xBF, n⟩) rest) =
          s.map some := by
  have hgap : ∀ symbols : List (Option Char), none :: symbols ≠ s.map some := by
    intro symbols heq
    cases s <;> cases heq
  cases bytes with
  | nil => exact absurd h (hgap [])
  | cons b rest =>
    rw [scanFrom] at h
    cases haccepts : u.accepts b.toNat with
    | true =>
      rw [Option.filter_some, if_pos haccepts] at h
      rw [Unfinished.accepts, Bool.and_eq_true, decide_eq_true_eq, decide_eq_true_eq] at haccepts
      exact ⟨b, rest, rfl, haccepts, h⟩
    | false =>
      rw [Option.filter_some, if_neg (by rw [haccepts]; exact Bool.false_ne_true)] at h
      exfalso
      revert h
      cases opening b.toNat <;> exact hgap _

/-- The number of a character made of a valid number. -/
theorem toNat_ofNat_of_valid {n : Nat} (h : n < 0xD800 ∨ 0xDFFF < n ∧ n < 0x110000) :
    (Char.ofNat n).toNat = n := by
  have hvalid : n.isValidChar := h
  rw [Char.ofNat, dif_pos hvalid]
  rfl

/-- A byte made of its number. -/
theorem ofNat_eq {n : Nat} {b : UInt8} (h : n = b.toNat) : UInt8.ofNat n = b := by
  rw [h, UInt8.ofNat_toNat]

/-- What a byte may be at the start of a character. -/
theorem opening_cases (b : UInt8) :
    (b.toNat < 0x80 ∧ opening b.toNat = .complete (Char.ofNat b.toNat)) ∨
      opening b.toNat = .stray ∨
      ((0xC2 ≤ b.toNat ∧ b.toNat < 0xE0) ∧
        opening b.toNat = .unfinished ⟨b.toNat - 0xC0, 0x80, 0xBF, 0⟩) ∨
      (∃ low high, (0xE0 ≤ b.toNat ∧ b.toNat < 0xF0) ∧ (b.toNat = 0xE0 → low = 0xA0) ∧
        (b.toNat = 0xED → high = 0x9F) ∧ (0x80 ≤ low ∧ high ≤ 0xBF) ∧
        opening b.toNat = .unfinished ⟨b.toNat - 0xE0, low, high, 1⟩) ∨
      ∃ low high, (0xF0 ≤ b.toNat ∧ b.toNat < 0xF5) ∧ (b.toNat = 0xF0 → low = 0x90) ∧
        (b.toNat = 0xF4 → high = 0x8F) ∧ (0x80 ≤ low ∧ high ≤ 0xBF) ∧
        opening b.toNat = .unfinished ⟨b.toNat - 0xF0, low, high, 2⟩ := by
  rw [opening]
  split
  · rename_i hone
    exact .inl ⟨hone, rfl⟩
  split
  · exact .inr (.inl rfl)
  split
  · rename_i htwo
    exact .inr (.inr (.inl ⟨⟨by omega, htwo⟩, rfl⟩))
  split
  · rename_i hthree
    refine .inr (.inr (.inr (.inl ⟨_, _, ⟨by omega, hthree⟩, fun h ↦ if_pos h, fun h ↦ if_pos h,
      ⟨?_, ?_⟩, rfl⟩)))
    · split <;> omega
    · split <;> omega
  split
  · rename_i hfour
    refine .inr (.inr (.inr (.inr ⟨_, _, ⟨by omega, hfour⟩, fun h ↦ if_pos h, fun h ↦ if_pos h,
      ⟨?_, ?_⟩, rfl⟩)))
    · split <;> omega
    · split <;> omega
  · exact .inr (.inl rfl)

section Bytes

variable {a b c d : UInt8}

/-- The character that one byte stands for is encoded as this byte. -/
theorem encodeChar_one (ha : a.toNat < 0x80) : encodeChar (Char.ofNat a.toNat) = [a] := by
  rw [encodeChar, toNat_ofNat_of_valid (by omega), if_pos ha, ofNat_eq rfl]

/-- The character that two bytes stand for is encoded as these. -/
theorem encodeChar_two (ha : 0xC2 ≤ a.toNat ∧ a.toNat < 0xE0)
    (hb : 0x80 ≤ b.toNat ∧ b.toNat ≤ 0xBF) :
    encodeChar (Char.ofNat (64 * (a.toNat - 0xC0) + (b.toNat - 0x80))) = [a, b] := by
  rw [encodeChar, toNat_ofNat_of_valid (by omega), if_neg (by omega), if_pos (by omega),
    ofNat_eq (b := a) (by omega), ofNat_eq (b := b) (by omega)]

/-- The same for three bytes.  The bounds on the second one exclude characters that are encoded in
two, and the surrogates. -/
theorem encodeChar_three (ha : 0xE0 ≤ a.toNat ∧ a.toNat < 0xF0)
    (hb : 0x80 ≤ b.toNat ∧ b.toNat ≤ 0xBF) (hlow : a.toNat = 0xE0 → 0xA0 ≤ b.toNat)
    (hhigh : a.toNat = 0xED → b.toNat ≤ 0x9F) (hc : 0x80 ≤ c.toNat ∧ c.toNat ≤ 0xBF) :
    encodeChar (Char.ofNat (64 * (64 * (a.toNat - 0xE0) + (b.toNat - 0x80)) + (c.toNat - 0x80))) =
      [a, b, c] := by
  rw [encodeChar, toNat_ofNat_of_valid (by omega), if_neg (by omega), if_neg (by omega),
    if_pos (by omega), ofNat_eq (b := a) (by omega), ofNat_eq (b := b) (by omega),
    ofNat_eq (b := c) (by omega)]

/-- The same for four bytes.  Here the bounds exclude characters that are encoded in three, and
numbers past the last character. -/
theorem encodeChar_four (ha : 0xF0 ≤ a.toNat ∧ a.toNat < 0xF5)
    (hb : 0x80 ≤ b.toNat ∧ b.toNat ≤ 0xBF) (hlow : a.toNat = 0xF0 → 0x90 ≤ b.toNat)
    (hhigh : a.toNat = 0xF4 → b.toNat ≤ 0x8F) (hc : 0x80 ≤ c.toNat ∧ c.toNat ≤ 0xBF)
    (hd : 0x80 ≤ d.toNat ∧ d.toNat ≤ 0xBF) :
    encodeChar (Char.ofNat (64 * (64 * (64 * (a.toNat - 0xF0) + (b.toNat - 0x80)) +
      (c.toNat - 0x80)) + (d.toNat - 0x80))) = [a, b, c, d] := by
  rw [encodeChar, toNat_ofNat_of_valid (by omega), if_neg (by omega), if_neg (by omega),
    if_neg (by omega), ofNat_eq (b := a) (by omega), ofNat_eq (b := b) (by omega),
    ofNat_eq (b := c) (by omega), ofNat_eq (b := d) (by omega)]

end Bytes

/-- What is decoded begins with the bytes of a character. -/
theorem exists_of_scanFrom_none {b : UInt8} {bytes : Bytes} {s : List Char}
    (h : scanFrom none (b :: bytes) = s.map some) :
    ∃ c t rest, s = c :: t ∧ b :: bytes = encodeChar c ++ rest ∧
      scanFrom none rest = t.map some := by
  -- the last byte of a character gives the character
  have hlast : ∀ {c : Char} {rest : Bytes}, some c :: scanFrom none rest = s.map some →
      ∃ t, s = c :: t ∧ scanFrom none rest = t.map some := by
    intro c rest heq
    obtain ⟨d, t, rfl, hd, ht⟩ := List.map_eq_cons_iff.mp heq.symm
    cases hd
    exact ⟨t, rfl, ht.symm⟩
  rw [scanFrom, Option.filter_none] at h
  rcases opening_cases b with ⟨hb, ho⟩ | ho | ⟨hb, ho⟩ | ⟨low, high, hb, hlow, hhigh, hbounds, ho⟩ |
    ⟨low, high, hb, hlow, hhigh, hbounds, ho⟩
  · simp only [ho] at h
    obtain ⟨t, hs, ht⟩ := hlast h
    exact ⟨_, t, bytes, hs, by rw [encodeChar_one hb]; rfl, ht⟩
  · simp only [ho] at h
    cases s <;> cases h
  · simp only [ho] at h
    obtain ⟨b₁, rest, rfl, hb₁, h⟩ := exists_of_scanFrom_some h
    obtain ⟨t, hs, ht⟩ := hlast h
    exact ⟨_, t, rest, hs, by rw [encodeChar_two hb hb₁]; rfl, ht⟩
  · simp only [ho] at h
    obtain ⟨b₁, _, rfl, hb₁, h⟩ := exists_of_scanFrom_some h
    obtain ⟨b₂, rest, rfl, hb₂, h⟩ := exists_of_scanFrom_some h
    obtain ⟨t, hs, ht⟩ := hlast h
    simp only at hb₁
    have hchar := encodeChar_three (b := b₁) hb ⟨by omega, by omega⟩ (by omega) (by omega) hb₂
    exact ⟨_, t, rest, hs, by rw [hchar]; rfl, ht⟩
  · simp only [ho] at h
    obtain ⟨b₁, _, rfl, hb₁, h⟩ := exists_of_scanFrom_some h
    obtain ⟨b₂, _, rfl, hb₂, h⟩ := exists_of_scanFrom_some h
    obtain ⟨b₃, rest, rfl, hb₃, h⟩ := exists_of_scanFrom_some h
    obtain ⟨t, hs, ht⟩ := hlast h
    simp only at hb₁
    have hchar := encodeChar_four (b := b₁) hb ⟨by omega, by omega⟩ (by omega) (by omega) hb₂ hb₃
    exact ⟨_, t, rest, hs, by rw [hchar]; rfl, ht⟩

/-- Only the bytes of characters are decoded. -/
theorem eq_encode_of_scanFrom {s : List Char} : ∀ {bytes : Bytes},
    scanFrom none bytes = s.map some → bytes = encode s := by
  induction s with
  | nil =>
    intro bytes h
    cases bytes with
    | nil => rfl
    | cons b bytes =>
      obtain ⟨_, _, _, hs, -, -⟩ := exists_of_scanFrom_none h
      cases hs
  | cons c s ih =>
    intro bytes h
    cases bytes with
    | nil => cases h
    | cons b bytes =>
      obtain ⟨_, _, rest, hs, hbytes, hrest⟩ := exists_of_scanFrom_none h
      cases hs
      rw [hbytes, ih hrest, encode_cons]

/-- **Bytes are decoded as the characters that they encode, and only these.** -/
theorem decode?_eq_some {bytes : Bytes} {s : List Char} :
    decode? bytes = some s ↔ bytes = encode s := by
  refine ⟨fun h ↦ eq_encode_of_scanFrom (decode?_eq_some_iff.mp h), ?_⟩
  rintro rfl
  exact decode?_encode s

/-- Whether a byte continues a character. -/
def Continues (b : UInt8) : Prop := 0x80 ≤ b.toNat ∧ b.toNat < 0xC0

/-- Of the bytes of a character all but the first continue it. -/
theorem continues_iff_of_encodeChar {c : Char} {b : UInt8} {rest : Bytes}
    (h : encodeChar c = b :: rest) : ¬ Continues b ∧ ∀ b' ∈ rest, Continues b' := by
  have hvalid : c.toNat < 0xD800 ∨ 0xDFFF < c.toNat ∧ c.toNat < 0x110000 := c.valid
  have hnot : ∀ n, n < 0x80 ∨ 0xC0 ≤ n → n < 256 → ¬ Continues (UInt8.ofNat n) := by
    intro n hn hlt hc
    rw [Continues, toNat_ofNat_of_lt hlt] at hc
    omega
  have hcontinues : ∀ n, n < 64 → Continues (UInt8.ofNat (0x80 + n)) := by
    intro n hn
    rw [Continues, toNat_ofNat_of_lt (by omega)]
    omega
  rw [encodeChar] at h
  split at h
  · cases h
    exact ⟨hnot _ (by omega) (by omega), fun _ hb' ↦ absurd hb' List.not_mem_nil⟩
  split at h
  · cases h
    refine ⟨hnot _ (by omega) (by omega), fun b' hb' ↦ ?_⟩
    rw [List.mem_singleton.mp hb']
    exact hcontinues _ (by omega)
  split at h
  · cases h
    refine ⟨hnot _ (by omega) (by omega), fun b' hb' ↦ ?_⟩
    simp only [List.mem_cons, List.not_mem_nil, or_false] at hb'
    rcases hb' with rfl | rfl <;> exact hcontinues _ (by omega)
  · cases h
    refine ⟨hnot _ (by omega) (by omega), fun b' hb' ↦ ?_⟩
    simp only [List.mem_cons, List.not_mem_nil, or_false] at hb'
    rcases hb' with rfl | rfl | rfl <;> exact hcontinues _ (by omega)

/-- The first character of a text is told by its bytes. -/
theorem encodeChar_append_inj {c d : Char} {bytes bytes' : Bytes}
    (h : encodeChar c ++ bytes = encodeChar d ++ bytes') : c = d ∧ bytes = bytes' := by
  have hscan := congrArg (scanFrom none) h
  rw [scanFrom_encodeChar, scanFrom_encodeChar, List.cons.injEq, Option.some_inj] at hscan
  obtain ⟨rfl, -⟩ := hscan
  exact ⟨rfl, List.append_cancel_left h⟩

end Utf8

/-! ## Spellings -/

namespace Percent

/-- Bytes as escapes, the digits of which may be of either case. -/
inductive Escapes : Bytes → List Char → Prop
  | nil : Escapes [] []
  | cons {b : UInt8} {bytes : Bytes} {high low : Char} {s : List Char}
      (hb : byte? high low = some b) (h : Escapes bytes s) :
      Escapes (b :: bytes) ('%' :: high :: low :: s)

/-- Whether a text would make an escape of a `%` in front of it. -/
def opensEscape : List Char → Bool
  | high :: low :: _ => (byte? high low).isSome
  | _ => false

/-- `Spells s t`: `t` is the text `s` with some of its characters escaped. -/
inductive Spells : List Char → List Char → Prop
  | nil : Spells [] []
  /-- A character that stands for itself; a `%` does so where it begins no escape. -/
  | plain {c : Char} {s t : List Char} (hc : c = '%' → opensEscape t = false) (h : Spells s t) :
      Spells (c :: s) (c :: t)
  | escaped {c : Char} {e s t : List Char} (he : Escapes (Utf8.encodeChar c) e) (h : Spells s t) :
      Spells (c :: s) (e ++ t)

/-- A character that stands for itself is decoded as its bytes. -/
theorem decode_plain {c : Char} {s : List Char} (h : c = '%' → opensEscape s = false) :
    decode (c :: s) = Utf8.encodeChar c ++ decode s := by
  by_cases hc : c = '%'
  · have hs := h hc
    match s with
    | [] => rfl
    | [_] => rfl
    | high :: low :: rest =>
      rw [opensEscape, Option.isSome_eq_false_iff, Option.isNone_iff_eq_none] at hs
      rw [decode, if_pos hc, hs]
  · exact decode_cons_of_ne hc s

/-- An escape is decoded as its byte. -/
theorem decode_mark {b : UInt8} {high low : Char} (h : byte? high low = some b) (s : List Char) :
    decode ('%' :: high :: low :: s) = b :: decode s := by
  rw [decode, if_pos rfl, h]

/-- A text begins with an escape, or with a character that stands for itself. -/
theorem decode_cases (c : Char) (s : List Char) :
    (∃ high low rest b, s = high :: low :: rest ∧ c = '%' ∧ byte? high low = some b) ∨
      (c = '%' → opensEscape s = false) := by
  by_cases hc : c = '%'
  · match s with
    | [] => exact .inr fun _ ↦ rfl
    | [_] => exact .inr fun _ ↦ rfl
    | high :: low :: rest =>
      cases hb : byte? high low with
      | some b => exact .inl ⟨high, low, rest, b, rfl, hc, hb⟩
      | none => exact .inr fun _ ↦ by rw [opensEscape, hb]; rfl
  · exact .inr fun h ↦ absurd h hc

/-- Escapes are decoded as their bytes, whatever follows. -/
theorem Escapes.decode {bytes : Bytes} {e : List Char} (h : Escapes bytes e) (s : List Char) :
    Percent.decode (e ++ s) = bytes ++ Percent.decode s := by
  induction h with
  | nil => rfl
  | cons hb _ ih =>
    rw [List.cons_append, List.cons_append, List.cons_append, decode_mark hb, ih, List.cons_append]

/-- The bytes of a spelling are those of the text. -/
theorem Spells.decode {s t : List Char} (h : Spells s t) : Percent.decode t = Utf8.encode s := by
  induction h with
  | nil => rfl
  | plain hc _ ih => rw [decode_plain hc, ih, Utf8.encode_cons]
  | escaped he _ ih => rw [he.decode, ih, Utf8.encode_cons]

/-- Bytes that continue a character can only be written as escapes. -/
theorem exists_escapes_of_decode {bytes tail : Bytes} (hbytes : ∀ b ∈ bytes, Utf8.Continues b) :
    ∀ {t : List Char}, decode t = bytes ++ tail →
      ∃ e rest, t = e ++ rest ∧ Escapes bytes e ∧ decode rest = tail := by
  induction bytes with
  | nil => exact fun h ↦ ⟨[], _, rfl, .nil, h⟩
  | cons b bytes ih =>
    intro t h
    have hb := hbytes b List.mem_cons_self
    cases t with
    | nil => cases h
    | cons c s =>
      rcases decode_cases c s with ⟨high, low, rest, b', rfl, rfl, hb'⟩ | hplain
      · rw [decode_mark hb', List.cons_append, List.cons.injEq] at h
        obtain ⟨rfl, hrest⟩ := h
        obtain ⟨e, rest', rfl, he, htail⟩ :=
          ih (fun b hb ↦ hbytes b (List.mem_cons_of_mem _ hb)) hrest
        exact ⟨_, rest', rfl, .cons hb' he, htail⟩
      · -- a character that stands for itself begins with a byte that continues none
        obtain ⟨first, more, hfirst⟩ := List.exists_cons_of_ne_nil (Utf8.encodeChar_ne_nil c)
        rw [decode_plain hplain, hfirst, List.cons_append, List.cons_append, List.cons.injEq] at h
        exact absurd (h.1 ▸ hb) (Utf8.continues_iff_of_encodeChar hfirst).1

/-- A text with these bytes is a spelling.  By induction on what is spelled: the first byte of its
first character is an escape, and then all bytes of the character are, or it is the beginning of a
character that stands for itself, which can only be this one. -/
theorem spells_of_decode {s : List Char} : ∀ {t : List Char},
    decode t = Utf8.encode s → Spells s t := by
  induction s with
  | nil =>
    intro t h
    cases t with
    | nil => exact .nil
    | cons c t =>
      exfalso
      rcases decode_cases c t with ⟨high, low, rest, b, rfl, rfl, hb⟩ | hplain
      · rw [decode_mark hb] at h
        cases h
      · rw [decode_plain hplain] at h
        exact Utf8.encodeChar_ne_nil c (List.append_eq_nil_iff.mp h).1
  | cons d s ih =>
    intro t h
    obtain ⟨first, more, hfirst⟩ := List.exists_cons_of_ne_nil (Utf8.encodeChar_ne_nil d)
    cases t with
    | nil =>
      rw [Utf8.encode_cons, hfirst] at h
      cases h
    | cons c t =>
      rcases decode_cases c t with ⟨high, low, rest, b, rfl, rfl, hb⟩ | hplain
      · rw [decode_mark hb, Utf8.encode_cons, hfirst, List.cons_append, List.cons.injEq] at h
        obtain ⟨rfl, hrest⟩ := h
        obtain ⟨e, rest', rfl, he, htail⟩ :=
          exists_escapes_of_decode (Utf8.continues_iff_of_encodeChar hfirst).2 hrest
        exact .escaped (e := '%' :: high :: low :: e) (hfirst ▸ .cons hb he) (ih htail)
      · rw [decode_plain hplain, Utf8.encode_cons] at h
        obtain ⟨rfl, hrest⟩ := Utf8.encodeChar_append_inj h
        exact .plain hplain (ih hrest)

/-- **A text decodes to another exactly if it spells it.** -/
theorem spells_iff {s t : List Char} : Spells s t ↔ Utf8.decode? (decode t) = some s := by
  rw [Utf8.decode?_eq_some]
  exact ⟨Spells.decode, spells_of_decode⟩

/-- A text is not longer than its spellings. -/
theorem Spells.length_le {s t : List Char} (h : Spells s t) : s.length ≤ t.length := by
  induction h with
  | nil => exact Nat.le_refl 0
  | plain _ _ ih => exact Nat.succ_le_succ ih
  | @escaped c e s t he _ ih =>
    have hlength : 0 < e.length := by
      obtain ⟨b, bytes, hbytes⟩ := List.exists_cons_of_ne_nil (Utf8.encodeChar_ne_nil c)
      rw [hbytes] at he
      cases he
      exact Nat.succ_pos _
    rw [List.length_cons, List.length_append]
    omega

/-! ## What segments stand for -/

/-- `StandsFor t s`: the segment `t` stands for `s`, which is the text it spells, or `t` itself when
it spells none. -/
def StandsFor (t s : List Char) : Prop := Spells s t ∨ (∀ u, ¬ Spells u t) ∧ s = t

theorem decodeSegment_eq_iff {t s : List Char} : decodeSegment t = s ↔ StandsFor t s := by
  simp only [StandsFor, spells_iff, decodeSegment]
  cases hdecode : Utf8.decode? (decode t) with
  | none => simp [eq_comm]
  | some u => simp

theorem Spells.decodeSegment {s t : List Char} (h : Spells s t) : Percent.decodeSegment t = s :=
  decodeSegment_eq_iff.mpr (.inl h)

theorem length_decodeSegment_le (t : List Char) : (decodeSegment t).length ≤ t.length := by
  rcases decodeSegment_eq_iff.mp (rfl : decodeSegment t = _) with h | ⟨-, h⟩
  · exact h.length_le
  · exact Nat.le_of_eq (congrArg List.length h)

end Percent
end ResourceManager
