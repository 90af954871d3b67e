/-!
# UTF-8

Characters as bytes, and bytes as characters.  `scan` reads any sequence of bytes: it yields `none`
for each stretch that is no part of a character, so strict decoding (`decode?`), decoding with
replacement characters (`decodeLossy`) and readers that tolerate bad bytes in places they skip are
all functions of its result.

`scan_encode` says that written characters are read back one by one, and `encode_lt` that the bytes
of texts are in the order of the texts.
-/

set_option autoImplicit false

namespace ResourceManager

abbrev Bytes := List UInt8

namespace Utf8

/-! ## Writing -/

/-- The one to four bytes of a character. -/
def encodeChar (c : Char) : Bytes :=
  let n := c.toNat
  if n < 0x80 then [UInt8.ofNat n]
  else if n < 0x800 then [UInt8.ofNat (0xC0 + n / 64), UInt8.ofNat (0x80 + n % 64)]
  else if n < 0x10000 then
    [UInt8.ofNat (0xE0 + n / 4096), UInt8.ofNat (0x80 + n / 64 % 64), UInt8.ofNat (0x80 + n % 64)]
  else
    [UInt8.ofNat (0xF0 + n / 262144), UInt8.ofNat (0x80 + n / 4096 % 64),
      UInt8.ofNat (0x80 + n / 64 % 64), UInt8.ofNat (0x80 + n % 64)]

def encode (s : List Char) : Bytes :=
  s.flatMap encodeChar

@[simp] theorem encode_nil : encode [] = [] := rfl

@[simp] theorem encode_cons (c : Char) (s : List Char) :
    encode (c :: s) = encodeChar c ++ encode s := rfl

theorem encode_append (s t : List Char) : encode (s ++ t) = encode s ++ encode t :=
  List.flatMap_append

/-! ## Reading -/

/-- A character of which some bytes have been read: the bits they gave, the bounds of the next
byte, and how many bytes follow that one.  The bounds keep out overlong forms, surrogates and
values past the last code point. -/
structure Unfinished where
  value : Nat
  low : Nat
  high : Nat
  following : Nat

/-- What a byte is at the start of a character. -/
inductive Opening where
  | complete (c : Char)
  | unfinished (u : Unfinished)
  | stray

def opening (b : Nat) : Opening :=
  if b < 0x80 then .complete (Char.ofNat b)
  else if b < 0xC2 then .stray
  else if b < 0xE0 then .unfinished ⟨b - 0xC0, 0x80, 0xBF, 0⟩
  else if b < 0xF0 then
    .unfinished ⟨b - 0xE0, if b = 0xE0 then 0xA0 else 0x80, if b = 0xED then 0x9F else 0xBF, 1⟩
  else if b < 0xF5 then
    .unfinished ⟨b - 0xF0, if b = 0xF0 then 0x90 else 0x80, if b = 0xF4 then 0x8F else 0xBF, 2⟩
  else .stray

/-- Whether a byte may come next. -/
def Unfinished.accepts (u : Unfinished) (b : Nat) : Bool :=
  decide (u.low ≤ b) && decide (b ≤ u.high)

/-- Reads on from a character that may be unfinished.  A byte that cannot continue it ends the bad
stretch and is looked at again as the start of a character. -/
def scanFrom : Option Unfinished → Bytes → List (Option Char)
  | pending, [] => if pending.isSome then [none] else []
  | pending, b :: rest =>
    match pending.filter (·.accepts b.toNat) with
    | some u =>
      match u.following with
      | 0 => some (Char.ofNat (64 * u.value + (b.toNat - 0x80))) :: scanFrom none rest
      | n + 1 => scanFrom (some ⟨64 * u.value + (b.toNat - 0x80), 0x80, 0xBF, n⟩) rest
    | none =>
      let gap := if pending.isSome then [none] else []
      match opening b.toNat with
      | .complete c => gap ++ some c :: scanFrom none rest
      | .unfinished u => gap ++ scanFrom (some u) rest
      | .stray => gap ++ none :: scanFrom none rest

/-- The characters of a sequence of bytes, with `none` for each stretch that belongs to none. -/
def scan (bytes : Bytes) : List (Option Char) :=
  scanFrom none bytes

/-- The characters of valid UTF-8. -/
def decode? (bytes : Bytes) : Option (List Char) :=
  (scan bytes).mapM id

/-- The character that stands for a stretch of bytes that cannot be decoded. -/
def replacement : Char := '\uFFFD'

/-- The characters of any bytes, with a replacement character for each bad stretch. -/
def decodeLossy (bytes : Bytes) : List Char :=
  (scan bytes).map (·.getD replacement)

/-! ## Written characters read back -/

theorem toNat_ofNat_of_lt {n : Nat} (h : n < 256) : (UInt8.ofNat n).toNat = n := by
  simp [Nat.mod_eq_of_lt h]

theorem scanFrom_encodeChar (c : Char) (rest : Bytes) :
    scanFrom none (encodeChar c ++ rest) = some c :: scanFrom none rest := by
  have hv : c.toNat < 0xD800 ∨ 0xDFFF < c.toNat ∧ c.toNat < 0x110000 := c.valid
  have hc : Char.ofNat c.toNat = c := Char.ofNat_toNat c
  unfold encodeChar
  simp only
  split
  · rename_i h
    simp [scanFrom, opening, toNat_ofNat_of_lt (show c.toNat < 256 by omega), h, hc]
  split
  · rename_i h1 h2
    have a : 0xC0 + c.toNat / 64 < 256 := by omega
    have b : 0x80 + c.toNat % 64 < 256 := by omega
    have e : 64 * (0xC0 + c.toNat / 64 - 0xC0) + (0x80 + c.toNat % 64 - 0x80) = c.toNat := by omega
    have r1 : ¬ 0xC0 + c.toNat / 64 < 0x80 := by omega
    have r2 : ¬ 0xC0 + c.toNat / 64 < 0xC2 := by omega
    have r3 : 0xC0 + c.toNat / 64 < 0xE0 := by omega
    have r4 : 0x80 + c.toNat % 64 ≤ 0xBF := by omega
    simp only [List.cons_append, List.nil_append, scanFrom, toNat_ofNat_of_lt a,
      toNat_ofNat_of_lt b, opening, r1, r2, r3, if_true, if_false, Option.filter,
      Unfinished.accepts,
      Option.isSome, r4, Nat.le_add_right, decide_true, Bool.and_self, e, hc, Bool.false_eq_true]
  split
  · rename_i h1 h2 h3
    have a : 0xE0 + c.toNat / 4096 < 256 := by omega
    have b : 0x80 + c.toNat / 64 % 64 < 256 := by omega
    have d : 0x80 + c.toNat % 64 < 256 := by omega
    have e : 64 * (64 * (0xE0 + c.toNat / 4096 - 0xE0) + (0x80 + c.toNat / 64 % 64 - 0x80))
        + (0x80 + c.toNat % 64 - 0x80) = c.toNat := by omega
    have r1 : ¬ 0xE0 + c.toNat / 4096 < 0x80 := by omega
    have r2 : ¬ 0xE0 + c.toNat / 4096 < 0xC2 := by omega
    have r3 : ¬ 0xE0 + c.toNat / 4096 < 0xE0 := by omega
    have r4 : 0xE0 + c.toNat / 4096 < 0xF0 := by omega
    have l : (if 0xE0 + c.toNat / 4096 = 0xE0 then 0xA0 else 0x80) ≤ 0x80 + c.toNat / 64 % 64 := by
      split <;> omega
    have u : 0x80 + c.toNat / 64 % 64 ≤ (if 0xE0 + c.toNat / 4096 = 0xED then 0x9F else 0xBF) := by
      split <;> omega
    have r5 : 0x80 + c.toNat % 64 ≤ 0xBF := by omega
    simp only [List.cons_append, List.nil_append, scanFrom, toNat_ofNat_of_lt a,
      toNat_ofNat_of_lt b, toNat_ofNat_of_lt d, opening, r1, r2, r3, r4, if_true, if_false,
      Option.filter, Unfinished.accepts, Option.isSome, l, u, r5, Nat.le_add_right, decide_true,
      Bool.and_self, e, hc, Bool.false_eq_true]
  · rename_i h1 h2 h3
    have a : 0xF0 + c.toNat / 262144 < 256 := by omega
    have b : 0x80 + c.toNat / 4096 % 64 < 256 := by omega
    have d : 0x80 + c.toNat / 64 % 64 < 256 := by omega
    have f : 0x80 + c.toNat % 64 < 256 := by omega
    have e : 64 * (64 * (64 * (0xF0 + c.toNat / 262144 - 0xF0) +
        (0x80 + c.toNat / 4096 % 64 - 0x80))
        + (0x80 + c.toNat / 64 % 64 - 0x80)) + (0x80 + c.toNat % 64 - 0x80) = c.toNat := by omega
    have r1 : ¬ 0xF0 + c.toNat / 262144 < 0x80 := by omega
    have r2 : ¬ 0xF0 + c.toNat / 262144 < 0xC2 := by omega
    have r3 : ¬ 0xF0 + c.toNat / 262144 < 0xE0 := by omega
    have r4 : ¬ 0xF0 + c.toNat / 262144 < 0xF0 := by omega
    have r5 : 0xF0 + c.toNat / 262144 < 0xF5 := by omega
    have l : (if 0xF0 + c.toNat / 262144 = 0xF0 then 0x90 else 0x80) ≤
        0x80 + c.toNat / 4096 % 64 := by
      split <;> omega
    have u : 0x80 + c.toNat / 4096 % 64 ≤
        (if 0xF0 + c.toNat / 262144 = 0xF4 then 0x8F else 0xBF) := by
      split <;> omega
    have r6 : 0x80 + c.toNat / 64 % 64 ≤ 0xBF := by omega
    have r7 : 0x80 + c.toNat % 64 ≤ 0xBF := by omega
    simp only [List.cons_append, List.nil_append, scanFrom, toNat_ofNat_of_lt a,
      toNat_ofNat_of_lt b, toNat_ofNat_of_lt d, toNat_ofNat_of_lt f, opening, r1, r2, r3, r4, r5,
      if_true, if_false, Option.filter, Unfinished.accepts, Option.isSome, l, u, r6, r7,
      Nat.le_add_right, decide_true, Bool.and_self, e, hc, Bool.false_eq_true]

theorem scan_encode (s : List Char) : scan (encode s) = s.map some := by
  induction s with
  | nil => rfl
  | cons c s ih => simpa [scan, scanFrom_encodeChar] using ih

theorem decode?_encode (s : List Char) : decode? (encode s) = some s := by
  rw [decode?, scan_encode]
  induction s with
  | nil => rfl
  | cons c s ih => simp [ih]

/-! ## The order of texts -/

theorem encodeChar_ne_nil (c : Char) : encodeChar c ≠ [] := by
  rw [encodeChar]
  split
  · exact List.cons_ne_nil _ _
  split
  · exact List.cons_ne_nil _ _
  split <;> exact List.cons_ne_nil _ _

theorem append_lt_append {s t : Bytes} (more more' : Bytes) (hlength : s.length = t.length)
    (h : s < t) : s ++ more < t ++ more' := by
  induction s generalizing t with
  | nil =>
    rw [List.length_nil] at hlength
    rw [List.length_eq_zero_iff.mp hlength.symm] at h
    cases h
  | cons a s ih =>
    cases t with
    | nil => cases hlength
    | cons b t =>
      rw [List.cons_append, List.cons_append, List.cons_lt_cons_iff]
      rw [List.cons_lt_cons_iff] at h
      rcases h with h | ⟨hab, h⟩
      · exact .inl h
      · exact .inr ⟨hab, ih (Nat.succ.inj hlength) h⟩

theorem ofNat_cons_lt_cons {m n : Nat} {s t : Bytes} (hm : m < 256) (hn : n < 256) :
    UInt8.ofNat m :: s < UInt8.ofNat n :: t ↔ m < n ∨ m = n ∧ s < t := by
  rw [List.cons_lt_cons_iff, UInt8.lt_iff_toNat_lt, ← UInt8.toNat_inj, toNat_ofNat_of_lt hm,
    toNat_ofNat_of_lt hn]

/-- Characters are in the order of their bytes, whatever is behind them. -/
theorem encodeChar_append_lt {c d : Char} (h : c < d) (s t : Bytes) :
    encodeChar c ++ s < encodeChar d ++ t := by
  have hcd : c.toNat < d.toNat := h
  have hd : d.toNat < 0x110000 := by
    have hv : d.toNat < 0xD800 ∨ 0xDFFF < d.toNat ∧ d.toNat < 0x110000 := d.valid
    omega
  have hless : ∀ {m n : Nat} {s t : Bytes}, m < n → n < 256 →
      UInt8.ofNat m :: s < UInt8.ofNat n :: t :=
    fun hmn hn ↦ (ofNat_cons_lt_cons (by omega) hn).mpr (.inl hmn)
  rw [encodeChar, encodeChar]
  split
  · split
    · exact hless hcd (by omega)
    split
    · exact hless (by omega) (by omega)
    split <;> exact hless (by omega) (by omega)
  rw [if_neg (show ¬d.toNat < 0x80 by omega)]
  split
  · split
    · refine append_lt_append s t rfl ?_
      rw [ofNat_cons_lt_cons (by omega) (by omega), ofNat_cons_lt_cons (by omega) (by omega)]
      simp only [List.not_lt_nil, and_false, or_false]
      omega
    split <;> exact hless (by omega) (by omega)
  rw [if_neg (show ¬d.toNat < 0x800 by omega)]
  split
  · split
    · refine append_lt_append s t rfl ?_
      rw [ofNat_cons_lt_cons (by omega) (by omega), ofNat_cons_lt_cons (by omega) (by omega),
        ofNat_cons_lt_cons (by omega) (by omega)]
      simp only [List.not_lt_nil, and_false, or_false]
      omega
    · exact hless (by omega) (by omega)
  rw [if_neg (show ¬d.toNat < 0x10000 by omega)]
  refine append_lt_append s t rfl ?_
  rw [ofNat_cons_lt_cons (by omega) (by omega), ofNat_cons_lt_cons (by omega) (by omega),
    ofNat_cons_lt_cons (by omega) (by omega), ofNat_cons_lt_cons (by omega) (by omega)]
  simp only [List.not_lt_nil, and_false, or_false]
  omega

/-- Texts in the order of their characters are in the order of their bytes. -/
theorem encode_lt {s t : List Char} (h : s < t) : encode s < encode t := by
  induction s generalizing t with
  | nil =>
    cases t with
    | nil => cases h
    | cons d t =>
      obtain ⟨b, rest, hd⟩ := List.exists_cons_of_ne_nil (encodeChar_ne_nil d)
      rw [encode_cons, hd]
      exact List.nil_lt_cons _ _
  | cons c s ih =>
    cases t with
    | nil => cases h
    | cons d t =>
      rw [encode_cons, encode_cons]
      rcases List.cons_lt_cons_iff.mp h with hcd | ⟨rfl, hst⟩
      · exact encodeChar_append_lt hcd _ _
      · exact List.append_left_lt (ih hst)

end Utf8
end ResourceManager
