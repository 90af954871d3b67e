import ResourceManager.Toml.Token
import ResourceManager.Toml.Writer

/-!
# Written TOML is read as its tokens

The lexer goes through a text one character at a time, so what it makes of a text is what it makes
of the second part of it where the first part has left it: `Lexer.read?` is this function, and
`Lexer.read?_append` the law.

A key, a string or a number is only known to be complete by the character behind it.  `Written s t`
says that `s` is read as the token `t` wherever a blank, a dot, a bracket or a line break follows.
It holds of every key (`written_key`), of every string in each of the four forms
(`written_string`) and of every number (`written_digits`).  `Lexes s ts` says of a whole piece of
text that it is read as some tokens, whatever follows it, and lines are put together of both.

The hard part is the strings.  A writer chooses among four forms by what stands in the text, and in
the forms with three quotes a text may hold quotes itself, which the lexer cannot tell from the
closing ones before it has seen what follows.  `InString` is the invariant for all four: so much of
the text has been read, and the newest part of it is a run of quotes that may still turn out to be
the end.  The length of the longest run decides which form a writer may choose, and it is also what
bounds the run in the invariant.
-/

set_option autoImplicit false

namespace ResourceManager
namespace Toml
namespace Token

/-! ## Reading in parts -/

/-- What becomes of the lexer when it reads a text. -/
def Lexer.read? (l : Lexer) (s : List Char) : Option Lexer := s.foldlM Lexer.step? l

namespace Lexer

variable {l : Lexer} {c : Char} {s t : List Char}

@[simp] theorem read?_nil (l : Lexer) : l.read? [] = some l := rfl

/-- One character, and what becomes of the rest. -/
theorem read?_cons (l : Lexer) (c : Char) (s : List Char) :
    l.read? (c :: s) = (l.step? c).bind (·.read? s) := rfl

/-- A text is read in two parts. -/
theorem read?_append (l : Lexer) (s t : List Char) :
    l.read? (s ++ t) = (l.read? s).bind (·.read? t) :=
  List.foldlM_append

section Steps

/-! What a step does in each mode that a written text goes through.  These are by definition; they
have names so that a proof rewrites with the mode it is in, and never opens the whole step. -/

variable (tokens : List Token) (c : Char)

theorem step?_between : (Lexer.mk tokens .between).step? c = start? tokens c := rfl

theorem step?_blank (written : List Char) : (Lexer.mk tokens (.blank written)).step? c =
    if isBlank c then some ⟨tokens, .blank (c :: written)⟩
    else start? (.blank written.reverse :: tokens) c := rfl

theorem step?_atom (written : List Char) : (Lexer.mk tokens (.atom written)).step? c =
    if endsAtom c then start? (.atom written.reverse :: tokens) c
    else some ⟨tokens, .atom (c :: written)⟩ := rfl

theorem step?_opening (q : Quote) (two : Bool) : (Lexer.mk tokens (.opening q two)).step? c =
    if c = q.mark then some ⟨tokens, if two then .fresh q else .opening q true⟩
    else if two then start? (.string false [] :: tokens) c
    else content? tokens q false [] c := rfl

theorem step?_fresh (q : Quote) : (Lexer.mk tokens (.fresh q)).step? c =
    if c = '\n' then some ⟨tokens, .string q true []⟩
    else if c = '\r' then some ⟨tokens, .freshCarriage q⟩
    else content? tokens q true [] c := rfl

theorem step?_string (q : Quote) (triple : Bool) (value : List Char) :
    (Lexer.mk tokens (.string q triple value)).step? c = content? tokens q triple value c := rfl

theorem step?_closing (q : Quote) (value : List Char) (count : Nat) :
    (Lexer.mk tokens (.closing q value count)).step? c =
      if c = q.mark then
        if count < 5 then some ⟨tokens, .closing q value (count + 1)⟩ else none
      else if 3 ≤ count then
        start? (.string true (List.replicate (count - 3) q.mark ++ value).reverse :: tokens) c
      else content? tokens q true (List.replicate count q.mark ++ value) c := rfl

theorem step?_codePoint (triple : Bool) (value : List Char) (left number : Nat) :
    (Lexer.mk tokens (.codePoint triple value left number)).step? c =
      digit? tokens triple value left number c := rfl

end Steps

/-- Reading, one known step at a time. -/
theorem read?_cons_of_step {l' : Lexer} (h : l.step? c = some l') :
    l.read? (c :: s) = l'.read? s := by
  rw [read?_cons, h]
  rfl

/-- Reading, one known piece at a time. -/
theorem read?_append_of_read {l' : Lexer} (h : l.read? s = some l') :
    l.read? (s ++ t) = l'.read? t := by
  rw [read?_append, h]
  rfl

end Lexer

/-- A text is read from between tokens, and what is open at its end has to be complete. -/
theorem scan?_eq (text : List Char) :
    scan? text = ((Lexer.mk [] .between).read? text).bind fun l ↦ l.finish?.map List.reverse := by
  rw [scan?, Lexer.read?]
  cases text.foldlM Lexer.step? ⟨[], .between⟩ with
  | none => rfl
  | some l => cases h : l.finish? <;> simp [h]

/-! ## Tokens and what follows them -/

/-- The characters behind which every token is complete. -/
def isMark (c : Char) : Bool := (ofChar? c).isSome || isBlank c

/-- A mark ends an atom. -/
theorem endsAtom_of_isMark {c : Char} (h : isMark c = true) : endsAtom c = true := by
  rw [isMark] at h
  simp [endsAtom, h]

/-- A mark is no quote, so it cannot make a closing quote the first of three. -/
theorem ne_of_isMark {c : Char} (h : isMark c = true) (q : Quote) : c ≠ q.mark := by
  rintro rfl
  cases q <;> exact absurd h (by decide)

/-- A text is read as a token, wherever a mark follows. -/
def Written (s : List Char) (t : Token) : Prop :=
  ∀ (tokens : List Token) (d : Char) (rest : List Char), isMark d = true →
    (Lexer.mk tokens .between).read? (s ++ d :: rest) =
      (Lexer.mk (t :: tokens) .between).read? (d :: rest)

/-- A text is read as some tokens, whatever follows. -/
def Lexes (s : List Char) (ts : List Token) : Prop :=
  ∀ tokens : List Token,
    (Lexer.mk tokens .between).read? s = some ⟨ts.reverse ++ tokens, .between⟩

variable {s s' : List Char} {t : Token} {ts ts' : List Token} {c d : Char}

/-- Nothing is read as no tokens. -/
theorem Lexes.nil : Lexes [] [] := fun _ ↦ rfl

/-- A piece behind another is read as it is alone. -/
theorem Lexes.append (h : Lexes s ts) (h' : Lexes s' ts') : Lexes (s ++ s') (ts ++ ts') := by
  intro tokens
  rw [Lexer.read?_append_of_read (h tokens), h', List.reverse_append, List.append_assoc]

/-- Pieces are read in their order. -/
theorem Lexes.flatten {α : Type} {f : α → List Char} {g : α → List Token} {items : List α}
    (h : ∀ a ∈ items, Lexes (f a) (g a)) : Lexes (items.flatMap f) (items.flatMap g) := by
  induction items with
  | nil => exact .nil
  | cons a items ih =>
    rw [List.flatMap_cons, List.flatMap_cons]
    exact (h a List.mem_cons_self).append (ih fun b hb ↦ h b (List.mem_cons_of_mem _ hb))

/-- A character that is a token by itself. -/
theorem Lexes.ofChar (h : ofChar? c = some t) : Lexes [c] [t] := by
  intro tokens
  rw [Lexer.read?_cons, Lexer.step?, Lexer.start?, h]
  rfl

/-- A token is complete in front of a character that is one by itself. -/
theorem Written.mark {m : Token} (h : Written s t) (hd : ofChar? d = some m) :
    Lexes (s ++ [d]) [t, m] := by
  intro tokens
  rw [h tokens d [] (by rw [isMark, hd]; rfl), Lexes.ofChar hd]
  rfl

/-- A blank is complete in front of anything else. -/
theorem read?_blank (tokens : List Token) (written : List Char) (hd : isBlank d = false)
    (rest : List Char) :
    (Lexer.mk tokens (.blank written)).read? (d :: rest) =
      (Lexer.mk (.blank written.reverse :: tokens) .between).read? (d :: rest) := by
  rw [Lexer.read?_cons, Lexer.read?_cons, Lexer.step?_blank, Lexer.step?_between, hd]
  rfl

/-! ## Atoms -/

/-- What does not end an atom begins one. -/
theorem start?_atom (tokens : List Token) (h : endsAtom c = false) :
    Lexer.start? tokens c = some ⟨tokens, .atom [c]⟩ := by
  simp only [endsAtom, Bool.or_eq_false_iff, beq_eq_false_iff_ne, ne_eq,
    Option.isSome_eq_false_iff, Option.isNone_iff_eq_none] at h
  obtain ⟨⟨⟨⟨⟨hmark, hblank⟩, hreturn⟩, hhash⟩, hdouble⟩, hsingle⟩ := h
  simp [Lexer.start?, hmark, hblank, hreturn, hhash, hdouble, hsingle]

/-- Inside an atom, characters that do not end it are put to it. -/
theorem read?_atom (tokens : List Token) (rest : List Char) :
    ∀ {s written : List Char}, (∀ c ∈ s, endsAtom c = false) →
      (Lexer.mk tokens (.atom written)).read? (s ++ rest) =
        (Lexer.mk tokens (.atom (s.reverse ++ written))).read? rest
  | [], _, _ => rfl
  | c :: s, written, h => by
    have hc := h c List.mem_cons_self
    have hstep : (Lexer.mk tokens (.atom written)).step? c = some ⟨tokens, .atom (c :: written)⟩ :=
      if_neg (by rw [hc]; exact Bool.false_ne_true)
    rw [List.cons_append, Lexer.read?_cons_of_step hstep,
      read?_atom tokens rest fun d hd ↦ h d (List.mem_cons_of_mem _ hd), List.reverse_cons,
      List.append_assoc]
    rfl

/-- A text of such characters is one atom: the mark behind it ends it. -/
theorem written_atom (hne : s ≠ []) (h : ∀ c ∈ s, endsAtom c = false) : Written s (.atom s) := by
  intro tokens d rest hd
  cases s with
  | nil => exact absurd rfl hne
  | cons c s =>
    have hstart : (Lexer.mk tokens .between).step? c = some ⟨tokens, .atom [c]⟩ :=
      start?_atom tokens (h c List.mem_cons_self)
    rw [List.cons_append, Lexer.read?_cons_of_step hstart,
      read?_atom tokens _ fun d hd ↦ h d (List.mem_cons_of_mem _ hd), Lexer.read?_cons,
      Lexer.read?_cons, Lexer.step?_atom, Lexer.step?_between, endsAtom_of_isMark hd,
      List.reverse_append, List.reverse_reverse]
    rfl

/-- What may stand in a key without quotes, or in a number, does not end an atom. -/
theorem endsAtom_of_plain (h : (c.isAlphanum || c == '-' || c == '_') = true) :
    endsAtom c = false := by
  have hne : ∀ d : Char, (d.isAlphanum || d == '-' || d == '_') = false → c ≠ d := by
    rintro d hd rfl
    rw [hd] at h
    cases h
  simp [endsAtom, ofChar?, isBlank, hne '.' (by decide), hne '=' (by decide), hne ',' (by decide),
    hne '[' (by decide), hne ']' (by decide), hne '\x7b' (by decide), hne '\x7d' (by decide),
    hne '\n' (by decide), hne ' ' (by decide), hne '\t' (by decide), hne '\r' (by decide),
    hne '#' (by decide), hne '"' (by decide), hne '\'' (by decide)]

/-- The digits of a number are one atom. -/
theorem written_digits (n : Nat) : Written (Nat.toDigits 10 n) (.atom (Nat.toDigits 10 n)) := by
  refine written_atom Nat.toDigits_ne_nil fun c hc ↦ endsAtom_of_plain ?_
  have hdigit := Nat.isDigit_of_mem_toDigits (by decide) (by decide) hc
  rw [Char.isAlphanum, hdigit, Bool.or_true]
  rfl

/-! ## Inside strings -/

/-- The run that is being counted is no longer than the longest. -/
theorem le_longestRun (mark : Char) : ∀ (run : Nat) (s : List Char), run ≤ longestRun mark run s
  | _, [] => Nat.le_refl _
  | run, c :: s => by
    rw [longestRun]
    split
    · exact Nat.le_trans (Nat.le_succ run) (le_longestRun mark (run + 1) s)
    · exact Nat.le_max_left _ _

section Inside

variable (tokens : List Token) (q : Quote) (triple : Bool)

/-- The mode inside a string, behind some quotes that may belong to it. -/
def inside (value : List Char) (run : Nat) : Mode :=
  if run = 0 then .string q triple value else .closing q value run

/-- The lexer is inside a string and has read this much of it, newest first; so many quotes are the
newest of it. -/
structure InString (text : List Char) (run : Nat) (l : Lexer) : Prop where
  free : run ≤ freeQuotes triple
  state : ∃ value, text = List.replicate run q.mark ++ value ∧
    l = ⟨tokens, inside q triple value run⟩

variable {tokens q triple} {text : List Char} {run : Nat} {l l' : Lexer}

/-- Behind the opening quotes nothing has been read. -/
theorem InString.start : InString tokens q triple text 0 ⟨tokens, .string q triple text⟩ :=
  ⟨Nat.zero_le _, text, rfl, rfl⟩

/-- Any other character than a quote is one of the string. -/
theorem InString.step?_of_ne (h : InString tokens q triple text run l) (hc : c ≠ q.mark) :
    l.step? c = Lexer.content? tokens q triple text c := by
  obtain ⟨hfree, value, rfl, rfl⟩ := h
  rw [inside]
  split
  · rename_i hzero
    rw [hzero]
    rfl
  · rename_i hpos
    cases triple with
    | false => exact absurd (Nat.le_zero.mp hfree) hpos
    | true =>
      have hthree : ¬ 3 ≤ run := fun h ↦ absurd (Nat.le_trans h hfree) (by decide)
      rw [Lexer.step?_closing, if_neg hc, if_neg hthree]

/-- With three quotes, up to five in a row may stand there: two of the string and three that end
it. -/
theorem step?_inside_mark {value : List Char} (hrun : run < 5) :
    (Lexer.mk tokens (inside q true value run)).step? q.mark =
      some ⟨tokens, inside q true value (run + 1)⟩ := by
  rw [inside]
  split
  · rename_i hzero
    rw [hzero, Lexer.step?_string, Lexer.content?, if_pos rfl]
    rfl
  · rw [Lexer.step?_closing, if_pos rfl, if_pos hrun, inside, if_neg (Nat.succ_ne_zero _)]

/-- A quote that may stand there is one of the string. -/
theorem InString.mark (h : InString tokens q triple text run l) (hrun : run < freeQuotes triple) :
    ∃ l', l.step? q.mark = some l' ∧ InString tokens q triple (q.mark :: text) (run + 1) l' := by
  obtain ⟨-, value, rfl, rfl⟩ := h
  cases triple with
  | false => exact absurd hrun (Nat.not_lt_zero _)
  | true =>
    have htwo : run < 2 := hrun
    exact ⟨_, step?_inside_mark (by omega), hrun, value, rfl, rfl⟩

/-- One quote ends a string of one line. -/
theorem InString.end_single (h : InString tokens q false text run l) :
    l.step? q.mark = some ⟨.string false text.reverse :: tokens, .between⟩ := by
  obtain ⟨hfree, value, rfl, rfl⟩ := h
  rw [Nat.le_zero.mp hfree]
  exact if_pos rfl

/-- Three quotes end any other string; those before them belong to it. -/
theorem InString.end_triple (h : InString tokens q true text run l) (hd : d ≠ q.mark)
    (rest : List Char) :
    l.read? (q.mark :: q.mark :: q.mark :: d :: rest) =
      (Lexer.mk (.string true text.reverse :: tokens) .between).read? (d :: rest) := by
  obtain ⟨hfree, value, rfl, rfl⟩ := h
  have htwo : run ≤ 2 := hfree
  have hthree : 3 ≤ run + 1 + 1 + 1 := by omega
  rw [Lexer.read?_cons_of_step (step?_inside_mark (by omega)),
    Lexer.read?_cons_of_step (step?_inside_mark (by omega)),
    Lexer.read?_cons_of_step (step?_inside_mark (by omega)), inside,
    if_neg (Nat.succ_ne_zero _), Lexer.read?_cons, Lexer.read?_cons, Lexer.step?_closing, if_neg hd,
    if_pos hthree, Lexer.step?_between]
  rfl

/-! ## Characters as they are -/

/-- The writer's test agrees with the reader's: what needs no code may stand in a string. -/
theorem isShown_of_not_needsCode (hcode : needsCode c = false) (hbreak : c ≠ '\n') :
    isShown c = true := by
  by_cases htab : c = '\t'
  · rw [htab]
    rfl
  · simp only [needsCode, Bool.or_eq_false_iff, Bool.and_eq_false_iff, decide_eq_false_iff_not,
      bne_eq_false_iff_eq, beq_eq_false_iff_ne, htab, hbreak, or_false] at hcode
    simp only [isShown, Bool.or_eq_true, beq_iff_eq, Bool.and_eq_true, decide_eq_true_eq,
      bne_iff_ne, ne_eq, hcode.2, not_false_eq_true, and_true, htab, false_or]
    omega

/-- A character that needs no escape may be written as it is. -/
theorem InString.char (h : InString tokens q triple text run l) (hquote : c ≠ q.mark)
    (hbackslash : c = '\\' → q = .single) (hcode : needsCode c = false)
    (hbreak : c = '\n' → triple = true) :
    ∃ l', l.step? c = some l' ∧ InString tokens q triple (c :: text) 0 l' := by
  refine ⟨_, ?_, .start⟩
  have hescape : ¬ (c = '\\' ∧ q = .double) := fun h ↦ by
    rw [hbackslash h.1] at h
    cases h.2
  rw [h.step?_of_ne hquote, Lexer.content?, if_neg hquote, if_neg hescape]
  by_cases hline : c = '\n'
  · rw [if_pos ⟨hline, hbreak hline⟩]
  · have hreturn : c ≠ '\r' := by
      rintro rfl
      exact absurd hcode (by decide)
    rw [if_neg fun h ↦ hline h.1, if_neg fun h ↦ hreturn h.1,
      if_pos (isShown_of_not_needsCode hcode hline)]

/-- A text without escapes is read as it is, if not too many quotes stand in a row. -/
theorem InString.read?_literal {s : List Char} :
    ∀ {text : List Char} {run : Nat} {l : Lexer}, InString tokens .single triple text run l →
      (∀ c ∈ s, needsCode c = false ∧ (c = '\n' → triple = true)) →
      longestRun '\'' run s ≤ freeQuotes triple →
      ∃ l' run', l.read? s = some l' ∧
        InString tokens .single triple (s.reverse ++ text) run' l' := by
  induction s with
  | nil => exact fun h _ _ ↦ ⟨_, _, rfl, h⟩
  | cons c s ih =>
    intro text run l h hplain hruns
    have hrest : ∀ d ∈ s, needsCode d = false ∧ (d = '\n' → triple = true) := fun d hd ↦
      hplain d (List.mem_cons_of_mem _ hd)
    have hstep : ∃ l' run', l.step? c = some l' ∧
        InString tokens .single triple (c :: text) run' l' ∧
        longestRun '\'' run' s ≤ freeQuotes triple := by
      rw [longestRun] at hruns
      split at hruns
      · rename_i hquote
        have hfree : run < freeQuotes triple := Nat.lt_of_lt_of_le (Nat.lt_succ_self _)
          (Nat.le_trans (le_longestRun _ _ s) hruns)
        obtain ⟨l', hl', h'⟩ := h.mark hfree
        exact ⟨l', run + 1, hquote ▸ hl', hquote ▸ h', hruns⟩
      · rename_i hquote
        obtain ⟨hcode, hbreak⟩ := hplain c List.mem_cons_self
        obtain ⟨l', hl', h'⟩ := h.char hquote (fun _ ↦ rfl) hcode hbreak
        exact ⟨l', 0, hl', h', Nat.le_trans (Nat.le_max_right _ _) hruns⟩
    -- the bound is kept: the longest run of what is left counts the quotes read so far
    obtain ⟨l', run', hl', h', hruns'⟩ := hstep
    obtain ⟨l'', run'', hl'', h''⟩ := ih h' hrest hruns'
    refine ⟨l'', run'', ?_, ?_⟩
    · rw [Lexer.read?_cons_of_step hl', hl'']
    · rw [List.reverse_cons, List.append_assoc]
      exact h''

/-! ## Escapes -/

variable {value : List Char}

/-- A digit in front of others. -/
theorem step?_digit {n : Nat} (hd : Hex.value? d = some n) (left number : Nat) :
    (Lexer.mk tokens (.codePoint triple value (left + 2) number)).step? d =
      some ⟨tokens, .codePoint triple value (left + 1) (16 * number + n)⟩ := by
  simp [Lexer.step?_codePoint, Lexer.digit?, hd]

/-- The last digit completes the character. -/
theorem step?_lastDigit {n number : Nat} (hd : Hex.value? d = some n)
    (hc : ofCodePoint? (16 * number + n) = some c) :
    (Lexer.mk tokens (.codePoint triple value 1 number)).step? d =
      some ⟨tokens, .string .double triple (c :: value)⟩ := by
  simp [Lexer.step?_codePoint, Lexer.digit?, hd, hc]

/-- The escape with the number of a character of one byte. -/
theorem read?_codePoint (hc : c.toNat < 0x80) :
    (Lexer.mk tokens (.escape triple value)).read?
        ['u', '0', '0', Hex.digit (c.toNat / 16), Hex.digit (c.toNat % 16)] =
      some ⟨tokens, .string .double triple (c :: value)⟩ := by
  have hzero : Hex.value? '0' = some 0 := rfl
  have hhigh := Hex.value?_digit (show c.toNat / 16 < 16 by omega)
  have hlow := Hex.value?_digit (show c.toNat % 16 < 16 by omega)
  have hmark : (Lexer.mk tokens (.escape triple value)).step? 'u' =
      some ⟨tokens, .codePoint triple value 4 0⟩ := rfl
  have hcode : ofCodePoint? (16 * (16 * (16 * (16 * 0 + 0) + 0) + c.toNat / 16) + c.toNat % 16) =
      some c := by
    have hnumber : 16 * (16 * (16 * (16 * 0 + 0) + 0) + c.toNat / 16) + c.toNat % 16 = c.toNat := by
      omega
    rw [hnumber, ofCodePoint?, if_pos (.inl (by omega)), Char.ofNat_toNat]
  rw [Lexer.read?_cons_of_step hmark, Lexer.read?_cons_of_step (step?_digit hzero 2 _),
    Lexer.read?_cons_of_step (step?_digit hzero 1 _),
    Lexer.read?_cons_of_step (step?_digit hhigh 0 _),
    Lexer.read?_cons_of_step (step?_lastDigit hlow hcode), Lexer.read?_nil]

/-- What an escape says behind its backslash. -/
theorem escape?_eq_some {e : List Char} (h : escape? triple c = some e) :
    ∃ tail, e = '\\' :: tail ∧ ∀ (tokens : List Token) (value : List Char),
      (Lexer.mk tokens (.escape triple value)).read? tail =
        some ⟨tokens, .string .double triple (c :: value)⟩ := by
  rw [escape?] at h
  split at h
  · rename_i hc
    cases h
    rw [hc]
    exact ⟨['b'], rfl, fun _ _ ↦ rfl⟩
  split at h
  · rename_i hc
    cases h
    rw [hc]
    exact ⟨['t'], rfl, fun _ _ ↦ rfl⟩
  split at h
  · rename_i hc
    split at h
    · cases h
    · cases h
      rw [hc]
      exact ⟨['n'], rfl, fun _ _ ↦ rfl⟩
  split at h
  · rename_i hc
    cases h
    rw [hc]
    exact ⟨['f'], rfl, fun _ _ ↦ rfl⟩
  split at h
  · rename_i hc
    cases h
    rw [hc]
    exact ⟨['r'], rfl, fun _ _ ↦ rfl⟩
  split at h
  · rename_i hc
    cases h
    rw [hc]
    exact ⟨['\\'], rfl, fun _ _ ↦ rfl⟩
  split at h
  · rename_i hcode
    cases h
    refine ⟨_, rfl, fun _ _ ↦ read?_codePoint ?_⟩
    rw [needsCode] at hcode
    simp only [Bool.or_eq_true, Bool.and_eq_true, decide_eq_true_eq, beq_iff_eq] at hcode
    omega
  · cases h

/-- Without an escape, a character may be written as it is. -/
theorem escape?_eq_none (h : escape? triple c = none) :
    c ≠ '\\' ∧ needsCode c = false ∧ (c = '\n' → triple = true) := by
  rw [escape?] at h
  split at h
  · cases h
  split at h
  · cases h
  split at h
  · rename_i hline
    split at h
    · rename_i htriple
      rw [hline]
      exact ⟨by decide, by decide, fun _ ↦ htriple⟩
    · cases h
  rename_i hline
  split at h
  · cases h
  split at h
  · cases h
  split at h
  · cases h
  rename_i hbackslash
  split at h
  · cases h
  · rename_i hcode
    exact ⟨hbackslash, Bool.eq_false_iff.mpr hcode, fun h ↦ absurd h hline⟩

/-- Behind a backslash, an escape is read as its character. -/
theorem InString.escape (h : InString tokens .double triple text run l) {tail : List Char}
    (htail : ∀ (tokens : List Token) (value : List Char),
      (Lexer.mk tokens (.escape triple value)).read? tail =
        some ⟨tokens, .string .double triple (c :: value)⟩) :
    ∃ l', l.read? ('\\' :: tail) = some l' ∧ InString tokens .double triple (c :: text) 0 l' := by
  have hstep : l.step? '\\' = some ⟨tokens, .escape triple text⟩ :=
    h.step?_of_ne (by decide)
  exact ⟨_, (Lexer.read?_cons_of_step hstep).trans (htail tokens text), .start⟩

/-- A character of a body with escapes, with the quotes that stand in a row behind it. -/
theorem InString.read?_escapedFrom {s : List Char} :
    ∀ {text : List Char} {run : Nat} {l : Lexer}, InString tokens .double triple text run l →
      ∃ l' run', l.read? (escapedFrom triple run s) = some l' ∧
        InString tokens .double triple (s.reverse ++ text) run' l' := by
  induction s with
  | nil => exact fun h ↦ ⟨_, _, rfl, h⟩
  | cons c s ih =>
    intro text run l h
    -- what is left is written as behind so many quotes
    have hnext : ∀ (first : List Char) {run' : Nat}, (∃ l', l.read? first = some l' ∧
        InString tokens .double triple (c :: text) run' l') →
        ∃ l' run'', l.read? (first ++ escapedFrom triple run' s) = some l' ∧
          InString tokens .double triple ((c :: s).reverse ++ text) run'' l' := by
      rintro first run' ⟨l', hl', h'⟩
      obtain ⟨l'', run'', hl'', h''⟩ := ih h'
      refine ⟨l'', run'', by rw [Lexer.read?_append_of_read hl', hl''], ?_⟩
      rw [List.reverse_cons, List.append_assoc]
      exact h''
    rw [escapedFrom]
    split
    · rename_i hquote
      cases hquote
      split
      · rename_i hfree
        obtain ⟨l', hl', h'⟩ := h.mark hfree
        exact hnext ['"'] ⟨l', Lexer.read?_cons_of_step hl', h'⟩
      · exact hnext ['\\', '"'] (h.escape fun _ _ ↦ rfl)
    · rename_i hquote
      split
      · rename_i e he
        obtain ⟨tail, rfl, htail⟩ := escape?_eq_some he
        exact hnext ('\\' :: tail) (h.escape htail)
      · rename_i he
        obtain ⟨hbackslash, hcode, hbreak⟩ := escape?_eq_none he
        obtain ⟨l', hl', h'⟩ := h.char hquote (fun hc ↦ absurd hc hbackslash) hcode hbreak
        exact hnext [c] ⟨l', Lexer.read?_cons_of_step hl', h'⟩

end Inside

/-! ## Strings -/

/-- A body between single marks. -/
theorem written_single (q : Quote) {body text : List Char}
    (hbody : ∀ tokens, ∃ l run, (Lexer.mk tokens (.string q false [])).read? body = some l ∧
      InString tokens q false text.reverse run l)
    (hhead : body.head? ≠ some q.mark) :
    Written (q.mark :: (body ++ [q.mark])) (.string false text) := by
  intro tokens d rest hd
  obtain ⟨l, run, hread, hl⟩ := hbody tokens
  have hopen : (Lexer.mk tokens .between).step? q.mark = some ⟨tokens, .opening q false⟩ := by
    cases q <;> rfl
  rw [List.cons_append, Lexer.read?_cons_of_step hopen]
  cases body with
  | nil =>
    -- two marks are only known not to be three by what is behind them
    cases hread
    have hend := hl.end_single
    have hclose : (Lexer.mk tokens (.opening q false)).step? q.mark =
        some ⟨tokens, .opening q true⟩ := if_pos rfl
    have hstart : (Lexer.mk tokens (.string q false [])).step? q.mark =
        some ⟨.string false [] :: tokens, .between⟩ := if_pos rfl
    rw [hstart, List.reverse_reverse] at hend
    cases hend
    rw [List.nil_append, List.cons_append, Lexer.read?_cons_of_step hclose, List.nil_append,
      Lexer.read?_cons, Lexer.read?_cons, Lexer.step?_opening, if_neg (ne_of_isMark hd q),
      Lexer.step?_between]
    rfl
  | cons c body =>
    have hc : c ≠ q.mark := fun h ↦ hhead (h ▸ rfl)
    have hsame : (Lexer.mk tokens (.opening q false)).read? (c :: body) = some l := by
      rw [← hread, Lexer.read?_cons, Lexer.read?_cons, Lexer.step?_opening, if_neg hc,
        Lexer.step?_string]
      rfl
    rw [List.append_assoc, Lexer.read?_append_of_read hsame, List.cons_append,
      Lexer.read?_cons_of_step hl.end_single, List.reverse_reverse]
    rfl

/-- A body between three marks, behind a line break that does not count. -/
theorem written_triple (q : Quote) {first body text : List Char}
    (hbody : ∀ tokens, ∃ l run, (Lexer.mk tokens (.string q true [])).read? body = some l ∧
      InString tokens q true text.reverse run l)
    (hfirst : first = ['\n'] ∨ first = [] ∧ body.head? ≠ some '\n' ∧ body.head? ≠ some '\r') :
    Written ([q.mark, q.mark, q.mark] ++ first ++ body ++ [q.mark, q.mark, q.mark])
      (.string true text) := by
  intro tokens d rest hd
  obtain ⟨l, run, hread, hl⟩ := hbody tokens
  have hopen : ∀ s, (Lexer.mk tokens .between).read? (q.mark :: q.mark :: q.mark :: s) =
      (Lexer.mk tokens (.fresh q)).read? s := by
    intro s
    cases q <;> rfl
  have hbegin : (Lexer.mk tokens (.fresh q)).read?
        (first ++ (body ++ q.mark :: q.mark :: q.mark :: d :: rest)) =
      (Lexer.mk tokens (.string q true [])).read?
        (body ++ q.mark :: q.mark :: q.mark :: d :: rest) := by
    have hfresh : ∀ {c : Char} {s : List Char}, c ≠ '\n' → c ≠ '\r' →
        (Lexer.mk tokens (.fresh q)).read? (c :: s) =
          (Lexer.mk tokens (.string q true [])).read? (c :: s) := by
      intro c s hline hreturn
      rw [Lexer.read?_cons, Lexer.read?_cons, Lexer.step?_fresh, if_neg hline, if_neg hreturn,
        Lexer.step?_string]
    rcases hfirst with rfl | ⟨rfl, hline, hreturn⟩
    · rfl
    · cases body with
      | nil => exact hfresh (by cases q <;> decide) (by cases q <;> decide)
      | cons c body => exact hfresh (fun h ↦ hline (h ▸ rfl)) fun h ↦ hreturn (h ▸ rfl)
  have hsplit : [q.mark, q.mark, q.mark] ++ first ++ body ++ [q.mark, q.mark, q.mark] ++ d :: rest =
      q.mark :: q.mark :: q.mark ::
        (first ++ (body ++ q.mark :: q.mark :: q.mark :: d :: rest)) := by
    simp
  rw [hsplit, hopen, hbegin, Lexer.read?_append_of_read hread,
    hl.end_triple (ne_of_isMark hd q), List.reverse_reverse]

/-- The first character of a body with escapes. -/
theorem head?_escapedFrom {triple : Bool} {s : List Char} {c : Char}
    (h : (escapedFrom triple 0 s).head? = some c) :
    c = '\\' ∨ s.head? = some c ∧ (c = '"' → triple = true) ∧ needsCode c = false := by
  cases s with
  | nil => cases h
  | cons d s =>
    rw [escapedFrom] at h
    split at h
    · rename_i hquote
      cases hquote
      split at h
      · rename_i hfree
        cases h
        cases triple with
        | false => exact absurd hfree (Nat.lt_irrefl 0)
        | true => exact .inr ⟨rfl, fun _ ↦ rfl, by decide⟩
      · cases h
        exact .inl rfl
    · rename_i hquote
      split at h
      · rename_i e he
        obtain ⟨tail, rfl, -⟩ := escape?_eq_some he
        cases h
        exact .inl rfl
      · rename_i he
        cases h
        exact .inr ⟨rfl, fun hc ↦ absurd hc hquote, (escape?_eq_none he).2.1⟩

/-- No character of a text needs a code if the text needs none. -/
theorem needsCode_of_mem {s : List Char} (h : s.any needsCode = false) {c : Char} (hc : c ∈ s) :
    needsCode c = false :=
  Bool.eq_false_iff.mpr (List.any_eq_false.mp h c hc)

/-- A text that was searched for a character does not hold it. -/
theorem not_mem_of_contains {s : List Char} {c : Char} (h : s.contains c = false) : c ∉ s :=
  fun hc ↦ by rw [List.contains_iff_mem.mpr hc] at h; cases h

/-- The line break in front of a text is there if the text has one. -/
theorem opening_cases {s : List Char} {P : Prop} (h : '\n' ∉ s → P) :
    opening (traits s) = ['\n'] ∨ opening (traits s) = [] ∧ P := by
  rw [opening]
  cases hline : (traits s).lineBreak with
  | true => exact .inl rfl
  | false => exact .inr ⟨rfl, h (not_mem_of_contains hline)⟩

/-- A text between double quotes, with escapes. -/
theorem written_basic (s : List Char) :
    Written ('"' :: (escaped false s ++ ['"'])) (.string false s) := by
  refine written_single .double (fun tokens ↦ ?_) fun h ↦ ?_
  · obtain ⟨l, run, hread, hl⟩ := InString.read?_escapedFrom (s := s)
      (@InString.start tokens .double false [])
    exact ⟨l, run, hread, List.append_nil s.reverse ▸ hl⟩
  · rcases head?_escapedFrom h with hc | ⟨-, hc, -⟩
    · exact absurd hc (by decide)
    · cases hc rfl

/-- A text between single quotes, in which none stands. -/
theorem written_literal {s : List Char} (hcode : s.any needsCode = false)
    (hline : s.contains '\n' = false) (hruns : longestRun '\'' 0 s = 0) :
    Written ('\'' :: (s ++ ['\''])) (.string false s) := by
  have hplain : ∀ c ∈ s, needsCode c = false ∧ (c = '\n' → false = true) := fun c hc ↦
    ⟨needsCode_of_mem hcode hc, fun h ↦ absurd (h ▸ hc) (not_mem_of_contains hline)⟩
  refine written_single .single (fun tokens ↦ ?_) fun h ↦ ?_
  · obtain ⟨l, run, hread, hl⟩ := InString.read?_literal
      (@InString.start tokens .single false [])
      hplain (Nat.le_of_eq hruns)
    exact ⟨l, run, hread, List.append_nil s.reverse ▸ hl⟩
  · cases s with
    | nil => cases h
    | cons c s =>
      have hc : c = '\'' := Option.some_inj.mp h
      have hone : 1 ≤ longestRun '\'' (0 + 1) s := le_longestRun '\'' (0 + 1) s
      rw [longestRun, if_pos hc] at hruns
      omega

/-- A text of several lines between three double quotes each, with escapes. -/
theorem written_tripleBasic (s : List Char) :
    Written (['"', '"', '"'] ++ opening (traits s) ++ escaped true s ++ ['"', '"', '"'])
      (.string true s) := by
  refine written_triple .double (fun tokens ↦ ?_)
    (opening_cases fun hline ↦ ⟨fun h ↦ ?_, fun h ↦ ?_⟩)
  · obtain ⟨l, run, hread, hl⟩ := InString.read?_escapedFrom (s := s)
      (@InString.start tokens .double true [])
    exact ⟨l, run, hread, List.append_nil s.reverse ▸ hl⟩
  · rcases head?_escapedFrom h with hc | ⟨hc, -, -⟩
    · exact absurd hc (by decide)
    · exact hline (List.mem_of_mem_head? hc)
  · rcases head?_escapedFrom h with hc | ⟨-, -, hc⟩
    · exact absurd hc (by decide)
    · exact absurd hc (by decide)

/-- A text of several lines between three single quotes each, in which no three stand in a row. -/
theorem written_tripleLiteral {s : List Char} (hcode : s.any needsCode = false)
    (hruns : longestRun '\'' 0 s ≤ 2) :
    Written (['\'', '\'', '\''] ++ opening (traits s) ++ s ++ ['\'', '\'', '\''])
      (.string true s) := by
  refine written_triple .single (fun tokens ↦ ?_)
    (opening_cases fun hline ↦ ⟨fun h ↦ ?_, fun h ↦ ?_⟩)
  · obtain ⟨l, run, hread, hl⟩ := InString.read?_literal
      (@InString.start tokens .single true [])
      (fun c hc ↦ ⟨needsCode_of_mem hcode hc, fun _ ↦ rfl⟩) hruns
    exact ⟨l, run, hread, List.append_nil s.reverse ▸ hl⟩
  · exact hline (List.mem_of_mem_head? h)
  · exact absurd (needsCode_of_mem hcode (List.mem_of_mem_head? h)) (by decide)

/-! ## Keys and values -/

end Token

/-- Whether a string in this form stands in three quotes. -/
def StringForm.isTriple : StringForm → Bool
  | .basic | .literal => false
  | .tripleBasic | .tripleLiteral => true

namespace Token

/-- The token that a written string is. -/
def ofString (s : String) : Token :=
  .string (StringForm.ofTraits (traits s.toList)).isTriple s.toList

/-- The token that a written key is. -/
def ofKey (s : String) : Token :=
  if isBareKey s.toList then .atom s.toList else .string false s.toList

/-- A writer chooses single quotes for a line that needs no codes and holds no single quote. -/
theorem traits_of_literal {t : Traits} (h : StringForm.ofTraits t = .literal) :
    t.code = false ∧ t.singleRun = 0 ∧ t.lineBreak = false := by
  rw [StringForm.ofTraits] at h
  split at h
  · cases h
  split at h
  · rename_i hliteral
    simp only [Bool.and_eq_true, Bool.not_eq_true', beq_iff_eq] at hliteral
    exact ⟨hliteral.1.1, hliteral.1.2, hliteral.2⟩
  split at h
  · cases h
  split at h
  · cases h
  split at h <;> cases h

/-- It chooses three of them only if no three stand in a row. -/
theorem traits_of_tripleLiteral {t : Traits} (h : StringForm.ofTraits t = .tripleLiteral) :
    t.code = false ∧ t.singleRun ≤ 2 := by
  rw [StringForm.ofTraits] at h
  split at h
  · cases h
  split at h
  · cases h
  split at h
  · cases h
  split at h
  · rename_i hliteral
    simp only [Bool.and_eq_true, Bool.not_eq_true', decide_eq_true_eq] at hliteral
    exact hliteral
  split at h <;> cases h

/-- **A written string is read as one**, in whichever form it is written. -/
theorem written_string (s : String) : Written (writeString s) (ofString s) := by
  rw [writeString, ofString]
  cases h : StringForm.ofTraits (traits s.toList) with
  | basic => exact written_basic s.toList
  | literal =>
    obtain ⟨hcode, hruns, hline⟩ := traits_of_literal h
    exact written_literal hcode hline hruns
  | tripleBasic => exact written_tripleBasic s.toList
  | tripleLiteral =>
    obtain ⟨hcode, hruns⟩ := traits_of_tripleLiteral h
    exact written_tripleLiteral hcode hruns

/-- **A written key is read as one.** -/
theorem written_key (s : String) : Written (writeKey s) (ofKey s) := by
  rw [writeKey, ofKey]
  split
  · rename_i hbare
    rw [isBareKey, Bool.and_eq_true, bne_iff_ne, List.all_eq_true] at hbare
    exact written_atom hbare.1 fun c hc ↦ endsAtom_of_plain (hbare.2 c hc)
  · split
    · exact written_basic s.toList
    · split
      · rename_i hliteral
        simp only [Bool.and_eq_true, Bool.not_eq_true', beq_iff_eq] at hliteral
        exact written_literal hliteral.1.1 hliteral.1.2 hliteral.2
      · exact written_basic s.toList

/-! ## Lines -/

/-- The tokens of an entry on a line of its own. -/
def ofEntry (key : String) (value : Token) : List Token :=
  [ofKey key, .blank [' '], .equals, .blank [' '], value, .lineBreak]

/-- The tokens of a header on a line of its own. -/
def ofHeader (path : List String) : List Token :=
  .openSquare :: ((path.map ofKey).intersperse .dot ++ [.closeSquare, .lineBreak])

/-- The line of an entry, from what is known of its value.  The blank behind the equals sign is
only complete in front of the value, so the value must not begin with a blank. -/
theorem lexes_entry (key : String) {value : List Char} {v : Token} (hvalue : Written value v)
    (hhead : ∀ c ∈ value.head?, isBlank c = false) (hne : value ≠ []) :
    Lexes (writeKey key ++ ' ' :: '=' :: ' ' :: (value ++ ['\n'])) (ofEntry key v) := by
  intro tokens
  have hspace : ∀ tokens : List Token, (Lexer.mk tokens .between).step? ' ' =
      some ⟨tokens, .blank [' ']⟩ := fun _ ↦ rfl
  have hequals : ∀ tokens : List Token, (Lexer.mk tokens .between).step? '=' =
      some ⟨.equals :: tokens, .between⟩ := fun _ ↦ rfl
  rw [written_key key tokens ' ' _ rfl, Lexer.read?_cons_of_step (hspace _), read?_blank _ _ rfl,
    Lexer.read?_cons_of_step (hequals _), Lexer.read?_cons_of_step (hspace _)]
  cases value with
  | nil => exact absurd rfl hne
  | cons c value =>
    rw [List.cons_append, read?_blank _ _ (hhead c rfl), ← List.cons_append,
      (hvalue.mark rfl : Lexes _ [v, .lineBreak])]
    rfl

/-- The keys of a path, with dots between them and the bracket that ends the last one. -/
theorem lexes_keys : ∀ {path : List String}, path ≠ [] →
    Lexes (((path.map writeKey).intersperse ['.']).flatten ++ [']'])
      ((path.map ofKey).intersperse .dot ++ [.closeSquare])
  | [], h => absurd rfl h
  | [key], _ => by
    simpa using (written_key key).mark (d := ']') rfl
  | key :: next :: path, _ => by
    have hfirst : Lexes (writeKey key ++ ['.']) [ofKey key, .dot] := (written_key key).mark rfl
    have hrest := @lexes_keys (next :: path) (List.cons_ne_nil _ _)
    simpa using hfirst.append hrest

/-- The line of a header. -/
theorem lexes_header {path : List String} (h : path ≠ []) :
    Lexes (headerLine path) (ofHeader path) := by
  have hopen : Lexes ['['] [.openSquare] := .ofChar rfl
  have hbreak : Lexes ['\n'] [.lineBreak] := .ofChar rfl
  simpa [headerLine, ofHeader] using hopen.append ((lexes_keys h).append hbreak)

/-- A written string begins with a quote, in every form. -/
theorem exists_mark_of_writeString (s : String) :
    ∃ (q : Quote) (rest : List Char), writeString s = q.mark :: rest := by
  rw [writeString]
  cases StringForm.ofTraits (traits s.toList) with
  | basic | tripleBasic => exact ⟨.double, _, rfl⟩
  | literal | tripleLiteral => exact ⟨.single, _, rfl⟩

/-- The line of a string. -/
theorem lexes_stringLine (key value : String) :
    Lexes (stringLine key value) (ofEntry key (ofString value)) := by
  obtain ⟨q, rest, hstart⟩ := exists_mark_of_writeString value
  refine lexes_entry key (written_string value) (fun c hc ↦ ?_) ?_
  · rw [hstart] at hc
    cases hc
    cases q <;> rfl
  · rw [hstart]
    exact List.cons_ne_nil _ _

/-- The line of a number. -/
theorem lexes_numberLine (key : String) (n : Nat) :
    Lexes (numberLine key n) (ofEntry key (.atom (Nat.toDigits 10 n))) := by
  refine lexes_entry key (written_digits n) (fun c hc ↦ ?_) Nat.toDigits_ne_nil
  have hdigit := Nat.isDigit_of_mem_toDigits (by decide) (by decide) (List.mem_of_mem_head? hc)
  rw [isBlank, Bool.or_eq_false_iff, beq_eq_false_iff_ne, beq_eq_false_iff_ne]
  constructor <;> rintro rfl <;> cases hdigit

end Token
end Toml
end ResourceManager
