import Mathlib.Data.List.TakeWhile
import ResourceManager.Json.Tree
import ResourceManager.Proofs.Records
import ResourceManager.Proofs.Statements

/-!
# Written JSON is read as its tree

A string that is written is read as one token whatever follows it.  A word or a number is complete
only behind the mark that follows it: `Lexer.Rests` says that the lexer has come so far, `Written s
tokens` that a text brings it there.  `Spells v t` puts the two stages of the reader together: the
text of the value `v` is read as the tree `t`.  It holds of words, of strings, of natural numbers,
and of arrays and objects whose items and members it holds of (`spells_array`, `spells_object`).

Values nest, and the reader of trees keeps a stack of what is open.  So `Spells` is stated over any
stack: where a value is expected, its tokens close the tree of the value over the stack that was
there.  With this, an array is an induction on its items and no statement about depth is needed.
-/

set_option autoImplicit false

namespace ResourceManager
namespace Json

/-! ## Numerals -/

namespace Numeral

/-- The numeral of a natural number. -/
def ofNat (n : Nat) : Numeral := ⟨false, Nat.toDigits 10 n, none, none⟩

theorem isPart_of_isDigit {c : Char} (h : c.isDigit = true) : isPart c = true := by
  simp [isPart, h]

theorem isDigit_of_mem {n : Nat} : ∀ c ∈ Nat.toDigits 10 n, c.isDigit = true :=
  fun _ hc ↦ Nat.isDigit_of_mem_toDigits (by decide) (by decide) hc

theorem ofChars?_toDigits (n : Nat) : ofChars? (Nat.toDigits 10 n) = some (ofNat n) := by
  have hwhole : (Nat.toDigits 10 n).takeWhile Char.isDigit = Nat.toDigits 10 n :=
    List.takeWhile_eq_self_iff.mpr isDigit_of_mem
  have hrest : (Nat.toDigits 10 n).dropWhile Char.isDigit = [] :=
    List.dropWhile_eq_nil_iff.mpr isDigit_of_mem
  have hzero : ¬ (Nat.toDigits 10 n = [] ∨
      ((Nat.toDigits 10 n).head? = some '0' ∧ (Nat.toDigits 10 n).length ≠ 1)) := by
    rintro (hnil | ⟨hhead, hlength⟩)
    · exact Nat.toDigits_ne_nil hnil
    · rw [Toml.Statement.toDigits_of_head? hhead] at hlength
      exact hlength rfl
  have hunsigned : unsigned? false (Nat.toDigits 10 n) = some (ofNat n) := by
    simp only [unsigned?, hwhole, hrest, if_neg hzero]
    rfl
  rw [ofChars?.eq_def]
  split
  · rename_i rest hs
    exact absurd (isDigit_of_mem '-' (hs ▸ List.mem_cons_self)) (by decide)
  · exact hunsigned

theorem value?_ofNat {n : Nat} (h : n ≤ maxWord) : (ofNat n).value? = some (.integer n) := by
  have hexact : Nat.ofDigitChars 10 (Nat.toDigits 10 n) 0 = n :=
    Nat.ofDigitChars_toDigits (by decide) (by decide)
  simp only [value?, ofNat, hexact, Option.isSome_none, Bool.false_eq_true, or_self, if_false,
    if_pos h]

end Numeral

namespace Token

/-! ## Reading in parts -/

/-- What becomes of the lexer when it reads a text. -/
def Lexer.read? (l : Lexer) (s : List Char) : Option Lexer := (s.map some).foldlM Lexer.step? l

namespace Lexer

variable {l l' : Lexer} {c : Char} {s t : List Char}

@[simp] theorem read?_nil (l : Lexer) : l.read? [] = some l := rfl

theorem read?_cons_of_step (h : l.step? (some c) = some l') : l.read? (c :: s) = l'.read? s := by
  rw [read?, List.map_cons, List.foldlM_cons, h]
  rfl

theorem read?_append_of_read (h : l.read? s = some l') : l.read? (s ++ t) = l'.read? t := by
  rw [read?] at h
  rw [read?, List.map_append, List.foldlM_append, h]
  rfl

end Lexer

/-! ## Strings

The lexer keeps a string in pieces, because an escape may give half of a character only.  A writer
escapes control characters alone, and each of them is a whole character, so the pieces are put
together without any being left over.
-/

/-- What a character of a string is read as. -/
inductive Stands : Char → Piece → Prop
  | symbol (c : Char) : Stands c (.symbol (some c))
  | codeUnit {c : Char} (h : c.toNat < 0x20) : Stands c (.codeUnit c.toNat)

theorem assemble_codeUnit {n : Nat} (h : n < 0x20) (rest : List Piece) :
    assemble (.codeUnit n :: rest) = (assemble rest).map (Char.ofNat n :: ·) := by
  have hhigh : isHighSurrogate n = false := by simp [isHighSurrogate]; omega
  have hlow : isLowSurrogate n = false := by simp [isLowSurrogate]; omega
  cases rest with
  | nil => simp [assemble, hhigh, hlow]
  | cons piece rest =>
    cases piece with
    | symbol => simp [assemble, hhigh, hlow]
    | codeUnit => simp [assemble, hhigh, hlow]

/-- The pieces of a string are put together to the string. -/
theorem assemble_of_stands {s : List Char} {pieces : List Piece}
    (h : List.Forall₂ Stands s pieces) : assemble pieces = some s := by
  induction h with
  | nil => rfl
  | cons hc _ ih =>
    cases hc with
    | symbol => rw [assemble, ih]; rfl
    | codeUnit hlt => rw [assemble_codeUnit hlt, ih, Option.map_some, Char.ofNat_toNat]

/-- A character below the blank is written in four hexadecimal digits. -/
theorem read?_codeUnit (before : List Token) (pieces : List Piece) {n : Nat} (h : n < 0x20) :
    (Lexer.mk before (.string pieces)).read?
        ['\\', 'u', '0', '0', Hex.lowerDigit (n / 16), Hex.lowerDigit (n % 16)] =
      some ⟨before, .string (.codeUnit n :: pieces)⟩ := by
  have hhigh := Hex.value?_lowerDigit (n := n / 16) (by omega)
  have hlow := Hex.value?_lowerDigit (n := n % 16) (Nat.mod_lt _ (by decide))
  have hzero : Hex.value? '0' = some 0 := rfl
  have hvalue : 16 * (n / 16) + n % 16 = n := Nat.div_add_mod n 16
  simp [Lexer.read?, Lexer.step?, hzero, hhigh, hlow, hvalue]

theorem read?_writeChar (before : List Token) (pieces : List Piece) (c : Char) :
    ∃ piece, Stands c piece ∧
      (Lexer.mk before (.string pieces)).read? (writeChar c) =
        some ⟨before, .string (piece :: pieces)⟩ := by
  by_cases hshort : c ∈ ['"', '\\', '\x08', '\x0c', '\n', '\r', '\t']
  · simp only [List.mem_cons, List.not_mem_nil, or_false] at hshort
    rcases hshort with rfl | rfl | rfl | rfl | rfl | rfl | rfl <;> exact ⟨_, .symbol _, rfl⟩
  simp only [List.mem_cons, List.not_mem_nil, or_false, not_or] at hshort
  obtain ⟨hquote, hbackslash, hothers⟩ := hshort
  by_cases hcontrol : c.toNat < 0x20
  · refine ⟨_, .codeUnit hcontrol, ?_⟩
    simp only [writeChar, escape?, hquote, hbackslash, hothers, hcontrol, if_true, if_false,
      Option.getD_some]
    exact read?_codeUnit before pieces hcontrol
  · refine ⟨_, .symbol c, ?_⟩
    have hstep : (Lexer.mk before (.string pieces)).step? (some c) =
        some ⟨before, .string (.symbol c :: pieces)⟩ := by
      simp [Lexer.step?, hquote, hbackslash, hcontrol]
    simp only [writeChar, escape?, hquote, hbackslash, hothers, hcontrol, if_false,
      Option.getD_none]
    rw [Lexer.read?_cons_of_step hstep, Lexer.read?_nil]

theorem read?_writeChars (before : List Token) (s : List Char) : ∀ pieces : List Piece,
    ∃ read, List.Forall₂ Stands s read ∧
      (Lexer.mk before (.string pieces)).read? (s.flatMap writeChar) =
        some ⟨before, .string (read.reverse ++ pieces)⟩ := by
  induction s with
  | nil => exact fun pieces ↦ ⟨[], .nil, rfl⟩
  | cons c s ih =>
    intro pieces
    obtain ⟨piece, hpiece, hchar⟩ := read?_writeChar before pieces c
    obtain ⟨read, hread, hrest⟩ := ih (piece :: pieces)
    refine ⟨piece :: read, .cons hpiece hread, ?_⟩
    rw [List.flatMap_cons, Lexer.read?_append_of_read hchar, hrest, List.reverse_cons,
      List.append_assoc]
    rfl

/-- A written string is read as one token. -/
theorem read?_writeString (before : List Token) (s : String) :
    (Lexer.mk before .between).read? (writeString s) =
      some ⟨.string (some s) :: before, .between⟩ := by
  obtain ⟨pieces, hpieces, hread⟩ := read?_writeChars before s.toList []
  rw [List.append_nil] at hread
  have hend : (Lexer.mk before (.string pieces.reverse)).step? (some '"') =
      some ⟨.string (some s) :: before, .between⟩ := by
    simp [Lexer.step?, assemble_of_stands hpieces]
  have hbegin : (Lexer.mk before .between).step? (some '"') = some ⟨before, .string []⟩ := rfl
  rw [writeString, Lexer.read?_cons_of_step hbegin, Lexer.read?_append_of_read hread,
    Lexer.read?_cons_of_step hend, Lexer.read?_nil]

/-! ## Numbers -/

theorem read?_parts (before : List Token) : ∀ {parts : List Char},
    (∀ c ∈ parts, Numeral.isPart c = true) → ∀ characters : List Char,
      (Lexer.mk before (.number characters)).read? parts =
        some ⟨before, .number (parts.reverse ++ characters)⟩
  | [], _, _ => rfl
  | c :: parts, h, characters => by
    have hpart := h c List.mem_cons_self
    have hstep : (Lexer.mk before (.number characters)).step? (some c) =
        some ⟨before, .number (c :: characters)⟩ := by
      simp [Lexer.step?, hpart]
    rw [Lexer.read?_cons_of_step hstep,
      read?_parts before (fun d hd ↦ h d (List.mem_cons_of_mem _ hd)), List.reverse_cons,
      List.append_assoc]
    rfl

theorem start?_digit (before : List Token) {c : Char} (h : c.isDigit = true) :
    Lexer.start? before c = some ⟨before, .number [c]⟩ := by
  have hne : ∀ {d : Char}, d.isDigit = false → (c == d) = false := by
    intro d hd
    refine beq_eq_false_iff_ne.mpr ?_
    rintro rfl
    rw [h] at hd
    cases hd
  have hblank : isBlank c = false := by
    simp [isBlank, hne (d := ' ') rfl, hne (d := '\t') rfl, hne (d := '\n') rfl,
      hne (d := '\r') rfl]
  have hquote : c ≠ '"' := ne_of_beq_false (hne rfl)
  have hpart : (Numeral.isPart c && c != 'e' && c != 'E') = true := by
    simp [Numeral.isPart, h, bne, hne (d := 'e') rfl, hne (d := 'E') rfl]
  rw [Lexer.start?, hblank, if_neg Bool.false_ne_true, if_neg hquote, if_pos hpart]

theorem start?_number (before : List Token) {c : Char} (h : c = '-' ∨ c.isDigit = true) :
    Lexer.start? before c = some ⟨before, .number [c]⟩ := by
  rcases h with rfl | h
  · rfl
  · exact start?_digit before h

/-! ## Texts of tokens

A piece of text may end inside a word or a number that would go on.  `Rests` allows for this, and
the mark behind the piece settles it.
-/

/-- Whether the lexer has come to the end of the tokens, but for the end of a word or a number. -/
inductive Lexer.Rests (tokens : List Token) : Lexer → Prop
  | between : Rests tokens ⟨tokens, .between⟩
  | word {before : List Token} {t : Token} {letters : List Char}
      (h : ofWord? letters.reverse = some t) (htokens : tokens = t :: before) :
      Rests tokens ⟨before, .word letters⟩
  | number {before : List Token} {n : Numeral} {characters : List Char}
      (h : Numeral.ofChars? characters.reverse = some n) (htokens : tokens = .number n :: before) :
      Rests tokens ⟨before, .number characters⟩

namespace Lexer.Rests

variable {tokens : List Token} {l : Lexer}

theorem settle? (h : l.Rests tokens) : l.settle? = some tokens := by
  cases h with
  | between => rfl
  | word h htokens => simp [Lexer.settle?, h, htokens]
  | number h htokens => simp [Lexer.settle?, h, htokens]

theorem start?_mark (tokens : List Token) {c : Char} {t : Token} (h : ofChar? c = some t) :
    start? tokens c = some ⟨t :: tokens, .between⟩ ∧ Numeral.isPart c = false ∧
      c.isAlpha = false := by
  rw [ofChar?.eq_def] at h
  split at h <;> cases h <;> exact ⟨rfl, rfl, rfl⟩

/-- A mark ends what stands before it. -/
theorem step? (h : l.Rests tokens) {c : Char} {t : Token} (hc : ofChar? c = some t) :
    l.step? (some c) = some ⟨t :: tokens, .between⟩ := by
  obtain ⟨hstart, hpart, halpha⟩ := start?_mark tokens hc
  cases h with
  | between => exact hstart
  | word h htokens =>
    have hsettle := settle? (.word h htokens)
    simp [Lexer.step?, halpha, hsettle, hstart]
  | number h htokens =>
    have hsettle := settle? (.number h htokens)
    simp [Lexer.step?, hpart, hsettle, hstart]

end Lexer.Rests

/-- Whether the characters are read as the tokens, wherever they begin. -/
def Written (s : List Char) (tokens : List Token) : Prop :=
  ∀ before, ∃ l, (Lexer.mk before .between).read? s = some l ∧
    l.Rests (tokens.reverse ++ before)

namespace Written

variable {s t : List Char} {tokens more : List Token}

theorem nil : Written [] [] := fun _ ↦ ⟨_, rfl, .between⟩

theorem string (s : String) : Written (writeString s) [.string (some s)] :=
  fun before ↦ ⟨_, read?_writeString before s, .between⟩

/-- A numeral whose first character begins a number is read as one token. -/
theorem parts {c : Char} {n : Numeral} (hc : c = '-' ∨ c.isDigit = true)
    (hparts : ∀ d ∈ s, Numeral.isPart d = true) (h : Numeral.ofChars? (c :: s) = some n) :
    Written (c :: s) [.number n] := by
  intro before
  have hstart : (Lexer.mk before .between).step? (some c) = some ⟨before, .number [c]⟩ :=
    start?_number before hc
  refine ⟨_, (Lexer.read?_cons_of_step hstart).trans (read?_parts before hparts [c]),
    .number ?_ rfl⟩
  rwa [List.reverse_append, List.reverse_reverse]

theorem natural (n : Nat) : Written (Nat.toDigits 10 n) [.number (.ofNat n)] := by
  have hdigits := Numeral.isDigit_of_mem (n := n)
  have hnumeral := Numeral.ofChars?_toDigits n
  cases hs : Nat.toDigits 10 n with
  | nil => exact absurd hs Nat.toDigits_ne_nil
  | cons c digits =>
    rw [hs] at hdigits hnumeral
    refine parts (.inr (hdigits c List.mem_cons_self)) (fun d hd ↦ ?_) hnumeral
    exact Numeral.isPart_of_isDigit (hdigits d (List.mem_cons_of_mem _ hd))

theorem null : Written ['n', 'u', 'l', 'l'] [.null] := fun _ ↦ ⟨_, rfl, .word rfl rfl⟩

theorem bool (b : Bool) : Written (write (.bool b)) [.bool b] := by
  intro before
  cases b with
  | true => exact ⟨_, rfl, .word rfl rfl⟩
  | false => exact ⟨_, rfl, .word rfl rfl⟩

/-- Two texts with a mark between them. -/
theorem mark (h : Written s tokens) {c : Char} {m : Token} (hc : ofChar? c = some m)
    (h' : Written t more) : Written (s ++ c :: t) (tokens ++ m :: more) := by
  intro before
  obtain ⟨l, hread, hrests⟩ := h before
  obtain ⟨l', hread', hrests'⟩ := h' (m :: (tokens.reverse ++ before))
  refine ⟨l', ?_, ?_⟩
  · rw [Lexer.read?_append_of_read hread, Lexer.read?_cons_of_step (hrests.step? hc), hread']
  · simpa using hrests'

theorem scan? (h : Written s tokens) : Token.scan? (s.map some) = some tokens := by
  obtain ⟨l, hread, hrests⟩ := h []
  rw [Lexer.read?] at hread
  have hsettle := hrests.settle?
  simp [Token.scan?, hread, hsettle]

end Written

end Token

/-! ## Values -/

/-- Whether the text of a value is read as the tree. -/
def Spells (v : Json) (t : Tree) : Prop :=
  ∃ tokens, Token.Written v.write tokens ∧
    ∀ stack, tokens.foldlM Tree.step? (.value stack) = some (Tree.close t stack)

theorem Spells.ofSymbols? {v : Json} {t : Tree} (h : v.Spells t) :
    Tree.ofSymbols? (v.write.map some) = some t := by
  obtain ⟨tokens, hwritten, hread⟩ := h
  rw [Tree.ofSymbols?, hwritten.scan?, Option.bind_eq_bind, Option.bind_some, Tree.ofTokens?,
    hread []]
  rfl

theorem spells_string (s : String) : Spells (.string s) (.string (some s)) :=
  ⟨_, .string s, fun _ ↦ rfl⟩

theorem spells_natural (n : Nat) : Spells (.integer n) (.number (.ofNat n)) :=
  ⟨_, .natural n, fun _ ↦ rfl⟩

theorem spells_null : Spells .null .null :=
  ⟨_, .null, fun _ ↦ rfl⟩

theorem spells_bool (b : Bool) : Spells (.bool b) (.bool b) :=
  ⟨_, .bool b, fun _ ↦ rfl⟩

/-! ## Arrays

A writer puts a comma in front of every item but the first, and the reader has a state of its own
behind the opening bracket, where the array may also end.
-/

/-- Whether the text of the items after the first is read as these trees, behind any text and over
any stack. -/
def ItemsSpell (items : List Json) (trees : List Tree) : Prop :=
  ∃ tokens, (∀ {s before}, Token.Written s before →
      Token.Written (s ++ writeItems items) (before ++ tokens)) ∧
    ∀ read stack, tokens.foldlM Tree.step? (.afterItem read stack) =
      some (Tree.close (.array (read.reverse ++ trees)) stack)

/-- An item and those behind it. -/
theorem spells_item {item : Json} {tree : Tree} (hitem : item.Spells tree) {items : List Json}
    {trees : List Tree} (h : ItemsSpell items trees) : ∃ tokens,
      Token.Written (item.write ++ writeItems items) tokens ∧
      ∀ read stack, tokens.foldlM Tree.step? (.value (.array read :: stack)) =
        some (Tree.close (.array (read.reverse ++ tree :: trees)) stack) := by
  obtain ⟨itemTokens, hwritten, hread⟩ := hitem
  obtain ⟨tokens, hitems, hreads⟩ := h
  refine ⟨itemTokens ++ tokens, hitems hwritten, fun read stack ↦ ?_⟩
  rw [List.foldlM_append, hread, Option.bind_eq_bind, Option.bind_some, Tree.close, hreads,
    List.reverse_cons, List.append_assoc]
  rfl

theorem itemsSpell_of_forall₂ {items : List Json} {trees : List Tree}
    (h : List.Forall₂ Spells items trees) : ItemsSpell items trees := by
  induction h with
  | nil =>
    refine ⟨[.closeArray], fun h ↦ ?_, fun read stack ↦ ?_⟩
    · rw [writeItems]
      exact h.mark rfl .nil
    · simp [Tree.step?]
  | cons hitem _ ih =>
    obtain ⟨tokens, hwritten, hreads⟩ := spells_item hitem ih
    refine ⟨.comma :: tokens, fun h ↦ ?_, fun read stack ↦ hreads read stack⟩
    rw [writeItems]
    exact h.mark rfl hwritten

/-- The first item of an array is read like any other, because no value begins with the end of the
array. -/
theorem foldlM_firstItem {tokens : List Token} {stack : List Tree.Open} {t : Tree}
    (h : tokens.foldlM Tree.step? (.value (.array [] :: stack)) = some (Tree.close t stack)) :
    tokens.foldlM Tree.step? (.firstItem stack) = some (Tree.close t stack) := by
  cases tokens with
  | nil =>
    -- nothing has been read, and a value is still expected
    cases stack with
    | nil => cases h
    | cons o stack => cases o <;> cases h
  | cons token rest =>
    cases token with
    | closeArray => cases h
    | _ => exact h

/-- An array whose items are read as trees is read as the array of the trees. -/
theorem spells_array {items : List Json} {trees : List Tree}
    (h : List.Forall₂ Spells items trees) : Spells (.array items) (.array trees) := by
  cases h with
  | nil =>
    refine ⟨[.openArray, .closeArray], ?_, fun _ ↦ rfl⟩
    rw [write]
    exact Token.Written.nil.mark rfl (Token.Written.nil.mark rfl .nil)
  | cons hitem hrest =>
    obtain ⟨tokens, hwritten, hreads⟩ := spells_item hitem (itemsSpell_of_forall₂ hrest)
    refine ⟨.openArray :: tokens, ?_, fun stack ↦ foldlM_firstItem (hreads [] stack)⟩
    rw [write]
    exact Token.Written.nil.mark rfl hwritten

/-! ## Objects -/

/-- The members of an object as the reader has them. -/
def namedTrees (trees : List (String × Tree)) : List (Option String × Tree) :=
  trees.map fun t ↦ (some t.1, t.2)

theorem Tree.namedMembers?_namedTrees (members : List (String × Tree)) :
    namedMembers? (namedTrees members) = some members := by
  induction members with
  | nil => rfl
  | cons m members ih =>
    rw [namedMembers?, namedTrees] at ih ⊢
    rw [List.map_cons, List.mapM_cons, ih]
    rfl

/-- Whether the text of the members after the first is read as these trees, behind any text and over
any stack. -/
def MembersSpell (members : List (String × Json)) (trees : List (String × Tree)) : Prop :=
  ∃ tokens, (∀ {s before}, Token.Written s before →
      Token.Written (s ++ writeMembers members) (before ++ tokens)) ∧
    ∀ read stack, tokens.foldlM Tree.step? (.afterMember read stack) =
      some (Tree.close (.object (read.reverse ++ namedTrees trees)) stack)

/-- A member and those behind it, from its name on. -/
theorem spells_member (name : String) {value : Json} {tree : Tree} (hvalue : value.Spells tree)
    {members : List (String × Json)} {trees : List (String × Tree)}
    (h : MembersSpell members trees) : ∃ tokens,
      Token.Written (writeString name ++ ':' :: (value.write ++ writeMembers members))
        (.string (some name) :: .colon :: tokens) ∧
      ∀ read stack, tokens.foldlM Tree.step? (.value (.object read (some name) :: stack)) =
        some (Tree.close (.object (read.reverse ++ namedTrees ((name, tree) :: trees))) stack) := by
  obtain ⟨valueTokens, hwritten, hread⟩ := hvalue
  obtain ⟨tokens, hmembers, hreads⟩ := h
  refine ⟨valueTokens ++ tokens, (Token.Written.string name).mark rfl (hmembers hwritten),
    fun read stack ↦ ?_⟩
  rw [List.foldlM_append, hread, Option.bind_eq_bind, Option.bind_some, Tree.close, hreads]
  simp [namedTrees]

theorem membersSpell_of_relate {members : List (String × Json)} {trees : List (String × Tree)}
    (h : Datum.MembersRelate Spells members trees) : MembersSpell members trees := by
  induction h with
  | nil =>
    refine ⟨[.closeObject], fun h ↦ ?_, fun read stack ↦ ?_⟩
    · rw [writeMembers]
      exact h.mark rfl .nil
    · simp [namedTrees, Tree.step?]
  | @cons m t _ _ hm _ ih =>
    obtain ⟨name, value⟩ := m
    obtain ⟨_, tree⟩ := t
    obtain ⟨rfl, hvalue⟩ := hm
    obtain ⟨tokens, hwritten, hreads⟩ := spells_member name hvalue ih
    refine ⟨.comma :: .string (some name) :: .colon :: tokens, fun h ↦ ?_,
      fun read stack ↦ hreads read stack⟩
    rw [writeMembers]
    exact h.mark rfl hwritten

/-- An object whose members are read as trees is read as the object of the trees. -/
theorem spells_object {members : List (String × Json)} {trees : List (String × Tree)}
    (h : Datum.MembersRelate Spells members trees) :
    Spells (.object members) (.object (namedTrees trees)) := by
  cases h with
  | nil =>
    refine ⟨[.openObject, .closeObject], ?_, fun _ ↦ rfl⟩
    rw [write]
    exact Token.Written.nil.mark rfl (Token.Written.nil.mark rfl .nil)
  | @cons m t _ _ hm hrest =>
    obtain ⟨name, value⟩ := m
    obtain ⟨_, tree⟩ := t
    obtain ⟨rfl, hvalue⟩ := hm
    obtain ⟨tokens, hwritten, hreads⟩ := spells_member name hvalue (membersSpell_of_relate hrest)
    refine ⟨.openObject :: .string (some name) :: .colon :: tokens, ?_,
      fun stack ↦ hreads [] stack⟩
    rw [write]
    exact Token.Written.nil.mark rfl hwritten

end Json
end ResourceManager
