import ResourceManager.Proofs.Lexing
import ResourceManager.Toml.Statement

/-!
# Slots in a text

A slot is a place for a value between the quotes of a string that is the value of an entry: what
stands in front of it ends behind an equals sign and an opening quote (`Token.Opens`), and what
stands behind it begins with the closing one.  A text may have several of them (`Token.AreSlots`).

Characters that need no escape are read as they are there.  So the tokens of the text are those of
what stands around the slots, with a string in each (`Token.scan?_fill`).

References in a text are replaced before the text is read.  That a value which is put in place of
one becomes the value of an entry, and no more than that, is a matter of what the lexer does at the
place: the value has to be plain (`Token.isPlain`), since a quote in it would end the string, and
the lexer must not have looked at the value when it reads on behind it.  The second is
`Lexer.step?_onTop`: the tokens that have been read do not decide what is read next.
-/

set_option autoImplicit false

namespace ResourceManager
namespace Toml
namespace Token

/-! ## Reading behind tokens

Each part of the lexer puts its tokens on top of those it is given, and takes none of them away.
There is one lemma for each function a step may call.
-/

/-- The lexer with tokens behind those it has read. -/
def Lexer.onTop (base : List Token) (l : Lexer) : Lexer := ⟨l.tokens ++ base, l.mode⟩

namespace Lexer

variable (base tokens : List Token) (c : Char)

/-- A character between tokens. -/
theorem start?_onTop : start? (tokens ++ base) c = (start? tokens c).map (onTop base) := by
  unfold start?
  cases ofChar? c with
  | some t => rfl
  | none =>
    simp only
    split
    · rfl
    split
    · rfl
    split
    · rfl
    split
    · rfl
    split <;> rfl

/-- A character inside a string. -/
theorem content?_onTop (q : Quote) (triple : Bool) (value : List Char) :
    content? (tokens ++ base) q triple value c =
      (content? tokens q triple value c).map (onTop base) := by
  unfold content?
  split
  · split <;> rfl
  split
  · rfl
  split
  · rfl
  split
  · rfl
  split <;> rfl

/-- The character behind a backslash. -/
theorem escaped?_onTop (triple : Bool) (value : List Char) :
    escaped? (tokens ++ base) triple value c =
      (escaped? tokens triple value c).map (onTop base) := by
  unfold escaped?
  cases simpleEscape? c with
  | some e => rfl
  | none =>
    cases escapeDigits? c with
    | some digits => rfl
    | none =>
      simp only
      split
      · rfl
      split
      · rfl
      split
      · rfl
      split <;> rfl

/-- A digit of an escape. -/
theorem digit?_onTop (triple : Bool) (value : List Char) (left number : Nat) :
    digit? (tokens ++ base) triple value left number c =
      (digit? tokens triple value left number c).map (onTop base) := by
  unfold digit?
  cases Hex.value? c with
  | none => rfl
  | some d =>
    simp only [Option.bind_eq_bind, Option.bind_some]
    split
    · cases ofCodePoint? (16 * number + d) <;> rfl
    · rfl

/-- The lexer never looks at the tokens it has read. -/
theorem step?_onTop (l : Lexer) : (l.onTop base).step? c = (l.step? c).map (onTop base) := by
  obtain ⟨tokens, mode⟩ := l
  cases mode with
  | between => exact start?_onTop base tokens c
  | carriage =>
    simp only [step?, onTop]
    split <;> rfl
  | blank written =>
    simp only [step?, onTop]
    split
    · rfl
    · exact start?_onTop base (_ :: tokens) c
  | comment =>
    simp only [step?, onTop]
    split
    · exact start?_onTop base tokens c
    split <;> rfl
  | atom written =>
    simp only [step?, onTop]
    split
    · exact start?_onTop base (_ :: tokens) c
    · rfl
  | opening q two =>
    simp only [step?, onTop]
    split
    · rfl
    split
    · exact start?_onTop base (_ :: tokens) c
    · exact content?_onTop base tokens c q false []
  | fresh q =>
    simp only [step?, onTop]
    split
    · rfl
    split
    · rfl
    · exact content?_onTop base tokens c q true []
  | freshCarriage q =>
    simp only [step?, onTop]
    split <;> rfl
  | string q triple value => exact content?_onTop base tokens c q triple value
  | stringCarriage q value =>
    simp only [step?, onTop]
    split <;> rfl
  | closing q value count =>
    simp only [step?, onTop]
    split
    · split <;> rfl
    split
    · exact start?_onTop base (_ :: tokens) c
    · exact content?_onTop base tokens c q true _
  | escape triple value => exact escaped?_onTop base tokens c triple value
  | codePoint triple value left number =>
    exact digit?_onTop base tokens c triple value left number
  | continuation value broken =>
    simp only [step?, onTop]
    split
    · rfl
    split
    · rfl
    split
    · rfl
    split
    · exact content?_onTop base tokens c .double true value
    · rfl
  | continuationCarriage value =>
    simp only [step?, onTop]
    split <;> rfl

/-- So a text is read behind tokens as it is read alone. -/
theorem read?_onTop (s : List Char) : ∀ l : Lexer,
    (l.onTop base).read? s = (l.read? s).map (onTop base) := by
  induction s with
  | nil => exact fun _ ↦ rfl
  | cons c s ih =>
    intro l
    rw [read?_cons, read?_cons, step?_onTop]
    cases l.step? c with
    | none => rfl
    | some l' => exact ih l'

/-- The end of a text adds the token that is still open, and keeps the others. -/
theorem finish?_onTop (l : Lexer) : (l.onTop base).finish? = l.finish?.map (· ++ base) := by
  obtain ⟨tokens, mode⟩ := l
  cases mode with
  | opening q two => cases two <;> rfl
  | closing q value count =>
    simp only [finish?, onTop]
    split <;> rfl
  | _ => rfl

end Lexer

/-! ## Slots

The value of a slot is not known yet, so a text with slots is a front and the pieces behind the
slots (`fill`).  Whether a place is a slot depends on what stands around it alone.
-/

/-- Whether a character stands for itself between double quotes. -/
def isPlain (c : Char) : Bool := isShown c && c != '"' && c != '\\'

/-- Whether a text ends behind an equals sign and the opening quote of a string. -/
def Opens (s : List Char) : Prop :=
  ∃ blanks before : List Token, (∀ t ∈ blanks, Statement.isBlank t = true) ∧
    (Lexer.mk [] .between).read? s =
      some ⟨blanks ++ .equals :: before, .opening .double false⟩

/-- A text of a front and pieces, with a value before each piece. -/
def fill (v front : List Char) (pieces : List (List Char)) : List Char :=
  front ++ pieces.flatMap (v ++ ·)

/-- Whether the places before the pieces are slots. -/
inductive AreSlots : List Char → List (List Char) → Prop
  | nil (front : List Char) : AreSlots front []
  | cons {front s : List Char} {pieces : List (List Char)} (hfront : Opens front)
      (hs : s.head? ≠ some '"') (h : AreSlots s pieces) : AreSlots front (('"' :: s) :: pieces)

/-- Whether tokens end behind an equals sign. -/
def EndsInEquals (tokens : List Token) : Prop :=
  ∃ before blanks : List Token, (∀ t ∈ blanks, Statement.isBlank t = true) ∧
    tokens = before ++ .equals :: blanks

/-- A front, the first value and the first piece with what follows it. -/
theorem fill_cons (v front piece : List Char) (pieces : List (List Char)) :
    fill v front (piece :: pieces) = front ++ (v ++ fill v piece pieces) := by
  rw [fill, fill, List.flatMap_cons, List.append_assoc]

/-- A quote at the beginning of a front stands in front of all. -/
theorem fill_cons_quote (v s : List Char) (pieces : List (List Char)) :
    fill v ('"' :: s) pieces = '"' :: fill v s pieces := rfl

variable {tokens : List Token} {v rest : List Char}

/-- A plain character is one of the string. -/
theorem content?_of_isPlain {c : Char} (h : isPlain c = true) (value : List Char) :
    Lexer.content? tokens .double false value c =
      some ⟨tokens, .string .double false (c :: value)⟩ := by
  simp only [isPlain, Bool.and_eq_true, bne_iff_ne, ne_eq] at h
  obtain ⟨⟨hshown, hquote⟩, hbackslash⟩ := h
  simp [Lexer.content?, Quote.mark, hshown, hquote, hbackslash]

/-- Plain characters are read as they are. -/
theorem read?_plain (h : ∀ c ∈ v, isPlain c = true) : ∀ value : List Char,
    (Lexer.mk tokens (.string .double false value)).read? v =
      some ⟨tokens, .string .double false (v.reverse ++ value)⟩ := by
  induction v with
  | nil => exact fun _ ↦ rfl
  | cons c v ih =>
    intro value
    have hstep : (Lexer.mk tokens (.string .double false value)).step? c =
        some ⟨tokens, .string .double false (c :: value)⟩ :=
      content?_of_isPlain (h c List.mem_cons_self) value
    rw [Lexer.read?_cons_of_step hstep, ih fun d hd ↦ h d (List.mem_cons_of_mem _ hd),
      List.reverse_cons, List.append_assoc]
    rfl

/-- Plain characters and the closing quote are read as a string, also when there are none. -/
theorem finish?_slot (h : ∀ c ∈ v, isPlain c = true) (hrest : rest.head? ≠ some '"') :
    ((Lexer.mk tokens (.opening .double false)).read? (v ++ '"' :: rest)).bind Lexer.finish? =
      ((Lexer.mk (.string false v :: tokens) .between).read? rest).bind Lexer.finish? := by
  cases v with
  | nil =>
    have hclose : (Lexer.mk tokens (.opening .double false)).step? '"' =
        some ⟨tokens, .opening .double true⟩ := rfl
    rw [List.nil_append, Lexer.read?_cons_of_step hclose]
    cases rest with
    | nil => rfl
    | cons d rest =>
      have hd : d ≠ Quote.double.mark := fun hd ↦ hrest (hd ▸ rfl)
      have hstep : (Lexer.mk tokens (.opening .double true)).step? d =
          (Lexer.mk (.string false [] :: tokens) .between).step? d := if_neg hd
      rw [Lexer.read?_cons, hstep, ← Lexer.read?_cons]
  | cons c v =>
    have hc := h c List.mem_cons_self
    have hquote : c ≠ Quote.double.mark := by
      rintro rfl
      exact absurd hc (by decide)
    have hstep : (Lexer.mk tokens (.opening .double false)).step? c =
        some ⟨tokens, .string .double false [c]⟩ := by
      rw [Lexer.step?_opening, if_neg hquote]
      exact content?_of_isPlain hc []
    have hclose : (Lexer.mk tokens (.string .double false (v.reverse ++ [c]))).step? '"' =
        some ⟨.string false (c :: v) :: tokens, .between⟩ := by
      have hend := (@InString.start tokens .double false (v.reverse ++ [c])).end_single
      rw [List.reverse_append, List.reverse_reverse] at hend
      exact hend
    rw [List.cons_append, Lexer.read?_cons_of_step hstep,
      Lexer.read?_append_of_read (read?_plain (fun d hd ↦ h d (List.mem_cons_of_mem _ hd)) [c]),
      Lexer.read?_cons_of_step hclose]

/-- What stands behind a slot goes on with no quote. -/
theorem head?_fill {s : List Char} {pieces : List (List Char)} (h : AreSlots s pieces)
    (hs : s.head? ≠ some '"') (v : List Char) : (fill v s pieces).head? ≠ some '"' := by
  cases h with
  | nil =>
    rw [fill, List.flatMap_nil, List.append_nil]
    exact hs
  | cons hfront _ _ =>
    cases s with
    | nil =>
      obtain ⟨blanks, before, -, hread⟩ := hfront
      cases congrArg Lexer.mode (Option.some_inj.mp hread)
    | cons c s => exact hs

/-- The tokens of a text, with the lexer's own order undone at the end. -/
theorem scan?_eq_finish? (s : List Char) :
    scan? s = (((Lexer.mk [] .between).read? s).bind Lexer.finish?).map List.reverse := by
  rw [scan?_eq]
  cases (Lexer.mk [] .between).read? s <;> rfl

/-- **The tokens of a text with plain characters in its slots**: each slot is a string behind an
equals sign, and everything else is what it is. -/
theorem scan?_fill {front : List Char} {pieces : List (List Char)} (h : AreSlots front pieces) :
    ∃ (gaps : List (List Token)) (found : Option (List Token)),
      (∀ gap ∈ gaps, EndsInEquals gap) ∧
      ∀ v : List Char, (∀ c ∈ v, isPlain c = true) → scan? (fill v front pieces) =
        found.map fun behind ↦ gaps.flatMap (· ++ [.string false v]) ++ behind := by
  induction h with
  | nil front =>
    refine ⟨[], scan? front, nofun, fun v _ ↦ ?_⟩
    rw [fill, List.flatMap_nil, List.append_nil]
    cases scan? front <;> rfl
  | @cons front s pieces hfront hs hslots ih =>
    obtain ⟨blanks, before, hblanks, hread⟩ := hfront
    obtain ⟨gaps, found, hgaps, hscan⟩ := ih
    refine ⟨(before.reverse ++ .equals :: blanks.reverse) :: gaps, found, ?_, fun v hv ↦ ?_⟩
    · intro gap hgap
      rcases List.mem_cons.mp hgap with rfl | hgap
      · exact ⟨before.reverse, blanks.reverse, fun t ht ↦ hblanks t (List.mem_reverse.mp ht), rfl⟩
      · exact hgaps gap hgap
    · -- the lexer never looks back: what is behind the slot is read as a text of its own
      have hbase : Lexer.mk (.string false v :: (blanks ++ .equals :: before)) .between =
          (Lexer.mk [] .between).onTop (.string false v :: (blanks ++ .equals :: before)) := rfl
      have hfinish : ((Lexer.mk [] .between).read? (fill v front (('"' :: s) :: pieces))).bind
            Lexer.finish? =
          (((Lexer.mk [] .between).read? (fill v s pieces)).bind Lexer.finish?).map
            (· ++ .string false v :: (blanks ++ .equals :: before)) := by
        rw [fill_cons, fill_cons_quote, Lexer.read?_append_of_read hread,
          finish?_slot hv (head?_fill hslots hs v), hbase, Lexer.read?_onTop]
        cases (Lexer.mk [] .between).read? (fill v s pieces) with
        | none => rfl
        | some l => exact Lexer.finish?_onTop _ l
      have hbehind := hscan v hv
      rw [scan?_eq_finish?] at hbehind ⊢
      rw [hfinish]
      cases hrest : ((Lexer.mk [] .between).read? (fill v s pieces)).bind Lexer.finish? with
      | none =>
        rw [hrest] at hbehind
        cases found with
        | none => rfl
        | some behind => cases hbehind
      | some rest =>
        rw [hrest] at hbehind
        cases found with
        | none => cases hbehind
        | some behind =>
          have hreverse := Option.some_inj.mp hbehind
          simp [hreverse]

end Token
end Toml
end ResourceManager
