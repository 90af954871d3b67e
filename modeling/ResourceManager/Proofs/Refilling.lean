import Mathlib.Data.List.Forall2
import ResourceManager.Proofs.Renaming
import ResourceManager.Proofs.Slots
import ResourceManager.Proofs.Statements

/-!
# Texts with other values in their slots

Two texts that differ only by the values in their slots have tokens that differ only by strings
behind equals signs (`Token.Refilled`).  On its line such a string is a value, whatever it is, so
the statement of the line is the same one with another text in it (`Statement.ofLine?_refilled`),
and so is the tree of the whole text (`parse?_fill`).

## The fresh text

Renaming changes every occurrence of a text, and a slot is one occurrence.  If the value in the
slots stood elsewhere too, renaming it would change too much.  So the two texts are not compared
with each other but with a third one, whose slots have a value `w` that no string of the text reads
as (`IsFresh`).  In that one the slots and the occurrences of `w` are the same thing.  Such a value
exists for every text (`exists_isFresh`), long enough to differ from all that are there. -/

set_option autoImplicit false

namespace ResourceManager
namespace Toml
namespace Token

/-! ## Tokens on lines

Tokens are divided into lines first.  A string never ends a line, so texts with other values in
their slots have the same lines, with other strings on them. -/

/-- A token ends the line or is put on it, whatever stands there already. -/
theorem step_cases (t : Token) (depth : Nat) :
    (∀ complete current, Statement.Lines.step ⟨complete, current, depth⟩ t =
      ⟨current.reverse :: complete, [], 0⟩) ∨
    ∃ depth', ∀ complete current, Statement.Lines.step ⟨complete, current, depth⟩ t =
      ⟨complete, t :: current, depth'⟩ := by
  cases t with
  | lineBreak =>
    by_cases h : depth = 0
    · exact .inl fun _ _ ↦ if_pos h
    · exact .inr ⟨depth, fun _ _ ↦ if_neg h⟩
  | openSquare | openCurly => exact .inr ⟨depth + 1, fun _ _ ↦ rfl⟩
  | closeSquare | closeCurly => exact .inr ⟨depth - 1, fun _ _ ↦ rfl⟩
  | _ => exact .inr ⟨depth, fun _ _ ↦ rfl⟩

/-- An equals sign, some blanks and a string stay on their line. -/
theorem isInline_slot {blanks : List Token} (hblanks : ∀ t ∈ blanks, Statement.isBlank t = true)
    (value : List Char) :
    ∀ t ∈ .equals :: (blanks ++ [.string false value]), Statement.isInline t = true := by
  intro t ht
  rcases List.mem_cons.mp ht with rfl | ht
  · rfl
  rcases List.mem_append.mp ht with ht | ht
  · have hblank := hblanks t ht
    cases t <;> first | rfl | cases hblank
  · rw [List.mem_singleton.mp ht]
    rfl

/-- Tokens without the blanks at their end. -/
def dropEnd (tokens : List Token) : List Token :=
  (tokens.reverse.dropWhile Statement.isBlank).reverse

/-- A blank in front goes only if all behind it does. -/
theorem dropEnd_cons_blank {t : Token} (ht : Statement.isBlank t = true) (rest : List Token) :
    dropEnd (t :: rest) = if dropEnd rest = [] then [] else t :: dropEnd rest := by
  rw [dropEnd, dropEnd, List.reverse_cons, List.dropWhile_append]
  cases hdrop : rest.reverse.dropWhile Statement.isBlank with
  | nil => simp [ht]
  | cons u more => simp

/-- A token that is no blank keeps what is in front of it. -/
theorem dropEnd_append {t : Token} (ht : Statement.isBlank t = false) (front rest : List Token) :
    dropEnd (front ++ t :: rest) = front ++ t :: dropEnd rest := by
  rw [dropEnd, dropEnd, List.reverse_append, List.reverse_cons, List.append_assoc,
    List.dropWhile_append]
  cases hdrop : rest.reverse.dropWhile Statement.isBlank with
  | nil => simp [ht]
  | cons u more => simp

/-! ## Strings behind equals signs

The relation goes by the list of tokens, and a slot is the one step in it that takes more than one
token.  Proofs by induction on it have three cases: nothing is left, a token is kept, or there is a
slot. -/

/-- Tokens with `v` for `w` in strings behind equals signs.  None of the others is a text that `g`
changes. -/
inductive Refilled (g : String → String) (w v : List Char) : List Token → List Token → Prop
  | nil : Refilled g w v [] []
  | keep {t : Token} {rest rest' : List Token} (ht : t.Keeps g) (h : Refilled g w v rest rest') :
      Refilled g w v (t :: rest) (t :: rest')
  | slot {blanks rest rest' : List Token} (hblanks : ∀ t ∈ blanks, Statement.isBlank t = true)
      (h : Refilled g w v rest rest') :
      Refilled g w v (.equals :: (blanks ++ .string false w :: rest))
        (.equals :: (blanks ++ .string false v :: rest'))

namespace Refilled

variable {g : String → String} {w v : List Char} {a a' b b' : List Token}

/-- Tokens that are all kept are related to themselves. -/
theorem of_keeps (h : ∀ t ∈ a, t.Keeps g) : Refilled g w v a a := by
  induction a with
  | nil => exact .nil
  | cons t a ih =>
    exact .keep (h t List.mem_cons_self) (ih fun u hu ↦ h u (List.mem_cons_of_mem _ hu))

/-- Tokens may be put together anywhere but in a slot. -/
theorem append (ha : Refilled g w v a a') (hb : Refilled g w v b b') :
    Refilled g w v (a ++ b) (a' ++ b') := by
  induction ha with
  | nil => exact hb
  | keep ht _ ih => exact .keep ht ih
  | slot hblanks _ ih =>
    have hslot := Refilled.slot hblanks ih
    simpa using hslot

/-- Gaps that end in equals signs, each with a string behind it, and a rest. -/
theorem of_gaps {gaps : List (List Token)} {behind : List Token}
    (hgaps : ∀ gap ∈ gaps, EndsInEquals gap) (hkeeps : ∀ gap ∈ gaps, ∀ t ∈ gap, t.Keeps g)
    (hbehind : ∀ t ∈ behind, t.Keeps g) :
    Refilled g w v (gaps.flatMap (· ++ [.string false w]) ++ behind)
      (gaps.flatMap (· ++ [.string false v]) ++ behind) := by
  induction gaps with
  | nil => exact of_keeps hbehind
  | cons gap gaps ih =>
    obtain ⟨before, blanks, hblanks, rfl⟩ := hgaps gap List.mem_cons_self
    have hbefore : ∀ t ∈ before, t.Keeps g := fun t ht ↦
      hkeeps _ List.mem_cons_self t (List.mem_append_left _ ht)
    have hrest := ih (fun gap hgap ↦ hgaps gap (List.mem_cons_of_mem _ hgap))
      fun gap hgap ↦ hkeeps gap (List.mem_cons_of_mem _ hgap)
    have hgap := (of_keeps (w := w) (v := v) hbefore).append (.slot hblanks hrest)
    simpa using hgap

/-- If there is no equals sign, there is no slot. -/
theorem eq_of_not_mem (h : Refilled g w v a a') (hequals : .equals ∉ a) : a' = a := by
  induction h with
  | nil => rfl
  | keep _ _ ih => rw [ih fun hmem ↦ hequals (List.mem_cons_of_mem _ hmem)]
  | slot _ _ _ => exact absurd List.mem_cons_self hequals

/-- Where there are no tokens on one side, there are none on the other. -/
theorem eq_nil_iff (h : Refilled g w v a a') : a' = [] ↔ a = [] := by
  cases h <;> simp

/-- Equals signs stay. -/
theorem mem_equals (h : Refilled g w v a a') (hequals : .equals ∈ a) : .equals ∈ a' := by
  induction h with
  | nil => exact hequals
  | keep _ _ ih =>
    rcases List.mem_cons.mp hequals with rfl | hmem
    · exact List.mem_cons_self
    · exact List.mem_cons_of_mem _ (ih hmem)
  | slot _ _ _ => exact List.mem_cons_self

/-! ## Lines

Lines are collected from the left, with the current one in reverse, so the invariant is about three
parts: the lines that are complete, the one that is not, and how many brackets are open on it. -/

/-- Lines of the same tokens but for the strings in slots. -/
structure SameLines (g : String → String) (w v : List Char) (l l' : Statement.Lines) : Prop where
  complete : List.Forall₂ (Refilled g w v) l.complete l'.complete
  current : Refilled g w v l.current.reverse l'.current.reverse
  depth : l'.depth = l.depth

/-- A token that is kept does to both what it does. -/
theorem SameLines.step {l l' : Statement.Lines} (h : SameLines g w v l l') {t : Token}
    (ht : t.Keeps g) : SameLines g w v (l.step t) (l'.step t) := by
  obtain ⟨complete, current, depth⟩ := l
  obtain ⟨complete', current', depth'⟩ := l'
  obtain rfl : depth' = depth := h.depth
  rcases step_cases t depth' with hstep | ⟨after, hstep⟩
  · rw [hstep, hstep]
    exact ⟨.cons h.current h.complete, .nil, rfl⟩
  · rw [hstep, hstep]
    refine ⟨h.complete, ?_, rfl⟩
    rw [List.reverse_cons, List.reverse_cons]
    exact h.current.append (.keep ht .nil)

/-- A slot is added to the current lines of both, each with its string. -/
theorem SameLines.slot {l l' : Statement.Lines} (h : SameLines g w v l l') {blanks : List Token}
    (hblanks : ∀ t ∈ blanks, Statement.isBlank t = true) :
    SameLines g w v ((.equals :: (blanks ++ [.string false w])).foldl Statement.Lines.step l)
      ((.equals :: (blanks ++ [.string false v])).foldl Statement.Lines.step l') := by
  obtain ⟨complete, current, depth⟩ := l
  obtain ⟨complete', current', depth'⟩ := l'
  rw [Statement.foldl_step_inline (isInline_slot hblanks w),
    Statement.foldl_step_inline (isInline_slot hblanks v)]
  refine ⟨h.complete, ?_, h.depth⟩
  have hslot := h.current.append (.slot hblanks .nil)
  simpa using hslot

/-- So all tokens together lead from the same lines to the same lines. -/
theorem sameLines_foldl (h : Refilled g w v a a') : ∀ {l l' : Statement.Lines},
    SameLines g w v l l' →
      SameLines g w v (a.foldl Statement.Lines.step l) (a'.foldl Statement.Lines.step l') := by
  induction h with
  | nil => exact fun hl ↦ hl
  | keep ht _ ih => exact fun hl ↦ ih (hl.step ht)
  | @slot blanks rest rest' hblanks _ ih =>
    intro l l' hl
    have hsplit : ∀ (x : List Char) (rest : List Token),
        .equals :: (blanks ++ .string false x :: rest) =
          .equals :: (blanks ++ [.string false x]) ++ rest := fun x rest ↦ by simp
    rw [hsplit w rest, hsplit v rest', List.foldl_append, List.foldl_append]
    exact ih (hl.slot hblanks)

/-- The lines of both texts, one by one. -/
theorem lines (h : Refilled g w v a a') :
    List.Forall₂ (Refilled g w v) (Statement.lines a) (Statement.lines a') := by
  have hstart : SameLines g w v ⟨[], [], 0⟩ ⟨[], [], 0⟩ := ⟨.nil, .nil, rfl⟩
  have hlines := h.sameLines_foldl hstart
  rw [Statement.lines, Statement.lines, List.forall₂_reverse_iff]
  exact .cons hlines.current hlines.complete

/-! ## Lines without blanks at their ends

A slot begins with an equals sign and ends with a string, so trimming a line never cuts into one. -/

theorem dropWhile (h : Refilled g w v a a') :
    Refilled g w v (a.dropWhile Statement.isBlank) (a'.dropWhile Statement.isBlank) := by
  induction h with
  | nil => exact .nil
  | @keep t _ _ ht h ih =>
    rw [List.dropWhile_cons, List.dropWhile_cons]
    split
    · exact ih
    · exact .keep ht h
  | slot hblanks h _ => exact .slot hblanks h

theorem dropEnd (h : Refilled g w v a a') :
    Refilled g w v (Token.dropEnd a) (Token.dropEnd a') := by
  induction h with
  | nil => exact .nil
  | @keep t rest rest' ht _ ih =>
    cases hblank : Statement.isBlank t with
    | true =>
      rw [dropEnd_cons_blank hblank, dropEnd_cons_blank hblank]
      by_cases hrest : Token.dropEnd rest = []
      · rw [if_pos hrest, if_pos (ih.eq_nil_iff.mpr hrest)]
        exact .nil
      · rw [if_neg hrest, if_neg (mt ih.eq_nil_iff.mp hrest)]
        exact .keep ht ih
    | false =>
      rw [← List.nil_append (t :: rest), ← List.nil_append (t :: rest'), dropEnd_append hblank,
        dropEnd_append hblank]
      exact .keep ht ih
  | @slot blanks rest rest' hblanks _ ih =>
    rw [← List.cons_append, ← List.cons_append, dropEnd_append rfl, dropEnd_append rfl]
    exact .slot hblanks ih

theorem trim (h : Refilled g w v a a') :
    Refilled g w v (Statement.trim a) (Statement.trim a') :=
  h.dropWhile.dropEnd

end Refilled
end Token

namespace Statement

/-! ## Statements

A line is a header or an entry.  One with an equals sign in it is no header
(`header?_of_equals`), which is why slots cannot change what kind of a statement a line is. -/

/-- Wherever an equals sign may stand, a value is expected behind it. -/
theorem step?_equals {e e' : Expectation} (h : step? e .equals = some e') :
    ∃ stack, e' = .value stack := by
  cases e with
  | afterKeyPart entries parts stack =>
    cases entries <;> exact ⟨_, (Option.some_inj.mp h).symm⟩
  | scalar written blank stack =>
    have hsettle : (endScalar? written stack).bind (settle? · .equals) = some e' := by
      cases blank <;> exact h
    obtain ⟨settled, -, hnone⟩ := Option.bind_eq_some_iff.mp hsettle
    cases settled <;> cases hnone
  | _ => cases h

/-- Blanks in front of a value are passed over. -/
theorem foldlM_blanks {blanks : List Token} (h : ∀ t ∈ blanks, isBlank t = true)
    (stack : List Open) : blanks.foldlM step? (.value stack) = some (.value stack) := by
  induction blanks with
  | nil => rfl
  | cons t blanks ih =>
    have ht := h t List.mem_cons_self
    have hstep : step? (.value stack) t = some (.value stack) := by
      cases t <;> first | rfl | cases ht
    rw [List.foldlM_cons, hstep]
    exact ih fun u hu ↦ h u (List.mem_cons_of_mem _ hu)

/-- A name has no equals sign in it. -/
theorem keyOf?_of_equals : ∀ {line : List Token}, .equals ∈ line → keyOf? line = none
  | [], h => absurd h List.not_mem_nil
  | [t], h => by
    rw [← List.mem_singleton.mp h]
    rfl
  | t :: u :: rest, h => by
    cases u with
    | dot =>
      rcases List.mem_cons.mp h with rfl | h
      · rfl
      · have hrest : keyOf? rest = none :=
          keyOf?_of_equals ((List.mem_cons.mp h).resolve_left (by simp))
        rw [keyOf?, hrest]
        cases keyPart? t <;> rfl
    | _ => rfl

/-- Nor has a header, in whatever brackets. -/
theorem header?_of_equals {line : List Token} (h : .equals ∈ line) : header? line = none := by
  have hinner : ∀ {inner : List Token}, .equals ∈ inner →
      keyOf? (inner.filter (!isBlank ·)) = none := fun hmem ↦
    keyOf?_of_equals (List.mem_filter.mpr ⟨hmem, rfl⟩)
  unfold header?
  split
  · rename_i rest tail hreverse
    obtain ⟨inner, rfl⟩ : ∃ inner, rest = inner ++ [.closeSquare, .closeSquare] := by
      have hends : rest.reverse ++ [Token.openSquare, .openSquare] =
          .closeSquare :: .closeSquare :: tail := by simpa using hreverse
      cases hrest : rest.reverse with
      | nil =>
        rw [hrest] at hends
        cases hends
      | cons x xs =>
        cases xs with
        | nil =>
          rw [hrest] at hends
          cases hends
        | cons y inner =>
          rw [hrest] at hends
          obtain ⟨hx, hends⟩ := List.cons.inj hends
          have hy := (List.cons.inj hends).1
          exact ⟨inner.reverse, by rw [← List.reverse_reverse rest, hrest, hx, hy]; simp⟩
    have hmem : .equals ∈ inner := by simpa using h
    have hdrop : (inner ++ [Token.closeSquare, .closeSquare]).dropLast.dropLast = inner := by
      simp
    rw [hdrop, hinner hmem]
    rfl
  · rename_i rest tail _ hreverse
    obtain ⟨inner, rfl⟩ : ∃ inner, rest = inner ++ [.closeSquare] := by
      have hends : rest.reverse ++ [Token.openSquare] = .closeSquare :: tail := by
        simpa using hreverse
      cases hrest : rest.reverse with
      | nil =>
        rw [hrest] at hends
        cases hends
      | cons x inner =>
        rw [hrest] at hends
        have hx := (List.cons.inj hends).1
        exact ⟨inner.reverse, by rw [← List.reverse_reverse rest, hrest, hx]; simp⟩
    have hmem : .equals ∈ inner := by simpa using h
    rw [List.dropLast_concat, hinner hmem]
    rfl
  · rfl

variable {g : String → String} {w v : List Char} {line line' : List Token}

/-- A header has no values. -/
theorem header?_rename (line : List Token) : (header? line).map (rename g) = header? line := by
  unfold header?
  split
  · rw [Option.map_map]
    rfl
  · rw [Option.map_map]
    rfl
  · rfl

/-- A string behind an equals sign is a value, whatever it is. -/
theorem foldlM_refilled (h : Token.Refilled g w v line line')
    (hg : g (String.ofList w) = String.ofList v) : ∀ e : Expectation,
      line'.foldlM step? (e.rename g) = (line.foldlM step? e).map (Expectation.rename g) := by
  induction h with
  | nil => exact fun _ ↦ rfl
  | @keep t rest rest' ht _ ih =>
    intro e
    rw [List.foldlM_cons, List.foldlM_cons, step?_rename ht]
    cases step? e t with
    | none => rfl
    | some e' => exact ih e'
  | @slot blanks rest rest' hblanks _ ih =>
    intro e
    have hequals : Token.Keeps g .equals := trivial
    rw [List.foldlM_cons, List.foldlM_cons, step?_rename hequals]
    cases hstep : step? e .equals with
    | none => rfl
    | some e' =>
      -- behind an equals sign a value is expected, and the string is one
      obtain ⟨stack, rfl⟩ := step?_equals hstep
      have hvalue : step? (.value (stack.map (Open.rename g))) (.string false v) =
          (step? (.value stack) (.string false w)).map (Expectation.rename g) := by
        have hclose := @close?_rename g (.string (String.ofList w)) stack
        rw [Toml.rename, hg] at hclose
        exact hclose
      simp only [Option.map_some, Option.bind_eq_bind, Option.bind_some, Expectation.rename,
        List.foldlM_append, foldlM_blanks hblanks, List.foldlM_cons, hvalue]
      cases step? (.value stack) (.string false w) with
      | none => rfl
      | some e'' => exact ih e''

/-- An entry with another string in its slot has another text in its value. -/
theorem entryOf?_refilled (h : Token.Refilled g w v line line')
    (hg : g (String.ofList w) = String.ofList v) :
    entryOf? line' = (entryOf? line).map (rename g) := by
  have hread := foldlM_refilled h hg (.keyPart none [] [])
  rw [entryOf?, entryOf?]
  have hstart : Expectation.rename g (.keyPart none [] []) = .keyPart none [] [] := rfl
  rw [hstart] at hread
  rw [hread]
  cases line.foldlM step? (.keyPart none [] []) with
  | none => rfl
  | some e => exact finish?_rename e

/-- **The statement of a line is the same one with another text in it.** -/
theorem ofLine?_refilled (h : Token.Refilled g w v line line')
    (hg : g (String.ofList w) = String.ofList v) :
    ofLine? line' = (ofLine? line).map (List.map (rename g)) := by
  have hone : ∀ found : Option Statement, (found.map (rename g)).map ([·]) =
      (found.map ([·])).map (List.map (rename g)) := fun found ↦ by cases found <;> rfl
  have htrim := h.trim
  have hentry : (entryOf? (trim line')).map ([·]) =
      ((entryOf? (trim line)).map ([·])).map (List.map (rename g)) := by
    rw [entryOf?_refilled htrim hg, hone]
  rw [ofLine?, ofLine?]
  generalize trim line = row, trim line' = row' at htrim hentry ⊢
  cases htrim with
  | nil => rfl
  | slot _ _ => exact hentry
  | @keep t rest rest' ht hrest =>
    cases t with
    | openSquare =>
      -- a line in brackets is no header when an equals sign stands between them
      have hheader : header? (.openSquare :: rest') =
          (header? (.openSquare :: rest)).map (rename g) := by
        by_cases hequals : .equals ∈ rest
        · rw [header?_of_equals (List.mem_cons_of_mem _ hequals),
            header?_of_equals (List.mem_cons_of_mem _ (hrest.mem_equals hequals))]
          rfl
        · rw [hrest.eq_of_not_mem hequals, header?_rename]
      show (header? (.openSquare :: rest')).map ([·]) = _
      rw [hheader, hone]
    | _ => exact hentry

/-- The same for all lines of a text, which can be read together or not at all. -/
theorem mapM_ofLine?_refilled {rows rows' : List (List Token)}
    (h : List.Forall₂ (Token.Refilled g w v) rows rows')
    (hg : g (String.ofList w) = String.ofList v) :
    rows'.mapM ofLine? = (rows.mapM ofLine?).map (List.map (List.map (rename g))) := by
  induction h with
  | nil => rfl
  | @cons row row' rows rows' hrow _ ih =>
    rw [List.mapM_cons, List.mapM_cons, ofLine?_refilled hrow hg, ih]
    cases ofLine? row with
    | none => rfl
    | some found => cases rows.mapM ofLine? <;> rfl

end Statement

/-! ## Texts -/

/-- Reads one text as another one. -/
def replacing (w v s : String) : String := if s = w then v else s

/-- Whether a token is a string that reads as a text. -/
def Token.reads (w : String) : Token → Bool
  | .string _ value => String.ofList value == w
  | _ => false

/-- Whether a text may stand in a slot as it is. -/
def IsPlain (v : String) : Prop := ∀ c ∈ v.toList, Token.isPlain c = true

/-- Whether no string of a text reads as another one. -/
def IsFresh (w : String) (text : List Char) : Prop :=
  ∀ tokens, Token.scan? (withoutMark text) = some tokens → ∀ t ∈ tokens, t.reads w = false

/-- A token that does not read as `w` is kept by a renaming of `w`. -/
theorem Token.keeps_of_reads {w : String} (v : String) {t : Token} (h : t.reads w = false) :
    t.Keeps (replacing w v) := by
  cases t with
  | string triple value => exact if_neg (beq_eq_false_iff_ne.mp h)
  | _ => trivial

variable {front : List Char} {pieces : List (List Char)} {u v w : String}

/-- **With another value in its slots, a text has the same tokens with another string in them.** -/
theorem Token.refilled_of_scan? (h : Token.AreSlots front pieces) (hu : IsPlain u)
    (hw : IsPlain w) (hv : IsPlain v)
    (hfresh : ∀ tokens, Token.scan? (Token.fill u.toList front pieces) = some tokens →
      ∀ t ∈ tokens, t.reads w = false) :
    (scan? (fill w.toList front pieces) = none ∧ scan? (fill v.toList front pieces) = none) ∨
      ∃ tokens tokens', scan? (fill w.toList front pieces) = some tokens ∧
        scan? (fill v.toList front pieces) = some tokens' ∧
        Refilled (replacing w v) w.toList v.toList tokens tokens' := by
  obtain ⟨gaps, found, hgaps, hscan⟩ := scan?_fill h
  rw [hscan _ hw, hscan _ hv]
  rw [hscan _ hu] at hfresh
  cases found with
  | none => exact .inl ⟨rfl, rfl⟩
  | some behind =>
    have hkeeps : ∀ t ∈ gaps.flatMap (· ++ [.string false u.toList]) ++ behind,
        t.Keeps (replacing w v) := fun t ht ↦ keeps_of_reads v (hfresh _ rfl t ht)
    refine .inr ⟨_, _, rfl, rfl, .of_gaps hgaps (fun gap hgap t ht ↦ hkeeps t ?_)
      fun t ht ↦ hkeeps t (List.mem_append_right _ ht)⟩
    exact List.mem_append_left _
      (List.mem_flatMap.mpr ⟨gap, hgap, List.mem_append_left _ ht⟩)

/-- So the statements of the two texts are the same, with another text in them. -/
theorem Statement.scan?_fill (h : Token.AreSlots front pieces) (hu : IsPlain u) (hw : IsPlain w)
    (hv : IsPlain v)
    (hfresh : ∀ tokens, Token.scan? (Token.fill u.toList front pieces) = some tokens →
      ∀ t ∈ tokens, t.reads w = false) :
    scan? (Token.fill v.toList front pieces) =
      (scan? (Token.fill w.toList front pieces)).map (List.map (rename (replacing w v))) := by
  have hg : replacing w v (String.ofList w.toList) = String.ofList v.toList := by
    rw [String.ofList_toList, String.ofList_toList]
    exact if_pos rfl
  rcases Token.refilled_of_scan? h hu hw hv hfresh with
    ⟨hscan, hscan'⟩ | ⟨tokens, tokens', hscan, hscan', hrefilled⟩
  · rw [scan?, scan?, hscan, hscan']
    rfl
  · rw [scan?, scan?, hscan, hscan']
    simp only [Option.bind_eq_bind, Option.bind_some, mapM_ofLine?_refilled hrefilled.lines hg]
    cases (lines tokens).mapM ofLine? with
    | none => rfl
    | some found => simp [List.map_flatten]

/-- A mark at the beginning stands in front of all slots. -/
theorem withoutMark_fill (h : Token.AreSlots (withoutMark front) pieces) (v : List Char) :
    withoutMark (Token.fill v front pieces) = Token.fill v (withoutMark front) pieces := by
  cases front with
  | nil =>
    cases h with
    | nil => rfl
    | cons hfront _ _ =>
      obtain ⟨blanks, before, -, hread⟩ := hfront
      cases congrArg Token.Lexer.mode (Option.some_inj.mp hread)
  | cons c front =>
    rw [Token.fill, Token.fill, List.cons_append, withoutMark, withoutMark]
    split <;> rfl

/-- **With another value in its slots, the tree of a text is the same tree with another text in
it.** -/
theorem parse?_fill (h : Token.AreSlots (withoutMark front) pieces) (hu : IsPlain u)
    (hw : IsPlain w) (hv : IsPlain v) (hfresh : IsFresh w (Token.fill u.toList front pieces)) :
    parse? (Token.fill v.toList front pieces) =
      (parse? (Token.fill w.toList front pieces)).map (rename (replacing w v)) := by
  rw [IsFresh, withoutMark_fill h] at hfresh
  rw [parse?, parse?, withoutMark_fill h, withoutMark_fill h,
    Statement.scan?_fill h hu hw hv hfresh]
  cases Statement.scan? (Token.fill w.toList (withoutMark front) pieces) with
  | none => rfl
  | some statements =>
    simp only [Option.map_some, Option.bind_eq_bind, Option.bind_some,
      Outline.ofStatements_rename, Outline.table?_rename]
    cases (Outline.ofStatements statements).table? with
    | none => rfl
    | some entries => simp [rename, Node.toEntries_rename]

/-! ## Fresh texts

Finitely many texts have a longest one among them, and a row of letters that is longer is none of
them. -/

/-- What a token reads as, if it is a string. -/
def Token.text? : Token → Option String
  | .string _ value => some (String.ofList value)
  | _ => none

theorem exists_isPlain_not_mem (texts : List String) : ∃ w, IsPlain w ∧ w ∉ texts := by
  have hlong : ∃ n, ∀ m, n ≤ m → String.ofList (List.replicate m 'x') ∉ texts := by
    induction texts with
    | nil => exact ⟨0, fun _ _ ↦ List.not_mem_nil⟩
    | cons s texts ih =>
      obtain ⟨n, hn⟩ := ih
      refine ⟨n + s.length + 1, fun m hm hmem ↦ ?_⟩
      rcases List.mem_cons.mp hmem with hs | hmem
      · have hlength := congrArg String.length hs
        simp at hlength
        omega
      · exact hn m (by omega) hmem
  obtain ⟨n, hn⟩ := hlong
  refine ⟨_, fun c hc ↦ ?_, hn n (Nat.le_refl n)⟩
  rw [String.toList_ofList] at hc
  rw [List.eq_of_mem_replicate hc]
  rfl

/-- There is a text to fill slots with that is fresh for a text, and for other texts besides. -/
theorem exists_isFresh (text : List Char) (texts : List String) :
    ∃ w, IsPlain w ∧ w ∉ texts ∧ IsFresh w text := by
  obtain ⟨w, hw, hnot⟩ := exists_isPlain_not_mem
    (texts ++ ((Token.scan? (withoutMark text)).getD []).filterMap Token.text?)
  refine ⟨w, hw, fun hmem ↦ hnot (List.mem_append_left _ hmem), fun tokens htokens t ht ↦ ?_⟩
  by_contra hreads
  refine hnot (List.mem_append_right _ (List.mem_filterMap.mpr ⟨t, ?_, ?_⟩))
  · rw [htokens]
    exact ht
  · cases t with
    | string triple value =>
      exact congrArg some (beq_iff_eq.mp (Bool.of_not_eq_false hreads))
    | _ => exact absurd rfl hreads

end Toml
end ResourceManager
