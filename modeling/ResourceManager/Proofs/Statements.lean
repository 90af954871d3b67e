import ResourceManager.Proofs.Lexing
import ResourceManager.Toml.Reader

/-!
# Written lines are read as statements

`Statement.Says s found` says of a piece of text that it is whole lines with these statements on
them, whatever lines stand before and behind it.  It holds of an empty line, of the line of a string
or a number, and of a header, and it holds of two pieces together when it holds of each; so the
statements of a text that is put together of such lines are those of its lines
(`Statement.scan?_of_says`).

Statements in the order of a file are an outline (`Outline.ofStatements_eq`), and the entries of a
table whose names are all different are put into it one behind the other (`fill?_of_nodup`).

The property is stated on text, tokens and statements at once.  One on tokens alone would do for a
line, but a section of a file is a list of lines that a writer puts together as text; with the text
in the property, `Says.append` and `Says.flatMap` follow the writer.
-/

set_option autoImplicit false

namespace ResourceManager
namespace Toml

/-- What stands in a list with marks in between is a mark or was there before. -/
theorem mem_of_mem_intersperse {α : Type} {mark a : α} : ∀ {items : List α},
    a ∈ items.intersperse mark → a = mark ∨ a ∈ items
  | [], h => .inr h
  | [b], h => .inr h
  | b :: c :: items, h => by
    rw [List.intersperse_cons_cons, List.mem_cons, List.mem_cons] at h
    rcases h with rfl | rfl | h
    · exact .inr List.mem_cons_self
    · exact .inl rfl
    · exact (mem_of_mem_intersperse h).imp_right (List.mem_cons_of_mem _)

namespace Statement

open Token (ofKey ofString ofEntry ofHeader Lexes)

/-! ## Keys -/

/-- The token of a key says the key, with quotes or without. -/
theorem keyPart?_ofKey (key : String) : keyPart? (ofKey key) = some key := by
  rw [ofKey]
  split
  · rename_i hbare
    rw [isBareKey, Bool.and_eq_true] at hbare
    have hchars : key.toList.all isBareKeyChar = true := hbare.2
    rw [keyPart?, if_pos hchars, String.ofList_toList]
  · rw [keyPart?, String.ofList_toList]

/-- A token of a key is none that counts by itself. -/
theorem ofKey_cases (key : String) :
    ofKey key = .atom key.toList ∨ ofKey key = .string false key.toList := by
  rw [ofKey]
  split
  · exact .inl rfl
  · exact .inr rfl

/-- So it is not dropped where blanks are. -/
theorem isBlank_ofKey (key : String) : isBlank (ofKey key) = false := by
  rcases ofKey_cases key with h | h <;> rw [h] <;> rfl

/-- Keys with dots between them are a path. -/
theorem keyOf?_ofKey : ∀ {path : List String}, path ≠ [] →
    keyOf? ((path.map ofKey).intersperse .dot) = some path
  | [], h => absurd rfl h
  | [key], _ => by
    rw [List.map_cons, List.map_nil, List.intersperse_singleton, keyOf?, keyPart?_ofKey]
    rfl
  | key :: next :: path, _ => by
    have hrest := @keyOf?_ofKey (next :: path) (List.cons_ne_nil _ _)
    rw [List.map_cons] at hrest
    rw [List.map_cons, List.map_cons, List.intersperse_cons_cons, keyOf?, keyPart?_ofKey, hrest]
    rfl

/-! ## Lines

A line ends at a line break, but not inside brackets, where a value may go on for several lines.
The header of a table is in brackets itself, so `Rows` asks that the depth is back at zero.
-/

/-- Tokens are whole lines with these tokens on them. -/
def Rows (tokens : List Token) (rows : List (List Token)) : Prop :=
  ∀ complete : List (List Token),
    tokens.foldl Lines.step ⟨complete, [], 0⟩ = ⟨rows.reverse ++ complete, [], 0⟩

/-- Whether a token neither ends a line nor opens or closes brackets. -/
def isInline : Token → Bool
  | .lineBreak | .openSquare | .closeSquare | .openCurly | .closeCurly => false
  | _ => true

/-- Tokens without line breaks and brackets are put on the line that is being read, newest first. -/
theorem foldl_step_inline {tokens : List Token} (h : ∀ t ∈ tokens, isInline t = true) :
    ∀ (complete : List (List Token)) (current : List Token) (depth : Nat),
      tokens.foldl Lines.step ⟨complete, current, depth⟩ =
        ⟨complete, tokens.reverse ++ current, depth⟩ := by
  induction tokens with
  | nil => exact fun _ _ _ ↦ rfl
  | cons t tokens ih =>
    intro complete current depth
    have hstep : Lines.step ⟨complete, current, depth⟩ t = ⟨complete, t :: current, depth⟩ := by
      have ht := h t List.mem_cons_self
      cases t <;> first | rfl | cases ht
    rw [List.foldl_cons, hstep, ih fun t ht ↦ h t (List.mem_cons_of_mem _ ht), List.reverse_cons,
      List.append_assoc]
    rfl

/-- A piece of text is whole lines with these statements on them. -/
def Says (s : List Char) (found : List Statement) : Prop :=
  ∃ (tokens : List Token) (rows : List (List Token)), Lexes s tokens ∧ Rows tokens rows ∧
    (rows.mapM ofLine?).map List.flatten = some found

variable {s t : List Char} {found more : List Statement}

/-- No text at all says nothing. -/
theorem Says.nil : Says [] [] :=
  ⟨[], [], .nil, fun _ ↦ rfl, rfl⟩

/-- A piece behind another says what it says alone. -/
theorem Says.append (h : Says s found) (h' : Says t more) : Says (s ++ t) (found ++ more) := by
  obtain ⟨tokens, rows, hlex, hrows, hfound⟩ := h
  obtain ⟨tokens', rows', hlex', hrows', hmore⟩ := h'
  refine ⟨tokens ++ tokens', rows ++ rows', hlex.append hlex', fun complete ↦ ?_, ?_⟩
  · rw [List.foldl_append, hrows, hrows', List.reverse_append, List.append_assoc]
  · obtain ⟨parts, hparts, rfl⟩ := Option.map_eq_some_iff.mp hfound
    obtain ⟨parts', hparts', rfl⟩ := Option.map_eq_some_iff.mp hmore
    rw [List.mapM_append, hparts, hparts']
    simp

/-- Pieces that each say something say it in their order. -/
theorem Says.flatMap {α : Type} {f : α → List Char} {g : α → List Statement} {items : List α}
    (h : ∀ a ∈ items, Says (f a) (g a)) : Says (items.flatMap f) (items.flatMap g) := by
  induction items with
  | nil => exact .nil
  | cons a items ih =>
    rw [List.flatMap_cons, List.flatMap_cons]
    exact (h a List.mem_cons_self).append (ih fun b hb ↦ h b (List.mem_cons_of_mem _ hb))

/-- One line. -/
theorem Says.line {row : List Token} (hlex : Lexes s (row ++ [.lineBreak]))
    (hrow : ∀ complete, row.foldl Lines.step ⟨complete, [], 0⟩ = ⟨complete, row.reverse, 0⟩)
    (hline : ofLine? row = some found) : Says s found := by
  refine ⟨_, [row], hlex, fun complete ↦ ?_, ?_⟩
  · rw [List.foldl_append, hrow]
    simp [Lines.step]
  · simp [hline]

/-- An empty line, as between two sections. -/
theorem Says.emptyLine : Says ['\n'] [] :=
  @Says.line _ _ [] (.ofChar rfl) (fun _ ↦ rfl) rfl

/-- The statements of a text of whole lines. -/
theorem scan?_of_says (h : Says s found) : scan? s = some found := by
  obtain ⟨tokens, rows, hlex, hrows, hfound⟩ := h
  obtain ⟨parts, hparts, rfl⟩ := Option.map_eq_some_iff.mp hfound
  have hscan : Token.scan? s = some tokens := by
    rw [Token.scan?_eq, hlex]
    simp [Token.Lexer.finish?]
  have hlines : lines tokens = rows ++ [[]] := by
    rw [lines, hrows]
    simp
  have hempty : ofLine? [] = some [] := rfl
  rw [scan?, hscan, Option.bind_eq_bind, Option.bind_some, hlines, List.mapM_append, hparts]
  simp [hempty]

/-! ## Entries -/

/-- A token that is a value at the end of an entry. -/
def IsValue (t : Token) (v : Toml) : Prop :=
  t ≠ .openSquare ∧ t ≠ .openCurly ∧
    ∀ path, ((begin? [.entry path] t).bind finish?) = some (.entry path v)

/-- A string is a value. -/
theorem isValue_string (triple : Bool) (value : List Char) :
    IsValue (.string triple value) (.string (String.ofList value)) :=
  ⟨by simp, by simp, fun _ ↦ rfl⟩

/-- So is an atom that is written as one. -/
theorem isValue_atom {written : List Char} {v : Toml} (h : Scalar.value? written = some v) :
    IsValue (.atom written) v := by
  refine ⟨by simp, by simp, fun path ↦ ?_⟩
  rw [begin?, Option.bind_some, finish?, endScalar?, h]
  rfl

/-- What is no value is no blank and no mark either. -/
theorem IsValue.cases {t : Token} {v : Toml} (h : IsValue t v) :
    (∃ written, t = .atom written) ∨ ∃ triple value, t = .string triple value := by
  obtain ⟨hsquare, hcurly, hbegin⟩ := h
  cases t with
  | atom written => exact .inl ⟨written, rfl⟩
  | string triple value => exact .inr ⟨triple, value, rfl⟩
  | openSquare => exact absurd rfl hsquare
  | openCurly => exact absurd rfl hcurly
  | _ => cases hbegin []

/-- A line of an entry. -/
theorem ofLine?_entry (key : String) {t : Token} {v : Toml} (h : IsValue t v) :
    ofLine? [ofKey key, .blank [' '], .equals, .blank [' '], t] = some [.entry [key] v] := by
  have hvalue : isBlank t = false ∧ step? (.value [.entry [key]]) t = begin? [.entry [key]] t := by
    rcases h.cases with ⟨written, rfl⟩ | ⟨triple, value, rfl⟩ <;> exact ⟨rfl, rfl⟩
  have htrim : trim [ofKey key, .blank [' '], .equals, .blank [' '], t] =
      [ofKey key, .blank [' '], .equals, .blank [' '], t] := by
    simp [trim, isBlank_ofKey, hvalue.1]
  have hkey : step? (.keyPart none [] []) (ofKey key) = some (.afterKeyPart none [key] []) := by
    have hpart := keyPart?_ofKey key
    rcases ofKey_cases key with hk | hk <;> rw [hk] at hpart ⊢ <;> simp [step?, hpart]
  have hentry : entryOf? [ofKey key, .blank [' '], .equals, .blank [' '], t] =
      (begin? [.entry [key]] t).bind finish? := by
    have hequals : [Token.blank [' '], .equals, .blank [' ']].foldlM step?
        (.afterKeyPart none [key] []) = some (.value [.entry [key]]) := rfl
    have hrow : [ofKey key, .blank [' '], .equals, .blank [' '], t] =
        ofKey key :: ([.blank [' '], .equals, .blank [' ']] ++ [t]) := rfl
    rw [entryOf?, hrow, List.foldlM_cons, hkey, Option.bind_eq_bind, Option.bind_eq_bind,
      Option.bind_some, List.foldlM_append, hequals, Option.bind_eq_bind, Option.bind_some,
      List.foldlM_cons, hvalue.2]
    cases begin? [.entry [key]] t <;> rfl
  have hopen : ofKey key ≠ .openSquare := by
    rcases ofKey_cases key with hk | hk <;> rw [hk] <;> simp
  rw [ofLine?, htrim]
  split
  · rename_i hnil
    cases hnil
  · rename_i rest hrow
    exact absurd (List.cons.inj hrow).1 hopen
  · rw [hentry, h.2.2]
    rfl

/-- A key neither ends a line nor opens a bracket. -/
theorem isInline_ofKey (key : String) : isInline (ofKey key) = true := by
  rcases ofKey_cases key with h | h <;> rw [h] <;> rfl

/-- The line of an entry, from its tokens. -/
theorem Says.entry {key : String} {t : Token} {v : Toml} (h : IsValue t v)
    (hlex : Lexes s (ofEntry key t)) : Says s [.entry [key] v] := by
  have hvalue : isInline t = true := by
    rcases h.cases with ⟨_, rfl⟩ | ⟨_, _, rfl⟩ <;> rfl
  refine .line hlex (fun complete ↦ ?_) (ofLine?_entry key h)
  have hrow : ∀ u ∈ [ofKey key, .blank [' '], .equals, .blank [' '], t], isInline u = true := by
    simp only [List.forall_mem_cons, isInline_ofKey, hvalue]
    exact ⟨trivial, rfl, rfl, rfl, trivial, nofun⟩
  rw [foldl_step_inline hrow, List.append_nil]

/-- The line of a string says the entry with this string. -/
theorem says_stringLine (key value : String) :
    Says (stringLine key value) [.entry [key] (.string value)] := by
  have h := isValue_string (StringForm.ofTraits (traits value.toList)).isTriple value.toList
  rw [String.ofList_toList] at h
  exact .entry h (Token.lexes_stringLine key value)

/-! ## Numbers

The settings of a profile hold natural numbers, written in decimal.  The reader tries an atom as a
truth value and as a number in another base first, so these readings have to be ruled out.
-/

/-- Digits without underscores are read as they are. -/
theorem ungroup?_digits : ∀ {s : List Char}, s ≠ [] → (∀ c ∈ s, c.isDigit = true) →
    Scalar.ungroup? Char.isDigit s = some s
  | [], hne, _ => absurd rfl hne
  | [c], _, h => by rw [Scalar.ungroup?, if_pos (h c List.mem_cons_self)]
  | c :: d :: s, _, h => by
    have hc := h c List.mem_cons_self
    have hd : d ≠ '_' := by
      rintro rfl
      exact absurd (h '_' (List.mem_cons_of_mem _ List.mem_cons_self)) (by decide)
    have hrest := ungroup?_digits (s := d :: s) (by simp) fun e he ↦
      h e (List.mem_cons_of_mem _ he)
    simp [Scalar.ungroup?, hc, hd, hrest]

/-- The digits of a number have no needless zero in front. -/
theorem toDigits_of_head? {n : Nat} (h : (Nat.toDigits 10 n).head? = some '0') :
    Nat.toDigits 10 n = ['0'] := by
  induction n using Nat.strongRecOn with
  | _ n ih =>
    rcases Nat.lt_or_ge n 10 with hlt | hge
    · rw [Nat.toDigits_of_lt_base hlt] at h ⊢
      rw [Option.some_inj.mp h]
    · have hhead : (Nat.toDigits 10 (n / 10)).head? = some '0' := by
        rw [Nat.toDigits_of_base_le (by decide) hge] at h
        cases hdigits : Nat.toDigits 10 (n / 10) with
        | nil => exact absurd hdigits Nat.toDigits_ne_nil
        | cons c digits =>
          rw [hdigits] at h
          exact h
      have hzero := ih (n / 10) (Nat.div_lt_self (by omega) (by decide)) hhead
      have hvalue := Nat.ofDigitChars_toDigits (b := 10) (n := n / 10) (by decide) (by decide)
      rw [hzero] at hvalue
      have hnone : n / 10 = 0 := hvalue.symm
      omega

/-- The decimal digits of a number are read as the number. -/
theorem decimal?_toDigits (n : Nat) : Scalar.decimal? (Nat.toDigits 10 n) = some n := by
  have hzero : ¬ ((Nat.toDigits 10 n).head? = some '0' ∧ Nat.toDigits 10 n ≠ ['0']) :=
    fun h ↦ h.2 (toDigits_of_head? h.1)
  rw [Scalar.decimal?, ungroup?_digits Nat.toDigits_ne_nil fun c hc ↦
    Nat.isDigit_of_mem_toDigits (by decide) (by decide) hc]
  simp only [Option.bind_eq_bind, Option.bind_some]
  rw [if_neg hzero, Nat.ofDigitChars_toDigits (by decide) (by decide)]

/-- The reader's integers have a sign and 128 bits. -/
theorem fitsLongWord_natCast {n : Nat} (h : n < Nat.pow 2 128) :
    Scalar.fitsLongWord (n : Int) = true := by
  rw [Scalar.fitsLongWord, Bool.and_eq_true, decide_eq_true_eq, decide_eq_true_eq]
  exact ⟨Int.le_trans (Int.neg_nonpos_of_nonneg (Int.natCast_nonneg _)) (Int.natCast_nonneg n),
    Int.ofNat_lt.mpr h⟩

/-- The digits are an integer without a sign; the letters of the other bases are not digits. -/
theorem integer?_toDigits {n : Nat} (h : n < Nat.pow 2 128) :
    Scalar.integer? (Nat.toDigits 10 n) = some (n : Int) := by
  have hdigit : ∀ c ∈ Nat.toDigits 10 n, c.isDigit = true := fun c hc ↦
    Nat.isDigit_of_mem_toDigits (by decide) (by decide) hc
  have hsign : Scalar.sign (Nat.toDigits 10 n) = (false, Nat.toDigits 10 n) := by
    unfold Scalar.sign
    split
    · rename_i rest hs
      exact absurd (hdigit '-' (hs ▸ List.mem_cons_self)) (by decide)
    · rename_i rest hs
      exact absurd (hdigit '+' (hs ▸ List.mem_cons_self)) (by decide)
    · rfl
  have hsecond : ∀ {c : Char} {rest : List Char}, c.isDigit = false →
      Nat.toDigits 10 n ≠ '0' :: c :: rest := by
    intro c rest hc hs
    rw [hdigit c (hs ▸ List.mem_cons_of_mem _ List.mem_cons_self)] at hc
    cases hc
  -- the bound is large: a check of it is only ever replaced by its answer
  have hcheck : ∀ {fits : Int → Bool}, fits n = true →
      ((some (n : Int)).bind fun m ↦ if fits m = true then some m else none) = some (n : Int) := by
    intro fits hfits
    simp [hfits]
  have hnumber : ((Scalar.decimal? (Nat.toDigits 10 n)).bind fun m ↦ some (m : Int)).map
      (fun m ↦ if false = true then -m else m) = some (n : Int) := by
    rw [decimal?_toDigits]
    rfl
  unfold Scalar.integer?
  split
  · rename_i hs
    exact absurd hs (hsecond rfl)
  · rename_i hs
    exact absurd hs (hsecond rfl)
  · rename_i hs
    exact absurd hs (hsecond rfl)
  · rw [hsign]
    exact (congrArg (Option.bind · _) hnumber).trans (hcheck (fitsLongWord_natCast h))

/-- A number is read from its digits. -/
theorem value?_toDigits {n : Nat} (h : n < Nat.pow 2 128) :
    Scalar.value? (Nat.toDigits 10 n) = some (.integer n) := by
  have hword : ∀ {s : List Char} {c : Char}, c ∈ s → c.isDigit = false →
      Nat.toDigits 10 n ≠ s := by
    rintro s c hc hdigit rfl
    rw [Nat.isDigit_of_mem_toDigits (by decide) (by decide) hc] at hdigit
    cases hdigit
  rw [Scalar.value?, if_neg (hword (c := 't') (by decide) rfl),
    if_neg (hword (c := 'f') (by decide) rfl), integer?_toDigits h]

/-- The line of a number says the entry with this number. -/
theorem says_numberLine (key : String) {n : Nat} (h : n < Nat.pow 2 128) :
    Says (numberLine key n) [.entry [key] (.integer n)] :=
  .entry (isValue_atom (value?_toDigits h)) (Token.lexes_numberLine key n)

/-! ## Headers -/

/-- The tokens of a path are dots and keys. -/
theorem mem_keys {path : List String} {t : Token}
    (h : t ∈ (path.map ofKey).intersperse .dot) : t = .dot ∨ ∃ key, t = ofKey key := by
  refine (mem_of_mem_intersperse h).imp_right fun ht ↦ ?_
  obtain ⟨key, -, rfl⟩ := List.mem_map.mp ht
  exact ⟨key, rfl⟩

/-- A path begins with a key. -/
theorem head?_keys {key : String} {path : List String} :
    (((key :: path).map ofKey).intersperse .dot).head? = some (ofKey key) := by
  cases path with
  | nil => rfl
  | cons next path =>
    rw [List.map_cons, List.map_cons, List.intersperse_cons_cons]
    rfl

/-- A path in brackets is the header of a table, and not the one of a list of tables. -/
theorem header?_keys {path : List String} (h : path ≠ []) :
    header? (.openSquare :: ((path.map ofKey).intersperse .dot ++ [.closeSquare])) =
      some (.table path) := by
  have hfilter : ((path.map ofKey).intersperse .dot).filter (!isBlank ·) =
      (path.map ofKey).intersperse .dot := by
    refine List.filter_eq_self.mpr fun t ht ↦ ?_
    rcases mem_keys ht with rfl | ⟨key, rfl⟩
    · rfl
    · rw [isBlank_ofKey]
      rfl
  unfold header?
  split
  · -- two brackets would make the first key one
    rename_i rest _ hline _
    cases path with
    | nil => exact absurd rfl h
    | cons key path =>
      have hhead := @head?_keys key path
      have hmore := (List.cons.inj hline).2
      cases hkeys : ((key :: path).map ofKey).intersperse .dot with
      | nil =>
        rw [hkeys] at hhead
        cases hhead
      | cons t more =>
        rw [hkeys] at hhead hmore
        have ht : t = ofKey key := Option.some_inj.mp hhead
        have hopen : t = .openSquare := (List.cons.inj hmore).1
        rcases ofKey_cases key with hk | hk <;> rw [hk] at ht <;> cases ht.symm.trans hopen
  · rename_i rest _ hline _
    rw [← (List.cons.inj hline).2, List.dropLast_concat, hfilter, keyOf?_ofKey h]
    rfl
  · rename_i hsecond
    have hreverse : (Token.openSquare :: ((path.map ofKey).intersperse .dot ++
        [.closeSquare])).reverse = .closeSquare ::
          (((path.map ofKey).intersperse .dot).reverse ++ [.openSquare]) := by
      simp
    exact (hsecond _ _ rfl hreverse).elim

/-- A line of a header. -/
theorem ofLine?_header {path : List String} (h : path ≠ []) :
    ofLine? (.openSquare :: ((path.map ofKey).intersperse .dot ++ [.closeSquare])) =
      some [.table path] := by
  have htrim : trim (.openSquare :: ((path.map ofKey).intersperse .dot ++ [.closeSquare])) =
      .openSquare :: ((path.map ofKey).intersperse .dot ++ [.closeSquare]) := by
    simp [trim, isBlank]
  rw [ofLine?, htrim]
  simp [header?_keys h]

/-- The line of a header says the table. -/
theorem says_headerLine {path : List String} (h : path ≠ []) :
    Says (headerLine path) [.table path] := by
  refine @Says.line _ _ (.openSquare :: ((path.map ofKey).intersperse .dot ++ [.closeSquare]))
    ?_ (fun complete ↦ ?_) (ofLine?_header h)
  · have hlex := Token.lexes_header h
    rw [ofHeader] at hlex
    simpa using hlex
  · have hopen : Lines.step ⟨complete, [], 0⟩ .openSquare = ⟨complete, [.openSquare], 1⟩ := rfl
    have hinline : ∀ t ∈ (path.map ofKey).intersperse .dot, isInline t = true := by
      intro t ht
      rcases mem_keys ht with rfl | ⟨key, rfl⟩
      · rfl
      · exact isInline_ofKey key
    rw [List.foldl_cons, hopen, List.foldl_append, foldl_step_inline hinline]
    simp [Lines.step]

end Statement

/-! ## Texts in sections

An outline collects the entries in front of the first header and, for each header, those behind it.
Both are collected newest first and turned around at the end.
-/

/-- The statements of a section. -/
def Section.statements (s : Section) : List Statement :=
  (if s.double then .tables s.path else .table s.path) :: s.entries.map fun e ↦ .entry e.1 e.2

/-- Entries in front of every header stand at the top. -/
theorem Outline.foldl_top (top : List (List String × Toml)) : ∀ done : List (List String × Toml),
    (top.map fun e ↦ Statement.entry e.1 e.2).foldl Outline.step ⟨[], done⟩ =
      ⟨[], top.reverse ++ done⟩ := by
  induction top with
  | nil => exact fun _ ↦ rfl
  | cons e top ih =>
    intro done
    have hstep : Outline.step ⟨[], done⟩ (.entry e.1 e.2) = ⟨[], e :: done⟩ := rfl
    rw [List.map_cons, List.foldl_cons, hstep, ih, List.reverse_cons, List.append_assoc]
    rfl

/-- Behind a header, entries belong to its section. -/
theorem Outline.foldl_entries (entries : List (List String × Toml)) (sections : List Section)
    (top : List (List String × Toml)) : ∀ s : Section,
    (entries.map fun e ↦ Statement.entry e.1 e.2).foldl Outline.step ⟨s :: sections, top⟩ =
      ⟨{ s with entries := entries.reverse ++ s.entries } :: sections, top⟩ := by
  induction entries with
  | nil => exact fun _ ↦ rfl
  | cons e entries ih =>
    intro s
    have hstep : Outline.step ⟨s :: sections, top⟩ (.entry e.1 e.2) =
        ⟨{ s with entries := e :: s.entries } :: sections, top⟩ := rfl
    rw [List.map_cons, List.foldl_cons, hstep, ih, List.reverse_cons, List.append_assoc]
    rfl

/-- Sections are collected one behind the other, each with its own entries. -/
theorem Outline.foldl_sections (sections : List Section) (top : List (List String × Toml)) :
    ∀ done : List Section,
      (sections.flatMap Section.statements).foldl Outline.step ⟨done, top⟩ =
        ⟨(sections.map fun s ↦ { s with entries := s.entries.reverse }).reverse ++ done, top⟩ := by
  induction sections with
  | nil => exact fun _ ↦ rfl
  | cons s sections ih =>
    intro done
    have hheader : Outline.step ⟨done, top⟩ (if s.double then .tables s.path else .table s.path) =
        ⟨⟨s.path, s.double, []⟩ :: done, top⟩ := by
      cases s.double <;> rfl
    rw [List.flatMap_cons, List.foldl_append, Section.statements, List.foldl_cons, hheader,
      Outline.foldl_entries, ih, List.map_cons, List.reverse_cons, List.append_assoc,
      List.append_nil]
    rfl

/-- The statements of a text in sections are read as these sections. -/
theorem Outline.ofStatements_eq (top : List (List String × Toml)) (sections : List Section) :
    Outline.ofStatements
        ((top.map fun e ↦ .entry e.1 e.2) ++ sections.flatMap Section.statements) =
      ⟨sections, top⟩ := by
  rw [Outline.ofStatements, List.foldl_append, Outline.foldl_top, Outline.foldl_sections]
  simp [Function.comp_def]

/-! ## Tables -/

namespace Node

variable {entries : Entries} {key : String}

theorem lookup_eq_none (h : key ∉ entries.map (·.1)) : entries.lookup key = none := by
  induction entries with
  | nil => rfl
  | cons e entries ih =>
    rw [List.map_cons, List.mem_cons, not_or] at h
    have hne : (key == e.1) = false := beq_eq_false_iff_ne.mpr h.1
    rw [List.lookup_cons, hne]
    exact ih h.2

theorem add?_of_not_mem (n : Node) (h : key ∉ entries.map (·.1)) :
    add? key n entries = some (entries ++ [(key, n)]) := by
  rw [add?, lookup_eq_none h]
  rfl

theorem insert?_of_not_mem (v : Toml) (h : key ∉ entries.map (·.1)) :
    insert? [key] v entries = some (entries ++ [(key, .value v)]) := by
  have hplain : insert? [key] v entries = add? key (.value v) entries := by
    simp [insert?, modify?]
  rw [hplain, add?_of_not_mem _ h]

end Node

/-- Entries of names that are all different are put into a table one behind the other. -/
theorem fill?_of_nodup {entries : List (String × Toml)} : ∀ {table : Node.Entries},
    (table.map (·.1) ++ entries.map (·.1)).Nodup →
      fill? (entries.map fun e ↦ ([e.1], e.2)) table =
        some (table ++ entries.map fun e ↦ (e.1, .value e.2)) := by
  induction entries with
  | nil => exact fun _ ↦ by rw [List.map_nil, List.map_nil, List.append_nil, fill?]; rfl
  | cons e entries ih =>
    intro table h
    rw [List.map_cons, List.nodup_append] at h
    obtain ⟨htable, hentries, hdisjoint⟩ := h
    have hnew : e.1 ∉ table.map (·.1) := fun hmem ↦
      hdisjoint _ hmem _ List.mem_cons_self rfl
    have hrest : ((table ++ [(e.1, Node.value e.2)]).map (·.1) ++ entries.map (·.1)).Nodup := by
      rw [List.map_append, List.append_assoc, List.nodup_append]
      exact ⟨htable, hentries, hdisjoint⟩
    have hfill := ih hrest
    rw [fill?] at hfill ⊢
    rw [List.map_cons, List.foldlM_cons, Node.insert?_of_not_mem _ hnew, Option.bind_eq_bind,
      Option.bind_some, hfill, List.map_cons, List.append_assoc]
    rfl

end Toml
end ResourceManager
