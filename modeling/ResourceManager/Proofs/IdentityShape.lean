import Mathlib.Data.List.Forall2
import ResourceManager.Proofs.Identity
import ResourceManager.Proofs.Spelling

/-!
# The shape of resource ids

Which texts are resource ids, and what they say.  `Cut s parts` says what the parts of a text are,
`HasShape` which pieces are those of an id and `Names` what they name.  `parse_of_shape` says that
an id is read so, and that what is read does not depend on how the id is written: not on slashes at
its ends, on the case of its keywords, on which characters are escaped, nor on anything behind the
tenth piece.

`Cut` does not say how parts are found, only what they are; that a text has exactly one list of them
is `cut_iff`.  `Alike` and `SameAddress` describe in the same way what may differ between two texts
of one address.  Only afterwards are these related to what the parser does: its pieces are the parts
decoded, and it looks at pieces by their places.
-/

set_option autoImplicit false

namespace ResourceManager

/-! ## Texts without their ends -/

namespace Text

variable {p : Char → Bool} {s : List Char}

/-- The pieces of a text are those the library splits it into. -/
theorem pieces_eq_splitOnP (p : Char → Bool) (s : List Char) : pieces p s = s.splitOnP p := by
  induction s with
  | nil => rfl
  | cons c s ih =>
    obtain ⟨piece, others, hs⟩ := List.exists_cons_of_ne_nil (List.splitOnP_ne_nil p s)
    rw [pieces, List.splitOnP_cons_eq_if_modifyHead, ih, hs]
    rfl

/-- No piece holds a separator. -/
theorem eq_false_of_mem_pieces {piece : List Char} (h : piece ∈ pieces p s) :
    ∀ c ∈ piece, p c = false := by
  induction s generalizing piece with
  | nil =>
    rw [pieces, List.mem_singleton] at h
    rw [h]
    exact fun _ hc ↦ absurd hc List.not_mem_nil
  | cons d s ih =>
    obtain ⟨first, others, hs⟩ := List.exists_cons_of_ne_nil (pieces_ne_nil p s)
    rw [hs] at ih
    rw [pieces, hs] at h
    split at h
    · rcases List.mem_cons.mp h with rfl | h
      · exact fun _ hc ↦ absurd hc List.not_mem_nil
      · exact ih h
    · rename_i hd
      rcases List.mem_cons.mp h with rfl | h
      · intro c hc
        rcases List.mem_cons.mp hc with rfl | hc
        · exact Bool.not_eq_true _ ▸ hd
        · exact ih List.mem_cons_self c hc
      · exact ih (List.mem_cons_of_mem _ h)

/-- A text is what is left of it without its end, and that end. -/
theorem exists_trimEnd_append (p : Char → Bool) (s : List Char) :
    ∃ after, s = trimEnd p s ++ after ∧ ∀ c ∈ after, p c = true := by
  refine ⟨(s.reverse.takeWhile p).reverse, ?_, fun c hc ↦ ?_⟩
  · rw [trimEnd, ← List.reverse_append, List.takeWhile_append_dropWhile, List.reverse_reverse]
  · exact List.all_eq_true.mp List.all_takeWhile c (List.mem_reverse.mp hc)

/-- The same with both ends. -/
theorem exists_trimBoth_append (p : Char → Bool) (s : List Char) :
    ∃ before after, s = before ++ (trimBoth p s ++ after) ∧
      (∀ c ∈ before, p c = true) ∧ ∀ c ∈ after, p c = true := by
  obtain ⟨after, hafter, hall⟩ := exists_trimEnd_append p (s.dropWhile p)
  refine ⟨s.takeWhile p, after, ?_, List.all_eq_true.mp List.all_takeWhile, hall⟩
  rw [trimBoth, ← hafter, List.takeWhile_append_dropWhile]

/-- What is left does not begin with a character that is taken away, -/
theorem of_head?_trimBoth {c : Char} (h : (trimBoth p s).head? = some c) : p c = false := by
  obtain ⟨after, hafter, -⟩ := exists_trimEnd_append p (s.dropWhile p)
  have hhead : (s.dropWhile p).head? = some c := by
    rw [hafter, ← trimBoth, List.head?_append, h]
    rfl
  have hnot := List.head?_dropWhile_not p s
  rw [hhead] at hnot
  exact hnot

/-- and does not end with one. -/
theorem of_getLast?_trimBoth {c : Char} (h : (trimBoth p s).getLast? = some c) : p c = false := by
  rw [trimBoth, trimEnd, List.getLast?_reverse] at h
  have hnot := List.head?_dropWhile_not p (s.dropWhile p).reverse
  rw [h] at hnot
  exact hnot

/-- What stands between matching characters is what is left without them. -/
theorem trimBoth_append {before after : List Char} (hbefore : ∀ c ∈ before, p c = true)
    (hafter : ∀ c ∈ after, p c = true) (hfirst : ∀ c, s.head? = some c → p c = false)
    (hlast : ∀ c, s.getLast? = some c → p c = false) :
    trimBoth p (before ++ (s ++ after)) = s := by
  have hafter' : ∀ c ∈ after.reverse, p c = true := fun c hc ↦ hafter c (List.mem_reverse.mp hc)
  rw [trimBoth, List.dropWhile_append_of_pos hbefore]
  cases s with
  | nil =>
    rw [List.nil_append, ← List.append_nil after, List.dropWhile_append_of_pos hafter]
    rfl
  | cons c s =>
    have hc : ¬ p c = true := by
      rw [hfirst c rfl]
      exact Bool.false_ne_true
    rw [List.cons_append, List.dropWhile_cons_of_neg hc, ← List.cons_append, trimEnd,
      List.reverse_append, List.dropWhile_append_of_pos hafter', ← trimEnd,
      trimEnd_of_getLast? hlast]

variable (separator : Char)

/-- Joined texts begin with the first one, and a separator behind it if there are others. -/
theorem exists_intercalate_cons (first : List Char) (rest : List (List Char)) :
    ∃ behind, [separator].intercalate (first :: rest) = first ++ behind ∧
      (rest ≠ [] → behind.head? = some separator) := by
  cases rest with
  | nil => exact ⟨[], by simp [List.intercalate], fun h ↦ absurd rfl h⟩
  | cons next rest =>
    refine ⟨separator :: [separator].intercalate (next :: rest), ?_, fun _ ↦ rfl⟩
    rw [List.intercalate_cons_cons, List.append_assoc]
    rfl

/-- They end with the last one. -/
theorem exists_intercalate_concat (front : List (List Char)) (last : List Char) :
    ∃ before, [separator].intercalate (front ++ [last]) = before ++ last ∧
      (front ≠ [] → before.getLast? = some separator) := by
  induction front with
  | nil => exact ⟨[], by simp [List.intercalate], fun h ↦ absurd rfl h⟩
  | cons part front ih =>
    obtain ⟨before, hbefore, hseparator⟩ := ih
    obtain ⟨next, rest, hnext⟩ := List.exists_cons_of_ne_nil
      (List.append_ne_nil_of_right_ne_nil front (List.cons_ne_nil last []))
    refine ⟨part ++ separator :: before, ?_, fun _ ↦ ?_⟩
    · rw [List.cons_append, hnext, List.intercalate_cons_cons, ← hnext, hbefore]
      simp
    · cases front with
      | nil =>
        have hnil : before = [] := by
          simpa [List.intercalate] using hbefore
        simp [hnil]
      | cons part' front =>
        rw [List.getLast?_append, List.getLast?_cons, hseparator (List.cons_ne_nil _ _)]
        rfl

end Text

namespace ResourceIdentity

/-! ## Parts -/

/-- `Cut s parts`: the slashes of `s`, those at its ends aside, stand between `parts`. -/
structure Cut (s : List Char) (parts : List (List Char)) : Prop where
  text : ∃ m n, s = List.replicate m '/' ++ (['/'].intercalate parts ++ List.replicate n '/')
  noSlash : ∀ part ∈ parts, '/' ∉ part
  /-- No slash is left at an end: an empty part is there only if there is nothing else. -/
  ends : parts = [[]] ∨ parts ≠ [] ∧ parts.head? ≠ some [] ∧ parts.getLast? ≠ some []

/-- The parts of an id between slashes. -/
def parts (id : String) : List (List Char) :=
  Text.pieces (· == '/') (Text.trimBoth (· == '/') id.toList)

/-- The parts of an id are what the library splits it into, without the slashes at its ends. -/
theorem parts_eq_splitOn (id : String) :
    parts id = (Text.trimBoth (· == '/') id.toList).splitOn '/' := by
  rw [parts, Text.pieces_eq_splitOnP, List.splitOn_eq_splitOnP]

/-- A text of slashes alone. -/
theorem eq_replicate_of_all {s : List Char} (h : ∀ c ∈ s, (c == '/') = true) :
    s = List.replicate s.length '/' :=
  List.eq_replicate_iff.mpr ⟨rfl, fun c hc ↦ eq_of_beq (h c hc)⟩

theorem beq_of_mem_replicate {n : Nat} {c : Char} (h : c ∈ List.replicate n '/') :
    (c == '/') = true :=
  beq_iff_eq.mpr (List.eq_of_mem_replicate h)

/-- The parts of an id are a cut of it. -/
theorem cut_parts (id : String) : Cut id.toList (parts id) := by
  obtain ⟨before, after, htext, hbefore, hafter⟩ :=
    Text.exists_trimBoth_append (· == '/') id.toList
  have hjoin : ['/'].intercalate (parts id) = Text.trimBoth (· == '/') id.toList := by
    rw [parts_eq_splitOn, List.intercalate_splitOn]
  refine ⟨⟨before.length, after.length, ?_⟩, fun part hpart ↦ ?_, ?_⟩
  · rw [hjoin, ← eq_replicate_of_all hbefore, ← eq_replicate_of_all hafter]
    exact htext
  · intro hslash
    exact absurd (Text.eq_false_of_mem_pieces hpart _ hslash) (by decide)
  · by_cases hsingle : parts id = [[]]
    · exact .inl hsingle
    refine .inr ⟨Text.pieces_ne_nil _ _, fun hhead ↦ ?_, fun hlast ↦ ?_⟩
    · obtain ⟨rest, hrest⟩ := List.head?_eq_some_iff.mp hhead
      obtain ⟨behind, hbehind, hslash⟩ := Text.exists_intercalate_cons '/' [] rest
      have hne : rest ≠ [] := fun h ↦ hsingle (by rw [hrest, h])
      rw [← hrest, hjoin, List.nil_append] at hbehind
      exact absurd (Text.of_head?_trimBoth (hbehind ▸ hslash hne)) (by decide)
    · obtain ⟨front, hfront⟩ := List.getLast?_eq_some_iff.mp hlast
      obtain ⟨before', hbefore', hslash⟩ :=
        Text.exists_intercalate_concat '/' front []
      have hne : front ≠ [] := fun h ↦ hsingle (by rw [hfront, h, List.nil_append])
      rw [← hfront, hjoin, List.append_nil] at hbefore'
      exact absurd (Text.of_getLast?_trimBoth (hbefore' ▸ hslash hne)) (by decide)

/-- A text has only one list of parts. -/
theorem Cut.eq_parts {id : String} {parts' : List (List Char)} (h : Cut id.toList parts') :
    parts' = parts id := by
  obtain ⟨m, n, htext⟩ := h.text
  have hparts' : parts' ≠ [] := by
    rcases h.ends with rfl | ⟨hne, -⟩
    · exact List.cons_ne_nil _ _
    · exact hne
  -- what is trimmed off are just the slashes at the ends: the parts begin and end otherwise
  have htrim : Text.trimBoth (· == '/') id.toList = ['/'].intercalate parts' := by
    rw [htext]
    refine Text.trimBoth_append (fun c ↦ beq_of_mem_replicate) (fun c ↦ beq_of_mem_replicate)
      (fun c hc ↦ ?_) (fun c hc ↦ ?_)
    · rcases h.ends with rfl | ⟨-, hhead, -⟩
      · cases hc
      · obtain ⟨first, rest, rfl⟩ := List.exists_cons_of_ne_nil hparts'
        obtain ⟨behind, hbehind, -⟩ := Text.exists_intercalate_cons '/' first rest
        obtain ⟨d, first', rfl⟩ := List.exists_cons_of_ne_nil fun hnil ↦ hhead (congrArg some hnil)
        rw [hbehind] at hc
        cases hc
        refine beq_eq_false_iff_ne.mpr ?_
        rintro rfl
        exact h.noSlash _ List.mem_cons_self List.mem_cons_self
    · rcases h.ends with rfl | ⟨-, -, hlast⟩
      · cases hc
      · obtain ⟨last, hlast'⟩ := Option.ne_none_iff_exists'.mp
          (mt List.getLast?_eq_none_iff.mp hparts')
        obtain ⟨front, rfl⟩ := List.getLast?_eq_some_iff.mp hlast'
        obtain ⟨before, hbefore, -⟩ := Text.exists_intercalate_concat '/' front last
        have hne : last ≠ [] := fun hnil ↦ hlast (hlast'.trans (congrArg some hnil))
        rw [hbefore, List.getLast?_append_of_ne_nil _ hne] at hc
        refine beq_eq_false_iff_ne.mpr ?_
        rintro rfl
        exact h.noSlash last (by simp) (List.mem_of_getLast? hc)
  rw [parts_eq_splitOn, htrim, List.splitOn_intercalate '/' h.noSlash hparts']

/-- **They are the only one.** -/
theorem cut_iff {id : String} {parts' : List (List Char)} :
    Cut id.toList parts' ↔ parts' = parts id :=
  ⟨Cut.eq_parts, fun h ↦ h ▸ cut_parts id⟩

/-- The piece that a part stands for. -/
def pieceOf (part : List Char) : String := String.ofList (Percent.decodeSegment part)

/-- The pieces that are read are the decoded parts. -/
theorem pieces_eq_map_parts (id : String) : pieces id = (parts id).map pieceOf := rfl

/-- The pieces of an id are what its parts stand for. -/
theorem standsFor_pieces (id : String) :
    List.Forall₂ (fun part piece ↦ Percent.StandsFor part piece.toList) (parts id) (pieces id) := by
  rw [pieces_eq_map_parts, List.forall₂_map_right_iff, List.forall₂_same]
  intro part _
  rw [pieceOf, String.toList_ofList]
  exact Percent.decodeSegment_eq_iff.mp rfl

/-! ## Pieces -/

/-- Enough pieces, with the words of an id at their places. -/
structure HasShape (pieces : List String) : Prop where
  length : 8 ≤ pieces.length
  subscriptions : pieces[0]?.any (Text.sameIgnoringCase · "subscriptions") = true
  resourceGroups : pieces[2]?.any (Text.sameIgnoringCase · "resourceGroups") = true
  providers : pieces[4]?.any (Text.sameIgnoringCase · "providers") = true

/-- The pieces of an id name the resource. -/
structure Names (pieces : List String) (i : ResourceIdentity) : Prop extends HasShape pieces where
  subscriptionId : pieces[1]? = some i.subscriptionId
  resourceGroup : pieces[3]? = some i.resourceGroup
  provider : pieces[5]? = some i.provider
  resourceType : pieces[6]? = some i.resourceType
  resourceName : pieces[7]? = some i.resourceName
  /-- An instance is named only behind the word for instances. -/
  instanceId : i.instanceId =
    if pieces[8]?.any (Text.sameIgnoringCase · instanceCollection) then pieces[9]? else none

/-- The instance is what stands behind one more keyword, if that is the next piece. -/
theorem instanceOf?_eq (rest : List String) :
    instanceOf? rest =
      if rest[0]?.any (Text.sameIgnoringCase · instanceCollection) then rest[1]? else none := by
  match rest with
  | [] => rfl
  | [_] => exact (ite_self none).symm
  | collection :: id :: others => rfl

/-- What is read from pieces is what they name. -/
theorem ofPieces?_eq_some {pieces : List String} {i : ResourceIdentity} :
    ofPieces? pieces = some i ↔ Names pieces i := by
  constructor
  · intro h
    unfold ofPieces? at h
    split at h
    · split at h
      · rename_i hwords
        rw [Bool.and_eq_true, Bool.and_eq_true] at hwords
        cases h
        exact ⟨⟨by simp, hwords.1.1, hwords.1.2, hwords.2⟩, rfl, rfl, rfl, rfl, rfl,
          instanceOf?_eq _⟩
      · cases h
    · cases h
  · intro h
    match pieces with
    | w₀ :: p₁ :: w₂ :: p₃ :: w₄ :: p₅ :: p₆ :: p₇ :: rest =>
      have hwords : (Text.sameIgnoringCase w₀ "subscriptions" &&
          Text.sameIgnoringCase w₂ "resourceGroups" &&
          Text.sameIgnoringCase w₄ "providers") = true := by
        rw [Bool.and_eq_true, Bool.and_eq_true]
        exact ⟨⟨h.subscriptions, h.resourceGroups⟩, h.providers⟩
      obtain ⟨subscriptionId, resourceGroup, provider, resourceType, resourceName, instanceId⟩ := i
      rw [ofPieces?, if_pos hwords, instanceOf?_eq, Option.some_inj, mk.injEq]
      exact ⟨Option.some_inj.mp h.subscriptionId, Option.some_inj.mp h.resourceGroup,
        Option.some_inj.mp h.provider, Option.some_inj.mp h.resourceType,
        Option.some_inj.mp h.resourceName, h.instanceId.symm⟩
    | [] | [_] | [_, _] | [_, _, _] | [_, _, _, _] | [_, _, _, _, _] | [_, _, _, _, _, _]
    | [_, _, _, _, _, _, _] => exact absurd h.length (by simp)

/-- Pieces of the right shape name something. -/
theorem HasShape.exists_names {pieces : List String} (h : HasShape pieces) :
    ∃ i, Names pieces i := by
  have hlength := h.length
  exact ⟨⟨pieces[1], pieces[3], pieces[5], pieces[6], pieces[7], _⟩, h,
    List.getElem?_eq_getElem _, List.getElem?_eq_getElem _, List.getElem?_eq_getElem _,
    List.getElem?_eq_getElem _, List.getElem?_eq_getElem _, rfl⟩

/-! ## Other ways to write an id -/

/-- The places of words that may be written in any case. -/
def wordPlaces : List Nat := [0, 2, 4, 8]

/-- `Alike k t t'`: at place `k` of an id the parts `t` and `t'` say the same. -/
inductive Alike (k : Nat) : List Char → List Char → Prop
  | refl (t : List Char) : Alike k t t
  /-- Other characters are escaped. -/
  | spells {s t t' : List Char} (h : Percent.Spells s t) (h' : Percent.Spells s t') : Alike k t t'
  /-- Letters have another case, too. -/
  | word {s s' t t' : List Char} (hk : k ∈ wordPlaces) (h : Percent.Spells s t)
      (h' : Percent.Spells s' t')
      (hword : Text.sameIgnoringCase (String.ofList s) (String.ofList s') = true) : Alike k t t'

/-- The first ten parts say the same; what follows these does not count. -/
def SameAddress (parts parts' : List (List Char)) : Prop :=
  ∀ k < 10, Option.Rel (Alike k) parts[k]? parts'[k]?

/-- Pieces that count as the same at a place. -/
def SamePiece (k : Nat) (piece piece' : String) : Prop :=
  piece = piece' ∨ k ∈ wordPlaces ∧ Text.sameIgnoringCase piece piece' = true

/-- Parts that are alike stand for pieces that count as the same. -/
theorem Alike.samePiece {k : Nat} {t t' : List Char} (h : Alike k t t') :
    SamePiece k (pieceOf t) (pieceOf t') := by
  cases h with
  | refl => exact .inl rfl
  | spells h h' => rw [pieceOf, pieceOf, h.decodeSegment, h'.decodeSegment]; exact .inl rfl
  | word hk h h' hword =>
    rw [pieceOf, pieceOf, h.decodeSegment, h'.decodeSegment]
    exact .inr ⟨hk, hword⟩

/-- A keyword is found in one of them where it is found in the other. -/
theorem any_eq_of_rel {k : Nat} {o o' : Option String} (h : Option.Rel (SamePiece k) o o')
    (word : String) :
    o.any (Text.sameIgnoringCase · word) = o'.any (Text.sameIgnoringCase · word) := by
  cases h with
  | none => rfl
  | some h =>
    rcases h with rfl | ⟨-, hword⟩
    · rfl
    · rw [Option.any_some, Option.any_some, Text.sameIgnoringCase, Text.sameIgnoringCase,
        eq_of_beq hword]

/-- A piece that is no keyword is the same in both. -/
theorem eq_of_rel {k : Nat} (hk : k ∉ wordPlaces) {o o' : Option String}
    (h : Option.Rel (SamePiece k) o o') : o = o' := by
  cases h with
  | none => rfl
  | some h => exact congrArg some (h.resolve_right fun hword ↦ hk hword.1)

/-- So the pieces name the same. -/
theorem Names.of_samePiece {pieces pieces' : List String} {i : ResourceIdentity}
    (h : ∀ k < 10, Option.Rel (SamePiece k) pieces[k]? pieces'[k]?) (hi : Names pieces i) :
    Names pieces' i := by
  have hfield : ∀ k < 10, k ∉ wordPlaces → pieces'[k]? = pieces[k]? :=
    fun k hlt hk ↦ (eq_of_rel hk (h k hlt)).symm
  have hword : ∀ k < 10, ∀ word, pieces'[k]?.any (Text.sameIgnoringCase · word) =
      pieces[k]?.any (Text.sameIgnoringCase · word) :=
    fun k hlt word ↦ (any_eq_of_rel (h k hlt) word).symm
  have hname : pieces'[7]? = some i.resourceName :=
    (hfield 7 (by decide) (by decide)).trans hi.resourceName
  refine ⟨⟨(List.getElem?_eq_some_iff.mp hname).1, ?_, ?_, ?_⟩, ?_, ?_, ?_, ?_, hname, ?_⟩
  · rw [hword 0 (by decide)]; exact hi.subscriptions
  · rw [hword 2 (by decide)]; exact hi.resourceGroups
  · rw [hword 4 (by decide)]; exact hi.providers
  · rw [hfield 1 (by decide) (by decide)]; exact hi.subscriptionId
  · rw [hfield 3 (by decide) (by decide)]; exact hi.resourceGroup
  · rw [hfield 5 (by decide) (by decide)]; exact hi.provider
  · rw [hfield 6 (by decide) (by decide)]; exact hi.resourceType
  · rw [hword 8 (by decide), hfield 9 (by decide) (by decide)]; exact hi.instanceId

/-- Which of two pieces comes first does not count. -/
theorem SamePiece.symm {k : Nat} {piece piece' : String} (h : SamePiece k piece piece') :
    SamePiece k piece' piece := by
  rcases h with rfl | ⟨hk, hword⟩
  · exact .inl rfl
  · exact .inr ⟨hk, beq_iff_eq.mpr (eq_of_beq hword).symm⟩

/-- What pieces name depends on the first ten only, and on keywords but for their case. -/
theorem names_iff_of_samePiece {pieces pieces' : List String} {i : ResourceIdentity}
    (h : ∀ k < 10, Option.Rel (SamePiece k) pieces[k]? pieces'[k]?) :
    Names pieces i ↔ Names pieces' i := by
  refine ⟨.of_samePiece h, .of_samePiece fun k hk ↦ ?_⟩
  have hrel := h k hk
  revert hrel
  cases pieces[k]? <;> cases pieces'[k]? <;> rintro ⟨⟩
  · exact .none
  · rename_i hpiece
    exact .some hpiece.symm

/-- The pieces of two texts of one address. -/
theorem samePiece_of_sameAddress {id id' : String} (h : SameAddress (parts id) (parts id')) :
    ∀ k < 10, Option.Rel (SamePiece k) (pieces id)[k]? (pieces id')[k]? := by
  intro k hk
  have hrel := h k hk
  rw [pieces_eq_map_parts, pieces_eq_map_parts, List.getElem?_map, List.getElem?_map]
  revert hrel
  cases (parts id)[k]? <;> cases (parts id')[k]? <;> rintro ⟨⟩
  · exact .none
  · rename_i halike
    exact .some halike.samePiece

/-! ## Reading ids -/

/-- An id is read as what its pieces name. -/
theorem parse_eq_ok {id : String} {i : ResourceIdentity} :
    parse id = .ok i ↔ Names (pieces id) i := by
  rw [parse, parse?, ← ofPieces?_eq_some]
  cases ofPieces? (pieces id) <;> simp

/-- It is read at all if its pieces have the shape of an id. -/
theorem exists_parse_eq_ok {id : String} :
    (∃ i, parse id = .ok i) ↔ HasShape (pieces id) :=
  ⟨fun ⟨_, h⟩ ↦ (parse_eq_ok.mp h).toHasShape,
    fun h ↦ h.exists_names.imp fun _ hi ↦ parse_eq_ok.mpr hi⟩

/-- Otherwise the error holds the text as it was given. -/
theorem parse_eq_error {id : String} {e : Error} :
    parse id = .error e ↔ ¬ HasShape (pieces id) ∧ e = .invalidResourceId id := by
  rw [← exists_parse_eq_ok, parse]
  cases parse? id <;> simp [eq_comm]

/-- **What a resource id says.**  The slashes of a text, those at its ends aside, stand between its
parts, and every part stands for a piece: the text it spells, or itself if it spells none.  The text
is read exactly if the pieces have the shape of an id, and then as the identity that they name; else
it is told as it is.  A text the parts of which say the same is read as the same identity. -/
theorem parse_of_shape (id : String) :
    ∃ parts pieces, (∀ parts', Cut id.toList parts' ↔ parts' = parts) ∧
      List.Forall₂ (fun part piece ↦ Percent.StandsFor part piece.toList) parts pieces ∧
      (∀ i, parse id = .ok i ↔ Names pieces i) ∧
      ((∃ i, parse id = .ok i) ↔ HasShape pieces) ∧
      (∀ e, parse id = .error e ↔ ¬ HasShape pieces ∧ e = .invalidResourceId id) ∧
      ∀ id' parts', Cut id'.toList parts' → SameAddress parts parts' →
        ∀ i, parse id = .ok i ↔ parse id' = .ok i := by
  refine ⟨parts id, pieces id, fun parts' ↦ cut_iff, standsFor_pieces id, fun i ↦ parse_eq_ok,
    exists_parse_eq_ok, fun e ↦ parse_eq_error, fun id' parts' hcut hsame i ↦ ?_⟩
  rw [parse_eq_ok, parse_eq_ok]
  exact names_iff_of_samePiece (samePiece_of_sameAddress (cut_iff.mp hcut ▸ hsame))

/-- A slash that is escaped is part of a name, and one behind the id is nothing. -/
example : parse? "/SUBSCRIPTIONS/s/resource%47roups/a%2Fb/providers/P/t/%FF/" =
    some ⟨"s", "a/b", "P", "t", "%FF", none⟩ := by
  decide +kernel

end ResourceIdentity
end ResourceManager
