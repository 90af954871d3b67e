import ResourceManager.Proofs.IdentityShape

/-!
# Identities read back from their paths

The path of an identity escapes its names, but not its provider and its type.  So an identity is not
always read back from its path: `parse_path` says when it is.

A provider with a slash is cut in more pieces than one, and the first of these is shorter than it
(`length_decodeSegment_le` says that undoing escapes does not help); an empty name at the end is
gone with the slash before it.

That the conditions are enough is a computation: the path is cut into the parts it was made of, and
these decode to the names.  That they are needed takes an argument, since a wrong cut could by
chance give the same identity.  It cannot: what is read as the provider would be a proper part of
the provider, decoded, and so be shorter than it (`isLiteral_of_piece`).
-/

set_option autoImplicit false

namespace ResourceManager

/-! ## Pieces of joined texts -/

namespace Text

variable {p : Char → Bool} {separator : Char}

theorem pieces_append_flatMap (h : p separator = true) (s : List Char) (rest : List (List Char)) :
    pieces p (s ++ rest.flatMap (separator :: ·)) = pieces p s ++ rest.flatMap (pieces p) := by
  induction rest generalizing s with
  | nil => simp
  | cons part rest ih =>
    have hcut : pieces p (s ++ separator :: (part ++ rest.flatMap (separator :: ·))) =
        pieces p s ++ pieces p (part ++ rest.flatMap (separator :: ·)) := by
      rw [pieces_eq_splitOnP, List.splitOnP_append_cons _ _ h, ← pieces_eq_splitOnP,
        ← pieces_eq_splitOnP]
    rw [List.flatMap_cons, List.flatMap_cons, List.cons_append, hcut, ih]

/-- Separators behind a text make empty pieces. -/
theorem exists_pieces_append {s after : List Char} (h : ∀ c ∈ after, p c = true) :
    ∃ n, pieces p (s ++ after) = pieces p s ++ List.replicate n [] := by
  induction after generalizing s with
  | nil => exact ⟨0, by simp⟩
  | cons c after ih =>
    obtain ⟨n, hn⟩ := ih (s := []) fun d hd ↦ h d (List.mem_cons_of_mem _ hd)
    refine ⟨n + 1, ?_⟩
    rw [pieces_eq_splitOnP, List.splitOnP_append_cons _ _ (h c List.mem_cons_self),
      ← pieces_eq_splitOnP, ← pieces_eq_splitOnP, ← List.nil_append after, hn]
    rfl

theorem flatMap_cons_eq_intercalate {parts : List (List Char)} (h : parts ≠ []) :
    parts.flatMap (separator :: ·) = separator :: [separator].intercalate parts := by
  induction parts with
  | nil => exact absurd rfl h
  | cons part rest ih =>
    cases rest with
    | nil => simp [List.intercalate]
    | cons next rest =>
      rw [List.flatMap_cons, ih (List.cons_ne_nil _ _), List.intercalate_cons_cons]
      simp

end Text

namespace ResourceIdentity

/-! ## The parts of paths

Slashes at the end of a path are not there for its reader.  So the parts of a path are those of its
segments only up to empty ones at the end, and `n` below counts these.
-/

/-- The parts of a path are those of its segments, without the empty ones at its end. -/
theorem exists_parts_append {p : ResourcePath} {c : Char} {s : List Char}
    (h : p.toList = '/' :: c :: s) (hc : (c == '/') = false) :
    ∃ n, p.parts.flatMap (Text.pieces (· == '/')) = parts p.text ++ List.replicate n [] := by
  have htrim : Text.trimBoth (· == '/') p.toList = Text.trimEnd (· == '/') (c :: s) := by
    rw [h, Text.trimBoth, List.dropWhile_cons_of_pos (by decide),
      List.dropWhile_cons_of_neg (by rw [hc]; exact Bool.false_ne_true)]
  obtain ⟨after, hafter, hall⟩ := Text.exists_trimEnd_append (· == '/') (c :: s)
  obtain ⟨n, hn⟩ := Text.exists_pieces_append (s := Text.trimEnd (· == '/') (c :: s)) hall
  refine ⟨n, ?_⟩
  have hslash : ('/' == '/') = true := rfl
  have hflat := Text.pieces_append_flatMap (p := (· == '/')) hslash [] p.parts
  rw [List.nil_append, ← ResourcePath.toList_eq_flatMap, h] at hflat
  have hbody : Text.pieces (· == '/') (c :: s) = p.parts.flatMap (Text.pieces (· == '/')) :=
    (List.cons.inj hflat).2
  rw [parts, ResourcePath.text_toList, htrim, ← hn, ← hafter, hbody]

/-- A text is written as it is without being cut or decoded. -/
def IsLiteral (s : String) : Prop :=
  '/' ∉ s.toList ∧ Percent.decodeSegment s.toList = s.toList

/-- A text that stands for itself is not cut: a proper part of it stands for less. -/
theorem isLiteral_of_piece {s : String} {before parts rest : List (List Char)} {n : Nat}
    (h : before ++ (Text.pieces (· == '/') s.toList ++ rest) = parts ++ List.replicate n [])
    {part : List Char} (hpart : parts[before.length]? = some part)
    (hdecode : pieceOf part = s) : IsLiteral s := by
  obtain ⟨first, others, hpieces⟩ := List.exists_cons_of_ne_nil
    (Text.pieces_ne_nil (· == '/') s.toList)
  have hfirst : part = first := by
    have hget := congrArg (·[before.length]?) h
    rw [List.getElem?_append_left (List.getElem?_eq_some_iff.mp hpart).1, hpart, hpieces,
      List.getElem?_append_right (Nat.le_refl _), Nat.sub_self] at hget
    exact (Option.some_inj.mp hget).symm
  have hjoin : ['/'].intercalate (first :: others) = s.toList := by
    rw [← hpieces, Text.pieces_eq_splitOnP]
    exact List.intercalate_splitOn '/'
  obtain ⟨behind, hbehind, -⟩ := Text.exists_intercalate_cons '/' first others
  rw [hjoin] at hbehind
  have htext : Percent.decodeSegment first = s.toList := by
    rw [← hdecode, pieceOf, hfirst, String.toList_ofList]
  have hlength := Percent.length_decodeSegment_le first
  rw [htext, hbehind, List.length_append] at hlength
  have hnil : behind = [] := List.length_eq_zero_iff.mp (by omega)
  rw [hnil, List.append_nil] at hbehind
  refine ⟨fun hslash ↦ ?_, (congrArg Percent.decodeSegment hbehind).trans htext⟩
  have hmem : first ∈ Text.pieces (· == '/') s.toList := hpieces ▸ List.mem_cons_self
  exact absurd (Text.eq_false_of_mem_pieces hmem _ (hbehind ▸ hslash)) (by decide)

/-! ## Identities -/

/-- What stands last in the path: the instance if there is one, else the resource. -/
def lastName (i : ResourceIdentity) : String := i.instanceId.getD i.resourceName

/-- The parts of the path before the provider. -/
def groupParts (i : ResourceIdentity) : List (List Char) :=
  ["subscriptions".toList, (Percent.encodeSegment i.subscriptionId).toList,
    "resourceGroups".toList, (Percent.encodeSegment i.resourceGroup).toList, "providers".toList]

/-- The parts of the path behind the type. -/
def nameParts (i : ResourceIdentity) : List (List Char) :=
  (Percent.encodeSegment i.resourceName).toList ::
    match i.instanceId with
    | some id => [instanceCollection.toList, (Percent.encodeSegment id).toList]
    | none => []

variable {i : ResourceIdentity}

theorem parts_path (i : ResourceIdentity) :
    i.path.parts = i.groupParts ++ i.provider.toList :: i.resourceType.toList :: i.nameParts := by
  rw [path, nameParts]
  cases i.instanceId <;> rfl

theorem not_slash_mem_encodeSegment (s : String) : '/' ∉ (Percent.encodeSegment s).toList :=
  fun h ↦ Percent.ne_of_isSegmentChar (Percent.isSegmentChar_of_mem h) (by decide) rfl

theorem not_slash_mem_groupParts : ∀ part ∈ i.groupParts, '/' ∉ part := by
  simp only [groupParts, List.forall_mem_cons, List.not_mem_nil, false_imp_iff, implies_true,
    not_slash_mem_encodeSegment, and_true, not_false_eq_true, true_and]
  decide

theorem not_slash_mem_nameParts : ∀ part ∈ i.nameParts, '/' ∉ part := by
  rw [nameParts, List.forall_mem_cons]
  refine ⟨not_slash_mem_encodeSegment _, ?_⟩
  cases i.instanceId with
  | none => exact nofun
  | some id =>
    simp only [List.forall_mem_cons, List.not_mem_nil, false_imp_iff, implies_true,
      not_slash_mem_encodeSegment, and_true, not_false_eq_true]
    decide

theorem nameParts_ne_nil (i : ResourceIdentity) : i.nameParts ≠ [] :=
  List.cons_ne_nil _ _

theorem getLast?_nameParts (i : ResourceIdentity) :
    i.nameParts.getLast? = some (Percent.encodeSegment i.lastName).toList := by
  rw [nameParts, lastName]
  cases i.instanceId <;> rfl

theorem encodeSegment_eq_nil_iff {s : String} :
    (Percent.encodeSegment s).toList = [] ↔ s = "" := by
  have hempty : Percent.encodeSegment s = Percent.encodeSegment "" ↔ s = "" :=
    Percent.encodeSegment_injective.eq_iff
  rw [String.toList_eq_nil_iff, ← hempty]
  rfl

theorem flatMap_pieces {parts : List (List Char)} (h : ∀ part ∈ parts, '/' ∉ part) :
    parts.flatMap (Text.pieces (· == '/')) = parts := by
  have hpieces : ∀ part ∈ parts, Text.pieces (· == '/') part = [part] := fun part hpart ↦
    Text.pieces_of_all fun c hc ↦ beq_eq_false_iff_ne.mpr fun heq ↦ h part hpart (heq ▸ hc)
  rw [List.flatMap_congr hpieces, List.flatMap_singleton']

/-- The parts of a path are those that it was made of, cut at the slashes of its provider and its
type, but for empty ones at its end. -/
theorem exists_parts_path (i : ResourceIdentity) :
    ∃ n, i.groupParts ++ (Text.pieces (· == '/') i.provider.toList ++
        (Text.pieces (· == '/') i.resourceType.toList ++ i.nameParts)) =
      parts i.path.text ++ List.replicate n [] := by
  obtain ⟨s, hs⟩ : ∃ s, i.path.toList = '/' :: 's' :: s := by
    rw [ResourcePath.toList_eq_flatMap, parts_path]
    exact ⟨_, rfl⟩
  obtain ⟨n, hn⟩ := exists_parts_append hs rfl
  refine ⟨n, ?_⟩
  rw [← hn, parts_path, List.flatMap_append, List.flatMap_cons, List.flatMap_cons,
    flatMap_pieces not_slash_mem_groupParts, flatMap_pieces not_slash_mem_nameParts]

theorem pieces_of_isLiteral {s : String} (h : IsLiteral s) :
    Text.pieces (· == '/') s.toList = [s.toList] := by
  have hslash : ∀ part ∈ [s.toList], '/' ∉ part := fun part hpart ↦
    List.mem_singleton.mp hpart ▸ h.1
  have hflat := flatMap_pieces hslash
  rwa [List.flatMap_singleton] at hflat

/-- A piece is a part of the text, decoded. -/
theorem exists_part {id s : String} {k : Nat} (h : (pieces id)[k]? = some s) :
    ∃ part, (parts id)[k]? = some part ∧ pieceOf part = s := by
  rw [pieces_eq_map_parts, List.getElem?_map] at h
  exact Option.map_eq_some_iff.mp h

/-- A text that names an identity has a part for each of its names. -/
theorem Names.length_le {id : String} (h : Names (pieces id) i) :
    7 + i.nameParts.length ≤ (parts id).length := by
  have hshape := h.length
  rw [pieces_eq_map_parts, List.length_map] at hshape
  rw [nameParts]
  cases hinstance : i.instanceId with
  | none => exact hshape
  | some name =>
    have hname := h.instanceId
    rw [hinstance] at hname
    split at hname
    · obtain ⟨part, hget, -⟩ := exists_part hname.symm
      exact (List.getElem?_eq_some_iff.mp hget).1
    · cases hname

/-- An identity that is read back has a path without escapes to undo or slashes to cut at, other
than those that the path has made. -/
theorem of_parse_path (h : parse i.path.text = .ok i) :
    IsLiteral i.provider ∧ IsLiteral i.resourceType ∧ i.lastName ≠ "" := by
  have hnames : Names (pieces i.path.text) i := parse_eq_ok.mp h
  obtain ⟨n, hn⟩ := exists_parts_path i
  obtain ⟨part, hget, hdecode⟩ := exists_part hnames.provider
  have hprovider : IsLiteral i.provider := isLiteral_of_piece hn hget hdecode
  rw [pieces_of_isLiteral hprovider, ← List.append_assoc] at hn
  obtain ⟨part, hget, hdecode⟩ := exists_part hnames.resourceType
  have htype : IsLiteral i.resourceType := isLiteral_of_piece hn hget hdecode
  rw [pieces_of_isLiteral htype] at hn
  refine ⟨hprovider, htype, fun hempty ↦ ?_⟩
  -- no part is lost at the end, so the empty one that stands there is still the last
  have hlength := hnames.length_le
  have hzero : n = 0 := by
    have hcount := congrArg List.length hn
    simp only [List.length_append, List.length_replicate, groupParts, List.length_cons,
      List.length_nil] at hcount
    omega
  rw [hzero, List.replicate_zero, List.append_nil] at hn
  have hlast : (parts i.path.text).getLast? = some [] := by
    have hne := i.nameParts_ne_nil
    rw [← hn, List.getLast?_append_of_ne_nil _ (List.append_ne_nil_of_right_ne_nil _ hne),
      List.getLast?_append_of_ne_nil _ hne, getLast?_nameParts,
      encodeSegment_eq_nil_iff.mpr hempty]
  rcases (cut_parts i.path.text).ends with hsingle | ⟨-, -, hends⟩
  · rw [hsingle, List.length_singleton] at hlength
    omega
  · exact hends hlast

/-- A path without such slashes is cut into the parts that it was made of. -/
theorem cut_path (hprovider : '/' ∉ i.provider.toList) (htype : '/' ∉ i.resourceType.toList)
    (hlast : i.lastName ≠ "") : Cut i.path.text.toList i.path.parts := by
  have hne : i.path.parts ≠ [] := by
    rw [parts_path]
    exact List.cons_ne_nil _ _
  refine ⟨⟨1, 0, ?_⟩, fun part hpart ↦ ?_, .inr ⟨hne, ?_, ?_⟩⟩
  · rw [ResourcePath.text_toList, ResourcePath.toList_eq_flatMap,
      Text.flatMap_cons_eq_intercalate hne, List.replicate_zero, List.append_nil]
    rfl
  · rw [parts_path, List.mem_append, List.mem_cons, List.mem_cons] at hpart
    rcases hpart with hpart | rfl | rfl | hpart
    · exact not_slash_mem_groupParts part hpart
    · exact hprovider
    · exact htype
    · exact not_slash_mem_nameParts part hpart
  · rw [parts_path, groupParts, List.cons_append, List.head?_cons, Ne, Option.some_inj]
    decide
  · rw [parts_path, List.getLast?_append_of_ne_nil _ (List.cons_ne_nil _ _),
      List.getLast?_cons_of_ne_nil (List.cons_ne_nil _ _),
      List.getLast?_cons_of_ne_nil i.nameParts_ne_nil, getLast?_nameParts]
    exact fun h ↦ hlast (encodeSegment_eq_nil_iff.mp (Option.some_inj.mp h))

theorem pieceOf_encodeSegment (value : String) :
    pieceOf (Percent.encodeSegment value).toList = value := by
  rw [pieceOf, Percent.decodeSegment_encodeSegment, String.ofList_toList]

theorem pieceOf_of_isLiteral {s : String} (h : IsLiteral s) : pieceOf s.toList = s := by
  rw [pieceOf, h.2, String.ofList_toList]

theorem pieceOf_of_no_mark {s : String} (h : '%' ∉ s.toList) : pieceOf s.toList = s := by
  rw [pieceOf, Percent.decodeSegment_of_no_mark h, String.ofList_toList]

theorem map_groupParts (i : ResourceIdentity) :
    i.groupParts.map pieceOf =
      ["subscriptions", i.subscriptionId, "resourceGroups", i.resourceGroup, "providers"] := by
  rw [groupParts, List.map_cons, List.map_cons, List.map_cons, List.map_cons, List.map_singleton,
    pieceOf_encodeSegment, pieceOf_encodeSegment, pieceOf_of_no_mark (by decide),
    pieceOf_of_no_mark (by decide), pieceOf_of_no_mark (by decide)]

/-- What the parts of such a path stand for. -/
theorem pieces_path (hprovider : IsLiteral i.provider) (htype : IsLiteral i.resourceType)
    (hlast : i.lastName ≠ "") :
    pieces i.path.text = "subscriptions" :: i.subscriptionId :: "resourceGroups" ::
      i.resourceGroup :: "providers" :: i.provider :: i.resourceType :: i.resourceName ::
      match i.instanceId with
      | some id => [instanceCollection, id]
      | none => [] := by
  have hnames : i.nameParts.map pieceOf = i.resourceName ::
      match i.instanceId with
      | some id => [instanceCollection, id]
      | none => [] := by
    rw [nameParts, List.map_cons, pieceOf_encodeSegment]
    cases i.instanceId with
    | none => rfl
    | some id =>
      rw [List.map_cons, List.map_singleton, pieceOf_encodeSegment, pieceOf_of_no_mark (by decide)]
  rw [pieces_eq_map_parts, ← (cut_path hprovider.1 htype.1 hlast).eq_parts, parts_path,
    List.map_append, List.map_cons, List.map_cons, map_groupParts, pieceOf_of_isLiteral hprovider,
    pieceOf_of_isLiteral htype, hnames]
  rfl

theorem names_path (hprovider : IsLiteral i.provider) (htype : IsLiteral i.resourceType)
    (hlast : i.lastName ≠ "") : Names (pieces i.path.text) i := by
  rw [pieces_path hprovider htype hlast]
  refine ⟨⟨?_, ?_, ?_, ?_⟩, rfl, rfl, rfl, rfl, rfl, ?_⟩
  · exact Nat.le_add_left 8 _
  · exact Text.sameIgnoringCase_refl _
  · exact Text.sameIgnoringCase_refl _
  · exact Text.sameIgnoringCase_refl _
  · cases i.instanceId with
    | none => rfl
    | some id => exact (if_pos (Text.sameIgnoringCase_refl _)).symm

/-- **When an identity is read back from its path.**  Its provider and its type are written as they
are, so they must be free of slashes and of anything to decode; and what stands last must not be
empty, or the slash before it is taken for the end.  All other names may be any texts. -/
theorem parse_path (i : ResourceIdentity) :
    parse i.path.text = .ok i ↔
      ('/' ∉ i.provider.toList ∧
        Percent.decodeSegment i.provider.toList = i.provider.toList) ∧
      ('/' ∉ i.resourceType.toList ∧
        Percent.decodeSegment i.resourceType.toList = i.resourceType.toList) ∧
      i.instanceId.getD i.resourceName ≠ "" :=
  ⟨of_parse_path, fun ⟨hprovider, htype, hlast⟩ ↦
    parse_eq_ok.mpr (names_path hprovider htype hlast)⟩

end ResourceIdentity
end ResourceManager
