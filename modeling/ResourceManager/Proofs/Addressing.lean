import Mathlib.Data.List.Pairwise
import ResourceManager.Catalogue.All
import ResourceManager.Text.Pieces

/-!
# Addresses of operations

The path of a call says which operation is called on what: no two calls with the same method share
their path unless they are calls of one operation of the catalogue with the same subscription and
the same names.  Whatever characters a name has, `Percent.decodeSegment_encodeSegment` reads it back
and `Percent.isSegmentChar_of_mem` keeps it from being more than one segment, so a path can be cut
at its slashes (`ResourcePath.pieces_toList`).  That two operations are never mistaken for one
another is `Template.isApart`: their templates differ in length or in a word that is fixed in both.

`Invocation.path_determines_call` puts this together.
-/

set_option autoImplicit false

namespace ResourceManager

/-! ## Segments

A name is escaped when it becomes a segment and a fixed word is not, since it needs no escapes.
Either is read back from the text of the segment.
-/

namespace Percent

/-- Undoing escapes leaves a text alone that has none. -/
theorem decode_of_no_mark {s : List Char} (h : '%' ∉ s) : decode s = Utf8.encode s := by
  induction s with
  | nil => rfl
  | cons c s ih =>
    rw [List.mem_cons, not_or] at h
    rw [decode_cons_of_ne (Ne.symm h.1), ih h.2, Utf8.encode_cons]

theorem decodeSegment_of_no_mark {s : List Char} (h : '%' ∉ s) : decodeSegment s = s := by
  rw [decodeSegment, decode_of_no_mark h, Utf8.decode?_encode, Option.getD_some]

/-- A name is read back from its segment. -/
theorem decodeSegment_encodeSegment (value : String) :
    decodeSegment (encodeSegment value).toList = value.toList := by
  rw [encodeSegment, String.toList_ofList, decodeSegment, decode_encode (by decide),
    Utf8.decode?_encode, Option.getD_some]

theorem encodeSegment_injective : Function.Injective encodeSegment := by
  intro a b h
  have hdecode := decodeSegment_encodeSegment a
  rw [h, decodeSegment_encodeSegment] at hdecode
  exact (String.toList_inj.mp hdecode).symm

/-- The characters of which segments are made. -/
def isSegmentChar (c : Char) : Bool := isUnreserved c || c == '%'

/-- An escape is made of a mark and digits. -/
theorem of_mem_escape {q : Char → Bool} (hmark : q '%' = true)
    (hdigit : ∀ n : Fin 16, q (Hex.digit n) = true) {b : UInt8} {c : Char} (h : c ∈ escape b) :
    q c = true := by
  have hb : b.toNat < 256 := b.toNat_lt
  simp only [escape, Hex.ofByte, List.mem_cons, List.not_mem_nil, or_false] at h
  rcases h with rfl | rfl | rfl
  · exact hmark
  · exact hdigit ⟨b.toNat / 16, by omega⟩
  · exact hdigit ⟨b.toNat % 16, by omega⟩

theorem isSegmentChar_of_mem_escape {b : UInt8} {c : Char} (h : c ∈ escape b) :
    isSegmentChar c = true :=
  of_mem_escape (by decide) (by decide) h

theorem isSegmentChar_of_mem {value : String} {c : Char} (h : c ∈ (encodeSegment value).toList) :
    isSegmentChar c = true := by
  rw [encodeSegment, String.toList_ofList, encode, List.mem_flatMap] at h
  obtain ⟨d, -, hc⟩ := h
  rw [encodeChar] at hc
  split at hc
  · rename_i hkept
    rw [List.mem_singleton.mp hc, isSegmentChar, hkept, Bool.true_or]
  · obtain ⟨b, -, hc⟩ := List.mem_flatMap.mp hc
    exact isSegmentChar_of_mem_escape hc

theorem ne_of_isSegmentChar {c d : Char} (hc : isSegmentChar c = true)
    (hd : isSegmentChar d = false) : c ≠ d := by
  rintro rfl
  rw [hc] at hd
  cases hd

end Percent

namespace PathSegment

/-- What the segment stands for. -/
def value : PathSegment → String
  | fixed text => text
  | named value => value

/-- A fixed word that needs no escapes. -/
def IsPlain : PathSegment → Prop
  | fixed text => ∀ c ∈ text.toList, Percent.isUnreserved c = true
  | named _ => True

theorem isSegmentChar_of_mem_text {segment : PathSegment} (h : segment.IsPlain) {c : Char}
    (hc : c ∈ segment.text.toList) : Percent.isSegmentChar c = true := by
  cases segment with
  | fixed text => rw [Percent.isSegmentChar, h c hc, Bool.true_or]
  | named value => exact Percent.isSegmentChar_of_mem hc

/-- What a segment stands for is read back from its text. -/
theorem decodeSegment_text {segment : PathSegment} (h : segment.IsPlain) :
    Percent.decodeSegment segment.text.toList = segment.value.toList := by
  cases segment with
  | fixed text =>
    refine Percent.decodeSegment_of_no_mark fun hmark ↦ ?_
    have hreserved : Percent.isUnreserved '%' = true := h '%' hmark
    revert hreserved
    decide
  | named value => exact Percent.decodeSegment_encodeSegment value

end PathSegment

/-! ## Paths

No character of a segment is a slash.  So the slashes of a path are those between its segments, and
the path can be cut at them.
-/

namespace Text

/-- A text in which every part has a separator before it is cut into these parts. -/
theorem pieces_flatMap {p : Char → Bool} {separator : Char} (hseparator : p separator = true)
    {parts : List (List Char)} (h : ∀ part ∈ parts, ∀ c ∈ part, p c = false) :
    pieces p (parts.flatMap (separator :: ·)) = [] :: parts := by
  induction parts with
  | nil => rfl
  | cons part rest ih =>
    have hpart := h part List.mem_cons_self
    have hrest := ih fun part' hpart' ↦ h part' (List.mem_cons_of_mem _ hpart')
    rw [List.flatMap_cons, List.cons_append, pieces, if_pos hseparator, List.cons.injEq]
    refine ⟨rfl, ?_⟩
    cases rest with
    | nil => simpa using pieces_of_all hpart
    | cons next rest =>
      rw [List.flatMap_cons, List.cons_append, pieces, if_pos hseparator, List.cons.injEq] at hrest
      rw [List.flatMap_cons, List.cons_append, pieces_append hpart hseparator, hrest.2]

end Text

namespace ResourcePath

/-- All fixed words of a path are plain. -/
def IsPlain (p : ResourcePath) : Prop := ∀ segment ∈ p.segments, segment.IsPlain

/-- The segments of a path as they are written. -/
def parts (p : ResourcePath) : List (List Char) := p.segments.map (·.text.toList)

theorem toList_eq_flatMap (p : ResourcePath) : p.toList = p.parts.flatMap ('/' :: ·) := by
  rw [toList, parts, List.flatMap_map]

theorem isSegmentChar_of_mem_parts {p : ResourcePath} (h : p.IsPlain) {part : List Char}
    (hpart : part ∈ p.parts) {c : Char} (hc : c ∈ part) : Percent.isSegmentChar c = true := by
  obtain ⟨segment, hsegment, rfl⟩ := List.mem_map.mp hpart
  exact PathSegment.isSegmentChar_of_mem_text (h segment hsegment) hc

/-- A path is cut at its slashes into its segments. -/
theorem pieces_toList {p : ResourcePath} (h : p.IsPlain) :
    Text.pieces (· == '/') p.toList = [] :: p.parts := by
  rw [toList_eq_flatMap]
  refine Text.pieces_flatMap (by decide) fun part hpart c hc ↦ ?_
  simpa using Percent.ne_of_isSegmentChar (isSegmentChar_of_mem_parts h hpart hc) (by decide)

theorem text_toList (p : ResourcePath) : p.text.toList = p.toList := String.toList_ofList

/-- Paths with the same text have the same segments, as far as the text of these goes. -/
theorem texts_eq_of_text_eq {p q : ResourcePath} (hp : p.IsPlain) (hq : q.IsPlain)
    (h : p.text = q.text) : p.segments.map (·.text) = q.segments.map (·.text) := by
  have hlist : p.toList = q.toList := by rw [← text_toList, ← text_toList, h]
  have hpieces := pieces_toList hp
  rw [hlist, pieces_toList hq, List.cons.injEq] at hpieces
  refine (List.map_inj_right fun _ _ ↦ String.toList_inj.mp).mp ?_
  rw [List.map_map, List.map_map]
  exact hpieces.2.symm

end ResourcePath

/-! ## Templates

Two templates may be of one length, and then a name in the one could be the fixed word that the
other has in its place.  `isApart` asks for a place where both have a fixed word and a different
one, or for a different length: no names can make up for either.
-/

/-- Whether the segment is a place for a name or a word that needs no escapes. -/
def TemplateSegment.isPlain : TemplateSegment → Bool
  | fixed word => word.toList.all Percent.isUnreserved
  | name => true

namespace Template

theorem fill_name (t : Template) (names : List String) :
    fill (.name :: t) names = .named (names.headD "") :: fill t names.tail := by
  cases names <;> rfl

/-- The paths of a template with plain words are plain. -/
theorem isPlain_fill {t : Template} (h : t.all TemplateSegment.isPlain = true)
    (names : List String) : ResourcePath.IsPlain ⟨t.fill names⟩ := by
  induction t generalizing names with
  | nil => exact fun _ h ↦ absurd h List.not_mem_nil
  | cons x t ih =>
    rw [List.all_cons, Bool.and_eq_true] at h
    intro segment hsegment
    cases x with
    | fixed word =>
      rcases List.mem_cons.mp hsegment with rfl | hsegment
      · exact List.all_eq_true.mp h.1
      · exact ih h.2 names segment hsegment
    | name =>
      rw [fill_name] at hsegment
      rcases List.mem_cons.mp hsegment with rfl | hsegment
      · exact True.intro
      · exact ih h.2 names.tail segment hsegment

/-- Whether no names make two templates alike: they differ in length or in a fixed word. -/
def isApart : Template → Template → Bool
  | [], [] => false
  | .fixed a :: t, .fixed b :: u => a != b || isApart t u
  | _ :: t, _ :: u => isApart t u
  | _, _ => true

theorem isApart_comm : ∀ t u : Template, isApart t u = isApart u t
  | [], [] => rfl
  | [], .fixed _ :: _ => rfl
  | [], .name :: _ => rfl
  | .fixed _ :: _, [] => rfl
  | .name :: _, [] => rfl
  | .fixed a :: t, .fixed b :: u => by rw [isApart, isApart, isApart_comm t u, bne_comm]
  | .fixed _ :: t, .name :: u => isApart_comm t u
  | .name :: t, .fixed _ :: u => isApart_comm t u
  | .name :: t, .name :: u => isApart_comm t u

theorem isApart_self : ∀ t : Template, isApart t t = false
  | [] => rfl
  | .fixed a :: t => by rw [isApart, isApart_self t, bne_self_eq_false, Bool.or_false]
  | .name :: t => isApart_self t

/-- Every segment of a template gives one segment of the path. -/
theorem fill_cons (x : TemplateSegment) (t : Template) (names : List String) :
    ∃ segment names', fill (x :: t) names = segment :: fill t names' := by
  cases x with
  | fixed word => exact ⟨_, names, rfl⟩
  | name => exact ⟨_, names.tail, fill_name t names⟩

/-- Templates that are apart stay so whatever names are put in their places. -/
theorem texts_fill_ne {t u : Template} (h : isApart t u = true) (xs ys : List String) :
    (t.fill xs).map PathSegment.text ≠ (u.fill ys).map PathSegment.text := by
  fun_induction isApart t u generalizing xs ys with
  | case1 => cases h
  | case2 a t b u ih =>
    intro heq
    obtain ⟨hword, hrest⟩ := List.cons_eq_cons.mp heq
    rw [Bool.or_eq_true, bne_iff_ne] at h
    rcases h with h | h
    · exact h hword
    · exact ih h xs ys hrest
  | case3 x t y u _ ih =>
    obtain ⟨_, xs', hxs⟩ := fill_cons x t xs
    obtain ⟨_, ys', hys⟩ := fill_cons y u ys
    rw [hxs, hys]
    exact fun heq ↦ ih h xs' ys' (List.cons_eq_cons.mp heq).2
  | case4 t u hnil hfixed hcons =>
    cases t with
    | nil =>
      cases u with
      | nil => exact absurd rfl (hnil rfl)
      | cons y u =>
        obtain ⟨_, ys', hys⟩ := fill_cons y u ys
        rw [hys]
        exact nofun
    | cons x t =>
      cases u with
      | nil =>
        obtain ⟨_, xs', hxs⟩ := fill_cons x t xs
        rw [hxs]
        exact nofun
      | cons y u => exact absurd rfl (hcons x t y u rfl)

/-- The names are told by the texts. -/
theorem names_eq_of_texts_eq {t : Template} {xs ys : List String} (hxs : xs.length = t.names)
    (hys : ys.length = t.names)
    (h : (t.fill xs).map PathSegment.text = (t.fill ys).map PathSegment.text) : xs = ys := by
  induction t generalizing xs ys with
  | nil =>
    rw [List.eq_nil_of_length_eq_zero hxs, List.eq_nil_of_length_eq_zero hys]
  | cons x t ih =>
    cases x with
    | fixed word => exact ih hxs hys (List.cons_eq_cons.mp h).2
    | name =>
      rw [names, List.count_cons_self] at hxs hys
      obtain ⟨x, xs, rfl⟩ := List.exists_cons_of_length_eq_add_one hxs
      obtain ⟨y, ys, rfl⟩ := List.exists_cons_of_length_eq_add_one hys
      obtain ⟨htext, hrest⟩ := List.cons_eq_cons.mp h
      rw [Percent.encodeSegment_injective htext,
        ih (Nat.succ_inj.mp hxs) (Nat.succ_inj.mp hys) hrest]

end Template

/-! ## Calls

That the operations of the catalogue are pairwise apart is one computation over the catalogue.  All
that follows is about any two calls of it.
-/

/-- A call of an operation of the catalogue.  There are as many names as its path has places. -/
structure Invocation where
  op : Operation
  known : op ∈ Operation.catalogue
  subscription : String
  names : List String
  arity : names.length = op.names
  value : op.extra.Value

namespace Operation

/-- The method tells two operations apart, or their templates do. -/
def Apart (a b : Operation) : Prop := a.method ≠ b.method ∨ a.path.isApart b.path = true

instance (a b : Operation) : Decidable (a.Apart b) :=
  inferInstanceAs (Decidable (_ ∨ _))

instance : Std.Symm Apart where
  symm a b h := by
    rcases h with h | h
    · exact .inl (Ne.symm h)
    · exact .inr ((Template.isApart_comm b.path a.path).trans h)

theorem Apart.ne {a b : Operation} (h : a.Apart b) : a ≠ b := by
  rintro rfl
  rcases h with h | h
  · exact h rfl
  · rw [Template.isApart_self] at h
    cases h

/-- Any two operations of the catalogue are apart. -/
theorem catalogue_pairwise_apart : catalogue.Pairwise Apart := by
  decide +kernel

theorem catalogue_nodup : catalogue.Nodup :=
  catalogue_pairwise_apart.imp Apart.ne

theorem eq_of_not_apart {a b : Operation} (ha : a ∈ catalogue) (hb : b ∈ catalogue)
    (h : ¬ a.Apart b) : a = b := by
  by_contra hne
  exact h (catalogue_pairwise_apart.forall ha hb hne)

/-- Every path of the catalogue has a place for the subscription, and its words are plain. -/
theorem path_of_mem_catalogue : ∀ op ∈ catalogue,
    0 < op.path.names ∧ op.path.all TemplateSegment.isPlain = true := by
  decide +kernel

/-- What is handed over besides the names changes neither the method nor the path. -/
theorem add_keeps (spec : OperationSpec) (x : Extra) (value : x.Value) :
    (x.add spec value).method = spec.method ∧ (x.add spec value).path = spec.path := by
  cases x with
  | optionalBody => cases value <;> exact ⟨rfl, rfl⟩
  | query queryNames =>
    rw [Extra.add]
    generalize queryNames.zip value = pairs
    induction pairs generalizing spec with
    | nil => exact ⟨rfl, rfl⟩
    | cons pair rest ih =>
      obtain ⟨name, queryValue⟩ := pair
      have hrest := ih (spec.withOptionalQuery name (queryValue.map QueryValue.toText))
      cases queryValue <;> exact hrest
  | _ => exact ⟨rfl, rfl⟩

theorem method_spec (op : Operation) (subscription : String) (names : List String)
    (value : op.extra.Value) : (op.spec subscription names value).method = op.method := by
  rw [spec, (add_keeps _ _ _).1]
  split <;> rfl

theorem path_spec (op : Operation) (subscription : String) (names : List String)
    (value : op.extra.Value) :
    (op.spec subscription names value).path = (op.pathOf subscription names).text := by
  rw [spec, (add_keeps _ _ _).2]
  split <;> rfl

end Operation

namespace Invocation

/-- What the call submits. -/
def spec (i : Invocation) : OperationSpec := i.op.spec i.subscription i.names i.value

/-- The path of the call. -/
def path (i : Invocation) : ResourcePath := i.op.pathOf i.subscription i.names

theorem path_spec (i : Invocation) : i.spec.path = i.path.text :=
  i.op.path_spec i.subscription i.names i.value

theorem method_spec (i : Invocation) : i.spec.method = i.op.method :=
  i.op.method_spec i.subscription i.names i.value

theorem isPlain_path (i : Invocation) : i.path.IsPlain :=
  Template.isPlain_fill (Operation.path_of_mem_catalogue i.op i.known).2 _

/-- There is a name for every place, the subscription included. -/
theorem length_identifiers (i : Invocation) :
    (i.subscription :: i.names).length = i.op.path.names := by
  have hplace := (Operation.path_of_mem_catalogue i.op i.known).1
  rw [List.length_cons, i.arity, Operation.names]
  omega

/-- Calls with one method and one path are calls of one operation with the same names. -/
theorem eq_of_path_eq {a b : Invocation} (hmethod : a.op.method = b.op.method)
    (hpath : a.path.text = b.path.text) :
    a.op = b.op ∧ a.subscription = b.subscription ∧ a.names = b.names := by
  have htexts := ResourcePath.texts_eq_of_text_eq a.isPlain_path b.isPlain_path hpath
  have hop : a.op = b.op := by
    refine Operation.eq_of_not_apart a.known b.known fun h ↦ ?_
    rcases h with h | h
    · exact h hmethod
    · exact Template.texts_fill_ne h _ _ htexts
  have hnames : a.subscription :: a.names = b.subscription :: b.names := by
    refine Template.names_eq_of_texts_eq a.length_identifiers ?_ ?_
    · rw [hop, b.length_identifiers]
    · rw [path, path, Operation.pathOf, Operation.pathOf, hop] at htexts
      rw [hop]
      exact htexts
  obtain ⟨hsubscription, hrest⟩ := List.cons_eq_cons.mp hnames
  exact ⟨hop, hsubscription, hrest⟩

/-- **The path of a call determines it.**  No two operations of the catalogue are the same, and
calls that submit the same method and the same path agree in all but what is handed over besides the
names.  Cut at its slashes, with the escapes of every piece undone, a path gives back the fixed
words of the operation and the names in their places. -/
theorem path_determines_call :
    Operation.catalogue.Nodup ∧
      (∀ a b : Invocation, a.spec.method = b.spec.method ∧ a.spec.path = b.spec.path ↔
        a.op = b.op ∧ a.subscription = b.subscription ∧ a.names = b.names) ∧
      ∀ a : Invocation, (Text.pieces (· == '/') a.spec.path.toList).map
          (fun piece ↦ String.ofList (Percent.decodeSegment piece)) =
        "" :: a.path.segments.map PathSegment.value := by
  refine ⟨Operation.catalogue_nodup, fun a b ↦ ⟨?_, ?_⟩, fun a ↦ ?_⟩
  · rintro ⟨hmethod, hpath⟩
    rw [method_spec, method_spec] at hmethod
    rw [path_spec, path_spec] at hpath
    exact eq_of_path_eq hmethod hpath
  · rintro ⟨hop, hsubscription, hnames⟩
    rw [method_spec, method_spec, path_spec, path_spec, path, path, hop, hsubscription, hnames]
    exact ⟨rfl, rfl⟩
  · rw [path_spec, ResourcePath.text_toList, ResourcePath.pieces_toList a.isPlain_path,
      List.map_cons, ResourcePath.parts, List.map_map]
    refine congrArg₂ List.cons (by decide) (List.map_congr_left fun segment hsegment ↦ ?_)
    rw [Function.comp_apply, PathSegment.decodeSegment_text (a.isPlain_path segment hsegment),
      String.ofList_toList]

end Invocation

end ResourceManager
