import ResourceManager.Proofs.Addressing
import ResourceManager.Url.Parser

/-!
# Paths of calls in URLs

What becomes of the path of a call in the URL that is requested.  The path goes through a second
reader there, which drops blanks, cuts at slashes and backslashes, escapes what it does not keep and
resolves dot segments, escaped dots included.  Nothing of this touches the segments of a resource
path (`ResourcePath.setPath_text`) but the last: `Url.isDot_encodeSegment` and
`Url.isDoubleDot_encodeSegment` say that a name is a dot segment just when it consists of one or two
dots, and `Url.resolve_eq_self_iff` that a path stays as it is just when it has no such segment.

`OperationSpec.url_keeps_path_iff` is the exact boundary, with what is requested beyond it;
`Invocation.path_url_eq_iff` is the same for the calls of the catalogue.

Escaping a name does not help against dots.  A dot is a character that a segment may have, so it is
written as it is, and a URL reader would undo an escape of it anyway.  Every other character that
could do harm is escaped, and what escapes are made of goes through the second reader unchanged.
-/

set_option autoImplicit false

namespace ResourceManager

/-! ## Characters of segments

The characters that a segment is written with are letters, digits, a few signs and the mark of an
escape.  The reader of URLs neither drops one of them nor cuts at one nor escapes one again.
-/

/-- A byte of ASCII stands for itself only. -/
theorem Utf8.toNat_eq_of_mem_encodeChar {c : Char} {b : UInt8} (h : b ∈ encodeChar c)
    (hb : b.toNat < 0x80) : c.toNat = b.toNat := by
  have hc : c.toNat < 0xD800 ∨ 0xDFFF < c.toNat ∧ c.toNat < 0x110000 := c.valid
  simp only [encodeChar] at h
  split at h
  · rw [List.mem_singleton.mp h, toNat_ofNat_of_lt (by omega)]
  -- every byte of a longer form has its high bit set
  exfalso
  split at h
  · simp only [List.mem_cons, List.not_mem_nil, or_false] at h
    rcases h with rfl | rfl <;> rw [toNat_ofNat_of_lt (by omega)] at hb <;> omega
  split at h
  · simp only [List.mem_cons, List.not_mem_nil, or_false] at h
    rcases h with rfl | rfl | rfl <;> rw [toNat_ofNat_of_lt (by omega)] at hb <;> omega
  · simp only [List.mem_cons, List.not_mem_nil, or_false] at h
    rcases h with rfl | rfl | rfl | rfl <;> rw [toNat_ofNat_of_lt (by omega)] at hb <;> omega

namespace Percent

theorem toNat_lt_of_isAlphanum {c : Char} (h : c.isAlphanum = true) : c.toNat < 0x80 := by
  have hbound : ∀ last : UInt32, last.toNat < 0x80 → c.val ≤ last → c.toNat < 0x80 :=
    fun last hlast hle ↦ Nat.lt_of_le_of_lt (UInt32.le_iff_toNat_le.mp hle) hlast
  rcases Bool.or_eq_true_iff.mp h with hletter | hdigit
  · rcases Bool.or_eq_true_iff.mp hletter with hupper | hlower
    · exact hbound 'Z'.val (by decide) (of_decide_eq_true hupper).2
    · exact hbound 'z'.val (by decide) (of_decide_eq_true (Bool.and_eq_true_iff.mp hlower).2)
  · exact hbound '9'.val (by decide) (of_decide_eq_true (Bool.and_eq_true_iff.mp hdigit).2)

theorem toNat_lt_of_isSegmentChar {c : Char} (h : isSegmentChar c = true) : c.toNat < 0x80 := by
  simp only [isSegmentChar, isUnreserved, Bool.or_eq_true, beq_iff_eq] at h
  rcases h with ((((h | rfl) | rfl) | rfl) | rfl) | rfl
  · exact toNat_lt_of_isAlphanum h
  all_goals decide

/-- A text of kept characters has no escapes. -/
theorem encode_of_kept {keep : Char → Bool} {s : List Char} (h : ∀ c ∈ s, keep c = true) :
    encode keep s = s := by
  induction s with
  | nil => rfl
  | cons c s ih =>
    rw [encode_cons, encodeChar, if_pos (h c List.mem_cons_self),
      ih fun d hd ↦ h d (List.mem_cons_of_mem _ hd), List.singleton_append]

end Percent

namespace Url

open Percent

/-- A URL keeps the characters of segments in its path. -/
theorem isKeptInPath_of_isSegmentChar {c : Char} (h : isSegmentChar c = true) :
    isKeptInPath c = true := by
  have hall : ∀ n : Fin 0x80, isSegmentChar (Char.ofNat n) = true →
      isKeptInPath (Char.ofNat n) = true := by decide
  have hc := hall ⟨c.toNat, toNat_lt_of_isSegmentChar h⟩
  rw [Char.ofNat_toNat] at hc
  exact hc h

theorem isIgnored_of_isSegmentChar {c : Char} (h : isSegmentChar c = true) :
    isIgnored c = false := by
  simp [isIgnored, ne_of_isSegmentChar h (d := '\t') (by decide),
    ne_of_isSegmentChar h (d := '\n') (by decide), ne_of_isSegmentChar h (d := '\r') (by decide)]

theorem isSeparator_of_isSegmentChar (kind : SchemeKind) {c : Char} (h : isSegmentChar c = true) :
    isSeparator kind c = false := by
  simp [isSeparator, ne_of_isSegmentChar h (d := '/') (by decide),
    ne_of_isSegmentChar h (d := '\\') (by decide)]

/-! ## Names that are dot segments -/

theorem plainDots_cons {c : Char} (h : c ≠ '%') (rest : List Char) :
    plainDots (c :: rest) = c :: plainDots rest := by
  match rest with
  | [] => rfl
  | [_] => rfl
  | _ :: _ :: _ => rw [plainDots, if_neg fun hmark ↦ h hmark.1]

/-- Undoing the escapes of dots leaves other escapes alone. -/
theorem plainDots_escape {b : UInt8} (h : b.toNat ≠ 0x2E) (rest : List Char) :
    plainDots (escape b ++ rest) = escape b ++ plainDots rest := by
  have hb : b.toNat < 256 := b.toNat_lt
  have hdigit : ∀ m : Fin 16, Hex.digit m ≠ '%' := by decide
  have hdot : ∀ m : Fin 256, Hex.digit (m / 16) = '2' ∧
      (Hex.digit (m % 16) = 'e' ∨ Hex.digit (m % 16) = 'E') → m.1 = 0x2E := by decide +kernel
  have hhigh : Hex.digit (b.toNat / 16) ≠ '%' := hdigit ⟨b.toNat / 16, by omega⟩
  have hlow : Hex.digit (b.toNat % 16) ≠ '%' := hdigit ⟨b.toNat % 16, by omega⟩
  have hno : ¬ ('%' = '%' ∧ Hex.digit (b.toNat / 16) = '2' ∧
      (Hex.digit (b.toNat % 16) = 'e' ∨ Hex.digit (b.toNat % 16) = 'E')) :=
    fun hmarks ↦ h (hdot ⟨b.toNat, hb⟩ hmarks.2)
  show plainDots ('%' :: Hex.digit (b.toNat / 16) :: Hex.digit (b.toNat % 16) :: rest) = _
  rw [plainDots, if_neg hno, plainDots_cons hhigh, plainDots_cons hlow]
  rfl

theorem plainDots_flatMap_escape {bytes : Bytes} (h : ∀ b ∈ bytes, b.toNat ≠ 0x2E)
    (rest : List Char) :
    plainDots (bytes.flatMap escape ++ rest) = bytes.flatMap escape ++ plainDots rest := by
  induction bytes with
  | nil => rfl
  | cons b bytes ih =>
    have hrest := ih fun b' hb' ↦ h b' (List.mem_cons_of_mem _ hb')
    rw [List.flatMap_cons, List.append_assoc, plainDots_escape (h b List.mem_cons_self), hrest,
      List.append_assoc]

/-- An escaped name has no escaped dots. -/
theorem plainDots_encode (s : List Char) :
    plainDots (encode isUnreserved s) = encode isUnreserved s := by
  induction s with
  | nil => rfl
  | cons c s ih =>
    rw [encode_cons, encodeChar]
    split
    · rename_i hkept
      have hmark : c ≠ '%' := by
        rintro rfl
        exact absurd hkept (by decide)
      rw [List.singleton_append, plainDots_cons hmark, ih]
    · rename_i hescaped
      have hbytes : ∀ b ∈ Utf8.encodeChar c, b.toNat ≠ 0x2E := by
        intro b hb hdot
        have hc : c.toNat = '.'.toNat := (Utf8.toNat_eq_of_mem_encodeChar hb (by omega)).trans hdot
        exact hescaped (by rw [Char.toNat_inj.mp hc]; decide)
      rw [plainDots_flatMap_escape hbytes, ih]

theorem plainDots_encodeSegment (value : String) :
    plainDots (encodeSegment value).toList = (encodeSegment value).toList := by
  rw [encodeSegment, String.toList_ofList, plainDots_encode]

/-- A name stands for nothing just when it is one dot. -/
theorem isDot_encodeSegment (value : String) :
    isDot (encodeSegment value).toList = true ↔ value = "." := by
  have hdot : ['.'] = (encodeSegment ".").toList := by decide
  rw [isDot, beq_iff_eq, plainDots_encodeSegment, hdot, String.toList_inj,
    encodeSegment_injective.eq_iff]

/-- A name takes back the segment before it just when it is two dots. -/
theorem isDoubleDot_encodeSegment (value : String) :
    isDoubleDot (encodeSegment value).toList = true ↔ value = ".." := by
  have hdots : ['.', '.'] = (encodeSegment "..").toList := by decide
  rw [isDoubleDot, beq_iff_eq, plainDots_encodeSegment, hdots, String.toList_inj,
    encodeSegment_injective.eq_iff]

/-- A segment of a resource path is never taken for a drive. -/
theorem isDrive_of_isSegmentChar {s : List Char} (h : ∀ c ∈ s, isSegmentChar c = true) :
    isDrive s = false := by
  match s with
  | [] => rfl
  | [_] => rfl
  | letter :: mark :: rest =>
    have hmark : isSegmentChar mark = true := h mark (by simp)
    have hcolon : mark ≠ ':' := ne_of_isSegmentChar hmark (by decide)
    have hbar : mark ≠ '|' := ne_of_isSegmentChar hmark (by decide)
    unfold isDrive
    split <;> simp_all

/-! ## Resolving dot segments

Segments are visited from the left.  What has been visited and is still there is kept newest first,
so that two dots take the newest one back.  The last segment is special: where it is a dot segment
an empty one takes its place, and the path ends in a slash.
-/

/-- What is done after one more segment, newest first. -/
def visit (done : List (List Char)) (s : List Char) : List (List Char) :=
  if isDoubleDot s then takeBack done else if isDot s then done else s :: done

/-- Of a path of one segment an empty segment is left when it is a dot segment. -/
theorem resolveFrom_singleton (done : List (List Char)) (s : List Char) :
    resolveFrom done [s] =
      (if isDoubleDot s ∨ isDot s then [] :: visit done s else visit done s).reverse := by
  rw [resolveFrom, visit]
  split
  · rename_i hdots
    rw [if_pos (.inl hdots)]
  · rename_i hdots
    split
    · rename_i hdot
      rw [if_pos (.inr hdot)]
    · rename_i hdot
      rw [if_neg (not_or.mpr ⟨hdots, hdot⟩)]

/-- A segment that others follow is visited before them. -/
theorem resolveFrom_cons (done : List (List Char)) (s : List Char) {rest : List (List Char)}
    (h : rest ≠ []) : resolveFrom done (s :: rest) = resolveFrom (visit done s) rest := by
  obtain ⟨next, rest, rfl⟩ := List.exists_cons_of_ne_nil h
  rw [resolveFrom, visit]
  split
  · rfl
  · split <;> rfl

/-- Only a segment that is no dot segment is added to what is done. -/
theorem mem_visit {done : List (List Char)} {s x : List Char} (h : x ∈ visit done s) :
    x ∈ done ∨ x = s ∧ isDot s = false ∧ isDoubleDot s = false := by
  rw [visit] at h
  split at h
  · left
    cases done with
    | nil => exact h
    | cons newest others =>
      rw [takeBack] at h
      split at h
      · exact h
      · exact List.mem_cons_of_mem _ h
  · rename_i hdots
    split at h
    · exact .inl h
    · rename_i hdot
      rcases List.mem_cons.mp h with rfl | h
      · exact .inr ⟨rfl, by simpa using hdot, by simpa using hdots⟩
      · exact .inl h

/-- What is left of a path: what was done, segments that are no dot segments, and empty ones. -/
theorem mem_resolveFrom {done segments : List (List Char)} {x : List Char}
    (h : x ∈ resolveFrom done segments) :
    x ∈ done ∨ x = [] ∨ x ∈ segments ∧ isDot x = false ∧ isDoubleDot x = false := by
  have hvisit : ∀ {done s rest}, x ∈ visit done s →
      x ∈ done ∨ x = [] ∨ x ∈ s :: rest ∧ isDot x = false ∧ isDoubleDot x = false := by
    intro done s rest hx
    rcases mem_visit hx with hx | ⟨rfl, hplain⟩
    · exact .inl hx
    · exact .inr (.inr ⟨List.mem_cons_self, hplain⟩)
  induction segments generalizing done with
  | nil => exact .inl (List.mem_reverse.mp h)
  | cons s rest ih =>
    by_cases hrest : rest = []
    · rw [hrest, resolveFrom_singleton, List.mem_reverse] at h
      split at h
      · rcases List.mem_cons.mp h with h | h
        · exact .inr (.inl h)
        · exact hvisit h
      · exact hvisit h
    · rw [resolveFrom_cons done s hrest] at h
      rcases ih h with h | h | ⟨h, hplain⟩
      · exact hvisit h
      · exact .inr (.inl h)
      · exact .inr (.inr ⟨List.mem_cons_of_mem s h, hplain⟩)

theorem mem_resolve {segments : List (List Char)} {s : List Char} (h : s ∈ resolve segments) :
    s = [] ∨ s ∈ segments ∧ isDot s = false ∧ isDoubleDot s = false :=
  (mem_resolveFrom h).resolve_left List.not_mem_nil

/-- Resolving changes a path just when it has a dot segment. -/
theorem resolve_eq_self_iff {segments : List (List Char)} :
    resolve segments = segments ↔
      ∀ s ∈ segments, isDot s = false ∧ isDoubleDot s = false := by
  refine ⟨fun h s hs ↦ ?_, resolve_of_plain⟩
  rw [← h] at hs
  rcases mem_resolve hs with rfl | ⟨-, hplain⟩
  · exact ⟨rfl, rfl⟩
  · exact hplain

/-- The text of a path tells whether resolving changes it. -/
theorem text_resolve_eq_iff {segments : List (List Char)} (h : ∀ s ∈ segments, '/' ∉ s) :
    (Path.segments (resolve segments)).text = (Path.segments segments).text ↔
      ∀ s ∈ segments, isDot s = false ∧ isDoubleDot s = false := by
  have hcut : ∀ list : List (List Char), (∀ s ∈ list, '/' ∉ s) →
      Text.pieces (· == '/') (Path.segments list).text = [] :: list := by
    intro list hlist
    refine Text.pieces_flatMap (by decide) fun s hs c hc ↦ ?_
    exact beq_eq_false_iff_ne.mpr fun hslash ↦ hlist s hs (hslash ▸ hc)
  rw [← resolve_eq_self_iff]
  refine ⟨fun htext ↦ ?_, fun hsame ↦ by rw [hsame]⟩
  have hresolved : ∀ s ∈ resolve segments, '/' ∉ s := by
    intro s hs
    rcases mem_resolve hs with rfl | ⟨hs, -⟩
    · exact List.not_mem_nil
    · exact h s hs
  have hpieces := hcut _ hresolved
  rw [htext, hcut _ h, List.cons.injEq] at hpieces
  exact hpieces.2.symm

/-- Ends of paths that resolve alike do so behind the same beginning. -/
theorem resolveFrom_append_congr {l₁ l₂ : List (List Char)} (h₁ : l₁ ≠ []) (h₂ : l₂ ≠ [])
    (h : ∀ done, resolveFrom done l₁ = resolveFrom done l₂) (before done : List (List Char)) :
    resolveFrom done (before ++ l₁) = resolveFrom done (before ++ l₂) := by
  induction before generalizing done with
  | nil => exact h done
  | cons s before ih =>
    have hne₁ : before ++ l₁ ≠ [] := List.append_ne_nil_of_right_ne_nil before h₁
    have hne₂ : before ++ l₂ ≠ [] := List.append_ne_nil_of_right_ne_nil before h₂
    rw [List.cons_append, List.cons_append, resolveFrom_cons done s hne₁,
      resolveFrom_cons done s hne₂, ih]

/-- A dot segment is dropped once it is visited; at the end of a path an empty one replaces it. -/
theorem resolveFrom_visit {done done' : List (List Char)} {s : List Char}
    (hdots : isDoubleDot s = true ∨ isDot s = true) (hvisit : visit done s = done')
    (rest : List (List Char)) :
    resolveFrom done (s :: rest) = resolveFrom done' (if rest = [] then [[]] else rest) := by
  have hempty : ¬ (isDoubleDot [] = true ∨ isDot [] = true) := by decide
  by_cases hrest : rest = []
  · rw [hrest, if_pos rfl, resolveFrom_singleton, resolveFrom_singleton, if_pos hdots,
      if_neg hempty, hvisit]
    rfl
  · rw [if_neg hrest, resolveFrom_cons done s hrest, hvisit]

/-- A dot stands for nothing, at the end of a path for an empty segment. -/
theorem resolveFrom_dot {s : List Char} (h : isDot s = true) (done rest : List (List Char)) :
    resolveFrom done (s :: rest) = resolveFrom done (if rest = [] then [[]] else rest) := by
  have hdots : isDoubleDot s = false := by
    rw [isDot, beq_iff_eq] at h
    rw [isDoubleDot, h]
    rfl
  exact resolveFrom_visit (.inr h) (by rw [visit, hdots, h]; rfl) rest

/-- Two dots take back the segment before them, unless it is a drive. -/
theorem resolveFrom_doubleDot {parent s : List Char} (hdot : isDot parent = false)
    (hdots : isDoubleDot parent = false) (hdrive : isDrive parent = false)
    (h : isDoubleDot s = true) (done rest : List (List Char)) :
    resolveFrom done (parent :: s :: rest) =
      resolveFrom done (if rest = [] then [[]] else rest) := by
  have hparent : visit done parent = parent :: done := by
    rw [visit, hdots, hdot]
    rfl
  have hback : visit (parent :: done) s = done := by
    rw [visit, h, if_pos rfl, takeBack, hdrive]
    rfl
  rw [resolveFrom_cons done parent (List.cons_ne_nil s rest), hparent]
  exact resolveFrom_visit (.inl h) hback rest

/-! ## URLs whose path has segments

A path is only set where a URL has one that is made of segments.  The endpoint of a client is such a
URL if its scheme is one of the web.
-/

theorem exists_of_bind_eq_ok {α : Type} {x : Except UrlError α} {f : α → Except UrlError Url}
    {u : Url} (h : x >>= f = .ok u) : ∃ a, f a = .ok u := by
  cases x with
  | error e => cases h
  | ok a => exact ⟨a, h⟩

theorem path_of_parseAuthority {scheme : String} {text : List Char} {u : Url}
    (h : parseAuthority scheme text = .ok u) : ∃ list, u.path = .segments list := by
  obtain ⟨a, ha⟩ := exists_of_bind_eq_ok h
  cases ha
  exact ⟨_, rfl⟩

theorem path_of_parseFile {text : List Char} {u : Url} (h : parseFile text = .ok u) :
    ∃ list, u.path = .segments list := by
  unfold parseFile at h
  simp only at h
  split at h
  · split at h
    · obtain ⟨a, ha⟩ := exists_of_bind_eq_ok h
      cases ha
      exact ⟨_, rfl⟩
    · cases h
      exact ⟨_, rfl⟩
  · cases h
    exact ⟨_, rfl⟩

theorem path_of_parseOther {scheme : String} {text : List Char} {u : Url}
    (h : parseOther scheme text = .ok u) :
    (∃ list, u.path = .segments list) ∨ u.scheme = scheme := by
  unfold parseOther at h
  split at h
  · exact .inl (path_of_parseAuthority h)
  · cases h
    exact .inr rfl

/-- Only a URL of a scheme that names no host can have a path without segments. -/
theorem path_of_parse {text : String} {u : Url} (h : parse text = .ok u) :
    (∃ list, u.path = .segments list) ∨ u.kind = .other := by
  unfold parse at h
  split at h
  · cases h
  · rename_i scheme rest _
    split at h
    · exact .inl (path_of_parseAuthority h)
    · exact .inl (path_of_parseFile h)
    · rename_i hkind
      exact (path_of_parseOther h).imp_right fun hscheme ↦ by rw [kind, hscheme, hkind]

/-- A URL that names a host and whose path has segments. -/
structure OfWeb (u : Url) : Prop where
  kind : u.kind = .network
  path : ∃ list, u.path = .segments list

theorem OfWeb.of_parse {text : String} {u : Url} (h : parse text = .ok u)
    (hscheme : u.scheme = "http" ∨ u.scheme = "https") : u.OfWeb := by
  have hkind : u.kind = .network := by
    rcases hscheme with hscheme | hscheme <;> rw [Url.kind, hscheme] <;> decide
  refine ⟨hkind, (path_of_parse h).resolve_right ?_⟩
  rw [hkind]
  exact nofun

theorem path_appendQuery (u : Url) (pairs : List (String × String)) :
    (u.appendQuery pairs).path = u.path := by
  unfold appendQuery
  split <;> rfl

end Url

/-! ## Resource paths in URLs -/

namespace PathSegment

/-- A plain word is written like a name. -/
theorem text_eq_encodeSegment {segment : PathSegment} (h : segment.IsPlain) :
    segment.text = Percent.encodeSegment segment.value := by
  cases segment with
  | fixed text =>
    rw [value, Percent.encodeSegment, Percent.encode_of_kept h, String.ofList_toList]
    rfl
  | named value => rfl

theorem isDot_text {segment : PathSegment} (h : segment.IsPlain) :
    Url.isDot segment.text.toList = true ↔ segment.value = "." := by
  rw [text_eq_encodeSegment h, Url.isDot_encodeSegment]

theorem isDoubleDot_text {segment : PathSegment} (h : segment.IsPlain) :
    Url.isDoubleDot segment.text.toList = true ↔ segment.value = ".." := by
  rw [text_eq_encodeSegment h, Url.isDoubleDot_encodeSegment]

end PathSegment

namespace ResourcePath

theorem isIgnored_of_mem_toList {p : ResourcePath} (h : p.IsPlain) {c : Char}
    (hc : c ∈ p.toList) : Url.isIgnored c = false := by
  rw [toList_eq_flatMap, List.mem_flatMap] at hc
  obtain ⟨part, hpart, hc⟩ := hc
  rcases List.mem_cons.mp hc with rfl | hc
  · decide
  · exact Url.isIgnored_of_isSegmentChar (isSegmentChar_of_mem_parts h hpart hc)

/-- A resource path is cut and escaped as it was when it is read again. -/
theorem segmentsOfPath_toList {p : ResourcePath} (h : p.IsPlain) (hne : p.segments ≠ []) :
    Url.segmentsOfPath .network p.toList = Url.resolve p.parts := by
  have hpieces : Text.pieces (Url.isSeparator .network) p.toList = [] :: p.parts := by
    rw [toList_eq_flatMap]
    exact Text.pieces_flatMap (by decide) fun part hpart c hc ↦
      Url.isSeparator_of_isSegmentChar .network (isSegmentChar_of_mem_parts h hpart hc)
  have hkept : p.parts.map (Percent.encode Url.isKeptInPath) = p.parts := by
    refine (List.map_congr_left fun part hpart ↦ ?_).trans (List.map_id p.parts)
    exact Percent.encode_of_kept fun c hc ↦
      Url.isKeptInPath_of_isSegmentChar (isSegmentChar_of_mem_parts h hpart hc)
  obtain ⟨first, others, hsegments⟩ := List.exists_cons_of_ne_nil hne
  obtain ⟨rest, hrest⟩ : ∃ rest, p.toList = '/' :: rest := by
    rw [toList, hsegments, List.flatMap_cons]
    exact ⟨_, rfl⟩
  have hslash : Url.isSeparator .network '/' = true := by decide
  rw [hrest, Text.pieces, if_pos hslash, List.cons.injEq] at hpieces
  rw [hrest, Url.segmentsOfPath, if_pos hslash, Url.segmentsOf, hpieces.2, hkept]
  exact if_neg (by decide)

/-- The path of a URL becomes the resource path with its dot segments resolved. -/
theorem setPath_text {u : Url} (hu : u.OfWeb) {p : ResourcePath} (h : p.IsPlain)
    (hne : p.segments ≠ []) :
    u.setPath p.text = { u with path := .segments (Url.resolve p.parts) } := by
  obtain ⟨list, hlist⟩ := hu.path
  have hfilter : p.toList.filter (!Url.isIgnored ·) = p.toList :=
    List.filter_eq_self.mpr fun c hc ↦ by rw [isIgnored_of_mem_toList h hc]; rfl
  rw [Url.setPath, hlist, hu.kind, text_toList, hfilter]
  show { u with path := Url.Path.segments (Url.segmentsOfPath .network p.toList) } = _
  rw [segmentsOfPath_toList h hne]

end ResourcePath

/-! ## Paths made of the words of the catalogue

The fixed words of the catalogue need no escapes and are not dots.  This is checked once for all of
them, and a path that is built from such words and any names has only its names to blame.
-/

/-- Whether the segment is a place for a name or a word that is neither empty nor dots. -/
def TemplateSegment.isSolid : TemplateSegment → Bool
  | fixed word => word != "" && word != "." && word != ".."
  | name => true

namespace Operation

/-- The fixed words of the catalogue. -/
def IsWord (word : String) : Prop := ∃ op ∈ catalogue, .fixed word ∈ op.path

theorem solid_of_mem_catalogue :
    ∀ op ∈ catalogue, op.path.all TemplateSegment.isSolid = true := by
  decide +kernel

theorem IsWord.plain {word : String} (h : IsWord word) :
    ∀ c ∈ word.toList, Percent.isUnreserved c = true := by
  obtain ⟨op, hop, hword⟩ := h
  exact List.all_eq_true.mp (List.all_eq_true.mp (path_of_mem_catalogue op hop).2 _ hword)

theorem IsWord.solid {word : String} (h : IsWord word) :
    word ≠ "" ∧ word ≠ "." ∧ word ≠ ".." := by
  obtain ⟨op, hop, hword⟩ := h
  have hsolid := List.all_eq_true.mp (solid_of_mem_catalogue op hop) _ hword
  simpa [TemplateSegment.isSolid, and_assoc] using hsolid

theorem isWord_subscriptions : IsWord "subscriptions" :=
  ⟨VirtualMachine.createOrUpdate, by decide +kernel, by decide⟩

end Operation

namespace ResourcePath

/-- Paths that are made, below a subscription, of words of the catalogue and any names. -/
inductive Built : ResourcePath → Prop where
  | subscription (id : String) : Built (.subscription id)
  | literal {p : ResourcePath} {word : String} (h : Built p) (hword : Operation.IsWord word) :
      Built (p.literal word)
  | segment {p : ResourcePath} (h : Built p) (name : String) : Built (p.segment name)

namespace Built

variable {p : ResourcePath}

theorem ne_nil (h : p.Built) : p.segments ≠ [] := by
  cases h with
  | subscription id => exact List.cons_ne_nil _ _
  | literal h hword => exact List.append_ne_nil_of_right_ne_nil _ (List.cons_ne_nil _ _)
  | segment h name => exact List.append_ne_nil_of_right_ne_nil _ (List.cons_ne_nil _ _)

theorem isWord_of_mem (h : p.Built) {word : String} (hmem : .fixed word ∈ p.segments) :
    Operation.IsWord word := by
  induction h with
  | subscription id =>
    have hsegments : (ResourcePath.subscription id).segments =
        [.fixed "subscriptions", .named id] := rfl
    simp only [hsegments, List.mem_cons, PathSegment.fixed.injEq, reduceCtorEq, List.not_mem_nil,
      or_false] at hmem
    rw [hmem]
    exact Operation.isWord_subscriptions
  | literal _ hword ih =>
    rcases List.mem_append.mp hmem with hmem | hmem
    · exact ih hmem
    · rw [List.mem_singleton] at hmem
      rwa [PathSegment.fixed.inj hmem]
  | segment _ name ih =>
    rcases List.mem_append.mp hmem with hmem | hmem
    · exact ih hmem
    · rw [List.mem_singleton] at hmem
      cases hmem

theorem isPlain (h : p.Built) : p.IsPlain := by
  intro segment hmem
  cases segment with
  | fixed word => exact (h.isWord_of_mem hmem).plain
  | named name => exact True.intro

/-- A template of words of the catalogue may go on below a path. -/
theorem append_fill {t : Template} (h : p.Built)
    (ht : ∀ word, .fixed word ∈ t → Operation.IsWord word) (names : List String) :
    (p.append (t.fill names)).Built := by
  induction t generalizing p names with
  | nil =>
    rw [Template.fill, append, List.append_nil]
    exact h
  | cons x t ih =>
    have hrest : ∀ word, .fixed word ∈ t → Operation.IsWord word :=
      fun word hword ↦ ht word (List.mem_cons_of_mem _ hword)
    have hcons (segment : PathSegment) (names : List String) :
        p.append (segment :: Template.fill t names) =
          (p.append [segment]).append (Template.fill t names) := by
      rw [append, append, append, List.append_assoc, List.singleton_append]
    cases x with
    | fixed word =>
      rw [Template.fill, hcons]
      exact ih (h.literal (ht word List.mem_cons_self)) hrest names
    | name =>
      rw [Template.fill_name, hcons]
      exact ih (h.segment _) hrest names.tail

/-- Only a name can be a dot segment. -/
theorem forall_value_iff (h : p.Built) :
    (∀ segment ∈ p.segments, segment.value ≠ "." ∧ segment.value ≠ "..") ↔
      ∀ name, .named name ∈ p.segments → name ≠ "." ∧ name ≠ ".." := by
  refine ⟨fun hvalue name hmem ↦ hvalue _ hmem, fun hname segment hmem ↦ ?_⟩
  cases segment with
  | fixed word => exact (h.isWord_of_mem hmem).solid.2
  | named name => exact hname name hmem

end Built

end ResourcePath

/-- The paths of all calls are made of words of the catalogue and names. -/
theorem Operation.built_pathOf {op : Operation} (hop : op ∈ catalogue) (subscription : String)
    (names : List String) : (op.pathOf subscription names).Built := by
  have hbegin : ∀ op ∈ catalogue, op.path.take 2 = Template.child "subscriptions" := by
    decide +kernel
  have hpath : op.path = Template.child "subscriptions" ++ op.path.drop 2 := by
    rw [← hbegin op hop, List.take_append_drop]
  have hwords : ∀ word, .fixed word ∈ op.path.drop 2 → IsWord word := fun word hword ↦
    ⟨op, hop, List.mem_of_mem_drop hword⟩
  rw [pathOf, hpath]
  exact (ResourcePath.Built.subscription subscription).append_fill hwords names

/-! ## The URL of a call

The query is added to the URL after its path is set, and it does not change the path.  So what is
said of paths carries over, and two calls whose paths resolve alike have the same URL.
-/

namespace OperationSpec

/-- The call with another path. -/
def withPath (s : OperationSpec) (p : ResourcePath) : OperationSpec := { s with path := p.text }

variable {endpoint : Url} {p : ResourcePath}

theorem url_withPath (hu : endpoint.OfWeb) (h : p.IsPlain) (hne : p.segments ≠ [])
    (s : OperationSpec) :
    (s.withPath p).url endpoint =
      { endpoint with path := .segments (Url.resolve p.parts) }.appendQuery s.queryPairs := by
  rw [url, withPath, ResourcePath.setPath_text hu h hne]
  rfl

/-- The path of a call is that of its URL just when no segment stands for dots. -/
theorem path_url_eq_iff (hu : endpoint.OfWeb) (h : p.IsPlain) (hne : p.segments ≠ [])
    (s : OperationSpec) :
    ((s.withPath p).url endpoint).path.text = p.toList ↔
      ∀ segment ∈ p.segments, segment.value ≠ "." ∧ segment.value ≠ ".." := by
  have hslash : ∀ part ∈ p.parts, '/' ∉ part := fun part hpart hc ↦
    absurd (ResourcePath.isSegmentChar_of_mem_parts h hpart hc) (by decide)
  have hdots : ∀ segment ∈ p.segments,
      (Url.isDot segment.text.toList = false ∧ Url.isDoubleDot segment.text.toList = false ↔
        segment.value ≠ "." ∧ segment.value ≠ "..") := fun segment hmem ↦ by
    rw [← Bool.not_eq_true, ← Bool.not_eq_true, PathSegment.isDot_text (h segment hmem),
      PathSegment.isDoubleDot_text (h segment hmem)]
  rw [url_withPath hu h hne, Url.path_appendQuery, ResourcePath.toList_eq_flatMap]
  refine (Url.text_resolve_eq_iff hslash).trans ?_
  rw [ResourcePath.parts, List.forall_mem_map]
  exact forall₂_congr hdots

/-- What is left behind a dot segment that is dropped: at the end an empty segment. -/
theorem isPlain_behind {before dropped rest : List PathSegment}
    (h : ResourcePath.IsPlain ⟨before ++ (dropped ++ rest)⟩) :
    ResourcePath.IsPlain ⟨before ++ if rest = [] then [.named ""] else rest⟩ := by
  intro segment hmem
  rcases List.mem_append.mp hmem with hmem | hmem
  · exact h segment (List.mem_append_left _ hmem)
  · split at hmem
    · rw [List.mem_singleton.mp hmem]
      exact True.intro
    · exact h segment (List.mem_append_right _ (List.mem_append_right _ hmem))

/-- Segments that resolve to nothing can be left out of the path of a call. -/
theorem url_withPath_drop (hu : endpoint.OfWeb) {before rest : List PathSegment}
    (dropped : List PathSegment) (h : ResourcePath.IsPlain ⟨before ++ (dropped ++ rest)⟩)
    (hne : dropped ≠ [])
    (hdrop : ∀ done rest : List (List Char),
      Url.resolveFrom done (dropped.map (·.text.toList) ++ rest) =
        Url.resolveFrom done (if rest = [] then [[]] else rest)) (s : OperationSpec) :
    (s.withPath ⟨before ++ (dropped ++ rest)⟩).url endpoint =
      (s.withPath ⟨before ++ if rest = [] then [.named ""] else rest⟩).url endpoint := by
  have hrest : (if rest = [] then [.named ""] else rest).map (·.text.toList) =
      if rest.map (·.text.toList) = [] then [[]] else rest.map (·.text.toList) := by
    cases rest <;> rfl
  have hleft : (if rest.map (·.text.toList) = [] then [[]] else rest.map (·.text.toList)) ≠ [] := by
    cases rest <;> exact List.cons_ne_nil _ _
  have hdropped : dropped.map (·.text.toList) ++ rest.map (·.text.toList) ≠ [] :=
    List.append_ne_nil_of_left_ne_nil (List.map_eq_nil_iff.not.mpr hne) _
  have hresolve : Url.resolve (ResourcePath.parts ⟨before ++ (dropped ++ rest)⟩) =
      Url.resolve (ResourcePath.parts ⟨before ++ if rest = [] then [.named ""] else rest⟩) := by
    rw [ResourcePath.parts, ResourcePath.parts, List.map_append, List.map_append, List.map_append,
      hrest]
    exact Url.resolveFrom_append_congr hdropped hleft (fun done ↦ hdrop done _) _ []
  have hwhole : before ++ (dropped ++ rest) ≠ [] :=
    List.append_ne_nil_of_right_ne_nil _ (List.append_ne_nil_of_left_ne_nil hne _)
  have hbehind : (before ++ if rest = [] then [.named ""] else rest) ≠ [] := by
    refine List.append_ne_nil_of_right_ne_nil _ ?_
    cases rest <;> exact List.cons_ne_nil _ _
  rw [url_withPath hu h hwhole, url_withPath hu (isPlain_behind h) hbehind, hresolve]

/-- A name of one dot is dropped. -/
theorem url_withPath_dot (hu : endpoint.OfWeb) {before rest : List PathSegment}
    (h : ResourcePath.IsPlain ⟨before ++ .named "." :: rest⟩) (s : OperationSpec) :
    (s.withPath ⟨before ++ .named "." :: rest⟩).url endpoint =
      (s.withPath ⟨before ++ if rest = [] then [.named ""] else rest⟩).url endpoint := by
  have hdot : Url.isDot (PathSegment.named ".").text.toList = true :=
    (Url.isDot_encodeSegment ".").mpr rfl
  exact url_withPath_drop hu [.named "."] h (List.cons_ne_nil _ _)
    (Url.resolveFrom_dot hdot) s

/-- A name of two dots is dropped together with the segment before it. -/
theorem url_withPath_doubleDot (hu : endpoint.OfWeb) {before rest : List PathSegment}
    {parent : PathSegment}
    (h : ResourcePath.IsPlain ⟨before ++ parent :: .named ".." :: rest⟩)
    (hparent : parent.value ≠ "." ∧ parent.value ≠ "..") (s : OperationSpec) :
    (s.withPath ⟨before ++ parent :: .named ".." :: rest⟩).url endpoint =
      (s.withPath ⟨before ++ if rest = [] then [.named ""] else rest⟩).url endpoint := by
  have hplain : parent.IsPlain := h parent (List.mem_append_right _ List.mem_cons_self)
  have hdot : Url.isDot parent.text.toList = false := by
    rw [← Bool.not_eq_true, PathSegment.isDot_text hplain]
    exact hparent.1
  have hdots : Url.isDoubleDot parent.text.toList = false := by
    rw [← Bool.not_eq_true, PathSegment.isDoubleDot_text hplain]
    exact hparent.2
  have hdrive : Url.isDrive parent.text.toList = false :=
    Url.isDrive_of_isSegmentChar fun c hc ↦ PathSegment.isSegmentChar_of_mem_text hplain hc
  have htaken : Url.isDoubleDot (PathSegment.named "..").text.toList = true :=
    (Url.isDoubleDot_encodeSegment "..").mpr rfl
  exact url_withPath_drop hu [parent, .named ".."] h (List.cons_ne_nil _ _)
    (Url.resolveFrom_doubleDot hdot hdots hdrive htaken) s

/-- **A URL keeps the path of its call just when no name is a dot segment.**  The endpoint is any
URL of the web, and the path is made of words of the catalogue and any names.  A name of one dot is
dropped, one of two dots together with the segment before it, and then the URL is that of a call
with another path. -/
theorem url_keeps_path_iff {text : String} (hparse : Url.parse text = .ok endpoint)
    (hscheme : endpoint.scheme = "http" ∨ endpoint.scheme = "https") (hp : p.Built)
    (s : OperationSpec) :
    (((s.withPath p).url endpoint).path.text = (s.withPath p).path.toList ↔
        ∀ name, .named name ∈ p.segments → name ≠ "." ∧ name ≠ "..") ∧
      (∀ before rest, p.segments = before ++ .named "." :: rest →
        (s.withPath p).url endpoint =
          (s.withPath ⟨before ++ if rest = [] then [.named ""] else rest⟩).url endpoint) ∧
      ∀ before parent rest, p.segments = before ++ parent :: .named ".." :: rest →
        parent.value ≠ "." ∧ parent.value ≠ ".." →
          (s.withPath p).url endpoint =
            (s.withPath ⟨before ++ if rest = [] then [.named ""] else rest⟩).url endpoint := by
  have hu := Url.OfWeb.of_parse hparse hscheme
  have hplain := hp.isPlain
  refine ⟨?_, fun before rest hsegments ↦ ?_, fun before parent rest hsegments hparent ↦ ?_⟩
  · rw [← hp.forall_value_iff, ← path_url_eq_iff hu hplain hp.ne_nil s]
    exact iff_of_eq (congrArg _ p.text_toList)
  · obtain ⟨segments⟩ := p
    subst hsegments
    exact url_withPath_dot hu hplain s
  · obtain ⟨segments⟩ := p
    subst hsegments
    exact url_withPath_doubleDot hu hplain hparent s

/-- To delete the instance `..` of a scale set is to delete at the address of the scale set. -/
theorem url_of_dotted_instance :
    ∃ endpoint spec, Url.parse "https://management.azure.com" = .ok endpoint ∧
      endpoint.scheme = "https" ∧ spec = ScaleSetMachine.delete.spec "s" ["rg", "ss", ".."] () ∧
      (spec.url endpoint).path.text ≠ spec.path.toList ∧
      spec.url endpoint =
        (spec.withPath ((ScaleSet.delete.pathOf "s" ["rg", "ss"]).segment "")).url endpoint := by
  have hparse : Url.parse "https://management.azure.com" =
      .ok ⟨"https", [], none, some "management.azure.com".toList, none, .segments [[]], none,
        none⟩ := by
    rfl
  have hknown : ScaleSetMachine.delete ∈ Operation.catalogue := by decide +kernel
  have hbuilt := Operation.built_pathOf hknown "s" ["rg", "ss", ".."]
  obtain ⟨hkeeps, -, hdots⟩ := url_keeps_path_iff hparse (.inr rfl) hbuilt
    (ScaleSetMachine.delete.spec "s" ["rg", "ss", ".."] ())
  refine ⟨_, _, hparse, rfl, rfl, fun hsame ↦ ?_, ?_⟩
  · exact (hkeeps.mp hsame ".." (by decide +kernel)).2 rfl
  · exact hdots (ScaleSet.delete.pathOf "s" ["rg", "ss"]).segments (.fixed "virtualMachines") []
      rfl (by decide)

end OperationSpec

/-! ## Calls of the catalogue -/

/-- The names of a path that a template makes are those it was given. -/
theorem Template.named_mem_fill_iff {t : Template} {names : List String}
    (h : names.length = t.names) {name : String} :
    .named name ∈ t.fill names ↔ name ∈ names := by
  induction t generalizing names with
  | nil => simp [fill, List.eq_nil_of_length_eq_zero h]
  | cons x t ih =>
    cases x with
    | fixed word => simp [fill, ih h]
    | name =>
      rw [Template.names, List.count_cons_self] at h
      obtain ⟨first, others, rfl⟩ := List.exists_cons_of_length_eq_add_one h
      simp [fill, ih (Nat.succ_inj.mp h)]

/-- A call is addressed to the path it was made with just when neither its subscription nor one of
its names is a dot segment. -/
theorem Invocation.path_url_eq_iff (a : Invocation) {endpoint : Url} (hu : endpoint.OfWeb) :
    (a.spec.url endpoint).path.text = a.spec.path.toList ↔
      ∀ name ∈ a.subscription :: a.names, name ≠ "." ∧ name ≠ ".." := by
  have hbuilt : a.path.Built := Operation.built_pathOf a.known a.subscription a.names
  have hspec : a.spec.withPath a.path = a.spec := by
    rw [OperationSpec.withPath, ← a.path_spec]
  have hpath : a.spec.path.toList = a.path.toList := by
    rw [a.path_spec, ResourcePath.text_toList]
  rw [hpath, ← hspec, OperationSpec.path_url_eq_iff hu hbuilt.isPlain hbuilt.ne_nil,
    hbuilt.forall_value_iff]
  exact forall_congr' fun name ↦
    imp_congr_left (Template.named_mem_fill_iff a.length_identifiers)

end ResourceManager
