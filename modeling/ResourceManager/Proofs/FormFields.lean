import ResourceManager.Proofs.Addressing
import ResourceManager.Text.Form

/-!
# Form fields read back

`Form.decode_encode` says that a text of form fields is read back as the pairs it was written for,
whatever characters these have.  Behind `+` being read as a blank, a field is nothing but a text
with escapes in which blanks are kept, so `Percent.decode_encode` reads it; and neither of the
separators is among the characters of a field, so the text can be cut at them.
-/

set_option autoImplicit false

namespace ResourceManager

theorem Utf8.decodeLossy_encode (s : List Char) : decodeLossy (encode s) = s := by
  rw [decodeLossy, scan_encode, List.map_map]
  exact List.map_id s

/-- A text of parts with separators between them is cut into these parts. -/
theorem Text.pieces_intersperse {p : Char → Bool} {separator : Char}
    (hseparator : p separator = true) {part : List Char} {rest : List (List Char)}
    (h : ∀ part' ∈ part :: rest, ∀ c ∈ part', p c = false) :
    pieces p ((part :: rest).intersperse [separator]).flatten = part :: rest := by
  induction rest generalizing part with
  | nil => simpa using pieces_of_all (h part List.mem_cons_self)
  | cons next rest ih =>
    have hrest := ih fun part' hpart ↦ h part' (List.mem_cons_of_mem _ hpart)
    rw [List.intersperse_cons_cons, List.flatten_cons, List.flatten_cons, List.singleton_append,
      pieces_append (h part List.mem_cons_self) hseparator, hrest]

namespace Form

/-! ## Fields -/

/-- The characters of which fields are made. -/
def isFieldChar (c : Char) : Bool := isKept c || c == '+' || c == '%'

theorem isFieldChar_of_mem {s : String} {c : Char} (h : c ∈ encodeText s) :
    isFieldChar c = true := by
  obtain ⟨d, -, hc⟩ := List.mem_flatMap.mp h
  rw [encodeChar] at hc
  split at hc
  · rw [List.mem_singleton.mp hc]
    rfl
  · rw [Percent.encodeChar] at hc
    split at hc
    · rename_i hkept
      rw [List.mem_singleton.mp hc, isFieldChar, hkept, Bool.true_or, Bool.true_or]
    · obtain ⟨b, -, hc⟩ := List.mem_flatMap.mp hc
      exact Percent.of_mem_escape (by decide) (by decide) hc

theorem beq_of_isFieldChar {c d : Char} (hc : isFieldChar c = true) (hd : isFieldChar d = false) :
    (c == d) = false := by
  refine beq_eq_false_iff_ne.mpr ?_
  rintro rfl
  rw [hc] at hd
  cases hd

/-- How `+` is read. -/
def unplus (c : Char) : Char := if c = '+' then ' ' else c

/-- The characters that a field keeps when `+` is read as a blank. -/
def isKeptOrBlank (c : Char) : Bool := isKept c || c == ' '

theorem map_unplus_of_all {s : List Char} (h : ∀ c ∈ s, c ≠ '+') : s.map unplus = s :=
  (List.map_congr_left fun c hc ↦ if_neg (h c hc)).trans (List.map_id s)

theorem map_unplus_encodeChar (c : Char) :
    (encodeChar c).map unplus = Percent.encodeChar isKeptOrBlank c := by
  rw [encodeChar]
  by_cases hblank : c = ' '
  · rw [if_pos hblank, hblank]
    rfl
  · have hkeep : isKeptOrBlank c = isKept c := by simp [isKeptOrBlank, hblank]
    rw [if_neg hblank, Percent.encodeChar, Percent.encodeChar, hkeep]
    refine map_unplus_of_all fun d hd ↦ ?_
    split at hd
    · rename_i hkept
      rw [List.mem_singleton.mp hd]
      rintro rfl
      revert hkept
      decide
    · obtain ⟨b, -, hd⟩ := List.mem_flatMap.mp hd
      have hne := Percent.of_mem_escape (q := (· != '+')) (by decide) (by decide) hd
      exact bne_iff_ne.mp hne

/-- A field is a text with escapes, but for its blanks. -/
theorem map_unplus_encodeText (s : String) :
    (encodeText s).map unplus = Percent.encode isKeptOrBlank s.toList := by
  rw [encodeText, List.map_flatMap, Percent.encode]
  exact congrArg s.toList.flatMap (funext map_unplus_encodeChar)

theorem decodeText_encodeText (s : String) : decodeText (encodeText s) = s := by
  show String.ofList (Utf8.decodeLossy (Percent.decode ((encodeText s).map unplus))) = s
  rw [map_unplus_encodeText, Percent.decode_encode (by decide), Utf8.decodeLossy_encode,
    String.ofList_toList]

/-! ## Pairs -/

theorem splitFirst_encodePair (pair : String × String) :
    splitFirst '=' (encodePair pair) = (encodeText pair.1, encodeText pair.2) := by
  have hname : ∀ c ∈ encodeText pair.1, (c != '=') = true := fun c hc ↦ by
    rw [bne, beq_of_isFieldChar (isFieldChar_of_mem hc) (by decide)]
    rfl
  rw [splitFirst, encodePair, List.takeWhile_append_of_pos hname,
    List.dropWhile_append_of_pos hname]
  simp

/-- No pair holds the separator of pairs. -/
theorem beq_of_mem_encodePair {pair : String × String} {c : Char} (h : c ∈ encodePair pair) :
    (c == '&') = false := by
  rw [encodePair, List.mem_append, List.mem_cons] at h
  rcases h with h | rfl | h
  · exact beq_of_isFieldChar (isFieldChar_of_mem h) (by decide)
  · decide
  · exact beq_of_isFieldChar (isFieldChar_of_mem h) (by decide)

theorem encodePair_ne_nil (pair : String × String) : encodePair pair ≠ [] := by
  simp [encodePair]

/-- **What is written as form fields is read back.** -/
theorem decode_encode (pairs : List (String × String)) : decode (encode pairs) = pairs := by
  cases pairs with
  | nil => rfl
  | cons pair rest =>
    have hpieces : Text.pieces (· == '&') (encode (pair :: rest)) =
        (pair :: rest).map encodePair := by
      refine Text.pieces_intersperse (by decide) fun part hpart c hc ↦ ?_
      rw [← List.map_cons, List.mem_map] at hpart
      obtain ⟨pair', -, rfl⟩ := hpart
      exact beq_of_mem_encodePair hc
    have hfull : ∀ piece ∈ (pair :: rest).map encodePair, piece ≠ [] := by
      intro piece hpiece
      obtain ⟨pair', -, rfl⟩ := List.mem_map.mp hpiece
      exact encodePair_ne_nil pair'
    rw [decode, hpieces, List.filter_eq_self.mpr fun piece hpiece ↦ by simp [hfull piece hpiece],
      List.map_map]
    refine (List.map_congr_left fun pair' _ ↦ ?_).trans (List.map_id _)
    simp only [Function.comp_apply, splitFirst_encodePair, decodeText_encodeText, id_eq]

end Form
end ResourceManager
