/-!
# Texts cut at separators

`pieces` cuts a text at every separator, so there is one piece more than there are separators.
`pieces_of_all` and `pieces_append` say what they are.
-/

set_option autoImplicit false

namespace ResourceManager
namespace Text

/-- The pieces of a text between separators, empty ones included. -/
def pieces (isSeparator : Char → Bool) : List Char → List (List Char)
  | [] => [[]]
  | c :: rest =>
    if isSeparator c then [] :: pieces isSeparator rest
    else
      match pieces isSeparator rest with
      | piece :: others => (c :: piece) :: others
      | [] => [[c]]

theorem pieces_ne_nil (p : Char → Bool) (s : List Char) : pieces p s ≠ [] := by
  cases s with
  | nil => simp [pieces]
  | cons c s =>
    rw [pieces]
    split
    · simp
    · split <;> simp

/-- A text without separators is its only piece. -/
theorem pieces_of_all {p : Char → Bool} {s : List Char} (h : ∀ c ∈ s, p c = false) :
    pieces p s = [s] := by
  induction s with
  | nil => rfl
  | cons c s ih =>
    have hc := h c List.mem_cons_self
    have hs := ih fun d hd ↦ h d (List.mem_cons_of_mem _ hd)
    simp [pieces, hc, hs]

/-- A text without separators, then a separator: the first piece is complete. -/
theorem pieces_append {p : Char → Bool} {s : List Char} (h : ∀ c ∈ s, p c = false) {c : Char}
    (hc : p c = true) (rest : List Char) : pieces p (s ++ c :: rest) = s :: pieces p rest := by
  induction s with
  | nil => simp [pieces, hc]
  | cons d s ih =>
    have hd := h d List.mem_cons_self
    have hs := ih fun e he ↦ h e (List.mem_cons_of_mem _ he)
    simp [pieces, hd, hs]

end Text
end ResourceManager
