/-!
# White space

The characters with the Unicode property `White_Space`, and texts without such characters at their
ends.
-/

set_option autoImplicit false

namespace ResourceManager
namespace Text

/-- The Unicode property `White_Space`. -/
def isWhitespace (c : Char) : Bool :=
  let n := c.toNat
  (0x09 ≤ n && n ≤ 0x0D) || n == 0x20 || n == 0x85 || n == 0xA0 || n == 0x1680 ||
    (0x2000 ≤ n && n ≤ 0x200A) || n == 0x2028 || n == 0x2029 || n == 0x202F || n == 0x205F ||
    n == 0x3000

/-- Every blank that the core library knows is one. -/
theorem isWhitespace_of_isWhitespace {c : Char} (h : c.isWhitespace = true) :
    isWhitespace c = true := by
  simp only [Char.isWhitespace, Bool.or_eq_true, decide_eq_true_eq] at h
  rcases h with ((h | h) | h) | h <;> subst h <;> decide

/-- A text without the matching characters at its end. -/
def trimEnd (p : Char → Bool) (s : List Char) : List Char :=
  (s.reverse.dropWhile p).reverse

/-- A text without the matching characters at either end. -/
def trimBoth (p : Char → Bool) (s : List Char) : List Char :=
  trimEnd p (s.dropWhile p)

/-- A text without white space at either end. -/
def trim (s : List Char) : List Char :=
  trimBoth isWhitespace s

end Text
end ResourceManager
