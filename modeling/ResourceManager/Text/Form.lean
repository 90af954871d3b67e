import ResourceManager.Text.Percent
import ResourceManager.Text.Pieces

/-!
# Form fields

Name and value pairs as the query of a URL and the body of a token request carry them: a blank is
written `+`, letters, digits and `*-._` stand for themselves, every other byte is escaped, and
neither a name nor a value can hold a separator.

`pairs` reads such a text back.
-/

set_option autoImplicit false

namespace ResourceManager
namespace Form

/-- The characters a form field keeps. -/
def isKept (c : Char) : Bool :=
  c.isAlphanum || c == '*' || c == '-' || c == '.' || c == '_'

/-- One character of a name or a value. -/
def encodeChar (c : Char) : List Char :=
  if c = ' ' then ['+'] else Percent.encodeChar isKept c

/-- A name or a value. -/
def encodeText (s : String) : List Char :=
  s.toList.flatMap encodeChar

def encodePair (pair : String × String) : List Char :=
  encodeText pair.1 ++ '=' :: encodeText pair.2

/-- The pairs in order, separated by `&`. -/
def encode (pairs : List (String × String)) : List Char :=
  (pairs.map encodePair).intersperse ['&'] |>.flatten

/-! ## Reading -/

/-- The text before the first separator and the text after it, empty when there is none. -/
def splitFirst (separator : Char) (s : List Char) : List Char × List Char :=
  (s.takeWhile (· != separator), (s.dropWhile (· != separator)).tail)

/-- The name or value that a field was written for. -/
def decodeText (s : List Char) : String :=
  String.ofList (Utf8.decodeLossy (Percent.decode (s.map fun c ↦ if c = '+' then ' ' else c)))

/-- The pairs of a text, in order; an empty piece is no pair. -/
def decode (s : List Char) : List (String × String) :=
  ((Text.pieces (· == '&') s).filter (· ≠ [])).map fun piece ↦
    let parts := splitFirst '=' piece
    (decodeText parts.1, decodeText parts.2)

end Form
end ResourceManager
