/-!
# The case of letters

Words of the service are compared without regard to the case of ASCII letters; letters past ASCII
have no case here.
-/

set_option autoImplicit false

namespace ResourceManager
namespace Text

/-- A text with its ASCII letters in lower case. -/
def lowerAscii (s : String) : String :=
  String.ofList (s.toList.map Char.toLower)

/-- Whether two texts are equal but for the case of ASCII letters. -/
def sameIgnoringCase (a b : String) : Bool :=
  lowerAscii a == lowerAscii b

theorem sameIgnoringCase_refl (a : String) : sameIgnoringCase a a = true := by
  simp [sameIgnoringCase]

end Text
end ResourceManager
