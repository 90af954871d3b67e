import ResourceManager.Text.Case
import ResourceManager.Text.Utf8
import ResourceManager.Text.Whitespace

/-!
# Header fields

The fields of a response, looked up by name in any case of its letters.  A value is bytes; only
one of visible ASCII characters, spaces and tabs is a text.  The other way round, `isFieldText`
says which texts may be sent as the value of a field.
-/

set_option autoImplicit false

namespace ResourceManager

/-- The fields of a response in the order they were sent. -/
abbrev Headers := List (String × Bytes)

namespace Headers

def isBlank (c : Char) : Bool := c == ' ' || c == '\t'

/-- The text of a value that holds nothing but visible ASCII characters and blanks. -/
def textOf? (value : Bytes) : Option String := do
  let s ← Utf8.decode? value
  let s := Text.trimBoth isBlank s
  if s.all fun c ↦ c = '\t' ∨ (' ' ≤ c ∧ c ≤ '~') then some (String.ofList s) else none

/-- The value of the first field of a name, if it is a text. -/
def text? (h : Headers) (name : String) : Option String := do
  textOf? (← h.find? fun field ↦ Text.sameIgnoringCase field.1 name).2

/-- Whether a text may be sent as the value of a field: it holds no control character but tabs. -/
def isFieldText (s : String) : Bool :=
  s.toList.all fun c ↦ c = '\t' ∨ (' ' ≤ c ∧ c ≠ '\x7f')

/-- A value as it arrives: blanks around it are lost. -/
def received (value : String) : String :=
  String.ofList (Text.trimBoth isBlank value.toList)

end Headers
end ResourceManager
