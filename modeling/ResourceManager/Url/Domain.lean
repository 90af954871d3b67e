import ResourceManager.Url.Idna.Label
import ResourceManager.Url.Punycode

/-!
# Domain names

The ASCII form of a domain name.  Its characters are mapped to those that domain names are made
of; a label with characters past ASCII is then written in Punycode behind `xn--`.  A label that is
already in that form has to stand for one that needs it.
-/

set_option autoImplicit false

namespace ResourceManager
namespace Domain

/-- The ASCII characters that no domain name has. -/
def isForbidden (c : Char) : Bool :=
  c.toNat ≤ 0x20 || c == '#' || c == '%' || c == '/' || c == ':' || c == '<' ||
    c == '>' || c == '?' || c == '@' || c == '[' || c == '\\' || c == ']' || c == '^' || c == '|' ||
    c.toNat == 0x7F

/-- The mark of a label in Punycode. -/
def mark : List Char := "xn--".toList

/-- The label behind the mark. -/
def afterMark? (label : List Char) : Option (List Char) :=
  if label.take 4 = mark then some (label.drop 4) else none

/-- Whether a label is all ASCII. -/
def isPlain (label : List Char) : Bool :=
  label.all (·.toNat < 0x80)

/-- How long a label may be that is taken out of Punycode. -/
def maxCode : Nat := 2000

/-- How long a label may be that is written in Punycode. -/
def maxLabel : Nat := 1000

/-- A label of a domain name, as it is meant and in its ASCII form. -/
structure Label where
  meant : List Char
  written : List Char

/-- The label in Punycode, which must need it and be in normal form. -/
def ofCode? (code : List Char) : Option Label := do
  if maxCode < code.length then none
  let label ← Punycode.decode? code
  if isPlain label || Punycode.encode label != code then none
  if Idna.map? label = some label ∧ Text.normalForm label = label ∧ Idna.isValidLabel label then
    return ⟨label, mark ++ code⟩
  else none

/-- The label of a text that has been mapped. -/
def label? (text : List Char) : Option Label :=
  match afterMark? text with
  | some code => if isPlain text then ofCode? code else none
  | none =>
    if isPlain text then some ⟨text, text⟩
    else if text.length ≤ maxLabel ∧ Idna.isValidLabel text then
      some ⟨text, mark ++ Punycode.encode text⟩
    else none

/-- The ASCII form of a domain name. -/
def normalize? (name : List Char) : Option (List Char) := do
  let mapped := Text.normalForm (← Idna.map? name)
  if mapped.any isForbidden then none
  let labels ← (Text.pieces (· == '.') mapped).mapM label?
  if Idna.directionsAgree (labels.map Label.meant) then
    return (labels.map Label.written).intersperse ['.'] |>.flatten
  else none

end Domain
end ResourceManager
