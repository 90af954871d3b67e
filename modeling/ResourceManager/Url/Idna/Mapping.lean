import ResourceManager.Text.CodeTable
import ResourceManager.Url.Idna.MappingTable

/-!
# The mapping of domain names

A domain name may be written in several ways.  Before anything else, capital letters become small
ones, compatible forms of characters become the usual ones, and characters that cannot be seen are
left out.  Some characters are in no domain name at all.
-/

set_option autoImplicit false

namespace ResourceManager
namespace Idna

def shiftedTable : CodeTable := .ofText shifted

def alternatingTable : CodeTable := .ofText alternating

def expandedTable : CodeTable := .ofText expanded

def ignoredTable : CodeTable := .ofText ignored

def disallowedTable : CodeTable := .ofText disallowed

/-- The character as far behind the image of a range as a character is behind its beginning. -/
def shiftedImage (r : CodeRange) (n : Nat) : List Nat :=
  r.image.map (· + (n - r.first))

/-- What a character past ASCII is mapped to, if it is not left as it is. -/
def image? (n : Nat) : Option (List Nat) :=
  match shiftedTable.find? n with
  | some r => some (shiftedImage r n)
  | none =>
    match alternatingTable.find? n with
    | some r => if (n - r.first) % 2 = 0 then some (shiftedImage r n) else none
    | none => (expandedTable.find? n).map (·.image)

/-- What becomes of a character; none when no domain name has it. -/
def mapChar? (c : Char) : Option (List Char) :=
  let n := c.toNat
  if n < 0x80 then some [c.toLower]
  else if ignoredTable.covers n then some []
  else if disallowedTable.covers n then none
  else some (((image? n).map (·.map Char.ofNat)).getD [c])

/-- What becomes of a text. -/
def map? (s : List Char) : Option (List Char) :=
  (s.mapM mapChar?).map List.flatten

end Idna
end ResourceManager
