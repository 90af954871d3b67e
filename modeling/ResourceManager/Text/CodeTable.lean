import ResourceManager.Text.Hex
import ResourceManager.Text.Pieces

/-!
# Tables of characters

Properties of characters are kept as texts of ranges in hexadecimal numbers: `41`, `41-5A`, and with
what belongs to the range behind it `41-5A=61` or `DF=73.73`.  `CodeTable.ofText` reads such a text.
-/

set_option autoImplicit false

namespace ResourceManager

/-- A range of characters and the numbers that belong to it. -/
structure CodeRange where
  first : Nat
  last : Nat
  image : List Nat
deriving DecidableEq, Repr

abbrev CodeTable := List CodeRange

namespace CodeTable

def numberOf (digits : List Char) : Nat :=
  (Hex.number? digits).getD 0

/-- The range of an entry. -/
def entry (text : List Char) : CodeRange :=
  let range := text.takeWhile (· != '=')
  let image := (text.dropWhile (· != '=')).drop 1
  let first := numberOf (range.takeWhile (· != '-'))
  { first := first
    last := max first (numberOf ((range.dropWhile (· != '-')).drop 1))
    image := if image = [] then [] else (Text.pieces (· == '.') image).map numberOf }

/-- The table of a text, whose entries are separated by blanks and ends of lines. -/
def ofText (text : String) : CodeTable :=
  ((Text.pieces (fun c ↦ c == ' ' || c == '\n') text.toList).filter (· ≠ [])).map entry

/-- The range that a character lies in. -/
def find? (t : CodeTable) (n : Nat) : Option CodeRange :=
  List.find? (fun r ↦ decide (r.first ≤ n ∧ n ≤ r.last)) t

/-- Whether a character lies in a range of the table. -/
def covers (t : CodeTable) (n : Nat) : Bool :=
  (t.find? n).isSome

end CodeTable
end ResourceManager
