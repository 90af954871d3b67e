import ResourceManager.Text.Normal.Form
import ResourceManager.Url.Idna.LabelTable
import ResourceManager.Url.Idna.Mapping

/-!
# Labels of domain names

What a label with characters past ASCII has to keep to: it does not begin with a combining mark, the
two characters that control how letters join stand where they have an effect, and where one label is
written from right to left no label mixes the directions.
-/

set_option autoImplicit false

namespace ResourceManager
namespace Idna

/-! ## Marks and joiners -/

def markTable : CodeTable := .ofText marks

def viramaTable : CodeTable := .ofText viramas

def joinsLeftTable : CodeTable := .ofText joinsLeft

def joinsRightTable : CodeTable := .ofText joinsRight

def joinsBothTable : CodeTable := .ofText joinsBoth

def transparentTable : CodeTable := .ofText transparent

def isMark (c : Char) : Bool := markTable.covers c.toNat

def isVirama (c : Char) : Bool := viramaTable.covers c.toNat

def isTransparent (c : Char) : Bool := transparentTable.covers c.toNat

/-- Whether a character joins the one behind it. -/
def joinsNext (c : Char) : Bool :=
  joinsLeftTable.covers c.toNat || joinsBothTable.covers c.toNat

/-- Whether a character joins the one before it. -/
def joinsPrevious (c : Char) : Bool :=
  joinsRightTable.covers c.toNat || joinsBothTable.covers c.toNat

def joiner : Char := '\u200d'

def nonJoiner : Char := '\u200c'

/-- Whether the characters before, the nearest one first, and behind a non-joiner would join. -/
def wouldJoin (before behind : List Char) : Bool :=
  (before.dropWhile isTransparent).head?.any joinsNext &&
    (behind.dropWhile isTransparent).head?.any joinsPrevious

/-- Whether a character may stand between those before it, the nearest one first, and behind it. -/
def mayStand (before : List Char) (c : Char) (behind : List Char) : Bool :=
  if c = joiner then before.head?.any isVirama
  else if c = nonJoiner then before.head?.any isVirama || wouldJoin before behind
  else true

/-- Whether all characters of a label may stand where they do. -/
def joinersFit (before : List Char) : List Char → Bool
  | [] => true
  | c :: behind => mayStand before c behind && joinersFit (c :: before) behind

/-- Whether a label keeps to the rules for single labels. -/
def isValidLabel (label : List Char) : Bool :=
  !label.head?.any isMark && joinersFit [] label

/-! ## Directions -/

/-- The classes of characters that the rule for directions tells apart. -/
inductive Direction where
  | left
  | right
  | arabicNumber
  | europeanNumber
  | nonspacing
  | neutral
deriving DecidableEq, Repr

def rightTable : CodeTable := .ofText (rightToLeft ++ " " ++ arabicLetters)

def arabicNumberTable : CodeTable := .ofText arabicNumbers

def europeanNumberTable : CodeTable := .ofText europeanNumbers

def nonspacingTable : CodeTable := .ofText nonspacing

def neutralTable : CodeTable := .ofText neutral

namespace Direction

def ofChar (c : Char) : Direction :=
  let n := c.toNat
  if n < 0x80 then
    if c.isDigit then .europeanNumber else if c.isAlpha then .left else .neutral
  else if rightTable.covers n then .right
  else if arabicNumberTable.covers n then .arabicNumber
  else if europeanNumberTable.covers n then .europeanNumber
  else if nonspacingTable.covers n then .nonspacing
  else if neutralTable.covers n then .neutral
  else .left

/-- Whether characters of a class are written from right to left. -/
def isRightToLeft : Direction → Bool
  | .right | .arabicNumber => true
  | _ => false

end Direction

/-- The last class of a label but for marks that take no room. -/
def lastDirection? (classes : List Direction) : Option Direction :=
  (classes.reverse.dropWhile (· == .nonspacing)).head?

/-- Whether a label is written in one direction. -/
def keepsDirection (label : List Char) : Bool :=
  let classes := label.map Direction.ofChar
  match classes with
  | [] => true
  | .right :: _ =>
    classes.all (· != .left) &&
      (lastDirection? classes).any (· ∈ [.right, .europeanNumber, .arabicNumber]) &&
      !(classes.contains .europeanNumber && classes.contains .arabicNumber)
  | .left :: _ =>
    classes.all (fun d ↦ !d.isRightToLeft) &&
      (lastDirection? classes).any (· ∈ [.left, .europeanNumber])
  | _ => false

/-- Whether the directions in a domain name go together. -/
def directionsAgree (labels : List (List Char)) : Bool :=
  if labels.any (·.any fun c ↦ (Direction.ofChar c).isRightToLeft) then labels.all keepsDirection
  else true

end Idna
end ResourceManager
