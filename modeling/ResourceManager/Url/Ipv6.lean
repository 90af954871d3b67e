import ResourceManager.Url.Ipv4

/-!
# IPv6 addresses in hosts

Eight groups of up to four hexadecimal digits.  One run of groups may be left out between two
colons, and the last two groups may be written as four decimal bytes.
-/

set_option autoImplicit false

namespace ResourceManager
namespace Ipv6

/-- A group of one to four digits. -/
def group? (s : List Char) : Option Nat :=
  if s = [] ∨ 4 < s.length then none else Hex.number? s

/-- A decimal byte without needless zeros. -/
def byte? (s : List Char) : Option Nat :=
  if s = [] ∨ !s.all Char.isDigit ∨ 3 < s.length ∨ (s.head? = some '0' ∧ s ≠ ['0']) then none
  else
    let n := Nat.ofDigitChars 10 s 0
    if n ≤ 255 then some n else none

/-- Two groups written as four bytes. -/
def bytes? (s : List Char) : Option (List Nat) := do
  match ← (Text.pieces (· == '.') s).mapM byte? with
  | [a, b, c, d] => some [256 * a + b, 256 * c + d]
  | _ => none

/-- The groups between colons; the last piece may be four bytes. -/
def groups? : List (List Char) → Option (List Nat)
  | [] => some []
  | [last] => if last.contains '.' then bytes? last else (group? last).map ([·])
  | piece :: rest => do
    let group ← group? piece
    let others ← groups? rest
    return group :: others

/-- The groups of one side of the gap. -/
def side? (s : List Char) : Option (List Nat) :=
  if s = [] then some [] else groups? (Text.pieces (· == ':') s)

/-- The text before the first double colon and the text after it. -/
def splitGap : List Char → Option (List Char × List Char)
  | ':' :: ':' :: rest => some ([], rest)
  | c :: rest => (splitGap rest).map fun p ↦ (c :: p.1, p.2)
  | [] => none

/-- The eight groups of an address. -/
def ofText? (s : List Char) : Option (List Nat) :=
  match splitGap s with
  | none => do
    let groups ← side? s
    if groups.length = 8 then some groups else none
  | some (before, after) => do
    if before.contains '.' then none
    let left ← side? before
    let right ← side? after
    let missing := 8 - (left.length + right.length)
    if missing = 0 then none else some (left ++ List.replicate missing 0 ++ right)

/-- How many zeros a list begins with. -/
def leadingZeros (groups : List Nat) : Nat :=
  (groups.takeWhile (· == 0)).length

/-- The place and the length of the longest run of zeros, the first of the longest ones. -/
def longestZeros (groups : List Nat) : Nat × Nat :=
  (List.range groups.length).foldl (fun best i ↦
    let n := leadingZeros (groups.drop i)
    if best.2 < n then (i, n) else best) (0, 0)

/-- Groups with colons between them. -/
def joined (groups : List Nat) : List Char :=
  (groups.map (Nat.toDigits 16)).intersperse [':'] |>.flatten

/-- The text of an address; the longest run of two or more zero groups is left out. -/
def text (groups : List Nat) : List Char :=
  let (start, length) := longestZeros groups
  if length < 2 then joined groups
  else joined (groups.take start) ++ ':' :: ':' :: joined (groups.drop (start + length))

end Ipv6
end ResourceManager
