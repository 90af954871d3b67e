import ResourceManager.Json.Value

/-!
# JSON numerals

A numeral is kept as it is written until somebody asks for its value, because a reader that skips a
number does not care whether it fits.

An integer that fits 64 bits is exact.  Every other numeral is a floating point number: its leading
digits, as many as fit 64 bits, are rounded and then scaled by a power of ten.
-/

set_option autoImplicit false

namespace ResourceManager
namespace Json

/-- A numeral in its parts; the digits are most significant first. -/
structure Numeral where
  negative : Bool
  whole : List Char
  /-- The digits after the point, if there is one. -/
  fraction : Option (List Char)
  /-- The sign and the digits of the exponent, if there is one; the sign says "negative". -/
  exponent : Option (Bool × List Char)
deriving DecidableEq, Repr

namespace Numeral

/-- The characters a numeral is made of. -/
def isPart (c : Char) : Bool :=
  c.isDigit || c == '-' || c == '+' || c == '.' || c == 'e' || c == 'E'

/-- The exponent of a numeral: a letter, a sign that may be missing, and digits to the end. -/
def exponent? : List Char → Option (Option (Bool × List Char))
  | [] => some none
  | c :: rest =>
    if c = 'e' ∨ c = 'E' then
      let (negative, digits) := match rest with
        | '-' :: digits => (true, digits)
        | '+' :: digits => (false, digits)
        | digits => (false, digits)
      if digits ≠ [] ∧ digits.all Char.isDigit then some (some (negative, digits)) else none
    else none

/-- The fraction and the exponent of a numeral. -/
def tail? (rest : List Char) : Option (Option (List Char) × Option (Bool × List Char)) :=
  match rest with
  | '.' :: rest =>
    let digits := rest.takeWhile Char.isDigit
    if digits = [] then none
    else (exponent? (rest.dropWhile Char.isDigit)).map (some digits, ·)
  | rest => (exponent? rest).map (none, ·)

/-- A numeral without its sign; a zero stands before no other digit. -/
def unsigned? (negative : Bool) (s : List Char) : Option Numeral :=
  let whole := s.takeWhile Char.isDigit
  if whole = [] ∨ (whole.head? = some '0' ∧ whole.length ≠ 1) then none
  else (tail? (s.dropWhile Char.isDigit)).map fun t ↦ ⟨negative, whole, t.1, t.2⟩

/-- The numeral that a run of characters writes. -/
def ofChars? : List Char → Option Numeral
  | '-' :: rest => unsigned? true rest
  | s => unsigned? false s

/-- The greatest number of 64 bits. -/
def maxWord : Nat := Nat.pow 2 64 - 1

/-- Leading digits of a numeral, the power of ten they are to be scaled by, and whether a digit has
been left out because it did not fit. -/
structure Leading where
  significand : Nat
  exponent : Int
  full : Bool

/-- One more digit before the point: one that does not fit still counts as a place. -/
def Leading.whole (l : Leading) (c : Char) : Leading :=
  let n := 10 * l.significand + (c.toNat - 0x30)
  if l.full ∨ maxWord < n then { l with exponent := l.exponent + 1, full := true }
  else { l with significand := n }

/-- One more digit after the point: one that does not fit is dropped. -/
def Leading.fraction (l : Leading) (c : Char) : Leading :=
  let n := 10 * l.significand + (c.toNat - 0x30)
  if l.full ∨ maxWord < n then { l with full := true }
  else { l with significand := n, exponent := l.exponent - 1 }

/-- The floating point value of a numeral; none when it is too great. -/
def double? (n : Numeral) : Option Double :=
  let whole := n.whole.foldl Leading.whole ⟨0, 0, false⟩
  let all := (n.fraction.getD []).foldl Leading.fraction { whole with full := false }
  let scale : Int := match n.exponent with
    | none => 0
    | some (true, digits) => -(Nat.ofDigitChars 10 digits 0 : Int)
    | some (false, digits) => Nat.ofDigitChars 10 digits 0
  Double.ofScientific? n.negative all.significand (all.exponent + scale)

/-- The value of a numeral. -/
def value? (n : Numeral) : Option Json :=
  let exact := Nat.ofDigitChars 10 n.whole 0
  if n.fraction.isSome ∨ n.exponent.isSome then n.double?.map .double
  else if n.negative then
    if 0 < exact ∧ exact ≤ Nat.pow 2 63 then some (.integer (-exact)) else n.double?.map .double
  else if exact ≤ maxWord then some (.integer exact)
  else n.double?.map .double

end Numeral
end Json
end ResourceManager
