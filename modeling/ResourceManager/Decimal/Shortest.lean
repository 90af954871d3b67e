import ResourceManager.Decimal.Double

/-!
# The shortest decimal of a floating point number

`shortest` gives the fewest digits that read back as the number, and of those the nearest.  A grid
of `n` digits holds a decimal that reads back only if one of the two grid points beside the number
does, so it is enough to look at those two for `n = 1, 2, …, 17`.

`Double.text` writes the digits: positional from `0.00001` to below `10^16`, always with a digit
after the point, and otherwise with a signed exponent of at least two digits.
-/

set_option autoImplicit false

namespace ResourceManager

/-- The decimal `digits · 10 ^ exponent`. -/
structure Decimal where
  digits : Nat
  exponent : Int
deriving DecidableEq, Repr

namespace Double

/-- The exponent of the first digit of `significand · 2 ^ exponent`, when that is not zero. -/
def leadingExponent (significand : Nat) (exponent : Int) : Int :=
  let scaled :=
    significand * Nat.pow 10 340 * Nat.pow 2 exponent.toNat / Nat.pow 2 (-exponent).toNat
  ((Nat.toDigits 10 scaled).length : Int) - 341

/-- The bounds of the numbers that round to a given one, and the number itself, in quarters of its
last bit.  Below a power of two the neighbour is half as far. -/
structure Interval where
  low : Nat
  value : Nat
  high : Nat
  closed : Bool

def interval (x : Double) : Interval :=
  { low :=
      4 * x.significand -
        if x.significand = Nat.pow 2 52 ∧ minExponent < x.exponent then 1 else 2
    value := 4 * x.significand
    high := 4 * x.significand + 2
    closed := x.significand % 2 = 0 }

/-- The grid point beside the number that reads back as it, on the grid of `10 ^ k`. -/
def onGrid? (x : Double) (k : Int) : Option Decimal :=
  let i := x.interval
  let unit := x.exponent - 2
  let a := Nat.pow 10 k.toNat * Nat.pow 2 (-unit).toNat
  let b := Nat.pow 10 (-k).toNat * Nat.pow 2 unit.toNat
  let reads (c : Nat) : Bool :=
    if i.closed then i.low * b ≤ c * a && c * a ≤ i.high * b
    else i.low * b < c * a && c * a < i.high * b
  let below := i.value * b / a
  let above := below + 1
  match reads below, reads above with
  | true, true =>
    let down := i.value * b - below * a
    let up := above * a - i.value * b
    some ⟨if down < up || (down == up && below % 2 == 0) then below else above, k⟩
  | true, false => some ⟨below, k⟩
  | false, true => some ⟨above, k⟩
  | false, false => none

/-- The fewest digits that read back as the number; seventeen always do. -/
def shortest (x : Double) : Decimal :=
  let e := leadingExponent x.significand x.exponent
  ((List.range 17).findSome? fun (n : Nat) ↦ x.onGrid? (e - n)).getD ⟨0, 0⟩

/-- The digits of a decimal without the zeros at their end, and the exponent of the first one. -/
def scientific (d : Decimal) : List Char × Int :=
  let digits := Nat.toDigits 10 d.digits
  ((digits.reverse.dropWhile (· == '0')).reverse, d.exponent + (digits.length : Int) - 1)

/-- The exponents of the first digit for which a number is written positionally. -/
def isPositional (exponent : Int) : Bool :=
  -5 ≤ exponent && exponent ≤ 15

/-- Digits with the point in place, and a zero where no digit stands before or after it. -/
def positional (digits : List Char) (exponent : Int) : List Char :=
  if exponent < 0 then
    '0' :: '.' :: (List.replicate (-exponent - 1).toNat '0' ++ digits)
  else
    let n := exponent.toNat + 1
    let fraction := digits.drop n
    digits.take n ++ List.replicate (n - digits.length) '0' ++
      '.' :: (if fraction.isEmpty then ['0'] else fraction)

/-- Digits with a point after the first one and the exponent behind. -/
def exponential (digits : List Char) (exponent : Int) : List Char :=
  let power := Nat.toDigits 10 exponent.natAbs
  let padded := if power.length < 2 then '0' :: power else power
  let fraction := digits.drop 1
  digits.take 1 ++ (if fraction.isEmpty then [] else '.' :: fraction) ++
    'e' :: (if exponent < 0 then '-' else '+') :: padded

/-- The text of a number; zero is `0.0`. -/
def text (x : Double) : List Char :=
  let sign := if x.negative then ['-'] else []
  if x.significand = 0 then sign ++ "0.0".toList
  else
    let (digits, exponent) := scientific x.shortest
    sign ++
      if isPositional exponent then positional digits exponent else exponential digits exponent

end Double
end ResourceManager
