import ResourceManager.Decimal.Double
import ResourceManager.Text.Hex
import ResourceManager.Toml.Value

/-!
# Scalars of TOML that are not strings

Truth values, integers in four bases, floating point numbers, dates and times.  Digits may be
grouped by single underscores.  An integer has at most 128 bits, and a floating point number is not
past the greatest one of its format.
-/

set_option autoImplicit false

namespace ResourceManager
namespace Toml
namespace Scalar

/-! ## Numbers -/

/-- Digits without the underscores between them; an underscore stands between two digits. -/
def ungroup? (isDigit : Char → Bool) : List Char → Option (List Char)
  | [] => none
  | [c] => if isDigit c then some [c] else none
  | c :: d :: rest =>
    if !isDigit c then none
    else if d = '_' then (ungroup? isDigit rest).map (c :: ·)
    else (ungroup? isDigit (d :: rest)).map (c :: ·)

/-- Decimal digits without a needless zero before them. -/
def decimal? (s : List Char) : Option Nat := do
  let digits ← ungroup? Char.isDigit s
  if digits.head? = some '0' ∧ digits ≠ ['0'] then none
  else some (Nat.ofDigitChars 10 digits 0)

/-- Digits of a base that is a power of two. -/
def based? (base : Nat) (s : List Char) : Option Nat := do
  let isDigit (c : Char) : Bool := (Hex.value? c).any (· < base)
  let digits ← ungroup? isDigit s
  digits.foldlM (fun n c ↦ (Hex.value? c).map (base * n + ·)) 0

/-- A sign that may be missing: whether it is a minus, and what is behind it. -/
def sign (s : List Char) : Bool × List Char :=
  match s with
  | '-' :: rest => (true, rest)
  | '+' :: rest => (false, rest)
  | s => (false, s)

/-- Whether an integer has at most 128 bits. -/
def fitsLongWord (n : Int) : Bool :=
  -(Nat.pow 2 127 : Nat) ≤ n && n < Nat.pow 2 128

def integer? (s : List Char) : Option Int := do
  let n : Int ← match s with
    | '0' :: 'x' :: digits => (based? 16 digits).map Int.ofNat
    | '0' :: 'o' :: digits => (based? 8 digits).map Int.ofNat
    | '0' :: 'b' :: digits => (based? 2 digits).map Int.ofNat
    | s =>
      let (negative, digits) := sign s
      (decimal? digits).map fun n ↦ if negative then -(n : Int) else n
  if fitsLongWord n then some n else none

/-- Whether `significand · 10 ^ exponent` is not past the greatest number of the format. -/
def isFinite (significand : Nat) (exponent : Int) : Bool :=
  let leading := (Nat.toDigits 10 significand).length + exponent
  if significand = 0 ∨ leading < -400 then true
  else if 400 < leading then false
  else
    (Double.ofRatio? false (significand * Nat.pow 10 exponent.toNat)
      (Nat.pow 10 (-exponent).toNat)).isSome

/-- The part of a floating point number from its exponent mark on. -/
def exponent? (s : List Char) : Option Int :=
  match s with
  | [] => some 0
  | c :: rest =>
    if c = 'e' ∨ c = 'E' then do
      let (negative, digits) := sign rest
      let n := Nat.ofDigitChars 10 (← ungroup? Char.isDigit digits) 0
      return if negative then -(n : Int) else n
    else none

/-- A floating point number: digits, then a fraction or an exponent or both. -/
def isFloat (s : List Char) : Bool :=
  let body := (sign s).2
  if body = "inf".toList ∨ body = "nan".toList then true
  else
    let inNumber (c : Char) : Bool := c.isDigit || c == '_'
    let whole := body.takeWhile inNumber
    let rest := body.dropWhile inNumber
    let parts : Option (List Char × Int) := match rest with
      | [] => none
      | '.' :: rest => do
        let digits ← ungroup? Char.isDigit (rest.takeWhile inNumber)
        let exponent ← exponent? (rest.dropWhile inNumber)
        return (digits, exponent)
      | rest => (exponent? rest).map ([], ·)
    match decimal? whole, parts with
    | some n, some (fraction, exponent) =>
      isFinite (Nat.ofDigitChars 10 fraction n) (exponent - fraction.length)
    | _, _ => false

/-! ## Dates and times -/

/-- The number of exactly so many digits, and what is behind them. -/
def digits? (count : Nat) (s : List Char) : Option (Nat × List Char) :=
  let digits := s.take count
  if digits.length = count ∧ digits.all Char.isDigit then
    some (Nat.ofDigitChars 10 digits 0, s.drop count)
  else none

/-- What is behind a mark. -/
def mark? (mark : Char) (s : List Char) : Option (List Char) :=
  match s with
  | c :: rest => if c = mark then some rest else none
  | [] => none

def isLeapYear (year : Nat) : Bool :=
  year % 4 == 0 && (year % 100 != 0 || year % 400 == 0)

def daysInMonth (year month : Nat) : Nat :=
  if month = 2 then (if isLeapYear year then 29 else 28)
  else if month ∈ [4, 6, 9, 11] then 30
  else 31

/-- What is behind a date that there is. -/
def afterDate? (s : List Char) : Option (List Char) := do
  let (year, s) ← digits? 4 s
  let (month, s) ← digits? 2 (← mark? '-' s)
  let (day, s) ← digits? 2 (← mark? '-' s)
  if 1 ≤ month ∧ month ≤ 12 ∧ 1 ≤ day ∧ day ≤ daysInMonth year month then some s else none

/-- What is behind the decimals of a second. -/
def afterFraction? (s : List Char) : Option (List Char) :=
  match s with
  | '.' :: rest =>
    if rest.takeWhile Char.isDigit = [] then none else some (rest.dropWhile Char.isDigit)
  | s => some s

/-- What is behind a time of the day; seconds may be missing. -/
def afterTime? (s : List Char) : Option (List Char) := do
  let (hour, s) ← digits? 2 s
  let (minute, s) ← digits? 2 (← mark? ':' s)
  if 23 < hour ∨ 59 < minute then none
  match s with
  | ':' :: s =>
    let (second, s) ← digits? 2 s
    if 60 < second then none else afterFraction? s
  | s => some s

/-- Whether a text is a distance from UTC, or empty. -/
def isOffset (s : List Char) : Bool :=
  match s with
  | [] => true
  | c :: rest =>
    if c = 'Z' ∨ c = 'z' then rest == []
    else if c = '+' ∨ c = '-' then
      match afterTime? rest with
      | some behind => behind == [] && rest.length == 5
      | none => false
    else false

/-- A date, a time, or both with a mark between them. -/
def isDatetime (s : List Char) : Bool :=
  match afterDate? s with
  | some [] => true
  | some (c :: rest) =>
    (c == 'T' || c == 't' || c == ' ') && (afterTime? rest).any isOffset
  | none => afterTime? s == some []

/-! ## All of them -/

/-- The value of a scalar that is no string. -/
def value? (s : List Char) : Option Toml :=
  if s = "true".toList then some (.boolean true)
  else if s = "false".toList then some (.boolean false)
  else
    match integer? s with
    | some n => some (.integer n)
    | none =>
      if isFloat s then some (.float s)
      else if isDatetime s then some (.datetime s)
      else none

end Scalar
end Toml
end ResourceManager
