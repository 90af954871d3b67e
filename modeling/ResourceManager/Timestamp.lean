import ResourceManager.Timespan

/-!
# Points in time

A point in time is a number of nanoseconds since the start of 1970 in UTC.  The calendar has a first
and a last day, so no point lies behind `Timestamp.greatest`: a span that leads past it leads
nowhere (`Timestamp.later?`), and adding a lifetime stops there (`Timestamp.addBounded`).
-/

set_option autoImplicit false

namespace ResourceManager

structure Timestamp where
  nanoseconds : Int
deriving DecidableEq, Repr, Inhabited

namespace Timestamp

def ofSeconds (n : Int) : Timestamp := ⟨n * Duration.perSecond⟩

/-- The last nanosecond of the year 262142. -/
def greatest : Timestamp := ⟨8210266876799999999999⟩

/-- The first nanosecond of the year −262143. -/
def least : Timestamp := ⟨-8334601228800000000000⟩

/-- Whether a point lies in the years of the calendar. -/
structure IsPoint (t : Timestamp) : Prop where
  least_le : least.nanoseconds ≤ t.nanoseconds
  le_greatest : t.nanoseconds ≤ greatest.nanoseconds

def add (t : Timestamp) (d : Duration) : Timestamp := ⟨t.nanoseconds + d.nanoseconds⟩

/-- A lifetime later, or the greatest point when that is past it. -/
def addBounded (t : Timestamp) (d : Duration) : Timestamp :=
  ⟨min (t.nanoseconds + d.nanoseconds) greatest.nanoseconds⟩

def isBefore (a b : Timestamp) : Bool := a.nanoseconds < b.nanoseconds

/-! ## Days -/

def nanosecondsPerDay : Int := 86400 * Duration.perSecond

/-- The first day of the year −262143, counted from the start of 1970. -/
def firstDay : Int := -96465292

/-- The last day of the year 262142. -/
def lastDay : Int := 95026236

/-- The point a span later, if its day is one of the calendar. -/
def later? (t : Timestamp) (d : Timespan) : Option Timestamp :=
  let sum := t.nanoseconds + d.nanoseconds
  let day := sum.fdiv nanosecondsPerDay
  if firstDay ≤ day ∧ day ≤ lastDay then some ⟨sum⟩ else none

/-! ## Text -/

/-- Year, month and day of a number of days since the start of 1970.  Years are counted from March,
so that the day that is sometimes left out is the last of its year. -/
def civil (days : Int) : Int × Nat × Nat :=
  let z := days + 719468
  let era := z.fdiv 146097
  let dayOfEra := (z - era * 146097).toNat
  let yearOfEra := (dayOfEra - dayOfEra / 1460 + dayOfEra / 36524 - dayOfEra / 146096) / 365
  let dayOfYear := dayOfEra - (365 * yearOfEra + yearOfEra / 4 - yearOfEra / 100)
  let fromMarch := (5 * dayOfYear + 2) / 153
  let day := dayOfYear - (153 * fromMarch + 2) / 5 + 1
  let month := if fromMarch < 10 then fromMarch + 3 else fromMarch - 9
  (era * 400 + yearOfEra + if month ≤ 2 then 1 else 0, month, day)

/-- The days of the calendar are those of whole years. -/
example : civil firstDay = (-262143, 1, 1) ∧ civil lastDay = (262142, 12, 31) := by decide

/-- Digits with zeros before them up to a width. -/
def padded (width n : Nat) : List Char :=
  let digits := Nat.toDigits 10 n
  List.replicate (width - digits.length) '0' ++ digits

/-- A year has four digits, and a sign outside of `0 .. 9999`. -/
def yearText (year : Int) : List Char :=
  if 0 ≤ year ∧ year ≤ 9999 then padded 4 year.toNat
  else (if year < 0 then '-' else '+') :: padded 4 year.natAbs

/-- The decimals of a second: none, three, six or nine of them. -/
def fractionText (nanoseconds : Nat) : List Char :=
  if nanoseconds = 0 then []
  else if nanoseconds % 1000000 = 0 then '.' :: padded 3 (nanoseconds / 1000000)
  else if nanoseconds % 1000 = 0 then '.' :: padded 6 (nanoseconds / 1000)
  else '.' :: padded 9 nanoseconds

/-- Date and time, such as `2023-11-14T22:13:20Z`. -/
def text (t : Timestamp) : String :=
  let seconds := t.nanoseconds.fdiv Duration.perSecond
  let fraction := (t.nanoseconds - seconds * Duration.perSecond).toNat
  let days := seconds.fdiv 86400
  let time := (seconds - days * 86400).toNat
  let (year, month, day) := civil days
  String.ofList (yearText year ++ '-' :: padded 2 month ++ '-' :: padded 2 day ++
    'T' :: padded 2 (time / 3600) ++ ':' :: padded 2 (time / 60 % 60) ++
    ':' :: padded 2 (time % 60) ++ fractionText fraction ++ ['Z'])

end Timestamp
end ResourceManager
