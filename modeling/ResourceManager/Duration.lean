/-!
# Durations

A span of time in nanoseconds, and its text: the greatest unit that gives a whole part, with as many
decimals as it takes.
-/

set_option autoImplicit false

namespace ResourceManager

structure Duration where
  nanoseconds : Nat
deriving DecidableEq, Repr, Inhabited

namespace Duration

def perSecond : Nat := 1000000000

def ofSeconds (n : Nat) : Duration := ⟨n * perSecond⟩

def ofMilliseconds (n : Nat) : Duration := ⟨n * 1000000⟩

/-- The whole seconds. -/
def seconds (d : Duration) : Nat := d.nanoseconds / perSecond

/-- The nanoseconds past the whole seconds. -/
def subsecond (d : Duration) : Nat := d.nanoseconds % perSecond

/-- A number in units of `10 ^ places`, without zeros at the end of its decimals. -/
def inUnits (n places : Nat) : List Char :=
  let digits := Nat.toDigits 10 (n % Nat.pow 10 places)
  let decimals := List.replicate (places - digits.length) '0' ++ digits
  let shown := (decimals.reverse.dropWhile (· == '0')).reverse
  Nat.toDigits 10 (n / Nat.pow 10 places) ++ if shown.isEmpty then [] else '.' :: shown

/-- The text of a duration, such as `1.5s` or `40ms`. -/
def text (d : Duration) : String :=
  let n := d.nanoseconds
  if perSecond ≤ n then String.ofList (inUnits n 9) ++ "s"
  else if 1000000 ≤ n then String.ofList (inUnits n 6) ++ "ms"
  else if 1000 ≤ n then String.ofList (inUnits n 3) ++ "µs"
  else String.ofList (inUnits n 0) ++ "ns"

end Duration
end ResourceManager
