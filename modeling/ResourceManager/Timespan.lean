import ResourceManager.Duration

/-!
# Spans of time

A span leads forwards or backwards in time.  Its milliseconds fit a word of 64 bits with a sign, the
least word aside, so not every number of seconds is a span.
-/

set_option autoImplicit false

namespace ResourceManager

/-- A number as a word of 64 bits with a sign, if it fits. -/
def signedWord? (n : Nat) : Option Int64 :=
  if n < Nat.pow 2 63 then some (Int64.ofNat n) else none

namespace Timespan

/-- The nanoseconds of the longest span. -/
def longest : Nat := (Nat.pow 2 63 - 1) * 1000000

end Timespan

structure Timespan where
  nanoseconds : Int
  natAbs_le : nanoseconds.natAbs ≤ Timespan.longest
deriving DecidableEq, Repr

namespace Timespan

/-- The span of a number of seconds, if there is one. -/
def ofSeconds? (n : Int64) : Option Timespan :=
  let nanoseconds := n.toInt * Duration.perSecond
  if h : nanoseconds.natAbs ≤ longest then some ⟨nanoseconds, h⟩ else none

end Timespan
end ResourceManager
