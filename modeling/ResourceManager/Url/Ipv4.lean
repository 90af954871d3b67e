import ResourceManager.Url.Basic
import ResourceManager.Url.Path

/-!
# IPv4 addresses in hosts

A host whose last part is a number is an address.  Its parts may be decimal, octal after a `0` or
hexadecimal after `0x`, and the last part fills the bytes that no other part names.
-/

set_option autoImplicit false

namespace ResourceManager
namespace Ipv4

/-- The digits of a part and their base. -/
def radix : List Char → Nat × List Char
  | '0' :: 'x' :: digits => (16, digits)
  | '0' :: 'X' :: digits => (16, digits)
  | '0' :: d :: digits => (8, d :: digits)
  | digits => (10, digits)

/-- A part as a number; no digits after a base mark are zero. -/
def part? (part : List Char) : Option Nat :=
  if part = [] then none
  else
    let (base, digits) := radix part
    digits.foldlM (fun n c ↦ do
      let d ← Hex.value? c
      if d < base then some (base * n + d) else none) 0

/-- The parts of a host; a dot at its end adds none. -/
def parts (host : List Char) : List (List Char) :=
  let all := Text.pieces (· == '.') host
  if all.getLast? = some [] then all.dropLast else all

/-- Whether a host is to be read as an address. -/
def isCandidate (host : List Char) : Bool :=
  match (parts host).getLast? with
  | some last => last != [] && (last.all Char.isDigit || (part? last).isSome)
  | none => false

/-- The value of an address: each part but the last is a byte. -/
def combine? : List Nat → Option Nat
  | [] => none
  | numbers =>
    let leading := numbers.dropLast
    let last := numbers.getLast?.getD 0
    if 3 < leading.length ∨ leading.any (255 < ·) ∨ Nat.pow 256 (4 - leading.length) ≤ last then
      none
    else some (leading.foldl (fun n b ↦ 256 * n + b) 0 * Nat.pow 256 (4 - leading.length) + last)

/-- The address that a host names. -/
def ofHost? (host : List Char) : Option Nat := do
  combine? (← (parts host).mapM part?)

/-- Four decimal bytes. -/
def text (address : Nat) : List Char :=
  [address / 16777216 % 256, address / 65536 % 256, address / 256 % 256, address % 256].map
    (Nat.toDigits 10) |>.intersperse ['.'] |>.flatten

end Ipv4
end ResourceManager
