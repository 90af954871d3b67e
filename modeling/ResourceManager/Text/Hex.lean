/-!
# Hexadecimal digits

The two digits of a byte, in either case, and the value of a digit.  Percent escapes, form escapes,
string escapes and the addresses of hosts are all written with them.

`value?_digit` says that a written digit reads back.
-/

set_option autoImplicit false

namespace ResourceManager
namespace Hex

/-- The value of a hexadecimal digit of either case. -/
def value? (c : Char) : Option Nat :=
  let n := c.toNat
  if 0x30 ≤ n ∧ n ≤ 0x39 then some (n - 0x30)
  else if 0x41 ≤ n ∧ n ≤ 0x46 then some (n - 0x41 + 10)
  else if 0x61 ≤ n ∧ n ≤ 0x66 then some (n - 0x61 + 10)
  else none

/-- The upper case digit of a value below sixteen. -/
def digit (n : Nat) : Char :=
  if n < 10 then Char.ofNat (0x30 + n) else Char.ofNat (0x41 + n - 10)

/-- The lower case digit of a value below sixteen. -/
def lowerDigit (n : Nat) : Char :=
  if n < 10 then Char.ofNat (0x30 + n) else Char.ofNat (0x61 + n - 10)

theorem value?_digit {n : Nat} (h : n < 16) : value? (digit n) = some n := by
  have : ∀ m : Fin 16, value? (digit m) = some m.1 := by decide
  exact this ⟨n, h⟩

theorem value?_lowerDigit {n : Nat} (h : n < 16) : value? (lowerDigit n) = some n := by
  have : ∀ m : Fin 16, value? (lowerDigit m) = some m.1 := by decide
  exact this ⟨n, h⟩

/-- The value of a run of hexadecimal digits, none when another character is among them. -/
def number? (digits : List Char) : Option Nat :=
  digits.foldlM (fun n c ↦ (value? c).map (16 * n + ·)) 0

/-- The two upper case digits of a byte. -/
def ofByte (b : UInt8) : List Char :=
  [digit (b.toNat / 16), digit (b.toNat % 16)]

/-- The bytes of a text of digit pairs. -/
def bytes? : List Char → Option (List UInt8)
  | [] => some []
  | [_] => none
  | a :: b :: rest => do
    let high ← value? a
    let low ← value? b
    let others ← bytes? rest
    return UInt8.ofNat (16 * high + low) :: others

end Hex
end ResourceManager
