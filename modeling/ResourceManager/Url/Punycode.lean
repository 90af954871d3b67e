import ResourceManager.Url.Path

/-!
# Punycode

The form of a label with characters past ASCII in host names: the ASCII characters first, then for
every other character its place and value as a difference to the one before, in digits of base 36
with thresholds that adapt to the differences seen.
-/

set_option autoImplicit false

namespace ResourceManager
namespace Punycode

/-- The value of a digit: letters first, then decimal digits. -/
def digit? (c : Char) : Option Nat :=
  if 'a' ≤ c ∧ c ≤ 'z' then some (c.toNat - 0x61)
  else if 'A' ≤ c ∧ c ≤ 'Z' then some (c.toNat - 0x41)
  else if '0' ≤ c ∧ c ≤ '9' then some (c.toNat - 0x30 + 26)
  else none

/-- The digit of a value below 36. -/
def digit (n : Nat) : Char :=
  if n < 26 then Char.ofNat (0x61 + n) else Char.ofNat (0x30 + n - 26)

theorem digit?_digit {n : Nat} (h : n < 36) : digit? (digit n) = some n := by
  have : ∀ m : Fin 36, digit? (digit m) = some m.1 := by decide
  exact this ⟨n, h⟩

/-- The least value at place `k` that is not the last digit of a number. -/
def threshold (k bias : Nat) : Nat :=
  if k ≤ bias then 1 else min 26 (k - bias)

theorem threshold_pos (k bias : Nat) : 0 < threshold k bias := by
  unfold threshold
  split <;> omega

theorem threshold_le (k bias : Nat) : threshold k bias ≤ 26 := by
  unfold threshold
  split <;> omega

/-- The bias after a difference has been shrunk to at most 455. -/
def adaptFrom (k delta : Nat) : Nat :=
  if 455 < delta then adaptFrom (k + 36) (delta / 35) else k + 36 * delta / (delta + 38)
termination_by delta
decreasing_by omega

/-- The bias for the next difference, after the given number of characters. -/
def adapt (delta count : Nat) (first : Bool) : Nat :=
  let delta := if first then delta / 700 else delta / 2
  adaptFrom 0 (delta + delta / count)

/-! ## Decoding -/

/-- The greatest number a difference may reach. -/
def limit : Nat := Nat.pow 2 32

/-- A number in digits that end with one below its threshold, and the rest of the text. -/
def number? (bias : Nat) : List Char → (k weight value : Nat) → Option (Nat × List Char)
  | [], _, _, _ => none
  | c :: rest, k, weight, value =>
    match digit? c with
    | none => none
    | some d =>
      if limit ≤ value + d * weight then none
      else if d < threshold k bias then some (value + d * weight, rest)
      else number? bias rest (k + 36) (weight * (36 - threshold k bias)) (value + d * weight)

theorem number?_length {bias : Nat} {s : List Char} {k weight value n : Nat} {rest : List Char}
    (h : number? bias s k weight value = some (n, rest)) : rest.length < s.length := by
  induction s generalizing k weight value with
  | nil => simp [number?] at h
  | cons c s ih =>
    rw [number?] at h
    split at h
    · simp at h
    split at h
    · simp at h
    split at h
    · simp only [Option.some.injEq, Prod.mk.injEq] at h
      simp [← h.2]
    · have := ih h
      simp only [List.length_cons]
      omega

/-- Whether a code point is a character past ASCII. -/
def isExtended (n : Nat) : Bool :=
  0x80 ≤ n && (n < 0xD800 || (0xDFFF < n && n < 0x110000))

/-- Puts in the characters that the digits name.  The next one has at least the given code point and
goes to the given place or one behind it. -/
def decodeFrom? (text : List Char) (codePoint place bias : Nat) (output : List Char) :
    Option (List Char) :=
  match text with
  | [] => some output
  | c :: cs =>
    match _h : number? bias (c :: cs) 36 1 0 with
    | none => none
    | some (delta, rest) =>
      let count := output.length + 1
      let next := codePoint + (place + delta) / count
      let at' := (place + delta) % count
      if isExtended next then
        decodeFrom? rest next (at' + 1) (adapt delta count (place == 0))
          (output.take at' ++ Char.ofNat next :: output.drop at')
      else none
termination_by text.length
decreasing_by exact number?_length _h

/-- The part before the last hyphen and the part after it; without a hyphen all is after it. -/
def splitLast (s : List Char) : List Char × List Char :=
  let after := (s.reverse.takeWhile (· != '-')).reverse
  (s.take (s.length - after.length - 1), after)

/-- The label that a text stands for. -/
def decode? (s : List Char) : Option (List Char) :=
  let (basic, digits) := splitLast s
  decodeFrom? digits 0x80 0 72 basic

/-! ## Encoding -/

/-- A number in digits. -/
def writeNumber (bias k n : Nat) : List Char :=
  if n < threshold k bias then [digit n]
  else
    digit (threshold k bias + (n - threshold k bias) % (36 - threshold k bias)) ::
      writeNumber bias (k + 36) ((n - threshold k bias) / (36 - threshold k bias))
termination_by n
decreasing_by
  have h1 := threshold_pos k bias
  have h2 := threshold_le k bias
  have h3 := Nat.div_le_self (n - threshold k bias) (36 - threshold k bias)
  omega

/-- What has been written, the difference so far, the bias, and how many characters are done. -/
structure Encoding where
  output : List Char
  delta : Nat
  bias : Nat
  count : Nat

/-- One character of the label while those of one code point are being written. -/
def Encoding.visit (basic codePoint : Nat) (e : Encoding) (c : Char) : Encoding :=
  if c.toNat < codePoint then { e with delta := e.delta + 1 }
  else if c.toNat = codePoint then
    { output := e.output ++ writeNumber e.bias 36 e.delta
      delta := 0
      bias := adapt e.delta (e.count + 1) (e.count == basic)
      count := e.count + 1 }
  else e

/-- Writes the characters past ASCII in the order of their code points. -/
def encodeFrom (label : List Char) (basic : Nat) : List Nat → Nat → Encoding → Encoding
  | [], _, e => e
  | codePoint :: rest, least, e =>
    let e := { e with delta := e.delta + (codePoint - least) * (e.count + 1) }
    let e := label.foldl (Encoding.visit basic codePoint) e
    encodeFrom label basic rest (codePoint + 1) { e with delta := e.delta + 1 }

/-- The text that stands for a label. -/
def encode (label : List Char) : List Char :=
  let basic := label.filter (·.toNat < 0x80)
  let extended := ((label.filter (0x80 ≤ ·.toNat)).map Char.toNat).mergeSort.eraseDups
  basic ++ (if basic.isEmpty then [] else ['-']) ++
    (encodeFrom label basic.length extended 0x80 ⟨[], 0, 72, basic.length⟩).output

end Punycode
end ResourceManager
