import ResourceManager.Text.CodeTable
import ResourceManager.Text.Normal.Table

/-!
# The composed normal form

Texts that look the same may be written with different characters: a letter with an accent, or the
letter and the accent behind it.  The normal form takes all characters apart, puts the marks
behind a letter in order, and composes what can be composed again.

A character that only stands for another one, or that is never composed again, is left as it is.
None of them is in a mapped domain name, which is what the normal form is for.
-/

set_option autoImplicit false

namespace ResourceManager
namespace Text

/-! ## Characters -/

def compositeTable : CodeTable := .ofText composites

def combiningTable : CodeTable := .ofText combiningClasses

/-- The class of a mark; zero for a character that is no mark. -/
def combiningClass (n : Nat) : Nat :=
  if n < 0x300 then 0 else (((combiningTable.find? n).bind (·.image.head?)).getD 0)

/-! ## Syllables of Hangul

A syllable is made of a leading consonant, a vowel and perhaps a trailing consonant.  The
syllables are numbered in the order of these parts. -/

def firstSyllable : Nat := 0xAC00

def firstLeading : Nat := 0x1100

def firstVowel : Nat := 0x1161

/-- One before the first trailing consonant, which stands for there being none. -/
def noTrailing : Nat := 0x11A7

def vowels : Nat := 21

def trailings : Nat := 28

def leadings : Nat := 19

/-- Whether a character is a syllable. -/
def isSyllable (n : Nat) : Bool :=
  firstSyllable ≤ n && n < firstSyllable + leadings * vowels * trailings

/-- The parts of a syllable. -/
def syllableParts (n : Nat) : List Nat :=
  let k := n - firstSyllable
  let parts := [firstLeading + k / (vowels * trailings), firstVowel + k / trailings % vowels]
  if k % trailings = 0 then parts else parts ++ [noTrailing + k % trailings]

/-- The syllable of a leading consonant and a vowel, or of a syllable and a trailing consonant. -/
def syllable? (a b : Nat) : Option Nat :=
  if firstLeading ≤ a ∧ a < firstLeading + leadings ∧ firstVowel ≤ b ∧ b < firstVowel + vowels then
    some (firstSyllable + ((a - firstLeading) * vowels + (b - firstVowel)) * trailings)
  else if isSyllable a ∧ (a - firstSyllable) % trailings = 0 ∧ noTrailing < b ∧
      b < noTrailing + trailings then
    some (a + (b - noTrailing))
  else none

/-! ## Taking apart -/

/-- How deep a character is composed at most. -/
def compositionDepth : Nat := 4

/-- The characters that a character is composed of, down to a depth. -/
def decompose : Nat → Nat → List Nat
  | 0, n => [n]
  | depth + 1, n =>
    if n < 0xC0 then [n]
    else if isSyllable n then syllableParts n
    else
      match (compositeTable.find? n).map (·.image) with
      | some [a, b] => decompose depth a ++ [b]
      | _ => [n]

/-! ## Marks in order -/

/-- Puts a mark behind those of the same class or a lower one.  The run is kept from its end. -/
def insertMark (n : Nat) : List Nat → List Nat
  | [] => [n]
  | m :: rest =>
    if combiningClass n < combiningClass m then m :: insertMark n rest else n :: m :: rest

/-- The characters with each run of marks in the order of the classes. -/
def orderMarks (s : List Nat) : List Nat :=
  let (done, run) := s.foldl (fun (done, run) n ↦
    if combiningClass n = 0 then (n :: (run ++ done), []) else (done, insertMark n run))
    (([], []) : List Nat × List Nat)
  (run ++ done).reverse

/-! ## Composing -/

/-- The character that two characters make. -/
def composite? (a b : Nat) : Option Nat :=
  match syllable? a b with
  | some n => some n
  | none =>
    (List.find? (fun r : CodeRange ↦ decide (r.image = [a, b])) compositeTable).map (·.first)

/-- A text that is composed from its beginning on. -/
structure Composition where
  /-- What is finished, the last character first. -/
  done : List Nat
  starter : Option Nat
  /-- The marks behind the starter that it was not composed with, the last one first. -/
  marks : List Nat

namespace Composition

/-- All characters so far, the last one first. -/
def reversed (c : Composition) : List Nat :=
  c.marks ++ c.starter.toList ++ c.done

/-- Adds a character without composing it. -/
def append (c : Composition) (n : Nat) : Composition :=
  if combiningClass n = 0 then ⟨c.reversed, some n, []⟩ else { c with marks := n :: c.marks }

/-- Whether no mark comes between a character and the starter. -/
def reaches (c : Composition) (n : Nat) : Bool :=
  match c.marks with
  | [] => true
  | m :: _ => combiningClass m < combiningClass n

/-- Adds a character, composed with the starter when they make a character. -/
def add (c : Composition) (n : Nat) : Composition :=
  match c.starter.bind (composite? · n) with
  | some composite => if c.reaches n then { c with starter := some composite } else c.append n
  | none => c.append n

end Composition

def compose (s : List Nat) : List Nat :=
  (s.foldl Composition.add ⟨[], none, []⟩).reversed.reverse

/-- The composed normal form of a text. -/
def normalForm (s : List Char) : List Char :=
  if s.all (·.toNat < 0x300) then s
  else
    (compose (orderMarks (s.flatMap fun c ↦ decompose compositionDepth c.toNat))).map Char.ofNat

end Text
end ResourceManager
