import ResourceManager.Text.Hex

/-!
# Writing TOML

Keys, strings and lines of a configuration file.  A string is written in the first of these forms
that needs no escapes: between double quotes, between single quotes, in three double quotes, in
three single quotes.  A string that needs escapes in all of them is written between double quotes,
three of them when it has several lines.
-/

set_option autoImplicit false

namespace ResourceManager
namespace Toml

/-! ## What a text asks for -/

/-- Whether a character can only be written as an escape. -/
def needsCode (c : Char) : Bool :=
  (c.toNat ≤ 0x1F && c != '\t' && c != '\n') || c.toNat == 0x7F

/-- The length of the longest run of a character, given the length of the run before the text. -/
def longestRun (mark : Char) (run : Nat) : List Char → Nat
  | [] => run
  | c :: rest =>
    if c = mark then longestRun mark (run + 1) rest else max run (longestRun mark 0 rest)

/-- What decides about the form of a text. -/
structure Traits where
  code : Bool
  backslash : Bool
  lineBreak : Bool
  doubleRun : Nat
  singleRun : Nat

def traits (s : List Char) : Traits :=
  { code := s.any needsCode
    backslash := s.contains '\\'
    lineBreak := s.contains '\n'
    doubleRun := longestRun '"' 0 s
    singleRun := longestRun '\'' 0 s }

/-! ## Escapes -/

/-- The escape of a character, if it has to be escaped in a string of one or of several lines. -/
def escape? (triple : Bool) (c : Char) : Option (List Char) :=
  if c = '\x08' then some ['\\', 'b']
  else if c = '\t' then some ['\\', 't']
  else if c = '\n' then if triple then none else some ['\\', 'n']
  else if c = '\x0c' then some ['\\', 'f']
  else if c = '\r' then some ['\\', 'r']
  else if c = '\\' then some ['\\', '\\']
  else if needsCode c then
    some ['\\', 'u', '0', '0', Hex.digit (c.toNat / 16), Hex.digit (c.toNat % 16)]
  else none

/-- The quotes that may stand in a row without an escape. -/
def freeQuotes (triple : Bool) : Nat := if triple then 2 else 0

/-- The body of a string between double quotes, behind a number of quotes. -/
def escapedFrom (triple : Bool) (run : Nat) : List Char → List Char
  | [] => []
  | c :: rest =>
    if c = '"' then
      if run < freeQuotes triple then c :: escapedFrom triple (run + 1) rest
      else '\\' :: c :: escapedFrom triple 0 rest
    else
      match escape? triple c with
      | some e => e ++ escapedFrom triple 0 rest
      | none => c :: escapedFrom triple 0 rest

def escaped (triple : Bool) (s : List Char) : List Char :=
  escapedFrom triple 0 s

/-! ## Strings and keys -/

inductive StringForm where
  | basic
  | literal
  | tripleBasic
  | tripleLiteral
deriving DecidableEq, Repr

/-- The form of a string with the given traits. -/
def StringForm.ofTraits (t : Traits) : StringForm :=
  if !t.code && !t.backslash && t.doubleRun == 0 && !t.lineBreak then .basic
  else if !t.code && t.singleRun == 0 && !t.lineBreak then .literal
  else if !t.code && !t.backslash && t.doubleRun ≤ 2 then .tripleBasic
  else if !t.code && t.singleRun ≤ 2 then .tripleLiteral
  else if t.lineBreak then .tripleBasic
  else .basic

/-- A line break behind three quotes, when the string has several lines. -/
def opening (t : Traits) : List Char :=
  if t.lineBreak then ['\n'] else []

/-- A string. -/
def writeString (s : String) : List Char :=
  let text := s.toList
  let t := traits text
  match StringForm.ofTraits t with
  | .basic => '"' :: (escaped false text ++ ['"'])
  | .literal => '\'' :: (text ++ ['\''])
  | .tripleBasic => ['"', '"', '"'] ++ opening t ++ escaped true text ++ ['"', '"', '"']
  | .tripleLiteral => ['\'', '\'', '\''] ++ opening t ++ text ++ ['\'', '\'', '\'']

/-- Whether a text is a key without quotes. -/
def isBareKey (s : List Char) : Bool :=
  s != [] && s.all fun c ↦ c.isAlphanum || c == '-' || c == '_'

/-- A part of a key; it has one line. -/
def writeKey (s : String) : List Char :=
  let text := s.toList
  let t := traits text
  if isBareKey text then text
  else if !t.code && !t.lineBreak && !t.backslash && t.doubleRun == 0 then
    '"' :: (escaped false text ++ ['"'])
  else if !t.code && !t.lineBreak && t.singleRun == 0 then '\'' :: (text ++ ['\''])
  else '"' :: (escaped false text ++ ['"'])

/-! ## Lines -/

/-- An entry with a string as its value. -/
def stringLine (key : String) (value : String) : List Char :=
  writeKey key ++ ' ' :: '=' :: ' ' :: (writeString value ++ ['\n'])

/-- An entry with a number as its value. -/
def numberLine (key : String) (value : Nat) : List Char :=
  writeKey key ++ ' ' :: '=' :: ' ' :: (Nat.toDigits 10 value ++ ['\n'])

/-- The header of a table. -/
def headerLine (path : List String) : List Char :=
  '[' :: (((path.map writeKey).intersperse ['.']).flatten ++ [']', '\n'])

end Toml
end ResourceManager
