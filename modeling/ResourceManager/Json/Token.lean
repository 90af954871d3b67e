import ResourceManager.Json.Numeral
import ResourceManager.Text.Hex

/-!
# JSON tokens

The lexer reads the characters of a text one by one.  A place where the bytes of the text are not
UTF-8 is a symbol without a character; it may stand in a string only, and makes that string one
without a value.  The same holds of an escape for half of a surrogate pair.  Whoever needs the
string then fails, and whoever skips it does not.
-/

set_option autoImplicit false

namespace ResourceManager
namespace Json

/-- A character of a text, or none where its bytes are not UTF-8. -/
abbrev Symbol := Option Char

inductive Token where
  | openArray
  | closeArray
  | openObject
  | closeObject
  | comma
  | colon
  | null
  | bool (b : Bool)
  | number (n : Numeral)
  | string (s : Option String)
deriving DecidableEq, Repr

namespace Token

/-! ## Strings -/

/-- A part of a string between the quotes: a symbol as it stands or by a short escape, or the code
unit of a long escape. -/
inductive Piece where
  | symbol (s : Symbol)
  | codeUnit (n : Nat)

def isHighSurrogate (n : Nat) : Bool := 0xD800 ≤ n && n ≤ 0xDBFF

def isLowSurrogate (n : Nat) : Bool := 0xDC00 ≤ n && n ≤ 0xDFFF

/-- The character of two surrogates. -/
def ofSurrogates (high low : Nat) : Char :=
  Char.ofNat (0x10000 + (high - 0xD800) * 0x400 + (low - 0xDC00))

/-- The characters of a string, none when some part has no character. -/
def assemble : List Piece → Option (List Char)
  | [] => some []
  | .symbol (some c) :: rest => (assemble rest).map (c :: ·)
  | .symbol none :: _ => none
  | .codeUnit high :: .codeUnit low :: rest =>
    if isHighSurrogate high ∧ isLowSurrogate low then
      (assemble rest).map (ofSurrogates high low :: ·)
    else if isHighSurrogate high ∨ isLowSurrogate high then none
    else (assemble (.codeUnit low :: rest)).map (Char.ofNat high :: ·)
  | .codeUnit n :: rest =>
    if isHighSurrogate n ∨ isLowSurrogate n then none
    else (assemble rest).map (Char.ofNat n :: ·)

/-- The character of a short escape. -/
def shortEscape? (c : Char) : Option Char :=
  match c with
  | '"' => some '"'
  | '\\' => some '\\'
  | '/' => some '/'
  | 'b' => some '\x08'
  | 'f' => some '\x0c'
  | 'n' => some '\n'
  | 'r' => some '\r'
  | 't' => some '\t'
  | _ => none

/-! ## The lexer -/

/-- Where the lexer is; what has been read of a token is newest first. -/
inductive Mode where
  | between
  | word (letters : List Char)
  | number (characters : List Char)
  | string (pieces : List Piece)
  | escape (pieces : List Piece)
  /-- In a long escape of which some digits are read, with the value they have. -/
  | codeUnit (pieces : List Piece) (digits : Nat) (value : Nat)

/-- The tokens so far, newest first, and where the lexer is. -/
structure Lexer where
  tokens : List Token
  mode : Mode

def isBlank (c : Char) : Bool := c == ' ' || c == '\t' || c == '\n' || c == '\r'

/-- The token of a word. -/
def ofWord? (letters : List Char) : Option Token :=
  if letters = "null".toList then some .null
  else if letters = "true".toList then some (.bool true)
  else if letters = "false".toList then some (.bool false)
  else none

/-- The token that one character is. -/
def ofChar? (c : Char) : Option Token :=
  match c with
  | '[' => some .openArray
  | ']' => some .closeArray
  | '{' => some .openObject
  | '}' => some .closeObject
  | ',' => some .comma
  | ':' => some .colon
  | _ => none

namespace Lexer

/-- Ends a token that has no end mark of its own. -/
def settle? (l : Lexer) : Option (List Token) :=
  match l.mode with
  | .between => some l.tokens
  | .word letters => (ofWord? letters.reverse).map (· :: l.tokens)
  | .number characters => (Numeral.ofChars? characters.reverse).map (.number · :: l.tokens)
  | _ => none

/-- A character between tokens. -/
def start? (tokens : List Token) (c : Char) : Option Lexer :=
  if isBlank c then some ⟨tokens, .between⟩
  else if c = '"' then some ⟨tokens, .string []⟩
  else if Numeral.isPart c && c != 'e' && c != 'E' then some ⟨tokens, .number [c]⟩
  else if c.isAlpha then some ⟨tokens, .word [c]⟩
  else (ofChar? c).map fun t ↦ ⟨t :: tokens, .between⟩

/-- One more symbol. -/
def step? (l : Lexer) (s : Symbol) : Option Lexer :=
  match l.mode, s with
  | .string pieces, none => some ⟨l.tokens, .string (.symbol none :: pieces)⟩
  | .string pieces, some c =>
    if c = '"' then
      some ⟨.string ((assemble pieces.reverse).map String.ofList) :: l.tokens, .between⟩
    else if c = '\\' then some ⟨l.tokens, .escape pieces⟩
    else if c.toNat < 0x20 then none
    else some ⟨l.tokens, .string (.symbol (some c) :: pieces)⟩
  | .escape pieces, some c =>
    if c = 'u' then some ⟨l.tokens, .codeUnit pieces 0 0⟩
    else (shortEscape? c).map fun e ↦ ⟨l.tokens, .string (.symbol (some e) :: pieces)⟩
  | .codeUnit pieces digits value, some c =>
    (Hex.value? c).map fun d ↦
      if digits = 3 then ⟨l.tokens, .string (.codeUnit (16 * value + d) :: pieces)⟩
      else ⟨l.tokens, .codeUnit pieces (digits + 1) (16 * value + d)⟩
  | .number characters, some c =>
    if Numeral.isPart c then some ⟨l.tokens, .number (c :: characters)⟩
    else l.settle?.bind (start? · c)
  | .word letters, some c =>
    if c.isAlpha then some ⟨l.tokens, .word (c :: letters)⟩ else l.settle?.bind (start? · c)
  | .between, some c => start? l.tokens c
  | _, none => none

end Lexer

/-- The tokens of a text. -/
def scan? (text : List Symbol) : Option (List Token) := do
  let l ← text.foldlM Lexer.step? ⟨[], .between⟩
  let tokens ← l.settle?
  return tokens.reverse

end Token
end Json
end ResourceManager
