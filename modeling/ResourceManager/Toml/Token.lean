import ResourceManager.Text.Hex

/-!
# TOML tokens

The lexer reads the characters of a text one by one and knows nothing of what stands around a token:
a run of characters between marks and blanks is an atom, whether it is a key or part of a number.
Comments are left out; blanks and line breaks are tokens, because they count in some places.
-/

set_option autoImplicit false

namespace ResourceManager
namespace Toml

inductive Token where
  | dot
  | equals
  | comma
  | openSquare
  | closeSquare
  | openCurly
  | closeCurly
  | lineBreak
  | blank (written : List Char)
  | atom (written : List Char)
  /-- A string; one in triple quotes may have several lines and is no key. -/
  | string (triple : Bool) (value : List Char)
deriving DecidableEq, Repr

namespace Token

/-- The two kinds of quotes: escapes count between double quotes only. -/
inductive Quote where
  | double
  | single
deriving DecidableEq, Repr

def Quote.mark : Quote → Char
  | double => '"'
  | single => '\''

/-- Where the lexer is; what has been read of a token is newest first. -/
inductive Mode where
  | between
  /-- Behind a carriage return, which only a line feed may follow. -/
  | carriage
  | blank (written : List Char)
  | comment
  | atom (written : List Char)
  /-- Behind one quote, or two of them. -/
  | opening (quote : Quote) (two : Bool)
  /-- Behind three quotes; a line break here does not belong to the string. -/
  | fresh (quote : Quote)
  | freshCarriage (quote : Quote)
  | string (quote : Quote) (triple : Bool) (value : List Char)
  | stringCarriage (quote : Quote) (value : List Char)
  /-- Behind quotes that may end a string in triple quotes. -/
  | closing (quote : Quote) (value : List Char) (count : Nat)
  | escape (triple : Bool) (value : List Char)
  | codePoint (triple : Bool) (value : List Char) (left : Nat) (number : Nat)
  /-- Behind a backslash at the end of a line, with or without its line break. -/
  | continuation (value : List Char) (broken : Bool)
  | continuationCarriage (value : List Char)

/-- The tokens so far, newest first, and where the lexer is. -/
structure Lexer where
  tokens : List Token
  mode : Mode

def isBlank (c : Char) : Bool := c == ' ' || c == '\t'

/-- Whether a character may stand in a string or a comment as it is. -/
def isShown (c : Char) : Bool :=
  c == '\t' || (0x20 ≤ c.toNat && c.toNat != 0x7F)

/-- The token that one character is. -/
def ofChar? (c : Char) : Option Token :=
  match c with
  | '.' => some .dot
  | '=' => some .equals
  | ',' => some .comma
  | '[' => some .openSquare
  | ']' => some .closeSquare
  | '{' => some .openCurly
  | '}' => some .closeCurly
  | '\n' => some .lineBreak
  | _ => none

/-- Whether a character ends an atom. -/
def endsAtom (c : Char) : Bool :=
  (ofChar? c).isSome || isBlank c || c == '\r' || c == '#' || c == '"' || c == '\''

/-- The character of an escape without a number. -/
def simpleEscape? (c : Char) : Option Char :=
  match c with
  | 'b' => some '\x08'
  | 't' => some '\t'
  | 'n' => some '\n'
  | 'f' => some '\x0c'
  | 'r' => some '\r'
  | 'e' => some '\x1b'
  | '"' => some '"'
  | '\\' => some '\\'
  | _ => none

/-- How many digits the number of an escape has. -/
def escapeDigits? (c : Char) : Option Nat :=
  match c with
  | 'x' => some 2
  | 'u' => some 4
  | 'U' => some 8
  | _ => none

/-- The character of a number, which is no surrogate. -/
def ofCodePoint? (n : Nat) : Option Char :=
  if n < 0xD800 ∨ (0xDFFF < n ∧ n < 0x110000) then some (Char.ofNat n) else none

namespace Lexer

/-- A character between tokens. -/
def start? (tokens : List Token) (c : Char) : Option Lexer :=
  match ofChar? c with
  | some t => some ⟨t :: tokens, .between⟩
  | none =>
    if c = '\r' then some ⟨tokens, .carriage⟩
    else if isBlank c then some ⟨tokens, .blank [c]⟩
    else if c = '#' then some ⟨tokens, .comment⟩
    else if c = '"' then some ⟨tokens, .opening .double false⟩
    else if c = '\'' then some ⟨tokens, .opening .single false⟩
    else some ⟨tokens, .atom [c]⟩

/-- A character of a string. -/
def content? (tokens : List Token) (quote : Quote) (triple : Bool) (value : List Char) (c : Char) :
    Option Lexer :=
  if c = quote.mark then
    if triple then some ⟨tokens, .closing quote value 1⟩
    else some ⟨.string false value.reverse :: tokens, .between⟩
  else if c = '\\' ∧ quote = .double then some ⟨tokens, .escape triple value⟩
  else if c = '\n' ∧ triple then some ⟨tokens, .string quote triple (c :: value)⟩
  else if c = '\r' ∧ triple then some ⟨tokens, .stringCarriage quote value⟩
  else if isShown c then some ⟨tokens, .string quote triple (c :: value)⟩
  else none

/-- A character behind a backslash. -/
def escaped? (tokens : List Token) (triple : Bool) (value : List Char) (c : Char) : Option Lexer :=
  match simpleEscape? c, escapeDigits? c with
  | some e, _ => some ⟨tokens, .string .double triple (e :: value)⟩
  | none, some digits => some ⟨tokens, .codePoint triple value digits 0⟩
  | none, none =>
    if !triple then none
    else if isBlank c then some ⟨tokens, .continuation value false⟩
    else if c = '\n' then some ⟨tokens, .continuation value true⟩
    else if c = '\r' then some ⟨tokens, .continuationCarriage value⟩
    else none

/-- A digit of the number of an escape. -/
def digit? (tokens : List Token) (triple : Bool) (value : List Char) (left number : Nat)
    (c : Char) : Option Lexer := do
  let d ← Hex.value? c
  let number := 16 * number + d
  if left ≤ 1 then
    let e ← ofCodePoint? number
    return ⟨tokens, .string .double triple (e :: value)⟩
  else return ⟨tokens, .codePoint triple value (left - 1) number⟩

/-- One more character. -/
def step? (l : Lexer) (c : Char) : Option Lexer :=
  match l.mode with
  | .between => start? l.tokens c
  | .carriage => if c = '\n' then some ⟨.lineBreak :: l.tokens, .between⟩ else none
  | .blank written =>
    if isBlank c then some ⟨l.tokens, .blank (c :: written)⟩
    else start? (.blank written.reverse :: l.tokens) c
  | .comment =>
    if c = '\n' ∨ c = '\r' then start? l.tokens c
    else if isShown c then some l
    else none
  | .atom written =>
    if endsAtom c then start? (.atom written.reverse :: l.tokens) c
    else some ⟨l.tokens, .atom (c :: written)⟩
  | .opening quote two =>
    if c = quote.mark then some ⟨l.tokens, if two then .fresh quote else .opening quote true⟩
    else if two then start? (.string false [] :: l.tokens) c
    else content? l.tokens quote false [] c
  | .fresh quote =>
    if c = '\n' then some ⟨l.tokens, .string quote true []⟩
    else if c = '\r' then some ⟨l.tokens, .freshCarriage quote⟩
    else content? l.tokens quote true [] c
  | .freshCarriage quote => if c = '\n' then some ⟨l.tokens, .string quote true []⟩ else none
  | .string quote triple value => content? l.tokens quote triple value c
  | .stringCarriage quote value =>
    if c = '\n' then some ⟨l.tokens, .string quote true ('\n' :: value)⟩ else none
  | .closing quote value count =>
    if c = quote.mark then
      if count < 5 then some ⟨l.tokens, .closing quote value (count + 1)⟩ else none
    else if 3 ≤ count then
      start? (.string true (List.replicate (count - 3) quote.mark ++ value).reverse :: l.tokens) c
    else content? l.tokens quote true (List.replicate count quote.mark ++ value) c
  | .escape triple value => escaped? l.tokens triple value c
  | .codePoint triple value left number => digit? l.tokens triple value left number c
  | .continuation value broken =>
    if isBlank c then some l
    else if c = '\n' then some ⟨l.tokens, .continuation value true⟩
    else if c = '\r' then some ⟨l.tokens, .continuationCarriage value⟩
    else if broken then content? l.tokens .double true value c
    else none
  | .continuationCarriage value =>
    if c = '\n' then some ⟨l.tokens, .continuation value true⟩ else none

/-- The tokens when the text ends here. -/
def finish? (l : Lexer) : Option (List Token) :=
  match l.mode with
  | .between | .comment => some l.tokens
  | .blank written => some (.blank written.reverse :: l.tokens)
  | .atom written => some (.atom written.reverse :: l.tokens)
  | .opening _ true => some (.string false [] :: l.tokens)
  | .closing quote value count =>
    if 3 ≤ count then
      some (.string true (List.replicate (count - 3) quote.mark ++ value).reverse :: l.tokens)
    else none
  | _ => none

end Lexer

/-- The tokens of a text. -/
def scan? (text : List Char) : Option (List Token) := do
  let l ← text.foldlM Lexer.step? ⟨[], .between⟩
  let tokens ← l.finish?
  return tokens.reverse

end Token
end Toml
end ResourceManager
