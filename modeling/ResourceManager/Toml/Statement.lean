import ResourceManager.Toml.Scalar
import ResourceManager.Toml.Table
import ResourceManager.Toml.Token

/-!
# Statements of TOML

A text is a sequence of statements: headers and entries, each on a line of its own.  A line goes on
as long as brackets are open.

An entry is read token by token over a stack of the arrays and tables that are still open, with the
key of the entry at the bottom.
-/

set_option autoImplicit false

namespace ResourceManager
namespace Toml

inductive Statement where
  /-- A header in brackets. -/
  | table (path : List String)
  /-- A header in double brackets. -/
  | tables (path : List String)
  | entry (path : List String) (value : Toml)
deriving Repr

namespace Statement

/-! ## Lines -/

/-- The tokens of the lines so far, newest first, and how many brackets are open. -/
structure Lines where
  complete : List (List Token)
  current : List Token
  depth : Nat

def Lines.step (l : Lines) (t : Token) : Lines :=
  match t with
  | .lineBreak =>
    if l.depth = 0 then ⟨l.current.reverse :: l.complete, [], 0⟩
    else { l with current := t :: l.current }
  | .openSquare | .openCurly => { l with current := t :: l.current, depth := l.depth + 1 }
  | .closeSquare | .closeCurly => { l with current := t :: l.current, depth := l.depth - 1 }
  | _ => { l with current := t :: l.current }

/-- The lines of a text. -/
def lines (tokens : List Token) : List (List Token) :=
  let l := tokens.foldl Lines.step ⟨[], [], 0⟩
  (l.current.reverse :: l.complete).reverse

def isBlank : Token → Bool
  | .blank _ => true
  | _ => false

/-- A line without blanks at its ends. -/
def trim (line : List Token) : List Token :=
  ((line.dropWhile isBlank).reverse.dropWhile isBlank).reverse

/-! ## Keys -/

/-- Whether a character may stand in a key without quotes. -/
def isBareKeyChar (c : Char) : Bool :=
  c.isAlphanum || c == '-' || c == '_'

/-- The part of a key that a token is. -/
def keyPart? : Token → Option String
  | .atom written => if written.all isBareKeyChar then some (String.ofList written) else none
  | .string false value => some (String.ofList value)
  | _ => none

/-- A key of parts with dots between them. -/
def keyOf? : List Token → Option (List String)
  | [part] => (keyPart? part).map ([·])
  | part :: .dot :: rest => do
    let first ← keyPart? part
    let others ← keyOf? rest
    return first :: others
  | _ => none

/-! ## Entries -/

/-- An array or a table in brackets that is still open, or the entry itself. -/
inductive Open where
  | entry (path : List String)
  | array (items : List Toml)
  | table (entries : Node.Entries) (path : List String)

/-- What may come next.  The stack of what is open has the innermost first. -/
inductive Expectation where
  /-- A part of the key of an entry. -/
  | keyPart (entries : Option Node.Entries) (parts : List String) (stack : List Open)
  /-- A dot or an equals sign behind a part of a key. -/
  | afterKeyPart (entries : Option Node.Entries) (parts : List String) (stack : List Open)
  /-- A value. -/
  | value (stack : List Open)
  /-- An item of an array, or its end. -/
  | item (items : List Toml) (stack : List Open)
  /-- A comma in an array, or its end. -/
  | afterItem (items : List Toml) (stack : List Open)
  /-- The key of an entry of a table, or its end. -/
  | key (entries : Node.Entries) (stack : List Open)
  /-- A comma in a table, or its end. -/
  | afterEntry (entries : Node.Entries) (stack : List Open)
  /-- More of a scalar; the blank says that it is a date and a blank has come behind it. -/
  | scalar (written : List Char) (blank : Bool) (stack : List Open)
  /-- Nothing but blanks. -/
  | nothing (path : List String) (value : Toml)

/-- How many arrays and tables may be open at a time. -/
def maxDepth : Nat := 80

/-- A value is complete: it goes into what is open innermost. -/
def close? (v : Toml) : List Open → Option Expectation
  | [] => none
  | .entry path :: _ => some (.nothing path v)
  | .array items :: stack => some (.afterItem (v :: items) stack)
  | .table entries path :: stack => (Node.insert? path v entries).map (.afterEntry · stack)

/-- A token where a value begins. -/
def begin? (stack : List Open) : Token → Option Expectation
  | .string _ value => close? (.string (String.ofList value)) stack
  | .atom written => some (.scalar written false stack)
  | .openSquare => if stack.length ≤ maxDepth then some (.item [] stack) else none
  | .openCurly => if stack.length ≤ maxDepth then some (.key [] stack) else none
  | _ => none

/-- A token behind a complete value, in brackets or at the end of an entry. -/
def settle? : Expectation → Token → Option Expectation
  | .afterItem items stack, .comma => some (.item items stack)
  | .afterItem items stack, .closeSquare => close? (.array items.reverse) stack
  | .afterItem items stack, .lineBreak => some (.afterItem items stack)
  | .afterItem items stack, .blank _ => some (.afterItem items stack)
  | .afterEntry entries stack, .comma => some (.key entries stack)
  | .afterEntry entries stack, .closeCurly => close? (.table (Node.toEntries entries)) stack
  | .afterEntry entries stack, .lineBreak => some (.afterEntry entries stack)
  | .afterEntry entries stack, .blank _ => some (.afterEntry entries stack)
  | .nothing path value, .blank _ => some (.nothing path value)
  | _, _ => none

/-- A scalar is complete. -/
def endScalar? (written : List Char) (stack : List Open) : Option Expectation := do
  close? (← Scalar.value? written) stack

/-- Whether a time may follow behind a blank. -/
def isDate (written : List Char) : Bool :=
  Scalar.afterDate? written == some []

/-- One more token. -/
def step? : Expectation → Token → Option Expectation
  | .keyPart entries parts stack, .blank _ => some (.keyPart entries parts stack)
  | .keyPart entries parts stack, t =>
    (keyPart? t).map fun part ↦ .afterKeyPart entries (part :: parts) stack
  | .afterKeyPart entries parts stack, .blank _ => some (.afterKeyPart entries parts stack)
  | .afterKeyPart entries parts stack, .dot => some (.keyPart entries parts stack)
  | .afterKeyPart none parts _, .equals => some (.value [.entry parts.reverse])
  | .afterKeyPart (some entries) parts stack, .equals =>
    some (.value (.table entries parts.reverse :: stack))
  | .value stack, .blank _ => some (.value stack)
  | .value stack, t => begin? stack t
  | .item items stack, .blank _ => some (.item items stack)
  | .item items stack, .lineBreak => some (.item items stack)
  | .item items stack, .closeSquare => close? (.array items.reverse) stack
  | .item items stack, t => begin? (.array items :: stack) t
  | .key entries stack, .blank _ => some (.key entries stack)
  | .key entries stack, .lineBreak => some (.key entries stack)
  | .key entries stack, .closeCurly => close? (.table (Node.toEntries entries)) stack
  | .key entries stack, t =>
    (keyPart? t).map fun part ↦ .afterKeyPart (some entries) [part] stack
  | .scalar written false stack, .atom more => some (.scalar (written ++ more) false stack)
  | .scalar written false stack, .dot => some (.scalar (written ++ ['.']) false stack)
  | .scalar written false stack, .blank space =>
    if space = [' '] ∧ isDate written then some (.scalar written true stack)
    else (endScalar? written stack).bind (settle? · (.blank space))
  | .scalar written true stack, .atom more =>
    if more.head?.any Char.isDigit then some (.scalar (written ++ ' ' :: more) false stack)
    else none
  | .scalar written _ stack, t => (endScalar? written stack).bind (settle? · t)
  | e, t => settle? e t

/-- The entry when the line ends here. -/
def finish? : Expectation → Option Statement
  | .nothing path v => some (.entry path v)
  | .scalar written _ stack =>
    match endScalar? written stack with
    | some (.nothing path v) => some (.entry path v)
    | _ => none
  | _ => none

/-- The entry that a line is. -/
def entryOf? (line : List Token) : Option Statement := do
  finish? (← line.foldlM step? (.keyPart none [] []))

/-! ## Headers and texts -/

/-- The header that a line in brackets is. -/
def header? (line : List Token) : Option Statement :=
  match line, line.reverse with
  | .openSquare :: .openSquare :: rest, .closeSquare :: .closeSquare :: _ =>
    (keyOf? ((rest.dropLast.dropLast).filter (!isBlank ·))).map .tables
  | .openSquare :: rest, .closeSquare :: _ =>
    (keyOf? ((rest.dropLast).filter (!isBlank ·))).map .table
  | _, _ => none

/-- The statement of a line, if there is one on it. -/
def ofLine? (line : List Token) : Option (List Statement) :=
  match trim line with
  | [] => some []
  | .openSquare :: rest => (header? (.openSquare :: rest)).map ([·])
  | line => (entryOf? line).map ([·])

/-- The statements of a text. -/
def scan? (text : List Char) : Option (List Statement) := do
  let found ← (lines (← Token.scan? text)).mapM ofLine?
  return found.flatten

end Statement
end Toml
end ResourceManager
