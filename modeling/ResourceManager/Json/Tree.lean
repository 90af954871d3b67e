import ResourceManager.Json.Token
import ResourceManager.Text.Utf8

/-!
# JSON syntax

The tree that a text spells out, before anything is asked of its strings and numbers: numerals are
as written, members are in the order of the text, and a name may occur more than once.  There is no
limit on nesting.

The tokens are read one by one over a stack of the arrays and objects that are still open.
-/

set_option autoImplicit false

namespace ResourceManager
namespace Json

inductive Tree where
  | null
  | bool (b : Bool)
  | number (n : Numeral)
  | string (s : Option String)
  | array (items : List Tree)
  | object (members : List (Option String × Tree))
deriving Repr, Inhabited

namespace Tree

/-- An array or object that is still open, with what it holds so far, newest first.  An object waits
for the value of the name it has read. -/
inductive Open where
  | array (items : List Tree)
  | object (members : List (Option String × Tree)) (name : Option String)

/-- What may come next.  The stack of open arrays and objects has the innermost first. -/
inductive Expectation where
  /-- A value. -/
  | value (stack : List Open)
  /-- The first item of an array, or its end. -/
  | firstItem (stack : List Open)
  /-- The first name of an object, or its end. -/
  | firstName (stack : List Open)
  /-- A further name of an object. -/
  | name (members : List (Option String × Tree)) (stack : List Open)
  /-- The colon after a name. -/
  | colon (members : List (Option String × Tree)) (name : Option String) (stack : List Open)
  /-- A comma in an array, or its end. -/
  | afterItem (items : List Tree) (stack : List Open)
  /-- A comma in an object, or its end. -/
  | afterMember (members : List (Option String × Tree)) (stack : List Open)
  /-- Nothing. -/
  | nothing (result : Tree)

/-- A value is complete: it goes into the innermost open array or object. -/
def close (t : Tree) : List Open → Expectation
  | [] => .nothing t
  | .array items :: stack => .afterItem (t :: items) stack
  | .object members name :: stack => .afterMember ((name, t) :: members) stack

/-- A token where a value may begin. -/
def begin? (stack : List Open) : Token → Option Expectation
  | .null => some (close .null stack)
  | .bool b => some (close (.bool b) stack)
  | .number n => some (close (.number n) stack)
  | .string s => some (close (.string s) stack)
  | .openArray => some (.firstItem stack)
  | .openObject => some (.firstName stack)
  | _ => none

/-- One more token. -/
def step? : Expectation → Token → Option Expectation
  | .value stack, t => begin? stack t
  | .firstItem stack, .closeArray => some (close (.array []) stack)
  | .firstItem stack, t => begin? (.array [] :: stack) t
  | .firstName stack, .closeObject => some (close (.object []) stack)
  | .firstName stack, .string s => some (.colon [] s stack)
  | .name members stack, .string s => some (.colon members s stack)
  | .colon members name stack, .colon => some (.value (.object members name :: stack))
  | .afterItem items stack, .comma => some (.value (.array items :: stack))
  | .afterItem items stack, .closeArray => some (close (.array items.reverse) stack)
  | .afterMember members stack, .comma => some (.name members stack)
  | .afterMember members stack, .closeObject => some (close (.object members.reverse) stack)
  | _, _ => none

/-- The tree of a list of tokens. -/
def ofTokens? (tokens : List Token) : Option Tree := do
  match ← tokens.foldlM step? (.value []) with
  | .nothing t => some t
  | _ => none

/-- The tree of a text. -/
def ofSymbols? (text : List Symbol) : Option Tree := do
  ofTokens? (← Token.scan? text)

/-- The tree of the bytes of a text. -/
def ofBytes? (bytes : Bytes) : Option Tree :=
  ofSymbols? (Utf8.scan bytes)

end Tree
end Json
end ResourceManager
