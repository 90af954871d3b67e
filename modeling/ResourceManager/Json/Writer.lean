import ResourceManager.Json.Value
import ResourceManager.Text.Hex

/-!
# The compact text of a JSON value

No blanks, members in order, and in strings only the quote, the backslash and the control
characters below the blank are escaped.
-/

set_option autoImplicit false

namespace ResourceManager
namespace Json

/-- The escape of a character that cannot stand in a string as it is. -/
def escape? (c : Char) : Option (List Char) :=
  if c = '"' then some ['\\', '"']
  else if c = '\\' then some ['\\', '\\']
  else if c = '\x08' then some ['\\', 'b']
  else if c = '\x0c' then some ['\\', 'f']
  else if c = '\n' then some ['\\', 'n']
  else if c = '\r' then some ['\\', 'r']
  else if c = '\t' then some ['\\', 't']
  else if c.toNat < 0x20 then
    some ['\\', 'u', '0', '0', Hex.lowerDigit (c.toNat / 16), Hex.lowerDigit (c.toNat % 16)]
  else none

def writeChar (c : Char) : List Char :=
  (escape? c).getD [c]

def writeString (s : String) : List Char :=
  '"' :: (s.toList.flatMap writeChar ++ ['"'])

/-- The decimal text of an integer. -/
def writeInteger : Int → List Char
  | .ofNat n => Nat.toDigits 10 n
  | .negSucc n => '-' :: Nat.toDigits 10 (n + 1)

mutual

/-- The compact text of a value. -/
def write : Json → List Char
  | .null => ['n', 'u', 'l', 'l']
  | .bool true => ['t', 'r', 'u', 'e']
  | .bool false => ['f', 'a', 'l', 's', 'e']
  | .integer n => writeInteger n
  | .double x => x.text
  | .string s => writeString s
  | .array [] => ['[', ']']
  | .array (item :: items) => '[' :: (write item ++ writeItems items)
  | .object [] => ['{', '}']
  | .object ((name, value) :: members) =>
    '{' :: (writeString name ++ ':' :: (write value ++ writeMembers members))

/-- The items of an array after the first, and its end. -/
def writeItems : List Json → List Char
  | [] => [']']
  | item :: items => ',' :: (write item ++ writeItems items)

/-- The members of an object after the first, and its end. -/
def writeMembers : List (String × Json) → List Char
  | [] => ['}']
  | (name, value) :: members =>
    ',' :: (writeString name ++ ':' :: (write value ++ writeMembers members))

end

/-- The compact text of a value, as a string. -/
def text (v : Json) : String :=
  String.ofList v.write

end Json
end ResourceManager
