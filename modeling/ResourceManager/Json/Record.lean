import ResourceManager.Json.Reader
import ResourceManager.Record

/-!
# Records in JSON

Objects and arrays as layouts of records, both in the syntax of a text, where a name may occur twice
and a part that is skipped may hold anything, and in values.

A field that nobody asks for is not always skipped.  A profile does not know its credentials by
their names, so all its other fields are read as values first, and one that is no value spoils the
profile.
-/

set_option autoImplicit false

namespace ResourceManager
namespace Json

namespace Tree

/-- How deep arrays and objects may be nested in a field of a profile.  Three objects are open
around it: the profile, the profiles and the configuration. -/
def fieldDepth : Nat := maxDepth - 3

/-- The members of an object whose names are all valid. -/
def namedMembers? (members : List (Option String × Tree)) : Option (List (String × Tree)) :=
  members.mapM fun m ↦ m.1.map (·, m.2)

instance : Datum Tree where
  layout?
    | .object members => (namedMembers? members).map .named
    | .array items => some (.positional items)
    | _ => none
  isNull
    | .null => true
    | _ => false
  string?
    | .string s => s
    | _ => none
  natural?
    | .number n => n.value?.bind Json.natural?
    | _ => none
  alternative?
    | .string s => s
    | .object [(name, .null)] => name
    | _ => none
  isIgnorable t := (ofTree? fieldDepth t).isSome

end Tree

instance : Datum Json where
  layout?
    | .object members => some (.named members)
    | .array items => some (.positional items)
    | _ => none
  isNull
    | .null => true
    | _ => false
  string? := Json.string?
  natural? := Json.natural?
  alternative?
    | .string s => some s
    | .object [(name, .null)] => some name
    | _ => none

end Json
end ResourceManager
