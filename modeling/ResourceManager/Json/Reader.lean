import ResourceManager.Json.Tree

/-!
# Reading JSON values

The strict reader: every string has a value, every number fits, arrays and objects are nested at
most 127 deep, and of several members of one name the last counts.
-/

set_option autoImplicit false

namespace ResourceManager
namespace Json

/-- How deep arrays and objects may be nested. -/
def maxDepth : Nat := 127

mutual

/-- The value of a tree in which arrays and objects are nested at most `room` deep. -/
def ofTree? (room : Nat) : Tree → Option Json
  | .null => some .null
  | .bool b => some (.bool b)
  | .number n => n.value?
  | .string s => s.map .string
  | .array items =>
    match room with
    | 0 => none
    | room + 1 => (itemsOfTrees? room items).map .array
  | .object members =>
    match room with
    | 0 => none
    | room + 1 => (membersOfTrees? room members).map ofMembers

def itemsOfTrees? (room : Nat) : List Tree → Option (List Json)
  | [] => some []
  | t :: rest =>
    match ofTree? room t, itemsOfTrees? room rest with
    | some v, some vs => some (v :: vs)
    | _, _ => none

def membersOfTrees? (room : Nat) : List (Option String × Tree) → Option (List (String × Json))
  | [] => some []
  | (name, t) :: rest =>
    match name, ofTree? room t, membersOfTrees? room rest with
    | some name, some v, some vs => some ((name, v) :: vs)
    | _, _, _ => none

end

/-- The value that bytes spell out. -/
def ofBytes? (bytes : Bytes) : Option Json := do
  ofTree? maxDepth (← Tree.ofBytes? bytes)

/-- The value that a text spells out. -/
def ofText? (text : String) : Option Json := do
  ofTree? maxDepth (← Tree.ofSymbols? (text.toList.map some))

end Json
end ResourceManager
