import ResourceManager.Decimal.Shortest

/-!
# JSON values

Payloads are passed through as they are, so a value keeps what its text said: integers are exact, a
number written with a point or an exponent is a floating point number, and the members of an object
are in the order of their names, each name once.
-/

set_option autoImplicit false

namespace ResourceManager

/-- A JSON value. -/
inductive Json where
  | null
  | bool (b : Bool)
  | integer (n : Int)
  | double (x : Double)
  | string (s : String)
  | array (items : List Json)
  | object (members : List (String × Json))
deriving BEq, Repr, Inhabited

namespace Json

/-- Puts a member in its place among members in order, over one of the same name. -/
def insertMember {α : Type} (name : String) (value : α) : List (String × α) → List (String × α)
  | [] => [(name, value)]
  | (n, v) :: rest =>
    if name < n then (name, value) :: (n, v) :: rest
    else if name = n then (name, value) :: rest
    else (n, v) :: insertMember name value rest

/-- The members in order of their names; of several of one name the last counts. -/
def sortMembers {α : Type} (members : List (String × α)) : List (String × α) :=
  members.foldl (fun sorted m ↦ insertMember m.1 m.2 sorted) []

/-- An object of the given members. -/
def ofMembers (members : List (String × Json)) : Json :=
  .object (sortMembers members)

/-- A member of an object. -/
def get? (name : String) : Json → Option Json
  | .object members => members.lookup name
  | _ => none

def string? : Json → Option String
  | .string s => some s
  | _ => none

/-- An integer that is not negative. -/
def natural? : Json → Option Nat
  | .integer (.ofNat n) => some n
  | _ => none

end Json
end ResourceManager
