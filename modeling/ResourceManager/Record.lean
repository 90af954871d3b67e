/-!
# Records in data

Records such as an error detail or a poll setting are read from JSON texts, from JSON values and
from tables of a configuration file.  In each of them a record is laid out by the names of its
fields or as the list of its values in the declared order.

`Layout.slots?` says what a well-formed layout is: no declared field occurs twice, no value is left
over, and a field may be missing as its presence says.
-/

set_option autoImplicit false

namespace ResourceManager

/-- How data lays out a record. -/
inductive Layout (α : Type) where
  | named (fields : List (String × α))
  | positional (values : List α)

/-- Data that records can be read from. -/
class Datum (α : Type) where
  layout? : α → Option (Layout α)
  /-- Whether the data stands for a value that is not there. -/
  isNull : α → Bool
  string? : α → Option String
  /-- An integer from zero to the greatest number of 64 bits. -/
  natural? : α → Option Nat
  /-- The name of an alternative that carries nothing. -/
  alternative? : α → Option String
  /-- Whether a field that nobody asks for may hold the data. -/
  isIgnorable : α → Bool := fun _ ↦ true

/-- Whether a field may be missing. -/
inductive Presence where
  | required
  /-- Missing under its name, but not at its place. -/
  | nullable
  | defaulted
deriving DecidableEq, Repr

structure Field where
  name : String
  presence : Presence
deriving DecidableEq, Repr

namespace Layout

variable {α : Type}

/-- The value under a name, which occurs once at most. -/
def slotNamed? (fields : List (String × α)) (f : Field) : Option (Option α) :=
  match fields.filter (·.1 == f.name) with
  | [] => if f.presence = .required then none else some none
  | [field] => some (some field.2)
  | _ => none

/-- The values at the places of the declared fields. -/
def slotsAt? : List Field → List α → Option (List (Option α))
  | [], [] => some []
  | [], _ :: _ => none
  | _ :: fields, value :: values => (slotsAt? fields values).map (some value :: ·)
  | f :: fields, [] =>
    if f.presence = .defaulted then (slotsAt? fields []).map (none :: ·) else none

/-- The value of each declared field, none where it is missing. -/
def slots? (fields : List Field) : Layout α → Option (List (Option α))
  | .named members => fields.mapM (slotNamed? members)
  | .positional values => slotsAt? fields values

end Layout

namespace Datum

variable {α β : Type} [Datum α]

/-- A value that may be missing or null. -/
def optional? (read : α → Option β) : Option α → Option (Option β)
  | none => some none
  | some a => if isNull a then some none else (read a).map some

/-- A value that has a default. -/
def withDefault? (read : α → Option β) (default : β) : Option α → Option β
  | none => some default
  | some a => read a

end Datum
end ResourceManager
