import ResourceManager.Record

/-!
# TOML values

The values of a configuration file.  Nothing here computes with floating point numbers or dates, so
those are kept as they are written.
-/

set_option autoImplicit false

namespace ResourceManager

inductive Toml where
  | string (s : String)
  | integer (n : Int)
  | float (written : List Char)
  | boolean (b : Bool)
  | datetime (written : List Char)
  | array (items : List Toml)
  | table (entries : List (String × Toml))
deriving BEq, Repr, Inhabited

namespace Toml

/-- The integers that fit 64 bits, with a sign or without. -/
def fitsWord (n : Int) : Bool :=
  -(Nat.pow 2 63 : Nat) ≤ n && n < Nat.pow 2 64

mutual

/-- Whether a value holds only integers that fit 64 bits. -/
def hasOnlyWords : Toml → Bool
  | .integer n => fitsWord n
  | .array items => itemsHaveOnlyWords items
  | .table entries => entriesHaveOnlyWords entries
  | _ => true

def itemsHaveOnlyWords : List Toml → Bool
  | [] => true
  | item :: rest => hasOnlyWords item && itemsHaveOnlyWords rest

def entriesHaveOnlyWords : List (String × Toml) → Bool
  | [] => true
  | (_, value) :: rest => hasOnlyWords value && entriesHaveOnlyWords rest

end

/-- Whether a value is a table or an array without content. -/
def isEmptyContainer : Toml → Bool
  | .array [] => true
  | .table [] => true
  | _ => false

/-- The name under which a date appears as a table. -/
def datetimeField : String := "$datetime"

instance : Datum Toml where
  layout?
    | .table entries => some (.named entries)
    | .array items => some (.positional items)
    | .datetime written => some (.named [(datetimeField, .string (String.ofList written))])
    | _ => none
  isNull _ := false
  string?
    | .string s => some s
    | _ => none
  natural?
    | .integer (.ofNat n) => if n < Nat.pow 2 64 then some n else none
    | _ => none
  alternative?
    | .string s => some s
    | .table [(name, value)] => if isEmptyContainer value then some name else none
    | _ => none
  isIgnorable := hasOnlyWords

end Toml
end ResourceManager
