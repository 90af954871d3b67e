import ResourceManager.Text.Utf8

/-!
# The environment

The variables of the process.  A value is any bytes; one that is not UTF-8 is as good as none.  Most
settings also take an empty value for none, which is what `value?` does.
-/

set_option autoImplicit false

namespace ResourceManager

structure Environment where
  entries : List (String × Bytes)
deriving Repr

namespace Environment

def empty : Environment := ⟨[]⟩

/-- The environment without a variable. -/
def unset (e : Environment) (name : String) : Environment :=
  ⟨e.entries.filter (·.1 != name)⟩

/-- The environment with a variable set to bytes. -/
def setBytes (e : Environment) (name : String) (value : Bytes) : Environment :=
  ⟨(name, value) :: (e.unset name).entries⟩

/-- The environment with a variable set to a text. -/
def set (e : Environment) (name value : String) : Environment :=
  e.setBytes name (Utf8.encode value.toList)

/-- The text of a variable that is set, if it is UTF-8. -/
def lookup? (e : Environment) (name : String) : Option String := do
  let bytes ← e.entries.lookup name
  return String.ofList (← Utf8.decode? bytes)

/-- The text of a variable that is set and not empty. -/
def value? (e : Environment) (name : String) : Option String :=
  (e.lookup? name).filter (· ≠ "")

end Environment
end ResourceManager
