import ResourceManager.Json.Value

/-!
# Completed calls

The result of a call that has come to its end: the path that was called and the final payload.
-/

set_option autoImplicit false

namespace ResourceManager

structure Completion where
  path : String
  body : Option Json
deriving Repr

namespace Completion

/-- The id that a payload gives, when it is a string that is not empty. -/
def idOf? (body : Option Json) : Option String := do
  let id ← (← (← body).get? "id").string?
  if id = "" then none else some id

/-- The id of the resource: what the payload says, else the path that was called. -/
def resourceId (c : Completion) : String :=
  (idOf? c.body).getD c.path

/-- The payload, null when there is none. -/
def payload (c : Completion) : Json :=
  c.body.getD .null

end Completion
end ResourceManager
