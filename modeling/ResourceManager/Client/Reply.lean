import ResourceManager.Error
import ResourceManager.Http.Response
import ResourceManager.Json.Reader

/-!
# Replies

What a call gets back when the service reports success: the status, the header fields and the body,
which is JSON when there is any.
-/

set_option autoImplicit false

namespace ResourceManager

structure Reply where
  status : Nat
  headers : Headers
  body : Option Json
deriving Repr

namespace Reply

/-- White space around JSON, and form feeds. -/
def isBlankByte (b : UInt8) : Bool :=
  b == 0x20 || b == 0x09 || b == 0x0A || b == 0x0C || b == 0x0D

/-- The value of a body, none when it is blank. -/
def bodyOf (body : Bytes) : Except Error (Option Json) :=
  if body.all isBlankByte then .ok none
  else
    match Json.ofBytes? body with
    | some v => .ok (some v)
    | none => .error .json

/-- The reply that a response is; without success it is an error. -/
def ofResponse (r : Response) : Except Error Reply :=
  if r.isSuccess then do
    return ⟨r.status, r.headers, ← bodyOf r.body⟩
  else .error (.service (ServiceError.ofResponse r.status r.body))

end Reply
end ResourceManager
