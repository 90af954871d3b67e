import ResourceManager.Http.Headers
import ResourceManager.Http.Method
import ResourceManager.Http.Status

/-!
# Responses

A status, header fields and a body.  Some responses have no body whatever they announce: those with
the statuses 204 and 304, and all to the method `HEAD`.
-/

set_option autoImplicit false

namespace ResourceManager

structure Response where
  status : Nat
  headers : Headers
  body : Bytes
deriving DecidableEq, Repr

namespace Response

/-- Whether a response to a request has a body. -/
def hasBody (r : Response) (m : Method) : Bool :=
  m != .head && r.status != 204 && r.status != 304

/-- The response to a request as it arrives. -/
def received (r : Response) (m : Method) : Response :=
  if r.hasBody m then r else { r with body := [] }

def isSuccess (r : Response) : Bool :=
  HttpStatus.isSuccess r.status

end Response
end ResourceManager
