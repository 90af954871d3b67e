import ResourceManager.Client.Basic
import ResourceManager.Operation.Status

/-!
# Following operations

The response to a long-running call says how the operation is to be followed: at an address that
reports its status, at an address that answers "accepted" until there is a result, or at the
resource itself, whose properties say how far it has got.

`Poller.ofReply` chooses among them, and `Poller.poll` looks after the operation once.
`Poller.step` goes on to the poller for the next look, which is the same one unless the operation
has ended.
-/

set_option autoImplicit false

namespace ResourceManager

/-- How an operation is followed. -/
inductive Tracking where
  /-- The body at the address has the status.  The result may be at an address of its own. -/
  | statusAt (url : Url) (result : Option Url)
  /-- The address answers "accepted" until the operation has ended. -/
  | location (url : Url)
  /-- The resource says how far it has got. -/
  | resource
  | done (body : Option Json)
  | failed (failure : OperationFailure)
deriving Repr

structure Poller where
  method : Method
  path : String
  resourceUrl : Url
  tracking : Tracking
deriving Repr

/-- What one look at an operation shows. -/
inductive Progress where
  | pending (status : String)
  | done (body : Option Json)
  | failed (failure : OperationFailure)
deriving Repr

namespace Poller

/-! ## Submission -/

/-- The field with the address of the status. -/
def statusField : String := "azure-asyncoperation"

/-- The field with the address of the result. -/
def locationField : String := "location"

/-- The address in a field, if the field is there. -/
def addressIn (h : Headers) (field : String) : Except Error (Option Url) :=
  match h.text? field with
  | none => .ok none
  | some text =>
    match Url.parse text with
    | .ok url => .ok (some url)
    | .error cause => .error (.url cause)

/-- What the properties of a resource say about the operation on it. -/
def progressOf (body : Option Json) : Progress :=
  match OperationStatus.ofResource? body with
  | some (.inProgress word) => .pending word
  | some .succeeded | none => .done body
  | some status => .failed (.ofStatus status (body.bind (·.get? "properties")))

/-- How an operation is followed when the response names no address. -/
def trackingOf (method : Method) (body : Option Json) : Tracking :=
  if method = .delete then .done none
  else
    match progressOf body with
    | .pending _ => .resource
    | .done body => .done body
    | .failed failure => .failed failure

/-- How an operation is followed when the response may name the addresses of its status and of its
location.  The status comes first. -/
def trackingAt (method : Method) (body : Option Json) : Option Url → Option Url → Tracking
  | some url, location => .statusAt url location
  | none, some url => .location url
  | none, none => trackingOf method body

/-- The poller of an operation that was accepted. -/
def ofReply (endpoint : Url) (spec : OperationSpec) (reply : Reply) : Except Error Poller := do
  let status ← addressIn reply.headers statusField
  let location ← addressIn reply.headers locationField
  return ⟨spec.method, spec.path, spec.resourceUrl endpoint,
    trackingAt spec.method reply.body status location⟩

/-! ## Looks -/

/-- Whether the operation has ended. -/
def isDone (p : Poller) : Bool :=
  match p.tracking with
  | .done _ | .failed _ => true
  | _ => false

/-- The end of an operation with a result; a deleted resource leaves none. -/
def finished (p : Poller) (body : Option Json) : Progress :=
  .done (if p.method = .delete then none else body)

/-- What is at a URL. -/
def bodyAt (c : Client) (w : Watch) (url : Url) : Run (Option Json) :=
  return (← c.getUrl w url).body

/-- The result that a status reports itself. -/
def outputOf (body : Option Json) : Option Json := do
  (← (← body).get? "properties").get? "output"

/-- The result of an operation whose status is that it succeeded. -/
def result (c : Client) (w : Watch) (p : Poller) (resultUrl : Option Url) (status : Option Json) :
    Run (Option Json) :=
  if p.method.yieldsResource then bodyAt c w p.resourceUrl
  else if p.method = .delete then return none
  else
    match resultUrl with
    | some url => bodyAt c w url
    | none => return outputOf status

/-- The word that an address of the status reports. -/
def statusWord? (body : Option Json) : Option String := do
  (← (← body).get? "status").string?

def pollStatus (c : Client) (w : Watch) (p : Poller) (url : Url) (resultUrl : Option Url) :
    Run Progress := do
  let body ← bodyAt c w url
  match (statusWord? body).map OperationStatus.parse with
  | none => throw (.error (.invalidResponse .missingStatus))
  | some (.inProgress word) => return .pending word
  | some .succeeded => return p.finished (← result c w p resultUrl body)
  | some status => return .failed (.ofStatus status body)

/-- The word for an operation whose address only says that it is accepted. -/
def acceptedWord : String := "InProgress"

def pollLocation (c : Client) (w : Watch) (p : Poller) (url : Url) : Run Progress := do
  let reply ← c.getUrl w url
  if reply.status = HttpStatus.accepted then return .pending acceptedWord
  else if p.method.yieldsResource then return p.finished (← bodyAt c w p.resourceUrl)
  else return p.finished reply.body

def pollResource (c : Client) (w : Watch) (p : Poller) : Run Progress := do
  match progressOf (← bodyAt c w p.resourceUrl) with
  | .done body => return p.finished body
  | progress => return progress

/-- Looks after an operation once. -/
def poll (c : Client) (w : Watch) (p : Poller) : Run Progress :=
  match p.tracking with
  | .done body => return .done body
  | .failed failure => return .failed failure
  | .statusAt url resultUrl => pollStatus c w p url resultUrl
  | .location url => pollLocation c w p url
  | .resource => pollResource c w p

/-- The poller after a look. -/
def after (p : Poller) : Progress → Poller
  | .pending _ => p
  | .done body => { p with tracking := .done body }
  | .failed failure => { p with tracking := .failed failure }

/-- One look, and the poller for the next one.  A look that is not completed changes nothing. -/
def step (c : Client) (w : Watch) (p : Poller) (s : Session) :
    Except Stop Progress × Poller × Session :=
  match (p.poll c w).outcome s with
  | (.ok progress, s) => (.ok progress, p.after progress, s)
  | (.error stop, s) => (.error stop, p, s)

end Poller

namespace Client

/-- Submits a long-running operation without waiting for it. -/
def begin (c : Client) (spec : OperationSpec) : Run Poller := do
  let reply ← c.submit spec
  Run.ofExcept (Poller.ofReply c.endpoint spec reply)

end Client
end ResourceManager
