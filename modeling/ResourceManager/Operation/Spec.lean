import ResourceManager.Http.Method
import ResourceManager.Json.Value
import ResourceManager.Resource.Path
import ResourceManager.Url.Path

/-!
# Operations

What one call asks of the service: a method, a path, query pairs, perhaps a body, and whether the
answer is the result or the start of an operation that has to be followed.
-/

set_option autoImplicit false

namespace ResourceManager

structure OperationSpec where
  method : Method
  /-- The path, with its escapes in place. -/
  path : String
  apiVersion : String
  query : List (String × String)
  /-- The body, sent as it is. -/
  body : Option Json
  longRunning : Bool
deriving Repr

namespace OperationSpec

/-- A call that is answered at once, without query pairs and body. -/
def new (method : Method) (path apiVersion : String) : OperationSpec :=
  ⟨method, path, apiVersion, [], none, false⟩

def withBody (s : OperationSpec) (body : Json) : OperationSpec :=
  { s with body := some body }

def withOptionalBody (s : OperationSpec) (body : Option Json) : OperationSpec :=
  match body with
  | some body => s.withBody body
  | none => s

def withQuery (s : OperationSpec) (name value : String) : OperationSpec :=
  { s with query := s.query ++ [(name, value)] }

/-- Adds a query pair when there is a value. -/
def withOptionalQuery (s : OperationSpec) (name : String) (value : Option String) :
    OperationSpec :=
  match value with
  | some value => s.withQuery name value
  | none => s

def asLongRunning (s : OperationSpec) : OperationSpec :=
  { s with longRunning := true }

/-- The query pairs that are sent: the version comes first. -/
def queryPairs (s : OperationSpec) : List (String × String) :=
  ("api-version", s.apiVersion) :: s.query

/-- The URL of a call to the service at an endpoint. -/
def url (s : OperationSpec) (endpoint : Url) : Url :=
  (endpoint.setPath s.path).appendQuery s.queryPairs

/-- The URL of the resource that a call is about, without the query pairs of the call. -/
def resourceUrl (s : OperationSpec) (endpoint : Url) : Url :=
  { s with query := [] }.url endpoint

end OperationSpec
end ResourceManager
