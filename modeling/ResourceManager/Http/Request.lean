import ResourceManager.Error
import ResourceManager.Http.Headers
import ResourceManager.Http.Method
import ResourceManager.Json.Writer
import ResourceManager.Text.Base64
import ResourceManager.Text.Form

/-!
# Requests

A request as it was built, and what of it goes over the wire: the URL without its fragment and its
user information, and the values of the authorization field.

`Request.defect?` says why a request cannot be sent at all.
-/

set_option autoImplicit false

namespace ResourceManager

/-- What a request carries. -/
inductive Payload where
  | json (value : Json)
  /-- The text of form fields. -/
  | form (fields : List (String × String))
deriving Repr

namespace Payload

def contentType : Payload → String
  | json _ => "application/json"
  | form _ => "application/x-www-form-urlencoded"

/-- The body as it is sent. -/
def text : Payload → List Char
  | json value => value.write
  | form fields => Form.encode fields

end Payload

structure Request where
  method : Method
  url : Url
  userAgent : String
  /-- The bearer token. -/
  token : Option String
  payload : Option Payload
deriving Repr

namespace Request

/-- The user name and the password in the URL, with escapes undone. -/
def userInfo? (r : Request) : Option (List Char × List Char) := do
  let name ← Utf8.decode? (Percent.decode r.url.username)
  let password := r.url.password.bind fun p ↦ Utf8.decode? (Percent.decode p)
  if name = [] ∧ password = none then none else some (name, password.getD [])

/-- The URL that is asked for. -/
def target (r : Request) : Url :=
  let url := r.url.withoutFragment
  if r.userInfo?.isSome then { url with username := [], password := none } else url

/-- The values of the authorization field, in order: what the URL says about the user comes before
the token. -/
def authorization (r : Request) : List String :=
  let basic := match r.userInfo? with
    | some (name, password) =>
      ["Basic " ++ String.ofList (Base64.encode (Utf8.encode (name ++ ':' :: password)))]
    | none => []
  let bearer := match r.token with
    | some token => ["Bearer " ++ token]
    | none => []
  basic ++ bearer

/-- Whether a host can stand in a request. -/
def isSendableHost (host : List Char) : Bool :=
  host.all fun c ↦ c ∉ ['"', '\x60', '\x7b', '\x7d']

/-- Why a request cannot be sent. -/
def defect? (r : Request) : Option TransportError :=
  if ¬ (r.token.all Headers.isFieldText && Headers.isFieldText r.userAgent) then
    some .invalidHeader
  else if ¬ r.url.scheme ∈ ["http", "https"] then some .unsupportedScheme
  else if ¬ r.url.host.any isSendableHost then some .invalidHost
  else none

end Request
end ResourceManager
