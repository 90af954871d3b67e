import ResourceManager.Http.Request
import ResourceManager.Http.Response
import ResourceManager.Url.Parser

/-!
# Redirects

A response may send a request on to another address.  The sender follows by itself: it makes the
request that `Request.redirected?` gives, and only what comes of the last one is handed on.

The address is in the field `location` and may be relative to the one that was asked.  A response
whose field is missing or cannot be read sends nothing on; it is then a response like any other.
-/

set_option autoImplicit false

namespace ResourceManager

/-! ## Addresses -/

namespace Url

/-- Whether a character may stand in a reference to an address. -/
def isReferenceChar (c : Char) : Bool :=
  '!' ≤ c && c ≤ '~' &&
    c ∉ ['"', '<', '>', '\\', '^', '\x60', '\x7b', '|', '\x7d']

/-- The text of the path up to its last slash. -/
def directoryText (u : Url) : List Char :=
  match u.path with
  | .segments list => list.dropLast.flatMap ('/' :: ·) ++ ['/']
  | .opaqueText text => text

/-- The absolute text that a reference stands for at an address.  One that names a scheme has to
name a host as well. -/
def resolvedText? (base : Url) (reference : List Char) : Option (List Char) :=
  let scheme := base.scheme.toList ++ [':']
  match scheme? reference with
  | some (_, '/' :: '/' :: _) => some reference
  | some _ => none
  | none =>
    match reference with
    | '/' :: '/' :: _ => some (scheme ++ reference)
    | '/' :: _ => some (scheme ++ base.authorityText ++ reference)
    | '?' :: _ => some (scheme ++ base.authorityText ++ base.path.text ++ reference)
    | [] | '#' :: _ =>
      some (scheme ++ base.authorityText ++ base.path.text ++ markedText '?' base.query ++
        reference)
    | _ => some (scheme ++ base.authorityText ++ base.directoryText ++ reference)

/-- The address that a reference stands for, when it is one of a host that can be asked. -/
def resolved? (base : Url) (reference : String) : Option Url := do
  let text ← if reference.toList.all isReferenceChar then base.resolvedText? reference.toList
    else none
  let url ← (Url.parse (String.ofList text)).toOption
  if url.host.any Request.isSendableHost then some url else none

/-- The port that is asked, written or not. -/
def effectivePort? (u : Url) : Option Nat := u.port.or (defaultPort? u.scheme)

/-- Whether two addresses are those of one server. -/
def hasSameServer (u v : Url) : Bool :=
  u.host == v.host && u.effectivePort? == v.effectivePort?

end Url

/-! ## Requests that follow -/

namespace Request

/-- How many redirects are followed in a row. -/
def redirectLimit : Nat := 10

/-- The method and the payload behind a redirect of some status.  A `POST` that has moved becomes a
`GET`; what is to be seen elsewhere is read; all else is sent again as it was. -/
def resent? (r : Request) : Nat → Option (Method × Option Payload)
  | 301 | 302 => some (if r.method = .post then (.get, none) else (r.method, r.payload))
  | 303 => some (if r.method = .head then .head else .get, none)
  | 307 | 308 => some (r.method, r.payload)
  | _ => none

/-- The request at another address.  Another server is not told who sends it: neither the token nor
the user information goes with it. -/
def sentTo (r : Request) (url : Url) (m : Method) (payload : Option Payload) : Request :=
  let same := r.url.hasSameServer url
  { method := m
    url := { url with
      username := if same then r.url.username else []
      password := if same then r.url.password else none }
    userAgent := r.userAgent
    token := if same then r.token else none
    payload := payload }

/-- The request that a response sends on. -/
def redirected? (r : Request) (response : Response) : Option Request := do
  let (m, payload) ← r.resent? response.status
  let reference ← response.headers.text? "location"
  let url ← r.target.resolved? reference
  return r.sentTo url m payload

/-- Why a redirect to a request is not followed when so many more may be. -/
def barrier? (r : Request) (left : Nat) : Option TransportError :=
  if left = 0 then some .tooManyRedirects else r.defect?

end Request
end ResourceManager
