import ResourceManager.Config.Credentials
import ResourceManager.Json.Record
import ResourceManager.Session.Run
import ResourceManager.Url.Parser

/-!
# Acquiring tokens

A token that is given is used as it is.  With the secret of an application a token is requested from
the authority, and kept for its scope until it is about to end.
-/

set_option autoImplicit false

namespace ResourceManager

/-- Where tokens come from. -/
structure TokenSource where
  credentials : Credentials
  /-- The address of the token authority. -/
  authority : String
  userAgent : String
deriving DecidableEq, Repr

namespace TokenSource

/-! ## The request -/

/-- The address that issues tokens for a tenant. -/
def address (authority tenantId : String) : String :=
  String.ofList (Text.trimEnd (· == '/') authority.toList) ++ "/" ++
    Percent.encodeSegment tenantId ++ "/oauth2/v2.0/token"

/-- What a request for a token says. -/
def fields (clientId secret scope : String) : List (String × String) :=
  [("grant_type", "client_credentials"), ("client_id", clientId), ("client_secret", secret),
    ("scope", scope)]

/-- The request for a token. -/
def request (source : TokenSource) (tenantId clientId secret scope : String) :
    Except TransportError Request :=
  match Url.parse (address source.authority tenantId) with
  | .error cause => .error (.invalidUrl cause)
  | .ok url => .ok
    { method := .post
      url := url
      userAgent := source.userAgent
      token := none
      payload := some (.form (fields clientId secret scope)) }

/-! ## The response -/

/-- Reads the token and its lifetime in seconds. -/
def decode? {α : Type} [Datum α] (a : α) : Option (String × Nat) := do
  match ← (← Datum.layout? a).slots? [⟨"access_token", .required⟩, ⟨"expires_in", .required⟩] with
  | [token, lifetime] => return (← Datum.string? (← token), ← Datum.natural? (← lifetime))
  | _ => none

/-- Reads the reason of a refusal; a description comes before the name of the error. -/
def reason? {α : Type} [Datum α] (a : α) : Option String := do
  match ← (← Datum.layout? a).slots? [⟨"error", .nullable⟩, ⟨"error_description", .nullable⟩] with
  | [error, description] =>
    let error ← Datum.optional? Datum.string? error
    let description ← Datum.optional? Datum.string? description
    description.or error
  | _ => none

/-- The reason of a refusal, which is the text of the body when it gives none. -/
def reason (body : Bytes) : String :=
  ((Json.Tree.ofBytes? body).bind reason?).getD (String.ofList (Utf8.decodeLossy body))

/-- The token in a response that came at a point in time. -/
def ofResponse (r : Response) (now : Timestamp) : Except CredentialError AccessToken :=
  if r.isSuccess then
    match (Json.Tree.ofBytes? r.body).bind decode? with
    | some (token, lifetime) => .ok (.issued token now lifetime)
    | none => .error .malformed
  else .error (.rejected r.status (reason r.body))

/-- The token that an exchange brought. -/
def ofDelivery (d : Delivery) (now : Timestamp) : Except CredentialError AccessToken :=
  match d with
  | .failed cause => .error (.requestFailed cause)
  | .incomplete => .error (.unreadable .incompleteBody)
  | .response r => ofResponse r now

/-! ## The token at hand -/

/-- What the request for a token brings. -/
def ask (source : TokenSource) (tenantId clientId secret scope : String) (w : Watch) :
    Run Delivery :=
  match source.request tenantId clientId secret scope with
  | .error cause => return .failed cause
  | .ok r => r.send w

/-- Reads a token and keeps it. -/
def keep (scope : String) (d : Delivery) : Run AccessToken := do
  match ofDelivery d (← get).now with
  | .error cause => throw (.error (.credential cause))
  | .ok token =>
    modify fun s ↦ { s with token := some ⟨scope, token⟩ }
    return token

/-- Requests a token and keeps it. -/
def renew (source : TokenSource) (tenantId clientId secret scope : String) (w : Watch) :
    Run AccessToken := do
  keep scope (← source.ask tenantId clientId secret scope w)

/-- A token for a scope. -/
def token (source : TokenSource) (scope : String) (w : Watch) : Run AccessToken := do
  match source.credentials with
  | .accessToken token => return .unlimited token
  | .clientSecret tenantId clientId secret =>
    let s ← get
    match s.token.bind (·.usable? scope s.now) with
    | some token => return token
    | none => source.renew tenantId clientId secret scope w

end TokenSource
end ResourceManager
