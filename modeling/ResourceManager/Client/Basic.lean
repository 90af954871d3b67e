import ResourceManager.Client.Reply
import ResourceManager.Config.Settings
import ResourceManager.Operation.Spec
import ResourceManager.Token.Source
import ResourceManager.Url.Parser

/-!
# Clients

A client knows the address of the service and where its tokens come from.  Building one sends
nothing, but it refuses credentials of which a part is blank, and addresses that are no URLs.

`Client.exchange` is the one way to the service: it acquires a token, sends one request and reads
the reply.  Nothing is tried twice.
-/

set_option autoImplicit false

namespace ResourceManager

structure Client where
  endpoint : Url
  /-- The scope of the tokens. -/
  scope : String
  tokens : TokenSource
deriving DecidableEq, Repr

namespace Client

/-! ## Building clients -/

/-- How requests name their sender. -/
def product : String := "azsamples/0.3.0"

/-- The user agent, with what a user adds to it. -/
def userAgent (addition : Option String) : String :=
  match addition with
  | some more => product ++ " " ++ more
  | none => product

/-- A client with credentials that are taken as they are. -/
def build (addition : Option String) (credentials : Credentials)
    (authority endpoint scope : String) : Except Error Client :=
  if ¬ Headers.isFieldText (userAgent addition) then .error (.http .invalidHeader)
  else
    match Url.parse endpoint with
    | .error cause => .error (.url cause)
    | .ok url => .ok ⟨url, scope, ⟨credentials, authority, userAgent addition⟩⟩

/-- A client with credentials of which no part may be blank. -/
def new (addition : Option String) (credentials : Credentials)
    (authority endpoint scope : String) : Except Error Client :=
  if ¬ Headers.isFieldText (userAgent addition) then .error (.http .invalidHeader)
  else
    match credentials.emptyPart? with
    | some part => .error (.credential (.emptyField part))
    | none => build addition credentials authority endpoint scope

/-- The client that settings describe. -/
def ofSettings (s : Settings) : Except Error Client :=
  new s.userAgent s.credentials s.effectiveAuthority s.effectiveEndpoint s.cloud.tokenScope

/-- A description that keeps credentials to itself. -/
def description (c : Client) : String :=
  "ArmClient " ++ String.ofList ['\x7b'] ++ " endpoint: " ++ Text.quoted c.endpoint.text ++
    ", scope: " ++ Text.quoted c.scope ++ " " ++ String.ofList ['\x7d']

/-! ## Exchanges -/

/-- The request to the service with a token. -/
def request (c : Client) (token : AccessToken) (m : Method) (url : Url) (body : Option Json) :
    Request where
  method := m
  url := url
  userAgent := c.tokens.userAgent
  token := some token.secret
  payload := body.map .json

/-- The reply that an exchange brought. -/
def replyOf : Delivery → Except Error Reply
  | .failed cause => .error (.http cause)
  | .incomplete => .error (.http .incompleteBody)
  | .response r => Reply.ofResponse r

/-- One request to the service, with a token for it. -/
def exchange (c : Client) (w : Watch) (m : Method) (url : Url) (body : Option Json) :
    Run Reply := do
  let token ← c.tokens.token c.scope w
  Run.ofExcept (replyOf (← (c.request token m url body).send w))

/-- Submits an operation. -/
def submit (c : Client) (spec : OperationSpec) : Run Reply :=
  c.exchange .none spec.method (spec.url c.endpoint) spec.body

/-- Gets what is at a URL. -/
def getUrl (c : Client) (w : Watch) (url : Url) : Run Reply :=
  c.exchange w .get url none

end Client
end ResourceManager
