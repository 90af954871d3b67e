import ResourceManager.Config.Error
import ResourceManager.Duration
import ResourceManager.Http.Status
import ResourceManager.Json.Record
import ResourceManager.Json.Writer
import ResourceManager.Text.Whitespace
import ResourceManager.Url.Basic

/-!
# Errors

Everything a call can end with other than a result.  An error says its cause; `Error.message` words
it, and the predicates at the end sort errors into the classes that callers tell apart.

A failed response carries what its error envelope says.  `ServiceError.ofResponse` fills in the
reason phrase of the status and the text of the body for what the envelope does not say.
-/

set_option autoImplicit false

namespace ResourceManager

/-! ## Error details -/

/-- The code and the message of an error as the service words it. -/
structure ErrorDetail where
  code : Option String
  message : Option String
deriving DecidableEq, Repr, Inhabited

namespace ErrorDetail

/-- A detail that says nothing. -/
def empty : ErrorDetail := ⟨none, none⟩

/-- Reads an error detail. -/
def decode? {α : Type} [Datum α] (a : α) : Option ErrorDetail := do
  match ← (← Datum.layout? a).slots? [⟨"code", .defaulted⟩, ⟨"message", .defaulted⟩] with
  | [code, message] =>
    return ⟨← Datum.optional? Datum.string? code, ← Datum.optional? Datum.string? message⟩
  | _ => none

/-- The detail in an error envelope, an object with the member `error`. -/
def ofEnvelope? {α : Type} [Datum α] (a : α) : Option (Option ErrorDetail) := do
  match ← (← Datum.layout? a).slots? [⟨"error", .nullable⟩] with
  | [error] => Datum.optional? decode? error
  | _ => none

end ErrorDetail

/-! ## Causes -/

/-- A response that reports no success. -/
structure ServiceError where
  status : Nat
  code : String
  message : String
deriving DecidableEq, Repr

/-- The end of an operation that did not succeed. -/
structure OperationFailure where
  status : String
  code : String
  message : String
deriving DecidableEq, Repr

/-- Why an exchange brought no response. -/
inductive TransportError where
  /-- The connection could not be made, or was closed before a response came. -/
  | noResponse
  /-- The body ended before its declared length. -/
  | incompleteBody
  | tooManyRedirects
  | unsupportedScheme
  | invalidHeader
  | invalidHost
  | invalidUrl (cause : UrlError)
deriving DecidableEq, Repr

namespace TransportError

def message : TransportError → String
  | noResponse => "no response"
  | incompleteBody => "the body is incomplete"
  | tooManyRedirects => "too many redirects"
  | unsupportedScheme => "the URL scheme is not supported"
  | invalidHeader => "a header value is not valid"
  | invalidHost => "the host is not valid"
  | invalidUrl cause => cause.message

end TransportError

/-- Why there is no token. -/
inductive CredentialError where
  | emptyField (name : String)
  | requestFailed (cause : TransportError)
  | unreadable (cause : TransportError)
  | malformed
  | rejected (status : Nat) (detail : String)
  /-- A reason in the words of a caller. -/
  | described (reason : String)
deriving DecidableEq, Repr

namespace CredentialError

def message : CredentialError → String
  | emptyField name => name ++ " is empty"
  | requestFailed cause => "Token request failed: " ++ cause.message
  | unreadable cause => "Token response unreadable: " ++ cause.message
  | malformed => "Malformed token response: the fields of a token are missing"
  | rejected status detail => "Token request rejected (" ++ toString status ++ "): " ++ detail
  | described reason => reason

end CredentialError

/-- What is wrong with a response that is JSON. -/
inductive ResponseDefect where
  | missingStatus
  | itemsNotArray (items : Json)
  | notListing (body : Json)
  /-- A defect in the words of a caller. -/
  | described (reason : String)
deriving BEq, Repr

namespace ResponseDefect

def message : ResponseDefect → String
  | missingStatus => "operation status response has no 'status' field"
  | itemsNotArray items => "list 'value' is not an array: " ++ items.text
  | notListing body => "unexpected list response: " ++ body.text
  | described reason => reason

end ResponseDefect

inductive Error where
  | config (cause : ConfigError)
  | credential (cause : CredentialError)
  | http (cause : TransportError)
  | service (error : ServiceError)
  | operationFailed (failure : OperationFailure)
  | pollTimeout (limit : Duration)
  | canceled
  | invalidResponse (defect : ResponseDefect)
  | invalidResourceId (id : String)
  /-- A body is not JSON. -/
  | json
  | url (cause : UrlError)
deriving BEq, Repr

namespace Error

def message : Error → String
  | config cause => "Configuration error: " ++ cause.message
  | credential cause => "Credential error: " ++ cause.message
  | http cause => "HTTP error: " ++ cause.message
  | service e => "Service error (" ++ toString e.status ++ ") " ++ e.code ++ ": " ++ e.message
  | operationFailed f => "Operation " ++ f.status ++ ": " ++ f.code ++ ": " ++ f.message
  | pollTimeout limit => "Operation did not complete within " ++ limit.text
  | canceled => "Operation wait was canceled"
  | invalidResponse defect => "Invalid response: " ++ defect.message
  | invalidResourceId id => "Invalid resource id: '" ++ id ++ "'"
  | json => "JSON error: the text is not JSON"
  | url cause => "Invalid URL: " ++ cause.message

/-! ## Classes of errors -/

/-- The status of the response, for an error that is one. -/
def status? : Error → Option Nat
  | service e => some e.status
  | _ => none

def isNotFound (e : Error) : Bool := e.status? == some 404

def isUnauthorized (e : Error) : Bool :=
  match e with
  | credential _ => true
  | _ => e.status? == some 401 || e.status? == some 403

def isConflict (e : Error) : Bool := e.status? == some 409 || e.status? == some 412

def isBadRequest (e : Error) : Bool := e.status? == some 400

def isServerError (e : Error) : Bool := e.status?.any fun s ↦ 500 ≤ s && s ≤ 599

def isThrottled (e : Error) : Bool := e.status? == some 429

def isCanceled : Error → Bool
  | canceled => true
  | _ => false

def isTimeout : Error → Bool
  | pollTimeout _ => true
  | _ => false

end Error

/-! ## Failed responses -/

namespace ServiceError

/-- The code of a response that does not name one. -/
def defaultCode (status : Nat) : String :=
  (HttpStatus.reason? status).getD "HttpError"

/-- The message of a response that does not give one: its text. -/
def defaultMessage (body : Bytes) : String :=
  String.ofList (Text.trim (Utf8.decodeLossy body))

/-- The detail that the envelope in a body gives. -/
def detail (body : Bytes) : ErrorDetail :=
  (((Json.Tree.ofBytes? body).bind ErrorDetail.ofEnvelope?).bind id).getD .empty

/-- The error that a failed response reports. -/
def ofResponse (status : Nat) (body : Bytes) : ServiceError :=
  let d := detail body
  { status := status
    code := d.code.getD (defaultCode status)
    message := d.message.getD (defaultMessage body) }

end ServiceError
end ResourceManager
