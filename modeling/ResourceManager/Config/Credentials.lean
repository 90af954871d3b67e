import ResourceManager.Config.Error
import ResourceManager.Environment.Basic
import ResourceManager.Text.Quoted
import ResourceManager.Text.Whitespace

/-!
# Credentials

What a call proves its right with: the secret of an application, for which tokens are requested, or
a token that is used as it is.

In a profile a value may be overridden by an environment variable, and may refer to a keyring.  No
keyring is at hand, so a reference that no variable overrides is an error.
-/

set_option autoImplicit false

namespace ResourceManager

inductive Credentials where
  | clientSecret (tenantId clientId secret : String)
  | accessToken (token : String)
deriving DecidableEq, Repr

namespace Credentials

/-- A description that keeps secrets to itself. -/
def description : Credentials → String
  | clientSecret tenantId clientId _ =>
    "ClientSecret " ++ String.ofList ['\x7b'] ++ " tenant_id: " ++ Text.quoted tenantId ++
      ", client_id: " ++ Text.quoted clientId ++ ", client_secret: \"<redacted>\" " ++
      String.ofList ['\x7d']
  | accessToken _ => "AccessToken(\"<redacted>\")"

/-- The mark of a reference to a keyring. -/
def keyringMark : String := "keyring:"

/-- The key that a value refers to. -/
def keyringKey? (value : String) : Option String :=
  if keyringMark.toList.isPrefixOf value.toList then
    some (String.ofList (value.toList.drop keyringMark.length))
  else none

/-- The value of a setting of a profile: what the variable says, else the value itself. -/
def resolveValue (e : Environment) (variableName value : String) : Except ConfigError String :=
  match e.value? variableName, keyringKey? value with
  | some override, _ => .ok override
  | none, some key => .error (.keyringReference key)
  | none, none => .ok value

/-- The value of a part of the credentials. -/
def resolvePart (e : Environment) (part variableName value : String) : Except ConfigError String :=
  match resolveValue e variableName value with
  | .ok v => .ok v
  | .error cause => .error (.unresolved part cause)

/-- The credentials of a profile with every part resolved, in order. -/
def resolve (e : Environment) : Credentials → Except ConfigError Credentials
  | clientSecret tenantId clientId secret => do
    let tenantId ← resolvePart e "tenant id" "AZURE_TENANT_ID" tenantId
    let clientId ← resolvePart e "client id" "AZURE_CLIENT_ID" clientId
    let secret ← resolvePart e "client secret" "AZURE_CLIENT_SECRET" secret
    return clientSecret tenantId clientId secret
  | accessToken token => do
    return accessToken (← resolvePart e "access token" "AZURE_ACCESS_TOKEN" token)

/-- The first part of credentials that holds nothing but white space. -/
def emptyPart? : Credentials → Option String
  | accessToken token => if isBlank token then some "access token" else none
  | clientSecret tenantId clientId secret =>
    ([("tenant_id", tenantId), ("client_id", clientId), ("client_secret", secret)].find? fun part ↦
      isBlank part.2).map (·.1)
where
  isBlank (s : String) : Bool := s.toList.all Text.isWhitespace

end Credentials
end ResourceManager
