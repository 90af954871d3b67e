import ResourceManager.Config.Basic

/-!
# Settings

Everything that clients are built from.  Settings come from a profile with environment variables
laid over it, or from environment variables alone.
-/

set_option autoImplicit false

namespace ResourceManager

structure Settings where
  subscriptionId : String
  resourceGroup : Option String
  location : String
  cloud : Cloud
  credentials : Credentials
  poll : PollPolicy
  userAgent : Option String
  /-- An address of the management service in place of that of the cloud. -/
  endpoint : Option String
  /-- An address of the token authority in place of that of the cloud. -/
  authority : Option String
deriving DecidableEq, Repr

namespace Settings

/-- Settings with defaults for all that is not needed. -/
def new (subscriptionId : String) (credentials : Credentials) : Settings :=
  ⟨subscriptionId, none, defaultLocation, .publicCloud, credentials, .default, none, none, none⟩

/-- The address of the management service. -/
def effectiveEndpoint (s : Settings) : String :=
  s.endpoint.getD s.cloud.endpoint

/-- The address of the token authority. -/
def effectiveAuthority (s : Settings) : String :=
  s.authority.getD s.cloud.authority

/-! ## Variables -/

def subscriptionVariable : String := "AZURE_SUBSCRIPTION_ID"

def groupVariable : String := "AZURE_BASE_GROUP_NAME"

def locationVariable : String := "AZURE_LOCATION_DEFAULT"

def cloudVariable : String := "AZURE_ENVIRONMENT"

def tokenVariable : String := "AZURE_ACCESS_TOKEN"

/-- The default resource group, which a caller needs. -/
def requireResourceGroup (s : Settings) : Except ConfigError String :=
  match s.resourceGroup with
  | some group => .ok group
  | none => .error (.missingSetting "resource_group" groupVariable)

/-- A variable that has to be set. -/
def required (e : Environment) (variableName name : String) : Except ConfigError String :=
  match e.value? variableName with
  | some value => .ok value
  | none => .error (.missingSetting name variableName)

/-- The cloud that the environment names, else the given one. -/
def cloudOr (e : Environment) (cloud : Cloud) : Except ConfigError Cloud :=
  match e.value? cloudVariable with
  | some name => Cloud.parse name
  | none => .ok cloud

/-- The credentials that the environment holds; a token comes before a secret. -/
def credentialsOf (e : Environment) : Except ConfigError Credentials :=
  match e.value? tokenVariable with
  | some token => .ok (.accessToken token)
  | none => do
    let tenantId ← required e "AZURE_TENANT_ID" "tenant_id"
    let clientId ← required e "AZURE_CLIENT_ID" "client_id"
    let secret ← required e "AZURE_CLIENT_SECRET" "client_secret"
    return .clientSecret tenantId clientId secret

/-- Settings from environment variables alone. -/
def ofEnvironment (e : Environment) : Except ConfigError Settings := do
  let subscriptionId ← required e subscriptionVariable "subscription_id"
  let credentials ← credentialsOf e
  let cloud ← cloudOr e .publicCloud
  return { new subscriptionId credentials with
    resourceGroup := e.value? groupVariable
    location := (e.value? locationVariable).getD defaultLocation
    cloud := cloud }

/-- Settings from a profile with environment variables laid over it. -/
def ofProfile (e : Environment) (p : Profile) : Except ConfigError Settings := do
  let subscriptionId ← Credentials.resolveValue e subscriptionVariable p.subscriptionId
  let credentials ← p.credentials.resolve e
  let cloud ← cloudOr e p.cloud
  return { new subscriptionId credentials with
    resourceGroup := (e.value? groupVariable).or p.resourceGroup
    location := (e.value? locationVariable).getD p.location
    cloud := cloud
    poll := (p.poll.map PollSetting.toPolicy).getD .default
    userAgent := p.userAgent }

/-- Settings from the profile to use in a configuration; the path is that of the configuration. -/
def resolve (e : Environment) (c : Config) (path : String) (explicit : Option String) :
    Except ConfigError Settings := do
  let name ← c.resolveProfile path explicit
  match c.profile? name with
  | some p => ofProfile e p
  | none => throw (.profileNotFound name)

end Settings
end ResourceManager
