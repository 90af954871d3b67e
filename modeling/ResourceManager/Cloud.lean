import ResourceManager.Record
import ResourceManager.Text.Case

/-!
# Clouds

The clouds a subscription can live in, with the addresses of their management service and their
token authority.
-/

set_option autoImplicit false

namespace ResourceManager

inductive Cloud where
  | publicCloud
  | china
  | usGovernment
deriving DecidableEq, Repr, Inhabited

namespace Cloud

def all : List Cloud := [.publicCloud, .china, .usGovernment]

/-- The name of a cloud in settings. -/
def name : Cloud → String
  | .publicCloud => "public"
  | .china => "china"
  | .usGovernment => "usgovernment"

/-- The names under which a cloud is known, in lower case. -/
def aliases : Cloud → List String
  | .publicCloud => ["public", "azurepubliccloud", "azurecloud"]
  | .china => ["china", "azurechinacloud"]
  | .usGovernment => ["usgovernment", "azureusgovernmentcloud", "azureusgovernment"]

/-- The address of the management service. -/
def endpoint : Cloud → String
  | .publicCloud => "https://management.azure.com"
  | .china => "https://management.chinacloudapi.cn"
  | .usGovernment => "https://management.usgovcloudapi.net"

/-- The address of the token authority. -/
def authority : Cloud → String
  | .publicCloud => "https://login.microsoftonline.com"
  | .china => "https://login.chinacloudapi.cn"
  | .usGovernment => "https://login.microsoftonline.us"

/-- The scope of tokens for the management service. -/
def tokenScope (c : Cloud) : String :=
  c.endpoint ++ "/.default"

/-- The cloud of an alias in any case of its letters. -/
def ofAlias? (s : String) : Option Cloud :=
  all.find? fun c ↦ c.aliases.contains (Text.lowerAscii s)

/-- The cloud of a name as it is stored. -/
def ofName? (s : String) : Option Cloud :=
  all.find? fun c ↦ c.name == s

/-- The cloud of a name in any case of its letters. -/
def ofNameAnyCase? (s : String) : Option Cloud :=
  ofName? (Text.lowerAscii s)

theorem ofName?_name (c : Cloud) : ofName? c.name = some c := by
  cases c <;> decide

theorem name_of_ofName? {s : String} {c : Cloud} (h : ofName? s = some c) : c.name = s :=
  beq_iff_eq.mp (@List.find?_some _ (fun c : Cloud ↦ c.name == s) _ _ h)

/-- A cloud in data. -/
def decode? {α : Type} [Datum α] (a : α) : Option Cloud :=
  (Datum.alternative? a).bind ofName?

end Cloud
end ResourceManager
