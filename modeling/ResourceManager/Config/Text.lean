import ResourceManager.Config.Basic
import ResourceManager.Toml.Reader
import ResourceManager.Toml.Writer

/-!
# Configurations as text

The text of a configuration file: the default profile, then a table for each profile with its poll
setting as a table of its own behind it.
-/

set_option autoImplicit false

namespace ResourceManager

/-- A line that is left out when there is no value. -/
def Toml.optionalLine {α : Type} (line : α → List Char) : Option α → List Char
  | some a => line a
  | none => []

namespace Credentials

def lines : Credentials → List Char
  | clientSecret tenantId clientId secret =>
    Toml.stringLine "tenant_id" tenantId ++ Toml.stringLine "client_id" clientId ++
      Toml.stringLine "client_secret" secret
  | accessToken token => Toml.stringLine "access_token" token

end Credentials

namespace Profile

/-- The lines of the table of a poll setting, behind an empty line. -/
def pollLines (path : List String) (s : PollSetting) : List Char :=
  '\n' :: (Toml.headerLine (path ++ ["poll"]) ++
    Toml.numberLine "interval_secs" s.intervalSeconds ++
    Toml.optionalLine (Toml.numberLine "timeout_secs") s.timeoutSeconds)

/-- The lines of the table of a profile. -/
def lines (name : String) (p : Profile) : List Char :=
  let path := ["profiles", name]
  Toml.headerLine path ++ Toml.stringLine "subscription_id" p.subscriptionId ++
    Toml.optionalLine (Toml.stringLine "resource_group") p.resourceGroup ++
    Toml.stringLine "location" p.location ++ Toml.stringLine "cloud" p.cloud.name ++
    p.credentials.lines ++ Toml.optionalLine (Toml.stringLine "user_agent") p.userAgent ++
    Toml.optionalLine (pollLines path) p.poll

end Profile

namespace Config

/-- The tables of the profiles with empty lines between them. -/
def profileLines (c : Config) : List Char :=
  match c.profiles with
  | [] => Toml.headerLine ["profiles"]
  | profiles => ((profiles.map fun p ↦ Profile.lines p.1 p.2).intersperse ['\n']).flatten

/-- The text of a configuration. -/
def text (c : Config) : List Char :=
  match c.defaultProfile with
  | some name => Toml.stringLine "default_profile" name ++ '\n' :: c.profileLines
  | none => c.profileLines

/-- The configuration that a text stands for. -/
def ofText? (text : List Char) : Option Config := do
  decode? (← Toml.parse? text)

end Config
end ResourceManager
