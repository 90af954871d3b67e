import ResourceManager.Config.Basic
import ResourceManager.Json.Record
import ResourceManager.Json.Writer

/-!
# Configurations as records

How profiles and configurations are written as data; a field without a value is left out.  What
kind of data it is, is for a `Datum.Writer` to say, so that a JSON value and a JSON text come of the
same records.  In a value the members of an object are in the order of their names, in a text they
are in the order in which they are written.
-/

set_option autoImplicit false

namespace ResourceManager

/-! ## Writing data -/

namespace Datum

/-- How data of one kind is made of texts, of numbers, and of members under their names. -/
structure Writer (α : Type) where
  string : String → α
  natural : Nat → α
  object : List (String × α) → α

/-- A member that is left out when there is no value. -/
def optionalMember {α β : Type} (name : String) (f : α → β) : Option α → List (String × β)
  | some a => [(name, f a)]
  | none => []

end Datum

/-! ## Records -/

section Members

variable {α : Type} (w : Datum.Writer α)

/-- The members of a profile that hold its credentials. -/
def Credentials.members : Credentials → List (String × α)
  | clientSecret tenantId clientId secret =>
    [("tenant_id", w.string tenantId), ("client_id", w.string clientId),
      ("client_secret", w.string secret)]
  | accessToken token => [("access_token", w.string token)]

def PollSetting.members (s : PollSetting) : List (String × α) :=
  ("interval_secs", w.natural s.intervalSeconds) ::
    Datum.optionalMember "timeout_secs" w.natural s.timeoutSeconds

def PollSetting.write (s : PollSetting) : α := w.object (s.members w)

def Profile.members (p : Profile) : List (String × α) :=
  [("subscription_id", w.string p.subscriptionId)] ++
    Datum.optionalMember "resource_group" w.string p.resourceGroup ++
    [("location", w.string p.location), ("cloud", w.string p.cloud.name)] ++
    p.credentials.members w ++ Datum.optionalMember "poll" (PollSetting.write w) p.poll ++
    Datum.optionalMember "user_agent" w.string p.userAgent

def Profile.write (p : Profile) : α := w.object (p.members w)

def Config.members (c : Config) : List (String × α) :=
  Datum.optionalMember "default_profile" w.string c.defaultProfile ++
    [("profiles", w.object (c.profiles.map fun p ↦ (p.1, p.2.write w)))]

def Config.write (c : Config) : α := w.object (c.members w)

end Members

/-! ## The JSON form -/

namespace Json

/-- JSON values, with the members of an object in the order of their names. -/
def valueWriter : Datum.Writer Json := ⟨.string, fun n ↦ .integer n, .ofMembers⟩

/-- JSON values with the members of an object as they are to be written. -/
def textWriter : Datum.Writer Json := ⟨.string, fun n ↦ .integer n, .object⟩

end Json

def Profile.toJson (p : Profile) : Json := p.write Json.valueWriter

namespace Config

def toJson (c : Config) : Json := c.write Json.valueWriter

/-- The JSON text of a configuration. -/
def jsonText (c : Config) : List Char := (c.write Json.textWriter).write

/-- The configuration that a JSON text stands for. -/
def ofJsonText? (text : List Char) : Option Config := do
  decode? (← Json.Tree.ofSymbols? (text.map some))

end Config
end ResourceManager
