import ResourceManager.Config.Credentials
import ResourceManager.Duration

/-!
# Profiles

A named set of settings: the subscription, the cloud it lives in, credentials, defaults for new
resources, and how to wait for operations.

`Profile.decode?` reads a profile from data.  Credentials are fields of the profile itself: those of
an application when all three are there, else a token.
-/

set_option autoImplicit false

namespace ResourceManager

/-! ## Waiting for operations -/

/-- How often to look after an operation, and when to give up. -/
structure PollPolicy where
  interval : Duration
  timeout : Option Duration
deriving DecidableEq, Repr, Inhabited

namespace PollPolicy

/-- Seconds between two looks when nothing is said. -/
def defaultSeconds : Nat := 30

/-- The policy when nothing is said: look every half minute and never give up. -/
def default : PollPolicy := ⟨Duration.ofSeconds defaultSeconds, none⟩

end PollPolicy

/-- The policy as a profile stores it, in seconds. -/
structure PollSetting where
  intervalSeconds : Nat
  timeoutSeconds : Option Nat
deriving DecidableEq, Repr

namespace PollSetting

def toPolicy (s : PollSetting) : PollPolicy :=
  ⟨Duration.ofSeconds s.intervalSeconds, s.timeoutSeconds.map Duration.ofSeconds⟩

def decode? {α : Type} [Datum α] (a : α) : Option PollSetting := do
  let fields : List Field := [⟨"interval_secs", .defaulted⟩, ⟨"timeout_secs", .defaulted⟩]
  match ← (← Datum.layout? a).slots? fields with
  | [interval, timeout] =>
    return ⟨← Datum.withDefault? Datum.natural? PollPolicy.defaultSeconds interval,
      ← Datum.optional? Datum.natural? timeout⟩
  | _ => none

end PollSetting

/-! ## Profiles -/

/-- The location of new resources when nothing is said. -/
def defaultLocation : String := "westus2"

structure Profile where
  subscriptionId : String
  resourceGroup : Option String
  location : String
  cloud : Cloud
  credentials : Credentials
  poll : Option PollSetting
  userAgent : Option String
deriving DecidableEq, Repr

namespace Profile

/-- A profile with defaults for all that is not needed. -/
def new (subscriptionId : String) (credentials : Credentials) : Profile :=
  ⟨subscriptionId, none, defaultLocation, .publicCloud, credentials, none, none⟩

/-! ## Reading -/

/-- The fields of a profile other than its credentials. -/
def fields : List Field :=
  [⟨"subscription_id", .required⟩, ⟨"resource_group", .defaulted⟩, ⟨"location", .defaulted⟩,
    ⟨"cloud", .defaulted⟩, ⟨"poll", .defaulted⟩, ⟨"user_agent", .defaulted⟩]

/-- The text of a field that is there once. -/
def textOf? {α : Type} [Datum α] (members : List (String × α)) (name : String) : Option String :=
  match members.filter (·.1 == name) with
  | [field] => Datum.string? field.2
  | _ => none

/-- The credentials among the fields of a profile. -/
def credentials? {α : Type} [Datum α] (members : List (String × α)) : Option Credentials :=
  match textOf? members "tenant_id", textOf? members "client_id",
    textOf? members "client_secret" with
  | some tenantId, some clientId, some secret => some (.clientSecret tenantId clientId secret)
  | _, _, _ => (textOf? members "access_token").map .accessToken

/-- Reads a profile. -/
def decode? {α : Type} [Datum α] (a : α) : Option Profile := do
  match ← Datum.layout? a with
  | .positional _ => none
  | .named members =>
    let others := members.filter fun m ↦ !fields.any (·.name == m.1)
    if !others.all (Datum.isIgnorable ·.2) then none
    match ← (Layout.named members).slots? fields with
    | [subscriptionId, resourceGroup, location, cloud, poll, userAgent] =>
      return {
        subscriptionId := ← Datum.string? (← subscriptionId)
        resourceGroup := ← Datum.optional? Datum.string? resourceGroup
        location := ← Datum.withDefault? Datum.string? defaultLocation location
        cloud := ← Datum.withDefault? Cloud.decode? .publicCloud cloud
        credentials := ← credentials? others
        poll := ← Datum.optional? PollSetting.decode? poll
        userAgent := ← Datum.optional? Datum.string? userAgent }
    | _ => none

end Profile
end ResourceManager
