import ResourceManager.Config.Profile
import ResourceManager.Json.Value

/-!
# Configurations

The profiles of a user, in order of their names, and which of them is used when none is asked for.
-/

set_option autoImplicit false

namespace ResourceManager

structure Config where
  defaultProfile : Option String
  /-- Each name occurs once, and the names are in order. -/
  profiles : List (String × Profile)
deriving DecidableEq, Repr

namespace Config

def empty : Config := ⟨none, []⟩

def profile? (c : Config) (name : String) : Option Profile :=
  c.profiles.lookup name

/-- The names of the profiles, in order. -/
def names (c : Config) : List String :=
  c.profiles.map (·.1)

/-- Adds a profile or replaces the one of the same name. -/
def setProfile (c : Config) (name : String) (p : Profile) : Config :=
  { c with profiles := Json.insertMember name p c.profiles }

/-- Removes a profile; it is no longer the default then. -/
def removeProfile (c : Config) (name : String) : Config :=
  { defaultProfile := c.defaultProfile.filter (· ≠ name)
    profiles := c.profiles.filter (·.1 != name) }

/-- Removes a profile and returns it. -/
def takeProfile (c : Config) (name : String) : Option Profile × Config :=
  (c.profile? name, c.removeProfile name)

/-- The name of the profile to use: the one that is asked for, else the default, else the first.
The default is not looked up here. -/
def resolveProfile (c : Config) (path : String) (explicit : Option String) :
    Except ConfigError String :=
  match explicit with
  | some name => if (c.profile? name).isSome then .ok name else .error (.profileNotFound name)
  | none =>
    match c.defaultProfile, c.names with
    | some name, _ => .ok name
    | none, name :: _ => .ok name
    | none, [] => .error (.noProfiles path)

/-! ## Reading -/

/-- Reads the profiles of a configuration. -/
def profiles? {α : Type} [Datum α] (a : α) : Option (List (String × Profile)) := do
  match ← Datum.layout? a with
  | .positional _ => none
  | .named members =>
    let profiles ← members.mapM fun m ↦ (Profile.decode? m.2).map (m.1, ·)
    return Json.sortMembers profiles

/-- Reads a configuration. -/
def decode? {α : Type} [Datum α] (a : α) : Option Config := do
  let fields : List Field := [⟨"default_profile", .defaulted⟩, ⟨"profiles", .defaulted⟩]
  match ← (← Datum.layout? a).slots? fields with
  | [defaultProfile, profiles] =>
    return ⟨← Datum.optional? Datum.string? defaultProfile,
      ← Datum.withDefault? profiles? [] profiles⟩
  | _ => none

end Config
end ResourceManager
