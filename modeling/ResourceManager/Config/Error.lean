import ResourceManager.Cloud

/-!
# Errors of configuration

What can be wrong with a configuration file, a profile or a setting, and the text that says so.
-/

set_option autoImplicit false

namespace ResourceManager

/-- Why a file cannot be read or written. -/
inductive FileError where
  | invalidData
  | isDirectory
  | notDirectory
  | alreadyExists
deriving DecidableEq, Repr

namespace FileError

def message : FileError → String
  | invalidData => "stream did not contain valid UTF-8"
  | isDirectory => "Is a directory"
  | notDirectory => "Not a directory"
  | alreadyExists => "File exists"

end FileError

inductive ConfigError where
  | load (path : String) (cause : FileError)
  | save (path : String) (cause : FileError)
  /-- The text of a file is no configuration. -/
  | malformed
  | profileNotFound (name : String)
  /-- There is no profile; the file at the path could hold one. -/
  | noProfiles (path : String)
  /-- Neither the profile nor the environment variable gives the setting. -/
  | missingSetting (name variableName : String)
  | unknownCloud (name : String)
  /-- A value refers to a keyring, and there is none. -/
  | keyringReference (key : String)
  /-- A part of the credentials cannot be resolved. -/
  | unresolved (part : String) (cause : ConfigError)
deriving DecidableEq, Repr

namespace ConfigError

def message : ConfigError → String
  | load path cause => "Failed to load config from " ++ path ++ ": " ++ cause.message
  | save path cause => "Failed to save config to " ++ path ++ ": " ++ cause.message
  | malformed => "Failed to parse config: the text is not a configuration"
  | profileNotFound name => "Profile '" ++ name ++ "' not found"
  | noProfiles path =>
    "No profiles configured. Add a [profiles.<name>] table to " ++ path ++
      " or set AZURE_* environment variables."
  | missingSetting name variableName =>
    "Missing required setting '" ++ name ++ "' (set " ++ variableName ++
      " or add it to the profile)"
  | unknownCloud name => "Invalid value for 'cloud': unknown Azure cloud '" ++ name ++ "'"
  | keyringReference key =>
    "Failed to resolve credential: '" ++ key ++
      "' references the keyring but the secure-storage feature is not enabled"
  | unresolved part cause =>
    "Failed to resolve credential: Failed to resolve " ++ part ++ ": " ++ cause.message

end ConfigError

namespace Cloud

/-- The cloud that a setting names. -/
def parse (s : String) : Except ConfigError Cloud :=
  match ofAlias? s with
  | some c => .ok c
  | none => .error (.unknownCloud (Text.lowerAscii s))

end Cloud
end ResourceManager
