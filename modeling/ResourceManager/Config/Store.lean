import ResourceManager.Config.Text
import ResourceManager.Environment.Expansion
import ResourceManager.Files

/-!
# Configuration files

Where a configuration is kept, how it is loaded and how it is saved.  References to variables are
replaced in the text before it is read, so they may stand anywhere in it, and what a variable holds
is read as if it had been written there.
-/

set_option autoImplicit false

namespace ResourceManager
namespace Config

/-- The directory of configurations, when the variable for it names one. -/
def configHome? (e : Environment) : Option String :=
  (e.lookup? "XDG_CONFIG_HOME").filter fun path ↦ path.toList.head? == some '/'

/-- The path of the configuration of the user. -/
def standardPath (e : Environment) : String :=
  let home := match configHome? e with
    | some path => path
    | none => (e.lookup? "HOME").getD "" ++ "/.config"
  Files.pathOf (Files.partsOf home ++ ["azsamples", "config.toml"])

/-- The configuration that the bytes of a file stand for. -/
def ofFile (e : Environment) (path : String) (content : Bytes) : Except ConfigError Config :=
  match Utf8.decode? content with
  | none => .error (.load path .invalidData)
  | some text =>
    match ofText? (e.expand text) with
    | some c => .ok c
    | none => .error .malformed

/-- Loads a configuration; where there is no file it is empty. -/
def load (e : Environment) (f : Files) (path : String) : Except ConfigError Config :=
  match f.read (Files.partsOf path) with
  | .error cause => .error (.load path cause)
  | .ok none => .ok empty
  | .ok (some content) => ofFile e path content

/-- The bytes that a configuration is saved as. -/
def toFile (c : Config) : Bytes :=
  Utf8.encode c.text

/-- Saves a configuration, in a directory that is made when it is not there. -/
def save (c : Config) (f : Files) (path : String) : Except ConfigError Files :=
  let parts := Files.partsOf path
  let parent := parts.dropLast
  match f.makeDirectory parent with
  | .error cause => .error (.save (Files.pathOf parent) cause)
  | .ok f =>
    match f.write parts c.toFile with
    | .error cause => .error (.save path cause)
    | .ok f => .ok f

end Config
end ResourceManager
