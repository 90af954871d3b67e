import ResourceManager.Config.Error
import ResourceManager.Text.Pieces
import ResourceManager.Text.Utf8

/-!
# Files

The files and directories that configurations are kept in.  A path is absolute and written with
slashes.
-/

set_option autoImplicit false

namespace ResourceManager

/-- What is at a path. -/
inductive FileNode where
  | directory
  | file (content : Bytes)
deriving DecidableEq, Repr

/-- The parts of a path. -/
abbrev PathParts := List String

structure Files where
  nodes : List (PathParts × FileNode)
deriving Repr

namespace Files

def empty : Files := ⟨[]⟩

/-- The parts of a path between its slashes. -/
def partsOf (path : String) : PathParts :=
  ((Text.pieces (· == '/') path.toList).filter fun p ↦ p ≠ [] ∧ p ≠ ['.']).map String.ofList

/-- The path of parts. -/
def pathOf (parts : PathParts) : String :=
  if parts = [] then "/" else String.join (parts.map ("/" ++ ·))

/-- What is at a path; the root is always a directory. -/
def node? (f : Files) (parts : PathParts) : Option FileNode :=
  if parts = [] then some .directory else f.nodes.lookup parts

def isFile (f : Files) (parts : PathParts) : Bool :=
  match f.node? parts with
  | some (.file _) => true
  | _ => false

/-- Puts something at a path. -/
def put (f : Files) (parts : PathParts) (n : FileNode) : Files :=
  ⟨(parts, n) :: f.nodes.filter (·.1 != parts)⟩

/-- The paths on the way to a path, the path itself last. -/
def prefixes (parts : PathParts) : List PathParts :=
  (List.range parts.length).map fun n ↦ parts.take (n + 1)

/-- Makes a directory and those above it.  A file in its place is in the way, and so is a file above
it. -/
def makeDirectory (f : Files) (parts : PathParts) : Except FileError Files :=
  if f.isFile parts then .error .alreadyExists
  else if (prefixes parts).any f.isFile then .error .notDirectory
  else .ok ((prefixes parts).foldl (fun f p ↦ f.put p .directory) f)

/-- The content of a file; none when there is nothing at the path. -/
def read (f : Files) (parts : PathParts) : Except FileError (Option Bytes) :=
  match f.node? parts with
  | none => .ok none
  | some .directory => .error .isDirectory
  | some (.file content) => .ok (some content)

/-- Writes a file into a directory that is there. -/
def write (f : Files) (parts : PathParts) (content : Bytes) : Except FileError Files :=
  match f.node? parts with
  | some .directory => .error .isDirectory
  | _ => .ok (f.put parts (.file content))

end Files
end ResourceManager
