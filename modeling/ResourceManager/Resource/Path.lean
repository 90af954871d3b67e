import ResourceManager.Text.Percent

/-!
# Resource paths

A path addresses a resource by alternating fixed words, such as the name of a collection, and
names given by the caller.  A name is escaped, so that it is one segment whatever it holds; a
fixed word is written as it is.
-/

set_option autoImplicit false

namespace ResourceManager

/-- One segment of a resource path. -/
inductive PathSegment where
  /-- The name of a collection, an action or a provider. -/
  | fixed (text : String)
  /-- A name given by the caller. -/
  | named (value : String)
deriving DecidableEq, Repr

namespace PathSegment

/-- The segment as it stands in the path. -/
def text : PathSegment → String
  | fixed text => text
  | named value => Percent.encodeSegment value

end PathSegment

/-- The path of a resource, a collection or an action on them. -/
structure ResourcePath where
  segments : List PathSegment
deriving DecidableEq, Repr

namespace ResourcePath

def append (p : ResourcePath) (more : List PathSegment) : ResourcePath :=
  ⟨p.segments ++ more⟩

/-- A fixed word below a path. -/
def literal (p : ResourcePath) (text : String) : ResourcePath :=
  p.append [.fixed text]

/-- A name below a path. -/
def segment (p : ResourcePath) (value : String) : ResourcePath :=
  p.append [.named value]

/-- A named member of a collection. -/
def child (p : ResourcePath) (collection name : String) : ResourcePath :=
  (p.literal collection).segment name

/-- The path of a subscription. -/
def subscription (id : String) : ResourcePath :=
  (⟨[]⟩ : ResourcePath).child "subscriptions" id

/-- A resource group of a subscription. -/
def resourceGroup (p : ResourcePath) (name : String) : ResourcePath :=
  p.child "resourceGroups" name

/-- The resources of a provider. -/
def provider (p : ResourcePath) (providerName : String) : ResourcePath :=
  (p.literal "providers").literal providerName

def toList (p : ResourcePath) : List Char :=
  p.segments.flatMap fun s ↦ '/' :: s.text.toList

/-- The text of a path: a slash before every segment. -/
def text (p : ResourcePath) : String :=
  String.ofList p.toList

end ResourcePath
end ResourceManager
