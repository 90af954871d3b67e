import ResourceManager.Listing.Pager
import ResourceManager.Operation.Wait
import ResourceManager.Resource.Path

/-!
# Operations of the catalogue

The catalogue describes each operation of the service as data: its method, the template of its path,
what a caller hands over besides the names in the path, and what the caller gets back.

`Operation.spec` makes the call of an operation from the subscription, the names and what is handed
over besides; `Operation.call` carries it out.
-/

set_option autoImplicit false

namespace ResourceManager

/-- A provider of resources and the version of its interface. -/
structure Service where
  provider : String
  apiVersion : String
deriving DecidableEq, Repr

namespace Service

def compute : Service := ⟨"Microsoft.Compute", "2024-07-01"⟩

def storage : Service := ⟨"Microsoft.Storage", "2023-05-01"⟩

end Service

/-! ## Path templates -/

/-- One segment of a path template. -/
inductive TemplateSegment where
  | fixed (text : String)
  /-- The place of a name. -/
  | name
deriving DecidableEq, Repr

abbrev Template := List TemplateSegment

namespace Template

/-- The segments with names in their places; a name that is missing is empty. -/
def fill : Template → List String → List PathSegment
  | [], _ => []
  | .fixed text :: rest, names => .fixed text :: fill rest names
  | .name :: rest, value :: names => .named value :: fill rest names
  | .name :: rest, [] => .named "" :: fill rest []

/-- How many names a template takes. -/
def names (t : Template) : Nat := t.count .name

/-- A fixed word and a name behind it. -/
def child (collection : String) : Template := [.fixed collection, .name]

/-- The resources of a provider in a subscription. -/
def ofSubscription (s : Service) : Template :=
  child "subscriptions" ++ [.fixed "providers", .fixed s.provider]

/-- The resources of a provider in a resource group. -/
def ofGroup (s : Service) : Template :=
  child "subscriptions" ++ child "resourceGroups" ++ [.fixed "providers", .fixed s.provider]

end Template

/-! ## What is handed over -/

/-- The two keys of a storage account. -/
inductive StorageKey where
  | key1
  | key2
deriving DecidableEq, Repr

namespace StorageKey

def name : StorageKey → String
  | key1 => "key1"
  | key2 => "key2"

end StorageKey

/-- The value of a query pair. -/
inductive QueryValue where
  | text (s : String)
  | number (n : Nat)
deriving DecidableEq, Repr

namespace QueryValue

def toText : QueryValue → String
  | text s => s
  | number n => toString n

end QueryValue

/-- What a caller hands over besides the names in the path. -/
inductive Extra where
  | nothing
  | body
  | optionalBody
  /-- Query pairs of the given names, each of which may be left out. -/
  | query (names : List String)
  /-- The numbers of instances. -/
  | instances
  | storageKey
  /-- The name of a storage account that may be free. -/
  | accountName
deriving DecidableEq, Repr

namespace Extra

/-- The type of what is handed over. -/
abbrev Value : Extra → Type
  | nothing => Unit
  | body => Json
  | optionalBody => Option Json
  | query _ => List (Option QueryValue)
  | instances => List String
  | storageKey => StorageKey
  | accountName => String

/-- The call with what is handed over. -/
def add (spec : OperationSpec) : (x : Extra) → x.Value → OperationSpec
  | nothing, _ => spec
  | body, value => spec.withBody value
  | optionalBody, value => spec.withOptionalBody value
  | query names, values =>
    (names.zip values).foldl (fun spec pair ↦
      spec.withOptionalQuery pair.1 (pair.2.map QueryValue.toText)) spec
  | instances, ids => spec.withBody (.ofMembers [("instanceIds", .array (ids.map .string))])
  | storageKey, key => spec.withBody (.ofMembers [("keyName", .string key.name)])
  | accountName, name =>
    spec.withBody (.ofMembers
      [("name", .string name), ("type", .string "Microsoft.Storage/storageAccounts")])

end Extra

/-! ## What comes back -/

/-- What a caller is interested in. -/
inductive ResultKind where
  | nothing
  | resourceId
  | payload
  /-- The items of a listing. -/
  | items
deriving DecidableEq, Repr

/-- The result of an operation. -/
inductive CallResult where
  | nothing
  | resourceId (id : String)
  | payload (value : Json)
  | items (list : List Json)
deriving BEq, Repr

/-! ## Operations -/

structure Operation where
  service : Service
  method : Method
  path : Template
  extra : Extra
  longRunning : Bool
  result : ResultKind
deriving DecidableEq, Repr

namespace Operation

/-- The names of an operation in its path, without the subscription. -/
def names (op : Operation) : Nat := op.path.names - 1

/-- The path of an operation. -/
def pathOf (op : Operation) (subscription : String) (names : List String) : ResourcePath :=
  ⟨op.path.fill (subscription :: names)⟩

/-- The call of an operation. -/
def spec (op : Operation) (subscription : String) (names : List String) (value : op.extra.Value) :
    OperationSpec :=
  let spec := OperationSpec.new op.method (op.pathOf subscription names).text op.service.apiVersion
  op.extra.add (if op.longRunning then spec.asLongRunning else spec) value

/-- What a caller gets of a completed call. -/
def resultOf (op : Operation) (completion : Completion) : CallResult :=
  match op.result with
  | .resourceId => .resourceId completion.resourceId
  | .payload => .payload completion.payload
  | _ => .nothing

/-- Carries out an operation. -/
def call (c : Client) (o : PollOptions) (op : Operation) (subscription : String)
    (names : List String) (value : op.extra.Value) : Run CallResult := do
  let spec := op.spec subscription names value
  if op.result = .items then return .items (← c.collect spec)
  else return op.resultOf (← c.invoke o spec)

/-! ## Kinds of operations -/

/-- An operation on a template, answered at once. -/
def new (service : Service) (method : Method) (path : Template) (result : ResultKind) : Operation :=
  ⟨service, method, path, .nothing, false, result⟩

/-- The operation with something to hand over. -/
def taking (op : Operation) (extra : Extra) : Operation := { op with extra := extra }

/-- The operation as one that has to be waited for. -/
def waiting (op : Operation) : Operation := { op with longRunning := true }

/-- Reads a resource. -/
def read (service : Service) (path : Template) : Operation := new service .get path .payload

/-- Lists the members of a collection. -/
def list (service : Service) (path : Template) : Operation := new service .get path .items

/-- Creates or replaces a resource, or changes parts of it, and waits until that is done. -/
def write (service : Service) (method : Method) (path : Template) : Operation :=
  ((new service method path .resourceId).taking .body).waiting

/-- Deletes a resource and waits until it is gone. -/
def remove (service : Service) (path : Template) : Operation :=
  (new service .delete path .nothing).waiting

/-- Has a resource do something and waits until it is done. -/
def action (service : Service) (path : Template) (word : String) : Operation :=
  (new service .post (path ++ [.fixed word]) .nothing).waiting

end Operation
end ResourceManager
