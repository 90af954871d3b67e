import ResourceManager.Error
import ResourceManager.Resource.Path
import ResourceManager.Text.Case
import ResourceManager.Text.Pieces
import ResourceManager.Text.Whitespace

/-!
# Resource identities

What a resource id says: the subscription, the group, the provider, the type and the name of the
resource, and for a machine of a scale set the number of the instance.

An id is cut at its slashes before escapes are undone.  It has at least eight pieces, of which the
first, the third and the fifth are the words that every id has, in any case of their letters.
-/

set_option autoImplicit false

namespace ResourceManager

structure ResourceIdentity where
  subscriptionId : String
  resourceGroup : String
  provider : String
  resourceType : String
  resourceName : String
  /-- The instance of a scale set. -/
  instanceId : Option String
deriving DecidableEq, Repr

namespace ResourceIdentity

/-- The collection of the instances of a scale set. -/
def instanceCollection : String := "virtualMachines"

/-- The path that addresses the resource. -/
def path (i : ResourceIdentity) : ResourcePath :=
  let resource := (((ResourcePath.subscription i.subscriptionId).resourceGroup
    i.resourceGroup).provider i.provider).child i.resourceType i.resourceName
  match i.instanceId with
  | some id => resource.child instanceCollection id
  | none => resource

/-- The pieces of an id between slashes, with escapes undone. -/
def pieces (id : String) : List String :=
  (Text.pieces (· == '/') (Text.trimBoth (· == '/') id.toList)).map fun piece ↦
    String.ofList (Percent.decodeSegment piece)

/-- The instance that the pieces behind the name of the resource name. -/
def instanceOf? : List String → Option String
  | collection :: id :: _ =>
    if Text.sameIgnoringCase collection instanceCollection then some id else none
  | _ => none

/-- The identity that pieces spell out. -/
def ofPieces? : List String → Option ResourceIdentity
  | subscriptions :: subscriptionId :: groups :: resourceGroup :: providers :: provider ::
      resourceType :: resourceName :: rest =>
    if Text.sameIgnoringCase subscriptions "subscriptions" &&
        Text.sameIgnoringCase groups "resourceGroups" &&
        Text.sameIgnoringCase providers "providers" then
      some
        { subscriptionId := subscriptionId
          resourceGroup := resourceGroup
          provider := provider
          resourceType := resourceType
          resourceName := resourceName
          instanceId := instanceOf? rest }
    else none
  | _ => none

/-- Reads a resource id. -/
def parse? (id : String) : Option ResourceIdentity :=
  ofPieces? (pieces id)

/-- Reads a resource id, or tells the text that is none. -/
def parse (id : String) : Except Error ResourceIdentity :=
  match parse? id with
  | some i => .ok i
  | none => .error (.invalidResourceId id)

end ResourceIdentity
end ResourceManager
