import ResourceManager.Catalogue.Operation

/-!
# Images of virtual machines

The images that publishers offer at a location.
-/

set_option autoImplicit false

namespace ResourceManager
namespace VirtualMachineImage

def publishers : Template :=
  Template.ofSubscription .compute ++ Template.child "locations" ++ [.fixed "publishers"]

def offers : Template :=
  publishers ++ [.name, .fixed "artifacttypes", .fixed "vmimage", .fixed "offers"]

def skus : Template := offers ++ [.name, .fixed "skus"]

def versions : Template := skus ++ [.name, .fixed "versions"]

def get : Operation := .read .compute (versions ++ [.name])

/-- The versions of an image; a caller may filter and order them and ask for the first few. -/
def list : Operation :=
  (Operation.list .compute versions).taking (.query ["$filter", "$top", "$orderby"])

def listOffers : Operation := .list .compute offers

def listPublishers : Operation := .list .compute publishers

def listSkus : Operation := .list .compute skus

def operations : List Operation := [get, list, listOffers, listPublishers, listSkus]

end VirtualMachineImage
end ResourceManager
