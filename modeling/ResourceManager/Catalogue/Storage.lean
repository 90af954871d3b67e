import ResourceManager.Catalogue.Operation

/-!
# Storage

Storage accounts and the containers of their blob service.  The only thing to wait for is the
creation of an account.
-/

set_option autoImplicit false

namespace ResourceManager
namespace StorageAccount

/-! ## Accounts -/

def collection : Template := Template.ofGroup .storage ++ [.fixed "storageAccounts"]

def account : Template := collection ++ [.name]

/-- Whether an account may be given a name. -/
def checkNameAvailability : Operation :=
  (Operation.new .storage .post
    (Template.ofSubscription .storage ++ [.fixed "checkNameAvailability"]) .payload).taking
      .accountName

def create : Operation := .write .storage .put account

def getProperties : Operation := (Operation.read .storage account).taking (.query ["$expand"])

def update : Operation := (Operation.new .storage .patch account .payload).taking .body

def delete : Operation := .new .storage .delete account .nothing

/-- The accounts of a whole subscription. -/
def list : Operation :=
  .list .storage (Template.ofSubscription .storage ++ [.fixed "storageAccounts"])

def listOfGroup : Operation := .list .storage collection

def listKeys : Operation := .new .storage .post (account ++ [.fixed "listKeys"]) .payload

def regenerateKey : Operation :=
  (Operation.new .storage .post (account ++ [.fixed "regenerateKey"]) .payload).taking .storageKey

def operations : List Operation :=
  [checkNameAvailability, create, getProperties, update, delete, list, listOfGroup, listKeys,
    regenerateKey]

end StorageAccount

namespace BlobContainer

/-! ## Containers -/

def collection : Template :=
  StorageAccount.account ++ [.fixed "blobServices", .fixed "default", .fixed "containers"]

def container : Template := collection ++ [.name]

/-- A call on a container with a body, answered at once. -/
def sending (method : Method) (path : Template) (result : ResultKind) : Operation :=
  (Operation.new .storage method path result).taking .body

def create : Operation := sending .put container .resourceId

def get : Operation := .read .storage container

def update : Operation := sending .patch container .payload

def delete : Operation := .new .storage .delete container .nothing

def list : Operation :=
  (Operation.list .storage collection).taking (.query ["$maxpagesize", "$filter", "$include"])

def setLegalHold : Operation := sending .post (container ++ [.fixed "setLegalHold"]) .payload

def clearLegalHold : Operation := sending .post (container ++ [.fixed "clearLegalHold"]) .payload

def operations : List Operation := [create, get, update, delete, list, setLegalHold, clearLegalHold]

end BlobContainer
end ResourceManager
