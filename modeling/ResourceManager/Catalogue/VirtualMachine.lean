import ResourceManager.Catalogue.Operation

/-!
# Virtual machines

The machines of a resource group, and their extensions.
-/

set_option autoImplicit false

namespace ResourceManager
namespace VirtualMachine

/-! ## Machines -/

def collection : Template := Template.ofGroup .compute ++ [.fixed "virtualMachines"]

def machine : Template := collection ++ [.name]

def createOrUpdate : Operation := .write .compute .put machine

def get : Operation := (Operation.read .compute machine).taking (.query ["$expand"])

def instanceView : Operation := .read .compute (machine ++ [.fixed "instanceView"])

def update : Operation := .write .compute .patch machine

def delete : Operation := .remove .compute machine

def start : Operation := .action .compute machine "start"

def powerOff : Operation := .action .compute machine "powerOff"

def restart : Operation := .action .compute machine "restart"

def deallocate : Operation := .action .compute machine "deallocate"

def redeploy : Operation := .action .compute machine "redeploy"

def reimage : Operation := (Operation.action .compute machine "reimage").taking .optionalBody

def runCommand : Operation :=
  { (Operation.action .compute machine "runCommand").taking .body with result := .payload }

/-- Marks a machine as one to make images of, which takes no time. -/
def generalize : Operation := .new .compute .post (machine ++ [.fixed "generalize"]) .nothing

def list : Operation := .list .compute collection

/-- The machines of a whole subscription. -/
def listAll : Operation :=
  .list .compute (Template.ofSubscription .compute ++ [.fixed "virtualMachines"])

/-- The sizes that a machine can be given. -/
def listAvailableSizes : Operation := .list .compute (machine ++ [.fixed "vmSizes"])

def operations : List Operation :=
  [createOrUpdate, get, instanceView, update, delete, start, powerOff, restart, deallocate,
    redeploy, reimage, runCommand, generalize, list, listAll, listAvailableSizes]

end VirtualMachine

namespace VirtualMachineExtension

/-! ## Extensions -/

def collection : Template := VirtualMachine.machine ++ [.fixed "extensions"]

def extension : Template := collection ++ [.name]

def createOrUpdate : Operation := .write .compute .put extension

def get : Operation := (Operation.read .compute extension).taking (.query ["$expand"])

def update : Operation := .write .compute .patch extension

def delete : Operation := .remove .compute extension

def list : Operation := (Operation.list .compute collection).taking (.query ["$expand"])

def operations : List Operation := [createOrUpdate, get, update, delete, list]

end VirtualMachineExtension
end ResourceManager
