import ResourceManager.Catalogue.Operation

/-!
# Scale sets

The scale sets of a resource group, their machines, their extensions and their rolling upgrades.
What a scale set is told to do concerns all its machines, or those whose numbers are handed over.
-/

set_option autoImplicit false

namespace ResourceManager
namespace ScaleSet

/-! ## Scale sets -/

def collection : Template := Template.ofGroup .compute ++ [.fixed "virtualMachineScaleSets"]

def scaleSet : Template := collection ++ [.name]

/-- Has the machines of a scale set do something. -/
def action (word : String) : Operation :=
  (Operation.action .compute scaleSet word).taking .optionalBody

def createOrUpdate : Operation := .write .compute .put scaleSet

def get : Operation := (Operation.read .compute scaleSet).taking (.query ["$expand"])

def update : Operation := .write .compute .patch scaleSet

def delete : Operation := .remove .compute scaleSet

def start : Operation := action "start"

def powerOff : Operation := action "poweroff"

def restart : Operation := action "restart"

def deallocate : Operation := action "deallocate"

def reimage : Operation := action "reimage"

/-- Brings machines up to the model of their scale set. -/
def updateInstances : Operation :=
  (Operation.action .compute scaleSet "manualupgrade").taking .instances

def instanceView : Operation := .read .compute (scaleSet ++ [.fixed "instanceView"])

def list : Operation := .list .compute collection

/-- The scale sets of a whole subscription. -/
def listAll : Operation :=
  .list .compute (Template.ofSubscription .compute ++ [.fixed "virtualMachineScaleSets"])

def listSkus : Operation := .list .compute (scaleSet ++ [.fixed "skus"])

def operations : List Operation :=
  [createOrUpdate, get, update, delete, start, powerOff, restart, deallocate, reimage,
    updateInstances, instanceView, list, listAll, listSkus]

end ScaleSet

namespace ScaleSetMachine

/-! ## Machines of scale sets -/

def collection : Template := ScaleSet.scaleSet ++ [.fixed "virtualMachines"]

def machine : Template := collection ++ [.name]

def get : Operation := (Operation.read .compute machine).taking (.query ["$expand"])

def instanceView : Operation := .read .compute (machine ++ [.fixed "instanceView"])

def update : Operation := .write .compute .put machine

def delete : Operation := .remove .compute machine

def start : Operation := .action .compute machine "start"

def powerOff : Operation := .action .compute machine "poweroff"

def restart : Operation := .action .compute machine "restart"

def deallocate : Operation := .action .compute machine "deallocate"

def reimage : Operation := (Operation.action .compute machine "reimage").taking .optionalBody

def runCommand : Operation :=
  { (Operation.action .compute machine "runCommand").taking .body with result := .payload }

def list : Operation := (Operation.list .compute collection).taking (.query ["$filter"])

def operations : List Operation :=
  [get, instanceView, update, delete, start, powerOff, restart, deallocate, reimage, runCommand,
    list]

end ScaleSetMachine

namespace ScaleSetExtension

/-! ## Extensions of scale sets -/

def collection : Template := ScaleSet.scaleSet ++ [.fixed "extensions"]

def extension : Template := collection ++ [.name]

def createOrUpdate : Operation := .write .compute .put extension

def get : Operation := (Operation.read .compute extension).taking (.query ["$expand"])

def update : Operation := .write .compute .patch extension

def delete : Operation := .remove .compute extension

def list : Operation := .list .compute collection

def operations : List Operation := [createOrUpdate, get, update, delete, list]

end ScaleSetExtension

namespace RollingUpgrade

/-! ## Rolling upgrades -/

def upgrades : Template := ScaleSet.scaleSet ++ [.fixed "rollingUpgrades"]

/-- Starts an upgrade of the operating system. -/
def startSystem : Operation := .action .compute ScaleSet.scaleSet "osRollingUpgrade"

def startExtension : Operation := .action .compute ScaleSet.scaleSet "extensionRollingUpgrade"

def cancel : Operation := .action .compute upgrades "cancel"

def latest : Operation := .read .compute (upgrades ++ [.fixed "latest"])

def operations : List Operation := [startSystem, startExtension, cancel, latest]

end RollingUpgrade
end ResourceManager
