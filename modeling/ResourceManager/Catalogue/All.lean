import ResourceManager.Catalogue.RunCommand
import ResourceManager.Catalogue.ScaleSet
import ResourceManager.Catalogue.Storage
import ResourceManager.Catalogue.VirtualMachineImage

/-!
# The catalogue

All operations of the catalogue.
-/

set_option autoImplicit false

namespace ResourceManager
namespace Operation

def catalogue : List Operation :=
  VirtualMachine.operations ++ VirtualMachineExtension.operations ++
    VirtualMachineImage.operations ++ ScaleSet.operations ++ ScaleSetMachine.operations ++
    ScaleSetExtension.operations ++
    RollingUpgrade.operations ++ RunCommand.operations ++ StorageAccount.operations ++
    BlobContainer.operations

end Operation
end ResourceManager
