import ResourceManager.Catalogue.VirtualMachine

/-!
# Run commands

The commands that a location offers for every machine, and those that a machine has of its own.
-/

set_option autoImplicit false

namespace ResourceManager
namespace RunCommand

def offered : Template :=
  Template.ofSubscription .compute ++ Template.child "locations" ++ [.fixed "runCommands"]

def collection : Template := VirtualMachine.machine ++ [.fixed "runCommands"]

def command : Template := collection ++ [.name]

/-- The commands that a location offers. -/
def list : Operation := .list .compute offered

def get : Operation := .read .compute (offered ++ [.name])

def createOrUpdate : Operation := .write .compute .put command

def update : Operation := .write .compute .patch command

def delete : Operation := .remove .compute command

def getOfMachine : Operation := (Operation.read .compute command).taking (.query ["$expand"])

def listOfMachine : Operation := (Operation.list .compute collection).taking (.query ["$expand"])

def operations : List Operation :=
  [list, get, createOrUpdate, update, delete, getOfMachine, listOfMachine]

end RunCommand
end ResourceManager
