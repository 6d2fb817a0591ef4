import GuestFleet.Reconcile.Resource
import GuestFleet.Reconcile.Retry

/-!
# Resources that try again

Every phase of the resource is retried on its own.
-/

namespace GuestFleet.Resource

variable [Monad m] [Pauses m]

/-- The resource with every phase retried; `scope` names whose objects they are. -/
def retried (resource : Resource m) (policy : RetryPolicy) (scope : String) : Resource m :=
  { resource with
    currentState := policy.retry resource.name scope resource.currentState
    desiredState := policy.retry resource.name scope resource.desiredState
    createPatch := fun current desired =>
      policy.retry resource.name scope (resource.createPatch current desired)
    updatePatch := fun current desired =>
      policy.retry resource.name scope (resource.updatePatch current desired)
    deletePatch := fun current desired =>
      policy.retry resource.name scope (resource.deletePatch current desired)
    applyCreate := fun objects => policy.retry resource.name scope (resource.applyCreate objects)
    applyDelete := fun objects => policy.retry resource.name scope (resource.applyDelete objects)
    applyUpdate := fun objects => policy.retry resource.name scope (resource.applyUpdate objects) }

end GuestFleet.Resource
