import GuestFleet.Reconcile.Resource

/-!
# Resources that count

Every failed phase is counted, every change that is applied is counted and timed, and
every reading of the current objects tells which versions are in use.
-/

namespace GuestFleet.Resource

open Kube (Object)

variable [Monad m] [Records m]

/-- Counts the failure of a phase. -/
def observing (kind : String) (phase : Phase) (work : Work m α) : Work m α :=
  ExceptT.mk do
    match <- work.run with
    | .ok value => return .ok value
    | .error failure =>
      Records.record (.phaseFailed kind phase.name)
      return .error failure

/-- Counts and times the application of objects, if there are any. -/
def timing (kind scope action : String) (phase : Phase)
    (apply : List (Object k) -> Work m Unit) (objects : List (Object k)) : Work m Unit :=
  if objects.isEmpty then apply objects
  else
    ExceptT.mk do
      let result <- (observing kind phase (apply objects)).run
      Records.record (.acted scope kind action)
      return result

/-- Tells which versions the current objects carry. -/
def noting (kind scope : String) (objects : List (Object k)) : Work m (List (Object k)) :=
  ExceptT.mk do
    Records.record
      (.seen kind scope (objects.map fun object => object.metadata.annotationOf versionKey))
    return .ok objects

/-- The resource with its phases counted; `scope` names whose objects they are. -/
def metered (resource : Resource m) (scope : String) : Resource m :=
  let kind := resource.kind.label
  { resource with
    currentState := do
      let objects <- observing kind .currentState resource.currentState
      noting kind scope objects
    desiredState := observing kind .desiredState resource.desiredState
    createPatch := fun current desired =>
      observing kind .createPatch (resource.createPatch current desired)
    updatePatch := fun current desired =>
      observing kind .updatePatch (resource.updatePatch current desired)
    deletePatch := fun current desired =>
      observing kind .deletePatch (resource.deletePatch current desired)
    applyCreate := timing kind scope "create" .applyCreate resource.applyCreate
    applyDelete := timing kind scope "delete" .applyDelete resource.applyDelete
    applyUpdate := timing kind scope "update" .applyUpdate resource.applyUpdate }

end GuestFleet.Resource
