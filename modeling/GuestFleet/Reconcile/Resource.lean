import GuestFleet.Change.Diff
import GuestFleet.Reconcile.Context

/-!
# Resources

A resource looks after the objects of one kind in phases: it reads the current objects,
computes the desired ones, finds the difference, and applies it. A handler is what a
pass sees of a resource: bring the objects about, or take them down.
-/

namespace GuestFleet

open Kube (Kind Object)

/-- What has to change: objects to create, to delete, and to write again. -/
structure ChangeSet (kind : Kind) where
  create : List (Object kind) := []
  delete : List (Object kind) := []
  update : List (Object kind) := []

namespace ChangeSet

variable {kind : Kind}

/-- Nothing has to change. -/
def isEmpty (change : ChangeSet kind) : Bool :=
  change.create.isEmpty && change.delete.isEmpty && change.update.isEmpty

/-- The desired objects that do not exist, to be created. -/
def creations (current desired : List (Object kind)) : ChangeSet kind :=
  { create := Diff.created current desired }

/-- All that makes the current objects the desired ones. -/
def updates (current desired : List (Object kind)) : ChangeSet kind :=
  { create := Diff.created current desired
    delete := Diff.obsolete current desired
    update := Diff.modified current desired }

/-- The desired objects that exist, to be deleted. -/
def deletions (current desired : List (Object kind)) : ChangeSet kind :=
  { delete := Diff.owned current desired }

end ChangeSet

/-- The phases of looking after the objects of one kind. -/
structure Resource (m : Type -> Type) where
  /-- The name in failures and metrics. -/
  name : String
  kind : Kind
  currentState : Work m (List (Object kind))
  desiredState : Work m (List (Object kind))
  createPatch : List (Object kind) -> List (Object kind) -> Work m (ChangeSet kind)
  updatePatch : List (Object kind) -> List (Object kind) -> Work m (ChangeSet kind)
  deletePatch : List (Object kind) -> List (Object kind) -> Work m (ChangeSet kind)
  applyCreate : List (Object kind) -> Work m Unit
  applyDelete : List (Object kind) -> Work m Unit
  applyUpdate : List (Object kind) -> Work m Unit

/-- What a pass sees of a resource. -/
structure Handler (m : Type -> Type) where
  name : String
  /-- Brings the desired objects about. -/
  ensureCreated : Work m Unit
  /-- Takes down what there is of the desired objects. -/
  ensureDeleted : Work m Unit

namespace Resource

variable [Monad m]

/-- Goes on unless the pass was told to stop. -/
def unlessCancelled (next : Work m Unit) : Work m Unit := do
  if <- Work.isCancelled then return () else next

/-- Applies objects in a phase, if there are any. -/
def applying (resource : Resource m) (phase : Phase)
    (apply : List (Object resource.kind) -> Work m Unit)
    (objects : List (Object resource.kind)) : Work m Unit :=
  if objects.isEmpty then return () else Work.inPhase resource.name phase (apply objects)

/-- Reads the current objects, computes the desired ones and what has to change, and goes
on with that, unless the pass is told to stop in between. -/
def withPatch (resource : Resource m) (phase : Phase)
    (patch : List (Object resource.kind) -> List (Object resource.kind) ->
      Work m (ChangeSet resource.kind))
    (next : ChangeSet resource.kind -> Work m Unit) : Work m Unit := do
  let current <- Work.inPhase resource.name .currentState resource.currentState
  unlessCancelled do
    let desired <- Work.inPhase resource.name .desiredState resource.desiredState
    unlessCancelled do
      let change <- Work.inPhase resource.name phase (patch current desired)
      unlessCancelled (next change)

/-- Creates, then deletes, then writes again what has to be. -/
def ensureCreated (resource : Resource m) : Work m Unit :=
  resource.withPatch .updatePatch resource.updatePatch fun change => do
    resource.applying .applyCreate resource.applyCreate change.create
    unlessCancelled do
      resource.applying .applyDelete resource.applyDelete change.delete
      unlessCancelled (resource.applying .applyUpdate resource.applyUpdate change.update)

/-- Deletes what there is of the desired objects. -/
def ensureDeleted (resource : Resource m) : Work m Unit :=
  resource.withPatch .deletePatch resource.deletePatch fun change =>
    resource.applying .applyDelete resource.applyDelete change.delete

/-- The resource as a pass sees it. -/
def handler (resource : Resource m) : Handler m :=
  ⟨resource.name, resource.ensureCreated, resource.ensureDeleted⟩

end Resource

end GuestFleet
