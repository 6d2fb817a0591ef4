import GuestFleet.Cluster.Names
import GuestFleet.Failure
import GuestFleet.Kube.Object

/-!
# Snapshots

Every object that the operator merges carries, in an annotation, the text of the
object as the operator last wanted it. The snapshot tells which members the operator
put there itself, so that a merge takes away nothing that others have written.
-/

namespace GuestFleet.Kube.Object

variable {kind : Kind}

/-- The snapshot on an object, if it carries one. -/
def lastApplied (object : Object kind) : Option String :=
  object.metadata.annotationOf lastAppliedKey

/-- The object without its snapshot. Annotations that held nothing else are absent. -/
def withoutSnapshot (object : Object kind) : Object kind :=
  match object.metadata.annotations with
  | none => object
  | some entries =>
    let others := StringMap.erase lastAppliedKey entries
    { object with
      metadata :=
        { object.metadata with annotations := if others.isEmpty then none else some others } }

/-- The text that stands for an object in a snapshot. -/
def snapshotText (object : Object kind) : String := object.withoutSnapshot.text

/-- The object with a text as its snapshot. -/
def setLastApplied (object : Object kind) (text : String) : Object kind :=
  { object with metadata := object.metadata.annotate lastAppliedKey text }

/-- The object with a snapshot of itself. -/
def stamped (object : Object kind) : Object kind :=
  object.setLastApplied object.snapshotText

/-- The object was last written from something other than `desired`. -/
def needsUpdate (current desired : Object kind) : Bool :=
  current.lastApplied != some desired.snapshotText

/-- The value of a snapshot, null when there is none. A snapshot that names another kind
of object is refused. -/
def appliedValue (current : Object kind) : Except Failure Json :=
  match current.lastApplied with
  | none => .ok .null
  | some text =>
    match Json.parse text with
    | .error fault => .error (.serialization (.notJson fault))
    | .ok value =>
      match (value.member? "kind").bind Json.string? with
      | none => .ok value
      | some actual =>
        if actual = kind.name then .ok value else .error (.unknownResourceType kind actual)

/-- The current object brought to the desired one, with a new snapshot. What neither the
old snapshot nor the desired object mentions stays. -/
def mergeDesired (current desired : Object kind) : Except Failure (Object kind) :=
  match current.appliedValue with
  | .error failure => .error failure
  | .ok applied =>
    let live := current.toJson
    match Json.threeWayPatch applied desired.withoutSnapshot.toJson live with
    | .error fault => .error (.mergePatch (.notObject fault))
    | .ok patch =>
      match Object.read kind (Json.patched live patch) with
      | .error fault => .error (.serialization (.wrongShape fault))
      | .ok merged => .ok (merged.setLastApplied desired.snapshotText)

end GuestFleet.Kube.Object
