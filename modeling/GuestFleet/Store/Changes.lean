import GuestFleet.Json.MergePatch
import GuestFleet.Store.World

/-!
# Changes of the surroundings

What differs between two states of the collections, and how others edit objects: by
merge patches that take no notice of versions.
-/

namespace GuestFleet.Store

open Kube (Key Kind Object)

/-- Objects that came, that were written again and that went. -/
structure Changes where
  created : List (Key × Json) := []
  replaced : List (Key × Json) := []
  deleted : List Key := []

namespace Changes

/-- The changes of one kind. -/
def ofKind (before after : World) (kind : Kind) : Changes :=
  let old := before.collections.get kind
  let new := after.collections.get kind
  let entry (object : Object kind) := (object.key, object.toJson)
  { created := (new.objects.filter fun (slot, _) => (old.stored slot).isNone).map
      fun (_, object) => entry object
    replaced := (new.objects.filter fun (slot, object) =>
      (old.stored slot).any fun previous => decide (previous ≠ object)).map
        fun (_, object) => entry object
    deleted := (old.objects.filter fun (slot, _) => (new.stored slot).isNone).map
      fun (_, object) => object.key }

/-- The changes of all kinds. -/
def between (before after : World) : Changes :=
  let parts := Kind.all.map (ofKind before after)
  { created := parts.flatMap (·.created)
    replaced := parts.flatMap (·.replaced)
    deleted := parts.flatMap (·.deleted) }

/-- The resource version of an object. -/
def versionOf (object : Json) : Json :=
  ((object.member? "metadata").bind fun metadata => metadata.member? "resourceVersion").getD .null

/-- The changes under the keys of the objects. Of created objects only the version is shown,
unless they are to be shown in full. -/
def toJson (full : Bool) (changes : Changes) : Json :=
  .ofMembers [
    ("created", .ofMembers (changes.created.map fun (key, object) =>
      (key.text, if full then object else versionOf object))),
    ("replaced", .ofMembers (changes.replaced.map fun (key, object) => (key.text, object))),
    ("deleted", Json.ofStrings
      ((changes.deleted.map Key.text).mergeSort fun a b => !decide (b < a)))]

end Changes

namespace World

/-- The objects of some kinds under their keys. -/
def toJson (world : World) (kinds : List Kind) : Json :=
  .ofMembers (kinds.flatMap fun kind =>
    (world.objects kind).map fun object => (object.key.text, object.toJson))

/-- The calls that came after those of an earlier state. -/
def callsSince (world earlier : World) : List Call :=
  (world.log.take (world.log.length - earlier.log.length)).reverse

/-- Writes an object changed by a merge patch. -/
def editObject {kind : Kind} (patch : Json) (object : Object kind) (world : World) :
    Json.Read World :=
  (Object.read kind (Json.patched object.toJson patch)).map fun edited => world.insert edited

/-- Writes objects changed by a merge patch, one after the other. -/
def editObjects {kind : Kind} (patch : Json) : List (Object kind) -> World -> Json.Read World
  | [], world => .ok world
  | object :: objects, world => do
    let world <- world.editObject patch object
    editObjects patch objects world

/-- The objects to edit: the one in a slot, or all of a kind. -/
def editable (world : World) (kind : Kind) (slot : Option Slot) : List (Object kind) :=
  match slot with
  | some slot => ((world.collections.get kind).stored slot).toList
  | none => world.objects kind

/-- Edits the object in a slot, or all of a kind; also how many there were. -/
def edit (world : World) (kind : Kind) (slot : Option Slot) (patch : Json) :
    Json.Read (Nat × World) :=
  let objects := world.editable kind slot
  (world.editObjects patch objects).map fun world => (objects.length, world)

end World

end GuestFleet.Store
