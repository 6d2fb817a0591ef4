import GuestFleet.Change.Modified

/-!
# Differences

Current and desired objects compared by their keys. Nothing here looks at what the
server fills in.
-/

namespace GuestFleet.Diff

open Kube (Kind Object Key)

variable {kind : Kind}

/-- An object of the list has the key. -/
def hasKey (objects : List (Object kind)) (key : Key) : Bool :=
  objects.any fun object => decide (object.key = key)

/-- The last object of the list with the key. -/
def byKey (objects : List (Object kind)) (key : Key) : Option (Object kind) :=
  objects.reverse.find? fun object => decide (object.key = key)

/-- The desired objects that do not exist yet. -/
def created (current desired : List (Object kind)) : List (Object kind) :=
  desired.filter fun object => !hasKey current object.key

/-- The existing objects that are no longer desired. -/
def obsolete (current desired : List (Object kind)) : List (Object kind) :=
  current.filter fun object => !hasKey desired object.key

/-- The existing objects that are desired, which go when the cluster goes. -/
def owned (current desired : List (Object kind)) : List (Object kind) :=
  current.filter fun object => hasKey desired object.key

/-- The desired objects whose existing counterpart has to be written again. -/
def modified (current desired : List (Object kind)) : List (Object kind) :=
  desired.filter fun object =>
    match byKey current object.key with
    | some existing => existing.isModified object
    | none => false

end GuestFleet.Diff
