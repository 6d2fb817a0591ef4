import GuestFleet.Json.MergePatch
import GuestFleet.Json.Printer

/-!
# Three-way merges

The merge patch that brings a current object to a modified one and takes away only
what the object applied before held. What neither that one nor the modified object
mentions stays as it is.
-/

namespace GuestFleet.Json

mutual

/-- What has to change where `present` stands for `wanted` to stand there; nothing when
they are the same. -/
def addition (present : Option Json) : Json -> Option Json
  | .object wanted =>
    match present with
    | some (.object members) =>
      match additions members wanted with
      | [] => none
      | nested => some (.object nested)
    | _ => some (.object wanted)
  | wanted =>
    match present with
    | some value => if same value wanted then none else some wanted
    | none => some wanted

/-- The members of `current` that have to change to become `modified`. -/
def additions (current : Members) : List (String × Json) -> Members
  | [] => []
  | (key, wanted) :: rest =>
    match addition (Members.find current key) wanted with
    | none => additions current rest
    | some change => (key, change) :: additions current rest

end

mutual

/-- What has to go where a value was and `wanted` is to stand; null when all of it. -/
def deletion (wanted : Option Json) : Json -> Option Json
  | .object was =>
    match wanted with
    | none => some .null
    | some (.object members) =>
      match deletions members was with
      | [] => none
      | nested => some (.object nested)
    | some _ => none
  | _ =>
    match wanted with
    | none => some .null
    | some _ => none

/-- The members of `applied` that `modified` no longer has, as null. -/
def deletions (modified : Members) : List (String × Json) -> Members
  | [] => []
  | (key, was) :: rest =>
    match deletion (Members.find modified key) was with
    | none => deletions modified rest
    | some change => (key, change) :: deletions modified rest

end

mutual

/-- A value laid over the one that may stand in its place. -/
def laidOver (existing : Option Json) : Json -> Json
  | .object nested =>
    match existing with
    | some (.object members) => .object (overlaid members nested)
    | _ => .object nested
  | other => other

/-- The members of `base` with those of an overlay laid over them, objects within
objects. -/
def overlaid (base : Members) : List (String × Json) -> Members
  | [] => base
  | (key, value) :: rest =>
    overlaid (Members.insert key (laidOver (Members.find base key) value) base) rest

end

/-- The merge patch of three sets of members. -/
def threeWayMembers (applied modified current : Members) : Members :=
  overlaid (deletions modified applied) (additions current modified)

/-- The sides of a three-way merge. -/
inductive MergeSide where
  | applied
  | modified
  | current
deriving DecidableEq, Repr

/-- The name of a side. -/
def MergeSide.name : MergeSide -> String
  | .applied => "original"
  | .modified => "modified"
  | .current => "current"

/-- A side that is neither an object nor null, with its text. -/
structure MergeFault where
  side : MergeSide
  valueText : String
deriving DecidableEq, Repr

/-- The words for a fault. -/
def MergeFault.message (fault : MergeFault) : String :=
  fault.side.name ++ " is not an object: " ++ fault.valueText

/-- The members of a side; null has none. -/
def sideMembers (side : MergeSide) : Json -> Except MergeFault Members
  | .object members => .ok members
  | .null => .ok []
  | other => .error ⟨side, other.text⟩

/-- The merge patch that turns `current` into `modified` and takes away only what
`applied` held. -/
def threeWayPatch (applied modified current : Json) : Except MergeFault Json := do
  let applied <- sideMembers .applied applied
  let modified <- sideMembers .modified modified
  let current <- sideMembers .current current
  return .object (threeWayMembers applied modified current)

end GuestFleet.Json
