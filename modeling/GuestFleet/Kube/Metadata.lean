import GuestFleet.Json.Codec

/-!
# Object metadata

The metadata that every object carries. Maps are lists in key order without repeated
keys; an absent map and an empty one are different values.
-/

namespace GuestFleet.Kube

/-- A map of texts as a list of entries in increasing key order. -/
abbrev StringMap := List (String × String)

namespace StringMap

/-- The text of a key. -/
def find (entries : StringMap) (key : String) : Option String := List.lookup key entries

/-- The entries with a text put under a key. -/
def insert (key text : String) : StringMap -> StringMap
  | [] => [(key, text)]
  | (k, t) :: rest =>
    if key = k then (key, text) :: rest
    else if key < k then (key, text) :: (k, t) :: rest
    else (k, t) :: insert key text rest

/-- The entries without a key. -/
def erase (key : String) (entries : StringMap) : StringMap :=
  entries.filter fun entry => entry.1 != key

end StringMap

/-- The metadata of an object. -/
structure Metadata where
  annotations : Option StringMap := none
  creationTimestamp : Option Time.Instant := none
  deletionGracePeriodSeconds : Option Int := none
  deletionTimestamp : Option Time.Instant := none
  finalizers : Option (List String) := none
  generateName : Option String := none
  generation : Option Int := none
  labels : Option StringMap := none
  name : Option String := none
  namespaceName : Option String := none
  resourceVersion : Option String := none
  selfLink : Option String := none
  uid : Option String := none
deriving DecidableEq, Repr

namespace Metadata

instance : Inhabited Metadata := ⟨{}⟩

/-- The text of an annotation. -/
def annotationOf (metadata : Metadata) (key : String) : Option String :=
  metadata.annotations.bind fun entries => StringMap.find entries key

/-- The metadata with an annotation. -/
def annotate (metadata : Metadata) (key text : String) : Metadata :=
  { metadata with annotations := some (StringMap.insert key text (metadata.annotations.getD [])) }

/-- The finalizer is on the object. -/
def hasFinalizer (metadata : Metadata) (finalizer : String) : Bool :=
  (metadata.finalizers.getD []).contains finalizer

end Metadata

/-- The JSON form of metadata. -/
def Metadata.codec : Json.Codec Metadata :=
  .record "ObjectMeta" {}
    [.optional "annotations" .textMap (·.annotations)
       fun m value => { m with annotations := value },
     .optional "creationTimestamp" .instant (·.creationTimestamp)
       fun m value => { m with creationTimestamp := value },
     .optional "deletionGracePeriodSeconds" .int64 (·.deletionGracePeriodSeconds)
       fun m value => { m with deletionGracePeriodSeconds := value },
     .optional "deletionTimestamp" .instant (·.deletionTimestamp)
       fun m value => { m with deletionTimestamp := value },
     .optional "finalizers" (.list .text) (·.finalizers)
       fun m value => { m with finalizers := value },
     .optional "generateName" .text (·.generateName)
       fun m value => { m with generateName := value },
     .optional "generation" .int64 (·.generation) fun m value => { m with generation := value },
     .optional "labels" .textMap (·.labels) fun m value => { m with labels := value },
     .optional "name" .text (·.name) fun m value => { m with name := value },
     .optional "namespace" .text (·.namespaceName) fun m value => { m with namespaceName := value },
     .optional "resourceVersion" .text (·.resourceVersion)
       fun m value => { m with resourceVersion := value },
     .optional "selfLink" .text (·.selfLink) fun m value => { m with selfLink := value },
     .optional "uid" .text (·.uid) fun m value => { m with uid := value }]

end GuestFleet.Kube
