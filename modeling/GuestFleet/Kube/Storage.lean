import GuestFleet.Kube.Metadata
import GuestFleet.Kube.Bytes

/-!
# Config maps and volume claims

The parts, apart from metadata, of the objects that hold a guest cluster's data.
-/

namespace GuestFleet.Kube

/-- A config map apart from its metadata. -/
structure ConfigMapBody where
  binaryData : Option (List (String × Bytes)) := none
  data : Option StringMap := none
  immutable : Option Bool := none
deriving DecidableEq, Repr

/-- The members of a config map. -/
def ConfigMapBody.members : List (Json.Member ConfigMapBody) :=
  [.optional "binaryData" (.map Bytes.codec) (·.binaryData)
     fun b value => { b with binaryData := value },
   .optional "data" .textMap (·.data) fun b value => { b with data := value },
   .optional "immutable" .truth (·.immutable) fun b value => { b with immutable := value }]

/-- The amounts that a claim asks for. -/
structure VolumeResources where
  requests : Option StringMap := none
deriving DecidableEq, Repr

/-- What a claim asks for. -/
structure ClaimSpec where
  accessModes : Option (List String) := none
  resources : Option VolumeResources := none
  storageClassName : Option String := none
deriving DecidableEq, Repr

/-- The phase of a claim. -/
structure ClaimStatus where
  phase : Option String := none
deriving DecidableEq, Repr

/-- A persistent volume claim apart from its metadata. -/
structure ClaimBody where
  spec : Option ClaimSpec := none
  status : Option ClaimStatus := none
deriving DecidableEq, Repr

/-- The JSON form of the amounts that a claim asks for. -/
def VolumeResources.codec : Json.Codec VolumeResources :=
  .record "VolumeResourceRequirements" {}
    [.optional "requests" .textMap (·.requests) fun r value => { r with requests := value }]

/-- The JSON form of a claim spec. -/
def ClaimSpec.codec : Json.Codec ClaimSpec :=
  .record "PersistentVolumeClaimSpec" {}
    [.optional "accessModes" (.list .text) (·.accessModes)
       fun s value => { s with accessModes := value },
     .optional "resources" VolumeResources.codec (·.resources)
       fun s value => { s with resources := value },
     .optional "storageClassName" .text (·.storageClassName)
       fun s value => { s with storageClassName := value }]

/-- The JSON form of a claim status. -/
def ClaimStatus.codec : Json.Codec ClaimStatus :=
  .record "PersistentVolumeClaimStatus" {}
    [.optional "phase" .text (·.phase) fun s value => { s with phase := value }]

/-- The members of a claim. -/
def ClaimBody.members : List (Json.Member ClaimBody) :=
  [.optional "spec" ClaimSpec.codec (·.spec) fun b value => { b with spec := value },
   .optional "status" ClaimStatus.codec (·.status) fun b value => { b with status := value }]

end GuestFleet.Kube
