import GuestFleet.Kube.Metadata

/-!
# Deployments

The parts of a deployment apart from its metadata, down to the containers and volumes
of its pods.
-/

namespace GuestFleet.Kube

/-- An environment variable of a container. -/
structure EnvVar where
  name : String := ""
  value : Option String := none
deriving DecidableEq, Repr

/-- The JSON form of an environment variable. -/
def EnvVar.codec : Json.Codec EnvVar :=
  .record "EnvVar" {}
    [.needed "name" .text "" (·.name) fun e value => { e with name := value },
     .optional "value" .text (·.value) fun e value => { e with value := value }]

/-- The rights of a container on its host. -/
structure SecurityContext where
  privileged : Option Bool := none
deriving DecidableEq, Repr

/-- The JSON form of a security context. -/
def SecurityContext.codec : Json.Codec SecurityContext :=
  .record "SecurityContext" {}
    [.optional "privileged" .truth (·.privileged) fun s value => { s with privileged := value }]

/-- The place of a volume in a container. -/
structure VolumeMount where
  mountPath : String := ""
  name : String := ""
  readOnly : Option Bool := none
deriving DecidableEq, Repr

/-- The JSON form of a volume mount. -/
def VolumeMount.codec : Json.Codec VolumeMount :=
  .record "VolumeMount" {}
    [.needed "mountPath" .text "" (·.mountPath) fun m value => { m with mountPath := value },
     .needed "name" .text "" (·.name) fun m value => { m with name := value },
     .optional "readOnly" .truth (·.readOnly) fun m value => { m with readOnly := value }]

/-- A container of a pod. -/
structure Container where
  env : Option (List EnvVar) := none
  image : Option String := none
  name : String := ""
  securityContext : Option SecurityContext := none
  volumeMounts : Option (List VolumeMount) := none
deriving DecidableEq, Repr

/-- The JSON form of a container. -/
def Container.codec : Json.Codec Container :=
  .record "Container" {}
    [.optional "env" (.list EnvVar.codec) (·.env) fun c value => { c with env := value },
     .optional "image" .text (·.image) fun c value => { c with image := value },
     .needed "name" .text "" (·.name) fun c value => { c with name := value },
     .optional "securityContext" SecurityContext.codec (·.securityContext)
       fun c value => { c with securityContext := value },
     .optional "volumeMounts" (.list VolumeMount.codec) (·.volumeMounts)
       fun c value => { c with volumeMounts := value }]

/-- The config map behind a volume. -/
structure ConfigMapSource where
  name : String := ""
deriving DecidableEq, Repr

/-- The JSON form of a config map source. -/
def ConfigMapSource.codec : Json.Codec ConfigMapSource :=
  .record "ConfigMapVolumeSource" {}
    [.needed "name" .text "" (·.name) fun s value => { s with name := value }]

/-- The directory of the host behind a volume. -/
structure HostPathSource where
  path : String := ""
  type : Option String := none
deriving DecidableEq, Repr

/-- The JSON form of a host path source. -/
def HostPathSource.codec : Json.Codec HostPathSource :=
  .record "HostPathVolumeSource" {}
    [.needed "path" .text "" (·.path) fun s value => { s with path := value },
     .optional "type" .text (·.type) fun s value => { s with type := value }]

/-- The claim behind a volume. -/
structure ClaimSource where
  claimName : String := ""
deriving DecidableEq, Repr

/-- The JSON form of a claim source. -/
def ClaimSource.codec : Json.Codec ClaimSource :=
  .record "PersistentVolumeClaimVolumeSource" {}
    [.needed "claimName" .text "" (·.claimName) fun s value => { s with claimName := value }]

/-- A volume of a pod. -/
structure Volume where
  configMap : Option ConfigMapSource := none
  hostPath : Option HostPathSource := none
  name : String := ""
  persistentVolumeClaim : Option ClaimSource := none
deriving DecidableEq, Repr

/-- The JSON form of a volume. -/
def Volume.codec : Json.Codec Volume :=
  .record "Volume" {}
    [.optional "configMap" ConfigMapSource.codec (·.configMap)
       fun v value => { v with configMap := value },
     .optional "hostPath" HostPathSource.codec (·.hostPath)
       fun v value => { v with hostPath := value },
     .needed "name" .text "" (·.name) fun v value => { v with name := value },
     .optional "persistentVolumeClaim" ClaimSource.codec (·.persistentVolumeClaim)
       fun v value => { v with persistentVolumeClaim := value }]

/-- What a pod runs. -/
structure PodSpec where
  containers : List Container := []
  serviceAccountName : Option String := none
  volumes : Option (List Volume) := none
deriving DecidableEq, Repr

/-- The JSON form of a pod spec. -/
def PodSpec.codec : Json.Codec PodSpec :=
  .record "PodSpec" {}
    [.needed "containers" (.list Container.codec) [] (·.containers)
       fun s value => { s with containers := value },
     .optional "serviceAccountName" .text (·.serviceAccountName)
       fun s value => { s with serviceAccountName := value },
     .optional "volumes" (.list Volume.codec) (·.volumes)
       fun s value => { s with volumes := value }]

/-- The pods that a deployment makes. -/
structure PodTemplate where
  metadata : Option Metadata := none
  spec : Option PodSpec := none
deriving DecidableEq, Repr

/-- The JSON form of a pod template. -/
def PodTemplate.codec : Json.Codec PodTemplate :=
  .record "PodTemplateSpec" {}
    [.optional "metadata" Metadata.codec (·.metadata) fun t value => { t with metadata := value },
     .optional "spec" PodSpec.codec (·.spec) fun t value => { t with spec := value }]

/-- The labels by which a deployment knows its pods. -/
structure LabelSelector where
  matchLabels : Option StringMap := none
deriving DecidableEq, Repr

/-- The JSON form of a label selector. -/
def LabelSelector.codec : Json.Codec LabelSelector :=
  .record "LabelSelector" {}
    [.optional "matchLabels" .textMap (·.matchLabels)
       fun s value => { s with matchLabels := value }]

/-- How a deployment replaces its pods. -/
structure DeploymentStrategy where
  type : Option String := none
deriving DecidableEq, Repr

/-- The JSON form of a deployment strategy. -/
def DeploymentStrategy.codec : Json.Codec DeploymentStrategy :=
  .record "DeploymentStrategy" {}
    [.optional "type" .text (·.type) fun s value => { s with type := value }]

/-- What a deployment runs. -/
structure DeploymentSpec where
  replicas : Option Int := none
  selector : LabelSelector := {}
  strategy : Option DeploymentStrategy := none
  template : PodTemplate := {}
deriving DecidableEq, Repr

/-- The JSON form of a deployment spec. -/
def DeploymentSpec.codec : Json.Codec DeploymentSpec :=
  .record "DeploymentSpec" {}
    [.optional "replicas" .int32 (·.replicas) fun s value => { s with replicas := value },
     .needed "selector" LabelSelector.codec {} (·.selector)
       fun s value => { s with selector := value },
     .optional "strategy" DeploymentStrategy.codec (·.strategy)
       fun s value => { s with strategy := value },
     .needed "template" PodTemplate.codec {} (·.template)
       fun s value => { s with template := value }]

/-- How many pods of a deployment there are. -/
structure DeploymentStatus where
  availableReplicas : Option Int := none
  replicas : Option Int := none
deriving DecidableEq, Repr

/-- The JSON form of a deployment status. -/
def DeploymentStatus.codec : Json.Codec DeploymentStatus :=
  .record "DeploymentStatus" {}
    [.optional "availableReplicas" .int32 (·.availableReplicas)
       fun s value => { s with availableReplicas := value },
     .optional "replicas" .int32 (·.replicas) fun s value => { s with replicas := value }]

/-- A deployment apart from its metadata. -/
structure DeploymentBody where
  spec : Option DeploymentSpec := none
  status : Option DeploymentStatus := none
deriving DecidableEq, Repr

/-- The members of a deployment. -/
def DeploymentBody.members : List (Json.Member DeploymentBody) :=
  [.optional "spec" DeploymentSpec.codec (·.spec) fun b value => { b with spec := value },
   .optional "status" DeploymentStatus.codec (·.status) fun b value => { b with status := value }]

end GuestFleet.Kube
