import GuestFleet.Change.Modified
import GuestFleet.Manifest.CloudConfig

/-!
# Workloads

The deployment that keeps a node's virtual machine running, and the volume claims with
the etcd data of masters.
-/

namespace GuestFleet.Blueprint

open Kube (Container EnvVar Object StringMap Volume VolumeMount)

/-- The directory with a node's cloud config. -/
def cloudConfigPath : String := "/cloudconfig"

/-- The volume with a node's cloud config. -/
def cloudConfigVolume : String := "cloud-config"

/-- The volume with the data of etcd. -/
def etcdVolume : String := "etcd-data"

/-- The claim for a master's etcd volume. -/
def etcdClaim (b : Blueprint) (node : Node) : Object .persistentVolumeClaim :=
  ⟨b.namespaced (etcdClaimName b.cluster.id node.id) (b.cluster.nodeLabels .master node),
    { spec := some
        { accessModes := some ["ReadWriteOnce"]
          resources := some { requests := some [("storage", b.settings.etcdVolumeSize)] }
          storageClassName := b.settings.storageClass } }⟩

/-- The claims of all masters. -/
def etcdClaims (b : Blueprint) : List (Object .persistentVolumeClaim) :=
  b.cluster.topology.masters.map b.etcdClaim

/-- The environment of a node's container. -/
def containerEnvironment (b : Blueprint) (role : Role) (node : Node) : List EnvVar :=
  [⟨"ROLE", some role.name⟩, ⟨"CLUSTER_ID", some b.cluster.id⟩, ⟨"NODE_ID", some node.id⟩,
    ⟨"CORES", some (String.ofList (Json.integerChars node.cpus))⟩, ⟨"MEMORY", some node.memory⟩,
    ⟨"DISK", some node.disk⟩,
    ⟨"CLOUD_CONFIG_PATH", some (cloudConfigPath ++ "/" ++ userDataKey)⟩]

/-- The volume with a master's etcd data. -/
def etcdVolumeOf (b : Blueprint) (etcd : EtcdStorage) (node : Node) : Volume :=
  match etcd with
  | .hostPath =>
    { name := etcdVolume
      hostPath := some
        { path := b.settings.etcdHostPath ++ "/" ++ b.cluster.id ++ "/" ++ node.id
          type := some "DirectoryOrCreate" } }
  | .persistentVolume =>
    { name := etcdVolume
      persistentVolumeClaim := some { claimName := etcdClaimName b.cluster.id node.id } }

/-- The volumes of a node's pod; those of masters hold etcd data. -/
def volumes (b : Blueprint) (etcd : EtcdStorage) (role : Role) (node : Node) : List Volume :=
  let config : Volume :=
    { name := cloudConfigVolume
      configMap := some { name := nodeName role b.cluster.id node.id } }
  match role with
  | .master => [config, b.etcdVolumeOf etcd node]
  | .worker => [config]

/-- Where the volumes of a node's pod are found. -/
def volumeMounts (role : Role) : List VolumeMount :=
  let config : VolumeMount :=
    { name := cloudConfigVolume, mountPath := cloudConfigPath, readOnly := some true }
  match role with
  | .master => [config, { name := etcdVolume, mountPath := "/etc/kubernetes/data/etcd" }]
  | .worker => [config]

/-- The container that runs a node's virtual machine, with full rights on its host. -/
def container (b : Blueprint) (role : Role) (node : Node) : Container :=
  { name := "k8s-kvm"
    image := some b.settings.image
    env := some (b.containerEnvironment role node)
    volumeMounts := some (volumeMounts role)
    securityContext := some { privileged := some true } }

/-- The annotations of a node's pods: besides the version, the checksum of the config
map, so that the pods follow it. -/
def podAnnotations (b : Blueprint) (role : Role) (node : Node) : StringMap :=
  [(versionKey, b.cluster.version),
    (checksumKey, checksum (b.configData role node))]

/-- The deployment of a node. -/
def deployment (b : Blueprint) (etcd : EtcdStorage) (role : Role) (node : Node) : Deployment :=
  let labels := b.cluster.nodeLabels role node
  ⟨{ b.namespaced (nodeName role b.cluster.id node.id) labels with
      annotations := some b.cluster.versionAnnotations },
    { spec := some
        { replicas := some 1
          selector := { matchLabels := some labels }
          strategy := some { type := some "Recreate" }
          template :=
            { metadata := some
                { labels := some labels
                  annotations := some (b.podAnnotations role node)
                  finalizers := some [drainingFinalizer] }
              spec := some
                { containers := [b.container role node]
                  volumes := some (b.volumes etcd role node)
                  serviceAccountName := some b.cluster.serviceAccountName } } } }⟩

/-- The deployments of all nodes, masters first. -/
def deployments (b : Blueprint) (etcd : EtcdStorage) : List Deployment :=
  b.cluster.nodes.map fun (role, node) => b.deployment etcd role node

end GuestFleet.Blueprint
