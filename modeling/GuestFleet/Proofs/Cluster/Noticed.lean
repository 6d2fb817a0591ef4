import GuestFleet.Proofs.Cluster.Drafts
import GuestFleet.Proofs.Manifest.Checksum

/-!
# Changes that are noticed

The checksum in a deployment tells the data of the node's config map, unless digests collide, and
the data tells the customer. So the comparison of deployments misses but one thing that operators
may change: the directory of the host with the data of etcd.
-/

namespace GuestFleet

namespace Blueprint

section

variable {first second : Blueprint} {role : Role} {node other : Node}
  (apart : Digest.sha256 (checksumInput (first.configData role node)) =
      Digest.sha256 (checksumInput (second.configData role other)) ->
    checksumInput (first.configData role node) = checksumInput (second.configData role other))

include apart

/-- Config data with the same checksum is the same, unless the checksum collides. -/
theorem configData_of_checksum
    (same : checksum (first.configData role node) = checksum (second.configData role other)) :
    first.configData role node = second.configData role other := by
  have sameInput := apart (hex_injective same)
  exact congrArg (fun config => [(userDataKey, config)]) (checksumInput_single sameInput)

variable (validFirst : first.cluster.isValid = true) (valid : second.cluster.isValid = true)
  (sameId : first.cluster.id = second.cluster.id) (mem : (role, other) ∈ second.cluster.nodes)
  (sameNode : node.id = other.id)

include validFirst valid sameId mem sameNode

/-- Another customer is noticed. -/
theorem customer_of_unmodified {old etcd : EtcdStorage}
    (same : (first.deployment old role node).isModified (second.deployment etcd role other) =
      false) :
    first.cluster.topology.customerId = second.cluster.topology.customerId := by
  obtain ⟨-, sameChecksum, -⟩ := unmodified_iff.1 same
  have sameData := configData_of_checksum apart sameChecksum
  exact customer_of_environment validFirst valid sameId mem sameNode
    (environment_of_configData sameId sameNode sameData)

/-- Unless digests collide, what valid clusters with one id want for a node is one deployment if,
and only if, the comparison finds no difference and, for masters with their data on the host, the
directory is the same. -/
theorem deployment_eq_iff_unmodified (etcd : EtcdStorage) :
    first.deployment etcd role node = second.deployment etcd role other <->
      (first.deployment etcd role node).isModified (second.deployment etcd role other) = false ∧
        (role = .master -> etcd = .hostPath ->
          first.settings.etcdHostPath = second.settings.etcdHostPath) := by
  constructor
  · intro same
    have sameVolumes : first.volumes etcd role node = second.volumes etcd role other := by
      have specs := congrArg (fun deployment : Deployment =>
        (deployment.template.bind (·.spec)).bind (·.volumes)) same
      exact Option.some.inj specs
    refine ⟨?_, (volumes_eq_iff sameId etcd role sameNode).1 sameVolumes⟩
    rw [same]
    exact unmodified_iff.2 ⟨rfl, rfl, rfl⟩
  · rintro ⟨unmodified, sameDirectory⟩
    have sameCustomer :=
      customer_of_unmodified apart validFirst valid sameId mem sameNode unmodified
    exact deployment_congr sameId sameCustomer sameNode
      ((volumes_eq_iff sameId etcd role sameNode).2 sameDirectory) unmodified

end

/-- Of the settings a config map tells nothing but the domain. -/
theorem configData_congr {first second : Blueprint} (sameCluster : first.cluster = second.cluster)
    (sameDomain : first.settings.ingressDomain = second.settings.ingressDomain) (role : Role)
    (node : Node) : first.configData role node = second.configData role node := by
  simp only [configData, cloudConfig, cloudConfigEntries, environmentFile, environment, apiDomain,
    etcdDomain, ingressDomain, sameCluster, sameDomain]

/-- The small cluster from before there were versions of bundles. -/
def legacyCluster : Cluster := { smallCluster "al9qy" with version := "" }

/-- The operator moves the data of etcd to another directory, and no deployment is modified. -/
theorem deployment_unmodified_elsewhere :
    let first : Blueprint := ⟨legacyCluster, {}⟩
    let second : Blueprint := ⟨legacyCluster, { etcdHostPath := "/data/etcd" }⟩
    let node : Node := ⟨"m1", 2, "2G", "20G"⟩
    (legacyCluster.isValid = true ∧ (.master, node) ∈ legacyCluster.nodes) ∧
    (first.deployment .hostPath .master node).isModified (second.deployment .hostPath .master node) =
      false ∧
    first.deployment .hostPath .master node ≠ second.deployment .hostPath .master node := by
  intro first second node
  have valid : legacyCluster.isValid = true := by decide
  have mem : (.master, node) ∈ legacyCluster.nodes := by decide
  have sameData : first.configData .master node = second.configData .master node :=
    configData_congr rfl rfl .master node
  have apart : Digest.sha256 (checksumInput (first.configData .master node)) =
        Digest.sha256 (checksumInput (second.configData .master node)) ->
      checksumInput (first.configData .master node) =
        checksumInput (second.configData .master node) :=
    fun _ => congrArg checksumInput sameData
  have told := deployment_eq_iff_unmodified apart valid valid rfl mem rfl .hostPath
  refine ⟨⟨valid, mem⟩, unmodified_iff.2 ⟨rfl, congrArg checksum sameData, rfl⟩, fun same => ?_⟩
  have sameDirectory : first.settings.etcdHostPath = second.settings.etcdHostPath :=
    (told.1 same).2 rfl rfl
  exact absurd sameDirectory (by decide)

end Blueprint

end GuestFleet
