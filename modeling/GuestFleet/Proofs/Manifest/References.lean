import GuestFleet.Proofs.Cluster.Desired

/-!
# References between objects

The objects of a cluster are made one kind after the other, and refer to each other by names,
labels and ports. What an object refers to is read off the object here, the way that the API
server and the kubelet do, and is there among the objects that are made with it.
-/

namespace GuestFleet

open Kube (Backend Kind Object ServicePort StringMap Subject Volume)

/-! ## What objects refer to -/

/-- The labels have every entry of the selector. -/
def Kube.StringMap.selects (selector labels : StringMap) : Bool :=
  selector.all fun entry => StringMap.find labels entry.1 == some entry.2

namespace Deployment

variable (deployment : Deployment)

/-- The labels of the pods that a deployment makes. -/
def podLabels : StringMap :=
  ((deployment.template.bind (·.metadata)).bind (·.labels)).getD []

/-- The labels by which a deployment knows its pods. Without any it takes all for its own. -/
def selector : StringMap :=
  (deployment.body.spec.bind (·.selector.matchLabels)).getD []

/-- The service account that the pods run as. -/
def account : Option String := (deployment.template.bind (·.spec)).bind (·.serviceAccountName)

/-- The volumes that are mounted into a container. -/
def mounted : List Volume :=
  (((deployment.template.bind (·.spec)).bind (·.volumes)).getD []).filter fun volume =>
    deployment.containers.any fun container =>
      (container.volumeMounts.getD []).any (·.name == volume.name)

/-- The config maps that are mounted. -/
def mountedConfigMaps : List String := deployment.mounted.filterMap fun volume =>
  volume.configMap.map (·.name)

/-- The claims whose volumes are mounted. -/
def mountedClaims : List String := deployment.mounted.filterMap fun volume =>
  volume.persistentVolumeClaim.map (·.claimName)

/-- The deployment goes with a config map: it has the same name, knows the checksum of the data,
and mounts the config map and no other one. -/
structure Follows (configMap : Object .configMap) : Prop where
  name : deployment.name = configMap.name
  checksum : deployment.checksum = configMap.body.data.map GuestFleet.checksum
  data : configMap.body.data.isSome = true
  mounts : deployment.mountedConfigMaps = [configMap.name]

end Deployment

/-- The service leads to pods with the labels. One without a selector leads to none. -/
def Kube.Object.leadsTo (service : Object .service) (labels : StringMap) : Bool :=
  match service.body.spec.bind (·.selector) with
  | some selector => selector.selects labels
  | none => false

/-- The ports of a service. -/
def Kube.Object.ports (service : Object .service) : List ServicePort :=
  (service.body.spec.bind (·.ports)).getD []

/-- What an ingress hands requests to, for all hosts and paths. -/
def Kube.Object.backends (ingress : Object .ingress) : List Backend :=
  ((ingress.body.spec.bind (·.rules)).getD []).flatMap fun rule =>
    ((rule.http.map (·.paths)).getD []).map (·.backend)

/-- The backend is a port of the service. -/
def Kube.Backend.IsPortOf (backend : Backend) (service : Object .service) : Prop :=
  ∃ target, backend.service = some target ∧ target.name = service.name ∧
    ∃ port ∈ service.ports, target.port.bind (·.number) = some port.port

namespace Blueprint

/-! ## Coherence -/

/-- The deployments in the places of the nodes of a role. -/
def deploymentsOf (b : Blueprint) (etcd : EtcdStorage) (role : Role) : List Deployment :=
  ((b.cluster.nodes.zip (b.deployments etcd)).filter fun entry => entry.1.1 = role).map Prod.snd

/-- Whatever an object of the cluster refers to is there, and is what it is meant to be. -/
structure Coherent (b : Blueprint) (etcd : EtcdStorage) : Prop where
  /-- All objects have names. -/
  named : ∀ kind, ∀ object ∈ b.desired etcd kind, object.metadata.name = some object.name
  /-- All objects but those that belong to no namespace are in the one that is made. -/
  spaces : ∀ kind, ∀ object ∈ b.desired etcd kind, object.metadata.namespaceName =
    if kind.isNamespaced then some b.namespaceObject.name else none
  /-- Deployments and config maps come in the same order. -/
  paired : List.Forall₂ Deployment.Follows (b.deployments etcd) b.configMaps
  accounts : ∀ deployment ∈ b.deployments etcd,
    deployment.account = some b.serviceAccount.name
  /-- A deployment knows its pods by all of their labels. -/
  selectors : ∀ deployment ∈ b.deployments etcd, deployment.selector = deployment.podLabels
  /-- No deployment takes the pods of another one for its own. -/
  apart : ∀ (i j : Nat) (deployment other : Deployment),
    (b.deployments etcd)[i]? = some deployment -> (b.deployments etcd)[j]? = some other ->
      deployment.selector.selects other.podLabels = true -> i = j
  /-- The masters use the claims that are made, in the same order. -/
  claims : etcd = .persistentVolume ->
    (b.deploymentsOf etcd .master).flatMap Deployment.mountedClaims = b.etcdClaims.map (·.name)
  workers : ∀ deployment ∈ b.deploymentsOf etcd .worker, deployment.mountedClaims = []
  /-- There is a service for each role, which leads to the pods of the role and to no others. -/
  services : List.Forall₂
    (fun role service => service.name = role.name ∧
      ∀ deployment ∈ b.deployments etcd,
        service.leadsTo deployment.podLabels = true <-> deployment ∈ b.deploymentsOf etcd role)
    [Role.master, Role.worker] b.services
  /-- There is an ingress for etcd and one for the API, and what they hand requests to are ports of
  the service of the masters. -/
  ingresses : List.Forall₂
    (fun name ingress => ingress.name = name ∧ ingress.backends ≠ [] ∧
      ∀ backend ∈ ingress.backends, ∃ service ∈ b.services,
        service.name = Role.master.name ∧ backend.IsPortOf service)
    ["etcd", "api"] b.ingresses
  /-- There are two bindings, which grant roles to the account of the pods alone. -/
  bindings : List.Forall₂
    (fun name binding => binding.name = name ∧ binding.body.subjects =
      some [{ kind := "ServiceAccount", name := b.serviceAccount.name,
              namespaceName := some b.namespaceObject.name }])
    [b.cluster.roleBindingName, b.cluster.pspRoleBindingName] b.roleBindings

section

variable (b : Blueprint) (etcd : EtcdStorage)

/-- The deployment of a node mounts and names the config map of the same node. -/
theorem follows_deployment (role : Role) (node : Node) :
    (b.deployment etcd role node).Follows (b.configMap role node) := by
  refine ⟨rfl, rfl, rfl, ?_⟩
  cases role with
  | master => cases etcd <;> rfl
  | worker => rfl

/-- Only masters that keep etcd on volumes mount a claim, which is their own. -/
theorem mountedClaims_deployment (role : Role) (node : Node) :
    (b.deployment etcd role node).mountedClaims =
      match etcd, role with
      | .persistentVolume, .master => [(b.etcdClaim node).name]
      | _, _ => [] := by
  cases role <;> cases etcd <;> rfl

/-- Labels of nodes select those of the same node only. -/
theorem id_of_selects {cluster : Cluster} {role other : Role} {node second : Node}
    (selects : StringMap.selects (cluster.nodeLabels role node)
      (cluster.nodeLabels other second) = true) : node.id = second.id := by
  have mem : (nodeLabel, node.id) ∈ cluster.nodeLabels role node :=
    List.mem_append_right _ (List.mem_singleton_self _)
  have found := List.all_eq_true.1 selects _ mem
  exact (Option.some.inj (eq_of_beq found)).symm

/-- A service selects the labels of all nodes of its role, and of no others. -/
theorem selects_podSelector (role other : Role) (node : Node) :
    StringMap.selects (b.podSelector role) (b.cluster.nodeLabels other node) = true <->
      other = role := by
  have eq : StringMap.selects (b.podSelector role) (b.cluster.nodeLabels other node) =
      (some other.name == some role.name && (some b.cluster.id == some b.cluster.id && true)) :=
    rfl
  rw [eq]
  cases role <;> cases other <;> simp [Role.name]

/-- The deployments of a role are made for its nodes. -/
theorem deploymentsOf_eq (role : Role) :
    b.deploymentsOf etcd role =
      (b.cluster.nodes.filter fun node => node.1 = role).map fun node =>
        b.deployment etcd node.1 node.2 := by
  unfold deploymentsOf deployments
  induction b.cluster.nodes with
  | nil => rfl
  | cons node nodes ih =>
    by_cases own : node.1 = role
    · simp [own, ih]
    · simp [own, ih]

/-- The deployments of a role are those of its nodes. -/
theorem mem_deploymentsOf {role : Role} {deployment : Deployment} :
    deployment ∈ b.deploymentsOf etcd role <->
      ∃ node, (role, node) ∈ b.cluster.nodes ∧ b.deployment etcd role node = deployment := by
  rw [deploymentsOf_eq, List.mem_map]
  constructor
  · rintro ⟨⟨other, node⟩, mem, rfl⟩
    obtain ⟨among, own⟩ := List.mem_filter.1 mem
    obtain rfl : other = role := of_decide_eq_true own
    exact ⟨node, among, rfl⟩
  · rintro ⟨node, mem, rfl⟩
    exact ⟨(role, node), List.mem_filter.2 ⟨mem, decide_eq_true rfl⟩, rfl⟩

/-- The masters among the nodes are those of the topology. -/
theorem filter_nodes_master (cluster : Cluster) :
    (cluster.nodes.filter fun node => node.1 = .master) =
      cluster.topology.masters.map fun node => (.master, node) := by
  simp [Cluster.nodes, List.filter_map, Function.comp_def]

/-- The service of a role leads to the pods of its nodes. -/
theorem leadsTo_service (role : Role) (type : String) (ports : List ServicePort)
    {deployment : Deployment} (mem : deployment ∈ b.deployments etcd) :
    (b.service role type ports).leadsTo deployment.podLabels = true <->
      deployment ∈ b.deploymentsOf etcd role := by
  obtain ⟨⟨other, node⟩, among, rfl⟩ := List.mem_map.1 mem
  have leads : (b.service role type ports).leadsTo (b.deployment etcd other node).podLabels = true
      <-> other = role := b.selects_podSelector role other node
  rw [leads, mem_deploymentsOf]
  constructor
  · rintro rfl
    exact ⟨node, among, rfl⟩
  · rintro ⟨second, -, same⟩
    have labels : b.cluster.nodeLabels role second = b.cluster.nodeLabels other node :=
      congrArg Deployment.podLabels same
    have names : role.name = other.name := (Prod.mk.inj (List.cons.inj labels).1).2
    cases role <;> cases other
    · rfl
    · exact absurd names (by decide)
    · exact absurd names (by decide)
    · rfl

/-- An ingress hands all its requests to a port of the service of the masters. -/
theorem backend_ingress (name host : String) (port : Int) :
    (b.ingress name host port).backends =
      [{ service := some { name := Role.master.name, port := some { number := some port } } }] :=
  rfl

/-- The masters are reached through their service. -/
theorem isPortOf_masters {port : Int} (isPort : port = apiPort ∨ port = etcdPort) :
    ∃ service ∈ b.services, service.name = Role.master.name ∧
      ({ service := some { name := Role.master.name, port := some { number := some port } } } :
        Backend).IsPortOf service := by
  refine ⟨_, List.mem_cons_self, rfl, _, rfl, rfl, ?_⟩
  rcases isPort with rfl | rfl
  · exact ⟨_, List.mem_cons_self, rfl⟩
  · exact ⟨_, List.mem_cons_of_mem _ List.mem_cons_self, rfl⟩

/-- What is made for a valid cluster is coherent. -/
theorem coherent_of_valid (valid : b.cluster.isValid = true) : b.Coherent etcd where
  named _ _ mem := (b.metadata_desired etcd mem).1
  spaces _ _ mem := (b.belongs_desired etcd mem).space
  paired := by
    rw [deployments, configMaps, List.forall₂_map_left_iff, List.forall₂_map_right_iff,
      List.forall₂_same]
    exact fun node _ => b.follows_deployment etcd node.1 node.2
  accounts := by
    intro deployment mem
    obtain ⟨node, -, rfl⟩ := List.mem_map.1 mem
    rfl
  selectors := by
    intro deployment mem
    obtain ⟨node, -, rfl⟩ := List.mem_map.1 mem
    rfl
  apart := by
    intro i j deployment other at_i at_j selects
    rw [deployments, List.getElem?_map] at at_i at_j
    obtain ⟨node, nodeAt, rfl⟩ := Option.map_eq_some_iff.1 at_i
    obtain ⟨second, secondAt, rfl⟩ := Option.map_eq_some_iff.1 at_j
    have same : node.2.id = second.2.id := id_of_selects selects
    have within : i < (b.cluster.nodes.map fun node => node.2.id).length := by
      rw [List.length_map]
      exact (List.getElem?_eq_some_iff.1 nodeAt).1
    refine (List.getElem?_inj within (Cluster.nodes_of_valid valid)).1 ?_
    rw [List.getElem?_map, List.getElem?_map, nodeAt, secondAt, Option.map_some, Option.map_some,
      same]
  claims := by
    rintro rfl
    rw [deploymentsOf_eq, filter_nodes_master, List.map_map, List.flatMap_map, etcdClaims,
      List.map_map]
    simp only [Function.comp_apply, mountedClaims_deployment]
    exact List.map_eq_flatMap.symm
  workers := by
    intro deployment mem
    obtain ⟨node, -, rfl⟩ := (b.mem_deploymentsOf etcd).1 mem
    rw [mountedClaims_deployment]
    cases etcd <;> rfl
  services :=
    .cons ⟨rfl, fun _ mem => b.leadsTo_service etcd .master _ _ mem⟩
      (.cons ⟨rfl, fun _ mem => b.leadsTo_service etcd .worker _ _ mem⟩ .nil)
  ingresses := by
    have reached {port : Int} (isPort : port = apiPort ∨ port = etcdPort) (name host : String) :
        (b.ingress name host port).backends ≠ [] ∧
          ∀ backend ∈ (b.ingress name host port).backends, ∃ service ∈ b.services,
            service.name = Role.master.name ∧ backend.IsPortOf service := by
      rw [backend_ingress]
      refine ⟨List.cons_ne_nil _ _, fun backend mem => ?_⟩
      rw [List.mem_singleton.1 mem]
      exact b.isPortOf_masters isPort
    exact .cons ⟨rfl, reached (.inr rfl) _ _⟩ (.cons ⟨rfl, reached (.inl rfl) _ _⟩ .nil)
  bindings := .cons ⟨rfl, rfl⟩ (.cons ⟨rfl, rfl⟩ .nil)

end

/-- A blueprint can be made of every valid cluster, and what is made from it is coherent. -/
theorem make_coherent {cluster : Cluster} (valid : cluster.isValid = true)
    (settings : ManifestSettings) (etcd : EtcdStorage) :
    ∃ b, make cluster settings = .ok b ∧ b.cluster = cluster ∧ b.settings = settings ∧
      b.Coherent etcd := by
  refine ⟨⟨cluster, settings⟩, ?_, rfl, rfl, coherent_of_valid _ etcd valid⟩
  rw [make, (Cluster.id_of_valid valid).2]
  rfl

/-- The objects of a master and a worker refer to each other. -/
theorem make_coherent_pair :
    ∃ b, make (pairCluster "al9qy") {} = .ok b ∧ b.cluster = pairCluster "al9qy" ∧
      b.settings = {} ∧ b.Coherent .persistentVolume :=
  make_coherent (by decide) {} .persistentVolume

end Blueprint

end GuestFleet
