import GuestFleet.Proofs.Change.Merged
import GuestFleet.Proofs.Cluster.Territory
import GuestFleet.Proofs.Reconcile.Keeping

/-!
# Resources within bounds

The resources of a cluster write objects that belong to the cluster and delete from its
territory, whatever objects they find there. What all such commands keep is kept by every
pass over the cluster, and so is what is kept within narrower bounds that still have room for
all that the cluster needs and may remove.
-/

namespace GuestFleet

open Kube (Kind Object)
open Store (Slot slotOf)

variable {σ : Type} {around : Surroundings σ} {Inv : σ -> Prop}

/-! ## Bounds -/

/-- The commands on objects of a kind that a cluster with an id has a right to. -/
def Command.IsFor (id : String) (kind : Kind) : Command -> Prop
  | .get own _ _ => own = kind
  | .list own _ _ => own = kind
  | .create own object => own = kind ∧ Belongs id object
  | .replace own object => own = kind ∧ Belongs id object
  | .delete own space name _ => own = kind ∧ Territory id own (.make space name)
  | .patchCluster _ _ _ => False
  | .now => True
  | .pause _ => True
  | .record _ => True

/-- The slots that objects may be written to, and those that may be emptied. -/
structure Bounds where
  fills : Kind -> Slot -> Prop
  empties : Kind -> Slot -> Prop

/-- The bounds that a cluster with an id has at most. -/
def Bounds.ofId (id : String) : Bounds := ⟨Territory id, Territory id⟩

/-- The object belongs to the cluster and may be written. -/
def Bounds.Owns (bounds : Bounds) (id : String) {kind : Kind} (object : Object kind) : Prop :=
  Belongs id object ∧ bounds.fills kind (slotOf object)

/-- The commands on objects of a kind for a cluster within bounds. -/
def Command.IsWithin (bounds : Bounds) (id : String) (kind : Kind) : Command -> Prop
  | .get own _ _ => own = kind
  | .list own _ _ => own = kind
  | .create own object => own = kind ∧ bounds.Owns id object
  | .replace own object => own = kind ∧ bounds.Owns id object
  | .delete own space name _ => own = kind ∧ bounds.empties own (.make space name)
  | .patchCluster _ _ _ => False
  | .now => True
  | .pause _ => True
  | .record _ => True

/-- The widest bounds leave room for all that a cluster has a right to. -/
theorem Command.isFor_of_isWithin {id : String} {kind : Kind} {command : Command}
    (isWithin : command.IsWithin (Bounds.ofId id) id kind) : command.IsFor id kind := by
  cases command with
  | create own object => exact ⟨isWithin.1, isWithin.2.1⟩
  | replace own object => exact ⟨isWithin.1, isWithin.2.1⟩
  | _ => exact isWithin

namespace Request

section

variable {bounds : Bounds} {id : String} {kind : Kind}
  (guarded : Guarded around (Command.IsWithin bounds id kind) Inv)

include guarded

/-- Creating objects that the cluster owns keeps the invariant. -/
theorem keeps_createOwn {objects : List (Object kind)}
    (own : ∀ object ∈ objects, bounds.Owns id object) :
    (createAll objects).Keeps around Inv fun _ => True :=
  keeps_createAll guarded fun object mem => ⟨rfl, own object mem⟩

/-- So does replacing them. -/
theorem keeps_replaceOwn {objects : List (Object kind)}
    (own : ∀ object ∈ objects, bounds.Owns id object) :
    (replaceAll objects).Keeps around Inv fun _ => True :=
  keeps_replaceAll guarded fun object mem => ⟨rfl, own object mem⟩

/-- So does deleting from slots that may be emptied. -/
theorem keeps_deleteOwn {objects : List (Object kind)}
    (own : ∀ object ∈ objects, bounds.empties kind (slotOf object)) :
    (deleteAll none objects).Keeps around Inv fun _ => True :=
  keeps_deleteAll guarded fun object mem => ⟨rfl, own object mem⟩

/-- An object that belongs to a cluster does so after any merge, in the slot where it was. -/
theorem keeps_mergeOwn (isMerged : kind = .ingress ∨ kind = .service)
    {objects : List (Object kind)} (own : ∀ object ∈ objects, bounds.Owns id object) :
    (mergeAll objects).Keeps around Inv fun _ => True := by
  refine keeps_mergeAll guarded fun object mem => ?_
  obtain ⟨belongs, fills⟩ := own object mem
  have space : object.metadata.namespaceName = some id := by
    rw [belongs.space]
    rcases isMerged with rfl | rfl <;> rfl
  refine ⟨rfl, ⟨rfl, belongs.congr rfl rfl rfl, fills⟩, ?_⟩
  intro current merged slot merging
  refine ⟨rfl, belongs_of_space (.inr isMerged) ?_, ?_⟩
  · exact Object.mergeDesired_text Kube.Metadata.isText_namespaceName merging space
  · rw [Object.slotOf_mergeDesired merging slot]
    exact fills

end

section

variable {bounds : Bounds} {id : String}
  (guarded : Guarded around (Command.IsWithin bounds id .clusterRoleBinding) Inv)
  (empties : ∀ slot, bounds.fills .clusterRoleBinding slot ->
    bounds.empties .clusterRoleBinding slot)

include guarded empties

/-- Settling bindings hands out some of them. The induction is on the bindings; the one that
is replaced in place stays for later. -/
theorem keeps_settleBindings {bindings : List (Object .clusterRoleBinding)}
    (own : ∀ binding ∈ bindings, bounds.Owns id binding) :
    (Resource.settleBindings bindings).Keeps around Inv fun remaining => remaining ⊆ bindings := by
  induction bindings with
  | nil => exact keeps_pure (List.Subset.refl [])
  | cons binding bindings ih =>
    obtain ⟨belongs, fills⟩ := own binding List.mem_cons_self
    have others := ih fun other mem => own other (List.mem_cons_of_mem _ mem)
    have alone : ∀ object ∈ [binding], bounds.Owns id object := by
      intro object mem
      rw [List.mem_singleton.1 mem]
      exact ⟨belongs, fills⟩
    refine (keeps_getOptional guarded rfl).bind fun found slot => ?_
    cases found with
    | none =>
      refine (keeps_createOwn guarded alone).bind fun _ _ => ?_
      exact others.mono fun remaining within => List.subset_cons_of_subset _ within
    | some current =>
      refine keeps_ite (fun _ => ?_) fun _ => ?_
      · have there : bounds.empties .clusterRoleBinding (slotOf current) := by
          have space : binding.metadata.namespaceName = none := belongs.space
          have same : slotOf current = slotOf binding := by
            rw [slot current rfl, slotOf, space]
          rw [same]
          exact empties _ fills
        have found : ∀ object ∈ [current], bounds.empties .clusterRoleBinding (slotOf object) := by
          intro object mem
          rwa [List.mem_singleton.1 mem]
        refine (keeps_deleteOwn guarded found).bind fun _ _ => ?_
        refine (keeps_createOwn guarded alone).bind fun _ _ => ?_
        exact others.mono fun remaining within => List.subset_cons_of_subset _ within
      · refine others.bind fun remaining within => keeps_pure ?_
        exact List.cons_subset_cons binding within

/-- Bindings are deleted and created again, each within bounds. -/
theorem keeps_updateBindings {bindings : List (Object .clusterRoleBinding)}
    (own : ∀ binding ∈ bindings, bounds.Owns id binding) :
    (Resource.updateBindings bindings).Keeps around Inv fun _ => True := by
  refine (keeps_settleBindings guarded empties own).bind fun remaining within => ?_
  exact keeps_replaceOwn guarded fun binding mem => own binding (within mem)

end

end Request

namespace Resource

/-! ## What is read and what is wanted -/

/-- The objects made from a blueprint are those of the cluster. -/
theorem keeps_ofBlueprint {kind : Kind} (settings : ManifestSettings) (cluster : Cluster)
    {objects : Blueprint -> List (Object kind)} {wanted : Object kind -> Prop}
    (own : ∀ object ∈ objects ⟨cluster, settings⟩, wanted object) :
    (ofBlueprint settings cluster objects).Keeps around Inv fun desired =>
      ∀ object ∈ desired, wanted object := by
  unfold ofBlueprint Blueprint.make
  by_cases nameless : cluster.id.isEmpty = true
  · rw [if_pos nameless]
    exact Work.keeps_throw rfl
  · rw [if_neg nameless]
    exact Work.keeps_pure own

section

variable {bounds : Bounds} {id : String} {kind : Kind}
  (guarded : Guarded around (Command.IsWithin bounds id kind) Inv)

include guarded

/-- Objects that are read by name are in slots of these names. -/
theorem keeps_existing {space : Option String} {names : List String}
    (own : ∀ name ∈ names, bounds.empties kind (.make space name)) :
    (existing kind space names).Keeps around Inv fun current =>
      ∀ object ∈ current, bounds.empties kind (slotOf object) := by
  refine Work.keeps_ofRequest ((Request.keeps_getExisting guarded fun _ _ => rfl).mono ?_)
  intro current found object mem
  obtain ⟨name, among, slot⟩ := found object mem
  rw [slot]
  exact own name among

/-! ## Single resources -/

/-- The resource keeps the invariant, empties slots and writes objects of a cluster with the id
within bounds. -/
abbrev Within (around : Surroundings σ) (Inv : σ -> Prop) (bounds : Bounds) (id : String)
    (resource : Resource Program) : Prop :=
  resource.Keeps around Inv (fun object => bounds.empties resource.kind (slotOf object))
    (bounds.Owns id)

/-- A resource that creates, deletes and replaces stays within bounds if what it reads and wants
does. -/
theorem within_basic (name : String) {current desired : Work Program (List (Object kind))}
    (reads : current.Keeps around Inv fun objects =>
      ∀ object ∈ objects, bounds.empties kind (slotOf object))
    (desires : desired.Keeps around Inv fun objects =>
      ∀ object ∈ objects, bounds.Owns id object) :
    (basic name kind current desired).Within around Inv bounds id where
  reads := reads
  desires := desires
  compares current desired := by
    refine Work.keeps_pure ⟨?_, ?_, ?_⟩
    · exact List.filter_subset_self _
    · exact List.filter_subset_self _
    · exact List.filter_subset_self _
  picks current desired := Work.keeps_pure (List.filter_subset_self _)
  creates objects own := Work.keeps_ofRequest (Request.keeps_createOwn guarded own)
  deletes objects own := Work.keeps_ofRequest (Request.keeps_deleteOwn guarded own)
  updates objects own := Work.keeps_pure trivial

/-- So does a resource that merges its objects, which it reads by name. -/
theorem within_merging (isMerged : kind = .ingress ∨ kind = .service) {name : String}
    {names : List String} {cluster : Cluster} {desired : Work Program (List (Object kind))}
    (named : ∀ name ∈ names, bounds.empties kind (.make (some cluster.namespaceName) name))
    (desires : desired.Keeps around Inv fun objects =>
      ∀ object ∈ objects, bounds.Owns id object) :
    (merging name kind names cluster desired).Within around Inv bounds id :=
  { within_basic guarded name (keeps_existing guarded named) desires with
    creates := fun _ own =>
      Work.keeps_ofRequest (Request.keeps_mergeOwn guarded isMerged own)
    updates := fun _ own =>
      Work.keeps_ofRequest (Request.keeps_mergeOwn guarded isMerged own) }

end

/-- Reading the namespace keeps what reading it by its name keeps. -/
theorem keeps_namespaceState {cluster : Cluster} {post : List (Object .namespace) -> Prop}
    (reads : (existing .namespace none [cluster.namespaceName]).Keeps around Inv post) :
    (namespaceState cluster).Keeps around Inv post := by
  intro context state going kept
  refine Work.ends_bind.2 (Work.Ends.mono (reads context state going kept) ?_
    fun _ _ _ failed => failed)
  intro current context state landed
  refine Work.ends_bind.2 (Work.ends_getContext.2 ?_)
  by_cases stops : (context.event = .apply && current.any isTerminating) = true
  · rw [if_pos stops]
    refine Work.ends_bind.2 (Work.ends_setContext.2 (Work.ends_pure.2 ?_))
    refine (landed_rest rfl).2 ?_
    cases cancelled : context.cancelled with
    | true => exact (landed_rest cancelled).1 landed
    | false => exact ((landed_onward cancelled).1 landed).1
  · rw [if_neg stops]
    exact Work.ends_pure.2 landed

/-- Noting config maps tells no pass to stop. -/
theorem cancelled_noted (objects : List (Object .configMap)) (context : Context) :
    (objects.foldl (fun context object => context.noteConfigMap object.name) context).cancelled =
      context.cancelled := by
  induction objects generalizing context with
  | nil => rfl
  | cons object objects ih => exact ih (context.noteConfigMap object.name)

/-- Nor does it change what the pass runs for. -/
theorem event_noted (objects : List (Object .configMap)) (context : Context) :
    (objects.foldl (fun context object => context.noteConfigMap object.name) context).event =
      context.event := by
  induction objects generalizing context with
  | nil => rfl
  | cons object objects ih => exact ih (context.noteConfigMap object.name)

/-- One of the desired deployments is rolled, or none. -/
theorem nextRoll_sublist (context : Context) (current desired : List Deployment) :
    (nextRoll context current desired).Sublist desired := by
  unfold nextRoll
  split_ifs
  · have among : rollCandidates context current desired ⊆ desired := by
      intro deployment mem
      rcases List.mem_append.1 mem with mem | mem
      · exact List.mem_of_mem_filter mem
      · exact List.mem_of_mem_filter mem
    cases candidates : rollCandidates context current desired with
    | nil => exact List.nil_sublist desired
    | cons deployment others =>
      rw [candidates] at among
      exact List.singleton_sublist.2 (among List.mem_cons_self)
  · exact List.nil_sublist desired

/-! ## The resources of a cluster -/

/-- What a cluster finds by labels is in slots that may be emptied. -/
def FindsWithin (around : Surroundings σ) (Inv : σ -> Prop) (bounds : Bounds) (cluster : Cluster) :
    Kind -> Prop
  | .configMap =>
    (listed .configMap (some cluster.namespaceName) cluster.nodeSelector).Keeps around Inv
      fun objects => ∀ object ∈ objects, bounds.empties .configMap (slotOf object)
  | .deployment =>
    (listed .deployment (some cluster.namespaceName) cluster.nodeSelector).Keeps around Inv
      fun objects => ∀ object ∈ objects, bounds.empties .deployment (slotOf object)
  | .persistentVolumeClaim =>
    (listEtcdClaims cluster).Keeps around Inv
      fun objects => ∀ object ∈ objects, bounds.empties .persistentVolumeClaim (slotOf object)
  | _ => True

/-- Bounds that leave room for a cluster as far as objects of a kind are concerned: commands
within them keep the invariant, every slot of a desired object may be filled and emptied, and
so may every slot be emptied that the cluster finds by labels. -/
structure Suits (around : Surroundings σ) (Inv : σ -> Prop) (bounds : Bounds) (b : Blueprint)
    (kind : Kind) : Prop where
  guarded : Guarded around (Command.IsWithin bounds b.cluster.id kind) Inv
  fills : ∀ etcd, ∀ object ∈ b.desired etcd kind, bounds.fills kind (slotOf object)
  empties : ∀ slot, bounds.fills kind slot -> bounds.empties kind slot
  finds : FindsWithin around Inv bounds b.cluster kind

section

variable {bounds : Bounds} (settings : ManifestSettings) (etcd : EtcdStorage) (cluster : Cluster)

section

variable {kind : Kind} {settings cluster} (suits : Suits around Inv bounds ⟨cluster, settings⟩ kind)

include suits

/-- What is wanted of each kind is what belongs to the cluster. -/
theorem Suits.desired {objects : Blueprint -> List (Object kind)}
    (isDesired : objects ⟨cluster, settings⟩ = Blueprint.desired ⟨cluster, settings⟩ etcd kind) :
    (ofBlueprint settings cluster objects).Keeps around Inv fun desired =>
      ∀ object ∈ desired, bounds.Owns cluster.id object := by
  refine keeps_ofBlueprint settings cluster fun object mem => ?_
  rw [isDesired] at mem
  exact ⟨Blueprint.belongs_desired _ etcd mem, suits.fills etcd object mem⟩

/-- The slot of a desired object may be emptied. -/
theorem Suits.emptied {object : Object kind}
    (mem : object ∈ Blueprint.desired ⟨cluster, settings⟩ etcd kind) :
    bounds.empties kind (slotOf object) :=
  suits.empties _ (suits.fills etcd object mem)

end

/-- The namespace is read by its name, and stays within bounds. -/
theorem within_namespaces (suits : Suits around Inv bounds ⟨cluster, settings⟩ .namespace) :
    (namespaces settings cluster).Within around Inv bounds cluster.id := by
  refine within_basic suits.guarded _ (keeps_namespaceState ?_) (suits.desired .hostPath rfl)
  refine keeps_existing suits.guarded fun name mem => ?_
  rw [List.mem_singleton.1 mem]
  exact suits.emptied .hostPath List.mem_cons_self

/-- The service account is read by its name, and stays within bounds. -/
theorem within_serviceAccounts
    (suits : Suits around Inv bounds ⟨cluster, settings⟩ .serviceAccount) :
    (serviceAccounts settings cluster).Within around Inv bounds cluster.id := by
  refine within_basic suits.guarded _ ?_ (suits.desired .hostPath rfl)
  refine keeps_existing suits.guarded fun name mem => ?_
  rw [List.mem_singleton.1 mem]
  exact suits.emptied .hostPath List.mem_cons_self

/-- The bindings are read by their names, and stay within bounds. -/
theorem within_clusterRoleBindings
    (suits : Suits around Inv bounds ⟨cluster, settings⟩ .clusterRoleBinding) :
    (clusterRoleBindings settings cluster).Within around Inv bounds cluster.id :=
  have reads : (existing .clusterRoleBinding none
      [cluster.roleBindingName, cluster.pspRoleBindingName]).Keeps around Inv
      fun objects => ∀ object ∈ objects, bounds.empties .clusterRoleBinding (slotOf object) := by
    refine keeps_existing suits.guarded fun name mem => ?_
    rcases List.mem_cons.1 mem with rfl | mem
    · exact suits.emptied .hostPath List.mem_cons_self
    · rw [List.mem_singleton.1 mem]
      exact suits.emptied .hostPath (List.mem_cons_of_mem _ List.mem_cons_self)
  { within_basic suits.guarded "clusterrolebinding" reads (suits.desired .hostPath rfl) with
    updates := fun objects own =>
      Work.keeps_ofRequest (Request.keeps_updateBindings suits.guarded suits.empties own) }

/-- The config maps are found by labels, and stay within bounds. -/
theorem within_configMaps (suits : Suits around Inv bounds ⟨cluster, settings⟩ .configMap) :
    (configMaps settings cluster).Within around Inv bounds cluster.id :=
  { within_basic suits.guarded "configmap" suits.finds (suits.desired .hostPath rfl) with
    updates := fun objects own => by
      refine Work.keeps_request_bind (Request.keeps_replaceOwn suits.guarded own) fun _ _ => ?_
      intro context state going kept
      have onward := (cancelled_noted objects context).trans going
      exact Work.ends_modifyContext.2 ((landed_onward onward).2 ⟨kept, trivial⟩) }

/-- The claims are found by labels, and stay within bounds. -/
theorem within_etcdClaims
    (suits : Suits around Inv bounds ⟨cluster, settings⟩ .persistentVolumeClaim) :
    (etcdClaims settings cluster).Within around Inv bounds cluster.id :=
  within_basic suits.guarded _ suits.finds (suits.desired .persistentVolume rfl)

/-- The deployments are found by labels, and stay within bounds. -/
theorem within_deployments (suits : Suits around Inv bounds ⟨cluster, settings⟩ .deployment) :
    (deployments settings etcd cluster).Within around Inv bounds cluster.id :=
  { within_basic suits.guarded "deployment" suits.finds (suits.desired etcd rfl) with
    compares := fun current desired context state going kept => by
      refine Work.ends_bind.2 (Work.ends_getContext.2 (Work.ends_pure.2 ?_))
      exact (landed_onward going).2 ⟨kept, List.filter_subset_self _,
        List.filter_subset_self _, (nextRoll_sublist context current desired).subset⟩
    updates := fun objects own =>
      Work.keeps_ofRequest (Request.keeps_replaceOwn suits.guarded own) }

/-- The ingresses are read by their names, and stay within bounds. -/
theorem within_ingresses (suits : Suits around Inv bounds ⟨cluster, settings⟩ .ingress) :
    (ingresses settings cluster).Within around Inv bounds cluster.id := by
  refine within_merging suits.guarded (.inl rfl) (fun name mem => ?_) (suits.desired .hostPath rfl)
  rcases List.mem_cons.1 mem with rfl | mem
  · exact suits.emptied .hostPath List.mem_cons_self
  · rw [List.mem_singleton.1 mem]
    exact suits.emptied .hostPath (List.mem_cons_of_mem _ List.mem_cons_self)

/-- The services are read by their names, and stay within bounds. -/
theorem within_services (suits : Suits around Inv bounds ⟨cluster, settings⟩ .service) :
    (services settings cluster).Within around Inv bounds cluster.id := by
  refine within_merging suits.guarded (.inr rfl) (fun name mem => ?_) (suits.desired .hostPath rfl)
  rcases List.mem_cons.1 mem with rfl | mem
  · exact suits.emptied .hostPath List.mem_cons_self
  · rw [List.mem_singleton.1 mem]
    exact suits.emptied .hostPath (List.mem_cons_of_mem _ List.mem_cons_self)

/-- Every resource of a cluster stays within bounds that suit the cluster. -/
theorem within_ofCluster {resource : Resource Program}
    (mem : resource ∈ ofCluster settings etcd cluster)
    (suits : Suits around Inv bounds ⟨cluster, settings⟩ resource.kind) :
    resource.Within around Inv bounds cluster.id := by
  rcases List.mem_append.1 mem with mem | mem
  · rcases List.mem_append.1 mem with mem | mem
    · simp only [List.mem_cons, List.not_mem_nil, or_false] at mem
      rcases mem with rfl | rfl | rfl | rfl
      · exact within_namespaces settings cluster suits
      · exact within_serviceAccounts settings cluster suits
      · exact within_clusterRoleBindings settings cluster suits
      · exact within_configMaps settings cluster suits
    · cases etcd with
      | hostPath => cases mem
      | persistentVolume =>
        obtain rfl := List.mem_singleton.1 mem
        exact within_etcdClaims settings cluster suits
  · simp only [List.mem_cons, List.not_mem_nil, or_false] at mem
    rcases mem with rfl | rfl | rfl
    · exact within_deployments settings etcd cluster suits
    · exact within_ingresses settings cluster suits
    · exact within_services settings cluster suits

/-! ## The widest bounds -/

/-- The resource keeps the invariant, takes down what is in the territory of a cluster with
the id, and writes what belongs to the cluster. -/
abbrev Confined (around : Surroundings σ) (Inv : σ -> Prop) (id : String)
    (resource : Resource Program) : Prop :=
  resource.Keeps around Inv (fun object => Territory id resource.kind (slotOf object))
    (Belongs id)

/-- A list is of objects in the cluster's namespace. -/
theorem keeps_listed {id : String} {kind : Kind}
    (guarded : Guarded around (Command.IsFor id kind) Inv)
    (isLabelled : kind = .configMap ∨ kind = .deployment ∨ kind = .persistentVolumeClaim)
    (selector : String) :
    (Request.list kind (some id) selector).Keeps around Inv fun current =>
      ∀ object ∈ current, Territory id kind (slotOf object) := by
  refine (Request.keeps_list guarded rfl).mono ?_
  intro current found object mem
  have space : id = (slotOf object).space := by simpa using found object mem
  rcases isLabelled with rfl | rfl | rfl <;> exact space.symm

/-- The widest bounds suit the cluster, whatever it finds. -/
theorem suits_ofId {kind : Kind} (guarded : Guarded around (Command.IsFor cluster.id kind) Inv) :
    Suits around Inv (Bounds.ofId cluster.id) ⟨cluster, settings⟩ kind where
  guarded := guarded.mono fun _ => Command.isFor_of_isWithin
  fills etcd _ mem := (Blueprint.belongs_desired _ etcd mem).slot
  empties _ inside := inside
  finds := by
    cases kind with
    | configMap => exact Work.keeps_ofRequest (keeps_listed guarded (.inl rfl) _)
    | deployment => exact Work.keeps_ofRequest (keeps_listed guarded (.inr (.inl rfl)) _)
    | persistentVolumeClaim =>
      refine Work.keeps_request_bind (keeps_listed guarded (.inr (.inr rfl)) _) fun claims own => ?_
      exact Work.keeps_pure fun claim mem => own claim (List.mem_of_mem_filter mem)
    | _ => trivial

/-- Every resource of a cluster keeps what the commands for the cluster keep. -/
theorem confined_ofCluster {resource : Resource Program}
    (mem : resource ∈ ofCluster settings etcd cluster)
    (guarded : Guarded around (Command.IsFor cluster.id resource.kind) Inv) :
    resource.Confined around Inv cluster.id := by
  have within := within_ofCluster settings etcd cluster mem (suits_ofId settings cluster guarded)
  have same : ((Bounds.ofId cluster.id).Owns cluster.id : Object resource.kind -> Prop) =
      Belongs cluster.id := by
    funext object
    exact propext ⟨And.left, fun belongs => ⟨belongs, belongs.slot⟩⟩
  rwa [Within, same] at within

end

end Resource

/-- A pass over a cluster keeps an invariant when it runs within bounds that suit the cluster,
however the pass ends. -/
theorem Pass.overCluster_keeps_within (config : Config) (cluster : Cluster) (event : Event)
    {bounds : Bounds}
    (suits : ∀ kind, Resource.Suits around Inv bounds ⟨cluster, config.manifests⟩ kind) :
    (Pass.overCluster config cluster event).Keeps around Inv fun _ => True := by
  unfold overCluster
  cases Resource.bundles.resolve cluster.version with
  | error failure => exact Request.keeps_throw
  | ok etcd =>
    refine run_keeps fun handler mem context state going kept => ?_
    obtain ⟨resource, among, rfl⟩ := List.mem_map.1 mem
    have within := Resource.within_ofCluster config.manifests etcd cluster among
      (suits resource.kind)
    exact within.handles config.retry cluster.namespaceName event going kept

/-- A pass over a cluster keeps what the commands for the cluster keep, whatever the
settings and the version, and however the pass ends. -/
theorem Pass.overCluster_keeps (config : Config) (cluster : Cluster) (event : Event)
    (guarded : ∀ kind, Guarded around (Command.IsFor cluster.id kind) Inv) :
    (Pass.overCluster config cluster event).Keeps around Inv fun _ => True :=
  overCluster_keeps_within config cluster event fun kind =>
    Resource.suits_ofId config.manifests cluster (guarded kind)

end GuestFleet
