import GuestFleet.Proofs.Reconcile.Passes
import GuestFleet.Proofs.Resource.Confined
import GuestFleet.Proofs.Resource.Progress
import GuestFleet.Proofs.Resource.Readings

/-!
# Resources that settle their objects

What the resources of a cluster have in common: they look into some slots, want some
objects, compare the two in the usual way, and their requests make progress.
-/

namespace GuestFleet

open Kube (Kind Object)
open Store (Collection Slot View slotOf)
open Request (slotsOf)

/-! ## Progress in a pass -/

section

variable {kind : Kind} {sees : Slot -> Prop} {desired : List (Object kind)}
  {missing stale missingAfter staleAfter : Object kind -> Prop}
  {surplus surplusAfter : Slot -> Prop}

/-- The pass runs for the same event, and is to stop if it was to stop before. -/
def Context.SameCourse (context after : Context) : Prop :=
  after.event = context.event ∧ after.cancelled = context.cancelled

/-- A pass that goes on is on the same course. -/
theorem Context.SameCourse.refl {context : Context} : context.SameCourse context := ⟨rfl, rfl⟩

/-- Every end of a part of a pass leaves less that is missing, stale and in surplus, and does
not tell the pass to stop. -/
def Work.Advances (sees : Slot -> Prop) (desired : List (Object kind))
    (missing stale : Object kind -> Prop) (surplus : Slot -> Prop)
    (missingAfter staleAfter : Object kind -> Prop) (surplusAfter : Slot -> Prop)
    (work : Work Program Unit) : Prop :=
  ∀ (context : Context) (c : Collection kind), Underway sees desired missing stale surplus c ->
    work.Ends (View.collection kind).around context c
      (fun _ after d => context.SameCourse after ∧
        Underway sees desired missingAfter staleAfter surplusAfter d)
      fun _ after d => context.SameCourse after ∧
        Underway sees desired missing stale surplus d

/-- A request that makes progress does so in a pass. -/
theorem Work.advances_ofRequest {request : Request Unit}
    (advances : request.Advances sees desired missing stale surplus (fun _ => missingAfter)
      (fun _ => staleAfter) surplusAfter) :
    (Work.ofRequest request).Advances sees desired missing stale surplus missingAfter staleAfter
      surplusAfter := by
  intro context c underway
  refine Work.ends_ofRequest.2 (Request.Ends.mono (advances c underway) ?_ ?_)
  · intro _ d done
    exact ⟨.refl, done⟩
  · intro _ d broken
    exact ⟨.refl, broken⟩

/-- What is left over may be said to be more. -/
theorem Work.Advances.mono {work : Work Program Unit}
    {moreMissing moreStale : Object kind -> Prop} {moreSurplus : Slot -> Prop}
    (advances : work.Advances sees desired missing stale surplus missingAfter staleAfter
      surplusAfter)
    (missings : ∀ object, missingAfter object -> moreMissing object)
    (stales : ∀ object, staleAfter object -> moreStale object)
    (surpluses : ∀ slot, surplusAfter slot -> moreSurplus slot) :
    work.Advances sees desired missing stale surplus moreMissing moreStale moreSurplus := by
  intro context c underway
  refine Work.Ends.mono (advances context c underway) ?_ fun _ _ _ failed => failed
  rintro _ after d ⟨course, done⟩
  exact ⟨course, done.mono missings stales surpluses⟩

end

/-! ## The difference that was read -/

section

variable {kind : Kind} {id : String} {sees : Slot -> Prop} {c : Collection kind}
  {current desired : List (Object kind)}

/-- Objects that were read differ from the desired ones by what the comparison has found. -/
theorem underway_of_reading (steady : c.Steady) (owned : c.Owned id)
    (reading : IsReading sees c current) (calm : ∀ object ∈ current, object.stopsPass = false)
    (target : Target id sees desired) {update : List (Object kind)}
    (all : kind ≠ .deployment -> update = Diff.modified current desired) :
    Underway sees desired (· ∈ Diff.created current desired) (· ∈ update)
      (· ∈ slotsOf (Diff.obsolete current desired)) c := by
  have sound := steady.sound
  have read : ∀ {slot : Slot} {object : Object kind}, sees slot -> c.stored slot = some object ->
      slotOf object = slot ∧ object ∈ current := by
    intro slot object seen stored
    have same := sound.slotOf_stored stored
    refine ⟨same, (reading object).2 ?_⟩
    rw [same]
    exact ⟨seen, stored⟩
  refine ⟨steady, ?_, ?_, ?_⟩
  · intro object mem there
    by_contra absent
    rw [Bool.not_eq_true, Option.isSome_eq_false_iff, Option.isNone_iff_eq_none] at absent
    exact there ((reading.mem_created sound owned target).2 ⟨mem, absent⟩)
  · intro object mem fresh existing stored
    refine ⟨calm existing (read (target.seen object mem) stored).2, fun notDeployment => ?_⟩
    by_contra differs
    rw [Bool.not_eq_false] at differs
    rw [all notDeployment] at fresh
    exact fresh ((reading.mem_modified sound owned target).2 ⟨mem, existing, stored, differs⟩)
  · intro slot seen held
    obtain ⟨object, stored⟩ := Option.isSome_iff_exists.1 held
    obtain ⟨same, among⟩ := read seen stored
    by_cases obsolete : object ∈ Diff.obsolete current desired
    · exact .inl (List.mem_map.2 ⟨object, obsolete, same⟩)
    · right
      by_contra unwanted
      refine obsolete ((reading.mem_obsolete owned target).2 ⟨among, fun wanted mem own => ?_⟩)
      exact unwanted ⟨wanted, mem, own.trans same⟩

end

namespace Resource

/-- A change that a resource may apply: it writes desired objects, and deletes what is in the
way of none of them. -/
structure Proper {kind : Kind} (desired : List (Object kind)) (change : ChangeSet kind) :
    Prop where
  creates : change.create ⊆ desired
  deletes : ∀ object ∈ change.delete, ∀ other ∈ desired, slotOf other ≠ slotOf object
  updates : change.update.Sublist desired
  /-- Only what differs is written again, deployments apart. -/
  differs : kind ≠ .deployment -> ∀ object ∈ change.update,
    ∃ existing : Object kind, existing.isModified object = true

/-- What comes of comparing the current objects with the desired ones: everything that
differs, or of deployments some. -/
structure Compared {kind : Kind} (context : Context) (current desired : List (Object kind))
    (change : ChangeSet kind) : Prop where
  create : change.create = Diff.created current desired
  delete : change.delete = Diff.obsolete current desired
  within : change.update.Sublist desired
  all : kind ≠ .deployment -> change.update = Diff.modified current desired
  /-- Without a new config map only one deployment that differs is rolled. -/
  rolled : kind = .deployment -> context.updatedConfigMaps = [] ->
    change.update.Sublist ((Diff.modified current desired).take 1)

/-- What the resources of a cluster have in common. -/
structure Tends (id : String) (resource : Resource Program) (sees : Slot -> Prop)
    (desired : List (Object resource.kind)) : Prop where
  target : Target id sees desired
  looks : resource.currentState.Looks id sees
  wants : resource.desiredState = pure desired
  compares : ∀ current (context : Context) (c : Collection resource.kind),
    (resource.updatePatch current desired).Ends (View.collection resource.kind).around context c
      (fun change after d => after = context ∧ d = c ∧ Compared context current desired change)
      fun _ _ _ => False
  creates : ∀ objects, objects ⊆ desired -> ∀ missing stale surplus,
    (resource.applyCreate objects).Advances sees desired missing stale surplus
      (Without missing objects) stale surplus
  deletes : ∀ objects,
    (∀ object ∈ objects, ∀ other ∈ desired, slotOf other ≠ slotOf object) ->
    ∀ missing stale surplus,
      (resource.applyDelete objects).Advances sees desired missing stale surplus missing stale
        (Without surplus (slotsOf objects))
  updates : ∀ objects, objects.Sublist desired ->
    (resource.kind ≠ .deployment -> ∀ object ∈ objects,
      ∃ existing : Object resource.kind, existing.isModified object = true) ->
    ∀ missing stale surplus, (∀ object ∈ objects, missing object) ->
      (resource.applyUpdate objects).Advances sees desired missing stale surplus
        (Without missing objects) (Without stale objects) surplus
  rolls : resource.kind = .deployment ->
    resource.applyUpdate = fun objects => Work.ofRequest (Request.replaceAll objects)

section

variable {kind : Kind} {id : String} {sees : Slot -> Prop} {desired : List (Object kind)}

/-! ## The usual phases -/

/-- What is to be updated is compared in the usual way. -/
theorem compares_updates (notDeployment : kind ≠ .deployment) (current : List (Object kind))
    (context : Context) (c : Collection kind) :
    (return .updates current desired : Work Program (ChangeSet kind)).Ends
      (View.collection kind).around context c
      (fun change after d => after = context ∧ d = c ∧ Compared context current desired change)
      fun _ _ _ => False := by
  refine Work.ends_pure.2 ⟨rfl, rfl, rfl, rfl, List.filter_sublist, fun _ => rfl, ?_⟩
  intro isDeployment
  exact absurd isDeployment notDeployment

variable (target : Target id sees desired)

include target

/-- Creating desired objects makes progress. -/
theorem advances_create
    (good : ∀ object ∈ desired, ∀ c : Collection kind, IsGood (c.versioned object) object)
    (objects : List (Object kind)) (wanted : objects ⊆ desired)
    (missing stale : Object kind -> Prop) (surplus : Slot -> Prop) :
    (Work.ofRequest (Request.createAll objects)).Advances sees desired missing stale surplus
      (Without missing objects) stale surplus :=
  Work.advances_ofRequest
    (Request.advances_createAll target.apart wanted fun object mem => good object (wanted mem))

omit target in
/-- Deleting undesired ones makes progress. -/
theorem advances_delete (objects : List (Object kind))
    (unwanted : ∀ object ∈ objects, ∀ other ∈ desired, slotOf other ≠ slotOf object)
    (missing stale : Object kind -> Prop) (surplus : Slot -> Prop) :
    (Work.ofRequest (Request.deleteAll none objects)).Advances sees desired missing stale surplus
      missing stale (Without surplus (slotsOf objects)) :=
  Work.advances_ofRequest (Request.advances_deleteAll unwanted)

/-- Replacing desired ones makes progress. -/
theorem advances_replace
    (good : ∀ object ∈ desired, ∀ c : Collection kind, IsGood (c.versioned object) object)
    (objects : List (Object kind)) (wanted : objects.Sublist desired)
    (missing stale : Object kind -> Prop) (surplus : Slot -> Prop) :
    (Work.ofRequest (Request.replaceAll objects)).Advances sees desired missing stale surplus
      (Without missing objects) (Without stale objects) surplus :=
  Work.advances_ofRequest (Request.advances_replaceAll target wanted.subset
    fun object mem => good object (wanted.subset mem))

variable {current wanted : Work Program (List (Object kind))} (looks : current.Looks id sees)
  (wants : wanted = pure desired)

include looks wants

/-- A resource whose objects never differ. -/
theorem tends_basic (name : String)
    (good : ∀ object ∈ desired, ∀ c : Collection kind, IsGood (c.versioned object) object)
    (alike : ∀ existing object : Object kind, existing.isModified object = false)
    (notDeployment : kind ≠ .deployment) :
    (basic name kind current wanted).Tends id sees desired where
  target := target
  looks := looks
  wants := wants
  compares := compares_updates notDeployment
  creates := advances_create target good
  deletes := advances_delete
  rolls isDeployment := absurd isDeployment notDeployment
  updates objects _ differs missing stale surplus _ := by
    have nothing : objects = [] := by
      refine List.eq_nil_iff_forall_not_mem.2 fun object mem => ?_
      obtain ⟨existing, modified⟩ := differs notDeployment object mem
      cases (alike existing object).symm.trans modified
    subst nothing
    intro context c underway
    refine Work.ends_pure.2 ⟨.refl, underway.mono ?_ ?_ fun _ held => held⟩
    · intro object isMissing
      exact ⟨isMissing, List.not_mem_nil⟩
    · intro object isStale
      exact ⟨isStale, List.not_mem_nil⟩

end

/-! ## Single resources -/

/-- What is written as it is desired is as desired. -/
theorem good_desired (b : Blueprint) (etcd : EtcdStorage) (kind : Kind)
    (plain : kind ≠ .ingress ∧ kind ≠ .service) :
    ∀ object ∈ b.desired etcd kind,
      ∀ c : Collection kind, IsGood (c.versioned object) object := by
  intro object mem c
  refine isGood_versioned c ?_ plain
  cases kind with
  | «namespace» =>
    rw [List.mem_singleton.1 mem]
    rfl
  | _ => rfl

/-- Slots that are seen for the sake of names are those of the desired objects. -/
theorem named_iff {kind : Kind} {desired : List (Object kind)} {space : Option String}
    {names : List String}
    (slots : desired.map slotOf = names.map fun name => Slot.make space name) (slot : Slot) :
    (∃ object ∈ desired, slotOf object = slot) <->
      ∃ name ∈ names, Slot.make space name = slot := by
  rw [← List.mem_map, slots, List.mem_map]

/-- A resource whose objects are merged. -/
theorem tends_merging {kind : Kind} (isMerged : kind = .ingress ∨ kind = .service)
    {cluster : Cluster} {names : List String} {desired : List (Object kind)} {sees : Slot -> Prop}
    (target : Target cluster.id sees desired)
    (named : ∀ slot, sees slot <-> ∃ name ∈ names, Slot.make (some cluster.id) name = slot)
    {wanted : Work Program (List (Object kind))} (wants : wanted = pure desired) (name : String) :
    (merging name kind names cluster wanted).Tends cluster.id sees desired :=
  have calm : ∀ object : Object kind, object.stopsPass = false := by
    rcases isMerged with rfl | rfl <;> exact fun _ => rfl
  have notDeployment : kind ≠ .deployment := by
    rcases isMerged with rfl | rfl <;> decide
  { target := target
    looks := looks_existing calm named
    wants := wants
    compares := compares_updates notDeployment
    rolls := fun isDeployment => absurd isDeployment notDeployment
    creates := fun objects wanted missing stale surplus =>
      (Work.advances_ofRequest (Request.advances_mergeAll isMerged target wanted)).mono
        (fun _ held => held) (fun _ held => held.1) fun _ held => held
    deletes := advances_delete
    updates := fun objects wanted _ missing stale surplus _ =>
      Work.advances_ofRequest (Request.advances_mergeAll isMerged target wanted.subset) }

section

variable (b : Blueprint) (etcd : EtcdStorage) (valid : b.cluster.isValid = true)

include valid

/-- A valid cluster has a blueprint. -/
theorem ofBlueprint_eq {kind : Kind} (objects : Blueprint -> List (Object kind)) :
    ofBlueprint b.settings b.cluster objects = pure (objects b) := by
  rw [ofBlueprint, Blueprint.make_of_valid valid]

/-- The namespace settles. -/
theorem tends_namespaces : (namespaces b.settings b.cluster).Tends b.cluster.id
    (b.Sees etcd .namespace) (b.desired etcd .namespace) := by
  have target := b.target_desired etcd valid .namespace
  have looks : (namespaceState b.cluster).Looks b.cluster.id (b.Sees etcd .namespace) :=
    looks_namespaces b.cluster b.settings etcd
  exact tends_basic target looks (ofBlueprint_eq b valid _) "namespace"
    (good_desired b etcd .namespace (by decide)) (fun _ _ => rfl) (by decide)

/-- The service account settles. -/
theorem tends_serviceAccounts : (serviceAccounts b.settings b.cluster).Tends b.cluster.id
    (b.Sees etcd .serviceAccount) (b.desired etcd .serviceAccount) := by
  have target := b.target_desired etcd valid .serviceAccount
  have looks : (existing .serviceAccount (some b.cluster.namespaceName)
      [b.cluster.serviceAccountName]).Looks b.cluster.id (b.Sees etcd .serviceAccount) :=
    looks_existing (fun _ => rfl) (named_iff rfl)
  exact tends_basic target looks (ofBlueprint_eq b valid _) "serviceaccount"
    (good_desired b etcd .serviceAccount (by decide)) (fun _ _ => rfl) (by decide)

/-- The claims settle where etcd is kept on volumes. -/
theorem tends_etcdClaims : (etcdClaims b.settings b.cluster).Tends b.cluster.id
    (b.Sees .persistentVolume .persistentVolumeClaim)
    (b.desired .persistentVolume .persistentVolumeClaim) := by
  have target := b.target_desired .persistentVolume valid .persistentVolumeClaim
  have looks : (listEtcdClaims b.cluster).Looks b.cluster.id
      (b.Sees .persistentVolume .persistentVolumeClaim) := looks_etcdClaims b.cluster valid
  exact tends_basic target looks (ofBlueprint_eq b valid _) "pvc"
    (good_desired b .persistentVolume .persistentVolumeClaim (by decide)) (fun _ _ => rfl)
    (by decide)

/-- The bindings settle, which are deleted and created again if they differ. -/
theorem tends_clusterRoleBindings : (clusterRoleBindings b.settings b.cluster).Tends b.cluster.id
    (b.Sees etcd .clusterRoleBinding) (b.desired etcd .clusterRoleBinding) :=
  have target := b.target_desired etcd valid .clusterRoleBinding
  have good := good_desired b etcd .clusterRoleBinding (by decide)
  have notDeployment : Kind.clusterRoleBinding ≠ .deployment := by decide
  have looks : (existing .clusterRoleBinding none
      [b.cluster.roleBindingName, b.cluster.pspRoleBindingName]).Looks b.cluster.id
      (b.Sees etcd .clusterRoleBinding) := looks_existing (fun _ => rfl) (named_iff rfl)
  { target := target
    looks := looks
    wants := ofBlueprint_eq b valid _
    compares := compares_updates notDeployment
    rolls := fun isDeployment => absurd isDeployment notDeployment
    creates := advances_create target good
    deletes := advances_delete
    updates := fun objects wanted _ missing stale surplus allowed context c underway => by
      have updates := Request.ends_updateBindings target good wanted.subset
        (wanted.nodup target.apart.nodup) allowed underway
      refine Work.ends_ofRequest.2 (Request.Ends.mono updates ?_ ?_)
      · intro _ d done
        exact ⟨.refl, done⟩
      · intro _ d broken
        exact ⟨.refl, broken⟩ }

/-- The config maps settle, whose names are noted when they are replaced. -/
theorem tends_configMaps : (configMaps b.settings b.cluster).Tends b.cluster.id
    (b.Sees etcd .configMap) (b.desired etcd .configMap) :=
  have target := b.target_desired etcd valid .configMap
  have good := good_desired b etcd .configMap (by decide)
  have notDeployment : Kind.configMap ≠ .deployment := by decide
  have plain := (Cluster.id_of_valid valid).1
  have looks : (listed .configMap (some b.cluster.namespaceName) b.cluster.nodeSelector).Looks
      b.cluster.id (b.Sees etcd .configMap) :=
    looks_listed (fun _ => rfl) fun _ => selects_node plain (.inl rfl)
  { target := target
    looks := looks
    wants := ofBlueprint_eq b valid _
    compares := compares_updates notDeployment
    rolls := fun isDeployment => absurd isDeployment notDeployment
    creates := advances_create target good
    deletes := advances_delete
    updates := fun objects wanted _ missing stale surplus _ context c underway => by
      have replaces := advances_replace target good objects wanted missing stale surplus context c
        underway
      refine Work.ends_bind.2 (Work.Ends.mono replaces ?_ fun _ _ _ failed => failed)
      rintro _ after d ⟨⟨sameEvent, going⟩, done⟩
      refine Work.ends_modifyContext.2 ⟨⟨?_, ?_⟩, done⟩
      · exact (event_noted objects after).trans sameEvent
      · exact (cancelled_noted objects after).trans going }

omit valid in
/-- Without a new config map the next deployment to be rolled is one that differs. -/
theorem nextRoll_modified {context : Context} (current desired : List Deployment)
    (fresh : context.updatedConfigMaps = []) :
    (nextRoll context current desired).Sublist ((Diff.modified current desired).take 1) := by
  have candidates : rollCandidates context current desired = Diff.modified current desired := by
    simp [rollCandidates, Context.isUpdated, fresh]
  rw [nextRoll, candidates]
  split_ifs
  · exact List.Sublist.refl _
  · exact List.nil_sublist _

/-- The deployments settle, of which one at a time is written again. -/
theorem tends_deployments : (deployments b.settings etcd b.cluster).Tends b.cluster.id
    (b.Sees etcd .deployment) (b.desired etcd .deployment) :=
  have target := b.target_desired etcd valid .deployment
  have good := good_desired b etcd .deployment (by decide)
  have plain := (Cluster.id_of_valid valid).1
  have looks : (listed .deployment (some b.cluster.namespaceName) b.cluster.nodeSelector).Looks
      b.cluster.id (b.Sees etcd .deployment) :=
    looks_listed (fun _ => rfl) fun _ => selects_node plain (.inr rfl)
  { target := target
    looks := looks
    wants := ofBlueprint_eq b valid _
    compares := fun current context c => by
      refine Work.ends_bind.2 (Work.ends_getContext.2 (Work.ends_pure.2 ⟨rfl, rfl, ?_⟩))
      exact ⟨rfl, rfl, nextRoll_sublist context current _,
        fun notDeployment => absurd rfl notDeployment, fun _ => nextRoll_modified current _⟩
    rolls := fun _ => rfl
    creates := advances_create target good
    deletes := advances_delete
    updates := fun objects wanted _ missing stale surplus _ =>
      advances_replace target good objects wanted missing stale surplus }

/-- The ingresses settle by being merged. -/
theorem tends_ingresses : (ingresses b.settings b.cluster).Tends b.cluster.id
    (b.Sees etcd .ingress) (b.desired etcd .ingress) := by
  have target := b.target_desired etcd valid .ingress
  exact tends_merging (.inl rfl) target (named_iff rfl) (ofBlueprint_eq b valid _) "ingress"

/-- The services settle by being merged. -/
theorem tends_services : (services b.settings b.cluster).Tends b.cluster.id
    (b.Sees etcd .service) (b.desired etcd .service) := by
  have target := b.target_desired etcd valid .service
  exact tends_merging (.inr rfl) target (named_iff rfl) (ofBlueprint_eq b valid _) "service"

/-- Every resource of a valid cluster tends to the objects that the cluster needs. -/
theorem tends_ofCluster {resource : Resource Program}
    (mem : resource ∈ ofCluster b.settings etcd b.cluster) :
    resource.Tends b.cluster.id (b.Sees etcd resource.kind) (b.desired etcd resource.kind) := by
  rcases List.mem_append.1 mem with mem | mem
  · rcases List.mem_append.1 mem with mem | mem
    · simp only [List.mem_cons, List.not_mem_nil, or_false] at mem
      rcases mem with rfl | rfl | rfl | rfl
      · exact tends_namespaces b etcd valid
      · exact tends_serviceAccounts b etcd valid
      · exact tends_clusterRoleBindings b etcd valid
      · exact tends_configMaps b etcd valid
    · cases etcd with
      | hostPath => cases mem
      | persistentVolume =>
        obtain rfl := List.mem_singleton.1 mem
        exact tends_etcdClaims b valid
  · simp only [List.mem_cons, List.not_mem_nil, or_false] at mem
    rcases mem with rfl | rfl | rfl
    · exact tends_deployments b etcd valid
    · exact tends_ingresses b etcd valid
    · exact tends_services b etcd valid

end

end Resource

end GuestFleet
