import GuestFleet.Proofs.Resource.Handling
import GuestFleet.Proofs.Resource.Merging
import GuestFleet.Proofs.Resource.Rebinding
import GuestFleet.Proofs.Resource.Settling

/-!
# How a cluster looks after its objects

Where the resources of a valid cluster find the objects of their kind, and what they do to those
that have to be created or written again. Objects that others may have made with the names of
the cluster are found by name alone, whatever they are like, and by label only with the labels.
-/

namespace GuestFleet

open Kube (Kind Object)
open Store (Collection Slot slotOf)
open Request (creating leaving rebinding replacing)

namespace Blueprint

/-! ## What is found -/

/-- The objects of a kind that a pass over the cluster finds. -/
def found (b : Blueprint) : (kind : Kind) -> Collection kind -> List (Object kind)
  | .namespace, c => [b.cluster.namespaceName].filterMap fun name => c.stored (.make none name)
  | .serviceAccount, c =>
    [b.cluster.serviceAccountName].filterMap fun name =>
      c.stored (.make (some b.cluster.namespaceName) name)
  | .clusterRoleBinding, c =>
    [b.cluster.roleBindingName, b.cluster.pspRoleBindingName].filterMap fun name =>
      c.stored (.make none name)
  | .configMap, c => c.selected (some b.cluster.namespaceName) b.cluster.nodeSelector
  | .persistentVolumeClaim, c =>
    (c.selected (some b.cluster.namespaceName) (b.cluster.roleSelector .master)).filter
      (Resource.isEtcdClaim b.cluster.id)
  | .deployment, c => c.selected (some b.cluster.namespaceName) b.cluster.nodeSelector
  | .ingress, c =>
    ["etcd", "api"].filterMap fun name => c.stored (.make (some b.cluster.namespaceName) name)
  | .service, c =>
    [Role.master.name, Role.worker.name].filterMap fun name =>
      c.stored (.make (some b.cluster.namespaceName) name)
  | .pod, _ => []

section

variable {kind : Kind} {c d : Collection kind}

/-- An object that is found by its name is stored. -/
theorem stored_of_named (sound : c.Sound) {space : Option String} {names : List String}
    {object : Object kind}
    (mem : object ∈ names.filterMap fun name => c.stored (.make space name)) :
    c.stored (slotOf object) = some object := by
  obtain ⟨name, -, stored⟩ := List.mem_filterMap.1 mem
  rwa [sound.slotOf_stored stored]

/-- What is found is stored. -/
theorem found_stored (b : Blueprint) (sound : c.Sound) {object : Object kind}
    (mem : object ∈ b.found kind c) : c.stored (slotOf object) = some object := by
  cases kind with
  | «namespace» => exact stored_of_named sound mem
  | serviceAccount => exact stored_of_named sound mem
  | clusterRoleBinding => exact stored_of_named sound mem
  | configMap => exact (sound.mem_selected.1 mem).1
  | persistentVolumeClaim => exact (sound.mem_selected.1 (List.mem_of_mem_filter mem)).1
  | deployment => exact (sound.mem_selected.1 mem).1
  | ingress => exact stored_of_named sound mem
  | service => exact stored_of_named sound mem
  | pod => cases mem

/-- What is found depends on the stored objects alone. -/
theorem found_alike (b : Blueprint) (alike : c.Alike d) : b.found kind d = b.found kind c := by
  have named (space : Option String) (names : List String) :
      (names.filterMap fun name => d.stored (.make space name)) =
        names.filterMap fun name => c.stored (.make space name) :=
    List.filterMap_congr fun name _ => alike.stored _
  cases kind with
  | «namespace» => exact named _ _
  | serviceAccount => exact named _ _
  | clusterRoleBinding => exact named _ _
  | configMap => exact alike.selected _ _
  | persistentVolumeClaim => exact congrArg (List.filter _) (alike.selected _ _)
  | deployment => exact alike.selected _ _
  | ingress => exact named _ _
  | service => exact named _ _
  | pod => rfl

/-- When everything belongs to the cluster, what is stored in the slots that are looked into is
found. -/
theorem isReading_found (b : Blueprint) (etcd : EtcdStorage) (valid : b.cluster.isValid = true)
    (sound : c.Sound) (owned : c.Owned b.cluster.id) :
    IsReading (b.Sees etcd kind) c (b.found kind c) := by
  have plain := (Cluster.id_of_valid valid).1
  cases kind with
  | «namespace» => exact isReading_existing sound (Resource.named_iff rfl)
  | serviceAccount => exact isReading_existing sound (Resource.named_iff rfl)
  | clusterRoleBinding => exact isReading_existing sound (Resource.named_iff rfl)
  | configMap => exact isReading_selected sound owned fun _ => selects_node plain (.inl rfl)
  | persistentVolumeClaim => exact Resource.isReading_claims b.cluster valid sound owned
  | deployment => exact isReading_selected sound owned fun _ => selects_node plain (.inr rfl)
  | ingress => exact isReading_existing sound (Resource.named_iff rfl)
  | service => exact isReading_existing sound (Resource.named_iff rfl)
  | pod =>
    intro object
    constructor
    · exact fun mem => absurd mem List.not_mem_nil
    · rintro ⟨⟨other, mem, -⟩, -⟩
      exact absurd mem List.not_mem_nil

end

/-! ## What is done -/

/-- How objects that do not exist are made. -/
def creation : (kind : Kind) -> Treatment kind
  | .ingress => Request.merging
  | .service => Request.merging
  | _ => creating

/-- How objects that exist are written again. -/
def renewal : (kind : Kind) -> Treatment kind
  | .clusterRoleBinding => rebinding
  | .configMap => replacing
  | .deployment => replacing
  | .ingress => Request.merging
  | .service => Request.merging
  | _ => leaving

/-- The objects that are written again: those that differ, or of deployments the next one to be
rolled. -/
def renewed (b : Blueprint) (etcd : EtcdStorage) :
    (kind : Kind) -> Context -> List (Object kind) -> List (Object kind)
  | .deployment, context, current =>
    Resource.nextRoll context current (b.desired etcd .deployment)
  | kind, _, current => Diff.modified current (b.desired etcd kind)

/-- The names of config maps are noted when these were written again. -/
def marks : (kind : Kind) -> List (Object kind) -> List String
  | .configMap, objects => objects.map Object.name
  | _, _ => []

/-- How the resources of a cluster look after the objects of a kind. -/
def care (b : Blueprint) (etcd : EtcdStorage) (kind : Kind) : Care kind where
  find := b.found kind
  desired := b.desired etcd kind
  creation := creation kind
  renewal := renewal kind
  renewed := b.renewed etcd kind
  marks := marks kind

section

variable (b : Blueprint) (etcd : EtcdStorage)

/-- But for deployments what is written again is what differs, whatever the context. -/
theorem renewed_usual {kind : Kind} (notDeployment : kind ≠ .deployment) (context : Context)
    (current : List (Object kind)) :
    b.renewed etcd kind context current = Diff.modified current (b.desired etcd kind) := by
  cases kind with
  | deployment => exact absurd rfl notDeployment
  | _ => rfl

/-- What has to be written again was found under its key. -/
theorem hasKey_of_modified {kind : Kind} {current desired : List (Object kind)}
    {object : Object kind} (mem : object ∈ Diff.modified current desired) :
    Diff.hasKey current object.key = true := by
  have differs := (List.mem_filter.1 mem).2
  cases found : Diff.byKey current object.key with
  | none =>
    rw [found] at differs
    cases differs
  | some existing =>
    have among := List.mem_reverse.1 (List.mem_of_find?_eq_some found)
    have sameKey := List.find?_some found
    exact List.any_eq_true.2 ⟨existing, among, sameKey⟩

/-- What is selected in the namespace of the cluster has the key of a desired object when it has
its name, since the namespace is not without a name. -/
theorem key_of_selected (valid : b.cluster.isValid = true) {kind : Kind}
    (isSpaced : kind.isNamespaced = true) {c : Collection kind} (sound : c.Sound)
    {selector : String} {existing object : Object kind}
    (mem : existing ∈ c.selected (some b.cluster.namespaceName) selector)
    (wanted : object ∈ b.desired etcd kind) (sameName : existing.name = object.name) :
    existing.key = object.key := by
  have inSpace : b.cluster.id = existing.metadata.namespaceName.getD "" :=
    beq_iff_eq.1 (sound.mem_selected.1 mem).2.1
  have named := (Cluster.id_of_valid valid).2
  have space : existing.metadata.namespaceName = some b.cluster.id := by
    cases isSpace : existing.metadata.namespaceName with
    | none =>
      rw [isSpace] at inSpace
      rw [inSpace] at named
      cases named
    | some space =>
      rw [isSpace] at inSpace
      rw [inSpace]
      rfl
  have wantedSpace := (b.belongs_desired etcd wanted).space
  rw [if_pos isSpaced] at wantedSpace
  rw [Object.key, Object.key, space, sameName, wantedSpace]

/-- A node's object is in its slot, or one that passes for it: it carries the labels of a node. -/
def Lists {kind : Kind} (c : Collection kind) (object : Object kind) : Prop :=
  ∃ existing, c.stored (slotOf object) = some existing ∧
    Kube.Selector.selects b.cluster.nodeSelector existing.metadata.labels = true

section

variable (valid : b.cluster.isValid = true) {kind : Kind}
  (isNode : kind = .configMap ∨ kind = .deployment) {c : Collection kind} (sound : c.Sound)
  {existing object : Object kind}

include isNode

/-- Objects of nodes are found by the labels of nodes. -/
theorem found_node (c : Collection kind) :
    b.found kind c = c.selected (some b.cluster.namespaceName) b.cluster.nodeSelector := by
  rcases isNode with rfl | rfl <;> rfl

include valid sound

/-- What is found in the slot of a node's object has its key. -/
theorem key_of_found (mem : existing ∈ b.found kind c) (wanted : object ∈ b.desired etcd kind)
    (same : slotOf existing = slotOf object) : existing.key = object.key := by
  have isSpaced : kind.isNamespaced = true := by rcases isNode with rfl | rfl <;> rfl
  rw [b.found_node isNode] at mem
  exact b.key_of_selected etcd valid isSpaced sound mem wanted (congrArg Slot.name same)

/-- What is listed in the slot of a node's object is found, and with the same key. -/
theorem found_of_stored (wanted : object ∈ b.desired etcd kind)
    (stored : c.stored (slotOf object) = some existing)
    (selected : Kube.Selector.selects b.cluster.nodeSelector existing.metadata.labels = true) :
    existing ∈ b.found kind c ∧ existing.key = object.key := by
  have slot := sound.slotOf_stored stored
  have space : (slotOf existing).space = b.cluster.id := by
    have belongs := (b.belongs_desired etcd wanted).slot
    rw [slot]
    rcases isNode with rfl | rfl <;> exact belongs
  have found : existing ∈ b.found kind c := by
    rw [b.found_node isNode]
    refine sound.mem_selected.2 ⟨?_, beq_iff_eq.2 space.symm, selected⟩
    rw [slot, stored]
  exact ⟨found, b.key_of_found etcd valid isNode sound found wanted slot⟩

/-- A node's object counts as existing when it is listed. -/
theorem hasKey_iff_lists (wanted : object ∈ b.desired etcd kind) :
    Diff.hasKey (b.found kind c) object.key = true <-> b.Lists c object := by
  constructor
  · intro known
    obtain ⟨existing, among, sameKey⟩ := List.any_eq_true.1 known
    rw [b.found_node isNode] at among
    obtain ⟨stored, -, selected⟩ := sound.mem_selected.1 among
    rw [slotOf_eq_of_key (of_decide_eq_true sameKey)] at stored
    exact ⟨existing, stored, selected⟩
  · rintro ⟨existing, stored, selected⟩
    obtain ⟨among, keys⟩ := b.found_of_stored etcd valid isNode sound wanted stored selected
    exact List.any_eq_true.2 ⟨existing, among, decide_eq_true keys⟩

end

/-- A deployment is rolled for the sake of its config map by its name alone; the key is the same
as well, since only deployments in the cluster's namespace are found. -/
theorem hasKey_of_nextRoll (valid : b.cluster.isValid = true) {c : Collection .deployment}
    (sound : c.Sound) {context : Context} {object : Object .deployment}
    (mem : object ∈ Resource.nextRoll context (b.found .deployment c)
      (b.desired etcd .deployment)) :
    Diff.hasKey (b.found .deployment c) object.key = true := by
  unfold Resource.nextRoll at mem
  split_ifs at mem
  · rcases List.mem_append.1 (List.mem_of_mem_take mem) with differs | noted
    · exact hasKey_of_modified differs
    · obtain ⟨wanted, chosen⟩ := List.mem_filter.1 noted
      simp only [Bool.and_eq_true, List.any_eq_true, beq_iff_eq] at chosen
      obtain ⟨⟨-, existing, among, sameName⟩, -⟩ := chosen
      have sameKey := b.key_of_selected etcd valid rfl sound among wanted sameName
      exact List.any_eq_true.2 ⟨existing, among, decide_eq_true sameKey⟩
  · cases mem

/-- The care of a valid cluster makes sound plans. -/
theorem fit_care (valid : b.cluster.isValid = true) (kind : Kind) : (b.care etcd kind).Fit where
  stored sound _ mem := b.found_stored sound mem
  alike alike := b.found_alike alike
  apart := b.apart_desired etcd valid
  within context current := by
    by_cases isDeployment : kind = .deployment
    · subst isDeployment
      exact Resource.nextRoll_sublist context current _
    · show (b.renewed etcd kind context current).Sublist _
      rw [b.renewed_usual etcd isDeployment]
      exact List.filter_sublist
  found sound context object mem := by
    by_cases isDeployment : kind = .deployment
    · subst isDeployment
      exact b.hasKey_of_nextRoll etcd valid sound mem
    · have differs : object ∈ b.renewed etcd kind context (b.found kind _) := mem
      rw [b.renewed_usual etcd isDeployment] at differs
      exact hasKey_of_modified differs
  unmarked := by cases kind <;> rfl

end

end Blueprint

/-! ## The resources of a cluster -/

namespace Resource

section

variable (b : Blueprint) (etcd : EtcdStorage) (valid : b.cluster.isValid = true)

include valid

/-- A resource that differs from the usual in how it compares, creates and writes again. -/
theorem cares_basic {kind : Kind} (name : String)
    {current wanted : Work Program (List (Object kind))}
    {patch : List (Object kind) -> List (Object kind) -> Work Program (ChangeSet kind)}
    {create update : List (Object kind) -> Work Program Unit}
    (finds : current.Finds (b.found kind)) (wants : wanted = pure (b.desired etcd kind))
    (compares : ∀ current (context : Context) (c : Collection kind),
      (patch current (b.desired etcd kind)).Ends (Store.View.collection kind).around context c
        (fun change after d => after = context ∧ d = c ∧
          change =
            { create := Diff.created current (b.desired etcd kind)
              delete := Diff.obsolete current (b.desired etcd kind)
              update := b.renewed etcd kind context current })
        fun _ _ _ => False)
    (creates : ∀ objects, objects.Sublist (b.desired etcd kind) ->
      (create objects).Treats (Blueprint.creation kind) [] objects)
    (renews : ∀ objects, objects.Sublist (b.desired etcd kind) ->
      (update objects).Treats (Blueprint.renewal kind) (Blueprint.marks kind objects) objects) :
    ({ basic name kind current wanted with
        updatePatch := patch
        applyCreate := create
        applyUpdate := update } : Resource Program).Cares (b.care etcd kind) where
  fit := b.fit_care etcd valid kind
  finds := finds
  wants := wants
  compares := compares
  picks _ := rfl
  creates := creates
  deletes objects := Work.treats_ofRequest (Request.treats_deleteAll objects)
  renews := renews

omit valid in
/-- But for deployments a comparison reads nothing and asks for what differs. -/
theorem compares_usual {kind : Kind} (notDeployment : kind ≠ .deployment)
    (current : List (Object kind)) (context : Context) (c : Collection kind) :
    (pure (.updates current (b.desired etcd kind)) : Work Program (ChangeSet kind)).Ends
      (Store.View.collection kind).around context c
      (fun change after d => after = context ∧ d = c ∧
        change =
          { create := Diff.created current (b.desired etcd kind)
            delete := Diff.obsolete current (b.desired etcd kind)
            update := b.renewed etcd kind context current })
      fun _ _ _ => False := by
  refine Work.ends_pure.2 ⟨rfl, rfl, ?_⟩
  rw [b.renewed_usual etcd notDeployment]
  rfl

/-- Creating some of the desired objects treats them as created. -/
theorem creates_usual {kind : Kind} (objects : List (Object kind))
    (wanted : objects.Sublist (b.desired etcd kind)) :
    (Work.ofRequest (Request.createAll objects)).Treats creating [] objects :=
  Work.treats_ofRequest
    (Request.treats_createAll ((b.apart_desired etcd valid).sublist wanted))

/-- Replacing some of the desired objects treats them as replaced. -/
theorem replaces_usual {kind : Kind} (objects : List (Object kind))
    (wanted : objects.Sublist (b.desired etcd kind)) :
    (Work.ofRequest (Request.replaceAll objects)).Treats replacing [] objects :=
  Work.treats_ofRequest (Request.treats_replaceAll ((b.apart_desired etcd valid).sublist wanted)
    fun _ mem => (b.metadata_desired etcd (wanted.subset mem)).2)

/-- Merging some of the desired objects treats them as merged. -/
theorem merges_usual {kind : Kind} (isMerged : kind = .ingress ∨ kind = .service)
    (objects : List (Object kind)) (wanted : objects.Sublist (b.desired etcd kind)) :
    (Work.ofRequest (Request.mergeAll objects)).Treats Request.merging [] objects := by
  have target := b.target_desired etcd valid kind
  refine Work.treats_ofRequest (Request.treats_mergeAll (target.apart.sublist wanted) ?_)
  intro object mem current merged merges
  exact Request.slotOf_merged isMerged target (wanted.subset mem) merges

/-- Config maps are replaced, and their names noted. -/
theorem renews_configMaps (objects : List (Object .configMap))
    (wanted : objects.Sublist (b.desired etcd .configMap)) :
    (updateConfigMaps objects).Treats replacing (objects.map Object.name) objects := by
  intro context first before c steady late begun
  have replaces := replaces_usual b etcd valid objects wanted context first before c steady late
    begun
  refine Work.ends_bind.2 (Work.Ends.mono replaces ?_ fun _ _ _ failed => failed)
  rintro _ after d ⟨rfl, touched, done⟩
  refine Work.ends_modifyContext.2 ⟨?_, touched, done⟩
  rw [Context.noteAll, List.foldl_map]

/-- Updating some of the desired role bindings treats them as bound again. -/
theorem renews_bindings (objects : List (Object .clusterRoleBinding))
    (wanted : objects.Sublist (b.desired etcd .clusterRoleBinding)) :
    (Work.ofRequest (updateBindings objects)).Treats rebinding [] objects :=
  Work.treats_ofRequest (Request.treats_updateBindings
    ((b.apart_desired etcd valid).sublist wanted)
    (fun _ mem => (b.belongs_desired etcd (wanted.subset mem)).space)
    fun _ mem => (b.metadata_desired etcd (wanted.subset mem)).2)

/-- Deployments are compared with the next one to be rolled in mind. -/
theorem cares_deployments :
    (deployments b.settings etcd b.cluster).Cares (b.care etcd .deployment) := by
  refine cares_basic b etcd valid "deployment" (finds_listed (fun _ => rfl) _ _)
    (ofBlueprint_eq b valid _) ?_ (creates_usual b etcd valid) (replaces_usual b etcd valid)
  intro current context c
  exact Work.ends_bind.2 (Work.ends_getContext.2 (Work.ends_pure.2 ⟨rfl, rfl, rfl⟩))

/-- Every resource of a valid cluster takes care of its objects. -/
theorem cares_ofCluster {resource : Resource Program}
    (mem : resource ∈ ofCluster b.settings etcd b.cluster) :
    resource.Cares (b.care etcd resource.kind) := by
  rcases List.mem_append.1 mem with mem | mem
  · rcases List.mem_append.1 mem with mem | mem
    · simp only [List.mem_cons, List.not_mem_nil, or_false] at mem
      rcases mem with rfl | rfl | rfl | rfl
      · exact cares_basic b etcd valid "namespace" (finds_namespaces b.cluster)
          (ofBlueprint_eq b valid _) (compares_usual b etcd (by decide))
          (creates_usual b etcd valid) fun _ _ => Work.treats_leaving
      · exact cares_basic b etcd valid "serviceaccount" (finds_existing (fun _ => rfl) _ _)
          (ofBlueprint_eq b valid _) (compares_usual b etcd (by decide))
          (creates_usual b etcd valid) fun _ _ => Work.treats_leaving
      · exact cares_basic b etcd valid "clusterrolebinding" (finds_existing (fun _ => rfl) _ _)
          (ofBlueprint_eq b valid _) (compares_usual b etcd (by decide))
          (creates_usual b etcd valid) (renews_bindings b etcd valid)
      · exact cares_basic b etcd valid "configmap" (finds_listed (fun _ => rfl) _ _)
          (ofBlueprint_eq b valid _) (compares_usual b etcd (by decide))
          (creates_usual b etcd valid) (renews_configMaps b etcd valid)
    · cases etcd with
      | hostPath => cases mem
      | persistentVolume =>
        obtain rfl := List.mem_singleton.1 mem
        exact cares_basic b .persistentVolume valid "pvc" (finds_etcdClaims b.cluster)
          (ofBlueprint_eq b valid _) (compares_usual b .persistentVolume (by decide))
          (creates_usual b .persistentVolume valid) fun _ _ => Work.treats_leaving
  · simp only [List.mem_cons, List.not_mem_nil, or_false] at mem
    rcases mem with rfl | rfl | rfl
    · exact cares_deployments b etcd valid
    · exact cares_basic b etcd valid "ingress" (finds_existing (fun _ => rfl) _ _)
        (ofBlueprint_eq b valid _) (compares_usual b etcd (by decide))
        (merges_usual b etcd valid (.inl rfl)) (merges_usual b etcd valid (.inl rfl))
    · exact cares_basic b etcd valid "service" (finds_existing (fun _ => rfl) _ _)
        (ofBlueprint_eq b valid _) (compares_usual b etcd (by decide))
        (merges_usual b etcd valid (.inr rfl)) (merges_usual b etcd valid (.inr rfl))

end

end Resource

end GuestFleet
