import GuestFleet.Proofs.Cluster.Course

/-!
# How far config maps converge

A completed pass leaves every config map of a node with the desired data, unless there was one
with its name that does not carry the labels of a node. Such a config map is not found, it stands
in the way of the one that is to be created, and the pass takes that for success.
-/

namespace GuestFleet

open Kube (Object)
open Store (Ledger World slotOf)
open Request (creating replacing)

namespace Pass

section

variable {b : Blueprint} {etcd : EtcdStorage} {before after : Ledger} {done : List Kube.Kind}
  {object : Object .configMap}

/-- What a pass makes of the slot of a config map that it wants, by what was in the slot before. -/
theorem converges_of_course (valid : b.cluster.isValid = true) (sound : before.collections.Sound)
    (course : Course b etcd .apply before done after) (among : .configMap ∈ done)
    (wanted : object ∈ b.configMaps) :
    ((∀ existing, (before.collections.get .configMap).stored (slotOf object) = some existing ->
        Kube.Selector.selects b.cluster.nodeSelector existing.metadata.labels = true) ->
      ∃ held, (after.collections.get .configMap).stored (slotOf object) = some held ∧
        held.body.data = object.body.data) ∧
    ∀ existing, (before.collections.get .configMap).stored (slotOf object) = some existing ->
      Kube.Selector.selects b.cluster.nodeSelector existing.metadata.labels = false ->
      (after.collections.get .configMap).stored (slotOf object) = some existing := by
  have fit := b.fit_care etcd valid .configMap
  have lists := b.hasKey_iff_lists etcd valid (.inl rfl) (sound .configMap) wanted
  have keyed : ∀ existing ∈ b.found .configMap (before.collections.get .configMap),
      slotOf existing = slotOf object -> existing.key = object.key :=
    fun _ mem same => b.key_of_found etcd valid (.inl rfl) (sound .configMap) mem wanted same
  have provided := fit.provided b.noted_event (course.made .configMap among) wanted
    (sound .configMap) keyed
  constructor
  · intro selected
    rcases provided with ⟨unknown, created⟩ | ⟨known, ⟨-, renewed⟩ | ⟨notRenewed, left⟩⟩
    · -- The config map was not found, so its slot was empty.
      have befallen := created.befallen
      cases stored : (before.collections.get .configMap).stored (slotOf object) with
      | none =>
        rw [stored] at befallen
        obtain ⟨version, -, held⟩ := befallen
        exact ⟨_, held, rfl⟩
      | some existing =>
        have known := lists.2 ⟨existing, stored, selected existing stored⟩
        cases known.symm.trans unknown
    · obtain ⟨version, -, held⟩ := renewed.befallen
      exact ⟨_, held, rfl⟩
    · -- The config map was found, and did not differ.
      obtain ⟨existing, found, sameKey⟩ := List.any_eq_true.1 known
      have keys : existing.key = object.key := of_decide_eq_true sameKey
      have stored := fit.stored (sound .configMap) existing found
      rw [slotOf_eq_of_key keys] at stored
      have same : ¬ existing.isModified object = true := fun differs =>
        notRenewed ((fit.mem_modified (sound .configMap) found wanted keys).2 differs)
      refine ⟨existing, left.trans stored, ?_⟩
      simpa [Object.isModified] using same
  · intro existing stored unselected
    rcases provided with ⟨-, created⟩ | ⟨known, -⟩
    · have befallen := created.befallen
      rw [stored] at befallen
      exact befallen
    · obtain ⟨other, there, selected⟩ := lists.1 known
      obtain rfl := Option.some.inj (stored.symm.trans there)
      cases selected.symm.trans unselected

end

/-- After a completed pass a config map that is wanted is there with the data that it is to have,
if its slot was empty or held one that is labelled as a node's. A config map that is in the way
without these labels is left as it was. -/
theorem overCluster_converges {world : World}
    (steady : ∀ kind, (world.collections.get kind).Steady) (config : Config) {cluster : Cluster}
    (valid : cluster.isValid = true) {etcd : EtcdStorage}
    (registered : Resource.bundles.resolve cluster.version = .ok etcd) :
    let pass := world.run (overCluster config cluster .apply).run
    pass.1 = .ok .completed ->
      ∀ object ∈ (blueprint config cluster).configMaps,
        ((∀ existing,
            (world.collections.get .configMap).stored (slotOf object) = some existing ->
            Kube.Selector.selects cluster.nodeSelector existing.metadata.labels = true) ->
          ∃ held, (pass.2.collections.get .configMap).stored (slotOf object) = some held ∧
            held.body.data = object.body.data) ∧
        ∀ existing, (world.collections.get .configMap).stored (slotOf object) = some existing ->
          Kube.Selector.selects cluster.nodeSelector existing.metadata.labels = false ->
          (pass.2.collections.get .configMap).stored (slotOf object) = some existing := by
  intro pass completed object wanted
  have course := course_of_completed steady config valid registered completed
  exact converges_of_course (b := blueprint config cluster) valid
    (fun kind => (steady kind).sound) course (node_kinds (.inl rfl)) wanted

/-- A config map with the name of a node's that someone else has made. -/
def foreignConfigMap : Object .configMap where
  metadata := { name := some "master-al9qy-m1", namespaceName := some "al9qy" }
  body := { data := some [("owner", "someone else")] }

/-- A world with nothing but a config map of someone else. -/
def foreignWorld : World := ({} : World).insert foreignConfigMap

/-- The foreign world is sound and awaits no failures. -/
theorem steady_foreignWorld (kind : Kube.Kind) : (foreignWorld.collections.get kind).Steady := by
  constructor
  · cases kind with
    | configMap => exact Store.Collection.sound_empty.insert foreignConfigMap
    | _ => exact Store.Collection.sound_empty
  · intro fault mem
    cases kind <;> cases mem

/-- A pass over the foreign world is completed. -/
theorem completed_foreignWorld :
    (foreignWorld.run (overCluster {} (smallCluster "al9qy") .apply).run).1 = .ok .completed := by
  decide +kernel

/-- The config map of someone else is in the place of a master's before a cluster with a worker is
brought about. It stays, and the worker gets the config map that it is to have. -/
theorem overCluster_converges_foreign :
    let pass := foreignWorld.run (overCluster {} (pairCluster "al9qy") .apply).run
    let worker : Node := ⟨"w1", 2, "2G", "20G"⟩
    let wanted := (blueprint {} (pairCluster "al9qy")).configMap .worker worker
    pass.1 = .ok .completed ∧
      (pass.2.collections.get .configMap).stored ⟨"al9qy", "master-al9qy-m1"⟩ =
        some (foreignConfigMap.dated 1) ∧
      ∃ held, (pass.2.collections.get .configMap).stored ⟨"al9qy", "worker-al9qy-w1"⟩ = some held ∧
        held.body.data = wanted.body.data := by
  intro pass worker wanted
  have completed : pass.1 = .ok .completed := by decide +kernel
  have converges := overCluster_converges steady_foreignWorld {} (by decide) rfl completed
  refine ⟨completed, ?_, ?_⟩
  · exact (converges _ List.mem_cons_self).2 (foreignConfigMap.dated 1) rfl (by decide)
  · refine (converges wanted (List.mem_cons_of_mem _ List.mem_cons_self)).1 fun existing stored => ?_
    cases stored

/-- The pass over the small cluster is completed without any failure, and the config map of its
node still has the data of someone else. -/
theorem overCluster_leaves_foreign :
    let pass := foreignWorld.run (overCluster {} (smallCluster "al9qy") .apply).run
    (smallCluster "al9qy").isValid = true ∧
      Resource.bundles.resolve (smallCluster "al9qy").version = .ok .persistentVolume ∧
      (∀ kind, (foreignWorld.collections.get kind).faults = []) ∧
      pass.1 = .ok .completed ∧
      ¬ ∀ object ∈ (blueprint {} (smallCluster "al9qy")).configMaps,
        ∃ held, (pass.2.collections.get .configMap).stored (slotOf object) = some held ∧
          held.body.data = object.body.data := by
  intro pass
  refine ⟨by decide, rfl, fun kind => by cases kind <;> rfl, completed_foreignWorld, ?_⟩
  intro converged
  obtain ⟨held, stored, same⟩ := converged _ List.mem_cons_self
  have foreign : (pass.2.collections.get .configMap).stored ⟨"al9qy", "master-al9qy-m1"⟩ =
      some (foreignConfigMap.dated 1) := rfl
  obtain rfl := Option.some.inj (foreign.symm.trans stored)
  have keys : some ["owner"] = some [userDataKey] :=
    congrArg (Option.map (List.map Prod.fst)) same
  exact absurd keys (by decide)

end Pass

end GuestFleet
