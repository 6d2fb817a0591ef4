import GuestFleet.Proofs.Cluster.Edited

/-!
# Edits and fresh starts

What passes over an edited cluster come to is, but for what was first made, what a fresh start with
the edited cluster would come to. It is no other at all if and only if the customer is the same and
the edited cluster keeps its volume claims, if there were any.
-/

namespace GuestFleet

open Kube (Kind Object)
open Store (Collection Collections Slot World slotOf)

variable {kind : Kind}

namespace Pass

/-- Every cluster looks after the kinds whose comparison tells all, and those that say the id alone.
-/
theorem compared_subset (config : Config) (etcd : EtcdStorage) (cluster : Cluster) :
    Blueprint.toldKinds ++ Blueprint.lastingKinds ⊆ kinds config etcd cluster := by
  rw [kinds_eq]
  cases etcd <;> decide

namespace Edited

variable {config : Config} {former cluster : Cluster} {old etcd : EtcdStorage}
  {start : Nat -> World} {last i : Nat} (edited : Edited config former cluster start last)
  (revision : Revision former cluster old etcd)

include edited revision

/-- The namespace stays as it was first made. -/
theorem namespace_kept (within : i ≤ last) :
    ∃ held, ((brought config cluster (start i)).collections.get .namespace).stored
        (slotOf (blueprint config cluster).namespaceObject) = some held ∧
      held.declared = (blueprint config former).namespaceObject := by
  have among : Kind.namespace ∈ kinds config etcd cluster := List.mem_cons_self
  exact edited.kept revision among (by decide) (List.mem_singleton_self _)
    (List.mem_singleton_self _) (revision.slot_namespaceObject config) rfl within

/-- A fresh start would label the namespace with the customer of now. -/
theorem customer_of_matches (within : i ≤ last)
    (same : (brought config cluster {}).Matches (brought config cluster (start i))) :
    former.topology.customerId = cluster.topology.customerId := by
  let b : Blueprint := blueprint config cluster
  have fresh : ((brought config cluster {}).collections.get .namespace).Records
      [b.namespaceObject] := records_brought config revision.valid revision.registered .namespace
  obtain ⟨held, stored, kept⟩ := edited.namespace_kept revision within
  obtain ⟨other, storedOther, wanted⟩ := fresh.held (List.nodup_singleton _)
    (List.mem_singleton_self _)
  have objects := same .namespace (slotOf b.namespaceObject)
  rw [stored, storedOther, Option.map_some, Option.map_some, kept, wanted] at objects
  have labels : former.labels operatorApp = cluster.labels operatorApp :=
    Option.some.inj (congrArg (fun object => object.metadata.labels) (Option.some.inj objects))
  have customers := congrArg (fun labels => List.lookup customerLabel labels) labels
  exact Option.some.inj customers

/-- A fresh start would leave no volume claims when the cluster of now wants none. -/
theorem claims_of_matches (within : i ≤ last)
    (same : (brought config cluster {}).Matches (brought config cluster (start i)))
    (isOld : old = .persistentVolume) : etcd = .persistentVolume := by
  by_contra isOther
  obtain rfl : etcd = .hostPath := by cases etcd <;> trivial
  subst isOld
  have absent : Kind.persistentVolumeClaim ∉ kinds config .hostPath cluster := by
    rw [kinds_eq]
    decide
  obtain ⟨master, mem⟩ := List.exists_mem_of_ne_nil _
    (Cluster.masters_of_valid revision.validFormer)
  have claims : (blueprint config former).etcdClaim master ∈
      (blueprint config former).desired .persistentVolume .persistentVolumeClaim :=
    List.mem_map_of_mem mem
  have there := (edited.records_first revision .persistentVolumeClaim).present _ claims
  rw [← (edited.untouched revision absent within).stored] at there
  have fresh : ((brought config cluster {}).collections.get .persistentVolumeClaim).Records [] :=
    records_brought config revision.valid revision.registered .persistentVolumeClaim
  obtain ⟨held, stored⟩ := Option.isSome_iff_exists.1 there
  have objects := same .persistentVolumeClaim (slotOf ((blueprint config former).etcdClaim master))
  rw [stored, Option.map_some] at objects
  obtain ⟨other, storedOther, -⟩ := Option.map_eq_some_iff.1 objects.symm
  obtain ⟨_, none, -⟩ := fresh.drawn _ other storedOther
  cases none

section

variable (available : ∀ i ≤ last, Available config cluster (start i)) (within : i ≤ last)
  (idle : Idle (start i).ledger (brought config cluster (start i)).ledger)

include available within idle

/-- What says all about the cluster in what is compared is as a fresh start would leave it. -/
theorem records_told {kind : Kind} (told : kind ∈ Blueprint.toldKinds)
    (apart : kind = .deployment ->
      ¬ (blueprint config former).Collides (blueprint config cluster)) :
    ((brought config cluster (start i)).collections.get kind).Records
      ((blueprint config cluster).desired etcd kind) := by
  let first : Blueprint := blueprint config former
  let b : Blueprint := blueprint config cluster
  have settings : first.settings = b.settings := rfl
  have among := compared_subset config etcd cluster (List.mem_append_left _ told)
  exact (edited.inherits revision available within idle among).records
    fun earlier mem object wanted slot unmodified =>
      Blueprint.eq_of_told settings revision.sameId revision.validFormer revision.valid
        revision.bundled told apart mem wanted slot unmodified

/-- What says only the id in what is compared is as it was first made. -/
theorem records_lasting {kind : Kind} (lasting : kind ∈ Blueprint.lastingKinds) :
    ((brought config cluster (start i)).collections.get kind).Records
      ((blueprint config former).desired old kind) := by
  let first : Blueprint := blueprint config former
  let b : Blueprint := blueprint config cluster
  have settings : first.settings = b.settings := rfl
  have among := compared_subset config etcd cluster (List.mem_append_right _ lasting)
  have notDeployment : kind ≠ .deployment := by
    rintro rfl
    exact absurd lasting (by decide)
  refine (edited.inherits revision available within idle among).records_former notDeployment
    (fun object wanted => ?_) fun earlier mem => ?_
  · exact Blueprint.unmodified_of_lasting settings revision.sameId old etcd lasting wanted
  · obtain ⟨object, wanted, slot, -⟩ :=
      Blueprint.unmodified_of_lasting settings.symm revision.sameId.symm etcd old lasting mem
    exact ⟨object, wanted, slot⟩

/-- What is left is what a fresh start would leave, exactly when the customer is the same and no
volume claims are left behind. -/
theorem matches_iff :
    (brought config cluster {}).Matches (brought config cluster (start i)) <->
      former.topology.customerId = cluster.topology.customerId ∧
        (old = .persistentVolume -> etcd = .persistentVolume) := by
  let first : Blueprint := blueprint config former
  let b : Blueprint := blueprint config cluster
  constructor
  · intro same
    exact ⟨edited.customer_of_matches revision within same,
      edited.claims_of_matches revision within same⟩
  · rintro ⟨sameCustomer, claims⟩ kind slot
    have fresh := records_brought config revision.valid revision.registered kind
    by_cases among : kind ∈ kinds config etcd cluster
    · have kindred : first.Kindred b := ⟨rfl, revision.sameId, sameCustomer⟩
      have records := (edited.inherits revision available within idle among).records
        fun earlier mem object wanted slot unmodified =>
          kindred.eq_of_unmodified revision.valid revision.bundled mem wanted slot unmodified
      exact fresh.same records (b.apart_desired etcd revision.valid) slot
    · have left := (edited.records_first revision kind).alike
        (edited.untouched revision among within)
      rw [Revision.desired_nil claims among] at left
      rw [desired_nil config etcd cluster among] at fresh
      exact fresh.same left List.nodup_nil slot

end

end Edited

/-- A cluster is brought about where nothing was and then edited, whatever there is to edit: nodes,
version, domain or customer. All passes are completed, and of as many as there are nodes and two
more one writes nothing. By then config maps, deployments, ingresses and services are those of a
fresh start, unless checksums collide. The namespace, the service account and the role bindings
are as they were first made, and so are the volume claims of masters that stay, or of all of them
when the cluster keeps none any more. All in all it is what a fresh start would leave if and only if
the customer is the same and no volume claims are left behind. -/
theorem overCluster_follows_edit {config : Config} {former cluster : Cluster}
    {old etcd : EtcdStorage} {start : Nat -> World} {last : Nat}
    (edited : Edited config former cluster start last)
    (revision : Revision former cluster old etcd)
    (available : ∀ i ≤ last, Available config cluster (start i)) :
    let first := blueprint config former
    let b := blueprint config cluster
    let fresh := brought config cluster {}
    let left (i : Nat) := brought config cluster (start i)
    (∀ spec ∈ [former, cluster],
      (({} : World).run (overCluster config spec .apply).run).1 = .ok .completed) ∧
    (∀ i ≤ last, ((start i).run (overCluster config cluster .apply).run).1 = .ok .completed) ∧
    (cluster.nodes.length < last -> ∃ i ≤ last, Idle (start i).ledger (left i).ledger) ∧
    ∀ i ≤ last, Idle (start i).ledger (left i).ledger ->
      (∀ kind ∈ Blueprint.toldKinds, (kind = .deployment -> ¬ first.Collides b) ->
        ((left i).collections.get kind).Records (b.desired etcd kind)) ∧
      (∀ kind ∈ Blueprint.lastingKinds,
        ((left i).collections.get kind).Records (first.desired old kind)) ∧
      (∀ kind ∈ kinds config etcd cluster, ((left i).collections.get kind).Inherits
        (first.desired old kind) (b.desired etcd kind)) ∧
      (∀ kind, kind ∉ kinds config etcd cluster ->
        ((left i).collections.get kind).Records (first.desired old kind)) ∧
      (fresh.Matches (left i) <->
        former.topology.customerId = cluster.topology.customerId ∧
          (old = .persistentVolume -> etcd = .persistentVolume)) := by
  intro first b fresh left
  refine ⟨?_, fun i within => edited.completed revision within,
    edited.comes_to_rest revision available, fun i within idle => ⟨?_, ?_, ?_, ?_, ?_⟩⟩
  · intro spec mem
    rcases List.mem_cons.1 mem with rfl | mem
    · exact Drawn.empty.completed revision.validFormer revision.registeredFormer
    · rw [List.mem_singleton.1 mem]
      exact Drawn.empty.completed revision.valid revision.registered
  · intro kind told apart
    exact edited.records_told revision available within idle told apart
  · intro kind lasting
    exact edited.records_lasting revision available within idle lasting
  · intro kind among
    exact edited.inherits revision available within idle among
  · intro kind absent
    exact (edited.records_first revision kind).alike (edited.untouched revision absent within)
  · exact edited.matches_iff revision available within idle

/-! ## Deployments that are marked -/

/-- Whichever deployment it was drawn up as, a stored one is to have one pod. -/
theorem replicas_of_drawn {objects : (kind : Kind) -> List (Object kind)} {world : World}
    (drawn : Drawn objects world) {slot : Slot} {existing : Deployment}
    (held : (world.collections.get .deployment).stored slot = some existing) :
    existing.replicas = 1 := by
  obtain ⟨object, wanted, -, same⟩ := drawn.drawn .deployment slot existing held
  obtain ⟨b, etcd, planned⟩ := drawn.wanted .deployment object wanted
  obtain ⟨⟨role, node⟩, -, rfl⟩ := List.mem_map.1 planned
  exact congrArg (fun deployment => Deployment.replicas deployment) same

/-- A deployment that was drawn up is available when it is marked so. -/
theorem available_marking {objects : (kind : Kind) -> List (Object kind)} {world : World}
    (drawn : Drawn objects world) (config : Config) (cluster : Cluster) :
    Available config cluster (world.marking (some running)) := by
  have sound := drawn.sound .deployment
  have restated := Restated.marking (some running) sound
  refine List.all_eq_true.2 fun now among => ?_
  have stored := (blueprint config cluster).found_stored (restated.sound sound) among
  obtain ⟨existing, version, held, rfl⟩ := World.stored_marking (some running) sound stored
  have replicas : Deployment.replicas existing = 1 := replicas_of_drawn drawn held
  have same : Deployment.replicas ((existing.withStatus (some running)).dated version) = 1 :=
    replicas
  rw [Deployment.isAvailable, same]
  rfl

/-- The worlds before the passes when every pass is followed by marking all deployments as
available. -/
def edits (config : Config) (former cluster : Cluster) : Nat -> World
  | 0 => (brought config former {}).marking (some running)
  | i + 1 => (brought config cluster (edits config former cluster i)).marking (some running)

section

variable (config : Config) (former cluster : Cluster) (last : Nat)

/-- The worlds of the edits are sound. -/
theorem sound_edits : (edits config former cluster last).collections.Sound := by
  have marked {world : World} (sound : world.collections.Sound) (spec : Cluster) :
      ((brought config spec world).marking (some running)).collections.Sound := by
    have after := Store.Collections.Sound.run sound (overCluster config spec .apply).run
    exact (Restated.marking (some running) (after .deployment)).sounds after
  induction last with
  | zero => exact marked Drawn.empty.sound former
  | succ i ih => exact marked ih cluster

/-- The edits are a run of passes after an edited spec. -/
theorem edited_edits : Edited config former cluster (edits config former cluster) last := by
  have marked {world : World} (sound : world.collections.Sound) (spec : Cluster) :
      Restated (brought config spec world) ((brought config spec world).marking (some running)) :=
    .marking (some running)
      (Store.Collections.Sound.run sound (overCluster config spec .apply).run .deployment)
  exact ⟨marked Drawn.empty.sound former,
    fun i _ => marked (sound_edits config former cluster i) cluster⟩

variable {former cluster}

/-- Before every pass of the edits the deployments are available. -/
theorem available_edits {old etcd : EtcdStorage} (revision : Revision former cluster old etcd) :
    ∀ i ≤ last, Available config cluster (edits config former cluster i) := by
  have edited := edited_edits config former cluster last
  intro i within
  cases i with
  | zero =>
    have drawn : Drawn _ (brought config former {}) :=
      Drawn.empty.brought revision.validFormer revision.registeredFormer
    exact available_marking drawn config cluster
  | succ i =>
    have drawn := edited.drawn_brought revision (Nat.le_of_succ_le within)
    exact available_marking drawn config cluster

end

/-- The cluster of two nodes with another worker and of a later version. -/
def grownCluster : Cluster :=
  { pairCluster "al9qy" with
    topology := { (pairCluster "al9qy").topology with workers := [⟨"w2", 4, "4G", "20G"⟩] }
    version := "1.1.0" }

/-- The worker of a cluster is replaced by another one, and the version is a later one. What is
left is what a fresh start would leave. -/
theorem overCluster_follows_edit_grown :
    let former := pairCluster "al9qy"
    let start := edits {} former grownCluster
    (Revision former grownCluster .persistentVolume .persistentVolume ∧
      Edited {} former grownCluster start 3 ∧ ∀ i ≤ 3, Available {} grownCluster (start i)) ∧
    ∃ i ≤ 3, Idle (start i).ledger (brought {} grownCluster (start i)).ledger ∧
      (brought {} grownCluster {}).Matches (brought {} grownCluster (start i)) := by
  intro former start
  have revision : Revision former grownCluster .persistentVolume .persistentVolume :=
    ⟨rfl, by decide, by decide, rfl, rfl⟩
  have edited : Edited {} former grownCluster start 3 := edited_edits {} former grownCluster 3
  have available := available_edits {} 3 revision
  obtain ⟨-, -, comes, rests⟩ := overCluster_follows_edit edited revision available
  obtain ⟨i, within, idle⟩ := comes (by decide)
  obtain ⟨-, -, -, -, same⟩ := rests i within idle
  exact ⟨⟨revision, edited, available⟩, i, within, idle, same.2 ⟨rfl, fun _ => rfl⟩⟩

/-- The small cluster under another customer. -/
def movedCluster : Cluster :=
  { smallCluster "al9qy" with
    topology := { (smallCluster "al9qy").topology with customerId := "other" } }

/-- When a cluster gets another customer, passes come to an end that is not the one of a fresh
start. -/
theorem overCluster_keeps_customer :
    let former := smallCluster "al9qy"
    let start := edits {} former movedCluster
    (Revision former movedCluster .persistentVolume .persistentVolume ∧
      Edited {} former movedCluster start 2 ∧ ∀ i ≤ 2, Available {} movedCluster (start i)) ∧
    ∃ i ≤ 2, Idle (start i).ledger (brought {} movedCluster (start i)).ledger ∧
      ¬ (brought {} movedCluster {}).Matches (brought {} movedCluster (start i)) := by
  intro former start
  have revision : Revision former movedCluster .persistentVolume .persistentVolume :=
    ⟨rfl, by decide, by decide, rfl, rfl⟩
  have edited : Edited {} former movedCluster start 2 := edited_edits {} former movedCluster 2
  have available := available_edits {} 2 revision
  obtain ⟨i, within, idle⟩ := edited.comes_to_rest revision available (by decide)
  refine ⟨⟨revision, edited, available⟩, i, within, idle, fun same => ?_⟩
  have sameCustomer := edited.customer_of_matches revision within same
  exact absurd sameCustomer (by decide)

end Pass

end GuestFleet
