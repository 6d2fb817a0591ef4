import GuestFleet.Proofs.Resource.Readings
import GuestFleet.Proofs.Resource.Confined

/-!
# What a pass may touch

A pass over a cluster fills only slots that the cluster has names for, and empties besides only
slots in the cluster's namespace whose objects carry the labels of its nodes: those may be left
over from nodes that are gone. Everything else in the collections is as it was, whatever the
collections hold, however the pass ends and whichever calls fail.
-/

namespace GuestFleet

open Kube (Kind Object)
open Store (Collection Collections Ledger Slot View World slotOf)

/-! ## Names and marks -/

namespace Cluster

variable (cluster : Cluster)

/-- The slots of the objects that a cluster needs. -/
def Reserves (kind : Kind) (slot : Slot) : Prop :=
  match kind with
  | .namespace => slot = ⟨"", cluster.id⟩
  | .serviceAccount => slot = ⟨cluster.id, cluster.id⟩
  | .clusterRoleBinding => slot = ⟨"", cluster.id⟩ ∨ slot = ⟨"", cluster.id ++ "-psp"⟩
  | .configMap | .deployment =>
    ∃ node ∈ cluster.nodes, slot = ⟨cluster.id, nodeName node.1 cluster.id node.2.id⟩
  | .persistentVolumeClaim =>
    ∃ node ∈ cluster.topology.masters, slot = ⟨cluster.id, etcdClaimName cluster.id node.id⟩
  | .ingress => slot = ⟨cluster.id, "etcd"⟩ ∨ slot = ⟨cluster.id, "api"⟩
  | .service => slot = ⟨cluster.id, "master"⟩ ∨ slot = ⟨cluster.id, "worker"⟩
  | .pod => False

/-- The object is marked as one of a node of the cluster. Only objects of nodes are found by
their marks. -/
def Marks : {kind : Kind} -> Object kind -> Prop
  | .configMap, object => ∃ role, Labelled cluster.id role object.metadata.labels
  | .deployment, object => ∃ role, Labelled cluster.id role object.metadata.labels
  | .persistentVolumeClaim, object =>
    Labelled cluster.id .master object.metadata.labels ∧
      (etcdClaimStart cluster.id).toList <+: object.name.toList
  | _, _ => False

/-- In the slot is an object in the cluster's namespace that is marked as one of its nodes. -/
def Recognizes (all : Collections) (kind : Kind) (slot : Slot) : Prop :=
  slot.space = cluster.id ∧
    ∃ object, (all.get kind).stored slot = some object ∧ cluster.Marks object

/-- What a pass may make of the objects of all kinds: outside of the reserved slots it may take
away what it recognizes, and change nothing else. -/
structure Spares (before after : Ledger) : Prop where
  sound : after.collections.Sound
  slots : ∀ kind slot, cluster.Reserves kind slot ∨
    (after.collections.get kind).stored slot = (before.collections.get kind).stored slot ∨
    (cluster.Recognizes before.collections kind slot ∧
      (after.collections.get kind).stored slot = none)

/-- The bounds of a pass that finds some objects. -/
def bounds (all : Collections) : Bounds where
  fills := cluster.Reserves
  empties kind slot := cluster.Reserves kind slot ∨ cluster.Recognizes all kind slot

end Cluster

/-- A cluster needs objects in slots that it has names for. -/
theorem Blueprint.reserves_desired (b : Blueprint) (etcd : EtcdStorage) {kind : Kind}
    {object : Object kind} (mem : object ∈ b.desired etcd kind) :
    b.cluster.Reserves kind (slotOf object) := by
  cases kind with
  | «namespace» =>
    rw [List.mem_singleton.1 mem]
    rfl
  | serviceAccount =>
    rw [List.mem_singleton.1 mem]
    rfl
  | clusterRoleBinding =>
    rcases List.mem_cons.1 mem with rfl | mem
    · exact .inl rfl
    · rw [List.mem_singleton.1 mem]
      exact .inr rfl
  | configMap =>
    obtain ⟨⟨role, node⟩, among, rfl⟩ := List.mem_map.1 mem
    exact ⟨(role, node), among, rfl⟩
  | persistentVolumeClaim =>
    cases etcd with
    | hostPath => cases mem
    | persistentVolume =>
      obtain ⟨node, among, rfl⟩ := List.mem_map.1 mem
      exact ⟨node, among, rfl⟩
  | deployment =>
    obtain ⟨⟨role, node⟩, among, rfl⟩ := List.mem_map.1 mem
    exact ⟨(role, node), among, rfl⟩
  | ingress =>
    rcases List.mem_cons.1 mem with rfl | mem
    · exact .inl rfl
    · rw [List.mem_singleton.1 mem]
      exact .inr rfl
  | service =>
    rcases List.mem_cons.1 mem with rfl | mem
    · exact .inl rfl
    · rw [List.mem_singleton.1 mem]
      exact .inr rfl
  | pod => cases mem

/-! ## Commands within the bounds -/

section

variable {cluster : Cluster} {before : Ledger}

/-- Nothing was touched where nothing was done. -/
theorem Cluster.Spares.refl (sound : before.collections.Sound) : cluster.Spares before before :=
  ⟨sound, fun _ _ => .inr (.inl rfl)⟩

/-- The effect of a command within the bounds: the other slots are as before, or are emptied. -/
theorem Command.IsWithin.stored {kind other : Kind} {command : Command}
    (isWithin : command.IsWithin (cluster.bounds before.collections) cluster.id kind)
    {c d : Collection other} (effect : Store.Command.Effect command c d) (slot : Slot) :
    cluster.Reserves other slot ∨ d.stored slot = c.stored slot ∨
      (cluster.Recognizes before.collections other slot ∧ d.stored slot = none) := by
  rcases effect with alike | ⟨object, isWrite, alike⟩ | ⟨space, name, grace, rfl, alike⟩
  · exact .inr (.inl (alike.stored slot))
  · have reserved : cluster.Reserves other (slotOf object) := by
      rcases isWrite with rfl | rfl
      · exact isWithin.2.2
      · exact isWithin.2.2
    rw [alike.stored, Collection.stored_insert]
    split_ifs with here
    · rw [here]
      exact .inl reserved
    · exact .inr (.inl rfl)
  · rw [alike.stored, Collection.stored_erase]
    split_ifs with here
    · rw [here]
      exact isWithin.2.imp id fun recognized => .inr ⟨recognized, rfl⟩
    · exact .inr (.inl rfl)

/-- No command within the bounds touches what is to be spared. -/
theorem guarded_spares (cluster : Cluster) (kind : Kind) (before : Ledger) :
    Guarded View.ledger.alone
      (Command.IsWithin (cluster.bounds before.collections) cluster.id kind)
      (cluster.Spares before) := by
  rintro state command reply after spares isWithin ⟨world, rfl, rfl, rfl⟩
  refine ⟨⟨?_, ?_⟩, Store.answer_fits command spares.sound⟩
  · intro other
    exact (Store.answer_effect command world other).sound (spares.sound other)
  · intro other slot
    rcases isWithin.stored (Store.answer_effect command world other) slot with
      reserved | same | emptied
    · exact .inl reserved
    · have earlier := spares.slots other slot
      exact earlier.imp id (Or.imp same.trans (And.imp id same.trans))
    · exact .inr (.inr emptied)

variable (before) in
/-- What is listed in the namespace of the cluster and marked is in slots that may be emptied:
nothing of it has come since the start of the pass, save what the cluster needs. -/
theorem finds_spared {kind : Kind} {selector : String} (marked : Object kind -> Prop)
    (selects : ∀ object : Object kind, marked object ->
      Kube.Selector.selects selector object.metadata.labels = true -> cluster.Marks object) :
    (Request.list kind (some cluster.id) selector).Keeps View.ledger.alone
      (cluster.Spares before) fun objects => ∀ object ∈ objects, marked object ->
        (cluster.bounds before.collections).empties kind (slotOf object) := by
  intro state spares reply after answered
  have guarded := guarded_spares cluster kind before
  have kept := (guarded state (.list kind (some cluster.id) selector) reply after spares rfl
    answered).1
  obtain ⟨world, rfl, replied, rfl⟩ := answered
  cases reply with
  | error failure => exact kept
  | ok objects =>
    refine ⟨kept, fun object mem isMarked => ?_⟩
    obtain ⟨stored, inSpace, selected⟩ := Store.stored_of_listed spares.sound replied mem
    have space : cluster.id = (slotOf object).space := by simpa using inSpace
    have recognized : cluster.Marks object := selects object isMarked selected
    rcases spares.slots kind (slotOf object) with reserved | same | ⟨-, gone⟩
    · exact .inl reserved
    · exact .inr ⟨space.symm, object, same.symm.trans stored, recognized⟩
    · cases stored.symm.trans gone

/-- The bounds suit a valid cluster. -/
theorem suits_spares (config : Config) (valid : cluster.isValid = true) (before : Ledger)
    (kind : Kind) :
    Resource.Suits View.ledger.alone (cluster.Spares before) (cluster.bounds before.collections)
      ⟨cluster, config.manifests⟩ kind where
  guarded := guarded_spares cluster kind before
  fills etcd _ mem := Blueprint.reserves_desired ⟨cluster, config.manifests⟩ etcd mem
  empties _ reserved := .inl reserved
  finds := by
    have plain := (Cluster.id_of_valid valid).1
    have nodes {kind : Kind} (isNode : kind = .configMap ∨ kind = .deployment)
        (object : Object kind) (selected :
          Kube.Selector.selects cluster.nodeSelector object.metadata.labels = true) :
        cluster.Marks object := by
      rcases isNode with rfl | rfl
      · exact (selects_nodeSelector plain).1 selected
      · exact (selects_nodeSelector plain).1 selected
    cases kind with
    | configMap =>
      have found := finds_spared before (fun _ => True)
        fun object _ => nodes (.inl rfl) object
      exact Work.keeps_ofRequest (found.mono fun _ own object mem => own object mem trivial)
    | deployment =>
      have found := finds_spared before (fun _ => True)
        fun object _ => nodes (.inr rfl) object
      exact Work.keeps_ofRequest (found.mono fun _ own object mem => own object mem trivial)
    | persistentVolumeClaim =>
      have found := finds_spared before
        (fun claim => Resource.isEtcdClaim cluster.id claim = true) fun claim named selected =>
          ⟨(selects_roleSelector plain).1 selected, List.isPrefixOf_iff_prefix.1 named⟩
      refine Work.keeps_request_bind found fun claims own => Work.keeps_pure fun claim mem => ?_
      obtain ⟨among, named⟩ := List.mem_filter.1 mem
      exact own claim among named
    | _ => trivial

end

/-- A pass over a valid cluster spares everything but what the cluster has a name for and what
it recognizes as its own, whatever the collections hold, whichever calls fail and however the
pass ends: a slot that is not reserved holds what it held, with its version, or an object of a
node of the cluster was taken out of it. -/
theorem Pass.overCluster_spares (config : Config) {cluster : Cluster}
    (valid : cluster.isValid = true) (event : Event) {world : World}
    (sound : world.collections.Sound) :
    let after := (world.run (Pass.overCluster config cluster event).run).2
    ∀ kind slot, cluster.Reserves kind slot ∨
      (after.collections.get kind).stored slot = (world.collections.get kind).stored slot ∨
      (cluster.Recognizes world.collections kind slot ∧
        (after.collections.get kind).stored slot = none) := by
  intro after
  have keeps := Pass.overCluster_keeps_within config cluster event
    (suits_spares config valid world.ledger)
  exact (keeps.run (Cluster.Spares.refl sound)).slots

/-- Notes that somebody keeps in the namespace of the cluster al9qy. -/
def foreignNotes : Object .configMap :=
  { metadata := { name := some "notes", namespaceName := some "al9qy" }, body := {} }

/-- A world with nothing but the notes. -/
def notedWorld : World := ({} : World).insert foreignNotes

/-- The notes are left alone when the cluster is brought about in their namespace. -/
theorem Pass.overCluster_spares_notes :
    let after := (notedWorld.run (Pass.overCluster {} (smallCluster "al9qy") .apply).run).2
    (after.collections.get .configMap).stored ⟨"al9qy", "notes"⟩ =
      (notedWorld.collections.get .configMap).stored ⟨"al9qy", "notes"⟩ := by
  intro after
  have sound : notedWorld.collections.Sound := by
    intro kind
    cases kind with
    | configMap => exact Collection.sound_empty.insert foreignNotes
    | _ => exact Collection.sound_empty
  have valid : (smallCluster "al9qy").isValid = true := by decide
  rcases overCluster_spares {} valid .apply sound .configMap ⟨"al9qy", "notes"⟩ with
    ⟨node, mem, slot⟩ | same | ⟨⟨-, object, stored, role, inCluster, -⟩, -⟩
  · rw [List.mem_singleton.1 mem] at slot
    exact absurd slot (by decide)
  · exact same
  · obtain rfl : _ = object := Option.some.inj stored
    cases inCluster

end GuestFleet
