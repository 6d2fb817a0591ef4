import GuestFleet.Proofs.Cluster.Ownership
import GuestFleet.Proofs.Resource.Settled

/-!
# A second pass rests

A pass over a cluster treats one kind after the other, and no handler touches the objects
of another one's kind. That is why a completed pass has settled every kind that it looks
after, and the next pass finds all of them settled.
-/

namespace GuestFleet

open Kube (Kind Object)
open Store (Collection Ledger View World)

/-! ## Kind by kind -/

/-- Where a pass stands: the kinds that are done have come to what is said of them, and the
others are as they were. -/
structure Stands (id : String) (before : Ledger) (reached : (kind : Kind) -> Collection kind -> Prop)
    (done : List Kind) (ledger : Ledger) : Prop where
  owned : ledger.collections.Owned id
  faults : ∀ kind, (ledger.collections.get kind).faults ⊆ (before.collections.get kind).faults
  reached : ∀ kind ∈ done, reached kind (ledger.collections.get kind)
  untouched : ∀ kind, kind ∉ done ->
    ledger.collections.get kind = before.collections.get kind

section

variable {id : String} {before : Ledger} {reached : (kind : Kind) -> Collection kind -> Prop}

/-- A pass that has not begun has reached nothing and left everything as it was. -/
theorem Stands.refl (owned : before.collections.Owned id) : Stands id before reached [] before := by
  refine ⟨owned, fun _ => List.Subset.refl _, ?_, fun _ _ => rfl⟩
  intro kind mem
  cases mem

/-- Commands on one more kind leave the kinds that are done alone. -/
theorem Stands.step {done : List Kind} {kind : Kind} {ledger after : Ledger}
    (stands : Stands id before reached done ledger) (fresh : kind ∉ done)
    (kept : Kept id kind ledger after) (here : reached kind (after.collections.get kind)) :
    Stands id before reached (done ++ [kind]) after := by
  refine ⟨kept.owned, ?_, ?_, ?_⟩
  · intro other
    exact List.Subset.trans (kept.faults other) (stands.faults other)
  · intro other mem
    rcases List.mem_append.1 mem with among | mem
    · have ne : other ≠ kind := ne_of_mem_of_not_mem among fresh
      rw [kept.others other ne]
      exact stands.reached other among
    · rw [List.mem_singleton.1 mem]
      exact here
  · intro other absent
    have ne : other ≠ kind := by
      rintro rfl
      exact absent (List.mem_append_right done List.mem_cons_self)
    have notDone : other ∉ done := by
      intro mem
      exact absent (List.mem_append_left _ mem)
    exact (kept.others other ne).trans (stands.untouched other notDone)

/-- A part of a pass that reaches something of a kind, and keeps the other kinds, gets one
kind further. -/
theorem Stands.reaches {work : Work Program Unit} {rest : Prop} {onward : Context -> Prop}
    {done : List Kind} {kind : Kind} {context : Context} {ledger : Ledger}
    (stands : Stands id before reached done ledger) (fresh : kind ∉ done)
    (here : work.Reaches (View.collection kind).around (fun _ _ => rest)
      (fun context c => onward context ∧ reached kind c) context (before.collections.get kind))
    (keeps : work.Reaches View.ledger.around (fun _ => Kept id kind ledger)
      (fun _ => Kept id kind ledger) context ledger) :
    work.Reaches View.ledger.around (fun _ _ => rest)
      (fun context after => onward context ∧ Stands id before reached (done ++ [kind]) after)
      context ledger := by
  rw [← stands.untouched kind fresh] at here
  have both := Work.Reaches.both (Work.reaches_of_part here) keeps
  refine both.mono ?_ ?_
  · rintro context after ⟨resting, -⟩
    exact resting
  · rintro context after ⟨⟨onwards, reached⟩, kept⟩
    exact ⟨onwards, stands.step fresh kept reached⟩

variable (reached)

/-- Handlers of distinct kinds that each reach something do so together. -/
theorem Pass.run_stands {event : Event} {resources : List (Resource Program)}
    (distinct : (resources.map Resource.kind).Nodup) (policy : RetryPolicy) (scope : String)
    (rest : Prop) (onward : Context -> Prop) (starts : onward { event := event })
    (owned : before.collections.Owned id)
    (keeps : ∀ resource ∈ resources, ∀ context ledger, context.cancelled = false ->
      ledger.collections.Owned id ->
      (handle event (resource.wrapped policy scope)).Reaches View.ledger.around
        (fun _ => Kept id resource.kind ledger) (fun _ => Kept id resource.kind ledger) context
        ledger)
    (reaches : ∀ resource ∈ resources, ∀ context, context.cancelled = false -> onward context ->
      (handle event (resource.wrapped policy scope)).Reaches
        (View.collection resource.kind).around (fun _ _ => rest)
        (fun context c => onward context ∧ reached resource.kind c) context
        (before.collections.get resource.kind)) :
    Request.Ends View.ledger.around (run event (resources.map (Resource.wrapped policy scope)))
      before
      (fun outcome ledger =>
        (outcome = .completed -> Stands id before reached (resources.map Resource.kind) ledger) ∧
          (outcome ≠ .completed -> rest))
      fun _ _ => rest := by
  let stage (done : List (Resource Program)) (context : Context) (ledger : Ledger) : Prop :=
    onward context ∧ Stands id before reached (done.map Resource.kind) ledger
  have handles : ∀ done resource later, resources = done ++ resource :: later ->
      ∀ context ledger, context.cancelled = false -> stage done context ledger ->
        (handle event (resource.wrapped policy scope)).Reaches View.ledger.around
          (fun _ _ => rest) (stage (done ++ [resource])) context ledger := by
    rintro done resource later rfl context ledger going ⟨onwards, stands⟩
    have mem : resource ∈ done ++ resource :: later :=
      List.mem_append_right done List.mem_cons_self
    have fresh : resource.kind ∉ done.map Resource.kind := by
      rw [List.map_append, List.map_cons] at distinct
      intro among
      exact List.disjoint_of_nodup_append distinct among List.mem_cons_self
    have reachesNext := stands.reaches fresh (reaches resource mem context going onwards)
      (keeps resource mem context ledger going stands.owned)
    simpa only [stage, List.map_append, List.map_cons, List.map_nil] using reachesNext
  refine Request.Ends.mono (run_ends_map stage handles ⟨starts, Stands.refl owned⟩) ?_ ?_
  · intro outcome ledger ended
    cases outcome with
    | completed =>
      obtain ⟨_, -, stands⟩ := ended
      exact ⟨fun _ => stands, fun incomplete => absurd rfl incomplete⟩
    | cancelled resource =>
      obtain ⟨_, -, resting⟩ := ended
      exact ⟨nofun, fun _ => resting⟩
  · rintro failure ledger ⟨_, resting⟩
    exact resting

end

/-! ## Passes over a cluster -/

/-- No two resources of a cluster look after the same kind. -/
theorem Resource.distinct_ofCluster (settings : ManifestSettings) (etcd : EtcdStorage)
    (cluster : Cluster) : ((ofCluster settings etcd cluster).map Resource.kind).Nodup := by
  cases etcd with
  | hostPath =>
    have kinds : (ofCluster settings .hostPath cluster).map Resource.kind =
        [.namespace, .serviceAccount, .clusterRoleBinding, .configMap, .deployment, .ingress,
          .service] := rfl
    rw [kinds]
    decide
  | persistentVolume =>
    have kinds : (ofCluster settings .persistentVolume cluster).map Resource.kind =
        [.namespace, .serviceAccount, .clusterRoleBinding, .configMap, .persistentVolumeClaim,
          .deployment, .ingress, .service] := rfl
    rw [kinds]
    decide

namespace Pass

section

variable (config : Config) (etcd : EtcdStorage) (cluster : Cluster)

/-- The blueprint of a cluster under the settings of a configuration. -/
abbrev blueprint : Blueprint := ⟨cluster, config.manifests⟩

/-- The kinds that a pass over a cluster looks after. -/
abbrev kinds : List Kind := (Resource.ofCluster config.manifests etcd cluster).map Resource.kind

variable {etcd cluster} in
/-- A pass over a cluster runs the handlers of the bundle with its version. -/
theorem overCluster_eq (registered : Resource.bundles.resolve cluster.version = .ok etcd)
    (event : Event) :
    overCluster config cluster event = run event (clusterHandlers config etcd cluster) := by
  rw [overCluster, registered]

/-- The handler of a resource leaves everything owned and the other kinds alone. -/
theorem keeps_ofCluster (event : Event) {resource : Resource Program}
    (mem : resource ∈ Resource.ofCluster config.manifests etcd cluster) (context : Context)
    (ledger : Ledger) (going : context.cancelled = false)
    (owned : ledger.collections.Owned cluster.id) :
    (handle event (resource.wrapped config.retry cluster.namespaceName)).Reaches
      View.ledger.around (fun _ => Kept cluster.id resource.kind ledger)
      (fun _ => Kept cluster.id resource.kind ledger) context ledger := by
  have guarded := guarded_kept cluster.id resource.kind ledger
  have confined := Resource.confined_ofCluster config.manifests etcd cluster mem guarded
  exact confined.handles config.retry cluster.namespaceName event going (.refl owned)

variable (valid : cluster.isValid = true) {before : Ledger}
  (owned : before.collections.Owned cluster.id)
  (unfailing : ∀ kind, (before.collections.get kind).faults = [])

include valid owned unfailing

/-- A pass that is completed has settled every kind. -/
theorem run_settles :
    Request.Ends View.ledger.around (run .apply (clusterHandlers config etcd cluster)) before
      (fun outcome ledger => outcome = .completed -> Stands cluster.id before
        (fun kind => Settled ((blueprint config cluster).Sees etcd kind)
          ((blueprint config cluster).desired etcd kind)) (kinds config etcd cluster) ledger)
      fun _ _ => True := by
  let settled (kind : Kind) : Collection kind -> Prop :=
    Settled ((blueprint config cluster).Sees etcd kind)
      ((blueprint config cluster).desired etcd kind)
  have reaches : ∀ resource ∈ Resource.ofCluster config.manifests etcd cluster,
      ∀ context : Context, context.cancelled = false -> context.event = .apply ->
        (handle .apply (resource.wrapped config.retry cluster.namespaceName)).Reaches
          (View.collection resource.kind).around (fun _ _ => True)
          (fun context c => context.event = .apply ∧ settled resource.kind c)
          context (before.collections.get resource.kind) := by
    intro resource mem context going isApply
    have tends := Resource.tends_ofCluster (blueprint config cluster) etcd valid mem
    have steady : (before.collections.get resource.kind).Steady := by
      refine ⟨owned.sound _, ?_⟩
      simp [unfailing]
    exact tends.settles config.retry cluster.namespaceName going isApply steady (owned.owned _)
  have ends := run_stands settled (Resource.distinct_ofCluster config.manifests etcd cluster)
    config.retry cluster.namespaceName True (fun context => context.event = .apply) rfl owned
    (fun resource => keeps_ofCluster config etcd cluster .apply) reaches
  refine Request.Ends.mono ends ?_ fun _ _ _ => trivial
  rintro outcome ledger ⟨stands, -⟩
  exact stands

/-- A pass over settled objects is completed, and they rest. -/
theorem run_rests
    (settled : ∀ kind ∈ kinds config etcd cluster,
      Settled ((blueprint config cluster).Sees etcd kind)
        ((blueprint config cluster).desired etcd kind) (before.collections.get kind)) :
    Request.Ends View.ledger.around (run .apply (clusterHandlers config etcd cluster)) before
      (fun outcome ledger => outcome = .completed ∧ Stands cluster.id before
        (fun kind => Rested ((blueprint config cluster).desired etcd kind)
          (before.collections.get kind)) (kinds config etcd cluster) ledger)
      fun _ _ => False := by
  let rested (kind : Kind) : Collection kind -> Prop :=
    Rested ((blueprint config cluster).desired etcd kind) (before.collections.get kind)
  have reaches : ∀ resource ∈ Resource.ofCluster config.manifests etcd cluster,
      ∀ context : Context, context.cancelled = false -> context.Fresh ->
        (handle .apply (resource.wrapped config.retry cluster.namespaceName)).Reaches
          (View.collection resource.kind).around (fun _ _ => False)
          (fun context c => context.Fresh ∧ rested resource.kind c)
          context (before.collections.get resource.kind) := by
    intro resource mem context going fresh
    have tends := Resource.tends_ofCluster (blueprint config cluster) etcd valid mem
    have here := settled resource.kind (List.mem_map_of_mem mem)
    exact tends.rests here (owned.owned _) (unfailing _) config.retry cluster.namespaceName going
      fresh
  have ends := run_stands rested (Resource.distinct_ofCluster config.manifests etcd cluster)
    config.retry cluster.namespaceName False Context.Fresh ⟨rfl, rfl⟩ owned
    (fun resource => keeps_ofCluster config etcd cluster .apply) reaches
  refine Request.Ends.mono ends ?_ fun _ _ failed => failed
  rintro outcome ledger ⟨stands, completes⟩
  have completed : outcome = .completed := not_not.1 completes
  exact ⟨completed, stands completed⟩

end

/-- The second of two passes that are to bring a cluster about is completed if the first one
is, and writes nothing but one deployment at most, which had differed from what is desired.
The world before may be any that passes over clusters with the same id can leave. -/
theorem overCluster_idempotent {id : String} {world : World} (reached : Reached id world)
    (unfailing : ∀ kind, (world.collections.get kind).faults = []) (config : Config)
    {cluster : Cluster} (valid : cluster.isValid = true) (isId : cluster.id = id)
    {etcd : EtcdStorage} (registered : Resource.bundles.resolve cluster.version = .ok etcd) :
    let first := world.run (overCluster config cluster .apply).run
    let second := first.2.run (overCluster config cluster .apply).run
    first.1 = .ok .completed ->
      second.1 = .ok .completed ∧
        ∀ kind, Rested ((blueprint config cluster).desired etcd kind)
          (first.2.collections.get kind) (second.2.collections.get kind) := by
  intro first second completed
  subst isId
  have resolved : overCluster config cluster .apply =
      run .apply (clusterHandlers config etcd cluster) := by
    rw [overCluster, registered]
  have ownedBefore : world.ledger.collections.Owned cluster.id := reached.owned
  have settles := run_settles config etcd cluster valid ownedBefore unfailing
  rw [← resolved] at settles
  have stands := View.ledger.ok_of_ends unfailing settles completed rfl
  have unfailingFirst : ∀ kind, (first.2.collections.get kind).faults = [] := by
    intro kind
    have fewer := stands.faults kind
    rw [World.ledger, unfailing kind] at fewer
    exact List.subset_nil.1 fewer
  have rests := run_rests config etcd cluster valid stands.owned unfailingFirst stands.reached
  rw [← resolved] at rests
  have ended := View.ledger.run_of_ends unfailingFirst rests
  obtain ⟨_, isOk, rfl, stands⟩ := Either.exists_ok ended fun _ => id
  refine ⟨isOk, fun kind => ?_⟩
  by_cases mem : kind ∈ kinds config etcd cluster
  · exact stands.reached kind mem
  · have same : second.2.collections.get kind = first.2.collections.get kind :=
      stands.untouched kind mem
    rw [same]
    exact .inl .refl

/-- A pass over a cluster with a worker that breaks off when the deployment of the master was
created, since the API server is overloaded from then on. -/
def brokenPass : Except Failure Outcome × World :=
  ({} : World).runAmid (Store.overload 26 4 .deployment .create)
    (overCluster {} (pairCluster "al9qy") .apply).run

/-- A pass was broken off, and then the only node of the cluster is another one. One pass brings
that cluster about, and the next one writes nothing that is as desired. -/
theorem overCluster_idempotent_moved :
    let first := brokenPass.2.run (overCluster {} (movedMaster "al9qy") .apply).run
    let second := first.2.run (overCluster {} (movedMaster "al9qy") .apply).run
    brokenPass.1.isOk = false ∧ first.1 = .ok .completed ∧ second.1 = .ok .completed ∧
      ∀ kind, Rested ((blueprint {} (movedMaster "al9qy")).desired .persistentVolume kind)
        (first.2.collections.get kind) (second.2.collections.get kind) := by
  have broken : brokenPass.1.isOk = false := by decide +kernel
  have reached : Reached "al9qy" brokenPass.2 := Reached.start.pass {} .apply _ rfl
  have unfailing : ∀ kind, (brokenPass.2.collections.get kind).faults = [] := by
    intro kind
    cases kind <;> decide +kernel
  have valid : (movedMaster "al9qy").isValid = true := by decide
  have registered : Resource.bundles.resolve (movedMaster "al9qy").version =
      .ok .persistentVolume := rfl
  have completed : (brokenPass.2.run (overCluster {} (movedMaster "al9qy") .apply).run).1 =
      .ok .completed := by
    decide +kernel
  exact ⟨broken, completed,
    overCluster_idempotent reached unfailing {} valid rfl registered completed⟩

end Pass

end GuestFleet
