import GuestFleet.Proofs.Cluster.Course

/-!
# Passes over a cluster whose namespace goes away

While the API server takes a namespace down, nothing new can be put into it. A pass that is to
bring the cluster about is told to stop by the first thing it reads, and no later part of it
runs. A pass that is to take the cluster down is never told to stop.
-/

namespace GuestFleet

open Kube (Kind Object)
open Store (Collection Collections View World)

variable {σ : Type} {around : Surroundings σ}

/-! ## Parts of a pass that leave its context alone -/

/-- A program ends as demanded when every end is. -/
theorem Program.ends_of_forall {program : Program α} {post : α -> σ -> Prop}
    (holds : ∀ value after, post value after) (state : σ) : program.Ends around state post := by
  induction program generalizing state with
  | done value => exact holds value state
  | step command next ih => exact fun reply after _ => ih reply after

/-- The part of a pass hands on the context that it gets, however it ends. -/
def Work.Aloof (around : Surroundings σ) (context : Context) (work : Work Program α) : Prop :=
  ∀ state, work.Ends around context state (fun _ after _ => after = context)
    fun _ after _ => after = context

namespace Work

variable {context : Context}

/-- A request leaves the context of a pass alone. -/
theorem aloof_ofRequest (request : Request α) : (Work.ofRequest request).Aloof around context := by
  refine fun state => ends_ofRequest.2 (Program.ends_of_forall ?_ state)
  rintro (failure | value) after
  · exact rfl
  · exact rfl

/-- So does a value. -/
theorem aloof_pure (value : α) : (pure value : Work Program α).Aloof around context :=
  fun _ => ends_pure.2 rfl

/-- So does a failure. -/
theorem aloof_throw (failure : Failure) : (throw failure : Work Program α).Aloof around context :=
  fun _ => ends_throw.2 rfl

/-- A sequence leaves the context of a pass alone when both of its parts do. -/
theorem Aloof.bind {work : Work Program α} {following : α -> Work Program β}
    (first : work.Aloof around context) (next : ∀ value, (following value).Aloof around context) :
    (work >>= following).Aloof around context := by
  refine fun state => ends_bind.2 (Work.Ends.mono (first state) ?_ fun _ _ _ same => same)
  rintro value _ after rfl
  exact next value after

/-- A part that leaves the context of a pass alone leaves the pass going. -/
theorem Aloof.leads {work : Work Program α} (aloof : work.Aloof around context)
    (going : context.cancelled = false) :
    work.Leads around (fun after _ => after = context) (fun after _ => after = context)
      fun _ after _ => after = context := by
  rintro _ state - rfl
  refine Work.Ends.mono (aloof state) ?_ ?_
  · rintro value _ after rfl
    exact (landed_onward going).2 rfl
  · rintro failure _ after rfl
    exact ⟨rfl, fun _ => ⟨going, rfl⟩⟩

end Work

namespace Resource

variable {context : Context}

/-- Everything that a resource does to take its objects down leaves the context alone. -/
structure Aloof (around : Surroundings σ) (context : Context) (resource : Resource Program) :
    Prop where
  reads : resource.currentState.Aloof around context
  desires : resource.desiredState.Aloof around context
  picks : ∀ current desired, (resource.deletePatch current desired).Aloof around context
  deletes : ∀ objects, (resource.applyDelete objects).Aloof around context

/-- Between any two phases of such a resource the context is that of the start. -/
theorem Aloof.removes {resource : Resource Program} (aloof : resource.Aloof around context)
    (going : context.cancelled = false) :
    resource.Removes around (fun after _ => after = context) (fun after _ => after = context)
      (fun _ after _ => after = context) (fun _ _ after _ => after = context)
      (fun _ after _ => after = context) fun after _ => after = context where
  reads := aloof.reads.leads going
  desires _ := aloof.desires.leads going
  patches current desired := (aloof.picks current desired).leads going
  deletesNothing _ _ _ _ same := same
  deletes change _ := (aloof.deletes change.delete).leads going

/-- Making desired objects leaves the context of a pass alone. -/
theorem aloof_ofBlueprint {kind : Kind} (settings : ManifestSettings) (cluster : Cluster)
    (objects : Blueprint -> List (Object kind)) :
    (ofBlueprint settings cluster objects).Aloof around context := by
  unfold ofBlueprint
  cases Blueprint.make cluster settings with
  | ok blueprint => exact Work.aloof_pure _
  | error failure => exact Work.aloof_throw failure

/-- A resource without ways of its own leaves the context alone when its reading and wanting do. -/
theorem aloof_basic (name : String) {kind : Kind}
    {current desired : Work Program (List (Object kind))} (reads : current.Aloof around context)
    (desires : desired.Aloof around context) :
    (basic name kind current desired).Aloof around context where
  reads := reads
  desires := desires
  picks _ _ := Work.aloof_pure _
  deletes _ := Work.aloof_ofRequest _

/-- Only a pass that is to bring a cluster about is told to stop by the namespace. -/
theorem aloof_namespaceState (cluster : Cluster) (isDelete : context.event = .delete) :
    (namespaceState cluster).Aloof around context := by
  refine (Work.aloof_ofRequest _).bind fun current state => ?_
  refine Work.ends_bind.2 (Work.ends_getContext.2 ?_)
  have goesOn : ¬ (context.event = .apply && current.any isTerminating) = true := by
    rw [isDelete]
    exact Bool.false_ne_true
  rw [if_neg goesOn]
  exact Work.ends_pure.2 rfl

/-- No resource of a cluster tells a pass to stop that takes the cluster down. -/
theorem aloof_ofCluster {settings : ManifestSettings} {etcd : EtcdStorage} {cluster : Cluster}
    (isDelete : context.event = .delete) {resource : Resource Program}
    (mem : resource ∈ ofCluster settings etcd cluster) : resource.Aloof around context := by
  have ofRequests (name : String) {kind : Kind} (request : Request (List (Object kind)))
      (objects : Blueprint -> List (Object kind)) :
      (basic name kind (Work.ofRequest request)
        (ofBlueprint settings cluster objects)).Aloof around context :=
    aloof_basic name (Work.aloof_ofRequest request) (aloof_ofBlueprint settings cluster objects)
  rcases List.mem_append.1 mem with mem | mem
  · rcases List.mem_append.1 mem with mem | mem
    · simp only [List.mem_cons, List.not_mem_nil, or_false] at mem
      rcases mem with rfl | rfl | rfl | rfl
      · exact aloof_basic _ (aloof_namespaceState cluster isDelete) (aloof_ofBlueprint _ _ _)
      · exact ofRequests _ _ _
      · exact { ofRequests "clusterrolebinding" _ _ with }
      · exact { ofRequests "configmap" _ _ with }
    · cases etcd with
      | hostPath => cases mem
      | persistentVolume =>
        obtain rfl := List.mem_singleton.1 mem
        have reads : (listEtcdClaims cluster).Aloof around context :=
          (Work.aloof_ofRequest _).bind fun _ => Work.aloof_pure _
        exact aloof_basic _ reads (aloof_ofBlueprint _ _ _)
  · simp only [List.mem_cons, List.not_mem_nil, or_false] at mem
    rcases mem with rfl | rfl | rfl
    · exact { ofRequests "deployment" _ _ with }
    · exact { ofRequests "ingress" _ _ with }
    · exact { ofRequests "service" _ _ with }

end Resource

/-! ## Passes -/

namespace Pass

variable (config : Config) (cluster : Cluster)

/-- Whatever answers it, a pass that takes a cluster down is not told to stop. -/
theorem overCluster_goesOn (state : σ) :
    (overCluster config cluster .delete).Ends around state (fun outcome _ => outcome = .completed)
      fun _ _ => True := by
  unfold overCluster
  cases Resource.bundles.resolve cluster.version with
  | error failure => exact Request.ends_throw.2 trivial
  | ok etcd =>
    let start : Context := { event := .delete }
    have handles : ∀ done resource later,
        Resource.ofCluster config.manifests etcd cluster = done ++ resource :: later ->
        ∀ context (state : σ), context.cancelled = false -> context = start ->
          (handle .delete (resource.wrapped config.retry cluster.namespaceName)).Reaches around
            (fun context _ => context = start) (fun context _ => context = start)
            context state := by
      rintro done resource later split _ state going rfl
      have mem : resource ∈ Resource.ofCluster config.manifests etcd cluster := by
        rw [split]
        exact List.mem_append_right done List.mem_cons_self
      have aloof : resource.Aloof around start := Resource.aloof_ofCluster rfl mem
      exact ((aloof.removes rfl).wrapped _ _).ensureDeleted going rfl
    refine Request.Ends.mono (run_ends_map (fun _ context _ => context = start) handles rfl) ?_
      fun _ _ _ => trivial
    intro outcome state ended
    cases outcome with
    | completed => rfl
    | cancelled resource =>
      obtain ⟨_, cancelled, rfl⟩ := ended
      cases cancelled

/-- A namespace that is being taken down stops every pass that is to bring its cluster about. -/
theorem stops_of_terminating {all : Collections} {object : Object .namespace}
    (stored : (all.get .namespace).stored (.make none cluster.namespaceName) = some object)
    (terminating : Resource.isTerminating object = true) :
    (blueprint config cluster).Stops .apply all := by
  refine ⟨rfl, ?_⟩
  show ([cluster.namespaceName].filterMap fun name =>
    (all.get .namespace).stored (.make none name)).any Object.stopsPass = true
  rw [List.filterMap_cons, stored]
  show (Resource.isTerminating object || _) = true
  rw [terminating]
  rfl

/-- While the namespace of a cluster is being taken down, a pass that is to bring the cluster
about makes no call that writes: it is cancelled by the namespace, or fails as it reads it. A
pass over the same objects that takes the cluster down is never cancelled. -/
theorem overCluster_terminating {world : World}
    (steady : ∀ kind, (world.collections.get kind).Steady) {etcd : EtcdStorage}
    (registered : Resource.bundles.resolve cluster.version = .ok etcd)
    {object : Object .namespace} {status : Kube.NamespaceStatus}
    (stored : (world.collections.get .namespace).stored (.make none cluster.namespaceName) =
      some object)
    (hasStatus : object.body.status = some status)
    (terminating : status.phase = some "Terminating") :
    let applied := world.run (overCluster config cluster .apply).run
    let deleted := world.run (overCluster config cluster .delete).run
    (applied.1 = .ok (.cancelled "namespace") ∨
        ∃ cause, applied.1 = .error (.inPhase "namespace" .currentState cause)) ∧
      Idle world.ledger applied.2.ledger ∧
      ∀ resource, deleted.1 ≠ .ok (.cancelled resource) := by
  intro applied deleted
  have isTerminating : Resource.isTerminating object = true := by
    simp [Resource.isTerminating, hasStatus, terminating]
  have stops := stops_of_terminating config cluster stored isTerminating
  have ends : Program.Ends View.ledger.around (overCluster config cluster .apply).run
      (world.amid []).ledger fun result after =>
        (result = .ok (.cancelled "namespace") ∨
          ∃ cause, result = .error (.inPhase "namespace" .currentState cause)) ∧
        Idle world.ledger after := by
    rw [world.amid_nil, overCluster_eq config registered .apply]
    refine Program.Ends.mono (run_cancelled config etcd cluster world.ledger steady stops) ?_
    rintro (failure | outcome) after ended
    · obtain ⟨idle, -, cause, rfl⟩ := ended
      exact ⟨.inr ⟨cause, rfl⟩, idle⟩
    · obtain ⟨rfl, idle⟩ := ended
      exact ⟨.inl rfl, idle⟩
  have atEnd := View.ledger.amid_of_ends ends
  have faces := world.faces_runAmid [] (overCluster config cluster .apply).run
  rw [world.runAmid_nil] at atEnd faces
  refine ⟨atEnd.1, Idle.faced atEnd.2 faces, fun resource cancelled => ?_⟩
  cases View.ledger.ok_of_ends_alone (overCluster_goesOn config cluster world.ledger) cancelled

/-- The namespace of the cluster al9qy on its way out. -/
def endingNamespace : Object .namespace :=
  { metadata := { name := some "al9qy" }
    body := { status := some { phase := some "Terminating" } } }

/-- The API server is overloaded while it takes the namespace down. -/
def endingWorld : World :=
  (({} : World).insert endingNamespace).failNext .namespace 2 ⟨.get, 503, "ServiceUnavailable"⟩

/-- No part of a cluster is put into a namespace on its way out, even by a pass that has to ask
for it three times. -/
theorem overCluster_terminating_small :
    let applied := endingWorld.run (overCluster {} (smallCluster "al9qy") .apply).run
    let deleted := endingWorld.run (overCluster {} (smallCluster "al9qy") .delete).run
    (applied.1 = .ok (.cancelled "namespace") ∨
        ∃ cause, applied.1 = .error (.inPhase "namespace" .currentState cause)) ∧
      Idle endingWorld.ledger applied.2.ledger ∧
      ∀ resource, deleted.1 ≠ .ok (.cancelled resource) := by
  have steady : ∀ kind, (endingWorld.collections.get kind).Steady := by
    intro kind
    cases kind with
    | «namespace» =>
      refine ⟨(Collection.sound_empty.insert endingNamespace).congr rfl rfl, fun fault mem => ?_⟩
      rw [List.eq_of_mem_replicate (show fault ∈ List.replicate 2 _ from mem)]
      exact .inr (.inr (by decide))
    | _ => exact Collection.sound_empty.steady rfl
  have registered : Resource.bundles.resolve (smallCluster "al9qy").version =
      .ok .persistentVolume := rfl
  exact overCluster_terminating {} (smallCluster "al9qy") steady registered rfl rfl rfl

end Pass

end GuestFleet
