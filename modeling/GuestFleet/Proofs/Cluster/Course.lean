import GuestFleet.Proofs.Cluster.Care
import GuestFleet.Proofs.Cluster.Idempotence

/-!
# The course of a pass

A pass over a cluster looks after one kind after the other, and makes of each the change that is
planned for what is stored at the start. The plan for deployments also depends on which config
maps were written again before; nothing else does.
-/

namespace GuestFleet

open Kube (Kind Object)
open Store (Collection Collections Ledger Storm View World slotOf)
open Request (slotsOf)

/-! ## Plans for all kinds -/

namespace Blueprint

variable (b : Blueprint) (etcd : EtcdStorage) (event : Event) (all : Collections)

/-- The context of a pass that has looked after config maps. -/
def noted : Context :=
  Context.noteAll
    (marks .configMap
      ((b.care etcd .configMap).plan { event := event } (all.get .configMap)).update)
    { event := event }

/-- What a pass is to change of the objects of a kind. -/
def change (kind : Kind) : ChangeSet kind :=
  (b.care etcd kind).plan (b.noted etcd event all) (all.get kind)

/-- What is to be created is desired. -/
theorem change_create (kind : Kind) :
    (b.change etcd event all kind).create.Sublist (b.desired etcd kind) := Care.create_sublist

/-- What is to be written again is desired. -/
theorem change_update (valid : b.cluster.isValid = true) (kind : Kind) :
    (b.change etcd event all kind).update.Sublist (b.desired etcd kind) :=
  (b.fit_care etcd valid kind).update_sublist

/-- A pass that is to bring the cluster about stops, since the namespace is being taken down. -/
def Stops : Prop :=
  event = .apply ∧ (b.found .namespace (all.get .namespace)).any Object.stopsPass = true

/-- The context of a pass that has looked after some kinds. -/
def noticed (done : List Kind) : Context :=
  if .configMap ∈ done then b.noted etcd event all else { event := event }

section

variable {etcd event all} {done : List Kind} {kind : Kind}

/-- Noting config maps leaves the event of a pass. -/
theorem noted_event : (b.noted etcd event all).event = event := Context.event_noteAll _ _

/-- A pass that has looked after no kind has noted nothing. -/
theorem noticed_nil : b.noticed etcd event all [] = { event := event } := if_neg List.not_mem_nil

/-- However far a pass has come, its event is the one it began with. -/
theorem noticed_event : (b.noticed etcd event all done).event = event := by
  unfold noticed
  split_ifs
  · exact b.noted_event
  · rfl

/-- However far a pass has come, it has not been cancelled. -/
theorem noticed_going : (b.noticed etcd event all done).cancelled = false := by
  unfold noticed
  split_ifs
  · exact Context.cancelled_noteAll _ _
  · rfl

/-- Which config maps were written again matters to deployments alone. -/
theorem plan_of_event (notDeployment : kind ≠ .deployment) {first second : Context}
    (same : first.event = second.event) (c : Collection kind) :
    (b.care etcd kind).plan first c = (b.care etcd kind).plan second c := by
  have renewed : (b.care etcd kind).renewed first = (b.care etcd kind).renewed second := by
    funext current
    show b.renewed etcd kind first current = b.renewed etcd kind second current
    rw [b.renewed_usual etcd notDeployment, b.renewed_usual etcd notDeployment]
  unfold Care.plan
  rw [same, renewed]

/-- A kind is compared as planned when its turn comes, deployments after config maps. -/
theorem plan_noticed (order : kind = .deployment -> .configMap ∈ done) :
    (b.care etcd kind).plan (b.noticed etcd event all done) (all.get kind) =
      b.change etcd event all kind := by
  by_cases isDeployment : kind = .deployment
  · rw [noticed, if_pos (order isDeployment)]
    rfl
  · exact b.plan_of_event isDeployment (b.noticed_event.trans b.noted_event.symm) _

/-- Looking after one more kind notes its config maps. -/
theorem noteAll_noticed (fresh : kind ∉ done) :
    (b.noticed etcd event all done).noteAll
        ((b.care etcd kind).marks (b.change etcd event all kind).update) =
      b.noticed etcd event all (done ++ [kind]) := by
  by_cases isConfigMap : kind = .configMap
  · subst isConfigMap
    have now : Kind.configMap ∈ done ++ [Kind.configMap] :=
      List.mem_append_right done List.mem_cons_self
    have planned : b.change etcd event all .configMap =
        (b.care etcd .configMap).plan { event := event } (all.get .configMap) := by
      rw [change]
      refine b.plan_of_event (by decide) ?_ _
      exact b.noted_event
    rw [noticed, noticed, if_neg fresh, if_pos now, planned]
    rfl
  · have unmarked : (b.care etcd kind).marks (b.change etcd event all kind).update = [] := by
      cases kind with
      | configMap => exact absurd rfl isConfigMap
      | _ => rfl
    have still : .configMap ∈ done ++ [kind] <-> .configMap ∈ done := by
      rw [List.mem_append, List.mem_singleton]
      exact or_iff_left fun same => isConfigMap same.symm
    rw [unmarked, noticed, noticed, if_congr still rfl rfl]
    rfl

/-- Where a pass does not stop, the handler of no kind stops. -/
theorem not_stops (calm : ¬ b.Stops event all) {context : Context}
    (isEvent : context.event = event) : ¬ (b.care etcd kind).Stops context (all.get kind) := by
  rintro ⟨isApply, stopping⟩
  rw [isEvent] at isApply
  cases kind with
  | «namespace» => exact calm ⟨isApply, stopping⟩
  | _ => cases (Resource.any_stopsPass (fun _ => rfl) _).symm.trans stopping

/-- When nothing is missing and nothing has to be merged, every change can be made. -/
theorem able_of_existing (valid : b.cluster.isValid = true) (sound : all.Sound)
    (existing : ∀ kind, Diff.created (b.found kind (all.get kind)) (b.desired etcd kind) = [])
    (merged : ∀ kind, kind = .ingress ∨ kind = .service ->
      Diff.modified (b.found kind (all.get kind)) (b.desired etcd kind) = []) (kind : Kind) :
    (b.care etcd kind).Able (all.get kind) (b.change etcd .apply all kind) := by
  have planned : b.change etcd .apply all kind =
      { create := Diff.created (b.found kind (all.get kind)) (b.desired etcd kind)
        delete := Diff.obsolete (b.found kind (all.get kind)) (b.desired etcd kind)
        update := b.renewed etcd kind (b.noted etcd .apply all) (b.found kind (all.get kind)) } :=
    Care.plan_apply b.noted_event
  rw [planned]
  constructor
  · rw [existing kind]
    exact fun object mem => absurd mem List.not_mem_nil
  · intro object mem
    have known := (b.fit_care etcd valid kind).found (sound kind) _ object mem
    obtain ⟨other, among, sameKey⟩ := List.any_eq_true.1 known
    have stored := b.found_stored (sound kind) among
    rw [slotOf_eq_of_key (of_decide_eq_true sameKey)] at stored
    have there : ((all.get kind).stored (slotOf object)).isSome = true := by
      rw [stored]
      rfl
    have unmerged : ¬ (kind = .ingress ∨ kind = .service) := by
      intro isMerged
      have notDeployment : kind ≠ .deployment := by rcases isMerged with rfl | rfl <;> decide
      have differs : object ∈ b.renewed etcd kind (b.noted etcd .apply all)
          (b.found kind (all.get kind)) := mem
      rw [b.renewed_usual etcd notDeployment, merged kind isMerged] at differs
      cases differs
    cases kind with
    | configMap => exact there
    | deployment => exact there
    | ingress => exact absurd (.inl rfl) unmerged
    | service => exact absurd (.inr rfl) unmerged
    | _ => trivial

end

end Blueprint

/-! ## Kind by kind -/

section

variable {b : Blueprint} {etcd : EtcdStorage} {event : Event} {before : Ledger}

/-- How far a pass has come: of the kinds that are done it has made the planned change, and the
others are untouched. -/
structure Course (b : Blueprint) (etcd : EtcdStorage) (event : Event) (before : Ledger)
    (done : List Kind) (ledger : Ledger) : Prop where
  sound : ledger.collections.Sound
  faults : ∀ kind, (ledger.collections.get kind).faults ⊆ (before.collections.get kind).faults
  made : ∀ kind ∈ done,
    (b.care etcd kind).Made (before.collections.get kind)
      (b.change etcd event before.collections kind) (ledger.collections.get kind)
  untouched : ∀ kind, kind ∉ done ->
    (before.collections.get kind).Alike (ledger.collections.get kind)

/-- What a pass leaves that fails: nothing new outside of the desired slots. A failure was
ordered, or one of the changes cannot be made. -/
structure Broken (b : Blueprint) (etcd : EtcdStorage) (event : Event) (before after : Ledger) :
    Prop where
  sound : after.collections.Sound
  faults : ∀ kind, (after.collections.get kind).faults ⊆ (before.collections.get kind).faults
  within : ∀ kind, Collection.Within (slotsOf (b.desired etcd kind))
    (before.collections.get kind) (after.collections.get kind)
  faulty : (∀ kind, (b.care etcd kind).Able (before.collections.get kind)
      (b.change etcd event before.collections kind)) ->
    ∃ kind, (before.collections.get kind).faults ≠ []

/-- Where no failure was ordered, a pass only breaks off for a change that cannot be made. -/
theorem Broken.unable {after : Ledger} (broken : Broken b etcd event before after)
    (unfailing : ∀ kind, (before.collections.get kind).faults = []) :
    ¬ ∀ kind, (b.care etcd kind).Able (before.collections.get kind)
      (b.change etcd event before.collections kind) := by
  intro able
  obtain ⟨kind, some⟩ := broken.faulty able
  exact some (unfailing kind)

/-- A pass that has not begun has left everything as it was. -/
theorem Course.refl (sound : before.collections.Sound) : Course b etcd event before [] before :=
  ⟨sound, fun _ => List.Subset.refl _, fun _ mem => absurd mem List.not_mem_nil, fun _ _ => .refl⟩

/-- Commands on one more kind leave the kinds that are done alone. -/
theorem Course.step {done : List Kind} {kind : Kind} {ledger after : Ledger}
    (course : Course b etcd event before done ledger) (fresh : kind ∉ done)
    (aside : Aside kind ledger after)
    (made : (b.care etcd kind).Made (before.collections.get kind)
      (b.change etcd event before.collections kind) (after.collections.get kind)) :
    Course b etcd event before (done ++ [kind]) after := by
  refine ⟨aside.sound, ?_, ?_, ?_⟩
  · intro other
    exact List.Subset.trans (aside.faults other) (course.faults other)
  · intro other mem
    rcases List.mem_append.1 mem with among | mem
    · rw [aside.others other (ne_of_mem_of_not_mem among fresh)]
      exact course.made other among
    · rw [List.mem_singleton.1 mem]
      exact made
  · intro other absent
    rw [List.mem_append, not_or, List.mem_singleton] at absent
    rw [aside.others other absent.2]
    exact course.untouched other absent.1

/-- A kind that a pass has come past is within the desired slots. -/
theorem Course.within (valid : b.cluster.isValid = true) {done : List Kind} {ledger : Ledger}
    (course : Course b etcd event before done ledger) (kind : Kind) :
    Collection.Within (slotsOf (b.desired etcd kind)) (before.collections.get kind)
      (ledger.collections.get kind) := by
  by_cases isDone : kind ∈ done
  · have creates := b.change_create etcd event before.collections kind
    have updates := b.change_update etcd event before.collections valid kind
    exact (course.made kind isDone).within (creates.map slotOf).subset (updates.map slotOf).subset
  · exact fun slot _ => .inl ((course.untouched kind isDone).stored slot)

/-- A handler that is halted breaks the pass off. -/
theorem Course.broken (valid : b.cluster.isValid = true) {done : List Kind} {kind : Kind}
    {ledger after : Ledger} {context now : Context}
    (course : Course b etcd event before done ledger) (fresh : kind ∉ done)
    (aside : Aside kind ledger after)
    (planned : (b.care etcd kind).plan context (before.collections.get kind) =
      b.change etcd event before.collections kind)
    (halted : Resource.Halted (b.care etcd kind) context (before.collections.get kind) now
      (after.collections.get kind)) :
    Broken b etcd event before after := by
  refine ⟨aside.sound, ?_, ?_, ?_⟩
  · intro other
    exact List.Subset.trans (aside.faults other) (course.faults other)
  · intro other
    by_cases here : other = kind
    · subst here
      exact halted.within
    · rw [aside.others other here]
      exact course.within valid other
  · intro able
    refine ⟨kind, halted.faulty ?_⟩
    rw [planned]
    exact able kind

variable {world : World} {hazards : Kind -> List Store.Fault} (faces : world.Faces hazards)

include faces

/-- How far a pass has come is told apart from what may still fail. -/
theorem Course.faced {done : List Kind}
    (course : Course b etcd event before done (world.awaiting hazards).ledger) :
    Course b etcd event before done world.ledger where
  sound := Collections.sound_awaiting.1 course.sound
  faults kind := List.Subset.trans (faces.fewer kind) (course.faults kind)
  made kind mem := (course.made kind mem).congr (world.alike_awaiting hazards kind)
    (faces.fewer kind)
  untouched kind absent := (course.untouched kind absent).trans (world.alike_awaiting hazards kind)

/-- A pass that broke off has left the same, whatever may still fail. -/
theorem Broken.faced (broken : Broken b etcd event before (world.awaiting hazards).ledger) :
    Broken b etcd event before world.ledger where
  sound := Collections.sound_awaiting.1 broken.sound
  faults kind := List.Subset.trans (faces.fewer kind) (broken.faults kind)
  within kind slot outside := by
    have same := (world.alike_awaiting hazards kind).stored slot
    rw [World.ledger, same]
    exact broken.within kind slot outside
  faulty := broken.faulty

end

namespace Pass

variable (config : Config) (etcd : EtcdStorage) (cluster : Cluster)

/-- The kinds that a pass looks after, in order. -/
theorem kinds_eq :
    kinds config etcd cluster =
      [.namespace, .serviceAccount, .clusterRoleBinding, .configMap] ++
        (match etcd with
          | .hostPath => []
          | .persistentVolume => [.persistentVolumeClaim]) ++
        [.deployment, .ingress, .service] := by
  cases etcd <;> rfl

variable {config etcd cluster} in
/-- Passes look after config maps and deployments, whatever the storage of etcd. -/
theorem node_kinds {kind : Kind} (isNode : kind = .configMap ∨ kind = .deployment) :
    kind ∈ kinds config etcd cluster := by
  rw [kinds_eq]
  rcases isNode with rfl | rfl <;> cases etcd <;> decide

/-- Config maps are looked after before deployments. -/
theorem configMap_before {done later : List Kind}
    (split : kinds config etcd cluster = done ++ .deployment :: later) : .configMap ∈ done := by
  have distinct := Resource.distinct_ofCluster config.manifests etcd cluster
  have absent : ∀ kind ∈ done, decide (kind ≠ Kind.deployment) = true := by
    intro kind mem
    refine decide_eq_true ?_
    rintro rfl
    rw [show (Resource.ofCluster config.manifests etcd cluster).map Resource.kind =
      done ++ .deployment :: later from split] at distinct
    exact List.disjoint_of_nodup_append distinct mem List.mem_cons_self
  have early : (kinds config etcd cluster).takeWhile (fun kind => decide (kind ≠ .deployment)) =
      done := by
    rw [split, List.takeWhile_append_of_pos absent, List.takeWhile_cons_of_neg (by simp),
      List.append_nil]
  rw [← early, kinds_eq]
  cases etcd <;> decide

/-- Of a kind that passes do not look after nothing is desired. -/
theorem desired_nil {kind : Kind} (absent : kind ∉ kinds config etcd cluster) (b : Blueprint) :
    b.desired etcd kind = [] := by
  rw [kinds_eq] at absent
  cases etcd <;> cases kind <;> first | rfl | exact absurd (by decide) absent

/-- The handler of one more kind makes the change that is planned for it. -/
theorem handle_advances {b : Blueprint} {etcd : EtcdStorage} {event : Event} {before : Ledger}
    (valid : b.cluster.isValid = true) (steady : ∀ kind, (before.collections.get kind).Steady)
    (calm : ¬ b.Stops event before.collections) {done : List Kind} {ledger : Ledger}
    {resource : Resource Program} (mem : resource ∈ Resource.ofCluster b.settings etcd b.cluster)
    (fresh : resource.kind ∉ done) (order : resource.kind = .deployment -> .configMap ∈ done)
    (course : Course b etcd event before done ledger)
    (ahead : ledger.collections.get resource.kind = before.collections.get resource.kind)
    (policy : RetryPolicy) (scope : String) :
    (handle event (resource.wrapped policy scope)).Reaches View.ledger.around
      (fun context after => context.cancelled = false ∧ Broken b etcd event before after)
      (fun context after =>
        context = b.noticed etcd event before.collections (done ++ [resource.kind]) ∧
        Course b etcd event before (done ++ [resource.kind]) after ∧
          Aside resource.kind ledger after)
      (b.noticed etcd event before.collections done) ledger := by
  have isEvent : (b.noticed etcd event before.collections done).event = event := b.noticed_event
  have going : (b.noticed etcd event before.collections done).cancelled = false := b.noticed_going
  have planned : (b.care etcd resource.kind).plan (b.noticed etcd event before.collections done)
      (before.collections.get resource.kind) =
        b.change etcd event before.collections resource.kind := b.plan_noticed order
  have handles := (Resource.cares_ofCluster b etcd valid mem).handles (steady resource.kind) going
    (b.not_stops calm isEvent) policy scope
  rw [isEvent, planned, ← ahead] at handles
  have aside : (handle event (resource.wrapped policy scope)).Reaches View.ledger.around
      (fun _ => Aside resource.kind ledger) (fun _ => Aside resource.kind ledger)
      (b.noticed etcd event before.collections done) ledger := by
    have guarded := guarded_aside b.cluster.id resource.kind ledger
    have confined := Resource.confined_ofCluster b.settings etcd b.cluster mem guarded
    exact confined.handles policy scope event going (.refl course.sound)
  refine (Work.Reaches.both (Work.reaches_of_part handles) aside).mono ?_ ?_
  · rintro context after ⟨halted, aside⟩
    rw [ahead] at halted
    exact ⟨halted.going, course.broken valid fresh aside planned halted⟩
  · rintro context after ⟨⟨rfl, made⟩, aside⟩
    rw [ahead] at made
    exact ⟨b.noteAll_noticed fresh, course.step fresh aside made, aside⟩

variable (event : Event) (valid : cluster.isValid = true) (before : Ledger)
  (steady : ∀ kind, (before.collections.get kind).Steady)
  (calm : ¬ (blueprint config cluster).Stops event before.collections)

include valid steady calm

/-- A pass that ends well is completed and has made the change that is planned for each kind. -/
theorem run_makes :
    Request.Ends View.ledger.around (run event (clusterHandlers config etcd cluster)) before
      (fun outcome ledger => outcome = .completed ∧
        Course (blueprint config cluster) etcd event before (kinds config etcd cluster) ledger)
      fun _ ledger => Broken (blueprint config cluster) etcd event before ledger := by
  let b : Blueprint := blueprint config cluster
  let stage (done : List (Resource Program)) (context : Context) (ledger : Ledger) : Prop :=
    context = b.noticed etcd event before.collections (done.map Resource.kind) ∧
      Course b etcd event before (done.map Resource.kind) ledger ∧
        ∀ kind, kind ∉ done.map Resource.kind ->
          ledger.collections.get kind = before.collections.get kind
  have handles : ∀ done resource later,
      Resource.ofCluster config.manifests etcd cluster = done ++ resource :: later ->
      ∀ context ledger, context.cancelled = false -> stage done context ledger ->
        (handle event (resource.wrapped config.retry cluster.namespaceName)).Reaches
          View.ledger.around
          (fun context after => context.cancelled = false ∧ Broken b etcd event before after)
          (stage (done ++ [resource])) context ledger := by
    rintro done resource later split _ ledger - ⟨rfl, course, ahead⟩
    have kindsSplit : kinds config etcd cluster =
        done.map Resource.kind ++ resource.kind :: later.map Resource.kind := by
      rw [kinds, split, List.map_append, List.map_cons]
    have fresh : resource.kind ∉ done.map Resource.kind := by
      have distinct := Resource.distinct_ofCluster config.manifests etcd cluster
      rw [split, List.map_append, List.map_cons] at distinct
      exact fun among => List.disjoint_of_nodup_append distinct among List.mem_cons_self
    have order : resource.kind = .deployment -> .configMap ∈ done.map Resource.kind := by
      intro isDeployment
      rw [isDeployment] at kindsSplit
      exact configMap_before config etcd cluster kindsSplit
    have mem : resource ∈ Resource.ofCluster config.manifests etcd cluster := by
      rw [split]
      exact List.mem_append_right done List.mem_cons_self
    have advances := handle_advances (b := b) valid steady calm mem fresh order course
      (ahead _ fresh) config.retry cluster.namespaceName
    refine advances.mono (fun _ _ broken => broken) ?_
    rintro context after ⟨noticed, further, aside⟩
    simp only [stage, List.map_append, List.map_cons, List.map_nil]
    refine ⟨noticed, further, fun kind absent => ?_⟩
    rw [List.mem_append, not_or, List.mem_singleton] at absent
    exact (aside.others kind absent.2).trans (ahead kind absent.1)
  have starts : stage [] { event := event } before :=
    ⟨b.noticed_nil.symm, .refl fun kind => (steady kind).sound, fun _ _ => rfl⟩
  refine Request.Ends.mono (run_ends_map stage handles starts) ?_ ?_
  · intro outcome ledger ended
    cases outcome with
    | completed =>
      obtain ⟨_, -, course, -⟩ := ended
      exact ⟨rfl, course⟩
    | cancelled resource =>
      obtain ⟨context, cancelled, going, -⟩ := ended
      cases cancelled.symm.trans going
  · rintro failure ledger ⟨_, -, broken⟩
    exact broken

end Pass

/-! ## Passes that stop -/

/-- Nothing was written between two ledgers. -/
def Idle (before after : Ledger) : Prop :=
  ∀ kind, (before.collections.get kind).Unwritten (after.collections.get kind)

/-- Nothing was written, whatever may fail and was not awaited in the end. -/
theorem Idle.faced {before : Ledger} {world : World} {hazards : Kind -> List Store.Fault}
    (idle : Idle before (world.awaiting hazards).ledger) (faces : world.Faces hazards) :
    Idle before world.ledger := fun kind => (idle kind).faced faces

/-- Calls on one kind that write nothing write nothing at all. -/
theorem Aside.idle {kind : Kind} {before after : Ledger} (aside : Aside kind before after)
    (unwritten : (before.collections.get kind).Unwritten (after.collections.get kind)) :
    Idle before after := by
  intro other
  by_cases here : other = kind
  · subst here
    exact unwritten
  · rw [aside.others other here]
    exact .refl

namespace Resource

/-- Reading the namespace tells the pass to stop when it is being taken down. -/
theorem tries_namespaces (cluster : Cluster) {c : Collection .namespace} (steady : c.Steady)
    {context : Context} (isApply : context.event = .apply)
    (stopping : ([cluster.namespaceName].filterMap fun name =>
      c.stored (.make none name)).any Object.stopsPass = true) :
    (namespaceState cluster).Tries (View.collection .namespace).around
      (fun after d => after = context ∧ c.Unwritten d)
      (fun _ after d => after.cancelled = true ∧ c.Unwritten d)
      fun _ d => c.Unwritten d ∧ c.faults ≠ [] := by
  rintro now d ⟨rfl, unwritten⟩
  refine Work.Ends.mono (finds_namespaces cluster now d (unwritten.steady steady)) ?_ ?_
  · rintro current after e ⟨later, rfl, rfl⟩
    have here : ([cluster.namespaceName].filterMap fun name => d.stored (.make none name)).any
        Object.stopsPass = true := by
      rw [← stopping]
      exact congrArg (List.any · _) (List.filterMap_congr fun name _ => unwritten.alike.stored _)
    refine ⟨?_, unwritten.trans later⟩
    rw [if_pos (Bool.and_eq_true_iff.2 ⟨decide_eq_true isApply, here⟩)]
    rfl
  · rintro failure after e ⟨rfl, later, some, -⟩
    have both := unwritten.trans later
    refine ⟨⟨both, fun none => ?_⟩, fun _ => ⟨rfl, both⟩⟩
    exact some (List.subset_nil.1 (none ▸ unwritten.faults))

end Resource

namespace Pass

/-- A pass that is to bring a cluster about whose namespace is being taken down writes nothing. It
is cancelled, or an ordered failure ends it while the namespace is read. -/
theorem run_cancelled (config : Config) (etcd : EtcdStorage) (cluster : Cluster) {event : Event}
    (before : Ledger) (steady : ∀ kind, (before.collections.get kind).Steady)
    (stops : (blueprint config cluster).Stops event before.collections) :
    Request.Ends View.ledger.around (run event (clusterHandlers config etcd cluster)) before
      (fun outcome ledger => outcome = .cancelled "namespace" ∧ Idle before ledger)
      fun failure ledger => Idle before ledger ∧
        (∃ kind, (before.collections.get kind).faults ≠ []) ∧
        ∃ cause, failure = .inPhase "namespace" .currentState cause := by
  obtain ⟨rfl, stopping⟩ := stops
  let namespaces := Resource.namespaces config.manifests cluster
  have sound : before.collections.Sound := fun kind => (steady kind).sound
  have mem : namespaces ∈ Resource.ofCluster config.manifests etcd cluster :=
    List.mem_append_left _ (List.mem_append_left _ List.mem_cons_self)
  have confined := Resource.confined_ofCluster config.manifests etcd cluster mem
    (guarded_aside cluster.id .namespace before)
  have aside := confined.handles config.retry cluster.namespaceName .apply
    (rfl : ({ event := .apply } : Context).cancelled = false) (.refl sound)
  have tries := Resource.tries_namespaces cluster (steady .namespace)
    (rfl : ({ event := .apply } : Context).event = .apply) stopping
  have reads := ((tries.retry config.retry namespaces.name cluster.namespaceName).observing
    namespaces.kind.label .currentState).noting namespaces.kind.label cluster.namespaceName
  have halts := Resource.ensureCreated_stops
    ((namespaces.retried config.retry cluster.namespaceName).metered cluster.namespaceName)
    reads ⟨rfl, .refl⟩
  have handles : (handle .apply (namespaces.wrapped config.retry cluster.namespaceName)).Ends
      View.ledger.around { event := .apply } before
      (fun _ context ledger => context.cancelled = true ∧ Idle before ledger)
      fun failure _ ledger => Idle before ledger ∧
        (∃ kind, (before.collections.get kind).faults ≠ []) ∧
        ∃ cause, failure = .inPhase "namespace" .currentState cause := by
    refine Program.Ends.mono (Program.Ends.both (View.ends_of_part halts) aside) ?_
    rintro ⟨result, context⟩ ledger ⟨halted, aside⟩
    cases result with
    | ok value =>
      obtain ⟨cancelled, unwritten⟩ := halted
      have landed : Landed (fun _ => Aside .namespace before) (fun _ => Aside .namespace before)
          context ledger := aside
      exact ⟨cancelled, ((landed_rest cancelled).1 landed).idle unwritten⟩
    | error failure =>
      obtain ⟨⟨unwritten, some⟩, named⟩ := halted
      exact ⟨Aside.idle aside unwritten, ⟨.namespace, some⟩, named⟩
  refine Request.Ends.mono (run_stops handles) (fun _ _ ended => ended) ?_
  rintro failure ledger ⟨_, ended⟩
  exact ended

/-- A pass in a storm that ends well has made the change that is planned for each kind, unless the
namespace is being taken down. -/
theorem course_or_idle_amid {world : World} {storm : Storm}
    (steady : ∀ kind, ((world.amid storm).collections.get kind).Steady)
    (config : Config) {cluster : Cluster} (valid : cluster.isValid = true) {etcd : EtcdStorage}
    (registered : Resource.bundles.resolve cluster.version = .ok etcd) {event : Event}
    {outcome : Outcome}
    (ended : (world.runAmid storm (overCluster config cluster event).run).1 = .ok outcome) :
    (outcome = .completed ∧
        Course (blueprint config cluster) etcd event (world.amid storm).ledger
          (kinds config etcd cluster)
          (world.runAmid storm (overCluster config cluster event).run).2.ledger) ∨
      (outcome = .cancelled "namespace" ∧
        Idle (world.amid storm).ledger
          (world.runAmid storm (overCluster config cluster event).run).2.ledger) := by
  have resolved := overCluster_eq config registered event
  rw [resolved] at ended ⊢
  have faces := world.faces_runAmid storm (run event (clusterHandlers config etcd cluster)).run
  by_cases stops : (blueprint config cluster).Stops event (world.amid storm).collections
  · have ends := run_cancelled config etcd cluster (world.amid storm).ledger steady stops
    obtain ⟨isCancelled, idle⟩ := View.ledger.amid_ok_of_ends ends ended
    exact .inr ⟨isCancelled, Idle.faced idle faces⟩
  · have ends := run_makes config etcd cluster event valid (world.amid storm).ledger steady stops
    obtain ⟨isCompleted, course⟩ := View.ledger.amid_ok_of_ends ends ended
    exact .inl ⟨isCompleted, Course.faced faces course⟩

/-- A pass that ends well has made the planned changes, or was cancelled and wrote nothing. -/
theorem course_or_idle {world : World} (steady : ∀ kind, (world.collections.get kind).Steady)
    (config : Config) {cluster : Cluster} (valid : cluster.isValid = true) {etcd : EtcdStorage}
    (registered : Resource.bundles.resolve cluster.version = .ok etcd) {event : Event}
    {outcome : Outcome}
    (ended : (world.run (overCluster config cluster event).run).1 = .ok outcome) :
    (outcome = .completed ∧
        Course (blueprint config cluster) etcd event world.ledger (kinds config etcd cluster)
          (world.run (overCluster config cluster event).run).2.ledger) ∨
      (outcome = .cancelled "namespace" ∧
        Idle world.ledger (world.run (overCluster config cluster event).run).2.ledger) := by
  rw [← world.amid_nil] at steady
  rw [← world.runAmid_nil] at ended ⊢
  have either := course_or_idle_amid steady config valid registered ended
  rwa [world.amid_nil] at either

/-- A pass in a storm that is completed has made the change that is planned for each kind. -/
theorem course_of_completed_amid {world : World} {storm : Storm}
    (steady : ∀ kind, ((world.amid storm).collections.get kind).Steady)
    (config : Config) {cluster : Cluster} (valid : cluster.isValid = true) {etcd : EtcdStorage}
    (registered : Resource.bundles.resolve cluster.version = .ok etcd) {event : Event}
    (completed :
      (world.runAmid storm (overCluster config cluster event).run).1 = .ok .completed) :
    Course (blueprint config cluster) etcd event (world.amid storm).ledger
      (kinds config etcd cluster)
      (world.runAmid storm (overCluster config cluster event).run).2.ledger := by
  rcases course_or_idle_amid steady config valid registered completed with
    ⟨-, course⟩ | ⟨cancelled, -⟩
  · exact course
  · cases cancelled

/-- A pass that is completed has made the change that is planned for each kind. -/
theorem course_of_completed {world : World} (steady : ∀ kind, (world.collections.get kind).Steady)
    (config : Config) {cluster : Cluster} (valid : cluster.isValid = true) {etcd : EtcdStorage}
    (registered : Resource.bundles.resolve cluster.version = .ok etcd) {event : Event}
    (completed : (world.run (overCluster config cluster event).run).1 = .ok .completed) :
    Course (blueprint config cluster) etcd event world.ledger (kinds config etcd cluster)
      (world.run (overCluster config cluster event).run).2.ledger := by
  rcases course_or_idle steady config valid registered completed with
    ⟨-, course⟩ | ⟨cancelled, -⟩
  · exact course
  · cases cancelled

/-- A pass whose changes can all be made is completed when no failures are awaited. -/
theorem completed_of_able {world : World} (sound : world.collections.Sound)
    (unfailing : ∀ kind, (world.collections.get kind).faults = []) (config : Config)
    {cluster : Cluster} (valid : cluster.isValid = true) {etcd : EtcdStorage}
    (registered : Resource.bundles.resolve cluster.version = .ok etcd) {event : Event}
    (goes : ¬ (blueprint config cluster).Stops event world.collections)
    (able : ∀ kind, ((blueprint config cluster).care etcd kind).Able (world.collections.get kind)
      ((blueprint config cluster).change etcd event world.collections kind)) :
    (world.run (overCluster config cluster event).run).1 = .ok .completed := by
  have resolved := overCluster_eq config registered event
  have steady : ∀ kind, (world.collections.get kind).Steady :=
    fun kind => (sound kind).steady (unfailing kind)
  have atEnd := View.ledger.run_of_ends unfailing
    (run_makes config etcd cluster event valid world.ledger steady goes)
  obtain ⟨_, isOk, rfl, -⟩ := Either.exists_ok atEnd fun _ broken => broken.unable unfailing able
  rw [resolved]
  exact isOk

/-- However a pass in a storm ends, outside of the desired slots it has left nothing new. -/
theorem within_overCluster {world : World} {storm : Storm}
    (steady : ∀ kind, ((world.amid storm).collections.get kind).Steady)
    (config : Config) {cluster : Cluster} (valid : cluster.isValid = true) {etcd : EtcdStorage}
    (registered : Resource.bundles.resolve cluster.version = .ok etcd) (event : Event)
    (kind : Kind) :
    Collection.Within (slotsOf ((blueprint config cluster).desired etcd kind))
      ((world.amid storm).collections.get kind)
      ((world.runAmid storm (overCluster config cluster event).run).2.collections.get kind) := by
  have resolved := overCluster_eq config registered event
  rw [resolved]
  have faces := world.faces_runAmid storm (run event (clusterHandlers config etcd cluster)).run
  by_cases stops : (blueprint config cluster).Stops event (world.amid storm).collections
  · have atEnd := View.ledger.amid_of_ends
      (run_cancelled config etcd cluster (world.amid storm).ledger steady stops)
    have idle : Idle (world.amid storm).ledger
        (world.runAmid storm (run event (clusterHandlers config etcd cluster)).run).2.ledger :=
      Either.elim atEnd (fun _ ended => Idle.faced ended.2 faces)
        fun _ ended => Idle.faced ended.1 faces
    exact fun slot _ => .inl ((idle kind).alike.stored slot)
  · have atEnd := View.ledger.amid_of_ends
      (run_makes config etcd cluster event valid (world.amid storm).ledger steady stops)
    refine Either.elim atEnd ?_ ?_
    · rintro outcome ⟨-, course⟩
      exact (Course.faced faces course).within (b := blueprint config cluster) valid kind
    · intro failure broken
      exact (Broken.faced faces broken).within kind

end Pass

end GuestFleet
