import GuestFleet.Proofs.Cluster.Provisioned

/-!
# Nothing is left of a cluster

A pass that takes a cluster down deletes only what is found and still desired. After a completed
pass that has brought the cluster about this is everything: what earlier passes left over for
other nodes was found and deleted by that pass, since all objects of a cluster are in slots that
it looks into.
-/

namespace GuestFleet

open Kube (Kind Object)
open Store (Collection Collections Ledger Slot Storm View World slotOf)
open Request (slotsOf)

/-! ## What completed passes leave -/

namespace Course

section

variable {b : Blueprint} {etcd : EtcdStorage} {before after : Ledger}
  (valid : b.cluster.isValid = true) (owned : before.collections.Owned b.cluster.id)

include valid owned

/-- A completed pass that brings a cluster about leaves nothing outside of the desired slots. -/
theorem full {config : Config} {cluster : Cluster}
    (course : Course b etcd .apply before (Pass.kinds config etcd cluster) after)
    (housed : before.collections.Housed (Blueprint.Home b.cluster.id etcd)) :
    after.collections.Housed fun kind slot => slot ∈ slotsOf (b.desired etcd kind) := by
  intro kind slot held
  by_contra outside
  have kept : (after.collections.get kind).stored slot =
      (before.collections.get kind).stored slot := by
    rcases course.within valid kind slot outside with same | gone
    · exact same
    · rw [gone] at held
      cases held
  rw [kept] at held
  have home := housed kind slot held
  by_cases among : kind ∈ Pass.kinds config etcd cluster
  · obtain ⟨existing, stored⟩ := Option.isSome_iff_exists.1 held
    have own : slotOf existing = slot := (owned.sound kind).slotOf_stored stored
    have reading := b.isReading_found etcd valid (owned.sound kind) (owned.owned kind)
    have found : existing ∈ b.found kind (before.collections.get kind) := by
      refine (reading existing).2 ?_
      rw [own]
      exact ⟨b.sees_home home, stored⟩
    have obsolete : existing ∈ Diff.obsolete (b.found kind (before.collections.get kind))
        (b.desired etcd kind) := by
      refine (reading.mem_obsolete (owned.owned kind) (b.target_desired etcd valid kind)).2
        ⟨found, fun wanted mem same => ?_⟩
      exact outside (List.mem_map.2 ⟨wanted, mem, same.trans own⟩)
    have made := course.made kind among
    have updates := b.change_update etcd .apply before.collections valid kind
    have deleted : slot ∈ slotsOf (b.change etcd .apply before.collections kind).delete := by
      rw [Blueprint.change, Care.plan_apply b.noted_event]
      exact List.mem_map.2 ⟨existing, obsolete, own⟩
    have gone := made.deleted deleted fun mem => outside ((updates.map slotOf).subset mem)
    rw [kept, stored] at gone
    cases gone
  · obtain ⟨other, -, mem⟩ := home
    rw [Pass.desired_nil config etcd cluster among other] at mem
    cases mem

/-- A completed pass that takes a cluster down leaves nothing of what is in desired slots. -/
theorem empty {config : Config} {cluster : Cluster}
    (course : Course b etcd .delete before (Pass.kinds config etcd cluster) after)
    (housed : before.collections.Housed fun kind slot => slot ∈ slotsOf (b.desired etcd kind)) :
    after.collections.Housed fun _ _ => False := by
  intro kind slot held
  by_cases among : kind ∈ Pass.kinds config etcd cluster
  · have made := course.made kind among
    have planned : b.change etcd .delete before.collections kind =
        .deletions (b.found kind (before.collections.get kind)) (b.desired etcd kind) :=
      Care.plan_delete b.noted_event
    rw [planned] at made
    have reading := b.isReading_found etcd valid (owned.sound kind) (owned.owned kind)
    by_cases deleted : slot ∈ slotsOf (Diff.owned (b.found kind (before.collections.get kind))
        (b.desired etcd kind))
    · rw [made.deleted deleted List.not_mem_nil] at held
      cases held
    · rw [made.elsewhere List.not_mem_nil deleted List.not_mem_nil] at held
      obtain ⟨existing, stored⟩ := Option.isSome_iff_exists.1 held
      have own : slotOf existing = slot := (owned.sound kind).slotOf_stored stored
      obtain ⟨wanted, mem, same⟩ := List.mem_map.1 (housed kind slot held)
      have found : existing ∈ b.found kind (before.collections.get kind) := by
        refine (reading existing).2 ?_
        rw [own, ← same]
        refine ⟨b.sees_desired etcd mem, ?_⟩
        rw [same, stored]
      have keys : wanted.key = existing.key :=
        (Belongs.key_eq_iff (b.belongs_desired etcd mem) (owned.owned kind stored)).2
          (same.trans own.symm)
      have isWanted : Diff.hasKey (b.desired etcd kind) existing.key = true :=
        List.any_eq_true.2 ⟨wanted, mem, decide_eq_true keys⟩
      exact deleted (List.mem_map.2 ⟨existing, List.mem_filter.2 ⟨found, isWanted⟩, own⟩)
  · rw [(course.untouched kind among).stored] at held
    have mem : slot ∈ slotsOf (b.desired etcd kind) := housed kind slot held
    rw [Pass.desired_nil config etcd cluster among b] at mem
    cases mem

end

end Course

/-! ## Passes over nothing -/

/-- In an empty collection nothing is found. -/
theorem Blueprint.found_nil (b : Blueprint) {kind : Kind} {c : Collection kind}
    (empty : c.objects = []) : b.found kind c = [] := by
  have unstored : c.stored = fun _ => none := by
    funext slot
    rw [Collection.stored, empty]
    rfl
  have unselected : ∀ space selector, c.selected space selector = [] := by
    intro space selector
    rw [Collection.selected, empty]
    rfl
  cases kind with
  | «namespace» => simp [found, unstored]
  | serviceAccount => simp [found, unstored]
  | clusterRoleBinding => simp [found, unstored]
  | configMap => exact unselected _ _
  | persistentVolumeClaim => simp [found, unselected]
  | deployment => exact unselected _ _
  | ingress => simp [found, unstored]
  | service => simp [found, unstored]
  | pod => rfl

namespace Pass

/-- A pass that takes a cluster down of which there is nothing only reads, however it ends. -/
theorem run_idles (config : Config) (etcd : EtcdStorage) {cluster : Cluster}
    (valid : cluster.isValid = true) (before : Ledger)
    (steady : ∀ kind, (before.collections.get kind).Steady)
    (empty : ∀ kind, (before.collections.get kind).objects = []) :
    Request.Ends View.ledger.around (run .delete (clusterHandlers config etcd cluster)) before
      (fun _ ledger => Idle before ledger) fun _ ledger => Idle before ledger := by
  let b : Blueprint := blueprint config cluster
  let stage (_ : List (Resource Program)) (context : Context) (ledger : Ledger) : Prop :=
    context = { event := .delete } ∧ Idle before ledger
  have handles : ∀ done resource later,
      Resource.ofCluster config.manifests etcd cluster = done ++ resource :: later ->
      ∀ context ledger, context.cancelled = false -> stage done context ledger ->
        (handle .delete (resource.wrapped config.retry cluster.namespaceName)).Reaches
          View.ledger.around (fun _ after => Idle before after) (stage (done ++ [resource]))
          context ledger := by
    rintro done resource later split _ ledger going ⟨rfl, idle⟩
    have mem : resource ∈ Resource.ofCluster config.manifests etcd cluster := by
      rw [split]
      exact List.mem_append_right done List.mem_cons_self
    have sound : ledger.collections.Sound := fun kind =>
      (idle kind).alike.sound (steady kind).sound
    have none : b.found resource.kind (ledger.collections.get resource.kind) = [] :=
      (b.found_alike (idle resource.kind).alike).trans (b.found_nil (empty resource.kind))
    have idles := (Resource.cares_ofCluster b etcd valid mem).idles
      ((idle resource.kind).steady (steady resource.kind)) none rfl going config.retry
      cluster.namespaceName
    have guarded := guarded_aside cluster.id resource.kind ledger
    have confined := Resource.confined_ofCluster config.manifests etcd cluster mem guarded
    have aside := confined.handles config.retry cluster.namespaceName .delete going (.refl sound)
    refine (Work.Reaches.both (Work.reaches_of_part idles) aside).mono ?_ ?_
    · rintro context after ⟨unwritten, aside⟩
      exact fun kind => (idle kind).trans (aside.idle unwritten kind)
    · rintro context after ⟨⟨rfl, unwritten⟩, aside⟩
      exact ⟨rfl, fun kind => (idle kind).trans (aside.idle unwritten kind)⟩
  refine Request.Ends.mono (run_ends_map stage handles ⟨rfl, fun _ => .refl⟩) ?_ ?_
  · intro outcome ledger ended
    cases outcome with
    | completed =>
      obtain ⟨_, -, idle⟩ := ended
      exact idle
    | cancelled resource =>
      obtain ⟨_, -, idle⟩ := ended
      exact idle
  · rintro failure ledger ⟨_, idle⟩
    exact idle

/-! ## Bringing about and taking down -/

/-- Whatever passes over clusters with one id have left, also where they broke off: once a pass
has brought a cluster about and a pass has taken it down, nothing is left of any kind, and a
further pass to take it down only reads. Failures that may pass can be ordered at any time. -/
theorem overCluster_tears_down {id : String} {etcd : EtcdStorage} {world : World}
    (provisioned : Provisioned id etcd world) (config : Config) {cluster : Cluster}
    (valid : cluster.isValid = true) (isId : cluster.id = id)
    (registered : Resource.bundles.resolve cluster.version = .ok etcd) {first last : Storm}
    (passesFirst : first.Passes) (passesLast : last.Passes) {between : World}
    (brought : (world.runAmid first (overCluster config cluster .apply).run).1 = .ok .completed)
    (meanwhile : Meanwhile (world.runAmid first (overCluster config cluster .apply).run).2 between)
    (taken : (between.runAmid last (overCluster config cluster .delete).run).1 = .ok .completed) :
    let left := (between.runAmid last (overCluster config cluster .delete).run).2
    (∀ kind, (left.collections.get kind).objects = []) ∧
      ∀ later, Meanwhile left later -> ∀ storm : Storm, storm.Passes ->
        Idle (later.amid storm).ledger
          (later.runAmid storm (overCluster config cluster .delete).run).2.ledger := by
  intro left
  subst isId
  have applied := provisioned.apply config valid rfl registered passesFirst
  have now := applied.meanwhile meanwhile
  have courseApply := course_of_completed_amid
    (fun kind => (provisioned.steady kind).amid passesFirst) config valid registered brought
  have courseDelete := course_of_completed_amid
    (fun kind => (now.steady kind).amid passesLast) config valid registered taken
  have full := Course.full (b := blueprint config cluster) valid
    (provisioned.reached.owned.amid first) courseApply (provisioned.housed.amid first)
  have gone : left.collections.Housed fun _ _ => False :=
    Course.empty (b := blueprint config cluster) valid (now.reached.owned.amid last) courseDelete
      (Collections.Housed.amid (meanwhile.housed applied.reached full) last)
  have reached : Reached cluster.id left := now.reached.pass config .delete last rfl
  refine ⟨gone.objects_nil reached.owned.sound, fun later between storm passes => ?_⟩
  have passing : ∀ kind, ∀ fault ∈ (left.collections.get kind).faults, fault.Passes :=
    World.passing_runAmid (fun kind => (now.steady kind).passing) passesLast _
  have sound : later.collections.Sound := (between.reached reached).owned.sound
  have steady : ∀ kind, ((later.amid storm).collections.get kind).Steady := fun kind =>
    Collection.Steady.amid ⟨sound kind, between.passing passing kind⟩ passes
  have empty := Collections.Housed.objects_nil (fun kind => (steady kind).sound)
    ((between.housed reached gone).amid storm)
  rw [overCluster_eq config registered .delete]
  have atEnd := View.ledger.amid_of_ends
    (run_idles config etcd valid (later.amid storm).ledger steady empty)
  have faces := later.faces_runAmid storm (run .delete (clusterHandlers config etcd cluster)).run
  exact Either.elim atEnd (fun _ idle => Idle.faced idle faces) fun _ idle => Idle.faced idle faces

/-- A pass was broken off, and then the only node of the cluster is another one. That cluster is
brought about and taken down, both while the API server is overloaded at times. -/
theorem overCluster_tears_down_moved :
    let first := Store.overload 10 2 .service .create
    let last := Store.overload 3 3 .deployment .delete
    let brought := brokenPass.2.runAmid first (overCluster {} (movedMaster "al9qy") .apply).run
    let taken := brought.2.runAmid last (overCluster {} (movedMaster "al9qy") .delete).run
    brokenPass.1.isOk = false ∧ brought.1 = .ok .completed ∧ taken.1 = .ok .completed ∧
      (∀ kind, (taken.2.collections.get kind).objects = []) ∧
      ∀ later, Meanwhile taken.2 later -> ∀ storm : Storm, storm.Passes ->
        Idle (later.amid storm).ledger
          (later.runAmid storm (overCluster {} (movedMaster "al9qy") .delete).run).2.ledger := by
  intro first last
  have registered : Resource.bundles.resolve (pairCluster "al9qy").version =
      .ok .persistentVolume := rfl
  have registeredMoved : Resource.bundles.resolve (movedMaster "al9qy").version =
      .ok .persistentVolume := rfl
  have broken : brokenPass.1.isOk = false := by decide +kernel
  have provisioned : Provisioned "al9qy" .persistentVolume brokenPass.2 :=
    Provisioned.start.apply {} (by decide) rfl registered Store.passes_overload
  have passesFirst : first.Passes := Store.passes_overload
  have passesLast : last.Passes := Store.passes_overload
  have brought : (brokenPass.2.runAmid (Store.overload 10 2 .service .create)
      (overCluster {} (movedMaster "al9qy") .apply).run).1 = .ok .completed := by
    decide +kernel
  have taken : ((brokenPass.2.runAmid (Store.overload 10 2 .service .create)
      (overCluster {} (movedMaster "al9qy") .apply).run).2.runAmid
        (Store.overload 3 3 .deployment .delete)
        (overCluster {} (movedMaster "al9qy") .delete).run).1 = .ok .completed := by
    decide +kernel
  exact ⟨broken, brought, taken, overCluster_tears_down provisioned {} (by decide) rfl
    registeredMoved passesFirst passesLast brought .nothing taken⟩

end Pass

end GuestFleet
