import GuestFleet.Proofs.Cluster.Desired
import GuestFleet.Proofs.Resource.Underway
import GuestFleet.Proofs.Program.Ends

/-!
# What resources read

A resource of a cluster reads exactly the objects in the slots that it looks into, by name
or by label, as long as everything that is stored belongs to the cluster.
-/

namespace GuestFleet

open Kube (Kind Object)
open Kube.SelectorTerm (IsPlain)
open Store (Collection Slot View slotOf)

/-! ## By name and by label -/

section

variable {kind : Kind} {id : String} {sees : Slot -> Prop} {c : Collection kind}

/-- Objects that are read by name are in the slots of the names. -/
theorem isReading_existing (sound : c.Sound) {space : Option String} {names : List String}
    (named : ∀ slot, sees slot <-> ∃ name ∈ names, Slot.make space name = slot) :
    IsReading sees c (names.filterMap fun name => c.stored (.make space name)) := by
  intro object
  rw [List.mem_filterMap]
  constructor
  · rintro ⟨name, mem, stored⟩
    have slot := sound.slotOf_stored stored
    rw [slot]
    exact ⟨(named _).2 ⟨name, mem, rfl⟩, stored⟩
  · rintro ⟨seen, stored⟩
    obtain ⟨name, mem, slot⟩ := (named _).1 seen
    rw [← slot] at stored
    exact ⟨name, mem, stored⟩

/-- A list of what a selector selects, when that is everything of a cluster. -/
theorem isReading_selected (sound : c.Sound) (owned : c.Owned id) {selector : String}
    (selects : ∀ object : Object kind, Belongs id object ->
      Kube.Selector.selects selector object.metadata.labels = true) :
    IsReading (fun slot => slot.space = id) c (c.selected (some id) selector) := by
  intro object
  rw [sound.mem_selected]
  constructor
  · rintro ⟨stored, space, -⟩
    have same : id = (slotOf object).space := by simpa using space
    exact ⟨same.symm, stored⟩
  · rintro ⟨seen, stored⟩
    have same : (slotOf object).space = id := seen
    refine ⟨stored, ?_, selects object (owned stored)⟩
    simp [same]

end

/-! ## Labels -/

section

variable {kind : Kind} {cluster : Cluster} (plain : ∀ c ∈ cluster.id.toList, IsPlain c)

include plain

/-- The selector of all nodes selects what is labelled with the cluster and one of the roles. -/
theorem selects_nodeSelector {labels : Option Kube.StringMap} :
    Kube.Selector.selects cluster.nodeSelector labels = true <->
      ∃ role, Labelled cluster.id role labels := by
  rw [Kube.Selector.selects, cluster.terms_nodeSelector plain]
  constructor
  · intro selected
    simp only [List.all_cons, List.all_nil, Bool.and_true, Bool.and_eq_true,
      Kube.SelectorTerm.holds, beq_iff_eq, Option.any_eq_true] at selected
    obtain ⟨inCluster, app, isApp, isRole⟩ := selected
    have cases : app = Role.master.name ∨ app = Role.worker.name := by simpa using isRole
    rcases cases with rfl | rfl
    · exact ⟨.master, inCluster, isApp⟩
    · exact ⟨.worker, inCluster, isApp⟩
  · rintro ⟨role, inCluster, app⟩
    cases role <;> simp [Kube.SelectorTerm.holds, inCluster, app]

/-- The selector of a role selects what is labelled with the cluster and the role. -/
theorem selects_roleSelector {role : Role} {labels : Option Kube.StringMap} :
    Kube.Selector.selects (cluster.roleSelector role) labels = true <->
      Labelled cluster.id role labels := by
  rw [Kube.Selector.selects, cluster.terms_roleSelector role plain]
  simp [Kube.SelectorTerm.holds, Labelled]

/-- The selector of all nodes selects what belongs to a node. -/
theorem selects_node (isNode : kind = .configMap ∨ kind = .deployment) {object : Object kind}
    (belongs : Belongs cluster.id object) :
    Kube.Selector.selects cluster.nodeSelector object.metadata.labels = true :=
  (selects_nodeSelector plain).2 (belongs.node isNode)

/-- The selector of masters selects every etcd claim. -/
theorem selects_claim {object : Object .persistentVolumeClaim}
    (belongs : Belongs cluster.id object) :
    Kube.Selector.selects (cluster.roleSelector .master) object.metadata.labels = true :=
  (selects_roleSelector plain).2 (belongs.claim rfl).1

end

/-! ## Current states -/

/-- The part of a pass reads what is to be found in the collection, and tells the pass to stop
if one of the objects says so. -/
def Work.Finds {kind : Kind} (find : Collection kind -> List (Object kind))
    (work : Work Program (List (Object kind))) : Prop :=
  ∀ (context : Context) (c : Collection kind), c.Steady ->
    work.Ends (View.collection kind).around context c
      (fun current after d => c.Unwritten d ∧ current = find c ∧
        after = if context.event = .apply && current.any Object.stopsPass then context.cancel
          else context)
      fun failure after d => after = context ∧ c.Unwritten d ∧ c.faults ≠ [] ∧
        failure.isRetryable = true

/-- The part of a pass reads what is stored in the slots that it looks into, and tells the
pass to stop if one of the objects says so. -/
def Work.Looks {kind : Kind} (id : String) (sees : Slot -> Prop)
    (work : Work Program (List (Object kind))) : Prop :=
  ∀ (context : Context) (c : Collection kind), c.Steady -> c.Owned id ->
    work.Ends (View.collection kind).around context c
      (fun current after d => c.Unwritten d ∧ IsReading sees c current ∧
        after = if context.event = .apply && current.any Object.stopsPass then context.cancel
          else context)
      fun failure after d => after = context ∧ c.Unwritten d ∧ c.faults ≠ [] ∧
        failure.isRetryable = true

/-- What is found is what is stored in the slots that are looked into. -/
theorem Work.Finds.looks {kind : Kind} {id : String} {sees : Slot -> Prop}
    {find : Collection kind -> List (Object kind)} {work : Work Program (List (Object kind))}
    (finds : work.Finds find)
    (reading : ∀ c : Collection kind, c.Sound -> c.Owned id -> IsReading sees c (find c)) :
    work.Looks id sees := by
  intro context c steady owned
  refine Work.Ends.mono (finds context c steady) ?_ fun _ _ _ failed => failed
  rintro current after d ⟨unwritten, rfl, stops⟩
  exact ⟨unwritten, reading c steady.sound owned, stops⟩

namespace Resource

variable {kind : Kind} {id : String} {sees : Slot -> Prop}

/-- No list of calm objects makes a pass stop. -/
theorem any_stopsPass (calm : ∀ object : Object kind, object.stopsPass = false)
    (objects : List (Object kind)) : objects.any Object.stopsPass = false := by
  rw [List.any_eq_false]
  intro object _
  rw [calm object]
  exact Bool.false_ne_true

/-- A request that reads, for a kind whose objects stop no pass. -/
theorem finds_ofRequest (calm : ∀ object : Object kind, object.stopsPass = false)
    {request : Request (List (Object kind))} {find : Collection kind -> List (Object kind)}
    (reads : ∀ c : Collection kind, c.Steady -> request.Reads c (find c)) :
    (Work.ofRequest request).Finds find := by
  intro context c steady
  refine Work.ends_ofRequest.2 (Request.Ends.mono (reads c steady) ?_ ?_)
  · rintro found d ⟨unwritten, same⟩
    refine ⟨unwritten, same, ?_⟩
    rw [any_stopsPass calm, Bool.and_false]
    rfl
  · rintro failure d ⟨unwritten, held, retryable⟩
    exact ⟨rfl, unwritten, held, retryable⟩

/-- What is read by name is what is stored under the names. -/
theorem finds_existing (calm : ∀ object : Object kind, object.stopsPass = false)
    (space : Option String) (names : List String) :
    (existing kind space names).Finds fun c =>
      names.filterMap fun name => c.stored (.make space name) :=
  finds_ofRequest calm fun _ steady => Request.reads_getExisting steady space names

/-- What is read by a selector is what it selects. -/
theorem finds_listed (calm : ∀ object : Object kind, object.stopsPass = false)
    (space : Option String) (selector : String) :
    (listed kind space selector).Finds fun c => c.selected space selector :=
  finds_ofRequest calm fun _ steady => Request.reads_list steady space selector

/-- To read by name is to look into the slots of the names. -/
theorem looks_existing (calm : ∀ object : Object kind, object.stopsPass = false)
    {space : Option String} {names : List String}
    (named : ∀ slot, sees slot <-> ∃ name ∈ names, Slot.make space name = slot) :
    (existing kind space names).Looks id sees :=
  (finds_existing calm space names).looks fun _ sound _ => isReading_existing sound named

/-- To read by a selector that selects everything of a cluster is to look into its namespace. -/
theorem looks_listed (calm : ∀ object : Object kind, object.stopsPass = false) {selector : String}
    (selects : ∀ object : Object kind, Belongs id object ->
      Kube.Selector.selects selector object.metadata.labels = true) :
    (listed kind (some id) selector).Looks id fun slot => slot.space = id :=
  (finds_listed calm (some id) selector).looks fun _ sound owned =>
    isReading_selected sound owned selects

section

variable (cluster : Cluster)

/-- The namespace is read by its name, and a pass that is to bring it about stops while it
is being taken down. -/
theorem finds_namespaces :
    (namespaceState cluster).Finds fun c =>
      [cluster.namespaceName].filterMap fun name => c.stored (.make none name) := by
  intro context c steady
  have reads := Request.reads_getExisting steady none [cluster.namespaceName]
  refine Work.ends_bind.2 (Work.ends_ofRequest.2 (Request.Ends.mono reads ?_ ?_))
  · rintro current d ⟨unwritten, same⟩
    refine Work.ends_bind.2 (Work.ends_getContext.2 ?_)
    by_cases stops : (context.event = .apply && current.any isTerminating) = true
    · rw [if_pos stops]
      refine Work.ends_bind.2 (Work.ends_setContext.2 (Work.ends_pure.2 ?_))
      exact ⟨unwritten, same, (if_pos stops).symm⟩
    · rw [if_neg stops]
      exact Work.ends_pure.2 ⟨unwritten, same, (if_neg stops).symm⟩
  · rintro failure d ⟨unwritten, held, retryable⟩
    exact ⟨rfl, unwritten, held, retryable⟩

/-- The namespace is looked for in its slot alone. -/
theorem looks_namespaces (settings : ManifestSettings) (etcd : EtcdStorage) :
    (namespaceState cluster).Looks cluster.id
      ((⟨cluster, settings⟩ : Blueprint).Sees etcd .namespace) := by
  refine (finds_namespaces cluster).looks fun c sound _ => isReading_existing sound fun slot => ?_
  constructor
  · rintro ⟨object, mem, slot⟩
    rw [List.mem_singleton.1 mem] at slot
    exact ⟨cluster.namespaceName, List.mem_singleton.2 rfl, slot⟩
  · rintro ⟨name, mem, slot⟩
    rw [List.mem_singleton.1 mem] at slot
    exact ⟨_, List.mem_singleton.2 rfl, slot⟩

/-- Etcd claims are found by their labels and their names. -/
theorem finds_etcdClaims :
    (listEtcdClaims cluster).Finds fun c =>
      (c.selected (some cluster.namespaceName) (cluster.roleSelector .master)).filter
        (isEtcdClaim cluster.id) := by
  intro context c steady
  have reads :=
    Request.reads_list steady (some cluster.namespaceName) (cluster.roleSelector .master)
  refine Work.ends_bind.2 (Work.ends_ofRequest.2 (Request.Ends.mono reads ?_ ?_))
  · rintro claims d ⟨unwritten, rfl⟩
    refine Work.ends_pure.2 ⟨unwritten, rfl, ?_⟩
    rw [any_stopsPass fun _ => rfl, Bool.and_false]
    rfl
  · rintro failure d ⟨unwritten, held, retryable⟩
    exact ⟨rfl, unwritten, held, retryable⟩

/-- The claims that belong to a cluster all have names of etcd claims. -/
theorem isReading_claims (valid : cluster.isValid = true) {c : Collection .persistentVolumeClaim}
    (sound : c.Sound) (owned : c.Owned cluster.id) :
    IsReading (fun slot => slot.space = cluster.id) c
      ((c.selected (some cluster.namespaceName) (cluster.roleSelector .master)).filter
        (isEtcdClaim cluster.id)) := by
  have plain := (Cluster.id_of_valid valid).1
  have reading : IsReading (fun slot => slot.space = cluster.id) c
      (c.selected (some cluster.id) (cluster.roleSelector .master)) :=
    isReading_selected sound owned fun object => selects_claim plain
  have named : (c.selected (some cluster.id) (cluster.roleSelector .master)).filter
      (isEtcdClaim cluster.id) =
      c.selected (some cluster.id) (cluster.roleSelector .master) := by
    refine List.filter_eq_self.2 fun claim mem => ?_
    exact ((owned ((reading claim).1 mem).2).claim rfl).2
  rw [Cluster.namespaceName, named]
  exact reading

/-- The claims are looked for in all of the namespace. -/
theorem looks_etcdClaims (valid : cluster.isValid = true) :
    (listEtcdClaims cluster).Looks cluster.id fun slot => slot.space = cluster.id :=
  (finds_etcdClaims cluster).looks fun _ sound owned => isReading_claims cluster valid sound owned

end

end Resource

end GuestFleet
