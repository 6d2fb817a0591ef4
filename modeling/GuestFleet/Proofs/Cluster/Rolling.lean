import GuestFleet.Proofs.Cluster.Course

/-!
# Which node a pass rolls

While all deployments are available a completed pass rolls one node at most: the first one whose
deployment differs from what is desired, or, when none does, the first one whose config map was
replaced in that very pass. What a pass has replaced the next pass does not know.
-/

namespace GuestFleet

open Kube (Kind Object)
open Store (Collection Collections Ledger World slotOf)

/-! ## The first of a list -/

section

variable {α β : Type}

/-- The first item of a list of which something is true. -/
def IsFirst (p : α -> Prop) (items : List α) (item : α) : Prop :=
  p item ∧ ∃ early later, items = early ++ item :: later ∧ ∀ other ∈ early, ¬ p other

variable {p q : α -> Prop} {items : List α} {item : α}

/-- The first item of a list is in the list. -/
theorem IsFirst.mem (isFirst : IsFirst p items item) : item ∈ items := by
  obtain ⟨-, early, later, rfl, -⟩ := isFirst
  exact List.mem_append_right early List.mem_cons_self

/-- If something is true of the head of a list, the head is the first item. -/
theorem IsFirst.eq_head {head : α} {rest : List α} (isFirst : IsFirst p (head :: rest) item)
    (holds : p head) : item = head := by
  obtain ⟨-, early, later, split, none⟩ := isFirst
  cases early with
  | nil => exact (List.cons.inj split).1.symm
  | cons first others =>
    obtain rfl := (List.cons.inj split).1
    exact absurd holds (none head List.mem_cons_self)

/-- The first item for one property is the first for every property with the same items. -/
theorem IsFirst.congr (isFirst : IsFirst p items item) (same : ∀ item ∈ items, p item <-> q item) :
    IsFirst q items item := by
  have mem := isFirst.mem
  obtain ⟨holds, early, later, rfl, none⟩ := isFirst
  refine ⟨(same item mem).1 holds, early, later, rfl, fun other among => ?_⟩
  exact mt (same other (List.mem_append_left _ among)).2 (none other among)

/-- Properties with the same items have the same first item. -/
theorem isFirst_congr (same : ∀ item ∈ items, p item <-> q item) :
    IsFirst p items item <-> IsFirst q items item :=
  ⟨fun isFirst => isFirst.congr same,
    fun isFirst => isFirst.congr fun item mem => (same item mem).symm⟩

/-- The first item is the head of what a filter leaves. -/
theorem isFirst_filter {p : α -> Bool} :
    IsFirst (fun item => p item = true) items item <-> (items.filter p).head? = some item := by
  rw [List.head?_filter, List.find?_eq_some_iff_append]
  simp only [IsFirst, Bool.not_eq_true, Bool.not_eq_true']

/-- The first item of a mapped list comes of the first one, unless items are mapped together. -/
theorem isFirst_map {f : α -> β} {p : β -> Prop} (mem : item ∈ items)
    (injective : ∀ other ∈ items, f other = f item -> other = item) :
    IsFirst p (items.map f) (f item) <-> IsFirst (fun item => p (f item)) items item := by
  refine and_congr_right fun _ => ?_
  constructor
  · rintro ⟨_, _, split, none⟩
    obtain ⟨early, rest, rfl, rfl, others⟩ := List.map_eq_append_iff.1 split
    obtain ⟨same, later, rfl, sameMark, rfl⟩ := List.map_eq_cons_iff.1 others
    obtain rfl := injective same (List.mem_append_right early List.mem_cons_self) sameMark
    exact ⟨early, later, rfl, fun other among => none _ (List.mem_map_of_mem among)⟩
  · rintro ⟨early, later, rfl, none⟩
    refine ⟨early.map f, later.map f, by simp, ?_⟩
    intro _ mapped
    obtain ⟨other, among, rfl⟩ := List.mem_map.1 mapped
    exact none other among

/-- Of what is true of some item there is a first one. -/
theorem exists_isFirst (mem : item ∈ items) (holds : p item) : ∃ first, IsFirst p items first := by
  induction items with
  | nil => cases mem
  | cons head rest ih =>
    by_cases here : p head
    · exact ⟨head, here, [], rest, rfl, fun _ absent => absurd absent List.not_mem_nil⟩
    · rcases List.mem_cons.1 mem with rfl | among
      · exact absurd holds here
      · obtain ⟨first, found, early, later, rfl, none⟩ := ih among
        refine ⟨first, found, head :: early, later, rfl, ?_⟩
        intro other mem
        rcases List.mem_cons.1 mem with rfl | mem
        · exact here
        · exact none other mem

end

/-! ## The next roll -/

namespace Context

/-- A name is among others when it is put in, or was before. -/
theorem mem_insertName {name other : String} {names : List String} :
    other ∈ insertName name names <-> other = name ∨ other ∈ names := by
  induction names with
  | nil => rw [insertName, List.mem_singleton, or_iff_left List.not_mem_nil]
  | cons head rest ih =>
    rw [insertName]
    split_ifs with same before
    · subst same
      simp
    · rw [List.mem_cons]
    · rw [List.mem_cons, ih, List.mem_cons]
      exact or_left_comm

/-- A config map is noted as replaced if its name was added, or was noted before. -/
theorem isUpdated_noteAll {names : List String} {context : Context} {name : String} :
    (context.noteAll names).isUpdated name = true <->
      name ∈ names ∨ context.isUpdated name = true := by
  induction names generalizing context with
  | nil => exact (or_iff_right List.not_mem_nil).symm
  | cons head rest ih =>
    have noted : (context.noteConfigMap head).isUpdated name = true <->
        name = head ∨ context.isUpdated name = true := by
      simp only [isUpdated, noteConfigMap, List.contains_iff_mem, mem_insertName]
    have step := @ih (context.noteConfigMap head)
    rw [noted, or_left_comm, ← or_assoc] at step
    rw [List.mem_cons]
    exact step

end Context

namespace Resource

variable {context : Context} {current desired : List Deployment} {deployment : Deployment}

/-- The next deployment to be rolled is the first one that differs. If none does, it is the first
one whose config map was replaced. -/
theorem mem_nextRoll (available : current.all Deployment.isAvailable = true) :
    deployment ∈ nextRoll context current desired <->
      IsFirst (· ∈ Diff.modified current desired) desired deployment ∨
        Diff.modified current desired = [] ∧
          IsFirst (fun other => context.isUpdated other.name = true ∧
            ∃ existing ∈ current, existing.name = other.name) desired deployment := by
  have next : deployment ∈ nextRoll context current desired <->
      (rollCandidates context current desired).head? = some deployment := by
    rw [nextRoll, if_pos available, List.take_one, Option.mem_toList]
  rw [next, rollCandidates, List.head?_append]
  have differs : IsFirst (· ∈ Diff.modified current desired) desired deployment <->
      (Diff.modified current desired).head? = some deployment := by
    rw [Diff.modified, ← isFirst_filter]
    exact isFirst_congr fun other mem => List.mem_filter.trans (and_iff_right mem)
  -- Those that differ come first, so that the config maps count only when there are none.
  cases modified : Diff.modified current desired with
  | nil =>
    have none : ¬ IsFirst (· ∈ Diff.modified current desired) desired deployment := by
      rw [modified]
      exact fun isFirst => absurd isFirst.1 List.not_mem_nil
    rw [modified] at none
    rw [List.head?_nil, Option.none_or, or_iff_right none, ← isFirst_filter,
      and_iff_right rfl]
    refine isFirst_congr fun other _ => ?_
    simp
  | cons first others =>
    rw [modified] at differs
    rw [List.head?_cons, Option.some_or, differs, List.head?_cons]
    simp

end Resource

/-! ## What is replaced -/

/-- The object was written between two ledgers: its slot holds it with a version that was given
out in between. -/
def Replaced {kind : Kind} (object : Object kind) (before after : Ledger) : Prop :=
  ∃ version, (before.collections.get kind).nextVersion ≤ version ∧
    (after.collections.get kind).stored (slotOf object) = some (object.dated version)

/-- What was replaced is not what was stored before, since its version is new. -/
theorem Replaced.ne {kind : Kind} {object : Object kind} {before after : Ledger}
    (replaced : Replaced object before after) (sound : before.collections.Sound) :
    (after.collections.get kind).stored (slotOf object) ≠
      (before.collections.get kind).stored (slotOf object) := by
  obtain ⟨version, late, held⟩ := replaced
  rw [held]
  exact ((sound kind).dated_ne late).symm

namespace Blueprint

variable (b : Blueprint) (etcd : EtcdStorage)

/-- All objects of nodes are there. -/
def Listed (all : Collections) : Prop :=
  ∀ kind, kind = .configMap ∨ kind = .deployment ->
    ∀ object ∈ b.desired etcd kind, b.Lists (all.get kind) object

/-- When nothing is to be created, the objects of all nodes are there. -/
theorem listed_of_existing (valid : b.cluster.isValid = true) {all : Collections}
    (sound : all.Sound)
    (existing : ∀ kind, Diff.created (b.found kind (all.get kind)) (b.desired etcd kind) = []) :
    b.Listed etcd all := by
  intro kind isNode object wanted
  refine (b.hasKey_iff_lists etcd valid isNode (sound kind) wanted).1 ?_
  by_contra unknown
  have created : object ∈ Diff.created (b.found kind (all.get kind)) (b.desired etcd kind) := by
    refine List.mem_filter.2 ⟨wanted, ?_⟩
    rw [Bool.not_eq_true] at unknown
    rw [unknown]
    rfl
  rw [existing kind] at created
  cases created

/-- The deployment that is stored for a node differs from the desired one. -/
def Stale (all : Collections) (node : Role × Node) : Prop :=
  Differs (b.desired etcd .deployment) (all.get .deployment) (b.deployment etcd node.1 node.2)

/-- The config map of a node was replaced. -/
def Refreshed (before after : Ledger) (node : Role × Node) : Prop :=
  Replaced (b.configMap node.1 node.2) before after

/-- The deployment of a node was replaced. -/
def Rolled (before after : Ledger) (node : Role × Node) : Prop :=
  Replaced (b.deployment etcd node.1 node.2) before after

/-- Every node has its config map. -/
theorem configMap_mem {node : Role × Node} (mem : node ∈ b.cluster.nodes) :
    b.configMap node.1 node.2 ∈ b.desired etcd .configMap :=
  List.mem_map.2 ⟨node, mem, rfl⟩

/-- Every node has its deployment. -/
theorem deployment_mem {node : Role × Node} (mem : node ∈ b.cluster.nodes) :
    b.deployment etcd node.1 node.2 ∈ b.desired etcd .deployment :=
  List.mem_map.2 ⟨node, mem, rfl⟩

end Blueprint

namespace Course

variable {b : Blueprint} {etcd : EtcdStorage} {before after : Ledger} {done : List Kind}
  (valid : b.cluster.isValid = true) (sound : before.collections.Sound)
  (course : Course b etcd .apply before done after) (listed : b.Listed etcd before.collections)

include valid sound course listed

/-- A node's object is written again, or nothing happens to it. -/
theorem replaced_or_same {kind : Kind} (among : kind ∈ done)
    (isNode : kind = .configMap ∨ kind = .deployment) {object : Object kind}
    (wanted : object ∈ b.desired etcd kind) :
    (object ∈ b.renewed etcd kind (b.noted etcd .apply before.collections)
          (b.found kind (before.collections.get kind)) ∧ Replaced object before after) ∨
      (object ∉ b.renewed etcd kind (b.noted etcd .apply before.collections)
          (b.found kind (before.collections.get kind)) ∧
        (after.collections.get kind).stored (slotOf object) =
          (before.collections.get kind).stored (slotOf object)) := by
  have keyed : ∀ existing ∈ b.found kind (before.collections.get kind),
      slotOf existing = slotOf object -> existing.key = object.key :=
    fun _ mem same => b.key_of_found etcd valid isNode (sound kind) mem wanted same
  have known := (b.hasKey_iff_lists etcd valid isNode (sound kind) wanted).2
    (listed kind isNode object wanted)
  have provided := (b.fit_care etcd valid kind).provided b.noted_event (course.made kind among)
    wanted (sound kind) keyed
  rcases provided with ⟨unknown, -⟩ | ⟨-, ⟨renewed, written⟩ | left⟩
  · cases known.symm.trans unknown
  · refine .inl ⟨renewed, ?_⟩
    have befallen := written.befallen
    rcases isNode with rfl | rfl <;> exact befallen
  · exact .inr left

/-- What was replaced in a pass is what was planned to be written again. -/
theorem replaced_iff {kind : Kind} (among : kind ∈ done)
    (isNode : kind = .configMap ∨ kind = .deployment) {object : Object kind}
    (wanted : object ∈ b.desired etcd kind) :
    Replaced object before after <->
      object ∈ b.renewed etcd kind (b.noted etcd .apply before.collections)
        (b.found kind (before.collections.get kind)) := by
  rcases course.replaced_or_same valid sound listed among isNode wanted with
    ⟨renewed, replaced⟩ | ⟨notRenewed, same⟩
  · exact iff_of_true replaced renewed
  · exact iff_of_false (fun replaced => replaced.ne sound same) notRenewed

/-- A deployment is noted to follow its config map when that was replaced. -/
theorem isUpdated_iff (among : .configMap ∈ done) {node : Role × Node}
    (mem : node ∈ b.cluster.nodes) :
    (b.noted etcd .apply before.collections).isUpdated (b.deployment etcd node.1 node.2).name =
        true <-> b.Refreshed before after node := by
  have wanted := b.configMap_mem etcd mem
  have written : b.Refreshed before after node <-> b.configMap node.1 node.2 ∈
      Diff.modified (b.found .configMap (before.collections.get .configMap))
        (b.desired etcd .configMap) :=
    course.replaced_iff valid sound listed among (.inl rfl) wanted
  rw [written, Blueprint.noted, Context.isUpdated_noteAll]
  have fresh : ¬ ({ event := .apply } : Context).isUpdated (b.deployment etcd node.1 node.2).name =
      true := Bool.false_ne_true
  rw [or_iff_left fresh, Care.plan_apply rfl]
  constructor
  · intro noted
    obtain ⟨other, modified, sameName⟩ := List.mem_map.1 noted
    have wantedOther : other ∈ b.desired etcd .configMap := List.mem_of_mem_filter modified
    have same : slotOf other = slotOf (b.configMap node.1 node.2) := by
      have slots := (b.belongs_desired etcd wantedOther).slot.trans
        (b.belongs_desired etcd wanted).slot.symm
      exact congrArg₂ Store.Slot.mk slots sameName
    rw [← (b.apart_desired etcd valid).eq wantedOther wanted same]
    exact modified
  · intro modified
    exact List.mem_map.2 ⟨_, modified, rfl⟩

omit course in
/-- A node is stale if its deployment differs from the one it wants. -/
theorem stale_iff {node : Role × Node} (mem : node ∈ b.cluster.nodes) :
    b.Stale etcd before.collections node <-> b.deployment etcd node.1 node.2 ∈
      Diff.modified (b.found .deployment (before.collections.get .deployment))
        (b.desired etcd .deployment) := by
  have wanted := b.deployment_mem etcd mem
  obtain ⟨existing, stored, selected⟩ := listed .deployment (.inr rfl) _ wanted
  obtain ⟨among, keys⟩ := b.found_of_stored etcd valid (.inr rfl) (sound .deployment) wanted
    stored selected
  have modified := (b.fit_care etcd valid .deployment).mem_modified (sound .deployment) among
    wanted keys
  refine Iff.trans ?_ modified.symm
  constructor
  · rintro ⟨-, -, other, storedOther, differs⟩
    rw [stored] at storedOther
    rw [Option.some.inj storedOther]
    exact differs
  · exact fun differs => ⟨rfl, wanted, existing, stored, differs⟩

/-- While all deployments are available, a pass rolls the first node that is stale. If there is
none, it rolls the first node whose config map it has replaced. -/
theorem rolled_iff (among : ∀ kind, kind = .configMap ∨ kind = .deployment -> kind ∈ done)
    (available : (b.found .deployment (before.collections.get .deployment)).all
      Deployment.isAvailable = true) {node : Role × Node} (mem : node ∈ b.cluster.nodes) :
    b.Rolled etcd before after node <->
      IsFirst (b.Stale etcd before.collections) b.cluster.nodes node ∨
        (∀ other ∈ b.cluster.nodes, ¬ b.Stale etcd before.collections other) ∧
          IsFirst (b.Refreshed before after) b.cluster.nodes node := by
  let found := b.found .deployment (before.collections.get .deployment)
  have wanted := b.deployment_mem etcd mem
  have desired : b.desired etcd .deployment =
      b.cluster.nodes.map fun node => b.deployment etcd node.1 node.2 := rfl
  have injective : ∀ other ∈ b.cluster.nodes,
      b.deployment etcd other.1 other.2 = b.deployment etcd node.1 node.2 -> other = node := by
    intro other memOther same
    have ids : other.2.id = node.2.id := nodeName_injective (congrArg Object.name same)
    exact List.inj_on_of_nodup_map (Cluster.nodes_of_valid valid) memOther mem ids
  have stales : IsFirst (· ∈ Diff.modified found (b.desired etcd .deployment))
        (b.desired etcd .deployment) (b.deployment etcd node.1 node.2) <->
      IsFirst (b.Stale etcd before.collections) b.cluster.nodes node := by
    rw [desired, isFirst_map mem injective]
    exact isFirst_congr fun other memOther =>
      (stale_iff valid sound listed memOther).symm
  have noStale : Diff.modified found (b.desired etcd .deployment) = [] <->
      ∀ other ∈ b.cluster.nodes, ¬ b.Stale etcd before.collections other := by
    rw [List.eq_nil_iff_forall_not_mem]
    constructor
    · intro none other memOther stale
      exact none _ ((stale_iff valid sound listed memOther).1 stale)
    · intro none deployment modified
      obtain ⟨other, memOther, rfl⟩ := List.mem_map.1 (List.mem_of_mem_filter modified)
      exact none other memOther ((stale_iff valid sound listed memOther).2 modified)
  -- All deployments of nodes are found, so that being noted is all that it takes.
  have refreshed : IsFirst (fun wanted => (b.noted etcd .apply before.collections).isUpdated
          wanted.name = true ∧ ∃ existing ∈ found, existing.name = wanted.name)
        (b.desired etcd .deployment) (b.deployment etcd node.1 node.2) <->
      IsFirst (b.Refreshed before after) b.cluster.nodes node := by
    rw [desired, isFirst_map mem injective]
    refine isFirst_congr fun other memOther => ?_
    have wantedOther := b.deployment_mem etcd memOther
    obtain ⟨existing, stored, selected⟩ := listed .deployment (.inr rfl) _ wantedOther
    obtain ⟨amongOther, keys⟩ := b.found_of_stored etcd valid (.inr rfl) (sound .deployment)
      wantedOther stored selected
    have named : ∃ existing ∈ found,
        existing.name = (b.deployment etcd other.1 other.2).name :=
      ⟨existing, amongOther, congrArg Kube.Key.name keys⟩
    rw [and_iff_left named]
    exact course.isUpdated_iff valid sound listed (among .configMap (.inl rfl)) memOther
  have renewed : b.renewed etcd .deployment (b.noted etcd .apply before.collections) found =
      Resource.nextRoll (b.noted etcd .apply before.collections) found
        (b.desired etcd .deployment) := rfl
  rw [Blueprint.Rolled,
    course.replaced_iff valid sound listed (among .deployment (.inr rfl)) (.inr rfl) wanted,
    renewed, Resource.mem_nextRoll available, stales, noStale, refreshed]

end Course

/-! ## What becomes of nodes -/

namespace Blueprint

variable (b : Blueprint) (etcd : EtcdStorage)

/-- Every object of a node was replaced or left as it was. -/
def ReplacesOrKeeps (before after : Ledger) : Prop :=
  ∀ kind, kind = .configMap ∨ kind = .deployment -> ∀ object ∈ b.desired etcd kind,
    Replaced object before after ∨ (after.collections.get kind).stored (slotOf object) =
      (before.collections.get kind).stored (slotOf object)

/-- A deployment that was written as it is desired is not modified, whatever its status. -/
theorem isModified_written (node : Role × Node) (status : Option Kube.DeploymentStatus)
    (version : Nat) :
    (((b.deployment etcd node.1 node.2).withStatus status).dated version).isModified
      (b.deployment etcd node.1 node.2) = false :=
  unmodified_iff.2 ⟨rfl, rfl, rfl⟩

/-- A deployment that was written as it is desired does not differ, whatever its status. -/
theorem not_stale {all : Collections} {node : Role × Node} {status : Option Kube.DeploymentStatus}
    {version : Nat}
    (stored : (all.get .deployment).stored (slotOf (b.deployment etcd node.1 node.2)) =
      some (((b.deployment etcd node.1 node.2).withStatus status).dated version)) :
    ¬ b.Stale etcd all node := by
  rintro ⟨-, -, existing, held, differs⟩
  obtain rfl := Option.some.inj (stored.symm.trans held)
  cases (b.isModified_written etcd node status version).symm.trans differs

variable {b etcd} {before after : Ledger}

/-- A pass over all objects of nodes replaces them or keeps them. -/
theorem ReplacesOrKeeps.of_course (valid : b.cluster.isValid = true)
    (sound : before.collections.Sound) {done : List Kind}
    (course : Course b etcd .apply before done after) (listed : b.Listed etcd before.collections)
    (among : ∀ kind, kind = .configMap ∨ kind = .deployment -> kind ∈ done) :
    b.ReplacesOrKeeps etcd before after := by
  intro kind isNode object wanted
  exact (course.replaced_or_same valid sound listed (among kind isNode) isNode wanted).imp
    And.right And.right

/-- A pass that writes nothing keeps all objects of nodes. -/
theorem ReplacesOrKeeps.of_idle (idle : Idle before after) : b.ReplacesOrKeeps etcd before after :=
  fun kind _ object _ => .inr ((idle kind).alike.stored (slotOf object))

variable (keeps : b.ReplacesOrKeeps etcd before after)

include keeps

/-- After a pass that replaces objects or keeps them they are all still there. -/
theorem ReplacesOrKeeps.listed (valid : b.cluster.isValid = true)
    (listed : b.Listed etcd before.collections) : b.Listed etcd after.collections := by
  intro kind isNode object wanted
  rcases keeps kind isNode object wanted with ⟨version, -, held⟩ | same
  · refine ⟨_, held, ?_⟩
    have selected : Kube.Selector.selects b.cluster.nodeSelector object.metadata.labels = true :=
      selects_node (Cluster.id_of_valid valid).1 isNode (b.belongs_desired etcd wanted)
    exact selected
  · rw [Lists, same]
    exact listed kind isNode object wanted

/-- A node is stale after a pass if it was before and was not rolled. -/
theorem ReplacesOrKeeps.stale_iff (sound : before.collections.Sound) {node : Role × Node}
    (mem : node ∈ b.cluster.nodes) :
    b.Stale etcd after.collections node <->
      b.Stale etcd before.collections node ∧ ¬ b.Rolled etcd before after node := by
  rcases keeps .deployment (.inr rfl) _ (b.deployment_mem etcd mem) with rolled | same
  · refine iff_of_false ?_ fun both => both.2 rolled
    obtain ⟨version, -, held⟩ := rolled
    exact b.not_stale etcd held
  · have notRolled : ¬ b.Rolled etcd before after node := fun rolled => rolled.ne sound same
    rw [and_iff_left notRolled]
    constructor
    · rintro ⟨isDeployment, wanted, modified⟩
      rw [same] at modified
      exact ⟨isDeployment, wanted, modified⟩
    · rintro ⟨isDeployment, wanted, modified⟩
      rw [← same] at modified
      exact ⟨isDeployment, wanted, modified⟩

end Blueprint

/-- A pass that ends well replaces objects of nodes or leaves them as they were. -/
theorem Pass.replacesOrKeeps {world : World}
    (steady : ∀ kind, (world.collections.get kind).Steady) (config : Config) {cluster : Cluster}
    (valid : cluster.isValid = true) {etcd : EtcdStorage}
    (registered : Resource.bundles.resolve cluster.version = .ok etcd)
    (listed : (blueprint config cluster).Listed etcd world.collections) {outcome : Outcome}
    (ended : (world.run (overCluster config cluster .apply).run).1 = .ok outcome) :
    (blueprint config cluster).ReplacesOrKeeps etcd world.ledger
      (world.run (overCluster config cluster .apply).run).2.ledger := by
  rcases course_or_idle steady config valid registered ended with ⟨-, course⟩ | ⟨-, idle⟩
  · exact .of_course (b := blueprint config cluster) valid (fun kind => (steady kind).sound) course
      listed fun kind isNode => node_kinds isNode
  · exact .of_idle idle

end GuestFleet
