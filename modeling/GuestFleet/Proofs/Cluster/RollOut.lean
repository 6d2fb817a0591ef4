import GuestFleet.Proofs.Cluster.Restating
import GuestFleet.Proofs.Cluster.RollWrites

/-!
# Rolling all nodes

Passes of the handler of deployments while the statuses of deployments change. No pass replaces
more than one deployment, and none while one is not available. When the deployments are those of
the nodes and are available before each pass, the passes replace those that differ in the order of
the nodes, and then no more.
-/

namespace GuestFleet

open Kube (Kind Object)
open Store (Collection View World Write slotOf replacedSlots replacements)
open Request (replacing)

/-! ## Differences that are made up for -/

section

variable {kind : Kind} {current later desired : List (Object kind)}

/-- What is modified is a part of what is desired, so that its order is given. -/
theorem modified_congr (same : ∀ object ∈ desired,
      object ∈ Diff.modified later desired <-> object ∈ Diff.modified current desired) :
    Diff.modified later desired = Diff.modified current desired := by
  unfold Diff.modified at same ⊢
  refine List.filter_congr fun object mem => ?_
  have here := same object mem
  rw [List.mem_filter, List.mem_filter, and_iff_right mem, and_iff_right mem] at here
  exact Bool.eq_iff_iff.2 here

/-- When the first of the modified objects is modified no longer, the others remain. -/
theorem modified_tail {first : Object kind} {rest : List (Object kind)}
    (split : Diff.modified current desired = first :: rest) (nodup : desired.Nodup)
    (same : ∀ object ∈ desired, object ∈ Diff.modified later desired <->
      object ∈ Diff.modified current desired ∧ object ≠ first) :
    Diff.modified later desired = rest := by
  have others : Diff.modified later desired =
      (Diff.modified current desired).filter fun object => decide (object ≠ first) := by
    unfold Diff.modified at same ⊢
    rw [List.filter_filter]
    refine List.filter_congr fun object mem => ?_
    have here := same object mem
    rw [List.mem_filter, List.mem_filter, and_iff_right mem, and_iff_right mem] at here
    rw [Bool.eq_iff_iff, here, Bool.and_eq_true, decide_eq_true_iff, and_comm]
  have distinct : (first :: rest).Nodup := by
    rw [← split]
    exact nodup.filter _
  obtain ⟨fresh, -⟩ := List.nodup_cons.1 distinct
  rw [others, split, List.filter_cons_of_neg (by simp)]
  refine List.filter_eq_self.2 fun object mem => decide_eq_true ?_
  exact ne_of_mem_of_not_mem mem fresh

end

namespace Resource

/-- When no config map was replaced, only deployments that differ are rolled. -/
theorem nextRoll_fresh {context : Context} {current desired : List Deployment}
    (fresh : context.updatedConfigMaps = [])
    (available : current.all Deployment.isAvailable = true) :
    nextRoll context current desired = (Diff.modified current desired).take 1 := by
  have unmoved : (desired.filter fun deployment => context.isUpdated deployment.name &&
      current.any (fun existing => existing.name == deployment.name) &&
      !(Diff.modified current desired).any fun candidate =>
        candidate.name == deployment.name) = [] := by
    refine List.filter_eq_nil_iff.2 fun deployment _ updated => ?_
    rw [Bool.and_eq_true, Bool.and_eq_true, Context.isUpdated, fresh] at updated
    cases updated.1.1
  rw [nextRoll, if_pos available, rollCandidates, unmoved, List.append_nil]

end Resource

/-! ## Nodes that are rolled -/

namespace Blueprint

variable (b : Blueprint) (etcd : EtcdStorage)

/-- The deployments that are listed are those of the nodes, and some of them differ from what is
desired. -/
structure Rolling (c : Collection .deployment) (stale : List Deployment) : Prop where
  sound : c.Sound
  unfailing : c.faults = []
  listed : ∀ deployment ∈ b.desired etcd .deployment, b.Lists c deployment
  wanted : ∀ existing ∈ b.found .deployment c,
    Diff.hasKey (b.desired etcd .deployment) existing.key = true
  differ : Diff.modified (b.found .deployment c) (b.desired etcd .deployment) = stale

/-- Every deployment is still there, under its key and with labels that are selected as before. -/
def Relisted (c d : Collection .deployment) : Prop :=
  ∀ slot, d.stored slot = c.stored slot ∨ ∃ existing now, c.stored slot = some existing ∧
    d.stored slot = some now ∧ now.key = existing.key ∧
      Kube.Selector.selects b.cluster.nodeSelector now.metadata.labels =
        Kube.Selector.selects b.cluster.nodeSelector existing.metadata.labels

section

variable {b etcd} (valid : b.cluster.isValid = true) {c d : Collection .deployment}
  {stale : List Deployment} (rolling : b.Rolling etcd c stale)

include rolling

/-- Deployments that are listed stay listed as long as they keep their keys and labels. -/
theorem Rolling.listed_later (relisted : b.Relisted c d) {deployment : Deployment}
    (mem : deployment ∈ b.desired etcd .deployment) : b.Lists d deployment := by
  obtain ⟨existing, stored, selected⟩ := rolling.listed deployment mem
  rcases relisted (slotOf deployment) with same | ⟨other, now, held, written, -, selects⟩
  · exact ⟨existing, same.trans stored, selected⟩
  · obtain rfl := Option.some.inj (stored.symm.trans held)
    exact ⟨now, written, selects.trans selected⟩

/-- Nothing but what is wanted is found as long as deployments keep their keys and labels. -/
theorem Rolling.wanted_later (relisted : b.Relisted c d) (sound : d.Sound) {now : Deployment}
    (mem : now ∈ b.found .deployment d) :
    Diff.hasKey (b.desired etcd .deployment) now.key = true := by
  rw [b.found_node (.inr rfl)] at mem
  obtain ⟨stored, space, selected⟩ := sound.mem_selected.1 mem
  rcases relisted (slotOf now) with same | ⟨existing, other, held, written, sameKey, selects⟩
  · have among : now ∈ b.found .deployment c := by
      rw [b.found_node (.inr rfl)]
      exact rolling.sound.mem_selected.2 ⟨same.symm.trans stored, space, selected⟩
    exact rolling.wanted now among
  · obtain rfl : now = other := Option.some.inj (stored.symm.trans written)
    have slot := rolling.sound.slotOf_stored held
    have among : existing ∈ b.found .deployment c := by
      rw [b.found_node (.inr rfl)]
      refine rolling.sound.mem_selected.2 ⟨?_, ?_, selects.symm.trans selected⟩
      · rw [slot]
        exact held
      · rw [slot]
        exact space
    rw [sameKey]
    exact rolling.wanted existing among

include valid

/-- What differs is said by what is stored. -/
theorem Rolling.mem_modified_iff {deployment : Deployment}
    (wanted : deployment ∈ b.desired etcd .deployment) :
    deployment ∈ Diff.modified (b.found .deployment c) (b.desired etcd .deployment) <->
      ∃ existing, c.stored (slotOf deployment) = some existing ∧
        existing.isModified deployment = true := by
  obtain ⟨existing, stored, selected⟩ := rolling.listed deployment wanted
  obtain ⟨among, keys⟩ := b.found_of_stored etcd valid (.inr rfl) rolling.sound wanted stored
    selected
  have modified := (b.fit_care etcd valid .deployment).mem_modified rolling.sound among wanted keys
  rw [stored]
  simp only [Option.some.injEq, exists_eq_left']
  exact modified

/-- Statuses make no difference. -/
theorem Rolling.restated (sound : d.Sound) (unfailing : d.faults = [])
    (meddled : Meddled Object.withStatus c d) : b.Rolling etcd d stale := by
  have relisted : b.Relisted c d := by
    intro slot
    rcases meddled slot with same | ⟨existing, status, version, held, written⟩
    · exact .inl same
    · exact .inr ⟨existing, _, held, written, rfl, rfl⟩
  have later : b.Rolling etcd d
      (Diff.modified (b.found .deployment d) (b.desired etcd .deployment)) :=
    ⟨sound, unfailing, fun _ mem => rolling.listed_later relisted mem,
      fun _ mem => rolling.wanted_later relisted sound mem, rfl⟩
  have same : Diff.modified (b.found .deployment d) (b.desired etcd .deployment) = stale := by
    rw [← rolling.differ]
    refine modified_congr fun deployment wanted => ?_
    rw [rolling.mem_modified_iff valid wanted, later.mem_modified_iff valid wanted]
    rcases meddled (slotOf deployment) with same | ⟨existing, status, version, held, written⟩
    · rw [same]
    · rw [held, written]
      simp only [Option.some.injEq, exists_eq_left']
      exact Iff.rfl
  rwa [same] at later

/-- When the first deployment that differs was replaced, the others are left to be. -/
theorem Rolling.rolled {first : Deployment} {rest : List Deployment} (split : stale = first :: rest)
    (sound : d.Sound) (unfailing : d.faults = []) {version : Nat}
    (here : d.stored (slotOf first) = some (first.dated version))
    (elsewhere : ∀ slot, slot ≠ slotOf first -> d.stored slot = c.stored slot) :
    b.Rolling etcd d rest := by
  have among : first ∈ Diff.modified (b.found .deployment c) (b.desired etcd .deployment) := by
    rw [rolling.differ, split]
    exact List.mem_cons_self
  have isWanted : first ∈ b.desired etcd .deployment := List.mem_of_mem_filter among
  obtain ⟨existing, stored, selected⟩ := rolling.listed first isWanted
  obtain ⟨-, keys⟩ := b.found_of_stored etcd valid (.inr rfl) rolling.sound isWanted stored selected
  have plain := (Cluster.id_of_valid valid).1
  have relisted : b.Relisted c d := by
    intro slot
    by_cases own : slot = slotOf first
    · subst own
      have selects := selects_node plain (.inr rfl) (b.belongs_desired etcd isWanted)
      exact .inr ⟨existing, _, stored, here, keys.symm, selects.trans selected.symm⟩
    · exact .inl (elsewhere slot own)
  have later : b.Rolling etcd d
      (Diff.modified (b.found .deployment d) (b.desired etcd .deployment)) :=
    ⟨sound, unfailing, fun _ mem => rolling.listed_later relisted mem,
      fun _ mem => rolling.wanted_later relisted sound mem, rfl⟩
  have apart : Apart (b.desired etcd .deployment) := b.apart_desired etcd valid
  have same : Diff.modified (b.found .deployment d) (b.desired etcd .deployment) = rest := by
    refine modified_tail (rolling.differ.trans split) apart.nodup fun deployment wanted => ?_
    rw [rolling.mem_modified_iff valid wanted, later.mem_modified_iff valid wanted]
    by_cases own : deployment = first
    · subst own
      obtain ⟨node, -, rfl⟩ := List.mem_map.1 wanted
      rw [here]
      simp only [Option.some.injEq, exists_eq_left', ne_eq, not_true_eq_false, and_false, iff_false,
        Bool.not_eq_true]
      exact b.isModified_written etcd node none version
    · have ne : slotOf deployment ≠ slotOf first := fun same => own (apart.eq wanted isWanted same)
      rw [elsewhere _ ne, and_iff_left own]
  rwa [same] at later

/-- Making the one change that is planned leaves the others to be made. -/
theorem Rolling.made (made : (b.care etcd .deployment).Made c { update := stale.take 1 } d) :
    b.Rolling etcd d stale.tail := by
  have sound := made.touched.steady.sound
  have unfailing := made.touched.unfailing rolling.unfailing
  cases stale with
  | nil =>
    refine rolling.restated valid sound unfailing fun slot => .inl ?_
    exact made.elsewhere List.not_mem_nil List.not_mem_nil List.not_mem_nil
  | cons first rest =>
    have renewed := made.renewed List.mem_cons_self List.not_mem_nil List.not_mem_nil
    obtain ⟨version, -, here⟩ := renewed.befallen
    refine rolling.rolled valid rfl sound unfailing here fun slot ne => ?_
    exact made.elsewhere List.not_mem_nil List.not_mem_nil fun mem => ne (List.mem_singleton.1 mem)

omit valid in
/-- What differs is there, so that it can be replaced. -/
theorem Rolling.able : (b.care etcd .deployment).Able c { update := stale.take 1 } := by
  refine ⟨fun _ absent => absurd absent List.not_mem_nil, fun deployment mem => ?_⟩
  have differs := List.mem_of_mem_take mem
  rw [← rolling.differ] at differs
  obtain ⟨existing, stored, -⟩ := rolling.listed deployment (List.mem_of_mem_filter differs)
  show (c.stored (slotOf deployment)).isSome = true
  rw [stored]
  rfl

/-- When no deployment is left that differs, no listed one is modified. -/
theorem Rolling.unmodified (done : stale = []) {existing deployment : Deployment}
    (mem : existing ∈ b.found .deployment c) (wanted : deployment ∈ b.desired etcd .deployment)
    (same : Object.key existing = Object.key deployment) :
    Object.isModified existing deployment = false := by
  have modified := (b.fit_care etcd valid .deployment).mem_modified rolling.sound mem wanted same
  have none := rolling.differ.trans done
  rw [Bool.eq_false_iff]
  intro differs
  have among : deployment ∈ Diff.modified (b.found .deployment c) (b.desired etcd .deployment) :=
    modified.2 differs
  rw [none] at among
  cases among

omit rolling in
/-- It is enough that the listed deployments are those of the nodes by their keys. -/
theorem Rolling.of_keys (sound : c.Sound) (unfailing : c.faults = [])
    (identities : ∀ key, key ∈ (b.found .deployment c).map Object.key <->
      key ∈ (b.desired etcd .deployment).map Object.key) :
    b.Rolling etcd c (Diff.modified (b.found .deployment c) (b.desired etcd .deployment)) := by
  refine ⟨sound, unfailing, fun deployment wanted => ?_, fun existing mem => ?_, rfl⟩
  · obtain ⟨existing, among, same⟩ :=
      List.mem_map.1 ((identities _).2 (List.mem_map_of_mem wanted))
    refine (b.hasKey_iff_lists etcd valid (.inr rfl) sound wanted).1 ?_
    exact List.any_eq_true.2 ⟨existing, among, decide_eq_true same⟩
  · obtain ⟨deployment, wanted, same⟩ := List.mem_map.1 ((identities _).1 (List.mem_map_of_mem mem))
    exact List.any_eq_true.2 ⟨deployment, wanted, decide_eq_true same⟩

variable {context : Context} (isApply : context.event = .apply)
  (fresh : context.updatedConfigMaps = [])
  (available : (b.found .deployment c).all Deployment.isAvailable = true)

include isApply fresh available

/-- The one change that is planned is to replace the first deployment that differs. -/
theorem Rolling.plan_eq :
    (b.care etcd .deployment).plan context c = { update := stale.take 1 } := by
  have created : Diff.created (b.found .deployment c) (b.desired etcd .deployment) = [] := by
    refine List.filter_eq_nil_iff.2 fun deployment wanted absent => ?_
    rw [(b.hasKey_iff_lists etcd valid (.inr rfl) rolling.sound wanted).2
      (rolling.listed deployment wanted)] at absent
    cases absent
  have obsolete : Diff.obsolete (b.found .deployment c) (b.desired etcd .deployment) = [] := by
    refine List.filter_eq_nil_iff.2 fun existing mem unwanted => ?_
    rw [rolling.wanted existing mem] at unwanted
    cases unwanted
  have next : Resource.nextRoll context (b.found .deployment c) (b.desired etcd .deployment) =
      stale.take 1 := by
    rw [Resource.nextRoll_fresh fresh available, rolling.differ]
  rw [Care.plan_apply isApply, ← next]
  exact congrArg₂ (fun create delete => ChangeSet.mk create delete _) created obsolete

end

end Blueprint

namespace Pass

/-! ## One pass -/

section

variable (config : Config) (etcd : EtcdStorage) (cluster : Cluster)

/-- The handler of deployments in the passes over a cluster. -/
def deploymentHandler : Handler Program :=
  Resource.wrapped config.retry cluster.namespaceName
    (Resource.deployments config.manifests etcd cluster)

/-- A pass of the handler, with the names of the config maps that were replaced before it. -/
def rollOut (noted : List String) (world : World) : (Except Failure Unit × Context) × World :=
  world.run ((deploymentHandler config etcd cluster).ensureCreated.run.run
    { updatedConfigMaps := noted })

/-- What the handler makes of the deployments, and what it writes to do so. -/
theorem deploymentHandler_reaches (valid : cluster.isValid = true) (noted : List String)
    {c : Collection .deployment} (steady : c.Steady) (writes : List Store.Write) :
    let context : Context := { updatedConfigMaps := noted }
    let care := (blueprint config cluster).care etcd .deployment
    let plan := care.plan context c
    (deploymentHandler config etcd cluster).ensureCreated.Reaches
      (View.written .deployment).around
      (fun after now => Resource.Halted care context c after now.1 ∧
        replacedSlots now.2 = replacedSlots writes)
      (fun after now => (after = context.noteAll (care.marks plan.update) ∧ care.Made c plan now.1) ∧
        RolledOut plan c writes now) context (c, writes) := by
  intro context care plan
  let b : Blueprint := blueprint config cluster
  have calm : ¬ care.Stops context c := by
    rintro ⟨-, stops⟩
    rw [Resource.any_stopsPass fun _ => rfl] at stops
    cases stops
  have handles : (deploymentHandler config etcd cluster).ensureCreated.Reaches
      ((View.written .deployment).part Prod.fst).around (Resource.Halted care context c)
      (fun after d => after = context.noteAll (care.marks plan.update) ∧ care.Made c plan d)
      context c :=
    (Resource.cares_deployments b etcd valid).handles steady rfl calm config.retry
      cluster.namespaceName
  have lifted : (deploymentHandler config etcd cluster).ensureCreated.Reaches
      (View.written .deployment).around
      (fun after now => Resource.Halted care context c after now.1)
      (fun after now => after = context.noteAll (care.marks plan.update) ∧ care.Made c plan now.1)
      context (c, writes) :=
    @Work.reaches_of_part _ _ (View.written .deployment) Prod.fst _ _ _ context (c, writes) handles
  exact lifted.both
    (Resource.rolls b etcd valid rfl rfl c writes config.retry cluster.namespaceName)

variable {config etcd cluster} (valid : cluster.isValid = true)

include valid

/-- A pass that ends well has replaced what was planned, and any other one has replaced
nothing. -/
theorem rollOut_replaces (noted : List String) (world : World) :
    let b := blueprint config cluster
    let c := world.collections.get .deployment
    let replaced := replacedSlots
      ((rollOut config etcd cluster noted world).2.writesSince world .deployment)
    replaced = [] ∨ replaced =
      (Resource.nextRoll { updatedConfigMaps := noted } (b.found .deployment c)
        (b.desired etcd .deployment)).map slotOf := by
  intro b c replaced
  let context : Context := { updatedConfigMaps := noted }
  have isApply : context.event = .apply := rfl
  have planned : ((b.care etcd .deployment).plan context c).update =
      Resource.nextRoll context (b.found .deployment c) (b.desired etcd .deployment) := by
    rw [Care.plan_apply isApply]
    rfl
  obtain ⟨new, grown⟩ := Store.log_run world
    ((deploymentHandler config etcd cluster).ensureCreated.run.run context)
  have since : replacedSlots (Store.writesIn .deployment
        (rollOut config etcd cluster noted world).2.log) =
      replaced.reverse ++ replacedSlots (Store.writesIn .deployment world.log) := by
    rw [← Store.replacedSlots_reverse, ← Store.replacedSlots_append]
    exact congrArg replacedSlots (Store.writesIn_of_grown grown .deployment)
  have reaches := Resource.rolls b etcd valid isApply rfl c (Store.writesIn .deployment world.log)
    config.retry cluster.namespaceName
  rcases Work.run_of_reaches (View.written .deployment) reaches with ⟨-, rolledOut⟩ | none
  · refine .inr ?_
    have same := since.symm.trans rolledOut.replaced
    rw [planned] at same
    exact List.reverse_inj.1 (List.append_cancel_right same)
  · exact .inl (List.reverse_eq_nil_iff.1 (List.append_left_eq_self.1 (since.symm.trans none)))

/-- No pass replaces two deployments, and none replaces one while a listed deployment is not
available. -/
theorem rollOut_safe (noted : List String) (world : World) :
    let replaced := replacedSlots
      ((rollOut config etcd cluster noted world).2.writesSince world .deployment)
    replaced.length ≤ 1 ∧
      ((∃ deployment ∈ (blueprint config cluster).found .deployment
          (world.collections.get .deployment), Deployment.isAvailable deployment = false) ->
        replaced = []) := by
  intro replaced
  let b : Blueprint := blueprint config cluster
  let next := Resource.nextRoll { updatedConfigMaps := noted }
    (b.found .deployment (world.collections.get .deployment)) (b.desired etcd .deployment)
  have either : replaced = [] ∨ replaced = next.map slotOf := rollOut_replaces valid noted world
  constructor
  · rcases either with none | same
    · simp [none]
    · rw [same, List.length_map]
      by_cases some : next = []
      · simp [some]
      · obtain ⟨deployment, single⟩ := Resource.nextRoll_eq_singleton some
        exact (congrArg List.length single).le
  · rintro ⟨deployment, mem, unavailable⟩
    rcases either with none | same
    · exact none
    · have waits : next = [] := Resource.nextRoll_nil mem unavailable
      rw [same, waits]
      rfl

/-- While all deployments are available, a pass replaces the first one that differs and does
nothing else. When none differs it only reads. -/
theorem rollOut_rolling {world : World} {stale : List Deployment}
    (rolling : (blueprint config cluster).Rolling etcd (world.collections.get .deployment) stale)
    (available : ((blueprint config cluster).found .deployment
      (world.collections.get .deployment)).all Deployment.isAvailable = true) :
    let ended := rollOut config etcd cluster [] world
    ended.1.1 = .ok () ∧
      ended.2.writesSince world .deployment = replacements (stale.take 1) ∧
      (stale = [] -> (world.collections.get .deployment).Unwritten
        (ended.2.collections.get .deployment)) ∧
      (blueprint config cluster).Rolling etcd (ended.2.collections.get .deployment) stale.tail := by
  intro ended
  let b : Blueprint := blueprint config cluster
  let c := world.collections.get .deployment
  let context : Context := {}
  let plan := (b.care etcd .deployment).plan context c
  let writes := Store.writesIn .deployment world.log
  have planned : plan = { update := stale.take 1 } :=
    Blueprint.Rolling.plan_eq (b := b) valid rolling rfl rfl available
  have steady : c.Steady := rolling.sound.steady rolling.unfailing
  have reaches := deploymentHandler_reaches config etcd cluster valid [] steady writes
  rcases Work.run_of_reaches (View.written .deployment) reaches with
    ⟨isOk, ⟨-, made⟩, rolledOut⟩ | ⟨halted, -⟩
  · let d := ended.2.collections.get .deployment
    have same : (ended.2.awaiting (world.hazards [])).collections.get .deployment = d := by
      have faces := world.faces_runAmid []
        ((deploymentHandler config etcd cluster).ensureCreated.run.run context)
      rw [World.runAmid_nil] at faces
      refine faces.get ?_
      rw [World.hazards, rolling.unfailing]
      rfl
    have seen : (View.written .deployment).see (ended.2.awaiting (world.hazards [])) =
        (d, Store.writesIn .deployment ended.2.log) :=
      congrArg (·, Store.writesIn .deployment ended.2.log) same
    replace made : (b.care etcd .deployment).Made c plan d := same ▸ made
    replace rolledOut : RolledOut plan c writes (d, Store.writesIn .deployment ended.2.log) :=
      seen ▸ rolledOut
    have isMade : (b.care etcd .deployment).Made c { update := stale.take 1 } d := planned ▸ made
    have isRolled : RolledOut { update := stale.take 1 } c writes
        (d, Store.writesIn .deployment ended.2.log) := planned ▸ rolledOut
    obtain ⟨written, idle⟩ := isRolled.alone rfl rfl
    obtain ⟨new, grown⟩ := Store.log_run world
      ((deploymentHandler config etcd cluster).ensureCreated.run.run context)
    have since := (Store.writesIn_of_grown grown .deployment).symm.trans written
    refine ⟨isOk, List.reverse_inj.1 (List.append_cancel_right since), ?_, ?_⟩
    · rintro rfl
      exact idle rfl
    · exact Blueprint.Rolling.made (b := b) valid rolling isMade
  · have able : (b.care etcd .deployment).Able c plan := planned ▸ rolling.able
    exact absurd rolling.unfailing (halted.faulty able)

end

/-! ## Pass after pass -/

section

variable {config : Config} {etcd : EtcdStorage} {cluster : Cluster} {start : Nat -> World}
  {noted : Nat -> List String} {last : Nat}

/-- Passes of the handler of deployments, between which the statuses of deployments change. -/
def RollOuts (config : Config) (etcd : EtcdStorage) (cluster : Cluster) (start : Nat -> World)
    (noted : Nat -> List String) (last : Nat) : Prop :=
  ∀ i < last, Restated (rollOut config etcd cluster (noted i) (start i)).2 (start (i + 1))

/-- Before a pass those deployments differ that the passes before it have not replaced. -/
theorem RollOuts.rolling (rollOuts : RollOuts config etcd cluster start noted last)
    (valid : cluster.isValid = true) (fresh : ∀ i ≤ last, noted i = [])
    (available : ∀ i ≤ last, ((blueprint config cluster).found .deployment
      ((start i).collections.get .deployment)).all Deployment.isAvailable = true)
    {stale : List Deployment} (rolling : (blueprint config cluster).Rolling etcd
      ((start 0).collections.get .deployment) stale) {i : Nat} (within : i ≤ last) :
    (blueprint config cluster).Rolling etcd ((start i).collections.get .deployment)
      (stale.drop i) := by
  let b : Blueprint := blueprint config cluster
  induction i with
  | zero => exact rolling
  | succ i ih =>
    have before := Nat.le_of_succ_le within
    obtain ⟨-, -, -, left⟩ := rollOut_rolling valid (ih before) (available i before)
    have restated := rollOuts i within
    rw [fresh i before] at restated
    rw [List.tail_drop] at left
    exact Blueprint.Rolling.restated (b := b) valid left (restated.sound left.sound)
      ((restated.faults _).trans left.unfailing) (restated.meddled left.sound)

/-- Whatever statuses the deployments have, a pass replaces one deployment at most, and none while
a listed one is not available. If the listed deployments are those of the nodes, are available
before each pass and no config map was replaced, every pass replaces the next one of those that
differed at the start, until none is left that is modified; from then on passes only read. -/
theorem rollOuts_progress (rollOuts : RollOuts config etcd cluster start noted last)
    (valid : cluster.isValid = true) :
    let b := blueprint config cluster
    let listed (world : World) := b.found .deployment (world.collections.get .deployment)
    let ended (i : Nat) := rollOut config etcd cluster (noted i) (start i)
    let writes (i : Nat) := (ended i).2.writesSince (start i) .deployment
    (∀ i ≤ last, (replacedSlots (writes i)).length ≤ 1 ∧
      ((∃ deployment ∈ listed (start i), Deployment.isAvailable deployment = false) ->
        replacedSlots (writes i) = [])) ∧
    (((start 0).collections.get .deployment).Sound ->
      ((start 0).collections.get .deployment).faults = [] ->
      (∀ key, key ∈ (listed (start 0)).map Object.key <->
        key ∈ (b.desired etcd .deployment).map Object.key) ->
      (∀ i ≤ last, noted i = []) ->
      (∀ i ≤ last, (listed (start i)).all Deployment.isAvailable = true) ->
      let stale := Diff.modified (listed (start 0)) (b.desired etcd .deployment)
      Apart stale ∧ ∀ i ≤ last, (ended i).1.1 = .ok () ∧
        (∀ below : i < stale.length, writes i = [⟨.replace, slotOf stale[i]⟩]) ∧
        (stale.length ≤ i + 1 -> ∀ existing ∈ listed (ended i).2,
          ∀ object ∈ b.desired etcd .deployment, Object.key existing = Object.key object ->
            Object.isModified existing object = false) ∧
        (stale.length ≤ i -> writes i = [] ∧
          ((start i).collections.get .deployment).Unwritten
            ((ended i).2.collections.get .deployment))) := by
  intro b listed ended writes
  refine ⟨fun i _ => rollOut_safe valid (noted i) (start i), ?_⟩
  intro sound unfailing identities fresh available stale
  have rolling : b.Rolling etcd ((start 0).collections.get .deployment) stale :=
    Blueprint.Rolling.of_keys (b := b) valid sound unfailing identities
  have wanted : Apart (b.desired etcd .deployment) := b.apart_desired etcd valid
  refine ⟨wanted.sublist List.filter_sublist, fun i within => ?_⟩
  have now := rollOuts.rolling valid fresh available rolling within
  obtain ⟨isOk, written, idle, left⟩ := rollOut_rolling valid now (available i within)
  have same : ended i = rollOut config etcd cluster [] (start i) := by
    rw [← fresh i within]
  rw [← same] at isOk written idle left
  refine ⟨isOk, fun below => ?_, fun done existing mem object isWanted sameKey => ?_, fun done => ?_⟩
  · rw [List.drop_eq_getElem_cons below] at written
    exact written
  · have none : (stale.drop i).tail = [] := by
      rw [List.tail_drop]
      exact List.drop_eq_nil_of_le done
    exact Blueprint.Rolling.unmodified (b := b) valid left none mem isWanted sameKey
  · have none : stale.drop i = [] := List.drop_eq_nil_of_le done
    rw [none] at written
    exact ⟨written, idle none⟩

end

/-- The deployments of a cluster of an earlier version, and what passes over the cluster of now
make of them. All of them are marked as available before each pass. -/
def aged : Nat -> World
  | 0 =>
    let before : Blueprint := ⟨{ pairCluster "al9qy" with version := "0.1.0" }, {}⟩
    ({} : World).writing ((before.desired .persistentVolume .deployment).map fun deployment =>
      deployment.withStatus (some running))
  | i + 1 =>
    (rollOut {} .persistentVolume (pairCluster "al9qy") [] (aged i)).2.marking (some running)

/-- The aged worlds are sound. -/
theorem sound_aged (i : Nat) : (aged i).collections.Sound := by
  induction i with
  | zero =>
    intro kind
    cases kind with
    | deployment => exact (Collection.sound_empty.insert _).insert _
    | _ => exact Collection.sound_empty
  | succ i ih =>
    have after := Store.Collections.Sound.run ih
      ((deploymentHandler {} .persistentVolume (pairCluster "al9qy")).ensureCreated.run.run {})
    exact (Restated.marking (some running) (after .deployment)).sounds after

/-- The aged worlds are a run of passes of the handler. -/
theorem rollOuts_aged (last : Nat) :
    RollOuts {} .persistentVolume (pairCluster "al9qy") aged (fun _ => []) last := by
  intro i _
  have after := Store.Collections.Sound.run (sound_aged i)
    ((deploymentHandler {} .persistentVolume (pairCluster "al9qy")).ensureCreated.run.run {})
  exact Restated.marking (some running) (after .deployment)

/-- Both nodes of a cluster get a new version, the master first, and then none is modified. -/
theorem rollOuts_progress_pair :
    let b := blueprint {} (pairCluster "al9qy")
    let listed (world : World) := b.found .deployment (world.collections.get .deployment)
    let ended (i : Nat) := rollOut {} .persistentVolume (pairCluster "al9qy") [] (aged i)
    let writes (i : Nat) := (ended i).2.writesSince (aged i) .deployment
    (RollOuts {} .persistentVolume (pairCluster "al9qy") aged (fun _ => []) 1 ∧
        ∀ i ≤ 1, (listed (aged i)).all Deployment.isAvailable = true) ∧
      writes 0 = [⟨.replace, ⟨"al9qy", "master-al9qy-m1"⟩⟩] ∧
      writes 1 = [⟨.replace, ⟨"al9qy", "worker-al9qy-w1"⟩⟩] ∧
      ∀ existing ∈ listed (ended 1).2, ∀ object ∈ b.desired .persistentVolume .deployment,
        Object.key existing = Object.key object -> Object.isModified existing object = false := by
  intro b listed ended writes
  have valid : (pairCluster "al9qy").isValid = true := by decide
  have same : (listed (aged 0)).map Object.key =
      (b.desired .persistentVolume .deployment).map Object.key := by decide +kernel
  have available : ∀ i ≤ 1, (listed (aged i)).all Deployment.isAvailable = true := by
    decide +kernel
  let stale := Diff.modified (listed (aged 0)) (b.desired .persistentVolume .deployment)
  have slots : stale.map slotOf =
      [⟨"al9qy", "master-al9qy-m1"⟩, ⟨"al9qy", "worker-al9qy-w1"⟩] := by
    decide +kernel
  have two : stale.length = 2 := by
    rw [← List.length_map (f := slotOf), slots]
    rfl
  have slotAt (i : Nat) (below : i < stale.length) (slot : Store.Slot)
      (named : (stale.map slotOf)[i]? = some slot) : slotOf stale[i] = slot := by
    rw [List.getElem?_map, List.getElem?_eq_getElem below] at named
    exact Option.some.inj named
  obtain ⟨-, progress⟩ := rollOuts_progress (rollOuts_aged 1) valid
  obtain ⟨-, passes⟩ := progress (sound_aged 0 .deployment) rfl (fun key => by rw [← same])
    (fun _ _ => rfl) available
  obtain ⟨-, first, -, -⟩ := passes 0 (by decide)
  obtain ⟨-, second, done, -⟩ := passes 1 (by decide)
  have isFirst : 0 < stale.length := by omega
  have isSecond : 1 < stale.length := by omega
  refine ⟨⟨rollOuts_aged 1, available⟩, (first isFirst).trans ?_, (second isSecond).trans ?_,
    done two.le⟩
  · rw [slotAt 0 isFirst ⟨"al9qy", "master-al9qy-m1"⟩ (by rw [slots]; rfl)]
  · rw [slotAt 1 isSecond ⟨"al9qy", "worker-al9qy-w1"⟩ (by rw [slots]; rfl)]

end Pass

end GuestFleet
