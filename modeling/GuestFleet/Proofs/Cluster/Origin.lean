import GuestFleet.Proofs.Cluster.Drafts
import GuestFleet.Proofs.Cluster.Restating

/-!
# Where stored objects come from

Passes over clusters leave objects as these clusters want them written, whatever was there before
of other clusters with the same id. This is why a pass can make every change that it plans for
what such passes have left.
-/

namespace GuestFleet

open Kube (Kind Object)
open Store (Collection Collections Ledger Slot World slotOf)
open Request (creating leaving merging rebinding replacing slotsOf)

variable {kind : Kind}

/-! ## What is written of an object -/

namespace Kube.Object

/-- The object without what others fill in: its version and, of a deployment, its status. -/
def declared : {kind : Kind} -> Object kind -> Object kind
  | .deployment, deployment => (deployment.withStatus none).unversioned
  | _, object => object.unversioned

/-- A declaration does not tell the version. -/
theorem declared_dated (object : Object kind) (version : Nat) :
    (object.dated version).declared = object.declared := by
  cases kind <;> rfl

/-- The comparison looks neither at versions nor at statuses. -/
theorem isModified_declared (object desired : Object kind) :
    object.declared.isModified desired = object.isModified desired := by
  cases kind <;> rfl

/-- A declaration tells whether an object stops a pass. -/
theorem stopsPass_declared (object : Object kind) :
    object.declared.stopsPass = object.stopsPass := by
  cases kind <;> rfl

/-- A merged object that was written is the one that is drawn up, with a version. -/
theorem eq_written (isMerged : kind = .ingress ∨ kind = .service) {held object : Object kind}
    (same : held.declared = object.recorded) :
    held = object.written held.metadata.resourceVersion := by
  have unversioned : held.unversioned = object.stamped := by
    rcases isMerged with rfl | rfl <;> exact same
  calc
    held = held.unversioned.noted held.unversioned.metadata.annotations
        held.metadata.resourceVersion := rfl
    _ = object.written held.metadata.resourceVersion := by
      rw [unversioned]
      rfl

end Kube.Object

/-- An object without a version is not changed by taking its version away. -/
theorem Kube.Object.unversioned_eq {object : Object kind}
    (unversioned : object.metadata.resourceVersion = none) : object.unversioned = object := by
  unfold Object.unversioned
  rw [← unversioned]

/-- What a cluster wants is written without a version and without a status. -/
theorem Blueprint.declared_recorded (b : Blueprint) (etcd : EtcdStorage) {object : Object kind}
    (mem : object ∈ b.desired etcd kind) : object.recorded.declared = object.recorded := by
  have unversioned := (b.metadata_desired etcd mem).2
  cases kind with
  | deployment =>
    obtain ⟨⟨role, node⟩, -, rfl⟩ := List.mem_map.1 mem
    rfl
  | ingress => exact Object.unversioned_eq unversioned
  | service => exact Object.unversioned_eq unversioned
  | _ => exact Object.unversioned_eq unversioned

/-! ## Drawn objects -/

/-- Every stored object is as one of the objects is written, in the slot of that one. -/
def Store.Collection.DrawnFrom (objects : List (Object kind)) (c : Collection kind) : Prop :=
  ∀ slot held, c.stored slot = some held ->
    ∃ object ∈ objects, slotOf object = slot ∧ held.declared = object.recorded

namespace Store.Collection.DrawnFrom

variable {objects more : List (Object kind)} {c d : Collection kind}

/-- An empty collection is drawn from anything. -/
theorem empty : DrawnFrom objects {} := by
  intro slot held stored
  cases stored

/-- What is drawn from some objects is drawn from more of them. -/
theorem mono (drawn : DrawnFrom objects c) (within : objects ⊆ more) : DrawnFrom more c := by
  intro slot held stored
  obtain ⟨object, mem, same⟩ := drawn slot held stored
  exact ⟨object, within mem, same⟩

/-- What is like a drawn collection is drawn. -/
theorem alike (drawn : DrawnFrom objects c) (alike : c.Alike d) : DrawnFrom objects d := by
  intro slot held stored
  rw [alike.stored] at stored
  exact drawn slot held stored

/-- Statuses make no difference. -/
theorem restated {objects : List Deployment} {c d : Collection .deployment}
    (drawn : DrawnFrom objects c) (meddled : Meddled Object.withStatus c d) :
    DrawnFrom objects d := by
  intro slot held stored
  rcases meddled slot with same | ⟨existing, status, version, before, now⟩
  · exact drawn slot held (same.symm.trans stored)
  · obtain rfl := Option.some.inj (now.symm.trans stored)
    exact drawn slot existing before

end Store.Collection.DrawnFrom

/-! ## Treatments of drawn objects -/

/-- Some of the objects can be merged, and then they are drafts. -/
def Drafted (objects : List (Object kind)) : Prop :=
  kind = .ingress ∨ kind = .service -> ∀ object ∈ objects, object.Draft

/-- The object in a slot, if there is one, is as one of the objects is written. -/
def DrawnAt (objects : List (Object kind)) (before : Option (Object kind)) : Prop :=
  ∀ held, before = some held -> ∃ object ∈ objects, held.declared = object.recorded

/-- The object stays as it is, or is written as it is wanted. -/
def Fate.Settles (object : Object kind) (fate : Fate kind) : Prop :=
  fate = .stays ∨ ∃ written, fate = .written written ∧ written.declared = object.recorded

/-- What has befallen a slot that settles for an object left it alone or as the object is written.
-/
theorem Fate.Settles.declared {object now : Object kind} {fate : Fate kind}
    (settles : fate.Settles object) {first : Nat} {before : Option (Object kind)}
    (befalls : fate.Befalls first before (some now)) :
    before = some now ∨ now.declared = object.recorded := by
  rcases settles with rfl | ⟨written, rfl, same⟩
  · exact .inl (Eq.symm befalls)
  · obtain ⟨version, -, held⟩ := befalls
    obtain rfl := Option.some.inj held
    exact .inr ((written.declared_dated version).trans same)

namespace Blueprint

section

variable {b : Blueprint} {etcd : EtcdStorage} (isMerged : kind = .ingress ∨ kind = .service)
  {object drawn held : Object kind} (wanted : object ∈ b.desired etcd kind) (draft : drawn.Draft)
  (same : held.declared = drawn.recorded)

include isMerged wanted draft same

/-- What was written of a draft is merged to what is written of another one. -/
theorem merged_of_drawn :
    held.mergeDesired object = .ok (object.written held.metadata.resourceVersion) := by
  have merged := Object.mergeDesired_written draft (b.draft_desired etcd isMerged wanted)
    held.metadata.resourceVersion
  rwa [← Object.eq_written isMerged same] at merged

/-- The merged object carries the version of the one that it replaces. -/
theorem able_merging : merging.able object (some held) := by
  intro outdated
  refine ⟨_, merged_of_drawn isMerged wanted draft same, ?_⟩
  have version : (object.written held.metadata.resourceVersion).metadata.resourceVersion =
      held.metadata.resourceVersion := rfl
  rw [Collection.mayReplace, version]
  cases held.metadata.resourceVersion with
  | none => rfl
  | some version => exact beq_self_eq_true _

end

section

variable {b : Blueprint} {etcd : EtcdStorage} {objects : List (Object kind)}
  (drafted : Drafted objects) {object : Object kind} (wanted : object ∈ b.desired etcd kind)
  {before : Option (Object kind)} (drawn : DrawnAt objects before)

include drafted wanted drawn

/-- A merge of what was drawn settles for what is wanted. -/
theorem settles_merging (isMerged : kind = .ingress ∨ kind = .service) :
    (merging.fate object before).Settles object := by
  have recorded (version : Option String) :
      (object.written version).declared = object.recorded := by
    have kept := b.declared_recorded etcd wanted
    rcases isMerged with rfl | rfl <;> exact kept
  cases isHeld : before with
  | none =>
    refine .inr ⟨object.stamped, rfl, ?_⟩
    have kept := b.declared_recorded etcd wanted
    rcases isMerged with rfl | rfl <;> exact kept
  | some held =>
    obtain ⟨origin, mem, same⟩ := drawn held isHeld
    have merged := merged_of_drawn isMerged wanted (drafted isMerged origin mem) same
    by_cases outdated : held.needsUpdate object = true
    · refine .inr ⟨_, ?_, recorded held.metadata.resourceVersion⟩
      simp only [merging, outdated, if_true, merged]
    · exact .inl (if_neg outdated)

/-- What is created is written as it is wanted. -/
theorem settles_creation : ((creation kind).fate object before).Settles object := by
  have kept := b.declared_recorded etcd wanted
  cases kind with
  | ingress => exact settles_merging drafted wanted drawn (.inl rfl)
  | service => exact settles_merging drafted wanted drawn (.inr rfl)
  | _ =>
    cases before with
    | none => exact .inr ⟨object, rfl, kept⟩
    | some held => exact .inl rfl

/-- What is written again is written as it is wanted. -/
theorem settles_renewal : ((renewal kind).fate object before).Settles object := by
  have kept := b.declared_recorded etcd wanted
  cases kind with
  | clusterRoleBinding => exact .inr ⟨object, rfl, kept⟩
  | configMap => exact .inr ⟨object, rfl, kept⟩
  | deployment => exact .inr ⟨object, rfl, kept⟩
  | ingress => exact settles_merging drafted wanted drawn (.inl rfl)
  | service => exact settles_merging drafted wanted drawn (.inr rfl)
  | _ => exact .inl rfl

/-- Whatever was drawn, what is wanted can be created. -/
theorem able_creation : (creation kind).able object before := by
  have able (isMerged : kind = .ingress ∨ kind = .service) : merging.able object before := by
    cases isHeld : before with
    | none => trivial
    | some held =>
      obtain ⟨origin, mem, same⟩ := drawn held isHeld
      exact able_merging isMerged wanted (drafted isMerged origin mem) same
  cases kind with
  | ingress => exact able (.inl rfl)
  | service => exact able (.inr rfl)
  | _ => trivial

/-- Whatever was drawn, what is wanted can be written again where something is. -/
theorem able_renewal (isHeld : before.isSome = true) : (renewal kind).able object before := by
  have able := able_creation drafted wanted drawn
  cases kind with
  | configMap => exact isHeld
  | deployment => exact isHeld
  | ingress => exact able
  | service => exact able
  | _ => trivial

end

/-! ## Changes to drawn objects -/

section

variable {b : Blueprint} {etcd : EtcdStorage} (valid : b.cluster.isValid = true)
  {objects : List (Object kind)} (drafted : Drafted objects) {context : Context}
  {c d : Collection kind} (drawn : c.DrawnFrom objects)

include valid drafted drawn

omit valid drafted in
/-- What a slot holds is drawn. -/
theorem drawnAt (slot : Slot) : DrawnAt objects (c.stored slot) := by
  intro held stored
  obtain ⟨object, mem, -, same⟩ := drawn slot held stored
  exact ⟨object, mem, same⟩

/-- Every change can be made that is to bring a cluster about. -/
theorem able_of_drawn (isApply : context.event = .apply) (sound : c.Sound) :
    (b.care etcd kind).Able c ((b.care etcd kind).plan context c) := by
  have fit := b.fit_care etcd valid kind
  constructor
  · intro object mem
    exact able_creation drafted (Care.create_sublist.subset mem) (drawnAt drawn _)
  · intro object mem
    have wanted := fit.update_sublist.subset mem
    rw [Care.plan_apply isApply] at mem
    obtain ⟨other, among, sameKey⟩ := List.any_eq_true.1 (fit.found sound context object mem)
    have stored := b.found_stored sound among
    rw [slotOf_eq_of_key (of_decide_eq_true sameKey)] at stored
    refine able_renewal drafted wanted (drawnAt drawn _) ?_
    rw [stored]
    rfl

/-- What is stored after a change is what was stored before, or what is wanted. -/
theorem drawnFrom_made (sound : c.Sound)
    (made : (b.care etcd kind).Made c ((b.care etcd kind).plan context c) d) :
    d.DrawnFrom (objects ++ b.desired etcd kind) := by
  have fit := b.fit_care etcd valid kind
  have before := drawn.mono (List.subset_append_left objects (b.desired etcd kind))
  have placed {object : Object kind} {t : Treatment kind} (wanted : object ∈ b.desired etcd kind)
      (settles : (t.fate object (c.stored (slotOf object))).Settles object) {held : Object kind}
      (stored : d.stored (slotOf object) = some held)
      (done : t.Done c.nextVersion object (c.stored (slotOf object))
        (d.stored (slotOf object))) :
      ∃ origin ∈ objects ++ b.desired etcd kind, slotOf origin = slotOf object ∧
        held.declared = origin.recorded := by
    have befallen := done.befallen
    rw [stored] at befallen
    rcases settles.declared befallen with kept | written
    · exact before _ held kept
    · exact ⟨object, List.mem_append_right _ wanted, rfl, written⟩
  intro slot held stored
  by_cases renewed : slot ∈ slotsOf ((b.care etcd kind).plan context c).update
  · obtain ⟨object, mem, rfl⟩ := List.mem_map.1 renewed
    obtain ⟨notCreated, notDeleted⟩ := fit.update_fresh sound mem
    have wanted := fit.update_sublist.subset mem
    exact placed wanted (settles_renewal drafted wanted (drawnAt drawn _)) stored
      (made.renewed mem notCreated notDeleted)
  by_cases deleted : slot ∈ slotsOf ((b.care etcd kind).plan context c).delete
  · cases (made.deleted deleted renewed).symm.trans stored
  by_cases created : slot ∈ slotsOf ((b.care etcd kind).plan context c).create
  · obtain ⟨object, mem, rfl⟩ := List.mem_map.1 created
    have wanted : object ∈ b.desired etcd kind := Care.create_sublist.subset mem
    exact placed wanted (settles_creation drafted wanted (drawnAt drawn _)) stored
      (made.created mem deleted renewed)
  · rw [made.elsewhere created deleted renewed] at stored
    exact before slot held stored

end

end Blueprint

end GuestFleet
