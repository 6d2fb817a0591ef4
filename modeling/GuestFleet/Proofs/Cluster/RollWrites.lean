import GuestFleet.Proofs.Cluster.Care
import GuestFleet.Proofs.Store.Writes

/-!
# What a roll writes

What the handler of deployments writes, call by call: it replaces what was planned for the
deployments that were listed at the start, and that is one deployment at most, and none unless all
of them are available. This needs no assumption on what is stored or which failures are ordered.
-/

namespace GuestFleet

open Kube (Kind Object)
open Store (Collection Slot View Write slotOf)

/-! ## Replaced slots -/

namespace Store

/-- The slots that were replaced. -/
def replacedSlots (writes : List Write) : List Slot :=
  writes.filterMap fun write => if write.operation = .replace then some write.slot else none

/-- Replacements of objects, one after the other. -/
def replacements {kind : Kind} (objects : List (Object kind)) : List Write :=
  objects.map fun object => ⟨.replace, slotOf object⟩

/-- The replaced slots of two lists of writes are those of both. -/
theorem replacedSlots_append (late early : List Write) :
    replacedSlots (late ++ early) = replacedSlots late ++ replacedSlots early :=
  List.filterMap_append

/-- The replaced slots of writes in reverse are in reverse too. -/
theorem replacedSlots_reverse (writes : List Write) :
    replacedSlots writes.reverse = (replacedSlots writes).reverse :=
  List.filterMap_reverse

/-- Creating and deleting objects of a kind replaces none. -/
theorem guarded_replacedSlots (kind : Kind) (slots : List Slot) :
    Guarded (View.written kind).around
      (fun command => (∃ object, command = .create kind object) ∨
        ∃ space name grace, command = .delete kind space name grace)
      fun state => replacedSlots state.2 = slots := by
  rintro state command reply after holds allowed ⟨world, hazards, -, rfl, rfl, rfl⟩
  have holds : replacedSlots (writesIn kind world.log) = slots := holds
  rcases allowed with ⟨object, rfl⟩ | ⟨space, name, grace, rfl⟩
  · refine ⟨?_, trivial⟩
    show replacedSlots (writesIn kind (World.answer (.create kind object) world).2.log) = slots
    rw [World.answer, World.call_log, writesIn_cons, replacedSlots_append, holds, Call.write?]
    split_ifs <;> rfl
  · refine ⟨?_, trivial⟩
    show replacedSlots (writesIn kind (World.answer (.delete kind space name grace) world).2.log) =
      slots
    rw [World.answer, World.call_log, writesIn_cons, replacedSlots_append, holds, Call.write?]
    split_ifs <;> rfl

end Store

open Store (replacedSlots replacements)

/-! ## Phase by phase -/

/-- Before any deployment is replaced: what was written are creations and deletions, if there are
any to be made. -/
structure Unrolled (change : ChangeSet .deployment) (c : Collection .deployment)
    (writes : List Write) (now : Collection .deployment × List Write) : Prop where
  none : replacedSlots now.2 = replacedSlots writes
  idle : change.create = [] -> change.delete = [] ->
    now.2 = writes ∧ (change.update = [] -> c.Unwritten now.1)

/-- When all of a change was made, what was to be replaced was replaced, once. -/
structure RolledOut (change : ChangeSet .deployment) (c : Collection .deployment)
    (writes : List Write) (now : Collection .deployment × List Write) : Prop where
  replaced : replacedSlots now.2 = (change.update.map slotOf).reverse ++ replacedSlots writes
  alone : change.create = [] -> change.delete = [] ->
    now.2 = (replacements change.update).reverse ++ writes ∧
      (change.update = [] -> c.Unwritten now.1)

/-- Creating or deleting what is to be created or deleted replaces no deployment. -/
theorem Unrolled.ends {change : ChangeSet .deployment} {c : Collection .deployment}
    {writes : List Write} {now : Collection .deployment × List Write}
    (unrolled : Unrolled change c writes now) {request : Request Unit}
    (keeps : request.Keeps (View.written .deployment).around
      (fun now => replacedSlots now.2 = replacedSlots writes) fun _ => True)
    (busy : change.create = [] -> change.delete ≠ []) :
    request.Ends (View.written .deployment).around now
      (fun _ after => Unrolled change c writes after)
      fun _ after => Unrolled change c writes after := by
  refine Request.Ends.mono (keeps now unrolled.none) ?_ ?_
  · rintro _ after ⟨none, -⟩
    exact ⟨none, fun noCreation noDeletion => absurd noDeletion (busy noCreation)⟩
  · intro failure after none
    exact ⟨none, fun noCreation noDeletion => absurd noDeletion (busy noCreation)⟩

/-- Replacing the one deployment that is to be replaced rolls the change out, or fails without a
write. -/
theorem Unrolled.replaces {change : ChangeSet .deployment} {c : Collection .deployment}
    {writes : List Write} {now : Collection .deployment × List Write}
    (unrolled : Unrolled change c writes now) {deployment : Deployment}
    (single : change.update = [deployment]) :
    (Request.replaceAll change.update).Ends (View.written .deployment).around now
      (fun _ after => RolledOut change c writes after)
      fun _ after => Unrolled change c writes after := by
  obtain ⟨d, before⟩ := now
  obtain ⟨none, idle⟩ := unrolled
  have some : change.update ≠ [] := by
    rw [single]
    exact List.cons_ne_nil _ _
  rw [single]
  refine Request.ends_bind.2 (Request.ends_written_of_alone (Request.isCall_replace _)
    fun faults _ => Request.ends_replace_written_alone ?_)
  cases (({ d with faults := faults } : Collection .deployment).replace deployment).1 with
  | ok written =>
    refine Request.ends_pure.2 ⟨?_, fun noCreation noDeletion => ?_⟩
    · rw [single]
      exact congrArg (slotOf deployment :: ·) none
    · obtain ⟨rfl, -⟩ := idle noCreation noDeletion
      rw [single]
      exact ⟨rfl, fun nothing => absurd nothing (List.cons_ne_nil _ _)⟩
  | error failure =>
    refine ⟨none, fun noCreation noDeletion => ?_⟩
    exact ⟨(idle noCreation noDeletion).1, fun nothing => absurd nothing some⟩

namespace Resource

/-- No more than one deployment is to be rolled. -/
theorem nextRoll_eq_singleton {context : Context} {current desired : List Deployment}
    (some : nextRoll context current desired ≠ []) :
    ∃ deployment, nextRoll context current desired = [deployment] := by
  unfold nextRoll at some ⊢
  split_ifs at some ⊢ with available
  · cases candidates : rollCandidates context current desired with
    | nil =>
      rw [candidates] at some
      exact absurd rfl some
    | cons head rest => exact ⟨head, rfl⟩
  · exact absurd rfl some

/-- While a listed deployment is not available none is to be rolled. -/
theorem nextRoll_nil {context : Context} {current desired : List Deployment}
    {deployment : Deployment} (mem : deployment ∈ current)
    (unavailable : deployment.isAvailable = false) : nextRoll context current desired = [] := by
  refine if_neg fun available => ?_
  have here := List.all_eq_true.1 available deployment mem
  rw [unavailable] at here
  cases here

section

variable (b : Blueprint) (etcd : EtcdStorage) (valid : b.cluster.isValid = true)
  {context : Context} (isApply : context.event = .apply) (going : context.cancelled = false)
  (c : Collection .deployment) (writes : List Write)

include valid isApply going

/-- The phases of the deployments' resource, by what they write. -/
theorem provides_rolls :
    (deployments b.settings etcd b.cluster).Provides (View.written .deployment).around
      (fun _ now => replacedSlots now.2 = replacedSlots writes)
      (fun after now => after = context ∧ c.Unwritten now.1 ∧ now.2 = writes)
      (fun current after now => after = context ∧ c.Unwritten now.1 ∧ now.2 = writes ∧
        current = b.found .deployment c)
      (fun current desired after now => after = context ∧ c.Unwritten now.1 ∧ now.2 = writes ∧
        current = b.found .deployment c ∧ desired = b.desired etcd .deployment)
      (fun change after now => change = (b.care etcd .deployment).plan context c ∧
        after = context ∧ Unrolled change c writes now)
      (fun change after now => change = (b.care etcd .deployment).plan context c ∧
        after = context ∧ Unrolled change c writes now)
      (fun change after now => change = (b.care etcd .deployment).plan context c ∧
        after = context ∧ Unrolled change c writes now)
      fun _ now => RolledOut ((b.care etcd .deployment).plan context c) c writes now where
  reads := by
    refine Work.leads_ofRequest fun now _ state before => ?_
    obtain ⟨d, _⟩ := state
    obtain ⟨rfl, unwritten, rfl⟩ := before
    have later := unwritten.trans (.called (.inr rfl))
    refine Request.ends_written_of_alone (Request.isCall_list _ _ _) fun faults _ =>
      Request.ends_list_written_alone ?_
    rcases Store.Collection.list_cases { d with faults := faults } (some b.cluster.namespaceName)
      b.cluster.nodeSelector with ⟨fault, others, -, eq⟩ | ⟨-, eq⟩
    · rw [eq]
      exact ⟨rfl, fun _ => ⟨rfl, later, rfl⟩⟩
    · rw [eq]
      exact ⟨rfl, later, rfl, unwritten.alike.selected _ _⟩
  desires current := by
    rw [(cares_deployments b etcd valid).wants]
    refine Work.leads_pure ?_
    rintro after now - ⟨rfl, unwritten, same, found⟩
    exact ⟨rfl, unwritten, same, found, rfl⟩
  patches current desired := by
    rintro now state _ ⟨rfl, unwritten, same, rfl, rfl⟩
    refine Work.ends_bind.2 (Work.ends_getContext.2 (Work.ends_pure.2 ?_))
    have planned : (b.care etcd .deployment).plan now c =
        { create := Diff.created (b.found .deployment c) (b.desired etcd .deployment)
          delete := Diff.obsolete (b.found .deployment c) (b.desired etcd .deployment)
          update := nextRoll now (b.found .deployment c) (b.desired etcd .deployment) } :=
      Care.plan_apply isApply
    refine (landed_onward going).2 ⟨planned.symm, rfl, ?_, ?_⟩
    · rw [same]
    · exact fun _ _ => ⟨same, fun _ => unwritten⟩
  createsNothing _ _ _ _ chosen := chosen
  creates change some := by
    refine Work.leads_ofRequest fun now _ state before => ?_
    obtain ⟨chosen, rfl, unrolled⟩ := before
    have guarded := Store.guarded_replacedSlots .deployment (replacedSlots writes)
    have keeps : (Request.createAll change.create).Keeps (View.written .deployment).around
        (fun now => replacedSlots now.2 = replacedSlots writes) fun _ => True :=
      Request.keeps_createAll guarded fun object _ => .inl ⟨object, rfl⟩
    refine Request.Ends.mono (unrolled.ends keeps fun nothing => absurd nothing some) ?_ ?_
    · exact fun _ after later => ⟨chosen, rfl, later⟩
    · exact fun failure after later => ⟨later.none, fun _ => ⟨chosen, rfl, later⟩⟩
  deletesNothing _ _ _ _ created := created
  deletes change some := by
    refine Work.leads_ofRequest fun now _ state before => ?_
    obtain ⟨chosen, rfl, unrolled⟩ := before
    have guarded := Store.guarded_replacedSlots .deployment (replacedSlots writes)
    have keeps : (Request.deleteAll none change.delete).Keeps (View.written .deployment).around
        (fun now => replacedSlots now.2 = replacedSlots writes) fun _ => True :=
      Request.keeps_deleteAll guarded fun object _ => .inr ⟨_, _, _, rfl⟩
    refine Request.Ends.mono (unrolled.ends keeps fun _ => some) ?_ ?_
    · exact fun _ after later => ⟨chosen, rfl, later⟩
    · exact fun failure after later => ⟨later.none, fun _ => ⟨chosen, rfl, later⟩⟩
  updatesNothing := by
    rintro change after now nothing ⟨rfl, -, unrolled⟩
    refine ⟨?_, fun noCreation noDeletion => ?_⟩
    · rw [nothing]
      exact unrolled.none
    · obtain ⟨same, unwritten⟩ := unrolled.idle noCreation noDeletion
      rw [nothing]
      exact ⟨same, fun _ => unwritten nothing⟩
  updates change some := by
    refine Work.leads_ofRequest fun now _ state before => ?_
    obtain ⟨rfl, rfl, unrolled⟩ := before
    obtain ⟨deployment, single⟩ : ∃ deployment,
        ((b.care etcd .deployment).plan now c).update = [deployment] := by
      rw [Care.plan_apply isApply] at some ⊢
      exact nextRoll_eq_singleton some
    refine Request.Ends.mono (unrolled.replaces single) (fun _ after rolled => rolled) ?_
    exact fun failure after later => ⟨later.none, fun _ => ⟨rfl, rfl, later⟩⟩

/-- What a pass of the handler writes that ends well, and that it replaces nothing otherwise. -/
theorem rolls (policy : RetryPolicy) (scope : String) :
    (wrapped policy scope (deployments b.settings etcd b.cluster)).ensureCreated.Reaches
      (View.written .deployment).around
      (fun _ now => replacedSlots now.2 = replacedSlots writes)
      (fun _ now => RolledOut ((b.care etcd .deployment).plan context c) c writes now)
      context (c, writes) :=
  ((provides_rolls b etcd valid isApply going c writes).wrapped policy scope).ensureCreated going
    ⟨rfl, .refl, rfl⟩

end

end Resource

end GuestFleet
