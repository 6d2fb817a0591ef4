import GuestFleet.Proofs.Reconcile.Passes
import GuestFleet.Proofs.Store.Requests

/-!
# Draining pods

What becomes of a pod that is drained while calls fail now and then. Releasing the pod
writes it, so that the copy which the next try starts from is out of date: a try that
fails after the release cannot be made up for, because the next one takes its own release
for a write of others and leaves the pod alone.
-/

namespace GuestFleet.Resource

open Store (Collection Fault Operation View World slotOf)
open Store.Collection (takeFault)

/-- A failure that is worth another try: too many requests, or a fault of the server. -/
def IsTransient (fault : Fault) : Prop := fault.code = 429 ∨ 500 ≤ fault.code

/-- The pod is gone, and one deletion was made, of the pod and without grace. -/
def Drained (pod : Pod) (before after : Collection .pod) : Prop :=
  after.stored (slotOf pod) = none ∧
    after.deletions = (pod.name, some 0) :: before.deletions

/-- The pod is still there without the finalizer, and no deletion was made. -/
def Stranded (pod : Pod) (before after : Collection .pod) : Prop :=
  (∃ left, after.stored (slotOf pod) = some left ∧ hasDrainingFinalizer left = false) ∧
    after.deletions = before.deletions

/-- No pod is drained and stranded. -/
theorem Stranded.not_drained {pod : Pod} {before after : Collection .pod}
    (stranded : Stranded pod before after) : ¬ Drained pod before after := by
  rintro ⟨gone, -⟩
  obtain ⟨⟨left, stays, -⟩, -⟩ := stranded
  rw [gone] at stays
  cases stays

section

/-- A transient failure is not taken for an absent object. -/
theorem IsTransient.not_absent {fault : Fault} (transient : IsTransient fault) :
    fault.code ≠ 404 := by
  rcases transient with code | code
  · omega
  · omega

/-- A transient failure is not taken for a conflict. -/
theorem IsTransient.not_conflict {fault : Fault} (transient : IsTransient fault) :
    ¬ (fault.code = 409 ∧ fault.reason = "Conflict") := by
  rintro ⟨conflict, -⟩
  rcases transient with code | code
  · omega
  · omega

/-- A released pod is without the finalizer. -/
theorem released_hasFinalizer (pod : Pod) : hasDrainingFinalizer (released pod) = false := by
  unfold hasDrainingFinalizer Kube.Metadata.hasFinalizer released
  cases pod.metadata.finalizers with
  | none => rfl
  | some finalizers => simp

variable {pod : Pod} {before c : Collection .pod}

/-- Deletions, and failures to come, are those that a drain started with. -/
structure Undisturbed (before c : Collection .pod) : Prop where
  deletions : c.deletions = before.deletions
  transient : ∀ fault ∈ c.faults, IsTransient fault
  awaits : c.Awaits .delete <-> before.Awaits .delete

/-- The pod is as the drain has read it. -/
structure Waiting (pod : Pod) (before c : Collection .pod) : Prop extends
    Undisturbed before c where
  sound : c.Sound
  stored : c.stored (slotOf pod) = some pod

/-- The pod has lost the finalizer to a write, which the copy that was read knows nothing
of. -/
def Freed (pod : Pod) (c : Collection .pod) : Prop :=
  ∃ left, c.stored (slotOf pod) = some left ∧ hasDrainingFinalizer left = false ∧
    Collection.mayReplace pod left = false

/-- The drain has written the pod, and its deletion is the next call. -/
structure Released (pod : Pod) (before c : Collection .pod) : Prop extends
    Undisturbed before c where
  freed : Freed pod c

/-- The pod was written by a try that failed later, because a deletion was to fail. -/
structure Abandoned (pod : Pod) (before c : Collection .pod) : Prop where
  deletions : c.deletions = before.deletions
  transient : ∀ fault ∈ c.faults, IsTransient fault
  freed : Freed pod c
  awaited : before.Awaits .delete

/-- A call leaves failures and deletions as they were. -/
theorem Undisturbed.called {operation : Operation} (undisturbed : Undisturbed before c) :
    Undisturbed before (c.called operation) :=
  ⟨undisturbed.deletions, undisturbed.transient, undisturbed.awaits⟩

/-- So does a write. -/
theorem Undisturbed.insert (undisturbed : Undisturbed before c) (object : Pod) :
    Undisturbed before (c.insert object) :=
  ⟨undisturbed.deletions, undisturbed.transient, undisturbed.awaits⟩

/-- So does a failure of another operation than a deletion. -/
theorem Undisturbed.spent {operation : Operation} {fault : Fault} {others : List Fault}
    (undisturbed : Undisturbed before c)
    (taken : takeFault operation c.faults = some (fault, others))
    (ne : operation ≠ .delete) : Undisturbed before (c.spent operation others) where
  deletions := undisturbed.deletions
  transient left mem :=
    undisturbed.transient left ((Collection.sublist_of_takeFault taken).subset mem)
  awaits := (Collection.awaits_spent taken ne).trans undisturbed.awaits

/-- A pod that waits is still there after a call. -/
theorem Waiting.called {operation : Operation} (waiting : Waiting pod before c) :
    Waiting pod before (c.called operation) :=
  ⟨waiting.toUndisturbed.called, Collection.alike_called.sound waiting.sound, waiting.stored⟩

/-- And it is still there after a failure of another operation than a deletion. -/
theorem Waiting.spent {operation : Operation} {fault : Fault} {others : List Fault}
    (waiting : Waiting pod before c)
    (taken : takeFault operation c.faults = some (fault, others))
    (ne : operation ≠ .delete) : Waiting pod before (c.spent operation others) :=
  ⟨waiting.toUndisturbed.spent taken ne, Collection.alike_spent.sound waiting.sound,
    waiting.stored⟩

/-- A pod that was abandoned stays so, whatever fails next. -/
theorem Abandoned.spent {operation : Operation} {fault : Fault} {others : List Fault}
    (abandoned : Abandoned pod before c)
    (taken : takeFault operation c.faults = some (fault, others)) :
    Abandoned pod before (c.spent operation others) :=
  ⟨abandoned.deletions, fun left mem =>
    abandoned.transient left ((Collection.sublist_of_takeFault taken).subset mem),
    abandoned.freed, abandoned.awaited⟩

/-! ## One try of a drain -/

/-- The pod is read as it is stored. -/
theorem Waiting.read (waiting : Waiting pod before c) :
    (Request.getExisting .pod pod.metadata.namespaceName [pod.name]).Ends
      (View.collection .pod).alone c (fun current c => current = [pod] ∧ Waiting pod before c)
      fun _ c => Waiting pod before c := by
  refine Request.ends_bind.2 (Request.ends_getOptional_alone ?_ ?_ ?_)
  · intro _ object found
    have same : object = pod := Option.some.inj (found.symm.trans waiting.stored)
    exact ⟨congrArg (fun object => [object]) same, waiting.called⟩
  · intro _ absent
    cases absent.symm.trans waiting.stored
  · intro fault others taken
    have transient := waiting.transient fault (Collection.mem_of_takeFault taken)
    rw [if_neg transient.not_absent]
    exact waiting.spent taken (by decide)

/-- How a release ends, when only transient failures were ordered. -/
theorem ends_release {ok : Bool -> Collection .pod -> Prop}
    {fail : Failure -> Collection .pod -> Prop} (draining : hasDrainingFinalizer pod = true)
    (freed : ∀ existing, c.stored (slotOf pod) = some existing ->
      Collection.mayReplace pod existing = true ->
      ok true ((c.called .replace).insert (released pod)))
    (refused : ∀ existing, c.stored (slotOf pod) = some existing ->
      Collection.mayReplace pod existing = false -> ok false (c.called .replace))
    (absent : c.stored (slotOf pod) = none -> ok true (c.called .replace))
    (faulty : ∀ fault others, takeFault .replace c.faults = some (fault, others) ->
      IsTransient fault ∧ ∀ failure, fail failure (c.spent .replace others)) :
    (release pod).Ends (View.collection .pod).alone c ok fail := by
  unfold release
  rw [if_pos draining]
  refine Request.ends_bind.2 (Request.ends_attempt.2 (Request.ends_replaceOne_alone ?_ ?_ ?_ ?_))
  · intro _ existing found may
    exact Request.ends_pure.2 (freed existing found may)
  · intro _ existing found refusal
    exact Request.ends_pure.2 (refused existing found refusal)
  · intro _ gone
    exact Request.ends_pure.2 (absent gone)
  · intro fault others taken
    obtain ⟨transient, failed⟩ := faulty fault others taken
    show Request.Ends _ (if Failure.isConflict _ then _ else if Failure.isNotFound _ then _ else _)
      _ ok fail
    rw [if_neg (mt Failure.isConflict_injected.1 transient.not_conflict),
      if_neg (mt Failure.isNotFound_injected.1 transient.not_absent)]
    exact Request.ends_throw.2 (failed _)

/-- The first release writes the pod. -/
theorem Waiting.release (waiting : Waiting pod before c)
    (draining : hasDrainingFinalizer pod = true) :
    (release pod).Ends (View.collection .pod).alone c
      (fun free c => free = true ∧ Released pod before c) fun _ c => Waiting pod before c := by
  refine ends_release draining ?_ ?_ ?_ ?_
  · intro existing found may
    refine ⟨rfl, waiting.toUndisturbed.called.insert _, ?_⟩
    refine ⟨_, (Collection.stored_insert _ _ _).trans (if_pos rfl), released_hasFinalizer pod, ?_⟩
    exact (Collection.alike_called.sound waiting.sound).not_mayReplace waiting.stored _
  · intro existing found refused
    have same : existing = pod := Option.some.inj (found.symm.trans waiting.stored)
    rw [same, Collection.mayReplace_own rfl] at refused
    cases refused
  · intro absent
    cases absent.symm.trans waiting.stored
  · intro fault others taken
    refine ⟨waiting.transient fault (Collection.mem_of_takeFault taken), fun _ => ?_⟩
    exact waiting.spent taken (by decide)

/-- A later release is refused, because an earlier one has written the pod. -/
theorem Abandoned.release (abandoned : Abandoned pod before c)
    (draining : hasDrainingFinalizer pod = true) :
    (release pod).Ends (View.collection .pod).alone c
      (fun free c => free = false ∧ Abandoned pod before c)
      fun _ c => Abandoned pod before c := by
  obtain ⟨left, stored, -, refusal⟩ := abandoned.freed
  refine ends_release draining ?_ ?_ ?_ ?_
  · intro existing found may
    have same : existing = left := Option.some.inj (found.symm.trans stored)
    rw [same, refusal] at may
    cases may
  · intro existing found refused
    exact ⟨rfl, abandoned.deletions, abandoned.transient, abandoned.freed, abandoned.awaited⟩
  · intro absent
    cases absent.symm.trans stored
  · intro fault others taken
    exact ⟨abandoned.transient fault (Collection.mem_of_takeFault taken), fun _ =>
      abandoned.spent taken⟩

/-- What becomes of the pod when a drain has ended well. -/
def DrainEnded (pod : Pod) (before after : Collection .pod) : Prop :=
  (before.Awaits .delete -> Stranded pod before after) ∧
    (¬ before.Awaits .delete -> Drained pod before after)

/-- The deletion is made unless a failure was ordered for it. -/
theorem Released.delete (released : Released pod before c) :
    (Request.deleteAll (some 0) [pod]).Ends (View.collection .pod).alone c
      (fun _ c => DrainEnded pod before c) fun _ c => Abandoned pod before c := by
  obtain ⟨left, stored, unfinalized, refusal⟩ := released.freed
  refine Request.ends_bind.2 (Request.ends_deleteOne_alone ?_ ?_ ?_)
  · intro free existing found
    refine Request.ends_pure.2 ⟨?_, ?_⟩
    · intro awaits
      exact absurd (released.awaits.2 awaits) free
    · intro _
      exact ⟨(Collection.stored_erase _ _ _).trans (if_pos rfl),
        congrArg ((pod.name, some 0) :: ·) released.deletions⟩
  · intro _ absent
    cases absent.symm.trans stored
  · intro fault others taken
    have transient := released.transient fault (Collection.mem_of_takeFault taken)
    rw [if_neg transient.not_absent]
    refine ⟨released.deletions, ?_, released.freed, ?_⟩
    · intro fault mem
      exact released.transient fault ((Collection.sublist_of_takeFault taken).subset mem)
    · exact released.awaits.1 (Collection.awaits_of_takeFault taken)

/-- One try of a drain, the first or a later one. -/
theorem leads_drain {rest : Collection .pod -> Prop} (resting : ∀ c, rest c)
    (draining : hasDrainingFinalizer pod = true) :
    Request.Leads (View.collection .pod).alone rest
      (fun c => Waiting pod before c ∨ Abandoned pod before c) (drain [pod])
      fun _ c => DrainEnded pod before c := by
  rintro c (waiting | abandoned)
  · refine Request.ends_bind.2 (Request.Ends.mono (waiting.release draining) ?_ ?_)
    · rintro free c ⟨rfl, released⟩
      refine Request.ends_bind.2 (Request.Ends.mono released.delete ?_ ?_)
      · intro _ c settled
        exact Request.ends_pure.2 settled
      · intro failure c abandoned
        exact ⟨resting c, fun _ => .inr abandoned⟩
    · intro failure c waiting
      exact ⟨resting c, fun _ => .inl waiting⟩
  · refine Request.ends_bind.2 (Request.Ends.mono (abandoned.release draining) ?_ ?_)
    · rintro free c ⟨rfl, abandoned⟩
      obtain ⟨left, stored, unfinalized, -⟩ := abandoned.freed
      refine Request.ends_pure.2 ⟨?_, ?_⟩
      · intro _
        exact ⟨⟨left, stored, unfinalized⟩, abandoned.deletions⟩
      · intro free
        exact absurd abandoned.awaited free
    · intro failure c abandoned
      exact ⟨resting c, fun _ => .inr abandoned⟩

/-- From one phase of a drain to the next. -/
theorem removes_pod (before : Collection .pod) {event : Pod} (same : event.key = pod.key)
    (draining : hasDrainingFinalizer pod = true) :
    (pods event).Removes (View.collection .pod).alone (fun context _ => context.cancelled = false)
      (fun _ c => Waiting pod before c)
      (fun current _ c => current = [pod] ∧ Waiting pod before c)
      (fun current desired _ c => (current = [pod] ∧ desired = [event]) ∧ Waiting pod before c)
      (fun change _ c => change.delete = [pod] ∧ (Waiting pod before c ∨ Abandoned pod before c))
      (fun _ c => DrainEnded pod before c) where
  reads := by
    obtain ⟨spaces, names⟩ : event.metadata.namespaceName = pod.metadata.namespaceName ∧
        event.name = pod.name := by simpa [Kube.Object.key] using same
    refine Work.leads_ofRequest fun context going c waiting => ?_
    rw [spaces, names]
    refine Request.Ends.mono waiting.read (fun _ _ read => read) ?_
    intro failure c waiting
    exact ⟨going, fun _ => waiting⟩
  desires current := by
    refine Work.leads_pure fun context c going holds => ?_
    exact ⟨⟨holds.1, rfl⟩, holds.2⟩
  patches current desired := by
    refine Work.leads_pure fun context c going holds => ?_
    obtain ⟨⟨rfl, rfl⟩, waiting⟩ := holds
    have wanted : Diff.hasKey [event] pod.key = true := by simp [Diff.hasKey, same]
    refine ⟨?_, .inl waiting⟩
    refine List.filter_eq_self.2 fun object mem => ?_
    rw [List.mem_singleton.1 mem]
    exact wanted
  deletesNothing := by
    rintro change context c none ⟨some, -⟩
    cases none.symm.trans some
  deletes change _ := by
    refine Work.leads_ofRequest fun context going c holds => ?_
    obtain ⟨chosen, holds⟩ := holds
    rw [chosen]
    refine Request.Ends.mono (leads_drain (fun _ => going) draining c holds)
      (fun _ _ settled => settled) ?_
    rintro failure c ⟨resting, again⟩
    exact ⟨resting, fun retryable => ⟨rfl, again retryable⟩⟩

end

/-- A drain that ends well has carried the pod off if, and only if, no failure was ordered
for a deletion. Otherwise the release has made the pod's own copy out of date, the next try
takes that for a write of others, and the pod is left without a finalizer and without a
deletion. -/
theorem overPod_delete_drained_iff (config : Config) (event pod : Pod) (world : World)
    (same : event.key = pod.key) (sound : (world.collections.get .pod).Sound)
    (stored : (world.collections.get .pod).stored (slotOf pod) = some pod)
    (draining : hasDrainingFinalizer pod = true)
    (transient : ∀ fault ∈ (world.collections.get .pod).faults, IsTransient fault)
    {outcome : Outcome}
    (ended : (world.run (Pass.overPod config event .delete).run).1 = .ok outcome) :
    (Drained pod (world.collections.get .pod)
        ((world.run (Pass.overPod config event .delete).run).2.collections.get .pod) <->
      ¬ (world.collections.get .pod).Awaits .delete) ∧
    ((world.collections.get .pod).Awaits .delete ->
      Stranded pod (world.collections.get .pod)
        ((world.run (Pass.overPod config event .delete).run).2.collections.get .pod)) := by
  have waiting : Waiting pod (world.collections.get .pod) (world.collections.get .pod) :=
    ⟨⟨rfl, transient, Iff.rfl⟩, sound, stored⟩
  have removes := (removes_pod (world.collections.get .pod) same draining).wrapped
    config.retry (podScope event)
  have handled : Work.Reaches (View.collection .pod).alone
      (fun context _ => context.cancelled = false)
      (Pass.handle .delete (wrapped config.retry (podScope event) (pods event)))
      (fun _ c => DrainEnded pod (world.collections.get .pod) c) { event := .delete }
      (world.collections.get .pod) := removes.ensureDeleted rfl waiting
  have settled : DrainEnded pod (world.collections.get .pod)
      ((world.run (Pass.overPod config event .delete).run).2.collections.get .pod) := by
    have atEnd := (View.collection .pod).ok_of_ends_alone (Pass.run_single handled) ended
    cases outcome with
    | completed =>
      obtain ⟨-, settled⟩ := atEnd
      exact settled
    | cancelled resource =>
      obtain ⟨context, stopped, going⟩ := atEnd
      cases stopped.symm.trans going
  obtain ⟨stranded, drained⟩ := settled
  refine ⟨⟨?_, drained⟩, stranded⟩
  intro gone awaits
  exact (stranded awaits).not_drained gone

/-- The pod of a master that waits for the operator, as its collection keeps it. -/
def masterPod : Pod :=
  ⟨{ name := some "master-al9qy-m1", namespaceName := some "al9qy",
     finalizers := some [drainingFinalizer], resourceVersion := some "1" }, ()⟩

/-- A world with that pod, where the next deletion of a pod will fail. -/
def deletionFails : World :=
  (({} : World).insert masterPod).failNext .pod 1 ⟨.delete, 500, "InternalError"⟩

/-- One failed deletion strands the pod of a pass that ends well. -/
theorem overPod_delete_strands :
    (deletionFails.run (Pass.overPod {} masterPod .delete).run).1 = .ok .completed ∧
    Stranded masterPod (deletionFails.collections.get .pod)
      ((deletionFails.run (Pass.overPod {} masterPod .delete).run).2.collections.get .pod) := by
  have ended : (deletionFails.run (Pass.overPod {} masterPod .delete).run).1 = .ok .completed :=
    rfl
  have sound : (deletionFails.collections.get .pod).Sound :=
    (Collection.sound_empty.insert masterPod).congr rfl rfl
  have transient : ∀ fault ∈ (deletionFails.collections.get .pod).faults, IsTransient fault := by
    intro fault mem
    rw [List.mem_singleton.1 mem]
    exact .inr (Nat.le_refl 500)
  have awaits : (deletionFails.collections.get .pod).Awaits .delete :=
    ⟨⟨.delete, 500, "InternalError"⟩, List.mem_singleton.2 rfl, rfl⟩
  exact ⟨ended, (overPod_delete_drained_iff {} masterPod masterPod deletionFails rfl sound
    (by decide) (by decide) transient ended).2 awaits⟩

end GuestFleet.Resource
