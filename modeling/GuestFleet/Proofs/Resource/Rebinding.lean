import GuestFleet.Proofs.Resource.Treatments

/-!
# Binding again

A role binding with another role is taken away and created anew, so that its slot is empty for
a moment; a try that breaks off there is followed by one that finds the slot empty. Bindings
that keep their role are replaced at the end, all together.
-/

namespace GuestFleet

open Kube (Kind Object)
open Store (Collection Slot View slotOf)
open Store.Collection (Touched)

namespace Request

/-- A binding is written anew, in place of another one or after that was taken away. -/
def rebinding : Treatment .clusterRoleBinding where
  able _ _ := True
  fate binding _ := .written binding
  vacates := True

section

variable {binding : Object .clusterRoleBinding} {c : Collection .clusterRoleBinding} {first : Nat}
  (before : Option (Object .clusterRoleBinding))

/-- A binding whose slot is empty is written. -/
theorem ends_bindAnew (steady : c.Steady) (late : first ≤ c.nextVersion)
    (absent : c.stored (slotOf binding) = none) :
    (createAll [binding]).Ends (View.collection .clusterRoleBinding).around c
      (fun _ d => Touched [slotOf binding] c d ∧
        rebinding.Done first binding before (d.stored (slotOf binding)))
      fun _ d => Touched [slotOf binding] c d ∧
        rebinding.Begun first binding before (d.stored (slotOf binding)) ∧ c.faults ≠ [] := by
  have alone : Apart [binding] := List.nodup_singleton _
  have creates := treats_createAll alone first (fun _ => none) c steady late
  have untreated : creating.BegunAll first (fun _ => none) [binding] c := by
    intro other mem
    rw [List.mem_singleton.1 mem]
    exact .inl absent
  refine Ends.mono (creates untreated) ?_ ?_
  · rintro _ d ⟨touched, doneAll⟩
    have done := doneAll binding List.mem_cons_self
    exact ⟨touched, trivial, done.befallen⟩
  · rintro _ d ⟨touched, begunAll, faulty⟩
    refine ⟨touched, ?_, faulty fun _ _ => trivial⟩
    rcases begunAll binding List.mem_cons_self with same | done | ⟨never, -⟩
    · exact .inr (.inr ⟨trivial, same⟩)
    · exact .inr (.inl ⟨trivial, done.befallen⟩)
    · exact never.elim

variable {before}

/-- A binding is taken out of its slot, whichever object it is there. -/
theorem ends_unbind {current : Object .clusterRoleBinding} (steady : c.Steady)
    (slot : slotOf current = slotOf binding)
    (begun : rebinding.Begun first binding before (c.stored (slotOf binding))) :
    (deleteAll none [current]).Ends (View.collection .clusterRoleBinding).around c
      (fun _ d => Touched [slotOf binding] c d ∧ d.stored (slotOf binding) = none)
      fun _ d => Touched [slotOf binding] c d ∧
        rebinding.Begun first binding before (d.stored (slotOf binding)) ∧ c.faults ≠ [] := by
  have deletes := treats_deleteAll [current] 0 c.stored c steady (Nat.zero_le _) fun _ _ => .inl rfl
  have slots : slotsOf [current] = [slotOf binding] := congrArg (fun slot => [slot]) slot
  rw [slots] at deletes
  refine Ends.mono deletes ?_ ?_
  · rintro _ d ⟨touched, doneAll⟩
    have done := doneAll current List.mem_cons_self
    rw [slot] at done
    exact ⟨touched, done.befallen⟩
  · rintro _ d ⟨touched, begunAll, faulty⟩
    refine ⟨touched, ?_, faulty fun _ _ => trivial⟩
    have left := begunAll current List.mem_cons_self
    rw [slot] at left
    rcases left with same | done | ⟨never, -⟩
    · rwa [same]
    · exact .inr (.inr ⟨trivial, done.befallen⟩)
    · exact never.elim

end

section

variable {first : Nat} {before : Slot -> Option (Object .clusterRoleBinding)}

/-- Settling has treated all bindings but those that it hands out, which are in their slots. -/
structure SettledBut (first : Nat) (before : Slot -> Option (Object .clusterRoleBinding))
    (bindings remaining : List (Object .clusterRoleBinding)) (c : Collection .clusterRoleBinding) :
    Prop where
  within : remaining.Sublist bindings
  left : ∀ binding ∈ remaining, (c.stored (slotOf binding)).isSome = true ∧
    rebinding.Begun first binding (before (slotOf binding)) (c.stored (slotOf binding))
  done : ∀ binding ∈ bindings, binding ∉ remaining ->
    rebinding.Done first binding (before (slotOf binding)) (c.stored (slotOf binding))

/-- What settling bindings has to come to from the collection `c`, where `since` is the
collection from which the settling was begun. -/
def EndsSettled (first : Nat) (before : Slot -> Option (Object .clusterRoleBinding))
    (bindings : List (Object .clusterRoleBinding)) (since c : Collection .clusterRoleBinding)
    (request : Request (List (Object .clusterRoleBinding))) : Prop :=
  request.Ends (View.collection .clusterRoleBinding).around c
    (fun remaining d => Touched (slotsOf bindings) since d ∧
      SettledBut first before bindings remaining d)
    fun _ d => Touched (slotsOf bindings) since d ∧ rebinding.BegunAll first before bindings d ∧
      since.faults ≠ []

variable {binding : Object .clusterRoleBinding}
  {bindings remaining : List (Object .clusterRoleBinding)}
  {c d : Collection .clusterRoleBinding} (fresh : slotOf binding ∉ slotsOf bindings)

include fresh

/-- Bindings that are settled after a treated one are settled together with it. -/
theorem SettledBut.cons_done (settled : SettledBut first before bindings remaining d)
    (touched : Touched (slotsOf bindings) c d)
    (done : rebinding.Done first binding (before (slotOf binding)) (c.stored (slotOf binding))) :
    SettledBut first before (binding :: bindings) remaining d := by
  refine ⟨settled.within.cons _, settled.left, ?_⟩
  intro other mem notLeft
  rcases List.mem_cons.1 mem with rfl | among
  · rwa [touched.elsewhere _ fresh]
  · exact settled.done other among notLeft

/-- Bindings that are settled after one that is only to be replaced. -/
theorem SettledBut.cons_left (settled : SettledBut first before bindings remaining d)
    (touched : Touched (slotsOf bindings) c d) (held : (c.stored (slotOf binding)).isSome = true)
    (begun : rebinding.Begun first binding (before (slotOf binding))
      (c.stored (slotOf binding))) :
    SettledBut first before (binding :: bindings) (binding :: remaining) d := by
  have unchanged := touched.elsewhere _ fresh
  refine ⟨settled.within.cons_cons _, ?_, ?_⟩
  · intro other mem
    rcases List.mem_cons.1 mem with rfl | among
    · rw [unchanged]
      exact ⟨held, begun⟩
    · exact settled.left other among
  · intro other mem notLeft
    rcases List.mem_cons.1 mem with rfl | among
    · exact absurd List.mem_cons_self notLeft
    · exact settled.done other among fun left => notLeft (List.mem_cons_of_mem _ left)

end

section

variable {first : Nat} {before : Slot -> Option (Object .clusterRoleBinding)}
  {binding : Object .clusterRoleBinding} {bindings : List (Object .clusterRoleBinding)}
  {c d : Collection .clusterRoleBinding}

/-- What settling comes to from a collection it comes to from an earlier one. -/
theorem EndsSettled.after {request : Request (List (Object .clusterRoleBinding))}
    (ends : EndsSettled first before bindings d d request)
    (touched : Touched (slotsOf bindings) c d) : EndsSettled first before bindings c d request := by
  refine Ends.mono ends ?_ ?_
  · rintro remaining e ⟨later, settled⟩
    exact ⟨touched.trans later, settled⟩
  · rintro _ e ⟨later, begun, some⟩
    exact ⟨touched.trans later, begun, fun none => some (touched.unfailing none)⟩

/-- A binding whose slot is empty is written, and then the others are settled. -/
theorem endsSettled_bindAnew (apart : Apart (binding :: bindings)) (steady : c.Steady)
    (late : first ≤ c.nextVersion) (absent : c.stored (slotOf binding) = none)
    (begun : rebinding.BegunAll first before bindings c)
    (settles : ∀ d : Collection .clusterRoleBinding, d.Steady -> first ≤ d.nextVersion ->
      rebinding.BegunAll first before bindings d ->
        EndsSettled first before bindings d d (Resource.settleBindings bindings)) :
    EndsSettled first before (binding :: bindings) c c
      (createAll [binding] >>= fun _ => Resource.settleBindings bindings) := by
  have fresh : slotOf binding ∉ slotsOf bindings := (List.nodup_cons.1 apart).1
  have uniform := rebinding.uniform_of_apart apart
  have begunLater : ∀ d : Collection .clusterRoleBinding, Touched [slotOf binding] c d ->
      rebinding.BegunAll first before bindings d := by
    intro d touched other mem
    have ne : slotOf other ∉ [slotOf binding] := by
      intro here
      rw [← List.mem_singleton.1 here] at fresh
      exact fresh (List.mem_map_of_mem mem)
    rw [touched.elsewhere _ ne]
    exact begun other mem
  have anew := ends_bindAnew (before (slotOf binding)) steady late absent
  refine ends_bind.2 (Ends.mono anew ?_ ?_)
  · rintro _ d ⟨touched, done⟩
    refine Ends.mono (settles d touched.steady (late.trans touched.later) (begunLater d touched))
      ?_ ?_
    · rintro remaining e ⟨later, settled⟩
      exact ⟨(touched.mono slotsOf_head).trans (later.mono slotsOf_tail),
        settled.cons_done fresh later done⟩
    · rintro _ e ⟨later, left, some⟩
      exact ⟨(touched.mono slotsOf_head).trans (later.mono slotsOf_tail),
        left.cons uniform (.inr (.inl done)) later, fun none => some (touched.unfailing none)⟩
  · rintro _ d ⟨touched, left, some⟩
    refine ⟨touched.mono slotsOf_head, ?_, some⟩
    exact (begunLater d touched).cons uniform left (.refl touched.steady)

/-- Settling treats every binding but those that are only to be replaced. The induction is on
the bindings; what a single one needs is decided by what is in its slot. -/
theorem endsSettled_settleBindings (apart : Apart bindings)
    (unspaced : ∀ binding ∈ bindings, binding.metadata.namespaceName = none)
    (steady : c.Steady) (late : first ≤ c.nextVersion)
    (begun : rebinding.BegunAll first before bindings c) :
    EndsSettled first before bindings c c (Resource.settleBindings bindings) := by
  induction bindings generalizing c with
  | nil =>
    refine ends_pure.2 ⟨.refl steady, List.Sublist.refl [], ?_, ?_⟩
    · exact fun _ mem => absurd mem List.not_mem_nil
    · exact fun _ mem => absurd mem List.not_mem_nil
  | cons binding bindings ih =>
    obtain ⟨fresh, apartTail⟩ := List.nodup_cons.1 apart
    have settles : ∀ d : Collection .clusterRoleBinding, d.Steady -> first ≤ d.nextVersion ->
        rebinding.BegunAll first before bindings d ->
          EndsSettled first before bindings d d (Resource.settleBindings bindings) :=
      fun d => ih apartTail fun other mem => unspaced other (List.mem_cons_of_mem _ mem)
    refine ends_bind.2 (Ends.mono (reads_getOptional steady none binding.name) ?_ ?_)
    · rintro found d ⟨unwritten, rfl⟩
      have touched : Touched (slotsOf (binding :: bindings)) c d := .of_unwritten steady unwritten
      have slot : c.stored (.make none binding.name) = d.stored (slotOf binding) := by
        rw [slotOf, unspaced binding List.mem_cons_self]
        exact (unwritten.alike.stored _).symm
      have begunHere : rebinding.BegunAll first before (binding :: bindings) d := by
        intro other mem
        rw [unwritten.alike.stored]
        exact begun other mem
      have begunTail : rebinding.BegunAll first before bindings d :=
        fun other mem => begunHere other (List.mem_cons_of_mem _ mem)
      have lateHere := late.trans touched.later
      refine EndsSettled.after (d := d) ?_ touched
      rw [slot]
      cases stored : d.stored (slotOf binding) with
      | none =>
        exact endsSettled_bindAnew apart touched.steady lateHere stored begunTail settles
      | some current =>
        have sameSlot := touched.steady.sound.slotOf_stored stored
        have own := begunHere binding List.mem_cons_self
        show EndsSettled _ _ _ _ _ (if _ then _ else _)
        split_ifs with anotherRole
        · refine ends_bind.2 (Ends.mono (ends_unbind touched.steady sameSlot own) ?_ ?_)
          · rintro _ e ⟨emptied, absent⟩
            have begunLater := begunHere.touched (rebinding.uniform_of_apart apart)
              List.mem_cons_self emptied (.inr (.inr ⟨trivial, absent⟩))
            refine EndsSettled.after ?_ (emptied.mono slotsOf_head)
            exact endsSettled_bindAnew apart emptied.steady (lateHere.trans emptied.later) absent
              (fun other mem => begunLater other (List.mem_cons_of_mem _ mem)) settles
          · rintro _ e ⟨emptied, left, some⟩
            refine ⟨emptied.mono slotsOf_head, ?_, some⟩
            exact begunHere.touched (rebinding.uniform_of_apart apart) List.mem_cons_self emptied
              left
        · refine ends_bind.2 (Ends.mono (settles d touched.steady lateHere begunTail) ?_ ?_)
          · rintro remaining e ⟨later, settled⟩
            refine ends_pure.2 ⟨later.mono slotsOf_tail, settled.cons_left fresh later ?_ own⟩
            rw [stored]
            rfl
          · rintro _ e ⟨later, left, some⟩
            exact ⟨later.mono slotsOf_tail, left.cons (rebinding.uniform_of_apart apart) own later,
              some⟩
    · rintro failure d ⟨unwritten, some, -⟩
      refine ⟨.of_unwritten steady unwritten, fun other mem => ?_, some⟩
      rw [unwritten.alike.stored]
      exact begun other mem

end

/-- Bindings are settled, and what is left of them is replaced. -/
theorem treats_updateBindings {bindings : List (Object .clusterRoleBinding)}
    (apart : Apart bindings)
    (unspaced : ∀ binding ∈ bindings, binding.metadata.namespaceName = none)
    (unversioned : ∀ binding ∈ bindings, binding.metadata.resourceVersion = none) :
    (Resource.updateBindings bindings).Treats rebinding bindings := by
  intro first before c steady late begun
  have settles := endsSettled_settleBindings apart unspaced steady late begun
  refine ends_bind.2 (Ends.mono settles ?_ ?_)
  · rintro remaining d ⟨touched, settled⟩
    have slots : slotsOf remaining ⊆ slotsOf bindings := (settled.within.map slotOf).subset
    have others : ∀ binding ∈ bindings, binding ∉ remaining ->
        slotOf binding ∉ slotsOf remaining := by
      intro binding mem notLeft here
      obtain ⟨other, left, same⟩ := List.mem_map.1 here
      obtain rfl := Apart.eq apart (settled.within.subset left) mem same
      exact notLeft left
    have replaces := treats_replaceAll (Apart.sublist apart settled.within)
      (fun binding left => unversioned binding (settled.within.subset left)) first d.stored d
      touched.steady (late.trans touched.later) fun _ _ => .inl rfl
    refine Ends.mono replaces ?_ ?_
    · rintro _ e ⟨later, doneAll⟩
      refine ⟨touched.trans (later.mono slots), fun binding mem => ?_⟩
      by_cases left : binding ∈ remaining
      · exact ⟨trivial, (doneAll binding left).befallen⟩
      · rw [later.elsewhere _ (others binding mem left)]
        exact settled.done binding mem left
    · rintro _ e ⟨later, begunAll, faulty⟩
      refine ⟨touched.trans (later.mono slots), fun binding mem => ?_, fun _ none => ?_⟩
      · by_cases left : binding ∈ remaining
        · rcases begunAll binding left with same | done | ⟨never, -⟩
          · rw [same]
            exact (settled.left binding left).2
          · exact .inr (.inl ⟨trivial, done.befallen⟩)
          · exact never.elim
        · rw [later.elsewhere _ (others binding mem left)]
          exact .inr (.inl (settled.done binding mem left))
      · exact faulty (fun binding left => (settled.left binding left).1) (touched.unfailing none)
  · rintro _ d ⟨touched, left, some⟩
    exact ⟨touched, left, fun _ => some⟩

end Request

end GuestFleet
