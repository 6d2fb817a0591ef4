import GuestFleet.Proofs.Resource.Underway
import GuestFleet.Resource.Access

/-!
# Requests that make progress

What each request for many objects takes off the lists of what is missing, stale or in
surplus when it ends well. When it fails, nothing has been added to them.
-/

namespace GuestFleet

open Kube (Kind Object)
open Store (Collection Slot View slotOf)

/-- What is left of a property when some items are done. -/
abbrev Without (p : α -> Prop) (items : List α) : α -> Prop := fun item => p item ∧ item ∉ items

section

variable {p : α -> Prop} {first item : α} {items : List α}

/-- Where nothing is done everything is left. -/
theorem without_nil (holds : p item) : Without p [] item := ⟨holds, List.not_mem_nil⟩

/-- What is not the first item is left when that is done. -/
theorem without_single (holds : p item ∧ item ≠ first) : Without p [first] item := by
  refine ⟨holds.1, fun mem => ?_⟩
  exact holds.2 (List.mem_singleton.1 mem)

/-- What is left when first one item and then the others are done is left of all of them. -/
theorem without_cons (holds : Without (Without p [first]) items item) :
    Without p (first :: items) item := by
  obtain ⟨⟨holds, ne⟩, notAmong⟩ := holds
  refine ⟨holds, fun mem => ?_⟩
  rcases List.mem_cons.1 mem with rfl | mem
  · exact ne List.mem_cons_self
  · exact notAmong mem

end

namespace Request

variable {kind : Kind} {sees : Slot -> Prop} {desired : List (Object kind)}
  {missing stale : Object kind -> Prop} {surplus : Slot -> Prop} {c : Collection kind}
  {id : String}

/-- The slots of some objects. -/
abbrev slotsOf (objects : List (Object kind)) : List Slot := objects.map slotOf

/-- Every end of the request leaves less that is missing, stale and in surplus; a failure
may leave as much as there was. -/
def Advances (sees : Slot -> Prop) (desired : List (Object kind))
    (missing stale : Object kind -> Prop) (surplus : Slot -> Prop)
    (missingAfter staleAfter : α -> Object kind -> Prop) (surplusAfter : Slot -> Prop)
    (request : Request α) : Prop :=
  ∀ c, Underway sees desired missing stale surplus c ->
    request.Ends (View.collection kind).around c
      (fun value d =>
        Underway sees desired (missingAfter value) (staleAfter value) surplusAfter d)
      fun _ d => Underway sees desired missing stale surplus d

/-! ## Single objects -/

/-- An object that a creation was asked for is there, and it is as desired unless there was
another one in its slot. -/
theorem ends_createOne_underway (apart : Apart desired)
    (underway : Underway sees desired missing stale surplus c) {object written : Object kind}
    (mem : object ∈ desired) (slot : slotOf written = slotOf object)
    (good : ∀ c : Collection kind, IsGood (c.versioned written) object) :
    (createOne written).Ends (View.collection kind).around c
      (fun _ d => Underway sees desired (Without missing [object])
        (fun other => stale other ∧ (other = object -> (c.stored (slotOf object)).isSome = true))
        surplus d)
      fun _ d => Underway sees desired missing stale surplus d := by
  refine ends_createOne ?_ ?_ ?_
  · intro absent
    refine ((underway.called .create).insert apart mem slot (good _)).mono ?_ ?_
      fun _ isSurplus => isSurplus
    · exact fun _ => without_single
    · rintro other ⟨isStale, ne⟩
      exact ⟨isStale, fun same => absurd same ne⟩
  · intro existing stored
    rw [slot] at stored
    have held : (c.stored (slotOf object)).isSome = true := by
      rw [stored]
      rfl
    refine ((underway.called .create).found held).mono ?_ ?_ fun _ isSurplus => isSurplus
    · exact fun _ => without_single
    · intro other isStale
      exact ⟨isStale, fun _ => held⟩
  · intro fault mem
    rw [if_neg (underway.steady.passing fault mem).not_existing]
    exact underway.called .create

/-- A slot that a deletion was asked for is empty. -/
theorem ends_deleteOne_underway (underway : Underway sees desired missing stale surplus c)
    {object : Object kind} (unwanted : ∀ other ∈ desired, slotOf other ≠ slotOf object) :
    (deleteOne none object).Ends (View.collection kind).around c
      (fun _ d => Underway sees desired missing stale (Without surplus [slotOf object]) d)
      fun _ d => Underway sees desired missing stale surplus d := by
  refine ends_deleteOne ?_ ?_ ?_
  · intro existing stored
    have erased := (underway.called .delete).eraseSurplus unwanted
    have absent : ((c.called .delete).erase (slotOf object)).stored (slotOf object) = none := by
      rw [Collection.stored_erase, if_pos rfl]
    have emptied := (erased.emptied absent).mono (fun _ held => held) (fun _ held => held)
      fun _ => without_single
    exact emptied.congr ⟨rfl, rfl⟩ (List.Subset.refl _)
  · intro absent
    have emptied := (underway.called .delete).emptied absent
    exact emptied.mono (fun _ held => held) (fun _ held => held) fun _ => without_single
  · intro fault mem
    rw [if_neg (underway.steady.passing fault mem).not_absent]
    exact underway.called .delete

/-! ## Many objects -/

/-- Nothing that was created is missing any more. -/
theorem advances_createAll (apart : Apart desired) {objects : List (Object kind)}
    (wanted : objects ⊆ desired)
    (good : ∀ object ∈ objects, ∀ c : Collection kind, IsGood (c.versioned object) object) :
    Advances sees desired missing stale surplus (fun _ => Without missing objects)
      (fun _ => stale) surplus (createAll objects) := by
  intro c underway
  induction objects generalizing c missing with
  | nil =>
    exact ends_pure.2 (underway.mono (fun _ => without_nil) (fun _ held => held)
      fun _ held => held)
  | cons object objects ih =>
    have first := ends_createOne_underway apart underway (wanted List.mem_cons_self) rfl
      (good object List.mem_cons_self)
    refine ends_bind.2 (Ends.mono first ?_ fun _ _ failed => failed)
    intro _ d nearer
    have less : Underway sees desired (Without missing [object]) stale surplus d :=
      nearer.mono (fun _ isMissing => isMissing) (fun _ isStale => isStale.1) fun _ held => held
    have rest := ih (fun other mem => wanted (List.mem_cons_of_mem _ mem))
      (fun other mem => good other (List.mem_cons_of_mem _ mem)) d less
    refine Ends.mono rest ?_ ?_
    · intro _ e done
      exact done.mono (fun _ => without_cons) (fun _ held => held) fun _ held => held
    · intro _ e broken
      exact broken.mono (fun _ isMissing => isMissing.1) (fun _ isStale => isStale)
        fun _ held => held

/-- Deleting what is in no desired slot leaves less in surplus. -/
theorem advances_deleteAll {objects : List (Object kind)}
    (unwanted : ∀ object ∈ objects, ∀ other ∈ desired, slotOf other ≠ slotOf object) :
    Advances sees desired missing stale surplus (fun _ => missing) (fun _ => stale)
      (Without surplus (slotsOf objects)) (deleteAll none objects) := by
  intro c underway
  induction objects generalizing c surplus with
  | nil =>
    exact ends_pure.2 (underway.mono (fun _ held => held) (fun _ held => held)
      fun _ => without_nil)
  | cons object objects ih =>
    have first := ends_deleteOne_underway underway (unwanted object List.mem_cons_self)
    refine ends_bind.2 (Ends.mono first ?_ fun _ _ failed => failed)
    intro _ d nearer
    have rest := ih (fun other mem => unwanted other (List.mem_cons_of_mem _ mem)) d nearer
    refine Ends.mono rest ?_ ?_
    · intro _ e done
      exact done.mono (fun _ held => held) (fun _ held => held) fun _ => without_cons
    · intro _ e broken
      exact broken.mono (fun _ held => held) (fun _ held => held) fun _ held => held.1

/-- What is done for each object of a list, one after the other, when each is left neither
missing nor stale. -/
theorem advances_each (one : Object kind -> Request β)
    {each : List (Object kind) -> Request Unit} (nothing : each [] = pure ())
    (next : ∀ object objects, each (object :: objects) = one object >>= fun _ => each objects)
    {objects : List (Object kind)}
    (advances : ∀ object ∈ objects, ∀ missing stale : Object kind -> Prop,
      Advances sees desired missing stale surplus (fun _ => Without missing [object])
        (fun _ => Without stale [object]) surplus (one object)) :
    Advances sees desired missing stale surplus (fun _ => Without missing objects)
      (fun _ => Without stale objects) surplus (each objects) := by
  intro c underway
  induction objects generalizing c missing stale with
  | nil =>
    rw [nothing]
    exact ends_pure.2 (underway.mono (fun _ => without_nil) (fun _ => without_nil)
      fun _ held => held)
  | cons object objects ih =>
    rw [next]
    refine ends_bind.2 (Ends.mono (advances object List.mem_cons_self missing stale c underway) ?_
      fun _ _ failed => failed)
    intro _ d nearer
    have rest := ih (fun other mem => advances other (List.mem_cons_of_mem _ mem)) d nearer
    refine Ends.mono rest ?_ ?_
    · intro _ e done
      exact done.mono (fun _ => without_cons) (fun _ => without_cons) fun _ held => held
    · intro _ e broken
      exact broken.mono (fun _ held => held.1) (fun _ held => held.1) fun _ held => held

/-- Nothing that was replaced is missing or stale any more. -/
theorem advances_replaceAll (target : Target id sees desired) {objects : List (Object kind)}
    (wanted : objects ⊆ desired)
    (good : ∀ object ∈ objects, ∀ c : Collection kind, IsGood (c.versioned object) object) :
    Advances sees desired missing stale surplus (fun _ => Without missing objects)
      (fun _ => Without stale objects) surplus (replaceAll objects) := by
  refine advances_each replace rfl (fun _ _ => rfl) ?_
  intro object mem missing stale c underway
  refine ends_replaceOne ?_ ?_ ?_ ?_
  · intro existing stored may
    have written := (underway.called .replace).insert target.apart (wanted mem) rfl
      (good object mem _)
    exact written.mono (fun _ => without_single) (fun _ => without_single) fun _ held => held
  · exact fun existing stored refused => underway.called .replace
  · exact fun absent => underway.called .replace
  · exact fun fault mem => underway.called .replace

/-! ## Merges -/

/-- A merged object is in the slot of the desired one. -/
theorem slotOf_merged (isMerged : kind = .ingress ∨ kind = .service)
    (target : Target id sees desired) {current object merged : Object kind}
    (mem : object ∈ desired) (merging : current.mergeDesired object = .ok merged) :
    slotOf merged = slotOf object := by
  have space : object.metadata.namespaceName = some id := by
    rw [(target.belongs object mem).space]
    rcases isMerged with rfl | rfl <;> rfl
  have mergedSpace := Object.mergeDesired_text Kube.Metadata.isText_namespaceName merging space
  have mergedName := Object.mergeDesired_text Kube.Metadata.isText_name merging
    (target.named object mem)
  have names : merged.name = object.name := by
    rw [Object.name, mergedName]
    rfl
  rw [slotOf, slotOf, mergedSpace, space, names]

/-- An object whose slot is empty is created with a snapshot of itself. -/
theorem ends_createStamped_underway (isMerged : kind = .ingress ∨ kind = .service)
    (target : Target id sees desired) {object : Object kind} (mem : object ∈ desired)
    (underway : Underway sees desired missing stale surplus c)
    (absent : c.stored (slotOf object) = none) :
    (createOne object.stamped).Ends (View.collection kind).around c
      (fun _ d => Underway sees desired (Without missing [object]) (Without stale [object])
        surplus d)
      fun _ d => Underway sees desired missing stale surplus d := by
  have stamped : ∀ d : Collection kind, IsGood (d.versioned object.stamped) object := by
    intro d
    exact isGood_of_snapshot isMerged (Object.setLastApplied_lastApplied _ _)
  have sameSlot : slotOf object.stamped = slotOf object := rfl
  have created := ends_createOne_underway target.apart underway mem sameSlot stamped
  refine Ends.mono created ?_ fun _ _ failed => failed
  intro _ d done
  refine done.mono (fun _ held => held) ?_ fun _ held => held
  rintro other ⟨isStale, onlyThere⟩
  refine without_single ⟨isStale, fun same => ?_⟩
  have held := onlyThere same
  rw [absent] at held
  cases held

/-- An object that was merged with the desired one takes its place. -/
theorem ends_replaceMerged_underway (isMerged : kind = .ingress ∨ kind = .service)
    (target : Target id sees desired) {current object merged : Object kind}
    (mem : object ∈ desired) (merging : current.mergeDesired object = .ok merged)
    (underway : Underway sees desired missing stale surplus c) :
    (Request.replace merged).Ends (View.collection kind).around c
      (fun _ d => Underway sees desired (Without missing [object]) (Without stale [object])
        surplus d)
      fun _ d => Underway sees desired missing stale surplus d := by
  have snapshot : ∀ d : Collection kind, IsGood (d.versioned merged) object := by
    intro d
    have carried : (d.versioned merged).lastApplied = merged.lastApplied := rfl
    refine isGood_of_snapshot isMerged ?_
    rw [carried, Object.mergeDesired_lastApplied merging]
  refine ends_replaceOne ?_ ?_ ?_ ?_
  · intro existing stored may
    have written := (underway.called .replace).insert target.apart mem
      (slotOf_merged isMerged target mem merging) (snapshot _)
    exact written.mono (fun _ => without_single) (fun _ => without_single) fun _ held => held
  · exact fun existing stored refused => underway.called .replace
  · exact fun absent => underway.called .replace
  · exact fun fault mem => underway.called .replace

/-- An object that was merged is neither missing nor stale. -/
theorem advances_mergeOne (isMerged : kind = .ingress ∨ kind = .service)
    (target : Target id sees desired) {object : Object kind} (mem : object ∈ desired) :
    Advances sees desired missing stale surplus (fun _ => Without missing [object])
      (fun _ => Without stale [object]) surplus (mergeOne object) := by
  intro c underway
  have reads := reads_getOptional underway.steady object.metadata.namespaceName object.name
  refine ends_bind.2 (Ends.mono reads ?_ ?_)
  · rintro found d ⟨unwritten, rfl⟩
    have here := underway.congr unwritten.alike unwritten.faults
    have slot : c.stored (.make object.metadata.namespaceName object.name) =
        d.stored (slotOf object) := (unwritten.alike.stored _).symm
    rw [slot]
    cases stored : d.stored (slotOf object) with
    | none => exact ends_createStamped_underway isMerged target mem here stored
    | some current =>
      show Ends _ (if _ then _ else _) _ _ _
      split_ifs with outdated
      · cases merging : current.mergeDesired object with
        | error failure => exact ends_throw.2 here
        | ok merged =>
          have replaced := ends_replaceMerged_underway isMerged target mem merging here
          exact ends_bind.2 (Ends.mono replaced (fun _ _ done => ends_pure.2 done)
            fun _ _ failed => failed)
      · have held : (d.stored (slotOf object)).isSome = true := by simp [stored]
        have good : ∀ existing, d.stored (slotOf object) = some existing ->
            IsGood existing object := by
          intro existing there
          rw [stored] at there
          obtain rfl := Option.some.inj there
          refine isGood_of_snapshot isMerged ?_
          simpa [Object.needsUpdate] using outdated
        exact ends_pure.2 (((here.found held).checked good).mono (fun _ => without_single)
          (fun _ => without_single) fun _ held => held)
  · rintro failure d ⟨unwritten, -, -⟩
    exact underway.congr unwritten.alike unwritten.faults

/-- Nothing that was merged is missing or stale any more. -/
theorem advances_mergeAll (isMerged : kind = .ingress ∨ kind = .service)
    (target : Target id sees desired) {objects : List (Object kind)} (wanted : objects ⊆ desired) :
    Advances sees desired missing stale surplus (fun _ => Without missing objects)
      (fun _ => Without stale objects) surplus (mergeAll objects) :=
  advances_each mergeOne rfl (fun _ _ => rfl) fun _ mem _ _ =>
    advances_mergeOne isMerged target (wanted mem)

/-! ## Role bindings -/

section

variable {desired : List (Object .clusterRoleBinding)}
  {missing stale : Object .clusterRoleBinding -> Prop} {c : Collection .clusterRoleBinding}

/-- A desired object whose slot is empty is created as desired. -/
theorem advances_createAbsent (target : Target id sees desired)
    {binding : Object .clusterRoleBinding} (mem : binding ∈ desired)
    (good : ∀ c : Collection .clusterRoleBinding, IsGood (c.versioned binding) binding)
    (underway : Underway sees desired missing stale surplus c)
    (absent : c.stored (slotOf binding) = none) :
    (createAll [binding]).Ends (View.collection .clusterRoleBinding).around c
      (fun _ d => Underway sees desired (fun other => missing other ∧ other ≠ binding)
        (fun other => stale other ∧ other ≠ binding) surplus d)
      fun _ d => Underway sees desired missing stale surplus d := by
  let fresh := fun other => stale other ∧ other ≠ binding
  have checked : Underway sees desired missing fresh surplus c := by
    refine underway.checked fun existing stored => ?_
    rw [absent] at stored
    cases stored
  have wanted : [binding] ⊆ desired := by
    intro other among
    rwa [List.mem_singleton.1 among]
  have copies : ∀ other ∈ [binding],
      ∀ c : Collection .clusterRoleBinding, IsGood (c.versioned other) other := by
    intro other among
    rwa [List.mem_singleton.1 among]
  have creates : (createAll [binding]).Ends (View.collection .clusterRoleBinding).around c
      (fun _ d => Underway sees desired (Without missing [binding]) fresh surplus d)
      fun _ d => Underway sees desired missing fresh surplus d :=
    advances_createAll target.apart wanted copies c checked
  refine Ends.mono creates ?_ ?_
  · intro _ d done
    refine done.mono ?_ (fun _ held => held) fun _ held => held
    rintro other ⟨isMissing, notAmong⟩
    exact ⟨isMissing, fun same => notAmong (List.mem_singleton.2 same)⟩
  · intro _ d broken
    exact broken.mono (fun _ held => held) (fun _ held => held.1) fun _ held => held

/-- What is left of a property when of some items only the remaining ones are not done. -/
abbrev Pending (p : α -> Prop) (items remaining : List α) : α -> Prop := fun item =>
  p item ∧ (item ∈ items -> item ∈ remaining)

/-- The first item is done. -/
theorem pending_done {p : α -> Prop} {first item : α} {items remaining : List α}
    (pending : Pending (fun item => p item ∧ item ≠ first) items remaining item) :
    Pending p (first :: items) remaining item := by
  obtain ⟨⟨holds, ne⟩, left⟩ := pending
  refine ⟨holds, fun mem => ?_⟩
  rcases List.mem_cons.1 mem with rfl | mem
  · exact absurd rfl ne
  · exact left mem

/-- The first item remains. -/
theorem pending_left {p : α -> Prop} {first item : α} {items remaining : List α}
    (pending : Pending p items remaining item) :
    Pending p (first :: items) (first :: remaining) item := by
  refine ⟨pending.1, fun mem => ?_⟩
  rcases List.mem_cons.1 mem with rfl | mem
  · exact List.mem_cons_self
  · exact List.mem_cons_of_mem _ (pending.2 mem)

/-- A desired object that may be missing is taken out of its slot. -/
theorem ends_remove_underway (target : Target id sees desired)
    {binding current : Object .clusterRoleBinding} (mem : binding ∈ desired)
    (isMissing : missing binding) (sameSlot : slotOf current = slotOf binding)
    (underway : Underway sees desired missing stale surplus c) :
    (deleteAll none [current]).Ends (View.collection .clusterRoleBinding).around c
      (fun _ d => Underway sees desired missing stale surplus d ∧
        d.stored (slotOf binding) = none)
      fun _ d => Underway sees desired missing stale surplus d := by
  refine ends_bind.2 (ends_deleteOne ?_ ?_ ?_)
  · intro existing _
    rw [sameSlot]
    have erased := (underway.called .delete).erase target.apart mem isMissing
    refine ends_pure.2 ⟨erased.congr ⟨rfl, rfl⟩ (List.Subset.refl _), ?_⟩
    show ((c.called .delete).erase (slotOf binding)).stored (slotOf binding) = none
    rw [Collection.stored_erase, if_pos rfl]
  · intro absent
    rw [sameSlot] at absent
    exact ends_pure.2 ⟨underway.called .delete, absent⟩
  · intro fault mem
    rw [if_neg (underway.steady.passing fault mem).not_absent]
    exact underway.called .delete

/-- Settling leaves those bindings missing or stale that it hands out. -/
def Settles (sees : Slot -> Prop) (desired : List (Object .clusterRoleBinding))
    (missing stale : Object .clusterRoleBinding -> Prop) (surplus : Slot -> Prop)
    (bindings : List (Object .clusterRoleBinding))
    (settling : Request (List (Object .clusterRoleBinding))) : Prop :=
  ∀ c, Underway sees desired missing stale surplus c ->
    settling.Ends (View.collection .clusterRoleBinding).around c
      (fun remaining d => remaining ⊆ bindings ∧
        Underway sees desired (Pending missing bindings remaining)
          (Pending stale bindings remaining) surplus d)
      fun _ d => Underway sees desired missing stale surplus d

/-- With its slot empty a binding is created, and the others are settled. -/
theorem ends_settleAnew (target : Target id sees desired) {binding : Object .clusterRoleBinding}
    (mem : binding ∈ desired)
    (good : ∀ c : Collection .clusterRoleBinding, IsGood (c.versioned binding) binding)
    {bindings : List (Object .clusterRoleBinding)}
    (settles : Settles sees desired (fun other => missing other ∧ other ≠ binding)
      (fun other => stale other ∧ other ≠ binding) surplus bindings
      (Resource.settleBindings bindings))
    (underway : Underway sees desired missing stale surplus c)
    (absent : c.stored (slotOf binding) = none) :
    (createAll [binding] >>= fun _ => Resource.settleBindings bindings).Ends
      (View.collection .clusterRoleBinding).around c
      (fun remaining d => remaining ⊆ binding :: bindings ∧
        Underway sees desired (Pending missing (binding :: bindings) remaining)
          (Pending stale (binding :: bindings) remaining) surplus d)
      fun _ d => Underway sees desired missing stale surplus d := by
  have creates := advances_createAbsent target mem good underway absent
  refine ends_bind.2 (Ends.mono creates ?_ fun _ _ failed => failed)
  intro _ d created
  refine Ends.mono (settles d created) ?_ ?_
  · rintro remaining e ⟨within, done⟩
    refine ⟨List.subset_cons_of_subset _ within, ?_⟩
    exact done.mono (fun _ => pending_done) (fun _ => pending_done) fun _ held => held
  · intro _ e broken
    exact broken.mono (fun _ held => held.1) (fun _ held => held.1) fun _ held => held

/-- A binding with another role is gone for a moment, so that all of them are to be counted
as missing before. -/
theorem settles_settleBindings (target : Target id sees desired)
    (good : ∀ binding ∈ desired,
      ∀ c : Collection .clusterRoleBinding, IsGood (c.versioned binding) binding)
    {bindings : List (Object .clusterRoleBinding)} (wanted : bindings ⊆ desired)
    (nodup : bindings.Nodup) (allowed : ∀ binding ∈ bindings, missing binding) :
    Settles sees desired missing stale surplus bindings (Resource.settleBindings bindings) := by
  intro c underway
  induction bindings generalizing c missing stale with
  | nil =>
    refine ends_pure.2 ⟨List.Subset.refl [], underway.mono ?_ ?_ fun _ held => held⟩
    · intro other isMissing
      exact ⟨isMissing, fun among => among⟩
    · intro other isStale
      exact ⟨isStale, fun among => among⟩
  | cons binding bindings ih =>
    obtain ⟨fresh, nodupRest⟩ := List.nodup_cons.1 nodup
    have mem := wanted List.mem_cons_self
    have wantedRest : bindings ⊆ desired := fun _ among => wanted (List.mem_cons_of_mem _ among)
    have isMissing := allowed binding List.mem_cons_self
    have allowedRest : ∀ other ∈ bindings, missing other :=
      fun other among => allowed other (List.mem_cons_of_mem _ among)
    have space : binding.metadata.namespaceName = none := (target.belongs binding mem).space
    have apartRest : ∀ other ∈ bindings, missing other ∧ other ≠ binding :=
      fun other among => ⟨allowedRest other among, ne_of_mem_of_not_mem among fresh⟩
    have settlesRest : Settles sees desired (fun other => missing other ∧ other ≠ binding)
        (fun other => stale other ∧ other ≠ binding) surplus bindings
        (Resource.settleBindings bindings) :=
      fun d here => ih wantedRest nodupRest apartRest d here
    refine ends_bind.2 (Ends.mono (reads_getOptional underway.steady none binding.name) ?_ ?_)
    · rintro found d ⟨unwritten, rfl⟩
      have here := underway.congr unwritten.alike unwritten.faults
      have slot : c.stored (.make none binding.name) = d.stored (slotOf binding) := by
        rw [slotOf, space]
        exact (unwritten.alike.stored _).symm
      rw [slot]
      cases stored : d.stored (slotOf binding) with
      | none => exact ends_settleAnew target mem (good binding mem) settlesRest here stored
      | some current =>
        have sameSlot : slotOf current = slotOf binding := here.steady.sound.slotOf_stored stored
        show Ends _ (if _ then _ else _) _ _ _
        split_ifs with anotherRole
        · have removes := ends_remove_underway target mem isMissing sameSlot here
          refine ends_bind.2 (Ends.mono removes ?_ fun _ _ failed => failed)
          rintro _ e ⟨gone, absent⟩
          exact ends_settleAnew target mem (good binding mem) settlesRest gone absent
        · refine ends_bind.2 (Ends.mono (ih wantedRest nodupRest allowedRest d here) ?_
            fun _ _ failed => failed)
          rintro remaining e ⟨within, done⟩
          refine ends_pure.2 ⟨List.cons_subset_cons _ within, ?_⟩
          exact done.mono (fun _ => pending_left) (fun _ => pending_left) fun _ held => held
    · rintro failure d ⟨unwritten, -, -⟩
      exact underway.congr unwritten.alike unwritten.faults

/-- Bindings that were written again are neither missing nor stale. -/
theorem ends_updateBindings (target : Target id sees desired)
    (good : ∀ binding ∈ desired,
      ∀ c : Collection .clusterRoleBinding, IsGood (c.versioned binding) binding)
    {bindings : List (Object .clusterRoleBinding)} (wanted : bindings ⊆ desired)
    (nodup : bindings.Nodup) (allowed : ∀ binding ∈ bindings, missing binding)
    (underway : Underway sees desired missing stale surplus c) :
    (Resource.updateBindings bindings).Ends (View.collection .clusterRoleBinding).around c
      (fun _ d => Underway sees desired (Without missing bindings) (Without stale bindings)
        surplus d)
      fun _ d => Underway sees desired missing stale surplus d := by
  have settles := settles_settleBindings target good wanted nodup allowed c underway
  refine ends_bind.2 (Ends.mono settles ?_ fun _ _ failed => failed)
  rintro remaining d ⟨within, settled⟩
  have among : remaining ⊆ desired := fun _ mem => wanted (within mem)
  have replaces := advances_replaceAll target among
    (fun binding mem => good binding (among mem)) d settled
  refine Ends.mono replaces ?_ ?_
  · intro _ e done
    refine done.mono ?_ ?_ fun _ held => held
    · rintro other ⟨⟨isMissing, left⟩, replaced⟩
      exact ⟨isMissing, fun mem => replaced (left mem)⟩
    · rintro other ⟨⟨isStale, left⟩, replaced⟩
      exact ⟨isStale, fun mem => replaced (left mem)⟩
  · intro _ e broken
    exact broken.mono (fun _ held => held.1) (fun _ held => held.1) fun _ held => held

end

end Request

end GuestFleet
