import GuestFleet.Proofs.Resource.Treatments

/-!
# How resources look after their objects

A resource finds some objects, compares them with the desired ones, and makes the change that
the comparison plans: it creates, then deletes, then writes again. What a slot holds in the end
is said by the plan and by what it held at the start, so that two runs from like collections
end with collections that resemble each other.
-/

namespace GuestFleet

open Kube (Kind Object)
open Store (Collection Slot slotOf)
open Store.Collection (Touched)
open Request (slotsOf removing)

variable {kind : Kind}

/-! ## Treated objects -/

namespace Treatment

variable {t : Treatment kind} {objects : List (Object kind)} {c d : Collection kind}

/-- Calls that have not yet treated all objects lead from one collection to the other. -/
structure Between (t : Treatment kind) (objects : List (Object kind)) (c d : Collection kind) :
    Prop where
  touched : Touched (slotsOf objects) c d
  begun : t.BegunAll c.nextVersion c.stored objects d

/-- Calls that have treated the objects lead from one collection to the other. -/
structure Treated (t : Treatment kind) (objects : List (Object kind)) (c d : Collection kind) :
    Prop where
  touched : Touched (slotsOf objects) c d
  done : t.DoneAll c.nextVersion c.stored objects d

/-- Calls that change nothing have treated none of the objects. -/
theorem Between.of_alike (steady : c.Steady) (alike : c.Alike d) (faults : d.faults ⊆ c.faults) :
    t.Between objects c d :=
  ⟨.of_alike steady alike faults, fun object _ => .inl (alike.stored (slotOf object))⟩

/-- Before the first call nothing has been treated. -/
theorem Between.refl (steady : c.Steady) : t.Between objects c c :=
  .of_alike steady .refl (List.Subset.refl _)

/-- Where there is nothing to treat everything is treated. -/
theorem Between.treated_nil (between : t.Between [] c d) : t.Treated [] c d :=
  ⟨between.touched, fun _ mem => absurd mem List.not_mem_nil⟩

/-- Nothing has to be done to treat no objects. -/
theorem Treated.nil (steady : c.Steady) : t.Treated [] c c :=
  (Between.refl steady).treated_nil

/-- What was written after a version was written after an earlier one. -/
theorem Done.earlier {first early : Nat} {object : Object kind}
    {before held : Option (Object kind)} (done : t.Done first object before held)
    (le : early ≤ first) : t.Done early object before held := by
  refine ⟨done.able, ?_⟩
  have befallen := done.befallen
  cases fate : t.fate object before with
  | stays =>
    rw [fate] at befallen
    exact befallen
  | goes =>
    rw [fate] at befallen
    exact befallen
  | written object =>
    rw [fate] at befallen
    obtain ⟨version, late, same⟩ := befallen
    exact ⟨version, le.trans late, same⟩

/-- What was in the slot of an object decides what is in it, up to the version. -/
theorem Done.resembles {first other : Nat} {object : Object kind}
    {before held heldOther : Option (Object kind)} (done : t.Done first object before held)
    (doneOther : t.Done other object before heldOther) :
    heldOther.map Object.unversioned = held.map Object.unversioned := by
  have befallen := done.befallen
  have befallenOther := doneOther.befallen
  cases fate : t.fate object before with
  | stays =>
    rw [fate] at befallen befallenOther
    obtain rfl : held = before := befallen
    obtain rfl : heldOther = held := befallenOther
    rfl
  | goes =>
    rw [fate] at befallen befallenOther
    obtain rfl : held = none := befallen
    obtain rfl : heldOther = none := befallenOther
    rfl
  | written object =>
    rw [fate] at befallen befallenOther
    obtain ⟨version, -, rfl⟩ := befallen
    obtain ⟨versionOther, -, rfl⟩ := befallenOther
    rfl

end Treatment

open Treatment (Between Treated)

/-! ## Slots that nothing is left in -/

/-- Outside of some slots, objects are as they were or gone. -/
def Store.Collection.Within (slots : List Slot) (c d : Collection kind) : Prop :=
  ∀ slot, slot ∉ slots -> d.stored slot = c.stored slot ∨ d.stored slot = none

namespace Store.Collection.Within

variable {slots : List Slot} {c d e : Collection kind}

/-- What is untouched elsewhere is as it was. -/
theorem of_touched (touched : Touched slots c d) : Within slots c d :=
  fun slot outside => .inl (touched.elsewhere slot outside)

/-- One after the other they leave nothing that was not there at the start. -/
theorem trans (first : Within slots c d) (second : Within slots d e) : Within slots c e := by
  intro slot outside
  rcases second slot outside with same | gone
  · rw [same]
    exact first slot outside
  · exact .inr gone

/-- Deleting leaves nothing that was not there. -/
theorem of_removing {objects : List (Object kind)} (between : removing.Between objects c d) :
    Within slots c d := by
  intro slot _
  by_cases mem : slot ∈ slotsOf objects
  · obtain ⟨object, among, rfl⟩ := List.mem_map.1 mem
    rcases between.begun object among with same | done | ⟨never, -⟩
    · exact .inl same
    · exact .inr done.befallen
    · exact never.elim
  · exact .inl (between.touched.elsewhere slot mem)

end Store.Collection.Within

/-! ## Plans -/

/-- The context after the names of replaced config maps were noted. -/
def Context.noteAll (names : List String) (context : Context) : Context :=
  names.foldl Context.noteConfigMap context

/-- How a resource looks after the objects of its kind. -/
structure Care (kind : Kind) where
  /-- The objects that are found in a collection. -/
  find : Collection kind -> List (Object kind)
  desired : List (Object kind)
  creation : Treatment kind
  renewal : Treatment kind
  /-- The objects to be written again, given the current ones. -/
  renewed : Context -> List (Object kind) -> List (Object kind)
  /-- The names to be noted when objects were written again. -/
  marks : List (Object kind) -> List String

namespace Care

variable (care : Care kind) (context : Context) (c : Collection kind)

/-- What has to change in a collection. -/
def plan : ChangeSet kind :=
  match context.event with
  | .apply =>
    { create := Diff.created (care.find c) care.desired
      delete := Diff.obsolete (care.find c) care.desired
      update := care.renewed context (care.find c) }
  | .delete => .deletions (care.find c) care.desired

/-- A pass that is to bring objects about finds one that makes it stop. -/
def Stops : Prop := context.event = .apply ∧ (care.find c).any Object.stopsPass = true

/-- A change can be made. -/
structure Able (change : ChangeSet kind) : Prop where
  creates : care.creation.AbleAll c.stored change.create
  renews : care.renewal.AbleAll c.stored change.update

variable (change : ChangeSet kind) (d : Collection kind)

/-- The objects of a change were created, and then those that are to go were deleted. -/
def Cleared : Prop :=
  ∃ created, care.creation.Treated change.create c created ∧
    removing.Treated change.delete created d

/-- All of a change was made, in the order of its phases. -/
def Made : Prop :=
  ∃ cleared, care.Cleared c change cleared ∧ care.renewal.Treated change.update cleared d

variable {care c change d} in
/-- What was made is made of every alike collection with no more failures to come. -/
theorem Made.congr {e : Collection kind} (made : care.Made c change d) (alike : d.Alike e)
    (faults : e.faults ⊆ d.faults) : care.Made c change e := by
  obtain ⟨cleared, isCleared, touched, done⟩ := made
  refine ⟨cleared, isCleared, touched.congr alike faults, fun object mem => ?_⟩
  rw [alike.stored]
  exact done object mem

/-- What makes plans sound: found objects are stored, no two desired ones are in the same slot,
and only desired objects that were found are written again. -/
structure Fit (care : Care kind) : Prop where
  stored : ∀ {c : Collection kind}, c.Sound -> ∀ object ∈ care.find c,
    c.stored (slotOf object) = some object
  alike : ∀ {c d : Collection kind}, c.Alike d -> care.find d = care.find c
  apart : Apart care.desired
  within : ∀ context current, (care.renewed context current).Sublist care.desired
  found : ∀ {c : Collection kind}, c.Sound -> ∀ context,
    ∀ object ∈ care.renewed context (care.find c), Diff.hasKey (care.find c) object.key = true
  unmarked : care.marks [] = []

end Care

/-- Objects with the same key belong in the same slot. -/
theorem slotOf_eq_of_key {a b : Object kind} (same : a.key = b.key) : slotOf a = slotOf b :=
  congrArg₂ Slot.make (congrArg Kube.Key.namespaceName same) (congrArg Kube.Key.name same)

namespace Care

section

variable {care : Care kind} {context : Context} {c d : Collection kind}

/-- To bring objects about is to create, delete and write again. -/
theorem plan_apply (isApply : context.event = .apply) :
    care.plan context c =
      { create := Diff.created (care.find c) care.desired
        delete := Diff.obsolete (care.find c) care.desired
        update := care.renewed context (care.find c) } := by
  unfold plan
  rw [isApply]

/-- To take objects down is to delete what was found of them. -/
theorem plan_delete (isDelete : context.event = .delete) :
    care.plan context c = .deletions (care.find c) care.desired := by
  unfold plan
  rw [isDelete]

variable (fit : care.Fit)

include fit

/-- No two found objects have the same key. -/
theorem Fit.byKey_eq (sound : c.Sound) {existing : Object kind} (among : existing ∈ care.find c) :
    Diff.byKey (care.find c) existing.key = some existing := by
  cases found : Diff.byKey (care.find c) existing.key with
  | none =>
    have unseen := List.find?_eq_none.1 found existing (List.mem_reverse.2 among)
    exact absurd (decide_eq_true rfl) unseen
  | some other =>
    have amongOther := List.mem_reverse.1 (List.mem_of_find?_eq_some found)
    have keys : other.key = existing.key := of_decide_eq_true (List.find?_some found :)
    have storedOther := fit.stored sound other amongOther
    rw [slotOf_eq_of_key keys, fit.stored sound existing among] at storedOther
    rw [Option.some.inj storedOther]

/-- Whether a desired object differs is a matter of the one found with its key. -/
theorem Fit.mem_modified (sound : c.Sound) {existing object : Object kind}
    (among : existing ∈ care.find c) (wanted : object ∈ care.desired)
    (sameKey : existing.key = object.key) :
    object ∈ Diff.modified (care.find c) care.desired <-> existing.isModified object = true := by
  rw [Diff.modified, List.mem_filter, ← sameKey, fit.byKey_eq sound among]
  exact and_iff_right wanted

/-- Like collections are planned for alike. -/
theorem Fit.plan_alike (alike : c.Alike d) : care.plan context d = care.plan context c := by
  unfold plan
  rw [fit.alike alike]

omit fit in
/-- Only desired objects are created. -/
theorem create_sublist : (care.plan context c).create.Sublist care.desired := by
  cases isEvent : context.event with
  | apply =>
    rw [plan_apply isEvent]
    exact List.filter_sublist
  | delete =>
    rw [plan_delete isEvent]
    exact List.nil_sublist _

/-- Only desired objects are written again. -/
theorem Fit.update_sublist : (care.plan context c).update.Sublist care.desired := by
  cases isEvent : context.event with
  | apply =>
    rw [plan_apply isEvent]
    exact fit.within context _
  | delete =>
    rw [plan_delete isEvent]
    exact List.nil_sublist _

/-- An object that is written again is in no slot of one that is created or deleted. -/
theorem Fit.update_fresh (sound : c.Sound) {object : Object kind}
    (mem : object ∈ (care.plan context c).update) :
    slotOf object ∉ slotsOf (care.plan context c).create ∧
      slotOf object ∉ slotsOf (care.plan context c).delete := by
  have wanted := fit.update_sublist.subset mem
  cases isEvent : context.event with
  | delete =>
    rw [plan_delete isEvent] at mem
    cases mem
  | apply =>
    rw [plan_apply isEvent] at mem ⊢
    have known := fit.found sound context object mem
    obtain ⟨existing, among, sameKey⟩ := List.any_eq_true.1 known
    have keys : existing.key = object.key := of_decide_eq_true sameKey
    constructor
    · intro here
      obtain ⟨other, created, same⟩ := List.mem_map.1 here
      obtain ⟨wantedOther, absent⟩ := List.mem_filter.1 created
      obtain rfl := fit.apart.eq wantedOther wanted same
      rw [known] at absent
      cases absent
    · intro here
      obtain ⟨other, obsolete, same⟩ := List.mem_map.1 here
      obtain ⟨amongOther, unwanted⟩ := List.mem_filter.1 obsolete
      have storedOther := fit.stored sound other amongOther
      rw [same, ← slotOf_eq_of_key keys, fit.stored sound existing among] at storedOther
      obtain rfl := Option.some.inj storedOther
      have isWanted : Diff.hasKey care.desired existing.key = true :=
        List.any_eq_true.2 ⟨object, wanted, decide_eq_true keys.symm⟩
      rw [isWanted] at unwanted
      cases unwanted

end

/-! ## What a change makes of a slot -/

section

variable {care : Care kind} {change : ChangeSet kind} {c d : Collection kind} {slot : Slot}

/-- Clearing touches only the slots of what is created or deleted. -/
theorem Cleared.touched (cleared : care.Cleared c change d) :
    Touched (slotsOf change.create ++ slotsOf change.delete) c d := by
  obtain ⟨created, creates, deletes⟩ := cleared
  exact (creates.touched.mono (List.subset_append_left _ _)).trans
    (deletes.touched.mono (List.subset_append_right _ _))

/-- A change touches only the slots of the objects in it. -/
theorem Made.touched (made : care.Made c change d) :
    Touched (slotsOf change.create ++ slotsOf change.delete ++ slotsOf change.update) c d := by
  obtain ⟨cleared, clears, renews⟩ := made
  exact (clears.touched.mono (List.subset_append_left _ _)).trans
    (renews.touched.mono (List.subset_append_right _ _))

/-- A slot that no object of the change is in holds what it held. -/
theorem Made.elsewhere (made : care.Made c change d) (notCreated : slot ∉ slotsOf change.create)
    (notDeleted : slot ∉ slotsOf change.delete) (notRenewed : slot ∉ slotsOf change.update) :
    d.stored slot = c.stored slot := by
  refine made.touched.elsewhere slot ?_
  simp only [List.mem_append, not_or]
  exact ⟨⟨notCreated, notDeleted⟩, notRenewed⟩

/-- A slot that is to be emptied is empty, unless it is written again. -/
theorem Made.deleted (made : care.Made c change d) (isDeleted : slot ∈ slotsOf change.delete)
    (notRenewed : slot ∉ slotsOf change.update) : d.stored slot = none := by
  obtain ⟨cleared, ⟨created, -, deletes⟩, renews⟩ := made
  obtain ⟨object, mem, rfl⟩ := List.mem_map.1 isDeleted
  rw [renews.touched.elsewhere _ notRenewed]
  exact (deletes.done object mem).befallen

/-- A created object that nothing else befalls is as it was created. -/
theorem Made.created (made : care.Made c change d) {object : Object kind}
    (mem : object ∈ change.create) (notDeleted : slotOf object ∉ slotsOf change.delete)
    (notRenewed : slotOf object ∉ slotsOf change.update) :
    care.creation.Done c.nextVersion object (c.stored (slotOf object))
      (d.stored (slotOf object)) := by
  obtain ⟨cleared, ⟨created, creates, deletes⟩, renews⟩ := made
  rw [renews.touched.elsewhere _ notRenewed, deletes.touched.elsewhere _ notDeleted]
  exact creates.done object mem

/-- An object that is written again is treated by what was stored at the start. -/
theorem Made.renewed (made : care.Made c change d) {object : Object kind}
    (mem : object ∈ change.update) (notCreated : slotOf object ∉ slotsOf change.create)
    (notDeleted : slotOf object ∉ slotsOf change.delete) :
    care.renewal.Done c.nextVersion object (c.stored (slotOf object))
      (d.stored (slotOf object)) := by
  obtain ⟨cleared, clears, renews⟩ := made
  have before : cleared.stored (slotOf object) = c.stored (slotOf object) :=
    clears.touched.elsewhere _ fun here => (List.mem_append.1 here).elim notCreated notDeleted
  rw [← before]
  exact (renews.done object mem).earlier clears.touched.later

/-- Every slot but those of desired objects and of removed ones is left alone. -/
theorem Made.within (made : care.Made c change d) {slots : List Slot}
    (creates : slotsOf change.create ⊆ slots) (updates : slotsOf change.update ⊆ slots) :
    Collection.Within slots c d := by
  obtain ⟨cleared, ⟨created, creating, deleting⟩, renewing⟩ := made
  have removed : Collection.Within slots created cleared := by
    refine .of_removing ⟨deleting.touched, fun object mem => ?_⟩
    exact .inr (.inl (deleting.done object mem))
  exact (Collection.Within.of_touched (creating.touched.mono creates)).trans
    (removed.trans (.of_touched (renewing.touched.mono updates)))

end

/-! ## What a change makes of desired objects -/

section

variable {care : Care kind} {context : Context} {c d : Collection kind} (fit : care.Fit)
  (isApply : context.event = .apply) (made : care.Made c (care.plan context c) d)
  {object : Object kind} (wanted : object ∈ care.desired)

include fit isApply made wanted

/-- A desired object is created if it was not found, and otherwise written again or left alone,
as long as no other object was found in its slot. -/
theorem Fit.provided (sound : c.Sound)
    (keyed : ∀ existing ∈ care.find c, slotOf existing = slotOf object ->
      existing.key = object.key) :
    (Diff.hasKey (care.find c) object.key = false ∧
        care.creation.Done c.nextVersion object (c.stored (slotOf object))
          (d.stored (slotOf object))) ∨
      Diff.hasKey (care.find c) object.key = true ∧
        ((object ∈ care.renewed context (care.find c) ∧
            care.renewal.Done c.nextVersion object (c.stored (slotOf object))
              (d.stored (slotOf object))) ∨
          (object ∉ care.renewed context (care.find c) ∧
            d.stored (slotOf object) = c.stored (slotOf object))) := by
  rw [plan_apply isApply] at made
  have kept : slotOf object ∉ slotsOf (Diff.obsolete (care.find c) care.desired) := by
    intro here
    obtain ⟨other, obsolete, same⟩ := List.mem_map.1 here
    obtain ⟨among, unwanted⟩ := List.mem_filter.1 obsolete
    have isWanted : Diff.hasKey care.desired other.key = true :=
      List.any_eq_true.2 ⟨object, wanted, decide_eq_true (keyed other among same).symm⟩
    rw [isWanted] at unwanted
    cases unwanted
  have own {objects : List (Object kind)} (within : objects ⊆ care.desired)
      (absent : object ∉ objects) : slotOf object ∉ slotsOf objects := by
    intro here
    obtain ⟨other, among, same⟩ := List.mem_map.1 here
    obtain rfl := fit.apart.eq (within among) wanted same
    exact absent among
  have renews := (fit.within context (care.find c)).subset
  cases known : Diff.hasKey (care.find c) object.key with
  | false =>
    have created : object ∈ Diff.created (care.find c) care.desired := by
      refine List.mem_filter.2 ⟨wanted, ?_⟩
      rw [known]
      rfl
    have notRenewed : object ∉ care.renewed context (care.find c) := by
      intro renewed
      cases known.symm.trans (fit.found sound context object renewed)
    exact .inl ⟨rfl, made.created created kept (own renews notRenewed)⟩
  | true =>
    have notCreated : slotOf object ∉ slotsOf (Diff.created (care.find c) care.desired) := by
      refine own (List.filter_subset_self _) fun created => ?_
      have unknown := (List.mem_filter.1 created).2
      rw [known] at unknown
      cases unknown
    refine .inr ⟨rfl, ?_⟩
    by_cases renewed : object ∈ care.renewed context (care.find c)
    · exact .inl ⟨renewed, made.renewed renewed notCreated kept⟩
    · exact .inr ⟨renewed, made.elsewhere notCreated kept (own renews renewed)⟩

end

/-! ## Two runs -/

section

variable {care : Care kind} {context : Context} {b c d e : Collection kind} (fit : care.Fit)
  (sound : c.Sound)

include fit sound

/-- A change that was made can be made. -/
theorem Fit.able_of_made (made : care.Made c (care.plan context c) d) :
    care.Able c (care.plan context c) := by
  constructor
  · intro object mem
    obtain ⟨_, ⟨_, creates, -⟩, -⟩ := made
    exact (creates.done object mem).able
  · intro object mem
    obtain ⟨notCreated, notDeleted⟩ := fit.update_fresh sound mem
    exact (made.renewed mem notCreated notDeleted).able

/-- What two runs make of like collections they make alike. -/
theorem Fit.resembles (alike : c.Alike d) (made : care.Made c (care.plan context c) b)
    (madeOther : care.Made d (care.plan context d) e) : b.Resembles e := by
  intro slot
  rw [fit.plan_alike alike] at madeOther
  by_cases renewed : slot ∈ slotsOf (care.plan context c).update
  · obtain ⟨object, mem, rfl⟩ := List.mem_map.1 renewed
    obtain ⟨notCreated, notDeleted⟩ := fit.update_fresh sound mem
    have done := made.renewed mem notCreated notDeleted
    have doneOther := madeOther.renewed mem notCreated notDeleted
    rw [alike.stored] at doneOther
    exact done.resembles doneOther
  by_cases deleted : slot ∈ slotsOf (care.plan context c).delete
  · rw [made.deleted deleted renewed, madeOther.deleted deleted renewed]
  by_cases created : slot ∈ slotsOf (care.plan context c).create
  · obtain ⟨object, mem, rfl⟩ := List.mem_map.1 created
    have done := made.created mem deleted renewed
    have doneOther := madeOther.created mem deleted renewed
    rw [alike.stored] at doneOther
    exact done.resembles doneOther
  · rw [made.elsewhere created deleted renewed, madeOther.elsewhere created deleted renewed,
      alike.stored]

end

end Care

end GuestFleet
