import GuestFleet.Proofs.Reconcile.Passes
import GuestFleet.Proofs.Resource.Care
import GuestFleet.Proofs.Resource.Readings

/-!
# Handlers that take care

A handler that ends well has made exactly the change that was planned for what it found at the
start, however often its phases were tried. One that fails has left nothing outside of the
desired slots, and fails without an ordered failure only if the change cannot be made.
-/

namespace GuestFleet

open Kube (Kind Object)
open Store (Collection Slot View slotOf)
open Store.Collection (Touched)
open Request (slotsOf removing)
open Treatment (Between Treated)

/-! ## Treating in a pass -/

/-- A part of a pass treats objects, and notes names when it ends well. -/
def Work.Treats {kind : Kind} (t : Treatment kind) (names : List String)
    (objects : List (Object kind)) (work : Work Program Unit) : Prop :=
  ∀ (context : Context) (first : Nat) (before : Slot -> Option (Object kind))
    (c : Collection kind), c.Steady -> first ≤ c.nextVersion -> t.BegunAll first before objects c ->
      work.Ends (View.collection kind).around context c
        (fun _ after d => after = context.noteAll names ∧ Touched (slotsOf objects) c d ∧
          t.DoneAll first before objects d)
        fun _ after d => after = context ∧ Touched (slotsOf objects) c d ∧
          t.BegunAll first before objects d ∧ (t.AbleAll before objects -> c.faults ≠ [])

/-- A request that treats objects does so in a pass, and notes no names. -/
theorem Work.treats_ofRequest {kind : Kind} {t : Treatment kind} {objects : List (Object kind)}
    {request : Request Unit} (treats : request.Treats t objects) :
    (Work.ofRequest request).Treats t [] objects := by
  intro context first before c steady late begun
  refine Work.ends_ofRequest.2 (Request.Ends.mono (treats first before c steady late begun) ?_ ?_)
  · rintro _ d ⟨touched, done⟩
    exact ⟨rfl, touched, done⟩
  · rintro _ d ⟨touched, left, faulty⟩
    exact ⟨rfl, touched, left, faulty⟩

/-- Where objects are left as they are, there is nothing to be done. -/
theorem Work.treats_leaving {kind : Kind} {objects : List (Object kind)} :
    (pure () : Work Program Unit).Treats Request.leaving [] objects := by
  intro context first before c steady late begun
  refine Work.ends_pure.2 ⟨rfl, .refl steady, fun object mem => ?_⟩
  rcases begun object mem with same | done | ⟨never, -⟩
  · exact ⟨trivial, same⟩
  · exact done
  · exact never.elim

/-- Noting names tells no pass to stop. -/
theorem Context.cancelled_noteAll (names : List String) (context : Context) :
    (context.noteAll names).cancelled = context.cancelled := by
  induction names generalizing context with
  | nil => rfl
  | cons name names ih => exact ih (context.noteConfigMap name)

/-- Nor does it change what the pass runs for. -/
theorem Context.event_noteAll (names : List String) (context : Context) :
    (context.noteAll names).event = context.event := by
  induction names generalizing context with
  | nil => rfl
  | cons name names ih => exact ih (context.noteConfigMap name)

namespace Resource

/-- What a handler leaves that fails without having been told to stop: nothing outside of the
desired slots. The failure was ordered, or the change cannot be made. -/
structure Halted {kind : Kind} (care : Care kind) (context : Context) (c : Collection kind)
    (after : Context) (d : Collection kind) : Prop where
  going : after.cancelled = false
  within : Collection.Within (slotsOf care.desired) c d
  faulty : care.Able c (care.plan context c) -> c.faults ≠ []

/-- The resource looks after its objects in the way that is said, phase by phase. -/
structure Cares (resource : Resource Program) (care : Care resource.kind) : Prop where
  fit : care.Fit
  finds : resource.currentState.Finds care.find
  wants : resource.desiredState = pure care.desired
  compares : ∀ current (context : Context) (c : Collection resource.kind),
    (resource.updatePatch current care.desired).Ends (View.collection resource.kind).around
      context c
      (fun change after d => after = context ∧ d = c ∧
        change =
          { create := Diff.created current care.desired
            delete := Diff.obsolete current care.desired
            update := care.renewed context current })
      fun _ _ _ => False
  picks : ∀ current,
    resource.deletePatch current care.desired = pure (.deletions current care.desired)
  creates : ∀ objects, objects.Sublist care.desired ->
    (resource.applyCreate objects).Treats care.creation [] objects
  deletes : ∀ objects, (resource.applyDelete objects).Treats removing [] objects
  renews : ∀ objects, objects.Sublist care.desired ->
    (resource.applyUpdate objects).Treats care.renewal (care.marks objects) objects

section

variable {resource : Resource Program} {care : Care resource.kind} {context : Context}
  {c : Collection resource.kind}

/-- A phase that treats objects of a collection `b` that the phase before has left. -/
theorem leads_of_treats (context : Context) (chosen : Prop)
    (earlier : Collection resource.kind -> Prop) {work : Work Program Unit}
    {t : Treatment resource.kind} {names : List String} {objects : List (Object resource.kind)}
    {rest : Context -> Collection resource.kind -> Prop}
    (treats : chosen -> work.Treats t names objects)
    (halts : ∀ b d, chosen -> earlier b -> t.Between objects b d ->
      (t.AbleAll b.stored objects -> b.faults ≠ []) -> rest context d) :
    work.Leads (View.collection resource.kind).around rest
      (fun after d => after = context ∧ chosen ∧ ∃ b, earlier b ∧ t.Between objects b d)
      fun _ after d => after = context.noteAll names ∧ chosen ∧
        ∃ b, earlier b ∧ t.Treated objects b d := by
  rintro now d going ⟨rfl, isChosen, b, left, between⟩
  have ends := treats isChosen now b.nextVersion b.stored d between.touched.steady
    between.touched.later between.begun
  refine Work.Ends.mono ends ?_ ?_
  · rintro _ after e ⟨rfl, touched, done⟩
    have onward := (Context.cancelled_noteAll names now).trans going
    exact (landed_onward onward).2
      ⟨rfl, isChosen, b, left, between.touched.trans touched, done⟩
  · rintro failure after e ⟨rfl, touched, begun, faulty⟩
    have later : t.Between objects b e := ⟨between.touched.trans touched, begun⟩
    refine ⟨halts b e isChosen left later ?_, fun _ => ⟨going, rfl, isChosen, b, left, later⟩⟩
    exact fun able none => faulty able (between.touched.unfailing none)

section

variable (fit : care.Fit) (sound : c.Sound) (going : context.cancelled = false)
  {b d : Collection resource.kind}

include fit sound going

omit fit sound in
/-- A handler that fails before it has written anything has halted. -/
theorem halted_of_unwritten (unwritten : c.Unwritten d) (some : c.faults ≠ []) :
    Halted care context c context d :=
  ⟨going, fun slot _ => .inl (unwritten.alike.stored slot), fun _ => some⟩

omit fit sound in
/-- A handler that breaks off while it creates leaves desired objects at most. -/
theorem halted_of_creating
    (creating : care.creation.Between (care.plan context c).create c d)
    (faulty : care.creation.AbleAll c.stored (care.plan context c).create -> c.faults ≠ []) :
    Halted care context c context d := by
  refine ⟨going, .of_touched (creating.touched.mono ?_), fun able => faulty able.creates⟩
  exact (Care.create_sublist.map slotOf).subset

omit fit sound in
/-- A handler that breaks off while it deletes leaves no more than that. -/
theorem halted_of_deleting
    (created : care.creation.Treated (care.plan context c).create c b)
    (deleting : removing.Between (care.plan context c).delete b d) (some : b.faults ≠ []) :
    Halted care context c context d := by
  have within : Collection.Within (slotsOf care.desired) c b :=
    .of_touched (created.touched.mono (Care.create_sublist.map slotOf).subset)
  exact ⟨going, within.trans (.of_removing deleting),
    fun _ none => some (created.touched.unfailing none)⟩

/-- Objects that are to be written again can be when the change can be made, since nothing was
created or deleted in their slots. -/
theorem halted_of_renewing (cleared : care.Cleared c (care.plan context c) b)
    (renewing : care.renewal.Between (care.plan context c).update b d)
    (faulty : care.renewal.AbleAll b.stored (care.plan context c).update -> b.faults ≠ []) :
    Halted care context c context d := by
  refine ⟨going, ?_, ?_⟩
  · obtain ⟨created, creates, deletes⟩ := cleared
    have early : Collection.Within (slotsOf care.desired) c created :=
      .of_touched (creates.touched.mono (Care.create_sublist.map slotOf).subset)
    have removed : Collection.Within (slotsOf care.desired) created b :=
      .of_removing ⟨deletes.touched, fun object mem => .inr (.inl (deletes.done object mem))⟩
    have late : Collection.Within (slotsOf care.desired) b d :=
      .of_touched (renewing.touched.mono (fit.update_sublist.map slotOf).subset)
    exact early.trans (removed.trans late)
  · intro able none
    refine faulty ?_ (cleared.touched.unfailing none)
    intro object mem
    obtain ⟨notCreated, notDeleted⟩ := fit.update_fresh sound mem
    have before : b.stored (slotOf object) = c.stored (slotOf object) :=
      cleared.touched.elsewhere _ fun here =>
        (List.mem_append.1 here).elim notCreated notDeleted
    rw [before]
    exact able.renews object mem

end

/-- Deletions alone are a whole change. -/
theorem made_of_deleted (fit : care.Fit) (steady : c.Steady) (isDelete : context.event = .delete)
    {after : Context} {d : Collection resource.kind} (same : after = context)
    (deleted : removing.Treated (care.plan context c).delete c d) :
    after = context.noteAll (care.marks (care.plan context c).update) ∧
      care.Made c (care.plan context c) d := by
  rw [Care.plan_delete isDelete] at deleted ⊢
  refine ⟨?_, d, ⟨c, .nil steady, deleted⟩, .nil deleted.touched.steady⟩
  have unmarked : care.marks (ChangeSet.deletions (care.find c) care.desired).update = [] :=
    fit.unmarked
  rw [unmarked]
  exact same

/-! ## Handlers -/

section

variable (cares : resource.Cares care) (steady : c.Steady) (going : context.cancelled = false)
  (calm : ¬ care.Stops context c)

include cares steady going calm

/-- Reading tells what there is to be found, unless the pass is told to stop. -/
theorem Cares.reads :
    resource.currentState.Leads (View.collection resource.kind).around (Halted care context c)
      (fun after d => after = context ∧ c.Unwritten d)
      fun current after d => after = context ∧ c.Unwritten d ∧ current = care.find c := by
  rintro now d _ ⟨rfl, unwritten⟩
  refine Work.Ends.mono (cares.finds now d (unwritten.steady steady)) ?_ ?_
  · rintro current after e ⟨later, rfl, rfl⟩
    rw [cares.fit.alike unwritten.alike]
    have onward : ¬ (now.event = .apply && (care.find c).any Object.stopsPass) = true := by
      intro stops
      obtain ⟨isApply, stopping⟩ := Bool.and_eq_true_iff.1 stops
      exact calm ⟨of_decide_eq_true isApply, stopping⟩
    rw [if_neg onward]
    exact (landed_onward going).2 ⟨rfl, unwritten.trans later, rfl⟩
  · rintro failure after e ⟨rfl, later, some, -⟩
    have both := unwritten.trans later
    refine ⟨halted_of_unwritten going both ?_, fun _ => ⟨going, rfl, both⟩⟩
    exact fun none => some (List.subset_nil.1 (none ▸ unwritten.faults))

/-- The phases of bringing the objects about make the planned change. -/
theorem Cares.provides (isApply : context.event = .apply) :
    resource.Provides (View.collection resource.kind).around (Halted care context c)
      (fun after d => after = context ∧ c.Unwritten d)
      (fun current after d => after = context ∧ c.Unwritten d ∧ current = care.find c)
      (fun current desired after d => after = context ∧ c.Unwritten d ∧ current = care.find c ∧
        desired = care.desired)
      (fun change after d => after = context ∧ change = care.plan context c ∧
        ∃ b, b = c ∧ care.creation.Between change.create b d)
      (fun change after d => after = context ∧ change = care.plan context c ∧
        ∃ b, care.creation.Treated change.create c b ∧ removing.Between change.delete b d)
      (fun change after d => after = context ∧ change = care.plan context c ∧
        ∃ b, care.Cleared c change b ∧ care.renewal.Between change.update b d)
      fun after d =>
        after = context.noteAll (care.marks (care.plan context c).update) ∧
          care.Made c (care.plan context c) d where
  reads := cares.reads steady going calm
  desires current := by
    rw [cares.wants]
    refine Work.leads_pure ?_
    rintro after d _ ⟨same, unwritten, found⟩
    exact ⟨same, unwritten, found, rfl⟩
  patches current desired := by
    rintro now d _ ⟨rfl, unwritten, rfl, rfl⟩
    refine Work.Ends.mono (cares.compares (care.find c) now d) ?_ fun _ _ _ failed => failed.elim
    rintro change after e ⟨rfl, rfl, rfl⟩
    refine (landed_onward going).2 ⟨rfl, (Care.plan_apply isApply).symm, c, rfl, ?_⟩
    exact .of_alike steady unwritten.alike unwritten.faults
  createsNothing := by
    rintro change after d nothing ⟨same, chosen, b, rfl, between⟩
    refine ⟨same, chosen, d, ?_, .refl between.touched.steady⟩
    rw [nothing] at between ⊢
    exact between.treated_nil
  creates change _ := by
    have treats (chosen : change = care.plan context c) :
        (resource.applyCreate change.create).Treats care.creation [] change.create := by
      rw [chosen]
      exact cares.creates _ Care.create_sublist
    refine (leads_of_treats context _ (fun b => b = c) treats ?_).mono ?_
    · rintro b d chosen rfl between faulty
      rw [chosen] at between faulty
      exact halted_of_creating going between faulty
    · rintro _ after d ⟨same, chosen, b, rfl, treated⟩
      exact ⟨same, chosen, d, treated, .refl treated.touched.steady⟩
  deletesNothing := by
    rintro change after d nothing ⟨same, chosen, b, created, between⟩
    refine ⟨same, chosen, d, ⟨b, created, ?_⟩, .refl between.touched.steady⟩
    rw [nothing] at between ⊢
    exact between.treated_nil
  deletes change _ := by
    refine (leads_of_treats context (change = care.plan context c)
      (care.creation.Treated change.create c) (fun _ => cares.deletes _) ?_).mono ?_
    · rintro b d chosen created between faulty
      rw [chosen] at created between
      exact halted_of_deleting going created between (faulty fun _ _ => trivial)
    · rintro _ after d ⟨same, chosen, b, created, treated⟩
      exact ⟨same, chosen, d, ⟨b, created, treated⟩, .refl treated.touched.steady⟩
  updatesNothing := by
    rintro change after d nothing ⟨same, chosen, b, cleared, between⟩
    rw [nothing] at between
    have treated := between.treated_nil
    rw [← nothing] at treated
    rw [chosen] at nothing cleared treated
    rw [nothing, cares.fit.unmarked]
    exact ⟨same, b, cleared, treated⟩
  updates change _ := by
    have treats (chosen : change = care.plan context c) :
        (resource.applyUpdate change.update).Treats care.renewal (care.marks change.update)
          change.update := by
      rw [chosen]
      exact cares.renews _ cares.fit.update_sublist
    refine (leads_of_treats context _ (care.Cleared c change) treats ?_).mono ?_
    · rintro b d chosen cleared between faulty
      rw [chosen] at cleared between faulty
      exact halted_of_renewing cares.fit steady.sound going cleared between faulty
    · rintro _ after d ⟨same, chosen, b, cleared, treated⟩
      rw [chosen] at same cleared treated
      exact ⟨same, b, cleared, treated⟩

/-- The phases of taking the objects down make the planned change, which is one of deletions
alone. -/
theorem Cares.removes (isDelete : context.event = .delete) :
    resource.Removes (View.collection resource.kind).around (Halted care context c)
      (fun after d => after = context ∧ c.Unwritten d)
      (fun current after d => after = context ∧ c.Unwritten d ∧ current = care.find c)
      (fun current desired after d => after = context ∧ c.Unwritten d ∧ current = care.find c ∧
        desired = care.desired)
      (fun change after d => after = context ∧ change = care.plan context c ∧
        ∃ b, b = c ∧ removing.Between change.delete b d)
      fun after d =>
        after = context.noteAll (care.marks (care.plan context c).update) ∧
          care.Made c (care.plan context c) d where
  reads := cares.reads steady going calm
  desires current := by
    rw [cares.wants]
    refine Work.leads_pure ?_
    rintro after d _ ⟨same, unwritten, found⟩
    exact ⟨same, unwritten, found, rfl⟩
  patches current desired := by
    rintro now d _ ⟨rfl, unwritten, rfl, rfl⟩
    rw [cares.picks]
    refine Work.ends_pure.2 ((landed_onward going).2 ?_)
    refine ⟨rfl, (Care.plan_delete isDelete).symm, c, rfl, ?_⟩
    exact .of_alike steady unwritten.alike unwritten.faults
  deletesNothing := by
    rintro change after d nothing ⟨same, chosen, b, rfl, between⟩
    rw [nothing] at between
    have treated := between.treated_nil
    rw [← nothing, chosen] at treated
    exact made_of_deleted cares.fit steady isDelete same treated
  deletes change _ := by
    refine (leads_of_treats context (change = care.plan context c) (fun b => b = c)
      (fun _ => cares.deletes _) ?_).mono ?_
    · rintro b d chosen rfl between faulty
      rw [chosen] at between
      have created : care.creation.Treated (care.plan context b).create b b := by
        rw [Care.plan_delete isDelete]
        exact .nil steady
      exact halted_of_deleting going created between (faulty fun _ _ => trivial)
    · rintro _ after d ⟨same, chosen, b, rfl, treated⟩
      rw [chosen] at treated
      exact made_of_deleted cares.fit steady isDelete same treated

/-- A handler that ends well has made the change that was planned for what was found, and has
noted what it is to note. -/
theorem Cares.handles (policy : RetryPolicy) (scope : String) :
    (Pass.handle context.event (wrapped policy scope resource)).Reaches
      (View.collection resource.kind).around (Halted care context c)
      (fun after d => after = context.noteAll (care.marks (care.plan context c).update) ∧
        care.Made c (care.plan context c) d)
      context c := by
  cases isEvent : context.event with
  | apply =>
    have provides := (cares.provides steady going calm isEvent).wrapped policy scope
    exact provides.ensureCreated going ⟨rfl, .refl⟩
  | delete =>
    have removes := (cares.removes steady going calm isEvent).wrapped policy scope
    exact removes.ensureDeleted going ⟨rfl, .refl⟩

end

/-- Taking down objects of which none is found only reads. -/
theorem Cares.idles (cares : resource.Cares care) (steady : c.Steady)
    (nothing : care.find c = []) (isDelete : context.event = .delete)
    (going : context.cancelled = false) (policy : RetryPolicy) (scope : String) :
    (Pass.handle .delete (wrapped policy scope resource)).Reaches
      (View.collection resource.kind).around (fun _ d => c.Unwritten d)
      (fun after d => after = context ∧ c.Unwritten d) context c := by
  have reads : resource.currentState.Leads (View.collection resource.kind).around
      (fun _ d => c.Unwritten d) (fun after d => after = context ∧ c.Unwritten d)
      fun current after d => after = context ∧ c.Unwritten d ∧ current = [] := by
    rintro now d _ ⟨rfl, unwritten⟩
    refine Work.Ends.mono (cares.finds now d (unwritten.steady steady)) ?_ ?_
    · rintro current after e ⟨later, rfl, rfl⟩
      rw [cares.fit.alike unwritten.alike, nothing, isDelete]
      exact (landed_onward going).2 ⟨rfl, unwritten.trans later, rfl⟩
    · rintro failure after e ⟨rfl, later, -, -⟩
      have both := unwritten.trans later
      exact ⟨both, fun _ => ⟨going, rfl, both⟩⟩
  have removes : resource.Removes (View.collection resource.kind).around
      (fun _ d => c.Unwritten d) (fun after d => after = context ∧ c.Unwritten d)
      (fun current after d => after = context ∧ c.Unwritten d ∧ current = [])
      (fun current desired after d => after = context ∧ c.Unwritten d ∧ current = [] ∧
        desired = care.desired)
      (fun change after d => after = context ∧ c.Unwritten d ∧ change.delete = [])
      fun after d => after = context ∧ c.Unwritten d :=
    { reads := reads
      desires := fun current => by
        rw [cares.wants]
        exact Work.leads_pure fun after d _ ⟨same, unwritten, read⟩ => ⟨same, unwritten, read, rfl⟩
      patches := by
        rintro current desired now d _ ⟨rfl, unwritten, rfl, rfl⟩
        rw [cares.picks]
        exact Work.ends_pure.2 ((landed_onward going).2 ⟨rfl, unwritten, rfl⟩)
      deletesNothing := fun change after d _ ⟨same, unwritten, _⟩ => ⟨same, unwritten⟩
      deletes := by
        rintro change some after d _ ⟨-, -, nothing⟩
        exact absurd nothing some }
  exact (removes.wrapped policy scope).ensureDeleted going ⟨rfl, .refl⟩

end

end Resource

end GuestFleet
