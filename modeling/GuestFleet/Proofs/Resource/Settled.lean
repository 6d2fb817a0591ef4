import GuestFleet.Proofs.Resource.Settling

/-!
# Handlers that have settled their objects

A handler that ends well has settled the objects of its kind, whatever was stored before
and however often a phase was tried. Over settled objects it only reads, save that one
deployment may be rolled.
-/

namespace GuestFleet

open Kube (Kind Object)
open Store (Collection Slot View slotOf)
open Request (slotsOf)

/-! ## Rolling -/

section

variable {kind : Kind}

/-- A desired deployment that differs from the one that is stored. -/
structure Differs (desired : List (Object kind)) (c : Collection kind) (object : Object kind) :
    Prop where
  isDeployment : kind = .deployment
  wanted : object ∈ desired
  modified : ∃ existing, c.stored (slotOf object) = some existing ∧
    existing.isModified object = true

/-- Nothing was written but one deployment, which had differed. -/
structure Rolled (desired : List (Object kind)) (c d : Collection kind) : Prop where
  replaced : ∃ object, Differs desired c object ∧ (c.insert object).Alike d
  calls : ∃ new, d.calls = new ++ c.calls ∧ new.count .replace = 1 ∧
    ∀ operation ∈ new, operation = .get ∨ operation = .list ∨ operation = .replace

/-- Nothing was written, or one deployment was rolled. -/
def Rested (desired : List (Object kind)) (c d : Collection kind) : Prop :=
  c.Unwritten d ∨ Rolled desired c d

/-- A change that is left to be made of settled objects. -/
structure Leftover (desired : List (Object kind)) (c : Collection kind) (change : ChangeSet kind) :
    Prop where
  create : change.create = []
  delete : change.delete = []
  update : change.update = [] ∨ ∃ object, change.update = [object] ∧ Differs desired c object

end

/-- The pass is to bring objects about, and has replaced no config map. -/
structure Context.Fresh (context : Context) : Prop where
  isApply : context.event = .apply
  updated : context.updatedConfigMaps = []

namespace Resource

/-! ## Settling -/

section

variable {id : String} {resource : Resource Program} {sees : Slot -> Prop}
  {desired : List (Object resource.kind)}

/-- What a handler knows after it has read the objects of a cluster. -/
structure Known (id : String) (sees : Slot -> Prop) (current : List (Object resource.kind))
    (c : Collection resource.kind) : Prop where
  steady : c.Steady
  owned : c.Owned id
  reading : IsReading sees c current
  calm : ∀ object ∈ current, object.stopsPass = false

/-- How far a handler has come with a change, by what may still be missing, stale or in
surplus. -/
structure AtWork (sees : Slot -> Prop) (desired : List (Object resource.kind))
    (missing stale : Object resource.kind -> Prop) (surplus : Slot -> Prop)
    (change : ChangeSet resource.kind) (context : Context) (c : Collection resource.kind) :
    Prop where
  isApply : context.event = .apply
  proper : Proper desired change
  underway : Underway sees desired missing stale surplus c

section

variable {missing stale missingAfter staleAfter : Object resource.kind -> Prop}
  {surplus surplusAfter : Slot -> Prop} {change : ChangeSet resource.kind} {context : Context}
  {c : Collection resource.kind}

/-- A handler that has come so far has also come less far. -/
theorem AtWork.mono (atWork : AtWork sees desired missing stale surplus change context c)
    (missings : ∀ object, missing object -> missingAfter object)
    (stales : ∀ object, stale object -> staleAfter object)
    (surpluses : ∀ slot, surplus slot -> surplusAfter slot) :
    AtWork sees desired missingAfter staleAfter surplusAfter change context c :=
  ⟨atWork.isApply, atWork.proper, atWork.underway.mono missings stales surpluses⟩

/-- What a part of a pass leads to that only makes progress. -/
theorem leads_of_advances {work : Work Program Unit}
    (advances : Proper desired change -> work.Advances sees desired missing stale surplus
      missingAfter staleAfter surplusAfter) :
    work.Leads (View.collection resource.kind).around (fun _ _ => True)
      (AtWork sees desired missing stale surplus change)
      fun _ => AtWork sees desired missingAfter staleAfter surplusAfter change := by
  rintro context c going ⟨isApply, proper, underway⟩
  refine Work.Ends.mono (advances proper context c underway) ?_ ?_
  · rintro _ after d ⟨⟨sameEvent, same⟩, done⟩
    exact (landed_onward (same.trans going)).2 ⟨sameEvent.trans isApply, proper, done⟩
  · rintro _ after d ⟨⟨sameEvent, same⟩, broken⟩
    exact ⟨trivial, fun _ => ⟨same.trans going, sameEvent.trans isApply, proper, broken⟩⟩

end

/-- Reading stops the pass, or tells what is stored. -/
theorem Tends.reads (tends : resource.Tends id sees desired) :
    resource.currentState.Leads (View.collection resource.kind).around (fun _ _ => True)
      (fun context c => context.event = .apply ∧ c.Steady ∧ c.Owned id)
      fun current context c => context.event = .apply ∧ Known id sees current c := by
  rintro context c going ⟨isApply, steady, owned⟩
  refine Work.Ends.mono (tends.looks context c steady owned) ?_ ?_
  · rintro current after d ⟨unwritten, reading, rfl⟩
    by_cases stops : (context.event = .apply && current.any Object.stopsPass) = true
    · rw [if_pos stops]
      exact (landed_rest rfl).2 trivial
    · rw [if_neg stops]
      refine (landed_onward going).2 ⟨isApply, unwritten.steady steady,
        unwritten.alike.owned owned, ?_, ?_⟩
      · intro object
        rw [unwritten.alike.stored]
        exact reading object
      · simpa [isApply] using stops
  · rintro failure after d ⟨rfl, unwritten, -, -⟩
    exact ⟨trivial, fun _ => ⟨going, isApply, unwritten.steady steady,
      unwritten.alike.owned owned⟩⟩

/-- Comparing finds everything that is missing, stale or in surplus. -/
theorem Tends.atWork (tends : resource.Tends id sees desired) {context : Context}
    {current : List (Object resource.kind)} {change : ChangeSet resource.kind}
    {c : Collection resource.kind} (isApply : context.event = .apply)
    (known : Known id sees current c) (compared : Compared context current desired change) :
    AtWork sees desired (· ∈ change.create) (· ∈ change.update) (· ∈ slotsOf change.delete) change
      context c := by
  refine ⟨isApply, ⟨?_, ?_, compared.within, ?_⟩, ?_⟩
  · rw [compared.create]
    exact List.filter_subset_self _
  · rw [compared.delete]
    intro object mem
    exact ((known.reading.mem_obsolete known.owned tends.target).1 mem).2
  · intro notDeployment object mem
    rw [compared.all notDeployment] at mem
    obtain ⟨-, existing, -, differs⟩ :=
      (known.reading.mem_modified known.steady.sound known.owned tends.target).1 mem
    exact ⟨existing, differs⟩
  · rw [compared.create, compared.delete]
    exact underway_of_reading known.steady known.owned known.reading known.calm tends.target
      compared.all

/-- The phases of bringing the objects about take everything off the lists. -/
theorem Tends.provides (tends : resource.Tends id sees desired) :
    resource.Provides (View.collection resource.kind).around (fun _ _ => True)
      (fun context c => context.event = .apply ∧ c.Steady ∧ c.Owned id)
      (fun current context c => context.event = .apply ∧ Known id sees current c)
      (fun current wanted context c => wanted = desired ∧ context.event = .apply ∧
        Known id sees current c)
      (fun change => AtWork sees desired (· ∈ change.create) (· ∈ change.update)
        (· ∈ slotsOf change.delete) change)
      (fun change => AtWork sees desired (fun _ => False) (· ∈ change.update)
        (· ∈ slotsOf change.delete) change)
      (fun change => AtWork sees desired (· ∈ change.update) (· ∈ change.update)
        (fun _ => False) change)
      fun context c => context.event = .apply ∧ Settled sees desired c where
  reads := tends.reads
  desires current := by
    rw [tends.wants]
    exact Work.leads_pure fun context c going holds => ⟨rfl, holds⟩
  patches current wanted := by
    rintro context c going ⟨rfl, isApply, known⟩
    refine Work.Ends.mono (tends.compares current context c) ?_ fun _ _ _ failed => failed.elim
    rintro change after d ⟨rfl, rfl, compared⟩
    exact (landed_onward going).2 (tends.atWork isApply known compared)
  createsNothing := by
    intro change context c nothing atWork
    refine atWork.mono ?_ (fun _ held => held) fun _ held => held
    simp [nothing]
  creates change _ := by
    refine leads_of_advances fun proper => ?_
    refine (tends.creates change.create proper.creates _ _ _).mono ?_ (fun _ held => held)
      fun _ held => held
    rintro object ⟨isMissing, notAmong⟩
    exact notAmong isMissing
  deletesNothing := by
    intro change context c nothing atWork
    refine atWork.mono (fun _ held => held.elim) (fun _ held => held) ?_
    simp [nothing]
  deletes change _ := by
    refine leads_of_advances fun proper => ?_
    refine (tends.deletes change.delete proper.deletes _ _ _).mono (fun _ held => held.elim)
      (fun _ held => held) ?_
    rintro slot ⟨isSurplus, notAmong⟩
    exact notAmong isSurplus
  updatesNothing := by
    intro change context c nothing atWork
    refine ⟨atWork.isApply, atWork.underway.mono ?_ ?_ fun _ held => held⟩
    · simp [nothing]
    · simp [nothing]
  updates change _ := by
    have advances := leads_of_advances fun proper : Proper desired change =>
      tends.updates change.update proper.updates proper.differs (· ∈ change.update)
        (· ∈ change.update) (fun _ => False) fun _ mem => mem
    refine advances.mono ?_
    intro _ context c atWork
    refine ⟨atWork.isApply, atWork.underway.mono ?_ ?_ fun _ held => held⟩
    · rintro object ⟨isMissing, notAmong⟩
      exact notAmong isMissing
    · rintro object ⟨isStale, notAmong⟩
      exact notAmong isStale

/-- The handler of a resource settles its objects, if it ends well. -/
theorem Tends.settles (tends : resource.Tends id sees desired) (policy : RetryPolicy)
    (scope : String) {context : Context} {c : Collection resource.kind}
    (going : context.cancelled = false) (isApply : context.event = .apply) (steady : c.Steady)
    (owned : c.Owned id) :
    (Pass.handle .apply (wrapped policy scope resource)).Reaches
      (View.collection resource.kind).around (fun _ _ => True)
      (fun context c => context.event = .apply ∧ Settled sees desired c) context c :=
  (tends.provides.wrapped policy scope).ensureCreated going ⟨isApply, steady, owned⟩

end

/-! ## Resting -/

section

variable {kind : Kind} {id : String} {sees : Slot -> Prop} {desired current : List (Object kind)}
  {c d : Collection kind}

/-- Settled objects tell no pass to stop. -/
theorem calm_of_settled (settled : Settled sees desired c) (reading : IsReading sees c current) :
    current.any Object.stopsPass = false := by
  rw [List.any_eq_false]
  intro object mem
  obtain ⟨seen, stored⟩ := (reading object).1 mem
  have held : (c.stored (slotOf object)).isSome = true := by simp [stored]
  rcases settled.occupied _ seen held with isSurplus | ⟨wanted, among, same⟩
  · exact isSurplus.elim
  · rw [← same] at stored
    have good := settled.good wanted among not_false object stored
    simp [good.going]

/-- What comparing leaves to be done about settled objects. -/
theorem leftover_of_settled (settled : Settled sees desired c) (owned : c.Owned id)
    (target : Target id sees desired) (reading : IsReading sees c current) {context : Context}
    {change : ChangeSet kind} (compared : Compared context current desired change)
    (fresh : context.Fresh) : Leftover desired c change := by
  have sound := settled.steady.sound
  have noneCreated : Diff.created current desired = [] := by
    apply List.eq_nil_iff_forall_not_mem.2
    intro object mem
    obtain ⟨wanted, absent⟩ := (reading.mem_created sound owned target).1 mem
    have present := settled.present object wanted not_false
    rw [absent] at present
    cases present
  have noneObsolete : Diff.obsolete current desired = [] := by
    apply List.eq_nil_iff_forall_not_mem.2
    intro object mem
    obtain ⟨among, unwanted⟩ := (reading.mem_obsolete owned target).1 mem
    obtain ⟨seen, stored⟩ := (reading object).1 among
    have held : (c.stored (slotOf object)).isSome = true := by simp [stored]
    rcases settled.occupied _ seen held with isSurplus | ⟨wanted, mem, own⟩
    · exact isSurplus
    · exact unwanted wanted mem own
  refine ⟨compared.create.trans noneCreated, compared.delete.trans noneObsolete, ?_⟩
  by_cases isDeployment : kind = .deployment
  · have within := compared.rolled isDeployment fresh.updated
    cases rolled : change.update with
    | nil => exact .inl rfl
    | cons object others =>
      rw [rolled] at within
      have short : (object :: others).length ≤ 1 :=
        within.length_le.trans (List.length_take_le 1 _)
      have alone : others = [] := by
        apply List.length_eq_zero_iff.1
        simp only [List.length_cons] at short
        omega
      have mem := List.mem_of_mem_take (within.subset List.mem_cons_self)
      obtain ⟨wanted, differs⟩ := (reading.mem_modified sound owned target).1 mem
      exact .inr ⟨object, by rw [alone], isDeployment, wanted, differs⟩
  · left
    rw [compared.all isDeployment]
    apply List.eq_nil_iff_forall_not_mem.2
    intro object mem
    obtain ⟨wanted, existing, stored, differs⟩ :=
      (reading.mem_modified sound owned target).1 mem
    have same := (settled.good object wanted not_false existing stored).same isDeployment
    rw [same] at differs
    cases differs

/-- Writing a deployment that differs, after nothing else was written, rolls it. -/
theorem rolled_of_insert (unwritten : c.Unwritten d) {object : Object kind}
    (differs : Differs desired c object) :
    Rolled desired c ((d.called .replace).insert object) := by
  obtain ⟨new, calls, reads⟩ := unwritten.calls
  refine ⟨⟨object, differs, Collection.Alike.insert unwritten.alike object⟩,
    .replace :: new, ?_, ?_, ?_⟩
  · have grown : (d.called .replace).calls = .replace :: d.calls := rfl
    exact grown.trans (congrArg (Store.Operation.replace :: ·) calls)
  · have unreplaced : Store.Operation.replace ∉ new := by
      intro mem
      rcases reads _ mem with isGet | isList
      · cases isGet
      · cases isList
    simp [List.count_eq_zero_of_not_mem unreplaced]
  · intro operation mem
    rcases List.mem_cons.1 mem with rfl | mem
    · exact .inr (.inr rfl)
    · exact (reads operation mem).imp id .inl

/-- A deployment that is there is written in its own place, when nothing is to fail. -/
theorem ends_roll (unwritten : c.Unwritten d) (unfailing : c.faults = []) {object : Object kind}
    (differs : Differs desired c object)
    (unversioned : object.metadata.resourceVersion = none) :
    (Request.replaceAll [object]).Ends (View.collection kind).around d
      (fun _ e => Rolled desired c e) fun _ _ => False := by
  obtain ⟨existing, stored, -⟩ := differs.modified
  have there : d.stored (slotOf object) = some existing :=
    (unwritten.alike.stored _).trans stored
  have noFaults : d.faults = [] := by
    have fewer := unwritten.faults
    rw [unfailing] at fewer
    exact List.subset_nil.1 fewer
  refine Request.ends_bind.2 (Request.ends_replaceOne ?_ ?_ ?_ ?_)
  · intro other _ _
    exact Request.ends_pure.2 (rolled_of_insert unwritten differs)
  · intro other _ refused
    rw [Collection.mayReplace, unversioned] at refused
    cases refused
  · intro absent
    rw [absent] at there
    cases there
  · intro fault mem
    rw [noFaults] at mem
    cases mem

end

section

variable {id : String} {resource : Resource Program} {sees : Slot -> Prop}
  {desired : List (Object resource.kind)} {c : Collection resource.kind}

/-- Over settled objects, and with nothing to fail, every phase but the last one only
reads. -/
theorem Tends.reposes (tends : resource.Tends id sees desired) (settled : Settled sees desired c)
    (owned : c.Owned id) (unfailing : c.faults = []) :
    resource.Provides (View.collection resource.kind).around (fun _ _ => False)
      (fun context d => context.Fresh ∧ d = c)
      (fun current context d => context.Fresh ∧ IsReading sees c current ∧ c.Unwritten d)
      (fun current wanted context d => wanted = desired ∧ context.Fresh ∧
        IsReading sees c current ∧ c.Unwritten d)
      (fun change context d => context.Fresh ∧ Leftover desired c change ∧ c.Unwritten d)
      (fun change context d => context.Fresh ∧ Leftover desired c change ∧ c.Unwritten d)
      (fun change context d => context.Fresh ∧ Leftover desired c change ∧ c.Unwritten d)
      fun context d => context.Fresh ∧ Rested desired c d where
  reads := by
    rintro context d going ⟨fresh, rfl⟩
    refine Work.Ends.mono (tends.looks context d settled.steady owned) ?_ ?_
    · rintro current after e ⟨unwritten, reading, rfl⟩
      rw [calm_of_settled settled reading, Bool.and_false, if_neg Bool.false_ne_true]
      exact (landed_onward going).2 ⟨fresh, reading, unwritten⟩
    · rintro failure after e ⟨-, -, faulty, -⟩
      exact absurd unfailing faulty
  desires current := by
    rw [tends.wants]
    exact Work.leads_pure fun context d going holds => ⟨rfl, holds⟩
  patches current wanted := by
    rintro context d going ⟨rfl, fresh, reading, unwritten⟩
    refine Work.Ends.mono (tends.compares current context d) ?_ fun _ _ _ failed => failed.elim
    rintro change after e ⟨rfl, rfl, compared⟩
    have leftover := leftover_of_settled settled owned tends.target reading compared fresh
    exact (landed_onward going).2 ⟨fresh, leftover, unwritten⟩
  createsNothing change context d _ holds := holds
  creates change something := by
    rintro context d going ⟨-, leftover, -⟩
    exact absurd leftover.create something
  deletesNothing change context d _ holds := holds
  deletes change something := by
    rintro context d going ⟨-, leftover, -⟩
    exact absurd leftover.delete something
  updatesNothing := by
    rintro change context d nothing ⟨fresh, -, unwritten⟩
    exact ⟨fresh, .inl unwritten⟩
  updates change something := by
    rintro context d going ⟨fresh, leftover, unwritten⟩
    rcases leftover.update with nothing | ⟨object, alone, differs⟩
    · exact absurd nothing something
    · have unversioned := tends.target.unversioned object differs.wanted
      have rolls := ends_roll unwritten unfailing differs unversioned
      rw [alone, tends.rolls differs.isDeployment]
      refine Work.ends_ofRequest.2 (Request.Ends.mono rolls ?_ fun _ _ failed => failed.elim)
      intro _ e rolled
      exact (landed_onward going).2 ⟨fresh, .inr rolled⟩

/-- The handler of a resource lets settled objects rest. -/
theorem Tends.rests (tends : resource.Tends id sees desired) (settled : Settled sees desired c)
    (owned : c.Owned id) (unfailing : c.faults = []) (policy : RetryPolicy) (scope : String)
    {context : Context} (going : context.cancelled = false) (fresh : context.Fresh) :
    (Pass.handle .apply (wrapped policy scope resource)).Reaches
      (View.collection resource.kind).around (fun _ _ => False)
      (fun context d => context.Fresh ∧ Rested desired c d) context c :=
  ((tends.reposes settled owned unfailing).wrapped policy scope).ensureCreated going ⟨fresh, rfl⟩

end

end Resource

end GuestFleet
