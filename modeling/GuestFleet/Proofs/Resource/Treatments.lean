import GuestFleet.Proofs.Resource.Progress
import GuestFleet.Proofs.Store.Touched

/-!
# What requests do to their objects

Every request for many objects treats each of them by what was stored in its slot before the
first try. A try that breaks off leaves an object untreated or treated, and the next try
treats it once more to the same end; that is why it does not matter how often a request was
tried.
-/

namespace GuestFleet

open Kube (Kind Object)
open Store (Collection Fault Slot View slotOf)
open Store.Collection (Touched takeFault mayReplace)
open Request (slotsOf)

variable {kind : Kind}

/-! ## Treatments -/

/-- What becomes of the object in a slot. -/
inductive Fate (kind : Kind) where
  | stays
  | goes
  | written (object : Object kind)

/-- The slot holds what the fate makes of what it held before. What is written carries a
version that is not before the first one. -/
def Fate.Befalls (first : Nat) (before held : Option (Object kind)) : Fate kind -> Prop
  | .stays => held = before
  | .goes => held = none
  | .written object => ∃ version, first ≤ version ∧ held = some (object.dated version)

/-- What a request does to an object, by what its slot held before. -/
structure Treatment (kind : Kind) where
  /-- The request can end well. -/
  able : Object kind -> Option (Object kind) -> Prop
  fate : Object kind -> Option (Object kind) -> Fate kind
  /-- The slot may be empty for a moment. -/
  vacates : Prop := False

namespace Treatment

/-- The treatment of an object is over. -/
structure Done (t : Treatment kind) (first : Nat) (object : Object kind)
    (before held : Option (Object kind)) : Prop where
  able : t.able object before
  befallen : (t.fate object before).Befalls first before held

/-- The object is untreated, treated, or in between. -/
def Begun (t : Treatment kind) (first : Nat) (object : Object kind)
    (before held : Option (Object kind)) : Prop :=
  held = before ∨ t.Done first object before held ∨ (t.vacates ∧ held = none)

/-- Each of the objects is treated, by what its slot held before. -/
def DoneAll (t : Treatment kind) (first : Nat) (before : Slot -> Option (Object kind))
    (objects : List (Object kind)) (c : Collection kind) : Prop :=
  ∀ object ∈ objects, t.Done first object (before (slotOf object)) (c.stored (slotOf object))

def BegunAll (t : Treatment kind) (first : Nat) (before : Slot -> Option (Object kind))
    (objects : List (Object kind)) (c : Collection kind) : Prop :=
  ∀ object ∈ objects, t.Begun first object (before (slotOf object)) (c.stored (slotOf object))

/-- Each of the objects can be treated. -/
def AbleAll (t : Treatment kind) (before : Slot -> Option (Object kind))
    (objects : List (Object kind)) : Prop :=
  ∀ object ∈ objects, t.able object (before (slotOf object))

/-- Two objects are treated alike. -/
def Same (t : Treatment kind) (a b : Object kind) : Prop :=
  t.able a = t.able b ∧ t.fate a = t.fate b

/-- An object that is treated alike is treated by the same calls. -/
theorem Same.done {t : Treatment kind} {a b : Object kind} (same : t.Same a b) {first : Nat}
    {before held : Option (Object kind)} (done : t.Done first a before held) :
    t.Done first b before held := by
  obtain ⟨ables, fates⟩ := same
  refine ⟨?_, ?_⟩
  · rw [← ables]
    exact done.able
  · rw [← fates]
    exact done.befallen

/-- And it is begun by the same calls. -/
theorem Same.begun {t : Treatment kind} {a b : Object kind} (same : t.Same a b) {first : Nat}
    {before held : Option (Object kind)} (begun : t.Begun first a before held) :
    t.Begun first b before held :=
  begun.imp id (Or.imp_left same.done)

/-- Objects in one slot are treated alike. -/
def Uniform (t : Treatment kind) (objects : List (Object kind)) : Prop :=
  ∀ a ∈ objects, ∀ b ∈ objects, slotOf a = slotOf b -> t.Same a b

/-- Where no two objects are in the same slot there is nothing to disagree about. -/
theorem uniform_of_apart (t : Treatment kind) {objects : List (Object kind)}
    (apart : Apart objects) : t.Uniform objects := by
  intro a memA b memB same
  obtain rfl := apart.eq memA memB same
  exact ⟨rfl, rfl⟩

section

variable {t : Treatment kind} {first : Nat} {before : Slot -> Option (Object kind)}
  {object : Object kind} {objects : List (Object kind)} {c d : Collection kind}

/-- What was begun in the slot of one object was begun for every object in that slot. -/
theorem BegunAll.touched (begunAll : t.BegunAll first before objects c)
    (uniform : t.Uniform objects) (mem : object ∈ objects) (touched : Touched [slotOf object] c d)
    (begun : t.Begun first object (before (slotOf object)) (d.stored (slotOf object))) :
    t.BegunAll first before objects d := by
  intro other among
  by_cases here : slotOf other = slotOf object
  · rw [here]
    exact (uniform object mem other among here.symm).begun begun
  · rw [touched.elsewhere _ fun same => here (List.mem_singleton.1 same)]
    exact begunAll other among

/-- What is said of the first object's slot is still true after calls for the others, unless
one of them is in that slot, and then it is said of that one too. -/
theorem forall_cons {p : Object kind -> Option (Object kind) -> Prop}
    (alike : ∀ a ∈ object :: objects, ∀ b ∈ object :: objects, slotOf a = slotOf b ->
      ∀ held, p a held -> p b held)
    (head : p object (c.stored (slotOf object))) (touched : Touched (slotsOf objects) c d)
    (tail : ∀ other ∈ objects, p other (d.stored (slotOf other))) :
    ∀ other ∈ object :: objects, p other (d.stored (slotOf other)) := by
  intro other mem
  rcases List.mem_cons.1 mem with rfl | among
  · by_cases again : slotOf other ∈ slotsOf objects
    · obtain ⟨later, memLater, here⟩ := List.mem_map.1 again
      rw [← here]
      exact alike later (List.mem_cons_of_mem _ memLater) other mem here _ (tail later memLater)
    · rwa [touched.elsewhere _ again]
  · exact tail other among

/-- An object that was begun stays so while those behind it are begun. -/
theorem BegunAll.cons (begunAll : t.BegunAll first before objects d)
    (uniform : t.Uniform (object :: objects))
    (begun : t.Begun first object (before (slotOf object)) (c.stored (slotOf object)))
    (touched : Touched (slotsOf objects) c d) : t.BegunAll first before (object :: objects) d := by
  refine forall_cons ?_ begun touched begunAll
  intro a memA b memB here held
  rw [here]
  exact (uniform a memA b memB here).begun

/-- An object that was treated stays so while those behind it are treated. -/
theorem DoneAll.cons (doneAll : t.DoneAll first before objects d)
    (uniform : t.Uniform (object :: objects))
    (done : t.Done first object (before (slotOf object)) (c.stored (slotOf object)))
    (touched : Touched (slotsOf objects) c d) : t.DoneAll first before (object :: objects) d := by
  refine forall_cons ?_ done touched doneAll
  intro a memA b memB here held
  rw [here]
  exact (uniform a memA b memB here).done

end

end Treatment

/-! ## Requests -/

namespace Request

/-- Every end of the request leaves each object treated or, if it fails, begun; a failure
comes of an object that cannot be treated or of one that was ordered. -/
def Treats (t : Treatment kind) (objects : List (Object kind)) (request : Request α) : Prop :=
  ∀ (first : Nat) (before : Slot -> Option (Object kind)) (c : Collection kind), c.Steady ->
    first ≤ c.nextVersion -> t.BegunAll first before objects c ->
      request.Ends (View.collection kind).around c
        (fun _ d => Touched (slotsOf objects) c d ∧ t.DoneAll first before objects d)
        fun _ d => Touched (slotsOf objects) c d ∧ t.BegunAll first before objects d ∧
          (t.AbleAll before objects -> c.faults ≠ [])

section

variable {t : Treatment kind}

/-- The first object is in the slots of all. -/
theorem slotsOf_head {object : Object kind} {objects : List (Object kind)} :
    slotsOf [object] ⊆ slotsOf (object :: objects) := by
  intro slot mem
  rw [List.mem_singleton.1 mem]
  exact List.mem_cons_self

/-- And so are the others. -/
theorem slotsOf_tail {object : Object kind} {objects : List (Object kind)} :
    slotsOf objects ⊆ slotsOf (object :: objects) := List.subset_cons_self _ _

/-- A single object is treated when its slot is. -/
theorem treats_single {object : Object kind} {request : Request α}
    (ends : ∀ (first : Nat) (before : Option (Object kind)) (c : Collection kind), c.Steady ->
      first ≤ c.nextVersion -> t.Begun first object before (c.stored (slotOf object)) ->
        request.Ends (View.collection kind).around c
          (fun _ d => Touched [slotOf object] c d ∧
            t.Done first object before (d.stored (slotOf object)))
          fun _ d => Touched [slotOf object] c d ∧
            t.Begun first object before (d.stored (slotOf object)) ∧
            (t.able object before -> c.faults ≠ [])) :
    request.Treats t [object] := by
  intro first before c steady late begun
  have own := begun object List.mem_cons_self
  refine Ends.mono (ends first (before (slotOf object)) c steady late own) ?_ ?_
  · rintro _ d ⟨touched, done⟩
    refine ⟨touched, fun other mem => ?_⟩
    rwa [List.mem_singleton.1 mem]
  · rintro _ d ⟨touched, left, faulty⟩
    refine ⟨touched, fun other mem => ?_, fun able => faulty (able object List.mem_cons_self)⟩
    rwa [List.mem_singleton.1 mem]

/-- The objects of a list are treated one after the other. The induction is on the list; what
was done to a slot is done to it for every object in that slot. -/
theorem treats_each (one : Object kind -> Request β) {each : List (Object kind) -> Request Unit}
    (nothing : each [] = pure ())
    (next : ∀ object objects, each (object :: objects) = one object >>= fun _ => each objects)
    {objects : List (Object kind)} (uniform : t.Uniform objects)
    (treats : ∀ object ∈ objects, (one object).Treats t [object]) :
    (each objects).Treats t objects := by
  intro first before c steady late begun
  induction objects generalizing c with
  | nil =>
    rw [nothing]
    exact ends_pure.2 ⟨.refl steady, fun _ mem => absurd mem List.not_mem_nil⟩
  | cons object objects ih =>
    rw [next]
    have memHead : object ∈ object :: objects := List.mem_cons_self
    have begunHead : t.BegunAll first before [object] c := by
      intro other mem
      rw [List.mem_singleton.1 mem]
      exact begun object memHead
    have treatsHead := treats object memHead first before c steady late begunHead
    refine ends_bind.2 (Ends.mono treatsHead ?_ ?_)
    · rintro _ d ⟨touched, doneHead⟩
      have done := doneHead object List.mem_cons_self
      have begunTail : t.BegunAll first before objects d := by
        have all := begun.touched uniform memHead touched (.inr (.inl done))
        exact fun other mem => all other (List.mem_cons_of_mem _ mem)
      have treatsTail := ih
        (fun a memA b memB => uniform a (List.mem_cons_of_mem _ memA) b
          (List.mem_cons_of_mem _ memB))
        (fun other mem => treats other (List.mem_cons_of_mem _ mem)) d touched.steady
        (late.trans touched.later) begunTail
      refine Ends.mono treatsTail ?_ ?_
      · rintro _ e ⟨touchedTail, doneTail⟩
        exact ⟨(touched.mono slotsOf_head).trans (touchedTail.mono slotsOf_tail),
          doneTail.cons uniform done touchedTail⟩
      · rintro _ e ⟨touchedTail, leftTail, faulty⟩
        refine ⟨(touched.mono slotsOf_head).trans (touchedTail.mono slotsOf_tail),
          leftTail.cons uniform (.inr (.inl done)) touchedTail, ?_⟩
        intro able none
        exact faulty (fun other mem => able other (List.mem_cons_of_mem _ mem))
          (touched.unfailing none)
    · rintro _ d ⟨touched, left, faulty⟩
      refine ⟨touched.mono slotsOf_head,
        begun.touched uniform memHead touched (left object List.mem_cons_self), ?_⟩
      intro able
      refine faulty fun other mem => ?_
      rw [List.mem_singleton.1 mem]
      exact able object memHead

end

/-! ## The requests of resources -/

/-- An object is created unless there is one in its slot. -/
def creating : Treatment kind where
  able _ _ := True
  fate
    | object, none => .written object
    | _, some _ => .stays

/-- An object is taken away, if it is there. -/
def removing : Treatment kind where
  able _ _ := True
  fate _ _ := .goes

/-- An object takes the place of the one in its slot. -/
def replacing : Treatment kind where
  able _ before := before.isSome = true
  fate object _ := .written object

/-- An object is left as it is. -/
def leaving : Treatment kind where
  able _ _ := True
  fate _ _ := .stays

/-- Creating one object treats it, as often as it is tried. -/
theorem treats_createOne (object : Object kind) :
    (createOne object).Treats creating [object] := by
  refine treats_single fun first before c steady late begun => ends_createOne ?_ ?_ ?_
  · intro absent
    have none : before = none := by
      rw [absent] at begun
      rcases begun with same | done | ⟨never, -⟩
      · exact same.symm
      · cases before with
        | none => rfl
        | some existing => cases done.befallen
      · exact never.elim
    refine ⟨(Touched.called steady .create).insert List.mem_cons_self, trivial, ?_⟩
    rw [none, Collection.stored_insert, if_pos rfl]
    exact ⟨c.nextVersion, late, rfl⟩
  · intro existing stored
    refine ⟨Touched.called steady .create, ?_⟩
    rw [Collection.stored_called]
    rcases begun with same | done | ⟨never, -⟩
    · refine ⟨trivial, ?_⟩
      rw [← same, stored]
      exact rfl
    · exact done
    · exact never.elim
  · intro fault mem
    rw [if_neg (steady.passing fault mem).not_existing]
    exact ⟨Touched.called steady .create, begun, fun _ => List.ne_nil_of_mem mem⟩

/-- Creating one object after the other treats them all. -/
theorem treats_createAll {objects : List (Object kind)} (apart : Apart objects) :
    (createAll objects).Treats creating objects :=
  treats_each createOne rfl (fun _ _ => rfl) (Treatment.uniform_of_apart _ apart)
    fun object _ => treats_createOne object

/-- Deleting one object treats it, as often as it is tried. -/
theorem treats_deleteOne (object : Object kind) :
    (deleteOne none object).Treats removing [object] := by
  refine treats_single fun first before c steady late begun => ends_deleteOne ?_ ?_ ?_
  · intro existing stored
    refine ⟨(Touched.called steady .delete).erase List.mem_cons_self _, trivial, ?_⟩
    show ((c.called .delete).erase (slotOf object)).stored (slotOf object) = none
    rw [Collection.stored_erase, if_pos rfl]
  · intro absent
    exact ⟨Touched.called steady .delete, trivial, absent⟩
  · intro fault mem
    rw [if_neg (steady.passing fault mem).not_absent]
    exact ⟨Touched.called steady .delete, begun, fun _ => List.ne_nil_of_mem mem⟩

/-- Objects in one slot may be deleted twice. -/
theorem treats_deleteAll (objects : List (Object kind)) :
    (deleteAll none objects).Treats removing objects :=
  treats_each (deleteOne none) rfl (fun _ _ => rfl) (fun _ _ _ _ _ => ⟨rfl, rfl⟩)
    fun object _ => treats_deleteOne object

/-- An object without a resource version is written whatever it replaces. -/
theorem treats_replace {object : Object kind}
    (unversioned : object.metadata.resourceVersion = none) :
    (replace object).Treats replacing [object] := by
  refine treats_single fun first before c steady late begun => ?_
  have there : (c.stored (slotOf object)).isSome = true -> replacing.able object before := by
    intro held
    rcases begun with same | done | ⟨never, -⟩
    · show before.isSome = true
      rwa [← same]
    · exact done.able
    · exact never.elim
  refine ends_replaceOne ?_ ?_ ?_ ?_
  · intro existing stored may
    refine ⟨(Touched.called steady .replace).insert List.mem_cons_self, there ?_, ?_⟩
    · rw [stored]
      rfl
    · rw [Collection.stored_insert, if_pos rfl]
      exact ⟨c.nextVersion, late, rfl⟩
  · intro existing stored refused
    rw [mayReplace, unversioned] at refused
    cases refused
  · intro absent
    refine ⟨Touched.called steady .replace, begun, fun able => ?_⟩
    have gone : before = none := by
      rw [absent] at begun
      rcases begun with same | done | ⟨never, -⟩
      · exact same.symm
      · obtain ⟨version, -, same⟩ := done.befallen
        cases same
      · exact never.elim
    rw [gone] at able
    cases able
  · intro fault mem
    exact ⟨Touched.called steady .replace, begun, fun _ => List.ne_nil_of_mem mem⟩

/-- Replacing one object after the other treats them all. -/
theorem treats_replaceAll {objects : List (Object kind)} (apart : Apart objects)
    (unversioned : ∀ object ∈ objects, object.metadata.resourceVersion = none) :
    (replaceAll objects).Treats replacing objects :=
  treats_each replace rfl (fun _ _ => rfl) (Treatment.uniform_of_apart _ apart)
    fun object mem => treats_replace (unversioned object mem)

end Request

end GuestFleet
