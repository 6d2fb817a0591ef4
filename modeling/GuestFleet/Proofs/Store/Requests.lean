import GuestFleet.Proofs.Store.Views
import GuestFleet.Store.Requests

/-!
# Requests against one collection

How the requests for single objects end, by what is stored and which failure was ordered, or
by which failures may come at all. A failure can look like an object that is absent or that
exists already, and then it is taken for that.
-/

namespace GuestFleet

namespace Failure

/-- A failure that was ordered looks like an object that is absent if its code is 404. -/
theorem isNotFound_injected {code : Nat} {reason name : String} :
    (injected code reason name).isNotFound = true <-> code = 404 := by
  simp [injected, isNotFound]

/-- It looks like an object that exists already if its code and its reason say so. -/
theorem isAlreadyExists_injected {code : Nat} {reason name : String} :
    (injected code reason name).isAlreadyExists = true <->
      code = 409 ∧ reason = "AlreadyExists" := by
  simp [injected, isAlreadyExists]

/-- It looks like a conflict if its code and its reason say so. -/
theorem isConflict_injected {code : Nat} {reason name : String} :
    (injected code reason name).isConflict = true <-> code = 409 ∧ reason = "Conflict" := by
  simp [injected, isConflict]

end Failure

namespace Request

open Kube (Kind Object)
open Store (Collection Slot View Fault slotOf)
open Store.Collection (takeFault mayReplace)

variable {kind : Kind} {c : Collection kind} {fail : Failure -> Collection kind -> Prop}

/-! ## With the failures that are awaited -/

/-- Looking for an object yields it, or none, or the failure that was ordered unless its code is
404. -/
theorem ends_getOptional_alone {space : Option String} {name : String}
    {ok : Option (Object kind) -> Collection kind -> Prop}
    (found : ¬ c.Awaits .get -> ∀ object, c.stored (.make space name) = some object ->
      ok (some object) (c.called .get))
    (absent : ¬ c.Awaits .get -> c.stored (.make space name) = none ->
      ok none (c.called .get))
    (faulty : ∀ fault others, takeFault .get c.faults = some (fault, others) ->
      if fault.code = 404 then ok none (c.spent .get others)
      else fail (.injected fault.code fault.reason name) (c.spent .get others)) :
    (getOptional kind space name).Ends (View.collection kind).alone c ok fail := by
  refine ends_bind.2 (ends_attempt.2 (ends_get_alone ?_))
  rcases c.get_cases (.make space name) with
    ⟨fault, others, taken, eq⟩ | ⟨free, ⟨object, stored, eq⟩ | ⟨stored, eq⟩⟩
  · rw [eq]
    have outcome := faulty fault others taken
    show Ends _ (if Failure.isNotFound _ then _ else _) _ ok fail
    by_cases gone : fault.code = 404
    · rw [if_pos gone] at outcome
      rw [if_pos (Failure.isNotFound_injected.2 gone)]
      exact ends_pure.2 outcome
    · rw [if_neg gone] at outcome
      rw [if_neg (mt Failure.isNotFound_injected.1 gone)]
      exact ends_throw.2 outcome
  · rw [eq]
    exact ends_pure.2 (found free object stored)
  · rw [eq]
    exact ends_pure.2 (absent free stored)

/-- Creating an object writes it unless the slot is taken, or fails as was ordered. -/
theorem ends_createOne_alone {object : Object kind} {ok : Unit -> Collection kind -> Prop}
    (created : ¬ c.Awaits .create -> c.stored (slotOf object) = none ->
      ok () ((c.called .create).insert object))
    (present : ¬ c.Awaits .create -> ∀ existing, c.stored (slotOf object) = some existing ->
      ok () (c.called .create))
    (faulty : ∀ fault others, takeFault .create c.faults = some (fault, others) ->
      if fault.code = 409 ∧ fault.reason = "AlreadyExists" then ok () (c.spent .create others)
      else fail (.injected fault.code fault.reason object.name) (c.spent .create others)) :
    (createOne object).Ends (View.collection kind).alone c ok fail := by
  refine ends_bind.2 (ends_attempt.2 (ends_create_alone ?_))
  rcases c.create_cases object with
    ⟨fault, others, taken, eq⟩ | ⟨free, ⟨existing, stored, eq⟩ | ⟨stored, eq⟩⟩
  · rw [eq]
    have outcome := faulty fault others taken
    show Ends _ (if Failure.isAlreadyExists _ then _ else _) _ ok fail
    by_cases taken : fault.code = 409 ∧ fault.reason = "AlreadyExists"
    · rw [if_pos taken] at outcome
      rw [if_pos (Failure.isAlreadyExists_injected.2 taken)]
      exact ends_pure.2 outcome
    · rw [if_neg taken] at outcome
      rw [if_neg (mt Failure.isAlreadyExists_injected.1 taken)]
      exact ends_throw.2 outcome
  · rw [eq]
    exact ends_pure.2 (present free existing stored)
  · rw [eq]
    exact ends_pure.2 (created free stored)

/-- Deleting an object empties its slot unless it is empty, or fails as was ordered. -/
theorem ends_deleteOne_alone {grace : Option Nat} {object : Object kind}
    {ok : Unit -> Collection kind -> Prop}
    (deleted : ¬ c.Awaits .delete -> ∀ existing, c.stored (slotOf object) = some existing ->
      ok () { (c.called .delete).erase (slotOf object) with
        deletions := (object.name, grace) :: c.deletions })
    (absent : ¬ c.Awaits .delete -> c.stored (slotOf object) = none -> ok () (c.called .delete))
    (faulty : ∀ fault others, takeFault .delete c.faults = some (fault, others) ->
      if fault.code = 404 then ok () (c.spent .delete others)
      else fail (.injected fault.code fault.reason object.name) (c.spent .delete others)) :
    (deleteOne grace object).Ends (View.collection kind).alone c ok fail := by
  refine ends_bind.2 (ends_attempt.2 (ends_delete_alone ?_))
  rcases c.delete_cases (slotOf object) grace with
    ⟨fault, others, taken, eq⟩ | ⟨free, ⟨stored, eq⟩ | ⟨existing, stored, eq⟩⟩
  · rw [slotOf] at eq
    rw [eq]
    have outcome := faulty fault others taken
    show Ends _ (if Failure.isNotFound _ then _ else _) _ ok fail
    by_cases gone : fault.code = 404
    · rw [if_pos gone] at outcome
      rw [if_pos (Failure.isNotFound_injected.2 gone)]
      exact ends_pure.2 outcome
    · rw [if_neg gone] at outcome
      rw [if_neg (mt Failure.isNotFound_injected.1 gone)]
      exact ends_throw.2 outcome
  · rw [slotOf] at eq
    rw [eq]
    exact ends_pure.2 (absent free stored)
  · rw [slotOf] at eq
    rw [eq]
    exact ends_pure.2 (deleted free existing stored)

/-- Replacing an object writes it if its version allows it, or fails, also as was ordered. -/
theorem ends_replaceOne_alone {object : Object kind} {ok : Object kind -> Collection kind -> Prop}
    (written : ¬ c.Awaits .replace -> ∀ existing, c.stored (slotOf object) = some existing ->
      mayReplace object existing = true ->
      ok (c.versioned object) ((c.called .replace).insert object))
    (refused : ¬ c.Awaits .replace -> ∀ existing, c.stored (slotOf object) = some existing ->
      mayReplace object existing = false -> fail .conflict (c.called .replace))
    (absent : ¬ c.Awaits .replace -> c.stored (slotOf object) = none ->
      fail (.notFound kind object.name) (c.called .replace))
    (faulty : ∀ fault others, takeFault .replace c.faults = some (fault, others) ->
      fail (.injected fault.code fault.reason object.name) (c.spent .replace others)) :
    (Request.replace object).Ends (View.collection kind).alone c ok fail := by
  refine ends_replace_alone ?_
  rcases c.replace_cases object with
    ⟨fault, others, taken, eq⟩ |
      ⟨free, ⟨stored, eq⟩ | ⟨existing, stored, may, eq⟩ | ⟨existing, stored, may, eq⟩⟩
  · rw [eq]
    exact faulty fault others taken
  · rw [eq]
    exact absent free stored
  · rw [eq]
    exact refused free existing stored may
  · rw [eq]
    exact written free existing stored may

/-! ## With the failures that may come -/

/-- A list is one call. -/
theorem isCall_list (kind : Kind) (space : Option String) (selector : String) :
    (Request.list kind space selector).IsCall := ⟨_, _, rfl, fun _ => ⟨_, rfl⟩⟩

/-- A replace is one call. -/
theorem isCall_replace (object : Object kind) : (Request.replace object).IsCall :=
  ⟨_, _, rfl, fun _ => ⟨_, rfl⟩⟩

/-- Looking for an object is one call. -/
theorem isCall_getOptional (kind : Kind) (space : Option String) (name : String) :
    (getOptional kind space name).IsCall := by
  refine ⟨.get kind space name, _, rfl, fun reply => ?_⟩
  rcases reply with failure | object
  · show ∃ result, (if failure.isNotFound then _ else _ : Request (Option (Object kind))).run = _
    split_ifs
    · exact ⟨_, rfl⟩
    · exact ⟨_, rfl⟩
  · exact ⟨_, rfl⟩

/-- Creating an object is one call. -/
theorem isCall_createOne (object : Object kind) : (createOne object).IsCall := by
  refine ⟨.create kind object, _, rfl, fun reply => ?_⟩
  rcases reply with failure | created
  · show ∃ result, (if failure.isAlreadyExists then _ else _ : Request Unit).run = _
    split_ifs
    · exact ⟨_, rfl⟩
    · exact ⟨_, rfl⟩
  · exact ⟨_, rfl⟩

/-- Deleting an object is one call. -/
theorem isCall_deleteOne (grace : Option Nat) (object : Object kind) :
    (deleteOne grace object).IsCall := by
  refine ⟨.delete kind object.metadata.namespaceName object.name grace, _, rfl, fun reply => ?_⟩
  rcases reply with failure | deleted
  · show ∃ result, (if failure.isNotFound then _ else _ : Request Unit).run = _
    split_ifs
    · exact ⟨_, rfl⟩
    · exact ⟨_, rfl⟩
  · exact ⟨_, rfl⟩

/-- A list yields what is selected, or any of the failures that may come. -/
theorem ends_list {space : Option String} {selector : String}
    {ok : List (Object kind) -> Collection kind -> Prop}
    (listed : ok (c.selected space selector) (c.called .list))
    (faulty : ∀ fault ∈ c.faults,
      fail (.injected fault.code fault.reason selector) (c.called .list)) :
    (Request.list kind space selector).Ends (View.collection kind).around c ok fail := by
  refine ends_of_alone (isCall_list _ _ _) fun faults among => ends_list_alone ?_
  rcases Collection.list_cases { c with faults := faults } space selector with
    ⟨fault, others, taken, eq⟩ | ⟨-, eq⟩
  · rw [eq]
    exact faulty fault (among (Collection.mem_of_takeFault taken))
  · rw [eq]
    exact listed

/-- Looking for an object yields it, or none, or any of the failures that may come. -/
theorem ends_getOptional {space : Option String} {name : String}
    {ok : Option (Object kind) -> Collection kind -> Prop}
    (found : ∀ object, c.stored (.make space name) = some object ->
      ok (some object) (c.called .get))
    (absent : c.stored (.make space name) = none -> ok none (c.called .get))
    (faulty : ∀ fault ∈ c.faults, if fault.code = 404 then ok none (c.called .get)
      else fail (.injected fault.code fault.reason name) (c.called .get)) :
    (getOptional kind space name).Ends (View.collection kind).around c ok fail := by
  refine ends_of_alone (isCall_getOptional _ _ _) fun faults among => ends_getOptional_alone ?_ ?_ ?_
  · exact fun _ => found
  · exact fun _ => absent
  · exact fun fault others taken => faulty fault (among (Collection.mem_of_takeFault taken))

/-- Creating an object writes it unless the slot is taken, or meets any of the failures that may
come. -/
theorem ends_createOne {object : Object kind} {ok : Unit -> Collection kind -> Prop}
    (created : c.stored (slotOf object) = none -> ok () ((c.called .create).insert object))
    (present : ∀ existing, c.stored (slotOf object) = some existing -> ok () (c.called .create))
    (faulty : ∀ fault ∈ c.faults,
      if fault.code = 409 ∧ fault.reason = "AlreadyExists" then ok () (c.called .create)
      else fail (.injected fault.code fault.reason object.name) (c.called .create)) :
    (createOne object).Ends (View.collection kind).around c ok fail := by
  refine ends_of_alone (isCall_createOne _) fun faults among => ends_createOne_alone ?_ ?_ ?_
  · exact fun _ => created
  · exact fun _ => present
  · exact fun fault others taken => faulty fault (among (Collection.mem_of_takeFault taken))

/-- Deleting an object empties its slot, or meets any of the failures that may come. -/
theorem ends_deleteOne {grace : Option Nat} {object : Object kind}
    {ok : Unit -> Collection kind -> Prop}
    (deleted : ∀ existing, c.stored (slotOf object) = some existing ->
      ok () { (c.called .delete).erase (slotOf object) with
        deletions := (object.name, grace) :: c.deletions })
    (absent : c.stored (slotOf object) = none -> ok () (c.called .delete))
    (faulty : ∀ fault ∈ c.faults, if fault.code = 404 then ok () (c.called .delete)
      else fail (.injected fault.code fault.reason object.name) (c.called .delete)) :
    (deleteOne grace object).Ends (View.collection kind).around c ok fail := by
  refine ends_of_alone (isCall_deleteOne _ _) fun faults among => ends_deleteOne_alone ?_ ?_ ?_
  · exact fun _ => deleted
  · exact fun _ => absent
  · exact fun fault others taken => faulty fault (among (Collection.mem_of_takeFault taken))

/-- Replacing an object writes it if its version allows it, or meets any of the failures that may
come. -/
theorem ends_replaceOne {object : Object kind} {ok : Object kind -> Collection kind -> Prop}
    (written : ∀ existing, c.stored (slotOf object) = some existing ->
      mayReplace object existing = true ->
      ok (c.versioned object) ((c.called .replace).insert object))
    (refused : ∀ existing, c.stored (slotOf object) = some existing ->
      mayReplace object existing = false -> fail .conflict (c.called .replace))
    (absent : c.stored (slotOf object) = none ->
      fail (.notFound kind object.name) (c.called .replace))
    (faulty : ∀ fault ∈ c.faults,
      fail (.injected fault.code fault.reason object.name) (c.called .replace)) :
    (Request.replace object).Ends (View.collection kind).around c ok fail := by
  refine ends_of_alone (isCall_replace _) fun faults among => ends_replaceOne_alone ?_ ?_ ?_ ?_
  · exact fun _ => written
  · exact fun _ => refused
  · exact fun _ => absent
  · exact fun fault others taken => faulty fault (among (Collection.mem_of_takeFault taken))

end Request

end GuestFleet
