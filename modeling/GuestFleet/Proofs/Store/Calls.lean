import GuestFleet.Proofs.Store.Collection

/-!
# What calls do

Every way in which a call of a collection can go, for each of the five operations: a
failure that was ordered comes first, and then what is stored decides.
-/

namespace GuestFleet.Store.Collection

open Kube (Kind Object)

variable {kind : Kind}

/-- The collection after a call was taken. -/
def called (operation : Operation) (c : Collection kind) : Collection kind :=
  { c with calls := operation :: c.calls }

/-- The collection after a call was answered with a failure that was ordered, and `others`
are still to come. -/
def spent (operation : Operation) (others : List Fault) (c : Collection kind) :
    Collection kind :=
  { c.called operation with faults := others }

/-- Two collections hold the same objects, and the next write will be of the same version. -/
def Alike (c d : Collection kind) : Prop := d.objects = c.objects ∧ d.nextVersion = c.nextVersion

section

variable {c d : Collection kind} {operation : Operation} {others : List Fault} {slot : Slot}

/-- A call that is only counted leaves every slot as it is. -/
@[simp] theorem stored_called : (c.called operation).stored slot = c.stored slot := rfl

/-- A call that met a failure leaves the other failures to come. -/
@[simp] theorem faults_spent : (c.spent operation others).faults = others := rfl

/-- Writing an object leaves the failures to come. -/
@[simp] theorem faults_insert (object : Object kind) : (c.insert object).faults = c.faults := rfl

/-- A call that is only counted leaves a like collection. -/
theorem alike_called : c.Alike (c.called operation) := ⟨rfl, rfl⟩

/-- So does a call that met a failure. -/
theorem alike_spent : c.Alike (c.spent operation others) := ⟨rfl, rfl⟩

/-- A collection is like itself. -/
theorem Alike.refl : c.Alike c := ⟨rfl, rfl⟩

/-- Likeness carries over from one collection to the next. -/
theorem Alike.trans {e : Collection kind} (first : c.Alike d) (second : d.Alike e) : c.Alike e :=
  ⟨second.1.trans first.1, second.2.trans first.2⟩

/-- Like collections hold the same in every slot. -/
theorem Alike.stored (alike : c.Alike d) (slot : Slot) : d.stored slot = c.stored slot := by
  unfold Collection.stored
  rw [alike.1]

/-- A collection like a sound one is sound. -/
theorem Alike.sound (alike : c.Alike d) (sound : c.Sound) : d.Sound :=
  sound.congr alike.1 alike.2

/-- Writing the same object into like collections leaves them alike. -/
theorem Alike.insert (alike : c.Alike d) (object : Object kind) :
    (c.insert object).Alike (d.insert object) := by
  obtain ⟨objects, version⟩ := alike
  constructor
  · simp [Collection.insert, Collection.versioned, objects, version]
  · simp [Collection.insert, version]

/-- The same is selected from like collections. -/
theorem Alike.selected (alike : c.Alike d) (space : Option String) (selector : String) :
    d.selected space selector = c.selected space selector := by
  unfold Collection.selected
  rw [alike.1]

end

/-- A failure was ordered for an operation. -/
def Awaits (c : Collection kind) (operation : Operation) : Prop :=
  ∃ fault ∈ c.faults, fault.operation = operation

/-- A collection awaits no failure of an operation if none is there to be taken. -/
theorem not_awaits {c : Collection kind} {operation : Operation} :
    ¬ c.Awaits operation <-> takeFault operation c.faults = none := by
  rw [takeFault_eq_none]
  constructor
  · intro free fault mem own
    exact free ⟨fault, mem, own⟩
  · rintro free ⟨fault, mem, own⟩
    exact free fault mem own

/-- A collection awaits a failure that can be taken. -/
theorem awaits_of_takeFault {c : Collection kind} {operation : Operation} {fault : Fault}
    {others : List Fault} (taken : takeFault operation c.faults = some (fault, others)) :
    c.Awaits operation := by
  obtain ⟨-, -, -, -, own⟩ := takeFault_eq_some taken
  exact ⟨fault, mem_of_takeFault taken, own⟩

/-- A failure of one operation leaves those of others to come. -/
theorem awaits_spent {c : Collection kind} {operation other : Operation} {fault : Fault}
    {others : List Fault} (taken : takeFault operation c.faults = some (fault, others))
    (ne : operation ≠ other) : (c.spent operation others).Awaits other <-> c.Awaits other := by
  obtain ⟨before, after, all, left, own⟩ := takeFault_eq_some taken
  unfold Awaits
  rw [faults_spent, all, left]
  constructor
  · rintro ⟨found, mem, isOther⟩
    refine ⟨found, ?_, isOther⟩
    rcases List.mem_append.1 mem with mem | mem
    · exact List.mem_append_left _ mem
    · exact List.mem_append_right _ (List.mem_cons_of_mem _ mem)
  · rintro ⟨found, mem, isOther⟩
    refine ⟨found, ?_, isOther⟩
    rcases List.mem_append.1 mem with mem | mem
    · exact List.mem_append_left _ mem
    · rcases List.mem_cons.1 mem with rfl | mem
      · exact absurd (own.symm.trans isOther) ne
      · exact List.mem_append_right _ mem

/-- A call fails as was ordered, or is answered. -/
theorem call_cases (operation : Operation) (name : String)
    (answer : Collection kind -> Except Failure α × Collection kind) (c : Collection kind) :
    (∃ fault others, takeFault operation c.faults = some (fault, others) ∧
      call operation name answer c =
        (.error (.injected fault.code fault.reason name), c.spent operation others)) ∨
    (¬ c.Awaits operation ∧ call operation name answer c = answer (c.called operation)) := by
  cases taken : takeFault operation c.faults with
  | none => exact .inr ⟨not_awaits.2 taken, by simp only [call, taken]; rfl⟩
  | some entry =>
    obtain ⟨fault, others⟩ := entry
    exact .inl ⟨fault, others, rfl, by simp only [call, taken]; rfl⟩

section

variable (c : Collection kind) (slot : Slot) (object : Object kind)

/-- A get meets a failure that was ordered, or finds what is stored, or finds nothing. -/
theorem get_cases :
    (∃ fault others, takeFault .get c.faults = some (fault, others) ∧
      c.get slot =
        (.error (.injected fault.code fault.reason slot.name), c.spent .get others)) ∨
    ¬ c.Awaits .get ∧
      ((∃ object, c.stored slot = some object ∧ c.get slot = (.ok object, c.called .get)) ∨
      (c.stored slot = none ∧
        c.get slot = (.error (.notFound kind slot.name), c.called .get))) := by
  rcases call_cases .get slot.name _ c with fails | ⟨free, answered⟩
  · exact .inl fails
  · refine .inr ⟨free, ?_⟩
    rw [get, answered, stored_called]
    cases found : c.stored slot with
    | some object => exact .inl ⟨object, rfl, rfl⟩
    | none => exact .inr ⟨rfl, rfl⟩

/-- An object that is read is stored. -/
theorem stored_of_get {object : Object kind} (found : (c.get slot).1 = .ok object) :
    c.stored slot = some object := by
  rcases get_cases c slot with ⟨_, _, -, eq⟩ | ⟨-, ⟨held, stored, eq⟩ | ⟨-, eq⟩⟩
  · rw [eq] at found
    cases found
  · rw [eq] at found
    rw [stored, Except.ok.inj found]
  · rw [eq] at found
    cases found

/-- A list meets a failure that was ordered, or finds what is selected. -/
theorem list_cases (space : Option String) (selector : String) :
    (∃ fault others, takeFault .list c.faults = some (fault, others) ∧
      c.list space selector =
        (.error (.injected fault.code fault.reason selector), c.spent .list others)) ∨
    ¬ c.Awaits .list ∧
      c.list space selector = (.ok (c.selected space selector), c.called .list) := by
  rcases call_cases .list selector _ c with fails | ⟨free, answered⟩
  · exact .inl fails
  · refine .inr ⟨free, ?_⟩
    rw [list, answered]
    rfl

/-- A create meets a failure that was ordered, or finds the slot taken, or writes into it. -/
theorem create_cases :
    (∃ fault others, takeFault .create c.faults = some (fault, others) ∧
      c.create object =
        (.error (.injected fault.code fault.reason object.name), c.spent .create others)) ∨
    ¬ c.Awaits .create ∧
      ((∃ existing, c.stored (slotOf object) = some existing ∧
        c.create object = (.error (.alreadyExists kind object.name), c.called .create)) ∨
      (c.stored (slotOf object) = none ∧
        c.create object = (.ok (c.versioned object), (c.called .create).insert object))) := by
  rcases call_cases .create object.name _ c with fails | ⟨free, answered⟩
  · exact .inl fails
  · refine .inr ⟨free, ?_⟩
    rw [create, answered, stored_called]
    cases found : c.stored (slotOf object) with
    | some existing => exact .inl ⟨existing, rfl, rfl⟩
    | none => exact .inr ⟨rfl, rfl⟩

/-- A replace meets a failure that was ordered, or finds nothing, or another version, or writes. -/
theorem replace_cases :
    (∃ fault others, takeFault .replace c.faults = some (fault, others) ∧
      c.replace object =
        (.error (.injected fault.code fault.reason object.name), c.spent .replace others)) ∨
    ¬ c.Awaits .replace ∧
      ((c.stored (slotOf object) = none ∧
        c.replace object = (.error (.notFound kind object.name), c.called .replace)) ∨
      (∃ existing, c.stored (slotOf object) = some existing ∧
        mayReplace object existing = false ∧
        c.replace object = (.error .conflict, c.called .replace)) ∨
      (∃ existing, c.stored (slotOf object) = some existing ∧
        mayReplace object existing = true ∧
        c.replace object = (.ok (c.versioned object), (c.called .replace).insert object))) := by
  rcases call_cases .replace object.name _ c with fails | ⟨free, answered⟩
  · exact .inl fails
  · refine .inr ⟨free, ?_⟩
    rw [replace, answered, stored_called]
    cases found : c.stored (slotOf object) with
    | none => exact .inl ⟨rfl, rfl⟩
    | some existing =>
      refine .inr ?_
      cases may : mayReplace object existing with
      | false => exact .inl ⟨existing, rfl, may, by simp only [may]; rfl⟩
      | true => exact .inr ⟨existing, rfl, may, by simp only [may]; rfl⟩

/-- A delete meets a failure that was ordered, or finds nothing, or empties the slot. -/
theorem delete_cases (grace : Option Nat) :
    (∃ fault others, takeFault .delete c.faults = some (fault, others) ∧
      c.delete slot grace =
        (.error (.injected fault.code fault.reason slot.name), c.spent .delete others)) ∨
    ¬ c.Awaits .delete ∧
      ((c.stored slot = none ∧
        c.delete slot grace = (.error (.notFound kind slot.name), c.called .delete)) ∨
      (∃ existing, c.stored slot = some existing ∧
        c.delete slot grace =
          (.ok (), { (c.called .delete).erase slot with
            deletions := (slot.name, grace) :: c.deletions }))) := by
  rcases call_cases .delete slot.name _ c with fails | ⟨free, answered⟩
  · exact .inl fails
  · refine .inr ⟨free, ?_⟩
    rw [delete, answered, stored_called]
    cases found : c.stored slot with
    | none => exact .inl ⟨rfl, rfl⟩
    | some existing => exact .inr ⟨existing, rfl, rfl⟩

/-! ## Effects -/

/-- A get leaves a like collection. -/
theorem get_alike : c.Alike (c.get slot).2 := by
  rcases get_cases c slot with ⟨_, _, -, eq⟩ | ⟨-, ⟨_, -, eq⟩ | ⟨-, eq⟩⟩
  · rw [eq]
    exact alike_spent
  · rw [eq]
    exact alike_called
  · rw [eq]
    exact alike_called

/-- A list leaves a like collection. -/
theorem list_alike (space : Option String) (selector : String) :
    c.Alike (c.list space selector).2 := by
  rcases list_cases c space selector with ⟨_, _, -, eq⟩ | ⟨-, eq⟩
  · rw [eq]
    exact alike_spent
  · rw [eq]
    exact alike_called

/-- A creation fails and changes nothing, or writes the object. -/
theorem create_outcome :
    ((c.create object).1.isOk = false ∧ c.Alike (c.create object).2) ∨
      ((c.create object).1.isOk = true ∧ (c.insert object).Alike (c.create object).2) := by
  rcases create_cases c object with ⟨_, _, -, eq⟩ | ⟨-, ⟨_, -, eq⟩ | ⟨-, eq⟩⟩
  · rw [eq]
    exact .inl ⟨rfl, alike_spent⟩
  · rw [eq]
    exact .inl ⟨rfl, alike_called⟩
  · rw [eq]
    exact .inr ⟨rfl, rfl, rfl⟩

/-- A create leaves a like collection, or like the one with the object written. -/
theorem create_effect :
    c.Alike (c.create object).2 ∨ (c.insert object).Alike (c.create object).2 :=
  (create_outcome c object).imp And.right And.right

/-- A replacement fails and changes nothing, or writes the object. -/
theorem replace_outcome :
    ((c.replace object).1.isOk = false ∧ c.Alike (c.replace object).2) ∨
      ((c.replace object).1.isOk = true ∧ (c.insert object).Alike (c.replace object).2) := by
  rcases replace_cases c object with
    ⟨_, _, -, eq⟩ | ⟨-, ⟨-, eq⟩ | ⟨_, -, -, eq⟩ | ⟨_, -, -, eq⟩⟩
  · rw [eq]
    exact .inl ⟨rfl, alike_spent⟩
  · rw [eq]
    exact .inl ⟨rfl, alike_called⟩
  · rw [eq]
    exact .inl ⟨rfl, alike_called⟩
  · rw [eq]
    exact .inr ⟨rfl, rfl, rfl⟩

/-- A replace leaves a like collection, or like the one with the object written. -/
theorem replace_effect :
    c.Alike (c.replace object).2 ∨ (c.insert object).Alike (c.replace object).2 :=
  (replace_outcome c object).imp And.right And.right

/-- A replacement that succeeds had an object to replace that it was allowed to. -/
theorem stored_of_replaced (replaced : (c.replace object).1.isOk = true) :
    ∃ existing, c.stored (slotOf object) = some existing ∧ mayReplace object existing = true := by
  rcases replace_cases c object with
    ⟨_, _, -, eq⟩ | ⟨-, ⟨-, eq⟩ | ⟨_, -, -, eq⟩ | ⟨existing, stored, may, -⟩⟩
  · rw [eq] at replaced
    cases replaced
  · rw [eq] at replaced
    cases replaced
  · rw [eq] at replaced
    cases replaced
  · exact ⟨existing, stored, may⟩

/-- A replacement succeeds that is allowed, unless a failure was ordered for it. -/
theorem replaced_of_stored (free : ¬ c.Awaits .replace) {existing : Object kind}
    (stored : c.stored (slotOf object) = some existing)
    (may : mayReplace object existing = true) : (c.replace object).1.isOk = true := by
  rcases replace_cases c object with
    ⟨fault, others, taken, -⟩ | ⟨-, ⟨absent, -⟩ | ⟨held, there, mayNot, -⟩ | ⟨_, -, -, eq⟩⟩
  · exact absurd (awaits_of_takeFault taken) free
  · cases absent.symm.trans stored
  · obtain rfl := Option.some.inj (there.symm.trans stored)
    cases mayNot.symm.trans may
  · rw [eq]
    rfl

/-- A deletion fails and changes nothing, or empties the slot. -/
theorem delete_outcome (grace : Option Nat) :
    ((c.delete slot grace).1.isOk = false ∧ c.Alike (c.delete slot grace).2) ∨
      ((c.delete slot grace).1.isOk = true ∧ (c.erase slot).Alike (c.delete slot grace).2) := by
  rcases delete_cases c slot grace with ⟨_, _, -, eq⟩ | ⟨-, ⟨-, eq⟩ | ⟨_, -, eq⟩⟩
  · rw [eq]
    exact .inl ⟨rfl, alike_spent⟩
  · rw [eq]
    exact .inl ⟨rfl, alike_called⟩
  · rw [eq]
    exact .inr ⟨rfl, rfl, rfl⟩

/-- A delete leaves a like collection, or like the one with the slot emptied. -/
theorem delete_effect (grace : Option Nat) :
    c.Alike (c.delete slot grace).2 ∨ (c.erase slot).Alike (c.delete slot grace).2 :=
  (delete_outcome c slot grace).imp And.right And.right

/-! ## Failures that are left -/

/-- A call orders no failures. -/
theorem faults_call (operation : Operation) (name : String)
    {answer : Collection kind -> Except Failure α × Collection kind}
    (quiet : ∀ d, (answer d).2.faults = d.faults) :
    (call operation name answer c).2.faults ⊆ c.faults := by
  rcases call_cases operation name answer c with ⟨fault, others, taken, eq⟩ | ⟨-, eq⟩
  · rw [eq]
    exact (sublist_of_takeFault taken).subset
  · rw [eq, quiet]
    exact List.Subset.refl _

/-- A get orders no failures. -/
theorem faults_get : (c.get slot).2.faults ⊆ c.faults := by
  apply faults_call c
  intro d
  cases found : d.stored slot <;> rfl

/-- A list orders no failures. -/
theorem faults_list (space : Option String) (selector : String) :
    (c.list space selector).2.faults ⊆ c.faults := by
  apply faults_call c
  intro d
  rfl

/-- A create orders no failures. -/
theorem faults_create : (c.create object).2.faults ⊆ c.faults := by
  apply faults_call c
  intro d
  cases found : d.stored (slotOf object) <;> rfl

/-- A replace orders no failures. -/
theorem faults_replace : (c.replace object).2.faults ⊆ c.faults := by
  apply faults_call c
  intro d
  cases found : d.stored (slotOf object) with
  | none => rfl
  | some existing => cases may : mayReplace object existing <;> simp [may]

/-- A delete orders no failures. -/
theorem faults_delete (grace : Option Nat) : (c.delete slot grace).2.faults ⊆ c.faults := by
  apply faults_call c
  intro d
  cases found : d.stored slot <;> rfl

end

end GuestFleet.Store.Collection
