import GuestFleet.Proofs.Json.Exact

/-!
# Merging over what was applied

Where the current object is what was applied before, a three-way merge leaves just the modified
object. This holds key by key: what others have put under one key does not matter to the others.
-/

namespace GuestFleet.Json

/-! ## Values without binary64 numbers -/

/-- Lists that are the same are equal when their items that are the same are equal. -/
theorem eq_of_sameItems {items helds : List Json}
    (eq : ∀ item ∈ items, ∀ held, same held item = true -> held = item)
    (areSame : sameItems helds items = true) : helds = items := by
  induction items generalizing helds with
  | nil =>
    cases helds with
    | nil => rfl
    | cons held helds => simp [sameItems] at areSame
  | cons item items ih =>
    cases helds with
    | nil => simp [sameItems] at areSame
    | cons held helds =>
      rw [sameItems, Bool.and_eq_true] at areSame
      rw [List.forall_mem_cons] at eq
      rw [eq.1 held areSame.1, ih eq.2 areSame.2]

/-- Members that are the same are equal when their values that are the same are equal. -/
theorem eq_of_sameMembers {members helds : Members}
    (eq : ∀ member ∈ members, ∀ held, same held member.2 = true -> held = member.2)
    (areSame : sameMembers helds members = true) : helds = members := by
  induction members generalizing helds with
  | nil =>
    cases helds with
    | nil => rfl
    | cons held helds => simp [sameMembers] at areSame
  | cons member members ih =>
    cases helds with
    | nil => simp [sameMembers] at areSame
    | cons held helds =>
      obtain ⟨key, value⟩ := held
      obtain ⟨k, v⟩ := member
      rw [sameMembers, Bool.and_eq_true, Bool.and_eq_true, beq_iff_eq] at areSame
      rw [List.forall_mem_cons] at eq
      obtain ⟨⟨rfl, sameValue⟩, rest⟩ := areSame
      rw [eq.1 value sameValue, ih eq.2 rest]

/-- Values that are equal are the same one when none of their numbers can be one of two zeros. -/
theorem Printable.eq_of_same {depth : Nat} {value : Json} (printable : Printable depth value) :
    ∀ held, same held value = true -> held = value := by
  induction printable with
  | null => intro held isSame; cases held <;> simp_all [same]
  | bool value => intro held isSame; cases held <;> simp_all [same]
  | integer low high => intro held isSame; cases held <;> simp_all [same]
  | string text => intro held isSame; cases held <;> simp_all [same]
  | array _ ih =>
    intro held isSame
    cases held with
    | array helds =>
      rw [same] at isSame
      rw [eq_of_sameItems ih isSame]
    | _ => simp [same] at isSame
  | object _ _ ih =>
    intro held isSame
    cases held with
    | object helds =>
      rw [same] at isSame
      rw [eq_of_sameMembers ih isSame]
    | _ => simp [same] at isSame

/-! ## Merges -/

section

variable {depth : Nat} {applied modified current : Members}

/-- Under a key where the current object is as it was applied, the merge leaves what is wanted,
if objects within objects are merged so. -/
theorem find_merged_step (sortedApplied : Members.Sorted applied)
    (settable : Members.Settable depth modified) {key : String}
    (same : Members.find current key = Members.find applied key)
    (within : ∀ wanted, Members.find modified key = some (.object wanted) ->
      mergedMembers (applied.within key) wanted (applied.within key) = wanted) :
    Members.find (mergedMembers applied modified current) key = Members.find modified key := by
  have sortedModified := settable.sorted
  cases found : Members.find modified key with
  | none =>
    cases was : Members.find applied key with
    | none => rw [find_merged_kept sortedApplied sortedModified found was, same, was]
    | some value =>
      have held : (Members.find applied key).isSome = true := by
        rw [was]
        rfl
      exact find_merged_gone sortedApplied sortedModified found held
  | some wanted =>
    by_cases isObject : ∃ members, wanted = .object members
    · obtain ⟨members, rfl⟩ := isObject
      have sortedWanted := (settable.within found).sorted
      have alike : current.within key = applied.within key := by
        rw [Members.within, Members.within, same]
      rw [find_merged_object sortedApplied sortedModified found sortedWanted, alike,
        within members found]
    · have plain : ∀ members, wanted ≠ .object members :=
        fun members eq => isObject ⟨members, eq⟩
      obtain ⟨held, here, isSame⟩ : ∃ held,
          Members.find (mergedMembers applied modified current) key = some held ∧
            Json.same held wanted = true :=
        find_merged_plain sortedApplied sortedModified found plain (settable.nullFree.find found).1
      have printable := settable.printable _ (Entries.mem_of_lookup found)
      rw [here, printable.eq_of_same held isSame]

/-- Merging over just what was applied leaves just what is wanted. -/
theorem mergedMembers_applied (applied modified : Members) (sortedApplied : Members.Sorted applied)
    (ordered : OrderedMembers applied) (settable : Members.Settable depth modified) :
    mergedMembers applied modified applied = modified := by
  refine Entries.Sorted.ext (sortedApplied.merged applied modified) settable.sorted fun key => ?_
  refine find_merged_step sortedApplied settable rfl fun wanted found => ?_
  obtain ⟨sortedWithin, orderedWithin⟩ := Members.within_ordered ordered key
  have smaller := sizeOf_lt_of_find found
  exact mergedMembers_applied (applied.within key) wanted sortedWithin orderedWithin
    (settable.within found)
termination_by sizeOf modified

/-- Under a key where the current object is as it was applied, the merge leaves what is wanted. -/
theorem find_merged_applied (sortedApplied : Members.Sorted applied)
    (ordered : OrderedMembers applied) (settable : Members.Settable depth modified) {key : String}
    (same : Members.find current key = Members.find applied key) :
    Members.find (mergedMembers applied modified current) key = Members.find modified key := by
  refine find_merged_step sortedApplied settable same fun wanted found => ?_
  obtain ⟨sortedWithin, orderedWithin⟩ := Members.within_ordered ordered key
  exact mergedMembers_applied _ wanted sortedWithin orderedWithin (settable.within found)

end

end GuestFleet.Json
