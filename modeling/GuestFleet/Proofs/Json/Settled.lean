import GuestFleet.Proofs.Json.ThreeWay

/-!
# Merges that settle

One merge is enough. What it leaves holds everything that is wanted and nothing that was given up,
so that a second merge finds nothing to do, whether it starts from what was applied before or from
what is applied now.
-/

namespace GuestFleet.Json

/-! ## Nothing to take away -/

/-- Nothing is taken away from an object that is wanted as it was applied. -/
theorem deletions_self (members : Members) (sorted : Members.Sorted members)
    (ordered : OrderedMembers members) : deletions members members = [] := by
  refine Entries.Sorted.ext (sorted.deletions members) Entries.sorted_nil fun key => ?_
  show Members.find (deletions members members) key = none
  rw [find_deletions sorted.nodup]
  cases found : Members.find members key with
  | none => rfl
  | some value =>
    by_cases isObject : ∃ inner, value = .object inner
    · obtain ⟨inner, rfl⟩ := isObject
      obtain ⟨sortedInner, orderedInner⟩ := ordered_object.1 (ordered.find found)
      have smaller := sizeOf_lt_of_find found
      have within : members.within key = inner := by
        rw [Members.within, found]
        rfl
      have nested := deletion_within members key inner
      rw [within, deletions_self inner sortedInner orderedInner, found] at nested
      exact nested
    · have plain : ∀ inner, value ≠ .object inner := fun inner eq => isObject ⟨inner, eq⟩
      rw [Option.bind_some]
      exact deletion_plain plain value
termination_by sizeOf members

/-! ## Nothing to set -/

/-- A plain value that is there already, or one equal to it, need not be set. -/
theorem addition_of_same {wanted held : Json} (plain : ∀ members, wanted ≠ .object members)
    (isSame : same held wanted = true) : addition (some held) wanted = none := by
  cases wanted with
  | object members => exact absurd rfl (plain members)
  | _ => exact if_pos isSame

/-- A value that equals the wanted one stays as it is. -/
theorem find_merged_same {applied modified current : Members}
    (sortedApplied : Members.Sorted applied) (sortedModified : Members.Sorted modified)
    {key : String} {wanted held : Json}
    (found : Members.find modified key = some wanted)
    (plain : ∀ members, wanted ≠ .object members)
    (here : Members.find current key = some held) (isSame : same held wanted = true) :
    Members.find (mergedMembers applied modified current) key = some held := by
  have undeleted : (Members.find applied key).bind (deletion (some wanted)) = none := by
    cases Members.find applied key with
    | none => rfl
    | some was => exact deletion_plain plain was
  have unchanged : Members.find (threeWayMembers applied modified current) key = none := by
    rw [find_threeWayMembers sortedApplied sortedModified, found, Option.bind_some, here,
      addition_of_same plain isSame]
    exact undeleted
  rw [find_mergedMembers sortedApplied, unchanged]
  exact here

/-- A merge leaves nothing that has to be set. -/
theorem additions_merged (applied modified current : Members)
    (orderedApplied : Ordered (.object applied)) (orderedModified : Ordered (.object modified))
    (nullFree : NullFreeMembers modified) :
    additions (mergedMembers applied modified current) modified = [] := by
  obtain ⟨sortedApplied, valuesApplied⟩ := ordered_object.1 orderedApplied
  obtain ⟨sortedModified, valuesModified⟩ := ordered_object.1 orderedModified
  refine Entries.Sorted.ext (sortedModified.additions _) Entries.sorted_nil fun key => ?_
  show Members.find (additions (mergedMembers applied modified current) modified) key = none
  rw [find_additions sortedModified.nodup]
  cases found : Members.find modified key with
  | none => rfl
  | some wanted =>
    rw [Option.bind_some]
    by_cases isObject : ∃ members, wanted = .object members
    · obtain ⟨members, rfl⟩ := isObject
      have orderedWanted : Ordered (.object members) := valuesModified.find found
      have smaller := sizeOf_lt_of_find found
      rw [find_merged_object sortedApplied sortedModified found (ordered_object.1 orderedWanted).1,
        addition_within, additions_merged (applied.within key) members (current.within key)
          (ordered_object.2 (Members.within_ordered valuesApplied key)) orderedWanted
          (nullFree.find found).2.membersOf]
      rfl
    · have plain : ∀ members, wanted ≠ .object members :=
        fun members eq => isObject ⟨members, eq⟩
      obtain ⟨held, here, isSame⟩ : ∃ held,
          Members.find (mergedMembers applied modified current) key = some held ∧
            same held wanted = true :=
        find_merged_plain sortedApplied sortedModified found plain (nullFree.find found).1
      rw [here]
      exact addition_of_same plain isSame
termination_by sizeOf modified

/-- A merge over what the same merge has left leaves it as it is. -/
theorem mergedMembers_merged (applied modified current : Members)
    (orderedApplied : Ordered (.object applied)) (orderedModified : Ordered (.object modified))
    (orderedCurrent : Ordered (.object current)) (nullFree : NullFreeMembers modified) :
    mergedMembers applied modified (mergedMembers applied modified current) =
      mergedMembers applied modified current := by
  obtain ⟨sortedApplied, valuesApplied⟩ := ordered_object.1 orderedApplied
  obtain ⟨sortedModified, valuesModified⟩ := ordered_object.1 orderedModified
  obtain ⟨sortedCurrent, valuesCurrent⟩ := ordered_object.1 orderedCurrent
  have sortedOnce := sortedCurrent.merged applied modified
  refine Entries.Sorted.ext (sortedOnce.merged applied modified) sortedOnce fun key => ?_
  show Members.find _ key = Members.find _ key
  cases found : Members.find modified key with
  | none =>
    cases was : Members.find applied key with
    | none => exact find_merged_kept sortedApplied sortedModified found was
    | some value =>
      have held : (Members.find applied key).isSome = true := by
        rw [was]
        rfl
      rw [find_merged_gone sortedApplied sortedModified found held,
        find_merged_gone sortedApplied sortedModified found held]
  | some wanted =>
    by_cases isObject : ∃ members, wanted = .object members
    · obtain ⟨members, rfl⟩ := isObject
      have orderedWanted : Ordered (.object members) := valuesModified.find found
      have sortedWanted := (ordered_object.1 orderedWanted).1
      have smaller := sizeOf_lt_of_find found
      have once : Members.find (mergedMembers applied modified current) key =
          some (.object (mergedMembers (applied.within key) members (current.within key))) :=
        find_merged_object sortedApplied sortedModified found sortedWanted
      have within : (mergedMembers applied modified current).within key =
          mergedMembers (applied.within key) members (current.within key) := by
        rw [Members.within, once]
        rfl
      rw [find_merged_object sortedApplied sortedModified found sortedWanted, within, once,
        mergedMembers_merged (applied.within key) members (current.within key)
          (ordered_object.2 (Members.within_ordered valuesApplied key)) orderedWanted
          (ordered_object.2 (Members.within_ordered valuesCurrent key))
          (nullFree.find found).2.membersOf]
    · have plain : ∀ members, wanted ≠ .object members :=
        fun members eq => isObject ⟨members, eq⟩
      obtain ⟨held, here, isSame⟩ : ∃ held,
          Members.find (mergedMembers applied modified current) key = some held ∧
            same held wanted = true :=
        find_merged_plain sortedApplied sortedModified found plain (nullFree.find found).1
      rw [here]
      exact find_merged_same sortedApplied sortedModified found plain here isSame
termination_by sizeOf modified

/-! ## The merge as a whole -/

/-- The patch of three sides that are objects or null settles the current one: the next patch from
what is applied now is empty, and the patch from what was applied before changes nothing more. -/
theorem threeWayPatch_settles {applied modified current : Json} (appliedSide : IsSide applied)
    (modifiedSide : IsSide modified) (currentSide : IsSide current)
    (orderedApplied : Ordered applied) (orderedModified : Ordered modified)
    (orderedCurrent : Ordered current) (nullFree : NullFree modified) :
    ∃ patch, threeWayPatch applied modified current = .ok patch ∧
      threeWayPatch modified modified (patched current patch) = .ok (.object []) ∧
      ∃ again, threeWayPatch applied modified (patched current patch) = .ok again ∧
        patched (patched current patch) again = patched current patch := by
  have onceApplied := ordered_object.2 orderedApplied.membersOf
  have onceModified := ordered_object.2 orderedModified.membersOf
  have onceCurrent := ordered_object.2 orderedCurrent.membersOf
  refine ⟨_, threeWayPatch_eq appliedSide modifiedSide currentSide, ?_⟩
  rw [patched_threeWayMembers, threeWayPatch_eq modifiedSide modifiedSide (.object _),
    threeWayPatch_eq appliedSide modifiedSide (.object _)]
  refine ⟨?empty, _, rfl, ?same⟩
  case empty =>
    rw [membersOf, threeWayMembers,
      additions_merged _ _ _ onceApplied onceModified nullFree.membersOf,
      deletions_self _ orderedModified.membersOf.1 orderedModified.membersOf.2, overlaid]
  case same =>
    rw [patched_threeWayMembers]
    exact congrArg Json.object
      (mergedMembers_merged _ _ _ onceApplied onceModified onceCurrent nullFree.membersOf)

/-- A merge that takes away a member of an object which the current side lacks, sets an object where
a text was and a number where an object was, and leaves alone what others have written. -/
theorem threeWayPatch_settles_mixed :
    let applied : Json := .object [("limits", .object [("cpu", .integer 2)]), ("name", .null),
      ("spec", .object [("old", .object [("x", .null)]), ("port", .object [])])]
    let modified : Json := .object [("limits", .object []),
      ("name", .object [("first", .bool true)]), ("spec", .object [("port", .integer 443)])]
    let current : Json := .object [("name", .string "master"),
      ("spec", .object [("clusterIP", .null), ("port", .object [("from", .integer 80)])])]
    (Ordered applied ∧ Ordered modified ∧ Ordered current ∧ NullFree modified) ∧
      ∃ patch, threeWayPatch applied modified current = .ok patch ∧
        threeWayPatch modified modified (patched current patch) = .ok (.object []) ∧
        ∃ again, threeWayPatch applied modified (patched current patch) = .ok again ∧
          patched (patched current patch) again = patched current patch := by
  intro applied modified current
  have orderedApplied : Ordered applied := by
    simp only [applied, Ordered, OrderedMembers]
    decide
  have orderedModified : Ordered modified := by
    simp only [modified, Ordered, OrderedMembers]
    decide
  have orderedCurrent : Ordered current := by
    simp only [current, Ordered, OrderedMembers]
    decide
  have nullFree : NullFree modified := by
    simp [modified, NullFree, NullFreeMembers]
  exact ⟨⟨orderedApplied, orderedModified, orderedCurrent, nullFree⟩,
    threeWayPatch_settles (.object _) (.object _) (.object _) orderedApplied orderedModified
      orderedCurrent nullFree⟩

end GuestFleet.Json
