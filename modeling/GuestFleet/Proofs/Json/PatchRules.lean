import GuestFleet.Proofs.Json.ThreeWay

/-!
# The rules of merge patches

What a patch makes of a value is fixed key by key, by the rules of RFC 7386. The nulls of a patch
take members away and are never put anywhere, and a patch that has been applied has nothing left to
change, even where it sets an object for a text or a text for an object.
-/

namespace GuestFleet.Json

/-! ## Rules -/

/-- The rules for the members that the entries of a patch make of a target. -/
structure FollowsPatch (target : Json) (entries result : Members) : Prop where
  /-- Null takes a member away. -/
  removed : ∀ key, Members.find entries key = some .null -> Members.find result key = none
  /-- Any other entry is applied to the value under its key, or to null where there is none. -/
  changed : ∀ key change, Members.find entries key = some change -> change ≠ .null ->
    Members.find result key = some (patched ((target.member? key).getD .null) change)
  /-- What the patch does not mention stays. -/
  kept : ∀ key, Members.find entries key = none -> Members.find result key = target.member? key

/-- A member is found among the members of a value as it is in the value. -/
theorem find_membersOf (value : Json) (key : String) :
    Members.find value.membersOf key = value.member? key := by
  cases value <;> rfl

/-- Patching members one by one follows the rules for every one of them. -/
theorem followsPatch_patchedMembers (target : Json) {entries : Members}
    (nodup : (entries.map Prod.fst).Nodup) :
    FollowsPatch target entries (patchedMembers target.membersOf entries) where
  removed key found := by
    rw [find_patchedMembers nodup, found]
    rfl
  changed key change found notNull := by
    rw [find_patchedMembers nodup, found, find_membersOf]
    exact if_neg (Bool.eq_false_iff.1 (isNull_eq_false.2 notNull))
  kept key found := by
    rw [find_patchedMembers nodup, found, find_membersOf]

/-! ## What patches keep -/

/-- A patch that is not null never leaves null. -/
theorem patched_ne_null {change : Json} (notNull : change ≠ .null) (target : Json) :
    patched target change ≠ .null := by
  cases change with
  | object entries => simp [patched]
  | _ => rwa [patched_of_plain (by simp)]

/-- What every entry of a patch makes true of the value that it sets is true of all members. -/
theorem forall_patchedMembers {p : Json -> Prop} {entries members : Members}
    (held : ∀ member ∈ members, p member.2)
    (set : ∀ entry ∈ entries, entry.2 ≠ .null -> ∀ before, before = .null ∨ p before ->
      p (patched before entry.2)) :
    ∀ member ∈ patchedMembers members entries, p member.2 := by
  induction entries generalizing members with
  | nil => rwa [patchedMembers]
  | cons entry rest ih =>
    obtain ⟨key, change⟩ := entry
    rw [List.forall_mem_cons] at set
    rw [patchedMembers_cons]
    refine ih ?_ set.2
    rw [patchedMember]
    split_ifs with isNull
    · exact fun member mem => held member (List.mem_of_mem_filter mem)
    · refine Members.forall_insert ?_ held
      refine set.1 (isNull_eq_false.1 (Bool.eq_false_iff.2 isNull)) _ ?_
      cases found : Members.find members key with
      | none => exact .inl rfl
      | some value => exact .inr (held _ (Entries.mem_of_lookup found))

/-- The entries of a patch are smaller than the patch, which carries the inductions below. -/
theorem sizeOf_lt_object {entries : Members} {entry : String × Json} (mem : entry ∈ entries) :
    sizeOf entry.2 < sizeOf (Json.object entries) := by
  have inside := sizeOf_lt_of_mem mem
  have object := Json.object.sizeOf_spec entries
  omega

/-- A patch in key order keeps values in key order. -/
theorem Ordered.patched {target change : Json} (ordered : Ordered target)
    (orderedChange : Ordered change) : Ordered (Json.patched target change) := by
  by_cases isObject : ∃ entries, change = .object entries
  · obtain ⟨entries, rfl⟩ := isObject
    have orderedEntries := orderedMembers_iff.1 (ordered_object.1 orderedChange).2
    obtain ⟨sorted, orderedMembers⟩ := ordered.membersOf
    rw [Json.patched]
    refine ordered_object.2 ⟨sorted.patched entries, orderedMembers_iff.2 ?_⟩
    refine forall_patchedMembers (orderedMembers_iff.1 orderedMembers) ?_
    intro entry mem notNull before isBefore
    have smaller := sizeOf_lt_object mem
    have orderedBefore : Ordered before := isBefore.elim (fun eq => eq ▸ trivial) id
    exact Ordered.patched orderedBefore (orderedEntries entry mem)
  · rwa [patched_of_plain fun entries eq => isObject ⟨entries, eq⟩]
termination_by sizeOf change

/-- A patch puts no null into an object, not even one that it has itself. -/
theorem NullFree.patched {target : Json} (nullFree : NullFree target) (change : Json) :
    NullFree (Json.patched target change) := by
  by_cases isObject : ∃ entries, change = .object entries
  · obtain ⟨entries, rfl⟩ := isObject
    rw [Json.patched, NullFree]
    refine nullFreeMembers_iff.2 ?_
    refine forall_patchedMembers (p := fun value => value ≠ .null ∧ NullFree value)
      (nullFreeMembers_iff.1 nullFree.membersOf) ?_
    intro entry mem notNull before isBefore
    have smaller := sizeOf_lt_object mem
    have nullFreeBefore : NullFree before := isBefore.elim (fun eq => eq ▸ trivial) And.right
    exact ⟨patched_ne_null notNull before, NullFree.patched nullFreeBefore entry.2⟩
  · rw [patched_of_plain fun entries eq => isObject ⟨entries, eq⟩]
    cases change with
    | object entries => exact absurd ⟨entries, rfl⟩ isObject
    | _ => trivial
termination_by sizeOf change

/-! ## Patches applied twice -/

/-- A patch that is applied again changes nothing. The induction is on the patch: under each key it
meets what it has made there. -/
theorem patched_patched {target change : Json} (ordered : Ordered target)
    (orderedChange : Ordered change) :
    patched (patched target change) change = patched target change := by
  by_cases isObject : ∃ entries, change = .object entries
  · obtain ⟨entries, rfl⟩ := isObject
    obtain ⟨sortedEntries, orderedEntries⟩ := ordered_object.1 orderedChange
    obtain ⟨sorted, orderedMembers⟩ := ordered.membersOf
    have sortedOnce := sorted.patched entries
    have once := find_patchedMembers sortedEntries.nodup target.membersOf
    have twice := find_patchedMembers sortedEntries.nodup (patchedMembers target.membersOf entries)
    have again : patchedMembers (patchedMembers target.membersOf entries) entries =
        patchedMembers target.membersOf entries := by
      refine Entries.Sorted.ext (sortedOnce.patched entries) sortedOnce fun key => ?_
      show Members.find _ key = Members.find _ key
      rw [twice key, once key]
      cases found : Members.find entries key with
      | none => rfl
      | some entry =>
        by_cases isNull : entry.isNull = true
        · simp only [isNull, if_true]
        · simp only [isNull, Bool.false_eq_true, if_false, Option.getD_some]
          have smaller := sizeOf_lt_object (Entries.mem_of_lookup found)
          have orderedBefore : Ordered ((Members.find target.membersOf key).getD .null) := by
            cases here : Members.find target.membersOf key with
            | none => trivial
            | some value => exact orderedMembers.find here
          rw [patched_patched orderedBefore (orderedEntries.find found)]
    have result : patched target (.object entries) =
        .object (patchedMembers target.membersOf entries) := by rw [patched]
    rw [result, patched, membersOf, again]
  · have replaced := patched_of_plain fun entries eq => isObject ⟨entries, eq⟩
    rw [replaced, replaced]
termination_by sizeOf change

/-- A patch that is no object is the result itself. One that is an object makes an object by the
rules. The result is in key order, is not changed by the same patch again, and has a null member
only if the target had one. -/
theorem patched_follows {target change : Json} (ordered : Ordered target)
    (orderedChange : Ordered change) :
    ((∀ entries, change ≠ .object entries) -> patched target change = change) ∧
      (∀ entries, change = .object entries ->
        ∃ result, patched target change = .object result ∧ FollowsPatch target entries result) ∧
      Ordered (patched target change) ∧
      patched (patched target change) change = patched target change ∧
      (NullFree target -> NullFree (patched target change)) := by
  refine ⟨fun plain => patched_of_plain plain target, ?_, ordered.patched orderedChange,
    patched_patched ordered orderedChange, fun nullFree => nullFree.patched change⟩
  rintro entries rfl
  have nodup := (ordered_object.1 orderedChange).1.nodup
  exact ⟨_, by rw [patched], followsPatch_patchedMembers target nodup⟩

/-- A patch that makes an object of a text and a text of an object, takes a member away that was
there and one that was not, and has nulls below what it adds. -/
theorem patched_follows_mixed :
    let target : Json := .object [("kind", .string "master"), ("old", .bool true),
      ("spec", .object [("ports", .array [.null])])]
    let change : Json := .object [("kind", .object [("a", .null), ("b", .integer 1)]),
      ("new", .object [("x", .object [("y", .null)])]), ("old", .null), ("other", .null),
      ("spec", .string "none")]
    (Ordered target ∧ Ordered change ∧ NullFree target) ∧
      patched target change = .object [("kind", .object [("b", .integer 1)]),
        ("new", .object [("x", .object [])]), ("spec", .string "none")] ∧
      patched (patched target change) change = patched target change ∧
      NullFree (patched target change) := by
  intro target change
  have ordered : Ordered target := by
    simp only [target, Ordered, OrderedMembers, OrderedItems]
    decide
  have orderedChange : Ordered change := by
    simp only [change, Ordered, OrderedMembers]
    decide
  have nullFree : NullFree target := by
    simp [target, NullFree, NullFreeMembers]
  obtain ⟨-, -, -, again, nullFreeResult⟩ := patched_follows ordered orderedChange
  exact ⟨⟨ordered, orderedChange, nullFree⟩, by rfl, again, nullFreeResult nullFree⟩

end GuestFleet.Json
