import GuestFleet.Json.ThreeWay
import GuestFleet.Proofs.Json.MergePatch

/-!
# What a three-way merge makes of each key

The patch of a three-way merge is put together from deletions and additions and is then
carried out. `Merge` says what has to come out of all that under every key, and
`threeWayPatch_merges` that it does, for the merged object and for every object within it.
-/

namespace GuestFleet.Json

/-! ## The parts of the patch, key by key -/

/-- The additions of a patch are a choice among the wanted members. -/
theorem additions_eq_choose (current modified : Members) :
    additions current modified =
      Entries.choose (fun key => addition (Members.find current key)) modified := by
  induction modified with
  | nil => rw [additions]; rfl
  | cons head rest ih =>
    obtain ⟨k, wanted⟩ := head
    rw [additions, ih, Entries.choose_cons]
    cases addition (Members.find current k) wanted <;> rfl

/-- The deletions of a patch are a choice among the members that were applied. -/
theorem deletions_eq_choose (modified applied : Members) :
    deletions modified applied =
      Entries.choose (fun key => deletion (Members.find modified key)) applied := by
  induction applied with
  | nil => rw [deletions]; rfl
  | cons head rest ih =>
    obtain ⟨k, was⟩ := head
    rw [deletions, ih, Entries.choose_cons]
    cases deletion (Members.find modified k) was <;> rfl

/-- What a patch adds under a key depends on the two sides under that key. -/
theorem find_additions {modified : Members} (nodup : (modified.map Prod.fst).Nodup)
    (current : Members) (key : String) :
    Members.find (additions current modified) key =
      (Members.find modified key).bind (addition (Members.find current key)) := by
  rw [additions_eq_choose]
  exact Entries.lookup_choose _ nodup key

/-- What a patch deletes under a key depends on the two sides under that key. -/
theorem find_deletions {applied : Members} (nodup : (applied.map Prod.fst).Nodup)
    (modified : Members) (key : String) :
    Members.find (deletions modified applied) key =
      (Members.find applied key).bind (deletion (Members.find modified key)) := by
  rw [deletions_eq_choose]
  exact Entries.lookup_choose _ nodup key

/-- Of two overlaid objects, the upper one decides under each key that it has. -/
theorem find_overlaid {overlay : Members} (nodup : (overlay.map Prod.fst).Nodup)
    (base : Members) (key : String) :
    Members.find (overlaid base overlay) key =
      match Members.find overlay key with
      | none => Members.find base key
      | some value => some (laidOver (Members.find base key) value) := by
  induction overlay generalizing base with
  | nil => rw [overlaid]; rfl
  | cons head rest ih =>
    obtain ⟨k, value⟩ := head
    obtain ⟨fresh, nodupRest⟩ := List.nodup_cons.1 nodup
    rw [overlaid, Members.find_cons, ih nodupRest]
    by_cases same : key = k
    · have unseen : Members.find rest key = none :=
        Entries.lookup_eq_none.2 (same ▸ fresh)
      subst same
      rw [if_pos rfl, unseen]
      exact Members.find_insert_self key _ base
    · rw [if_neg same, Members.find_insert_of_ne same]

/-! ## Order -/

/-- Additions are in order when what is wanted is. -/
theorem Members.Sorted.additions {modified : Members} (sorted : Members.Sorted modified)
    (current : Members) : Members.Sorted (Json.additions current modified) := by
  rw [additions_eq_choose]
  exact List.Pairwise.sublist (Entries.choose_keys _ modified) sorted

/-- Deletions are in order when what was applied is. -/
theorem Members.Sorted.deletions {applied : Members} (sorted : Members.Sorted applied)
    (modified : Members) : Members.Sorted (Json.deletions modified applied) := by
  rw [deletions_eq_choose]
  exact List.Pairwise.sublist (Entries.choose_keys _ applied) sorted

/-- An overlay keeps its base in order. -/
theorem Members.Sorted.overlaid {base : Members} (sorted : Members.Sorted base)
    (overlay : Members) : Members.Sorted (Json.overlaid base overlay) := by
  induction overlay generalizing base with
  | nil => rwa [Json.overlaid]
  | cons head rest ih =>
    obtain ⟨k, value⟩ := head
    rw [Json.overlaid]
    exact ih (sorted.insert k _)

/-- Where nothing stands, an overlay is all there is. -/
theorem overlaid_nil {overlay : Members} (sorted : Members.Sorted overlay) :
    overlaid [] overlay = overlay := by
  refine Entries.Sorted.ext (Members.Sorted.overlaid Entries.sorted_nil overlay) sorted ?_
  intro key
  have found := find_overlaid sorted.nodup [] key
  rw [Members.find, Members.find] at found
  rw [found]
  cases List.lookup key overlay with
  | none => rfl
  | some value => cases value <;> simp [laidOver]

/-- Where nothing stands, everything wanted has to be added. -/
theorem additions_nil (modified : Members) : additions [] modified = modified := by
  induction modified with
  | nil => rw [additions]
  | cons head rest ih =>
    obtain ⟨k, wanted⟩ := head
    have all : addition none wanted = some wanted := by
      cases wanted <;> simp [addition]
    rw [additions, Members.find_nil, all, ih]

/-- A patch is in order when what was applied is. -/
theorem threeWayMembers_sorted {applied : Members} (sorted : Members.Sorted applied)
    (modified current : Members) : Members.Sorted (threeWayMembers applied modified current) :=
  (sorted.deletions modified).overlaid _

/-! ## Merged members -/

/-- The members of the object under a key, none if no object is there. -/
def Members.within (members : Members) (key : String) : Members :=
  ((Members.find members key).getD .null).membersOf

/-- The members that a three-way merge makes of `current`. -/
def mergedMembers (applied modified current : Members) : Members :=
  patchedMembers current (threeWayMembers applied modified current)

/-- A merge keeps what is there in order. -/
theorem Members.Sorted.merged {current : Members} (sorted : Members.Sorted current)
    (applied modified : Members) : Members.Sorted (mergedMembers applied modified current) :=
  sorted.patched _

section

variable {applied modified current : Members}

/-- What the patch of a merge has under a key. -/
theorem find_threeWayMembers (sortedApplied : Members.Sorted applied)
    (sortedModified : Members.Sorted modified) (current : Members) (key : String) :
    Members.find (threeWayMembers applied modified current) key =
      match (Members.find modified key).bind (addition (Members.find current key)) with
      | none => (Members.find applied key).bind (deletion (Members.find modified key))
      | some change =>
        some (laidOver ((Members.find applied key).bind
          (deletion (Members.find modified key))) change) := by
  have sortedAdditions := sortedModified.additions current
  rw [threeWayMembers, find_overlaid sortedAdditions.nodup, find_additions sortedModified.nodup,
    find_deletions sortedApplied.nodup]

/-- What the merge has under a key, from what its patch has there. -/
theorem find_mergedMembers (sortedApplied : Members.Sorted applied) (modified current : Members)
    (key : String) :
    Members.find (mergedMembers applied modified current) key =
      match Members.find (threeWayMembers applied modified current) key with
      | none => Members.find current key
      | some change =>
        if change.isNull then none
        else some (patched ((Members.find current key).getD .null) change) :=
  find_patchedMembers (threeWayMembers_sorted sortedApplied modified current).nodup current key

/-- What is wanted no longer is deleted. -/
theorem deletion_none (was : Json) : deletion none was = some .null := by
  cases was <;> simp [deletion]

/-- A key that is wanted no longer goes. -/
theorem find_merged_gone (sortedApplied : Members.Sorted applied)
    (sortedModified : Members.Sorted modified) {key : String}
    (unwanted : Members.find modified key = none)
    (was : (Members.find applied key).isSome) :
    Members.find (mergedMembers applied modified current) key = none := by
  obtain ⟨value, found⟩ := Option.isSome_iff_exists.1 was
  rw [find_mergedMembers sortedApplied, find_threeWayMembers sortedApplied sortedModified,
    unwanted, found]
  simp [deletion_none, isNull]

/-- A key that neither side mentions keeps its value. -/
theorem find_merged_kept (sortedApplied : Members.Sorted applied)
    (sortedModified : Members.Sorted modified) {key : String}
    (unwanted : Members.find modified key = none) (wasNot : Members.find applied key = none) :
    Members.find (mergedMembers applied modified current) key = Members.find current key := by
  rw [find_mergedMembers sortedApplied, find_threeWayMembers sortedApplied sortedModified,
    unwanted, wasNot]
  rfl

/-- A change within an object, if there is one. -/
def nestedChange : Members -> Option Json
  | [] => none
  | nested => some (.object nested)

/-- An object that is wanted where one is changes it from within. -/
theorem addition_within (present wanted : Members) :
    addition (some (.object present)) (.object wanted) =
      nestedChange (additions present wanted) := by
  rw [addition]
  cases additions present wanted <;> rfl

/-- An object that is wanted where none is is put there. -/
theorem addition_instead {present : Option Json} (wanted : Members)
    (plain : ∀ members, present ≠ some (.object members)) :
    addition present (.object wanted) = some (.object wanted) := by
  cases present with
  | none => simp [addition]
  | some value =>
    cases value with
    | object members => exact absurd rfl (plain members)
    | _ => simp [addition]

/-- Nothing is taken away from where a plain value is to stand. -/
theorem deletion_plain {wanted : Json} (plain : ∀ members, wanted ≠ .object members)
    (was : Json) : deletion (some wanted) was = none := by
  cases wanted with
  | object members => exact absurd rfl (plain members)
  | _ => cases was <;> simp [deletion]

/-- What is taken away within an object that is wanted. -/
theorem deletion_within (applied : Members) (key : String) (wanted : Members) :
    (Members.find applied key).bind (deletion (some (.object wanted))) =
      nestedChange (deletions wanted (applied.within key)) := by
  rw [Members.within]
  cases Members.find applied key with
  | none => simp [membersOf, deletions, nestedChange]
  | some was =>
    cases was with
    | object members =>
      rw [Option.bind_some, deletion, Option.getD_some, membersOf]
      cases deletions wanted members <;> rfl
    | _ => simp [membersOf, deletion, deletions, nestedChange]

/-- A plain value that is wanted is put there, unless an equal one stands there already. -/
theorem find_merged_origin (sortedApplied : Members.Sorted applied)
    (sortedModified : Members.Sorted modified) {key : String} {wanted : Json}
    (found : Members.find modified key = some wanted)
    (plain : ∀ members, wanted ≠ .object members) (notNull : wanted ≠ .null) :
    Members.find (mergedMembers applied modified current) key = some wanted ∨
      ∃ held, Members.find current key = some held ∧ same held wanted = true ∧
        Members.find (mergedMembers applied modified current) key = some held := by
  have undeleted : (Members.find applied key).bind (deletion (some wanted)) = none := by
    cases Members.find applied key with
    | none => rfl
    | some was => exact deletion_plain plain was
  have laid : laidOver none wanted = wanted := by cases wanted <;> simp [laidOver]
  have set : ∀ present, (if wanted.isNull then none else some (patched present wanted)) =
      some wanted := by
    intro present
    rw [isNull_eq_false.2 notNull, patched_of_plain plain]
    rfl
  have anew : addition none wanted = some wanted := by
    cases wanted with
    | object members => exact absurd rfl (plain members)
    | _ => rfl
  have atop : ∀ value, addition (some value) wanted =
      if same value wanted then none else some wanted := by
    intro value
    cases wanted with
    | object members => exact absurd rfl (plain members)
    | _ => rfl
  rw [find_mergedMembers sortedApplied, find_threeWayMembers sortedApplied sortedModified, found,
    undeleted, Option.bind_some]
  cases here : Members.find current key with
  | none => exact .inl (by simp only [anew, laid, set])
  | some value =>
    by_cases isSame : same value wanted = true
    · exact .inr ⟨value, rfl, isSame, by simp only [atop, isSame, if_true]⟩
    · refine .inl ?_
      simp only [atop, isSame, Bool.false_eq_true, if_false, laid, set]

/-- A plain value that is wanted stands there afterwards, or an equal one stays. -/
theorem find_merged_plain (sortedApplied : Members.Sorted applied)
    (sortedModified : Members.Sorted modified) {key : String} {wanted : Json}
    (found : Members.find modified key = some wanted)
    (plain : ∀ members, wanted ≠ .object members) (notNull : wanted ≠ .null) :
    ∃ held, Members.find (mergedMembers applied modified current) key = some held ∧
      same held wanted = true := by
  rcases find_merged_origin sortedApplied sortedModified found plain notNull with
    put | ⟨held, -, isSame, stays⟩
  · exact ⟨wanted, put, same_refl wanted⟩
  · exact ⟨held, stays, isSame⟩

/-- An object that is wanted is merged with what stands there, if that is an object, and
else with an empty one. -/
theorem find_merged_object (sortedApplied : Members.Sorted applied)
    (sortedModified : Members.Sorted modified) {key : String} {wanted : Members}
    (found : Members.find modified key = some (.object wanted))
    (sortedWanted : Members.Sorted wanted) :
    Members.find (mergedMembers applied modified current) key =
      some (.object (mergedMembers (applied.within key) wanted (current.within key))) := by
  rw [find_mergedMembers sortedApplied, find_threeWayMembers sortedApplied sortedModified, found,
    Option.bind_some, deletion_within, mergedMembers, threeWayMembers]
  by_cases isObject : ∃ members, Members.find current key = some (.object members)
  · obtain ⟨members, here⟩ := isObject
    have within : current.within key = members := by rw [Members.within, here]; rfl
    rw [within, here, addition_within]
    have sortedAdded := sortedWanted.additions members
    cases deleted : deletions wanted (applied.within key) with
    | nil =>
      rw [overlaid_nil sortedAdded]
      cases added : additions members wanted with
      | nil => simp [nestedChange, patchedMembers]
      | cons head rest => simp [nestedChange, laidOver, isNull, patched, membersOf]
    | cons first others =>
      cases added : additions members wanted with
      | nil => simp [nestedChange, overlaid, isNull, patched, membersOf]
      | cons head rest => simp [nestedChange, laidOver, isNull, patched, membersOf]
  · have plain : ∀ members, Members.find current key ≠ some (.object members) :=
      fun members here => isObject ⟨members, here⟩
    have bare : ((Members.find current key).getD .null).membersOf = [] := by
      cases here : Members.find current key with
      | none => rfl
      | some value =>
        cases value with
        | object members => exact absurd here (plain members)
        | _ => rfl
    have within : current.within key = [] := bare
    rw [within, addition_instead wanted plain, additions_nil]
    cases deleted : deletions wanted (applied.within key) with
    | nil =>
      rw [overlaid_nil sortedWanted]
      simp [nestedChange, laidOver, isNull, patched, bare]
    | cons first others => simp [nestedChange, laidOver, isNull, patched, bare]

end

/-! ## The merge as a whole -/

mutual

/-- No member of an object in the value is null. Items of arrays may be. -/
def NullFree : Json -> Prop
  | .object members => NullFreeMembers members
  | _ => True

/-- No member is null, nor any member within them. -/
def NullFreeMembers : List (String × Json) -> Prop
  | [] => True
  | (_, value) :: members => value ≠ .null ∧ NullFree value ∧ NullFreeMembers members

end

/-- Members hold no null when none of them is null or holds one. -/
theorem nullFreeMembers_iff {members : Members} :
    NullFreeMembers members <-> ∀ member ∈ members, member.2 ≠ .null ∧ NullFree member.2 := by
  induction members with
  | nil => simp [NullFreeMembers]
  | cons member members ih =>
    rw [NullFreeMembers, List.forall_mem_cons, ih, and_assoc]

/-- What is found in members without null is not null and holds none. -/
theorem NullFreeMembers.find {members : Members} (nullFree : NullFreeMembers members)
    {key : String} {value : Json} (found : Members.find members key = some value) :
    value ≠ .null ∧ NullFree value := by
  induction members with
  | nil => simp at found
  | cons head rest ih =>
    obtain ⟨k, v⟩ := head
    rw [NullFreeMembers] at nullFree
    rw [Members.find_cons] at found
    split_ifs at found with same
    · exact (Option.some.inj found) ▸ ⟨nullFree.1, nullFree.2.1⟩
    · exact ih nullFree.2.2 found

/-- The members of a value without null members have none either. -/
theorem NullFree.membersOf {value : Json} (nullFree : NullFree value) :
    NullFreeMembers value.membersOf := by
  cases value with
  | object members => rwa [NullFree] at nullFree
  | _ => simp [Json.membersOf, NullFreeMembers]

/-- What a three-way merge has to make of `current`, for every key and again for every key
of the objects within. -/
inductive Merge : Members -> Members -> Members -> Members -> Prop where
  | intro {applied modified current merged : Members}
      -- A wanted value that is no object is there, or one equal to it.
      (plain : ∀ key wanted, Members.find modified key = some wanted ->
        (∀ members, wanted ≠ .object members) ->
        ∃ held, Members.find merged key = some held ∧ same held wanted = true)
      -- A wanted object is there as the merge of the three objects under the key.
      (nested : ∀ key wanted, Members.find modified key = some (.object wanted) ->
        Members.find merged key =
          some (.object (mergedMembers (applied.within key) wanted (current.within key))))
      (nestedMerge : ∀ key wanted, Members.find modified key = some (.object wanted) ->
        Merge (applied.within key) wanted (current.within key)
          (mergedMembers (applied.within key) wanted (current.within key)))
      -- What was applied before and is wanted no longer is gone.
      (gone : ∀ key, Members.find modified key = none ->
        (Members.find applied key).isSome -> Members.find merged key = none)
      -- What neither side mentions is as it was.
      (kept : ∀ key, Members.find modified key = none -> Members.find applied key = none ->
        Members.find merged key = Members.find current key) :
      Merge applied modified current merged

/-- The members inside of members in order are in order. -/
theorem Members.within_ordered {members : Members} (ordered : OrderedMembers members)
    (key : String) :
    Members.Sorted (members.within key) ∧ OrderedMembers (members.within key) := by
  rw [Members.within]
  cases found : Members.find members key with
  | none => exact ⟨Entries.sorted_nil, by simp [membersOf, OrderedMembers]⟩
  | some value => exact (ordered.find found).membersOf

/-- The members of an object that is found among members are fewer. -/
theorem sizeOf_lt_of_find {members inner : Members} {key : String}
    (found : Members.find members key = some (.object inner)) : sizeOf inner < sizeOf members := by
  have inside : sizeOf (Json.object inner) < sizeOf members :=
    sizeOf_lt_of_mem (Entries.mem_of_lookup found)
  have object := Json.object.sizeOf_spec inner
  omega

/-- The members that a merge computes are those of a merge. -/
theorem merge_mergedMembers (applied modified current : Members)
    (sortedApplied : Members.Sorted applied) (orderedApplied : OrderedMembers applied)
    (sortedModified : Members.Sorted modified) (orderedModified : OrderedMembers modified)
    (orderedCurrent : OrderedMembers current) (nullFree : NullFreeMembers modified) :
    Merge applied modified current (mergedMembers applied modified current) := by
  refine Merge.intro ?plain ?nested ?nestedMerge ?gone ?kept
  case plain =>
    intro key wanted found plain
    have notNull : wanted ≠ .null := (nullFree.find found).1
    exact find_merged_plain sortedApplied sortedModified found plain notNull
  case nested =>
    intro key wanted found
    have sortedWanted := (ordered_object.1 (orderedModified.find found)).1
    exact find_merged_object sortedApplied sortedModified found sortedWanted
  case nestedMerge =>
    intro key wanted found
    obtain ⟨sortedWanted, orderedWanted⟩ := ordered_object.1 (orderedModified.find found)
    obtain ⟨sortedWithin, orderedWithin⟩ := Members.within_ordered orderedApplied key
    have orderedHere := (Members.within_ordered orderedCurrent key).2
    have nullFreeWanted : NullFreeMembers wanted := (nullFree.find found).2.membersOf
    have smaller := sizeOf_lt_of_find found
    exact merge_mergedMembers (applied.within key) wanted (current.within key) sortedWithin
      orderedWithin sortedWanted orderedWanted orderedHere nullFreeWanted
  case gone =>
    intro key unwanted was
    exact find_merged_gone sortedApplied sortedModified unwanted was
  case kept =>
    intro key unwanted wasNot
    exact find_merged_kept sortedApplied sortedModified unwanted wasNot
termination_by sizeOf modified

/-- An object, or null for none. -/
inductive IsSide : Json -> Prop where
  | null : IsSide .null
  | object (members : Members) : IsSide (.object members)

/-- The members of a side are those of its value, which is an object or null. -/
theorem sideMembers_eq (side : MergeSide) {value : Json} (isSide : IsSide value) :
    sideMembers side value = .ok value.membersOf := by
  cases isSide with
  | null => rfl
  | object members => rfl

/-- The patch of three sides that are objects or null is that of their members. -/
theorem threeWayPatch_eq {applied modified current : Json} (appliedSide : IsSide applied)
    (modifiedSide : IsSide modified) (currentSide : IsSide current) :
    threeWayPatch applied modified current =
      .ok (.object (threeWayMembers applied.membersOf modified.membersOf current.membersOf)) := by
  rw [threeWayPatch, sideMembers_eq _ appliedSide, sideMembers_eq _ modifiedSide,
    sideMembers_eq _ currentSide]
  rfl

/-- Where that patch is carried out, the members are merged. -/
theorem patched_threeWayMembers (applied modified : Members) (current : Json) :
    patched current (.object (threeWayMembers applied modified current.membersOf)) =
      .object (mergedMembers applied modified current.membersOf) := by
  rw [patched, mergedMembers]

/-- The patch of three sides that are objects or null, carried out on the current one, gives
their merge. -/
theorem threeWayPatch_merges {applied modified current : Json} (appliedSide : IsSide applied)
    (modifiedSide : IsSide modified) (currentSide : IsSide current)
    (orderedApplied : Ordered applied) (orderedModified : Ordered modified)
    (orderedCurrent : Ordered current) (nullFree : NullFree modified) :
    ∃ patch merged, threeWayPatch applied modified current = .ok patch ∧
      patched current patch = .object merged ∧
      Merge applied.membersOf modified.membersOf current.membersOf merged := by
  refine ⟨.object (threeWayMembers applied.membersOf modified.membersOf current.membersOf),
    mergedMembers applied.membersOf modified.membersOf current.membersOf, ?_, ?_, ?_⟩
  · rw [threeWayPatch, sideMembers_eq _ appliedSide, sideMembers_eq _ modifiedSide,
      sideMembers_eq _ currentSide]
    rfl
  · rw [patched, mergedMembers]
  · obtain ⟨sortedApplied, orderedApplied⟩ := orderedApplied.membersOf
    obtain ⟨sortedModified, orderedModified⟩ := orderedModified.membersOf
    exact merge_mergedMembers _ _ _ sortedApplied orderedApplied sortedModified orderedModified
      orderedCurrent.membersOf.2 nullFree.membersOf

/-- Sides on which the merge takes `b` back, sets `c` in its place, and leaves alone the address
that others gave the service. -/
theorem threeWayPatch_merges_service :
    let applied : Json := .object [("spec", .object [("a", .integer 1), ("b", .integer 2)])]
    let modified : Json := .object [("spec", .object [("a", .integer 1), ("c", .integer 3)])]
    let current : Json := .object [("spec", .object [("a", .integer 1), ("b", .integer 2),
      ("clusterIP", .string "10.0.0.1")])]
    (Ordered applied ∧ Ordered modified ∧ Ordered current ∧ NullFree modified) ∧
      ∃ patch merged, threeWayPatch applied modified current = .ok patch ∧
        patched current patch = .object merged ∧
        Merge applied.membersOf modified.membersOf current.membersOf merged := by
  intro applied modified current
  have orderedApplied : Ordered applied := by
    simp only [applied, Ordered, OrderedMembers]
    decide
  have orderedModified : Ordered modified := by
    simp only [modified, Ordered, OrderedMembers]
    decide
  have orderedCurrent : Ordered current := by
    simp only [current, Ordered, OrderedMembers]
    decide
  have nullFree : NullFree modified := by
    simp [modified, NullFree, NullFreeMembers]
  exact ⟨⟨orderedApplied, orderedModified, orderedCurrent, nullFree⟩,
    threeWayPatch_merges (.object _) (.object _) (.object _) orderedApplied orderedModified
      orderedCurrent nullFree⟩

end GuestFleet.Json
