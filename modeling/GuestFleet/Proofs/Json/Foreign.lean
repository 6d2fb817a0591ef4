import GuestFleet.Proofs.Json.ThreeWay

/-!
# What a merge leaves to others

A value that only the current object holds stays where it is as long as the operator goes on
setting the objects around it. An object that the operator applied before and does not set any
longer is taken away whole, with all that others have written into it.
-/

namespace GuestFleet.Json

/-! ## Paths -/

/-- The value at the end of a path of keys through objects. -/
def at? (value : Json) : List String -> Option Json
  | [] => some value
  | key :: keys => (value.member? key).bind fun inner => inner.at? keys

/-- A path through an object goes on from what is under its first key. -/
theorem at?_cons (members : Members) (key : String) (keys : List String) :
    (object members).at? (key :: keys) =
      (Members.find members key).bind fun inner => inner.at? keys := rfl

/-- Below a key only the members of the object there matter. -/
theorem at?_within (members : Members) (key : String) {keys : List String} (below : keys ≠ []) :
    (object (members.within key)).at? keys = (object members).at? (key :: keys) := by
  obtain ⟨first, rest, rfl⟩ := List.exists_cons_of_ne_nil below
  rw [at?_cons members, Members.within]
  cases Members.find members key with
  | none => rfl
  | some value => cases value <;> rfl

/-! ## Objects that are given up -/

/-- On the way to the end of a path the operator had set something that it sets no longer. -/
def GivenUp (applied modified : Json) (path : List String) : Prop :=
  ∃ start, start <+: path ∧ start ≠ path ∧ modified.at? start = none ∧
    (applied.at? start).isSome = true

/-- Every value of the modified object on the way to the end of a path is an object. -/
def OpenTo (modified : Json) (path : List String) : Prop :=
  ∀ start, start <+: path -> start ≠ path -> ∀ value, modified.at? start = some value ->
    ∃ members, value = .object members

section

variable {applied modified wanted : Members} {key : String} {keys : List String}

/-- Nothing is given up below a key that neither side mentions. -/
theorem not_givenUp_of_unmentioned (wasNot : Members.find applied key = none) :
    ¬ GivenUp (.object applied) (.object modified) (key :: keys) := by
  rintro ⟨start, isStart, -, unwanted, was⟩
  cases start with
  | nil => cases unwanted
  | cons first rest =>
    obtain ⟨rfl, -⟩ := List.cons_prefix_cons.1 isStart
    rw [at?_cons, wasNot] at was
    cases was

/-- Below a key that was set and is set no longer everything is given up. -/
theorem givenUp_of_gone (below : keys ≠ []) (unwanted : Members.find modified key = none)
    (was : (Members.find applied key).isSome = true) :
    GivenUp (.object applied) (.object modified) (key :: keys) := by
  refine ⟨[key], ⟨keys, rfl⟩, fun same => below (List.cons.inj same).2.symm, ?_, ?_⟩
  · rw [at?_cons, unwanted]
    rfl
  · obtain ⟨value, found⟩ := Option.isSome_iff_exists.1 was
    rw [at?_cons, found]
    rfl

/-- Within an object that is wanted, what is given up is given up of the objects there. -/
theorem givenUp_within (found : Members.find modified key = some (.object wanted)) :
    GivenUp (.object applied) (.object modified) (key :: keys) <->
      GivenUp (.object (applied.within key)) (.object wanted) keys := by
  have wantedAt : ∀ start, (object modified).at? (key :: start) = (object wanted).at? start := by
    intro start
    rw [at?_cons, found]
    rfl
  constructor
  · rintro ⟨start, isStart, proper, unwanted, was⟩
    cases start with
    | nil => cases unwanted
    | cons first rest =>
      obtain ⟨rfl, isRest⟩ := List.cons_prefix_cons.1 isStart
      rw [wantedAt] at unwanted
      have below : rest ≠ [] := by
        rintro rfl
        cases unwanted
      refine ⟨rest, isRest, fun same => proper (by rw [same]), unwanted, ?_⟩
      rwa [at?_within applied first below]
  · rintro ⟨start, isStart, proper, unwanted, was⟩
    have below : start ≠ [] := by
      rintro rfl
      cases unwanted
    refine ⟨key :: start, List.cons_prefix_cons.2 ⟨rfl, isStart⟩,
      fun same => proper (List.cons.inj same).2, ?_, ?_⟩
    · rwa [wantedAt]
    · rwa [← at?_within applied key below]

/-- A path that is open stays open below its first key. -/
theorem OpenTo.within (opened : OpenTo (.object modified) (key :: keys))
    (found : Members.find modified key = some (.object wanted)) :
    OpenTo (.object wanted) keys := by
  intro start isStart proper value held
  refine opened (key :: start) (List.cons_prefix_cons.2 ⟨rfl, isStart⟩)
    (fun same => proper (List.cons.inj same).2) value ?_
  rw [at?_cons, found]
  exact held

end

/-! ## What becomes of foreign values -/

/-- A value at the end of a path that neither the applied nor the modified object reaches is
kept, unless an object around it is given up; then it is gone. -/
theorem at?_mergedMembers {path : List String} {applied modified current : Members}
    (sortedApplied : Members.Sorted applied) (orderedApplied : OrderedMembers applied)
    (sortedModified : Members.Sorted modified) (orderedModified : OrderedMembers modified)
    {value : Json} (held : (object current).at? path = some value)
    (plain : ∀ members, value ≠ .object members)
    (notApplied : (object applied).at? path = none) (unwanted : (object modified).at? path = none)
    (opened : OpenTo (.object modified) path) :
    (¬ GivenUp (.object applied) (.object modified) path ->
        (object (mergedMembers applied modified current)).at? path = some value) ∧
      (GivenUp (.object applied) (.object modified) path ->
        (object (mergedMembers applied modified current)).at? path = none) := by
  induction path generalizing applied modified current with
  | nil => exact absurd (Option.some.inj held).symm (plain current)
  | cons key keys ih =>
    cases found : Members.find modified key with
    | none =>
      cases was : Members.find applied key with
      | none =>
        have kept : Members.find (mergedMembers applied modified current) key =
            Members.find current key :=
          find_merged_kept sortedApplied sortedModified found was
        refine ⟨fun _ => ?_, fun up => absurd up (not_givenUp_of_unmentioned was)⟩
        rw [at?_cons, kept]
        exact held
      | some before =>
        -- the whole of what is under the key goes
        have was : (Members.find applied key).isSome = true := by rw [was]; rfl
        have below : keys ≠ [] := by
          rintro rfl
          obtain ⟨before, found⟩ := Option.isSome_iff_exists.1 was
          rw [at?_cons, found] at notApplied
          cases notApplied
        have up := givenUp_of_gone below found was
        refine ⟨fun kept => absurd up kept, fun _ => ?_⟩
        rw [at?_cons, find_merged_gone sortedApplied sortedModified found was]
        rfl
    | some wantedValue =>
      have below : keys ≠ [] := by
        rintro rfl
        rw [at?_cons, found] at unwanted
        cases unwanted
      have wantedHere : (object modified).at? [key] = some wantedValue := by
        rw [at?_cons, found]
        rfl
      obtain ⟨wanted, rfl⟩ := opened [key] ⟨keys, rfl⟩
        (fun same => below (List.cons.inj same).2.symm) wantedValue wantedHere
      obtain ⟨sortedWanted, orderedWanted⟩ := ordered_object.1 (orderedModified.find found)
      obtain ⟨sortedWithin, orderedWithin⟩ := Members.within_ordered orderedApplied key
      have heldWithin : (object (current.within key)).at? keys = some value :=
        (at?_within current key below).trans held
      have notAppliedWithin : (object (applied.within key)).at? keys = none :=
        (at?_within applied key below).trans notApplied
      have unwantedWithin : (object wanted).at? keys = none := by
        rw [at?_cons, found] at unwanted
        exact unwanted
      have inner := ih sortedWithin orderedWithin sortedWanted orderedWanted heldWithin
        notAppliedWithin unwantedWithin (opened.within found)
      have merged : (object (mergedMembers applied modified current)).at? (key :: keys) =
          (object (mergedMembers (applied.within key) wanted (current.within key))).at? keys := by
        rw [at?_cons, find_merged_object sortedApplied sortedModified found sortedWanted]
        rfl
      rw [merged, givenUp_within found]
      exact inner

/-- A merge keeps a value that others have written, at the end of a path that the operator
neither has set nor sets, exactly if the operator still sets every object on the way that it had
set before. Otherwise the value is lost with that object. -/
theorem threeWayPatch_keeps_iff {applied modified current : Members}
    (orderedApplied : Ordered (.object applied)) (orderedModified : Ordered (.object modified))
    {path : List String} {value : Json} (held : (object current).at? path = some value)
    (plain : ∀ members, value ≠ .object members)
    (notApplied : (object applied).at? path = none) (unwanted : (object modified).at? path = none)
    (opened : OpenTo (.object modified) path) :
    ∃ patch, threeWayPatch (.object applied) (.object modified) (.object current) = .ok patch ∧
      ((patched (.object current) patch).at? path = some value <->
        ¬ GivenUp (.object applied) (.object modified) path) ∧
      (GivenUp (.object applied) (.object modified) path ->
        (patched (.object current) patch).at? path = none) := by
  obtain ⟨sortedApplied, orderedApplied⟩ := ordered_object.1 orderedApplied
  obtain ⟨sortedModified, orderedModified⟩ := ordered_object.1 orderedModified
  obtain ⟨kept, lost⟩ := at?_mergedMembers sortedApplied orderedApplied sortedModified
    orderedModified held plain notApplied unwanted opened
  have result : patched (.object current) (.object (threeWayMembers applied modified current)) =
      .object (mergedMembers applied modified current) := by
    rw [patched, mergedMembers, membersOf]
  refine ⟨.object (threeWayMembers applied modified current), rfl, ?_⟩
  rw [result]
  refine ⟨⟨fun still up => ?_, kept⟩, lost⟩
  rw [lost up] at still
  cases still

/-- The operator sets no annotations any longer, and with its own one goes the one that a
controller had added. -/
theorem threeWayPatch_drops_annotation :
    let applied : Members := [("metadata", .object [("annotations", .object [("a", .string "1")])])]
    let modified : Members := [("metadata", .object [])]
    let current : Members := [("metadata", .object
      [("annotations", .object [("a", .string "1"), ("b", .string "2")])])]
    let path := ["metadata", "annotations", "b"]
    ((Ordered (.object applied) ∧ Ordered (.object modified)) ∧
      (object current).at? path = some (.string "2") ∧
      (∀ members, Json.string "2" ≠ .object members) ∧
      (object applied).at? path = none ∧ (object modified).at? path = none ∧
      OpenTo (.object modified) path) ∧
    GivenUp (.object applied) (.object modified) path ∧
    ∃ patch, threeWayPatch (.object applied) (.object modified) (.object current) = .ok patch ∧
      ((patched (.object current) patch).at? path = some (.string "2") <->
        ¬ GivenUp (.object applied) (.object modified) path) ∧
      (GivenUp (.object applied) (.object modified) path ->
        (patched (.object current) patch).at? path = none) := by
  intro applied modified current path
  have orderedApplied : Ordered (.object applied) := by
    simp only [applied, Ordered, OrderedMembers]
    decide
  have orderedModified : Ordered (.object modified) := by
    simp only [modified, Ordered, OrderedMembers]
    decide
  have opened : OpenTo (.object modified) path := by
    intro start isStart proper value held
    simp only [path, List.prefix_cons_iff, List.prefix_nil] at isStart
    rcases isStart with rfl | ⟨_, rfl, rfl | ⟨_, rfl, rfl | ⟨_, rfl, rfl⟩⟩⟩
    · exact ⟨modified, (Option.some.inj held).symm⟩
    · exact ⟨[], (Option.some.inj held).symm⟩
    · cases held
    · exact absurd rfl proper
  have plain : ∀ members, Json.string "2" ≠ .object members := by simp
  have givenUp : GivenUp (.object applied) (.object modified) path :=
    ⟨["metadata", "annotations"], ⟨["b"], rfl⟩, by decide, rfl, rfl⟩
  exact ⟨⟨⟨orderedApplied, orderedModified⟩, rfl, plain, rfl, rfl, opened⟩, givenUp,
    threeWayPatch_keeps_iff orderedApplied orderedModified rfl plain rfl rfl opened⟩

end GuestFleet.Json
