import GuestFleet.Proofs.Json.Exact

/-!
# Codecs that merges respect

Two values of a type are written, and merged member by member. Whatever the applied side takes
away, what is left is what is written for some value of the type: a member that may not be absent
is wanted, so that nothing takes it away. What a record needs for this is said by its members alone.
-/

namespace GuestFleet.Json

variable {α σ : Type} {depth : Nat}

/-- A merge into nothing leaves what is wanted. -/
theorem mergedMembers_nil (applied modified : Members) (orderedApplied : Ordered (.object applied))
    (orderedModified : Ordered (.object modified)) (nullFree : NullFreeMembers modified) :
    mergedMembers applied modified [] = modified := by
  obtain ⟨sortedApplied, valuesApplied⟩ := ordered_object.1 orderedApplied
  obtain ⟨sortedModified, valuesModified⟩ := ordered_object.1 orderedModified
  refine Entries.Sorted.ext (Members.Sorted.merged Entries.sorted_nil applied modified)
    sortedModified fun key => ?_
  show Members.find _ key = Members.find modified key
  cases found : Members.find modified key with
  | none =>
    cases was : Members.find applied key with
    | none => exact find_merged_kept sortedApplied sortedModified found was
    | some value =>
      refine find_merged_gone sortedApplied sortedModified found ?_
      rw [was]
      rfl
  | some wanted =>
    by_cases isObject : ∃ members, wanted = .object members
    · obtain ⟨members, rfl⟩ := isObject
      have orderedWanted : Ordered (.object members) := valuesModified.find found
      have smaller := sizeOf_lt_of_find found
      have within : Members.within [] key = [] := rfl
      rw [find_merged_object sortedApplied sortedModified found (ordered_object.1 orderedWanted).1,
        within, mergedMembers_nil (applied.within key) members
          (ordered_object.2 (Members.within_ordered valuesApplied key)) orderedWanted
          (nullFree.find found).2.membersOf]
    · have plain : ∀ members, wanted ≠ .object members :=
        fun members eq => isObject ⟨members, eq⟩
      have notNull := (nullFree.find found).1
      rcases find_merged_origin sortedApplied sortedModified found plain notNull with
        put | ⟨held, absent, -⟩
      · exact put
      · cases absent
termination_by sizeOf modified

/-- What neither stands there nor is wanted does not come about. -/
theorem find_merged_foreign {applied wanted present : Members}
    (sortedApplied : Members.Sorted applied) (sortedWanted : Members.Sorted wanted) {key : String}
    (unwanted : Members.find wanted key = none) (absent : Members.find present key = none) :
    Members.find (mergedMembers applied wanted present) key = none := by
  cases was : Members.find applied key with
  | none => rw [find_merged_kept sortedApplied sortedWanted unwanted was, absent]
  | some value =>
    refine find_merged_gone sortedApplied sortedWanted unwanted ?_
    rw [was]
    rfl

/-- A plain value on which both sides agree stays. -/
theorem find_merged_agreed {applied wanted present : Members}
    (sortedApplied : Members.Sorted applied) (sortedWanted : Members.Sorted wanted) {key : String}
    {value : Json} (plain : ∀ members, value ≠ .object members) (notNull : value ≠ .null)
    (isWanted : Members.find wanted key = some value)
    (isPresent : Members.find present key = some value) :
    Members.find (mergedMembers applied wanted present) key = some value := by
  rcases find_merged_origin sortedApplied sortedWanted isWanted plain notNull with
    put | ⟨held, stood, -, stays⟩
  · exact put
  · rw [stays, ← stood, isPresent]

namespace Codec

/-- What is written for a value has its members in order, is not null and holds no null. -/
structure Clean (codec : Codec α) (value : α) : Prop where
  ordered : Ordered (codec.write value)
  present : codec.write value ≠ .null
  nullFree : NullFree (codec.write value)

/-- What is read back is written cleanly. -/
theorem Exact.clean {codec : Codec α} {value : α} (exact : codec.Exact depth value) :
    codec.Clean value :=
  ⟨exact.printable.ordered, exact.present, exact.nullFree⟩

/-- Good values are written cleanly, and a merge of two that are written as objects is what is
written for a good value. -/
structure Mergeable (codec : Codec α) (good : α -> Prop) : Prop where
  clean : ∀ value, good value -> codec.Clean value
  merged : ∀ {current desired : α}, good current -> good desired ->
    ∀ {present wanted : Members}, codec.write current = .object present ->
      codec.write desired = .object wanted -> ∀ {applied : Members}, Ordered (.object applied) ->
        ∃ value, good value ∧ codec.write value = .object (mergedMembers applied wanted present)

/-- Good values may be described in another way. -/
theorem Mergeable.congr {codec : Codec α} {good other : α -> Prop}
    (mergeable : codec.Mergeable good) (same : ∀ value, good value <-> other value) :
    codec.Mergeable other := by
  rwa [← funext fun value => propext (same value)]

/-- Values that are not written as objects are never merged. -/
theorem mergeable_plain {codec : Codec α} {good : α -> Prop}
    (exact : ∀ value, good value -> codec.Exact depth value)
    (plain : ∀ value members, codec.write value ≠ .object members) : codec.Mergeable good :=
  ⟨fun value isGood => (exact value isGood).clean,
    fun _ _ _ _ isObject => absurd isObject (plain _ _)⟩

section

variable {codec : Codec α} {good : α -> Prop} (mergeable : codec.Mergeable good)
  {applied wanted present : Members} (orderedApplied : Ordered (.object applied))
  (sortedWanted : Members.Sorted wanted) {key : String}

include mergeable orderedApplied sortedWanted

/-- What is wanted under a key is merged into what may stand there. -/
theorem Mergeable.find_wanted {current : Option α} {desired : α}
    (goodCurrent : ∀ value, current = some value -> good value) (goodDesired : good desired)
    (isPresent : Members.find present key = current.map codec.write)
    (isWanted : Members.find wanted key = some (codec.write desired)) :
    ∃ value, good value ∧
      Members.find (mergedMembers applied wanted present) key = some (codec.write value) := by
  have clean := mergeable.clean desired goodDesired
  obtain ⟨sortedApplied, valuesApplied⟩ := ordered_object.1 orderedApplied
  have orderedWithin : Ordered (.object (applied.within key)) :=
    ordered_object.2 (Members.within_ordered valuesApplied key)
  by_cases isObject : ∃ members, codec.write desired = .object members
  · obtain ⟨members, written⟩ := isObject
    have ordered : Ordered (.object members) := written ▸ clean.ordered
    have nullFree : NullFree (.object members) := written ▸ clean.nullFree
    have anew (absent : present.within key = []) : ∃ value, good value ∧
        Members.find (mergedMembers applied wanted present) key = some (codec.write value) := by
      refine ⟨desired, goodDesired, ?_⟩
      rw [find_merged_object sortedApplied sortedWanted (written ▸ isWanted)
        (ordered_object.1 ordered).1, absent,
        mergedMembers_nil _ members orderedWithin ordered nullFree, written]
    cases current with
    | none =>
      refine anew ?_
      rw [Members.within, isPresent]
      rfl
    | some held =>
      cases writtenHeld : codec.write held with
      | object inside =>
        have within : present.within key = inside := by
          rw [Members.within, isPresent, Option.map_some, writtenHeld]
          rfl
        obtain ⟨value, isGood, merged⟩ :=
          mergeable.merged (goodCurrent held rfl) goodDesired writtenHeld written orderedWithin
        refine ⟨value, isGood, ?_⟩
        rw [find_merged_object sortedApplied sortedWanted (written ▸ isWanted)
          (ordered_object.1 ordered).1, within, merged]
      | _ =>
        refine anew ?_
        rw [Members.within, isPresent, Option.map_some, writtenHeld]
        rfl
  · have plain : ∀ members, codec.write desired ≠ .object members :=
      fun members eq => isObject ⟨members, eq⟩
    rcases find_merged_origin sortedApplied sortedWanted isWanted plain clean.present with
      put | ⟨held, stood, -, stays⟩
    · exact ⟨desired, goodDesired, put⟩
    · rw [isPresent] at stood
      obtain ⟨value, isCurrent, rfl⟩ := Option.map_eq_some_iff.1 stood
      exact ⟨value, goodCurrent value isCurrent, stays⟩

/-- What stands under a key after a merge, if anything does, is written for a good value. -/
theorem Mergeable.find_merged {current desired : Option α}
    (goodCurrent : ∀ value, current = some value -> good value)
    (goodDesired : ∀ value, desired = some value -> good value)
    (isPresent : Members.find present key = current.map codec.write)
    (isWanted : Members.find wanted key = desired.map codec.write) :
    ∃ value : Option α, (∀ held, value = some held -> good held) ∧
      Members.find (mergedMembers applied wanted present) key = value.map codec.write := by
  have sortedApplied := (ordered_object.1 orderedApplied).1
  cases desired with
  | some desired =>
    obtain ⟨value, isGood, found⟩ := mergeable.find_wanted orderedApplied sortedWanted goodCurrent
      (goodDesired desired rfl) isPresent isWanted
    refine ⟨some value, fun held same => ?_, found⟩
    rwa [← Option.some.inj same]
  | none =>
    cases was : Members.find applied key with
    | none =>
      refine ⟨current, goodCurrent, ?_⟩
      rw [find_merged_kept sortedApplied sortedWanted isWanted was, isPresent]
    | some value =>
      refine ⟨none, nofun, ?_⟩
      refine find_merged_gone sortedApplied sortedWanted isWanted ?_
      rw [was]
      rfl

end

end Codec

/-! ## Records -/

namespace Member

/-- What a record writes for members stands under their keys. -/
def Stands (members : List (Member σ)) (record : σ) (among : Members) : Prop :=
  ∀ member ∈ members, Members.find among member.key = member.write record

/-- What a record writes stands in what it writes. -/
theorem stands_written {members : List (Member σ)} (nodup : (members.map (·.key)).Nodup)
    (record : σ) : Stands members record (written members record) := by
  intro member mem
  rw [find_written nodup, find?_key nodup mem]
  rfl

/-- Where two records are merged member by member, a record that is done as demanded stands
there. -/
def Merges (members : List (Member σ)) (current desired : σ) (done : σ -> Prop) : Prop :=
  ∀ ⦃applied wanted present : Members⦄, Ordered (.object applied) -> Members.Sorted wanted ->
    Stands members current present -> Stands members desired wanted ->
    ∃ record, done record ∧ Stands members record (mergedMembers applied wanted present)

section

variable {members : List (Member σ)} {current desired : σ} {done : σ -> Prop}

/-- Without members any record that is done as demanded stands there. -/
theorem Merges.nil (exist : ∃ record, done record) : Merges [] current desired done := by
  obtain ⟨record, isDone⟩ := exist
  intro applied wanted present _ _ _ _
  exact ⟨record, isDone, fun _ mem => absurd mem List.not_mem_nil⟩

/-- A member that may be absent is merged, and the record has what the merge leaves. -/
theorem Merges.optional {key : String} {codec : Codec α} {get : σ -> Option α}
    {set : σ -> Option α -> σ} {good : α -> Prop} (mergeable : codec.Mergeable good)
    (goodCurrent : ∀ value, get current = some value -> good value)
    (goodDesired : ∀ value, get desired = some value -> good value)
    (later : ∀ value, (∀ held, value = some held -> good held) ->
      Merges members current desired fun record => get record = value ∧ done record) :
    Merges (.optional key codec get set :: members) current desired done := by
  intro applied wanted present ordered sorted isPresent isWanted
  obtain ⟨ownPresent, othersPresent⟩ := List.forall_mem_cons.1 isPresent
  obtain ⟨ownWanted, othersWanted⟩ := List.forall_mem_cons.1 isWanted
  obtain ⟨value, isGood, found⟩ :=
    mergeable.find_merged ordered sorted goodCurrent goodDesired ownPresent ownWanted
  obtain ⟨record, ⟨rfl, isDone⟩, stands⟩ :=
    later value isGood ordered sorted othersPresent othersWanted
  exact ⟨record, isDone, List.forall_mem_cons.2 ⟨found, stands⟩⟩

/-- A member of which every value is good is merged. -/
theorem Merges.any {key : String} {codec : Codec α} {get : σ -> Option α}
    {set : σ -> Option α -> σ} (mergeable : codec.Mergeable fun _ => True)
    (later : ∀ value,
      Merges members current desired fun record => get record = value ∧ done record) :
    Merges (.optional key codec get set :: members) current desired done :=
  Merges.optional mergeable (fun _ _ => trivial) (fun _ _ => trivial) fun value _ => later value

/-- A member that is always written is merged, and the record has what the merge leaves. -/
theorem Merges.needed {key : String} {codec : Codec α} {absent : α} {get : σ -> α}
    {set : σ -> α -> σ} {good : α -> Prop} (mergeable : codec.Mergeable good)
    (goodCurrent : good (get current)) (goodDesired : good (get desired))
    (later : ∀ value, good value ->
      Merges members current desired fun record => get record = value ∧ done record) :
    Merges (.needed key codec absent get set :: members) current desired done := by
  intro applied wanted present ordered sorted isPresent isWanted
  obtain ⟨ownPresent, othersPresent⟩ := List.forall_mem_cons.1 isPresent
  obtain ⟨ownWanted, othersWanted⟩ := List.forall_mem_cons.1 isWanted
  have goodPresent : ∀ value, some (get current) = some value -> good value := by
    rintro _ ⟨⟩
    exact goodCurrent
  obtain ⟨value, isGood, found⟩ :=
    mergeable.find_wanted ordered sorted goodPresent goodDesired ownPresent ownWanted
  obtain ⟨record, ⟨rfl, isDone⟩, stands⟩ :=
    later value isGood ordered sorted othersPresent othersWanted
  exact ⟨record, isDone, List.forall_mem_cons.2 ⟨found, stands⟩⟩

end

/-- Among what is written nothing stands under other keys. -/
theorem find_written_foreign {members : List (Member σ)} {key : String}
    (foreign : key ∉ members.map (·.key)) (record : σ) :
    Members.find (written members record) key = none :=
  Entries.lookup_eq_none.2 fun mem => foreign ((keys_written members record).subset mem)

/-- Where nothing else stands than the members of a record, the record tells what is found. -/
theorem Stands.find_written {members : List (Member σ)} (nodup : (members.map (·.key)).Nodup)
    {record : σ} {among : Members} (stands : Stands members record among) {key : String}
    (foreign : key ∉ members.map (·.key) -> Members.find among key = none) :
    Members.find (written members record) key = Members.find among key := by
  by_cases own : key ∈ members.map (·.key)
  · obtain ⟨member, mem, rfl⟩ := List.mem_map.1 own
    rw [stands member mem, stands_written nodup record member mem]
  · rw [foreign own, find_written_foreign own]

end Member

namespace Codec

/-- A record can be merged when its members can. -/
theorem mergeable_record {name : String} {empty : σ} {members : List (Member σ)} {good : σ -> Prop}
    (sorted : (members.map (·.key)).Pairwise (· < ·))
    (exact : ∀ record, good record -> (Codec.record name empty members).Exact depth record)
    (merges : ∀ current desired, good current -> good desired ->
      Member.Merges members current desired good) :
    (Codec.record name empty members).Mergeable good := by
  refine ⟨fun record isGood => (exact record isGood).clean, ?_⟩
  rintro current desired goodCurrent goodDesired _ _ ⟨⟩ ⟨⟩ applied ordered
  have nodup := sorted.imp ne_of_lt
  have sortedWanted := sorted_written sorted desired
  have sortedApplied := (ordered_object.1 ordered).1
  obtain ⟨record, isGood, stands⟩ := merges current desired goodCurrent goodDesired ordered
    sortedWanted (Member.stands_written nodup current) (Member.stands_written nodup desired)
  refine ⟨record, isGood, congrArg Json.object ?_⟩
  refine Entries.Sorted.ext (sorted_written sorted record)
    ((sorted_written sorted current).merged applied _) fun key => ?_
  exact stands.find_written nodup fun foreign =>
    find_merged_foreign sortedApplied sortedWanted (Member.find_written_foreign foreign desired)
      (Member.find_written_foreign foreign current)

end Codec

/-! ## Values -/

namespace Codec

/-- Texts can be merged. -/
theorem mergeable_text : text.Mergeable fun _ => True :=
  mergeable_plain (fun value _ => (exact_text value : text.Exact 0 value)) fun _ _ => nofun

/-- Truth values can be merged. -/
theorem mergeable_truth : truth.Mergeable fun _ => True :=
  mergeable_plain (fun value _ => (exact_truth value : truth.Exact 0 value)) fun _ _ => nofun

/-- Numbers of 32 bits can be merged. -/
theorem mergeable_int32 : int32.Mergeable IsInt32 :=
  mergeable_plain (fun _ fits => (exact_int32 fits : int32.Exact 0 _)) fun _ _ => nofun

/-- Numbers of 64 bits can be merged. -/
theorem mergeable_int64 : int64.Mergeable IsInt64 :=
  mergeable_plain (fun _ fits => (exact_int64 fits : int64.Exact 0 _)) fun _ _ => nofun

/-- Instants of four-digit years can be merged. -/
theorem mergeable_instant : instant.Mergeable Time.Instant.Proper :=
  mergeable_plain (fun _ proper => (exact_instant proper : instant.Exact 0 _)) fun _ _ => nofun

/-- A list is never merged with another, item by item. -/
theorem mergeable_list {item : Codec α} {good : List α -> Prop}
    (exact : ∀ values, good values -> ∀ value ∈ values, item.Exact depth value) :
    (list item).Mergeable good :=
  mergeable_plain (fun values isGood => exact_list (exact values isGood)) fun _ _ => nofun

/-- Members whose values are all written for good values are what is written for a map. -/
theorem exists_map {item : Codec α} {good : α -> Prop} {members : Members}
    (values : ∀ member ∈ members, ∃ value, good value ∧ item.write value = member.2) :
    ∃ entries : List (String × α), (∀ entry ∈ entries, good entry.2) ∧
      (entries.map fun entry => (entry.1, item.write entry.2)) = members := by
  induction members with
  | nil => exact ⟨[], fun _ mem => absurd mem List.not_mem_nil, rfl⟩
  | cons member members ih =>
    obtain ⟨key, written⟩ := member
    rw [List.forall_mem_cons] at values
    obtain ⟨⟨value, isGood, rfl⟩, others⟩ := values
    obtain ⟨entries, goodEntries, rfl⟩ := ih others
    exact ⟨(key, value) :: entries, List.forall_mem_cons.2 ⟨isGood, goodEntries⟩, rfl⟩

/-- A map is written in order if, and only if, its entries are in order. -/
theorem sorted_map (item : Codec α) {entries : List (String × α)} :
    Members.Sorted (entries.map fun entry => (entry.1, item.write entry.2)) <->
      Entries.Sorted entries := by
  rw [Members.Sorted, Entries.Sorted, Entries.Sorted, List.map_map]
  exact Iff.rfl

/-- Maps are merged key by key. -/
theorem mergeable_map {item : Codec α} {good : α -> Prop} (mergeable : item.Mergeable good)
    (exact : ∀ value, good value -> item.Exact depth value) :
    (map item).Mergeable fun entries =>
      Entries.Sorted entries ∧ ∀ entry ∈ entries, good entry.2 := by
  refine ⟨fun entries isGood => ?_, ?_⟩
  · exact (exact_map isGood.1 fun entry mem => exact entry.2 (isGood.2 entry mem)).clean
  · rintro current desired ⟨sortedCurrent, goodCurrent⟩ ⟨sortedDesired, goodDesired⟩ _ _ ⟨⟩ ⟨⟩
      applied ordered
    have sortedMerged := ((sorted_map item).2 sortedCurrent).merged applied
      (desired.map fun entry => (entry.1, item.write entry.2))
    have goodAt {entries : List (String × α)} (all : ∀ entry ∈ entries, good entry.2) (key : String)
        (value : α) (found : List.lookup key entries = some value) : good value :=
      all (key, value) (Entries.mem_of_lookup found)
    have values : ∀ member ∈ mergedMembers applied
        (desired.map fun entry => (entry.1, item.write entry.2))
        (current.map fun entry => (entry.1, item.write entry.2)),
        ∃ value, good value ∧ item.write value = member.2 := by
      rintro ⟨key, written⟩ mem
      obtain ⟨value, isGood, found⟩ := mergeable.find_merged ordered
        ((sorted_map item).2 sortedDesired) (goodAt goodCurrent key) (goodAt goodDesired key)
        (find_map item current key) (find_map item desired key)
      have here := (Entries.lookup_of_mem sortedMerged.nodup mem).symm.trans found
      obtain ⟨held, isHeld, same⟩ := Option.map_eq_some_iff.1 here.symm
      exact ⟨held, isGood held isHeld, same⟩
    obtain ⟨entries, goodEntries, written⟩ := exists_map values
    refine ⟨entries, ⟨?_, goodEntries⟩, congrArg Json.object written⟩
    rw [← sorted_map item, written]
    exact sortedMerged

/-- Maps of texts are in key order. -/
theorem mergeable_textMap : textMap.Mergeable fun entries => Entries.Sorted entries := by
  have texts := mergeable_map mergeable_text fun value _ => (exact_text value : text.Exact 0 value)
  exact texts.congr fun entries => and_iff_left fun _ _ => trivial

end Codec

end GuestFleet.Json
