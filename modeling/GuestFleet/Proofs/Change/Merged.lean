import GuestFleet.Change.Snapshot
import GuestFleet.Proofs.Json.Parsed
import GuestFleet.Proofs.Json.ThreeWay
import GuestFleet.Proofs.Kube.Written
import GuestFleet.Store.Collection

/-!
# Merged objects

A merge never moves an object: whatever the snapshot and the current object say, the merged
object has the name and the namespace of the desired one, and it carries the desired
object's snapshot.
-/

namespace GuestFleet.Kube

open Json (Members)

/-! ## Texts in the metadata -/

/-- A member of metadata that is a text or absent. -/
structure Metadata.IsText (key : String) (get : Metadata -> Option String) : Prop where
  written : ∀ metadata : Metadata,
    Members.find (Metadata.codec.write metadata).membersOf key = (get metadata).map .string
  read : ∀ (members : Members) (metadata : Metadata) (text : String),
    (members.map Prod.fst).Nodup -> Members.find members key = some (.string text) ->
      Metadata.codec.read (.object members) = .ok metadata -> get metadata = some text
  unread : ∀ (members : Members) (metadata : Metadata), key ∉ members.map Prod.fst ->
    Metadata.codec.read (.object members) = .ok metadata -> get metadata = none
  annotated : ∀ (metadata : Metadata) (label text : String),
    get (metadata.annotate label text) = get metadata
  unsnapped : ∀ (metadata : Metadata) (annotations : Option StringMap),
    get { metadata with annotations := annotations } = get metadata

/-- A member is a text or absent when it is written and read as one, and the other members of
metadata leave it alone. -/
theorem Metadata.isText_of {expected : String} {fields : List (Json.Member Metadata)}
    (isCodec : codec = .record expected {} fields) {key : String}
    {get : Metadata -> Option String}
    (written : ∀ metadata : Metadata,
      Members.find (codec.write metadata).membersOf key = (get metadata).map .string)
    (own : ∀ (record : Metadata) (text : String) (after : Metadata),
      Json.Member.take fields record key (.string text) = .ok after -> get after = some text)
    (apart : ∀ field ∈ fields, field.key ≠ key -> ∀ record value after,
      field.read record value = .ok after -> get after = get record)
    (absent : get {} = none)
    (annotated : ∀ (metadata : Metadata) (label text : String),
      get (metadata.annotate label text) = get metadata)
    (unsnapped : ∀ (metadata : Metadata) (annotations : Option StringMap),
      get { metadata with annotations := annotations } = get metadata) :
    IsText key get where
  written := written
  read members metadata text nodup found read := by
    rw [isCodec] at read
    refine Json.foldl_get get (Json.take_get apart) nodup found (· = some text) ?_ read
    exact fun record after taken => own record text after taken
  unread members metadata unseen read := by
    rw [isCodec] at read
    rw [← absent]
    exact Json.foldl_get_of_unseen get (Json.take_get apart) unseen read
  annotated := annotated
  unsnapped := unsnapped

/-- The name of an object is kept in its metadata as a text. -/
theorem Metadata.isText_name : IsText "name" (·.name) := by
  refine isText_of rfl (fun metadata => Json.find_written (by decide) metadata "name") ?_ ?_ rfl
    (fun _ _ _ => rfl) fun _ _ => rfl
  · intro record text after taken
    rw [← Except.ok.inj taken]
  · intro field mem ne
    simp only [List.mem_cons, List.not_mem_nil, or_false] at mem
    rcases mem with rfl | rfl | rfl | rfl | rfl | rfl | rfl | rfl | rfl | rfl | rfl | rfl | rfl
    all_goals first
      | exact absurd rfl ne
      | exact Json.optional_get fun _ _ => rfl

/-- So is the name of its namespace. -/
theorem Metadata.isText_namespaceName : IsText "namespace" (·.namespaceName) := by
  refine isText_of rfl (fun metadata => Json.find_written (by decide) metadata "namespace") ?_ ?_
    rfl (fun _ _ _ => rfl) fun _ _ => rfl
  · intro record text after taken
    rw [← Except.ok.inj taken]
  · intro field mem ne
    simp only [List.mem_cons, List.not_mem_nil, or_false] at mem
    rcases mem with rfl | rfl | rfl | rfl | rfl | rfl | rfl | rfl | rfl | rfl | rfl | rfl | rfl
    all_goals first
      | exact absurd rfl ne
      | exact Json.optional_get fun _ _ => rfl

/-- So is its resource version. -/
theorem Metadata.isText_resourceVersion : IsText "resourceVersion" (·.resourceVersion) := by
  refine isText_of rfl (fun metadata => Json.find_written (by decide) metadata "resourceVersion")
    ?_ ?_ rfl (fun _ _ _ => rfl) fun _ _ => rfl
  · intro record text after taken
    rw [← Except.ok.inj taken]
  · intro field mem ne
    simp only [List.mem_cons, List.not_mem_nil, or_false] at mem
    rcases mem with rfl | rfl | rfl | rfl | rfl | rfl | rfl | rfl | rfl | rfl | rfl | rfl | rfl
    all_goals first
      | exact absurd rfl ne
      | exact Json.optional_get fun _ _ => rfl

/-! ## Objects -/

namespace Object

variable {kind : Kind}

/-- The metadata of an object that was read is read from the member with that name. -/
theorem metadata_of_read {members : Members} (nodup : (members.map Prod.fst).Nodup)
    {value : Members} (found : Members.find members "metadata" = some (.object value))
    {object : Object kind} (read : Object.read kind (.object members) = .ok object) :
    Metadata.codec.read (.object value) = .ok object.metadata := by
  refine Json.foldl_get Object.metadata ?_ nodup found
    (fun metadata => Metadata.codec.read (.object value) = .ok metadata) ?_ read
  · intro record key held after ne taken
    unfold readMember at taken
    split at taken
    · obtain ⟨_, -, same⟩ := Json.map_eq_ok taken
      rw [same]
    · obtain ⟨_, -, same⟩ := Json.map_eq_ok taken
      rw [same]
    · exact absurd rfl ne
    · obtain ⟨body, -, same⟩ := Json.map_eq_ok taken
      rw [same]
  · intro record after taken
    obtain ⟨metadata, read, same⟩ := Json.map_eq_ok taken
    rw [same]
    exact read

/-! ## Merges -/

/-- A snapshot that can be read is an ordered object or nothing. -/
theorem appliedValue_ordered {current : Object kind} {applied : Json}
    (read : current.appliedValue = .ok applied) : Json.Ordered applied := by
  unfold appliedValue at read
  split at read
  · rw [← Except.ok.inj read]
    simp [Json.Ordered]
  · split at read
    · cases read
    · next value parsed =>
      have ordered := Json.parse_ordered parsed
      split at read
      · rwa [← Except.ok.inj read]
      · split_ifs at read
        rwa [← Except.ok.inj read]

/-- The metadata of a snapshot has its members in order. -/
theorem sorted_applied {current : Object kind} {applied : Json}
    (read : current.appliedValue = .ok applied) :
    Members.Sorted (applied.membersOf.within "metadata") :=
  (Json.Members.within_ordered (appliedValue_ordered read).membersOf.2 "metadata").1

/-- A merged object is read from the members that the merge leaves. -/
theorem mergeDesired_reads {current desired merged : Object kind}
    (ok : current.mergeDesired desired = .ok merged) :
    ∃ (applied : Json) (before : Object kind), current.appliedValue = .ok applied ∧
      Object.read kind (.object (Json.mergedMembers applied.membersOf
        desired.withoutSnapshot.toJson.membersOf current.toJson.membersOf)) = .ok before ∧
      merged = before.setLastApplied desired.snapshotText := by
  unfold mergeDesired at ok
  cases snapshot : current.appliedValue with
  | error failure =>
    simp only [snapshot] at ok
    cases ok
  | ok applied =>
    simp only [snapshot] at ok
    cases side : Json.sideMembers .applied applied with
    | error fault =>
      have none : Json.threeWayPatch applied desired.withoutSnapshot.toJson current.toJson =
          .error fault := by
        rw [Json.threeWayPatch, side]
        rfl
      simp only [none] at ok
      cases ok
    | ok members =>
      have same : members = applied.membersOf := by
        cases applied <;> cases side <;> rfl
      have patch : Json.threeWayPatch applied desired.withoutSnapshot.toJson current.toJson =
          .ok (.object (Json.threeWayMembers members desired.withoutSnapshot.toJson.membersOf
            current.toJson.membersOf)) := by
        rw [Json.threeWayPatch, side]
        rfl
      have result : Json.patched current.toJson (.object (Json.threeWayMembers members
          desired.withoutSnapshot.toJson.membersOf current.toJson.membersOf)) =
          .object (Json.mergedMembers members desired.withoutSnapshot.toJson.membersOf
            current.toJson.membersOf) := by
        rw [Json.patched, Json.mergedMembers]
      simp only [patch, result] at ok
      cases reading : Object.read kind (.object (Json.mergedMembers members
          desired.withoutSnapshot.toJson.membersOf current.toJson.membersOf)) with
      | error fault =>
        simp only [reading] at ok
        cases ok
      | ok before =>
        simp only [reading] at ok
        subst same
        exact ⟨applied, before, rfl, reading, (Except.ok.inj ok).symm⟩

/-- A snapshot that was just taken is the one that was applied last. -/
theorem setLastApplied_lastApplied (object : Object kind) (text : String) :
    (object.setLastApplied text).lastApplied = some text :=
  StringMap.find_insert_self lastAppliedKey text _

/-- A merged object carries the snapshot of the desired one. -/
theorem mergeDesired_lastApplied {current desired merged : Object kind}
    (ok : current.mergeDesired desired = .ok merged) :
    merged.lastApplied = some desired.snapshotText := by
  obtain ⟨applied, before, -, -, rfl⟩ := mergeDesired_reads ok
  exact setLastApplied_lastApplied before desired.snapshotText

/-- The metadata of a merged object is read from the members that the merge of the metadata
leaves, but for the snapshot. -/
theorem mergeDesired_metadata {current desired merged : Object kind}
    (ok : current.mergeDesired desired = .ok merged) :
    ∃ (applied : Json) (before : Object kind), current.appliedValue = .ok applied ∧
      Metadata.codec.read (.object (Json.mergedMembers (applied.membersOf.within "metadata")
        (Metadata.codec.write desired.withoutSnapshot.metadata).membersOf
        (Metadata.codec.write current.metadata).membersOf)) = .ok before.metadata ∧
      merged = before.setLastApplied desired.snapshotText := by
  obtain ⟨applied, before, snapshot, read, same⟩ := mergeDesired_reads ok
  let wanted := desired.withoutSnapshot
  let inside := (Metadata.codec.write wanted.metadata).membersOf
  let live := current.toJson.membersOf
  have sortedWanted : Members.Sorted inside := Metadata.sorted_written wanted.metadata
  have found : Members.find wanted.toJson.membersOf "metadata" = some (.object inside) :=
    wanted.find_metadata
  have held : Members.find (Json.mergedMembers applied.membersOf wanted.toJson.membersOf live)
      "metadata" = some (.object (Json.mergedMembers (applied.membersOf.within "metadata") inside
        (live.within "metadata"))) :=
    Json.find_merged_object (appliedValue_ordered snapshot).membersOf.1 wanted.sorted_toJson found
      sortedWanted
  have within : live.within "metadata" = (Metadata.codec.write current.metadata).membersOf := by
    rw [Members.within, current.find_metadata]
    rfl
  have sortedAll := current.sorted_toJson.merged applied.membersOf wanted.toJson.membersOf
  refine ⟨applied, before, snapshot, ?_, same⟩
  rw [← within]
  exact metadata_of_read sortedAll.nodup held read

section

variable {key : String} {get : Metadata -> Option String} (isText : Metadata.IsText key get)
  {current desired merged : Object kind} (ok : current.mergeDesired desired = .ok merged)

include isText

/-- An object says the same with and without its snapshot. -/
theorem get_withoutSnapshot (object : Object kind) :
    get object.withoutSnapshot.metadata = get object.metadata := by
  unfold withoutSnapshot
  split
  · rfl
  · exact isText.unsnapped _ _

include ok

/-- What a merged object says in a text of its metadata is what the desired one says. -/
theorem mergeDesired_text {text : String} (said : get desired.metadata = some text) :
    get merged.metadata = some text := by
  obtain ⟨applied, before, snapshot, read, rfl⟩ := mergeDesired_metadata ok
  have sortedApplied := sorted_applied snapshot
  have written : Members.find (Metadata.codec.write desired.withoutSnapshot.metadata).membersOf
      key = some (.string text) := by
    rw [isText.written, get_withoutSnapshot isText, said]
    rfl
  have plain : ∃ value, Members.find (Json.mergedMembers (applied.membersOf.within "metadata")
      (Metadata.codec.write desired.withoutSnapshot.metadata).membersOf
      (Metadata.codec.write current.metadata).membersOf) key = some value ∧
        Json.same value (.string text) = true :=
    Json.find_merged_plain sortedApplied
      (Metadata.sorted_written desired.withoutSnapshot.metadata) written
      (fun members eq => by cases eq) (fun eq => by cases eq)
  obtain ⟨value, there, same⟩ := plain
  have equal : value = .string text := by
    cases value <;> simp_all [Json.same]
  rw [equal] at there
  have nodup := ((Metadata.sorted_written current.metadata).merged
    (applied.membersOf.within "metadata")
    (Metadata.codec.write desired.withoutSnapshot.metadata).membersOf).nodup
  rw [setLastApplied, isText.annotated]
  exact isText.read _ _ _ nodup there read

/-- Where neither the desired object nor the snapshot says anything, the merged one says what the
current one says. -/
theorem mergeDesired_kept {applied : Json} (snapshot : current.appliedValue = .ok applied)
    (unapplied : Members.find (applied.membersOf.within "metadata") key = none)
    (unsaid : get desired.metadata = none) : get merged.metadata = get current.metadata := by
  obtain ⟨_, before, same, read, rfl⟩ := mergeDesired_metadata ok
  obtain rfl : applied = _ := Except.ok.inj (snapshot.symm.trans same)
  let inside := (Metadata.codec.write desired.withoutSnapshot.metadata).membersOf
  let live := (Metadata.codec.write current.metadata).membersOf
  have unwritten : Members.find inside key = none := by
    show Members.find (Metadata.codec.write desired.withoutSnapshot.metadata).membersOf key = none
    rw [isText.written, get_withoutSnapshot isText, unsaid]
    rfl
  have kept : Members.find (Json.mergedMembers (applied.membersOf.within "metadata") inside live)
      key = Members.find live key :=
    Json.find_merged_kept (sorted_applied snapshot)
      (Metadata.sorted_written desired.withoutSnapshot.metadata) unwritten unapplied
  rw [isText.written] at kept
  rw [setLastApplied, isText.annotated]
  cases said : get current.metadata with
  | none =>
    rw [said] at kept
    exact isText.unread _ _ (Entries.lookup_eq_none.1 kept) read
  | some text =>
    rw [said] at kept
    have nodup := ((Metadata.sorted_written current.metadata).merged
      (applied.membersOf.within "metadata") inside).nodup
    exact isText.read _ _ _ nodup kept read

/-- Where the desired object says nothing, the merged one says what the current one says, if it
says anything. -/
theorem mergeDesired_unsaid (unsaid : get desired.metadata = none) :
    get merged.metadata = none ∨ get merged.metadata = get current.metadata := by
  obtain ⟨applied, before, snapshot, read, same⟩ := mergeDesired_metadata ok
  cases was : Members.find (applied.membersOf.within "metadata") key with
  | none => exact .inr (mergeDesired_kept isText ok snapshot was unsaid)
  | some _ =>
    have unwritten : Members.find
        (Metadata.codec.write desired.withoutSnapshot.metadata).membersOf key = none := by
      rw [isText.written, get_withoutSnapshot isText, unsaid]
      rfl
    have held : (Members.find (applied.membersOf.within "metadata") key).isSome = true := by
      rw [was]
      rfl
    have gone : Members.find (Json.mergedMembers (applied.membersOf.within "metadata")
        (Metadata.codec.write desired.withoutSnapshot.metadata).membersOf
        (Metadata.codec.write current.metadata).membersOf) key = none :=
      Json.find_merged_gone (sorted_applied snapshot)
        (Metadata.sorted_written desired.withoutSnapshot.metadata) unwritten held
    rw [same, setLastApplied, isText.annotated]
    exact .inl (isText.unread _ _ (Entries.lookup_eq_none.1 gone) read)

/-- A text that is empty when it is absent is that of the desired object, when the current one
says the same. -/
theorem mergeDesired_textD
    (same : (get current.metadata).getD "" = (get desired.metadata).getD "") :
    (get merged.metadata).getD "" = (get desired.metadata).getD "" := by
  cases said : get desired.metadata with
  | some text => rw [mergeDesired_text isText ok said]
  | none =>
    rw [said] at same
    rcases mergeDesired_unsaid isText ok said with none | kept
    · rw [none]
    · rw [kept, same]

end

/-- Whatever is in the slot of an object is merged in place. -/
theorem slotOf_mergeDesired {current desired merged : Object kind}
    (ok : current.mergeDesired desired = .ok merged)
    (slot : Store.slotOf current = Store.slotOf desired) :
    Store.slotOf merged = Store.slotOf desired := by
  obtain ⟨spaces, names⟩ := Store.Slot.mk.inj slot
  have space := mergeDesired_textD Metadata.isText_namespaceName ok spaces
  have name := mergeDesired_textD Metadata.isText_name ok names
  exact congrArg₂ Store.Slot.mk space name

end Object

end GuestFleet.Kube
