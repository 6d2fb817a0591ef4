import GuestFleet.Proofs.Change.Merged
import GuestFleet.Proofs.Json.Reapplied
import GuestFleet.Proofs.Kube.Exact

/-!
# Merging over what the operator wrote

Where the current object is what the operator wrote itself, with a version of the API server, a
merge leaves what creating the desired object would have written. What was desired before makes
no difference.
-/

namespace GuestFleet.Kube

open Json (Members)

/-! ## Metadata -/

namespace Metadata

variable (metadata : Metadata)

/-- The metadata with other annotations and another version. -/
def noted (annotations : Option StringMap) (version : Option String) : Metadata :=
  { metadata with annotations := annotations, resourceVersion := version }

/-- The annotations of written metadata are its annotations, written as texts. -/
theorem find_annotations :
    Members.find (codec.write metadata).membersOf "annotations" =
      metadata.annotations.map Json.Codec.textMap.write :=
  Json.find_written (by decide) metadata "annotations"

/-- The members inside them are the annotations, or none. -/
theorem within_annotations : Members.within (codec.write metadata).membersOf "annotations" =
    (Json.Codec.textMap.write (metadata.annotations.getD [])).membersOf := by
  rw [Members.within, find_annotations]
  cases metadata.annotations <;> rfl

/-- The resource version of written metadata is its resource version, as a text. -/
theorem find_resourceVersion :
    Members.find (codec.write metadata).membersOf "resourceVersion" =
      metadata.resourceVersion.map .string :=
  Json.find_written (by decide) metadata "resourceVersion"

/-- The other members do not depend on annotations and version. -/
theorem find_noted {key : String} (notAnnotations : key ≠ "annotations")
    (notVersion : key ≠ "resourceVersion") (annotations : Option StringMap)
    (version : Option String) :
    Members.find (codec.write (metadata.noted annotations version)).membersOf key =
      Members.find (codec.write metadata).membersOf key := by
  refine (Json.find_written (by decide) (metadata.noted annotations version) key).trans
    (Eq.trans ?_ (Json.find_written (by decide) metadata key).symm)
  refine Option.bind_congr fun field found => ?_
  have own : field.key = key := beq_iff_eq.1 (List.find?_some found :)
  have mem := List.mem_of_find?_eq_some found
  simp only [List.mem_cons, List.not_mem_nil, or_false] at mem
  rcases mem with rfl | rfl | rfl | rfl | rfl | rfl | rfl | rfl | rfl | rfl | rfl | rfl | rfl
  all_goals first
    | exact absurd own.symm notAnnotations
    | exact absurd own.symm notVersion
    | rfl

/-- Proper metadata is proper with other annotations in order, whatever its version. -/
theorem Proper.noted {metadata : Metadata} (proper : metadata.Proper)
    {annotations : Option StringMap}
    (sorted : ∀ entries, annotations = some entries -> Entries.Sorted entries)
    (version : Option String) : (metadata.noted annotations version).Proper :=
  { proper with annotations := sorted }

end Metadata

/-! ## Snapshots -/

/-- Setting an entry keeps entries in order. -/
theorem StringMap.sorted_insert {entries : StringMap} (sorted : Entries.Sorted entries)
    (key text : String) : Entries.Sorted (StringMap.insert key text entries) := by
  rw [StringMap.insert_eq]
  exact sorted.insert key text

/-- Setting an entry leaves the others as they are. -/
theorem StringMap.find_insert_of_ne {key other : String} (ne : other ≠ key) (text : String)
    (entries : StringMap) :
    List.lookup other (StringMap.insert key text entries) = List.lookup other entries := by
  rw [StringMap.insert_eq]
  exact Entries.lookup_insert_of_ne ne text entries

/-- Of two texts put under a key the later one counts. -/
theorem StringMap.insert_insert {entries : StringMap} (sorted : Entries.Sorted entries)
    (key first second : String) :
    StringMap.insert key second (StringMap.insert key first entries) =
      StringMap.insert key second entries := by
  have once := sorted_insert sorted key first
  refine Entries.Sorted.ext (sorted_insert once key second) (sorted_insert sorted key second)
    fun other => ?_
  by_cases own : other = key
  · subst own
    rw [StringMap.insert_eq, StringMap.insert_eq, StringMap.insert_eq,
      Entries.lookup_insert_self, Entries.lookup_insert_self]
  · rw [find_insert_of_ne own, find_insert_of_ne own, find_insert_of_ne own]

/-- What is found in the JSON form of a map of texts. -/
theorem StringMap.find_write (entries : StringMap) (key : String) :
    Members.find (Json.Codec.textMap.write entries).membersOf key =
      (List.lookup key entries).map .string :=
  Json.Codec.find_map .text entries key

/-- Texts can be set one by one in an object of texts in order. -/
theorem StringMap.settable {entries : StringMap} (sorted : Entries.Sorted entries) :
    Members.Settable 0 (Json.Codec.textMap.write entries).membersOf := by
  have exact : Json.Codec.textMap.Exact 1 entries := Json.Codec.exact_textMap sorted
  cases exact.printable with
  | object sorted within => exact ⟨sorted, within, exact.nullFree⟩

/-- Annotations are merged with what they were applied as and one more text: that text stays. -/
theorem StringMap.merged_insert {applied desired : StringMap} (sorted : Entries.Sorted applied)
    (sortedDesired : Entries.Sorted desired) {key : String}
    (unapplied : List.lookup key applied = none) (unwanted : List.lookup key desired = none)
    (text : String) :
    Json.mergedMembers (Json.Codec.textMap.write applied).membersOf
        (Json.Codec.textMap.write desired).membersOf
        (Json.Codec.textMap.write (StringMap.insert key text applied)).membersOf =
      (Json.Codec.textMap.write (StringMap.insert key text desired)).membersOf := by
  have settable := settable sorted
  have settableDesired := StringMap.settable sortedDesired
  have current := (StringMap.settable (sorted_insert sorted key text)).sorted
  have target := (StringMap.settable (sorted_insert sortedDesired key text)).sorted
  refine Entries.Sorted.ext (current.merged _ _) target fun other => ?_
  show Members.find _ other = Members.find _ other
  by_cases own : other = key
  · subst own
    have noneNow : Members.find (Json.Codec.textMap.write desired).membersOf other = none := by
      rw [find_write, unwanted]
      rfl
    have noneBefore : Members.find (Json.Codec.textMap.write applied).membersOf other = none := by
      rw [find_write, unapplied]
      rfl
    rw [Json.find_merged_kept settable.sorted settableDesired.sorted noneNow noneBefore, find_write,
      find_write, insert_eq, insert_eq, Entries.lookup_insert_self, Entries.lookup_insert_self]
  · have same : Members.find
        (Json.Codec.textMap.write (StringMap.insert key text applied)).membersOf other =
          Members.find (Json.Codec.textMap.write applied).membersOf other := by
      rw [find_write, find_write, find_insert_of_ne own]
    rw [Json.find_merged_applied settable.sorted settable.ordered settableDesired same, find_write,
      find_write, find_insert_of_ne own]

namespace Object

variable {kind : Kind}

/-- An object as it is drawn up: without a version and without a snapshot. It is read back from
its JSON form. -/
structure Draft (object : Object kind) : Prop where
  proper : object.metadata.Proper
  restores : ∃ depth, 2 ≤ depth ∧ depth < 127 ∧
    Json.Member.Restores depth object.body (Body.members kind) (Body.empty kind)
  unversioned : object.metadata.resourceVersion = none
  unsnapped : object.withoutSnapshot = object

/-- The object with other annotations and another version. -/
def noted (object : Object kind) (annotations : Option StringMap) (version : Option String) :
    Object kind :=
  { object with metadata := object.metadata.noted annotations version }

section

variable {object : Object kind} (draft : object.Draft)

include draft

/-- What a draft is read back from, it is also with other annotations and another version. -/
theorem Draft.exact_noted {annotations : Option StringMap}
    (sorted : ∀ entries, annotations = some entries -> Entries.Sorted entries)
    (version : Option String) : (object.noted annotations version).Exact := by
  obtain ⟨depth, deep, allowed, restores⟩ := draft.restores
  exact exact_of (draft.proper.noted sorted version).regular restores deep allowed

/-- A draft is written and read exactly. -/
theorem Draft.exact : object.Exact := by
  obtain ⟨depth, deep, allowed, restores⟩ := draft.restores
  exact exact_of draft.proper.regular restores deep allowed

/-- A draft has no snapshot among its annotations. -/
theorem Draft.lookup_snapshot :
    List.lookup lastAppliedKey (object.metadata.annotations.getD []) = none := by
  cases held : object.metadata.annotations with
  | none => rfl
  | some entries =>
    have same : object.withoutSnapshot.metadata.annotations = some entries := by
      rw [draft.unsnapped, held]
    unfold withoutSnapshot at same
    rw [held] at same
    dsimp only at same
    split_ifs at same
    rw [Option.getD_some, ← Option.some.inj same]
    exact (Entries.lookup_erase lastAppliedKey lastAppliedKey entries).trans (if_pos rfl)

/-- The annotations of a draft are in order. -/
theorem Draft.sorted_annotations : Entries.Sorted (object.metadata.annotations.getD []) := by
  cases held : object.metadata.annotations with
  | none => exact Entries.sorted_nil
  | some entries => exact draft.proper.annotations entries held

/-- The text of a draft is its snapshot. -/
theorem Draft.snapshotText_eq : object.snapshotText = object.text := by
  rw [snapshotText, draft.unsnapped]

end

/-! ## Merges -/

/-- The object as the operator creates it, with a version of the API server. -/
def written (object : Object kind) (version : Option String) : Object kind :=
  object.stamped.noted object.stamped.metadata.annotations version

/-- The value under a key that is not the metadata does not depend on the metadata. -/
theorem find_toJson_noted (object : Object kind) {key : String} (ne : key ≠ "metadata")
    (annotations : Option StringMap) (version : Option String) :
    Members.find (object.noted annotations version).toJson.membersOf key =
      Members.find object.toJson.membersOf key := by
  rw [find_toJson, find_toJson, if_neg ne, if_neg ne]
  rfl

/-- The members inside the metadata of a written object are those of its written metadata. -/
theorem within_metadata (object : Object kind) :
    Members.within object.toJson.membersOf "metadata" =
      (Metadata.codec.write object.metadata).membersOf := by
  rw [Members.within, find_metadata]
  rfl

/-- The value of a snapshot that is the text of an object of the same kind. -/
theorem appliedValue_of_text {current applied : Object kind}
    (snapshot : current.lastApplied = some applied.text)
    (parse : Json.parse applied.text = .ok applied.toJson) :
    current.appliedValue = .ok applied.toJson := by
  have isKind : (applied.toJson.member? "kind").bind Json.string? = some kind.name := by
    have found : Members.find applied.toJson.membersOf "kind" = some (.string kind.name) := by
      show Members.find (Members.insert _ _ (Members.insert _ _ _)) _ = _
      rw [Members.find_insert_of_ne (by decide), Members.find_insert_self]
    have member : applied.toJson.member? "kind" = some (.string kind.name) := found
    rw [member]
    rfl
  rw [appliedValue, snapshot]
  simp only [parse, isKind, if_true]

/-! ### Versions -/

/-- The snapshot on the object, if there is one, is that of an object without a version whose
members can be read back from their texts: maps in key order, and integers of 64 bits. -/
def SnapshotUnversioned (object : Object kind) : Prop :=
  ∀ text, object.lastApplied = some text -> ∃ written : Object kind,
    text = written.snapshotText ∧ written.metadata.resourceVersion = none ∧
      ∀ entry ∈ written.withoutSnapshot.fields, Json.Printable 126 entry.2

/-- Such a snapshot says nothing of a version. -/
theorem SnapshotUnversioned.unapplied {object : Object kind}
    (unversioned : object.SnapshotUnversioned) {applied : Json}
    (snapshot : object.appliedValue = .ok applied) :
    Members.find (applied.membersOf.within "metadata") "resourceVersion" = none := by
  cases said : object.lastApplied with
  | none =>
    rw [appliedValue, said] at snapshot
    obtain rfl : Json.null = applied := Except.ok.inj snapshot
    rfl
  | some text =>
    obtain ⟨written, rfl, unversioned, printable⟩ := unversioned text said
    have read := appliedValue_of_text said (parse_text printable (by decide))
    obtain rfl : written.withoutSnapshot.toJson = applied :=
      Except.ok.inj (read.symm.trans snapshot)
    rw [within_metadata, Metadata.find_resourceVersion,
      get_withoutSnapshot Metadata.isText_resourceVersion, unversioned]
    rfl

/-- A merge keeps the version that the current object has, so that it is refused when the object
was written in between. -/
theorem mergeDesired_resourceVersion {current desired merged : Object kind}
    (ok : current.mergeDesired desired = .ok merged)
    (unversioned : current.SnapshotUnversioned)
    (plain : desired.metadata.resourceVersion = none) :
    merged.metadata.resourceVersion = current.metadata.resourceVersion := by
  obtain ⟨applied, before, snapshot, -, -⟩ := mergeDesired_metadata ok
  exact mergeDesired_kept Metadata.isText_resourceVersion ok snapshot
    (unversioned.unapplied snapshot) plain

section

variable {applied desired : Object kind} (before : applied.Draft) (after : desired.Draft)
  (version : Option String)

/-- The annotations that a merge over `applied` leaves, but for the new snapshot. -/
def leftAnnotations (applied desired : Object kind) : Option StringMap :=
  if applied.metadata.annotations.isSome && desired.metadata.annotations.isNone then none
  else some (StringMap.insert lastAppliedKey applied.text (desired.metadata.annotations.getD []))

include before

/-- The snapshot of what was written is the JSON form of the draft. -/
theorem Draft.appliedValue_written :
    (applied.written version).appliedValue = .ok applied.toJson := by
  refine appliedValue_of_text ?_ before.exact.parse
  rw [← before.snapshotText_eq]
  exact setLastApplied_lastApplied applied applied.snapshotText

/-- The members of the metadata of a draft can be set one by one. -/
theorem Draft.settable_metadata :
    Members.Settable 126 (Metadata.codec.write applied.metadata).membersOf :=
  before.exact.settable.within applied.find_metadata

/-- A draft that was written carries its own snapshot beside its annotations. -/
theorem Draft.annotations_written : (applied.written version).metadata.annotations =
    some (StringMap.insert lastAppliedKey applied.text (applied.metadata.annotations.getD [])) := by
  rw [← before.snapshotText_eq]
  rfl

include after

/-- The annotations that a merge over what was written leaves. -/
theorem find_merged_annotations :
    Members.find (Json.mergedMembers (Metadata.codec.write applied.metadata).membersOf
        (Metadata.codec.write desired.metadata).membersOf
        (Metadata.codec.write (applied.written version).metadata).membersOf) "annotations" =
      (leftAnnotations applied desired).map Json.Codec.textMap.write := by
  have sorted := before.settable_metadata.sorted
  have sortedNow := after.settable_metadata.sorted
  have was := Metadata.find_annotations applied.metadata
  have wanted := Metadata.find_annotations desired.metadata
  have current := Metadata.find_annotations (applied.written version).metadata
  rw [before.annotations_written version] at current
  unfold leftAnnotations
  cases isWanted : desired.metadata.annotations with
  | none =>
    rw [isWanted] at wanted
    cases wasApplied : applied.metadata.annotations with
    | none =>
      rw [wasApplied] at was current
      rw [Json.find_merged_kept sorted sortedNow wanted was, current]
      rfl
    | some entries =>
      rw [wasApplied] at was
      have held : (Members.find (Metadata.codec.write applied.metadata).membersOf
          "annotations").isSome = true := by
        rw [was]
        rfl
      rw [Json.find_merged_gone sorted sortedNow wanted held]
      rfl
  | some entries =>
    rw [isWanted] at wanted
    have sortedEntries := after.proper.annotations entries isWanted
    have unwanted := after.lookup_snapshot
    rw [isWanted, Option.getD_some] at unwanted
    have object : Members.find (Metadata.codec.write desired.metadata).membersOf "annotations" =
        some (.object (Json.Codec.textMap.write entries).membersOf) := wanted
    have merged := StringMap.merged_insert before.sorted_annotations sortedEntries
      before.lookup_snapshot unwanted applied.text
    rw [Json.find_merged_object sorted sortedNow object (StringMap.settable sortedEntries).sorted,
      Metadata.within_annotations, Metadata.within_annotations, before.annotations_written version,
      Option.getD_some, merged, Option.isNone_some, Bool.and_false]
    rfl

/-- The metadata that a merge over what was written leaves. -/
theorem find_merged_metadata (key : String) :
    Members.find (Json.mergedMembers (Metadata.codec.write applied.metadata).membersOf
        (Metadata.codec.write desired.metadata).membersOf
        (Metadata.codec.write (applied.written version).metadata).membersOf) key =
      Members.find (Metadata.codec.write
        (desired.noted (leftAnnotations applied desired) version).metadata).membersOf key := by
  have settable := before.settable_metadata
  have settableNow := after.settable_metadata
  by_cases isAnnotations : key = "annotations"
  · subst isAnnotations
    exact (find_merged_annotations before after version).trans (Metadata.find_annotations
      (desired.noted (leftAnnotations applied desired) version).metadata).symm
  by_cases isVersion : key = "resourceVersion"
  · subst isVersion
    have unwanted : Members.find (Metadata.codec.write desired.metadata).membersOf
        "resourceVersion" = none := by
      rw [Metadata.find_resourceVersion, after.unversioned]
      rfl
    have unapplied : Members.find (Metadata.codec.write applied.metadata).membersOf
        "resourceVersion" = none := by
      rw [Metadata.find_resourceVersion, before.unversioned]
      rfl
    rw [Json.find_merged_kept settable.sorted settableNow.sorted unwanted unapplied,
      Metadata.find_resourceVersion, Metadata.find_resourceVersion]
    rfl
  · have same := applied.metadata.find_noted isAnnotations isVersion
      (applied.written version).metadata.annotations version
    have target := desired.metadata.find_noted isAnnotations isVersion
      (leftAnnotations applied desired) version
    exact (Json.find_merged_applied settable.sorted settable.ordered settableNow same).trans
      target.symm

/-- The JSON form that a merge over what was written leaves. -/
theorem merged_toJson :
    Json.object (Json.mergedMembers applied.toJson.membersOf desired.toJson.membersOf
        (applied.written version).toJson.membersOf) =
      (desired.noted (leftAnnotations applied desired) version).toJson := by
  have settable := before.exact.settable
  have settableNow := after.exact.settable
  have sorted := ((applied.written version).sorted_toJson).merged applied.toJson.membersOf
    desired.toJson.membersOf
  have sortedTarget := (desired.noted (leftAnnotations applied desired) version).sorted_toJson
  refine congrArg Json.object (Entries.Sorted.ext sorted sortedTarget fun key => ?_)
  show Members.find _ key = Members.find _ key
  by_cases isMetadata : key = "metadata"
  · subst isMetadata
    have members := Entries.Sorted.ext
      ((Metadata.sorted_written (applied.written version).metadata).merged
        (Metadata.codec.write applied.metadata).membersOf
        (Metadata.codec.write desired.metadata).membersOf)
      (Metadata.sorted_written (desired.noted (leftAnnotations applied desired) version).metadata)
      (find_merged_metadata before after version)
    have wanted : Members.find desired.toJson.membersOf "metadata" =
        some (.object (Metadata.codec.write desired.metadata).membersOf) := desired.find_metadata
    refine (Json.find_merged_object settable.sorted settableNow.sorted wanted
      (Metadata.sorted_written desired.metadata)).trans ?_
    rw [within_metadata, within_metadata, members]
    exact (desired.noted (leftAnnotations applied desired) version).find_metadata.symm
  · have same : Members.find (applied.written version).toJson.membersOf key =
        Members.find applied.toJson.membersOf key :=
      find_toJson_noted applied isMetadata _ version
    rw [Json.find_merged_applied settable.sorted settable.ordered settableNow same]
    exact (find_toJson_noted desired isMetadata _ version).symm

/-- What the operator wrote itself is merged to what it would write now. -/
theorem mergeDesired_written :
    (applied.written version).mergeDesired desired = .ok (desired.written version) := by
  have patch : Json.threeWayPatch applied.toJson desired.toJson (applied.written version).toJson =
      .ok (.object (Json.threeWayMembers applied.toJson.membersOf desired.toJson.membersOf
        (applied.written version).toJson.membersOf)) := rfl
  have result : Json.patched (applied.written version).toJson
      (.object (Json.threeWayMembers applied.toJson.membersOf desired.toJson.membersOf
        (applied.written version).toJson.membersOf)) =
      (desired.noted (leftAnnotations applied desired) version).toJson := by
    rw [Json.patched, ← merged_toJson before after version, Json.mergedMembers]
  have sorted : ∀ entries, leftAnnotations applied desired = some entries ->
      Entries.Sorted entries := by
    intro entries left
    unfold leftAnnotations at left
    split_ifs at left
    rw [← Option.some.inj left]
    exact StringMap.sorted_insert after.sorted_annotations _ _
  have read := (after.exact_noted sorted version).read
  have snapshot : (desired.noted (leftAnnotations applied desired) version).setLastApplied
      desired.snapshotText = desired.written version := by
    unfold leftAnnotations
    split_ifs with gone
    · have absent := Option.isNone_iff_eq_none.1 (Bool.and_eq_true_iff.1 gone).2
      simp only [setLastApplied, written, stamped, noted, Metadata.noted, Metadata.annotate, absent,
        Option.getD_none]
    · have twice := StringMap.insert_insert after.sorted_annotations lastAppliedKey applied.text
        desired.snapshotText
      simp only [setLastApplied, written, stamped, noted, Metadata.noted, Metadata.annotate,
        Option.getD_some, twice]
  unfold mergeDesired
  rw [before.appliedValue_written version, after.unsnapped]
  simp only [patch, result, read, snapshot]

end

end Object

end GuestFleet.Kube
