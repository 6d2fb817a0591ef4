import GuestFleet.Proofs.Change.Snapshot
import GuestFleet.Proofs.Kube.Mergeable

/-!
# Merges that lose nothing

A merge is refused for what its snapshot says and for nothing else: whatever the snapshot takes
away, an object of the same kind is left, and it is written as the patch leaves the members.
-/

namespace GuestFleet.Kube

open Json (Members)

/-! ## Snapshots as patches -/

/-- Texts are put among texts as they are put among members. -/
theorem StringMap.write_insert (key text : String) (entries : StringMap) :
    Json.Codec.textMap.write (insert key text entries) =
      .object (Members.insert key (.string text) (Json.Codec.textMap.write entries).membersOf) := by
  refine congrArg Json.object ?_
  induction entries with
  | nil => rfl
  | cons entry entries ih =>
    obtain ⟨k, t⟩ := entry
    have head : (Json.Codec.textMap.write ((k, t) :: entries)).membersOf =
        (k, .string t) :: (Json.Codec.textMap.write entries).membersOf := rfl
    rw [head, insert, Members.insert]
    split_ifs
    · rfl
    · rfl
    · exact congrArg ((k, Json.string t) :: ·) ih

namespace Metadata

/-- Metadata with other annotations is written with that one member replaced. -/
theorem write_annotations (metadata : Metadata) (entries : StringMap) :
    codec.write { metadata with annotations := some entries } =
      .object (Members.insert "annotations" (Json.Codec.textMap.write entries)
        (codec.write metadata).membersOf) := by
  let after := metadata.noted (some entries) metadata.resourceVersion
  refine congrArg Json.object (Entries.Sorted.ext after.sorted_written
    (metadata.sorted_written.insert _ _) fun key => ?_)
  show Members.find (codec.write after).membersOf key = Members.find _ key
  by_cases isAnnotations : key = "annotations"
  · rw [isAnnotations, find_annotations, Members.find_insert_self]
    rfl
  rw [Members.find_insert_of_ne isAnnotations]
  by_cases isVersion : key = "resourceVersion"
  · rw [isVersion, find_resourceVersion, find_resourceVersion]
    rfl
  · exact metadata.find_noted isAnnotations isVersion _ _

end Metadata

namespace Object

variable {kind : Kind}

/-- An object with other metadata is written with that one member replaced. -/
theorem toJson_metadata (object : Object kind) (metadata : Metadata) :
    toJson { object with metadata := metadata } =
      .object (Members.insert "metadata" (Metadata.codec.write metadata)
        object.toJson.membersOf) := by
  let after : Object kind := { object with metadata := metadata }
  refine congrArg Json.object (Entries.Sorted.ext after.sorted_toJson
    (object.sorted_toJson.insert _ _) fun key => ?_)
  show Members.find after.toJson.membersOf key = Members.find _ key
  by_cases isMetadata : key = "metadata"
  · rw [isMetadata, find_metadata, Members.find_insert_self]
  · rw [Members.find_insert_of_ne isMetadata, find_toJson, find_toJson, if_neg isMetadata,
      if_neg isMetadata]

/-- The patch that gives an object a snapshot and does nothing else. -/
def snapshotPatch (text : String) : Json :=
  .object [("metadata", .object [("annotations", .object [(lastAppliedKey, .string text)])])]

/-- A snapshot is put on an object as the patch puts it among the members. -/
theorem toJson_setLastApplied (object : Object kind) (text : String) :
    (object.setLastApplied text).toJson = Json.patched object.toJson (snapshotPatch text) := by
  let metadata := object.metadata
  have texts : Json.patched ((Members.find (Metadata.codec.write metadata).membersOf
      "annotations").getD .null) (.object [(lastAppliedKey, .string text)]) =
        Json.Codec.textMap.write
          (StringMap.insert lastAppliedKey text (metadata.annotations.getD [])) := by
    rw [Json.patched_single, StringMap.write_insert, Metadata.find_annotations]
    · cases metadata.annotations <;> rfl
    · nofun
  have annotations : Json.patched (Metadata.codec.write metadata)
      (.object [("annotations", .object [(lastAppliedKey, .string text)])]) =
        Metadata.codec.write (metadata.annotate lastAppliedKey text) := by
    rw [Json.patched_single, texts]
    · exact (metadata.write_annotations _).symm
    · nofun
  rw [snapshotPatch, Json.patched_single, find_metadata, Option.getD_some, annotations]
  · exact object.toJson_metadata _
  · nofun

/-! ## Merges -/

/-- A merge into the object is refused, with this failure: its snapshot is no JSON, is that of an
object of another kind, or is neither an object nor null. -/
inductive RefusedFor (object : Object kind) : Failure -> Prop where
  | notJson {text : String} {fault : Json.TextFault} (snapshot : object.lastApplied = some text)
      (unparsed : Json.parse text = .error fault) :
      RefusedFor object (.serialization (.notJson fault))
  | otherKind {text actual : String} {value : Json} (snapshot : object.lastApplied = some text)
      (parsed : Json.parse text = .ok value) (named : value.member? "kind" = some (.string actual))
      (other : actual ≠ kind.name) :
      RefusedFor object (.unknownResourceType kind actual)
  | notObject {text : String} {value : Json} (snapshot : object.lastApplied = some text)
      (parsed : Json.parse text = .ok value) (noSide : ¬Json.IsSide value) :
      RefusedFor object (.mergePatch (.notObject ⟨.applied, value.text⟩))

/-- Every object is refused for one of these reasons, or its snapshot can be merged with. -/
theorem refused_or_side (current : Object kind) :
    (∃ failure, current.RefusedFor failure) ∨
      ∃ applied, current.appliedValue = .ok applied ∧ Json.IsSide applied := by
  cases snapshot : current.lastApplied with
  | none => exact .inr ⟨.null, by rw [appliedValue, snapshot], .null⟩
  | some text =>
    cases parsed : Json.parse text with
    | error fault => exact .inl ⟨_, .notJson snapshot parsed⟩
    | ok value =>
      by_cases isSide : Json.IsSide value
      · cases named : (value.member? "kind").bind Json.string? with
        | none =>
          refine .inr ⟨value, ?_, isSide⟩
          simp only [appliedValue, snapshot, parsed, named]
        | some actual =>
          by_cases same : actual = kind.name
          · refine .inr ⟨value, ?_, isSide⟩
            simp only [appliedValue, snapshot, parsed, named, if_pos same]
          · obtain ⟨held, found, isText⟩ := Option.bind_eq_some_iff.1 named
            cases held with
            | string text =>
              obtain rfl : text = actual := Option.some.inj isText
              exact .inl ⟨_, .otherKind snapshot parsed found same⟩
            | _ => cases isText
      · exact .inl ⟨_, .notObject snapshot parsed isSide⟩

variable {current desired : Object kind}

/-- A live object that is refused for a reason is refused with the failure that names it. -/
theorem RefusedFor.mergeDesired {failure : Failure} (refused : current.RefusedFor failure) :
    current.mergeDesired desired = .error failure := by
  cases refused with
  | notJson snapshot unparsed =>
    simp only [Object.mergeDesired, appliedValue, snapshot, unparsed]
  | @otherKind text actual value snapshot parsed named other =>
    have isText : (value.member? "kind").bind Json.string? = some actual := by
      rw [named]
      rfl
    simp only [Object.mergeDesired, appliedValue, snapshot, parsed, isText, if_neg other]
  | @notObject text value snapshot parsed noSide =>
    have unnamed : value.member? "kind" = none := by
      cases value with
      | object members => exact absurd (.object members) noSide
      | _ => rfl
    have unpatched : Json.threeWayPatch value desired.withoutSnapshot.toJson current.toJson =
        .error ⟨.applied, value.text⟩ := by
      cases value with
      | object members => exact absurd (.object members) noSide
      | null => exact absurd .null noSide
      | _ => rfl
    simp only [Object.mergeDesired, appliedValue, snapshot, parsed, unnamed, Option.bind_none,
      unpatched]

/-- Whatever the snapshot takes away, the members that the merge leaves are those of an object. -/
theorem mergeDesired_of_side (regular : current.Regular Time.Instant.HasShortYear)
    (regularToo : desired.Regular Time.Instant.HasShortYear) {applied : Json}
    (snapshot : current.appliedValue = .ok applied) (side : Json.IsSide applied) :
    ∃ (patch : Json) (before : Object kind),
      Json.threeWayPatch applied desired.withoutSnapshot.toJson current.toJson = .ok patch ∧
      before.toJson = Json.patched current.toJson patch ∧
      current.mergeDesired desired = .ok (before.setLastApplied desired.snapshotText) := by
  let patch := Json.threeWayMembers applied.membersOf desired.withoutSnapshot.toJson.membersOf
    current.toJson.membersOf
  have isPatch : Json.threeWayPatch applied desired.withoutSnapshot.toJson current.toJson =
      .ok (.object patch) := Json.threeWayPatch_eq side (.object _) (.object _)
  have ordered : Json.Ordered (.object applied.membersOf) :=
    Json.ordered_object.2 (appliedValue_ordered snapshot).membersOf
  obtain ⟨before, isRegular, written⟩ :=
    regular.normal.merges regularToo.withoutSnapshot.normal ordered
  rw [toJson_normal, toJson_normal] at written
  have left : before.toJson = Json.patched current.toJson (.object patch) := by
    rw [written, Json.patched_threeWayMembers]
  have read : Object.read kind (Json.patched current.toJson (.object patch)) = .ok before := by
    rw [← left]
    exact isRegular.exact.read
  refine ⟨.object patch, before, isPatch, left, ?_⟩
  simp only [Object.mergeDesired, snapshot, isPatch, read]

/-- A merge of objects whose timestamps lie in the years 0 to 9999 is refused for its snapshot
alone. Otherwise nothing is lost or added: the merged object is written as the current one is
after the three-way patch and that of the new snapshot. -/
theorem mergeDesired_lossless (regular : current.Regular Time.Instant.HasShortYear)
    (regularToo : desired.Regular Time.Instant.HasShortYear) :
    (∀ failure, current.mergeDesired desired = .error failure <-> current.RefusedFor failure) ∧
    ∀ merged, current.mergeDesired desired = .ok merged ->
      ∃ applied patch, current.appliedValue = .ok applied ∧
        Json.threeWayPatch applied desired.withoutSnapshot.toJson current.toJson = .ok patch ∧
        merged.toJson = Json.patched (Json.patched current.toJson patch)
          (snapshotPatch desired.snapshotText) ∧
        merged.lastApplied = some desired.snapshotText := by
  rcases current.refused_or_side with ⟨reason, refused⟩ | ⟨applied, snapshot, side⟩
  · have failed : current.mergeDesired desired = .error reason := refused.mergeDesired
    refine ⟨fun failure => ⟨fun fails => ?_, fun refused => refused.mergeDesired⟩, ?_⟩
    · rwa [← Except.error.inj (failed.symm.trans fails)]
    · intro merged ok
      cases failed.symm.trans ok
  · obtain ⟨patch, before, isPatch, left, merges⟩ :=
      mergeDesired_of_side regular regularToo snapshot side
    refine ⟨fun failure => ⟨fun fails => ?_, fun refused => refused.mergeDesired⟩, ?_⟩
    · cases merges.symm.trans fails
    · intro merged ok
      obtain rfl : _ = merged := Except.ok.inj (merges.symm.trans ok)
      refine ⟨applied, patch, snapshot, isPatch, ?_, setLastApplied_lastApplied before _⟩
      rw [toJson_setLastApplied, left]

/-- A service that was made in a leap second, with a snapshot. -/
def leapService (snapshot : String) (address : Option String) : Object .service :=
  { metadata :=
      { annotations := some [(lastAppliedKey, snapshot)]
        creationTimestamp := some ⟨1483228799, true⟩
        name := some "web" }
    body := { spec := some { clusterIP := address, ports := some [{ port := 80 }] } } }

/-- A service made in a leap second is regular but for its short year. -/
theorem regular_leapService (snapshot : String) (address : Option String) :
    (leapService snapshot address).Regular Time.Instant.HasShortYear where
  metadata :=
    { annotations := by
        rintro _ ⟨⟩
        exact List.pairwise_singleton _ _
      labels := nofun
      grace := nofun
      generation := nofun
      created := by
        rintro _ ⟨⟩
        unfold Time.Instant.HasShortYear
        decide
      deleted := nofun }
  body := by
    rintro _ ⟨⟩
    refine ⟨?_, nofun⟩
    rintro _ ⟨⟩ port mem
    obtain rfl := List.mem_singleton.1 mem
    exact ⟨nofun, by decide, nofun⟩

/-- A snapshot with members of the wrong shape. -/
def misshapenSnapshot : String := "\x7b\"spec\":\x7b\"clusterIP\":[],\"ports\":7\x7d\x7d"

/-- The misshapen snapshot is well-formed JSON, only not that of a service. -/
theorem parse_misshapenSnapshot : Json.parse misshapenSnapshot =
    .ok (.object [("spec", .object [("clusterIP", .array []), ("ports", .integer 7)])]) := by
  rfl

/-- A list for a snapshot is refused. A snapshot with members of the wrong shape is not: it takes
away the address, which is no longer wanted, and leaves the ports, which are. -/
theorem mergeDesired_lossless_service :
    let current := leapService misshapenSnapshot (some "10.0.0.7")
    let desired := leapService "old" none
    (leapService "[]" none).mergeDesired desired =
      .error (.mergePatch (.notObject ⟨.applied, "[]"⟩)) ∧
    ∃ merged, current.mergeDesired desired = .ok merged ∧
      merged.toJson = Json.patched
        (Json.patched current.toJson (.object [("spec", .object [("clusterIP", .null)])]))
        (snapshotPatch desired.snapshotText) ∧
      merged.lastApplied = some desired.snapshotText := by
  intro current desired
  have regular := regular_leapService "old" none
  refine ⟨?refused, ?merged⟩
  case refused =>
    have parsed : Json.parse "[]" = .ok (.array []) := by rfl
    exact ((mergeDesired_lossless (regular_leapService "[]" none) regular).1 _).2
      (.notObject rfl parsed nofun)
  case merged =>
    have regularCurrent := regular_leapService misshapenSnapshot (some "10.0.0.7")
    let value : Json :=
      .object [("spec", .object [("clusterIP", .array []), ("ports", .integer 7)])]
    have read : current.appliedValue = .ok value := by
      have snapshot : current.lastApplied = some misshapenSnapshot := by rfl
      rw [appliedValue, snapshot]
      simp only [parse_misshapenSnapshot]
      rfl
    have change : Json.threeWayPatch value desired.withoutSnapshot.toJson current.toJson =
        .ok (.object [("spec", .object [("clusterIP", .null)])]) := by
      rfl
    obtain ⟨_, before, -, -, merges⟩ :=
      mergeDesired_of_side regularCurrent regular read (.object _)
    obtain ⟨applied, patch, snapshot, isPatch, written, said⟩ :=
      (mergeDesired_lossless regularCurrent regular).2 _ merges
    cases snapshot.symm.trans read
    cases isPatch.symm.trans change
    exact ⟨_, merges, written, said⟩

end Object

end GuestFleet.Kube
