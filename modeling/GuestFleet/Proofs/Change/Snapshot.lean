import GuestFleet.Proofs.Change.Stamped
import GuestFleet.Proofs.Kube.Bodies

/-!
# Snapshots that are read back

A snapshot never contains the one before it, although it is kept in the object that it describes,
and the object is read back from it, whatever its texts hold.
-/

namespace GuestFleet.Kube

/-- What was put under a key goes with the key. -/
theorem StringMap.erase_insert (key text : String) (entries : StringMap) :
    erase key (insert key text entries) = erase key entries := by
  induction entries with
  | nil => simp [insert, erase]
  | cons entry entries ih =>
    obtain ⟨k, t⟩ := entry
    rw [insert]
    split_ifs with same before
    · simp [erase, same]
    · simp [erase]
    · rw [erase, erase, List.filter_cons, List.filter_cons]
      exact congrArg (fun rest => if (k != key) = true then (k, t) :: rest else rest) ih

namespace Object

variable {kind : Kind} {object : Object kind}

/-- Of the annotations the snapshot is left out, and all when nothing else is among them. -/
theorem withoutSnapshot_eq (object : Object kind) :
    object.withoutSnapshot =
      let others := StringMap.erase lastAppliedKey (object.metadata.annotations.getD [])
      { object with
        metadata :=
          { object.metadata with
            annotations := if others.isEmpty then none else some others } } := by
  obtain ⟨metadata, body⟩ := object
  obtain ⟨annotations⟩ := metadata
  cases annotations <;> rfl

/-- No snapshot is part of the next one. -/
theorem withoutSnapshot_setLastApplied (object : Object kind) (text : String) :
    (object.setLastApplied text).withoutSnapshot = object.withoutSnapshot := by
  rw [withoutSnapshot_eq, withoutSnapshot_eq]
  simp only [setLastApplied, Metadata.annotate, Option.getD_some, StringMap.erase_insert]

/-- The snapshot of an object does not depend on the snapshot that it carries. -/
theorem snapshotText_setLastApplied (object : Object kind) (text : String) :
    (object.setLastApplied text).snapshotText = object.snapshotText := by
  rw [snapshotText, withoutSnapshot_setLastApplied]
  rfl

/-- What is left of annotations in key order is in key order. -/
theorem sorted_withoutSnapshot
    (sorted : ∀ entries, object.metadata.annotations = some entries -> Entries.Sorted entries)
    (entries : StringMap) (held : object.withoutSnapshot.metadata.annotations = some entries) :
    Entries.Sorted entries := by
  have before : Entries.Sorted (object.metadata.annotations.getD []) := by
    cases had : object.metadata.annotations with
    | none => exact Entries.sorted_nil
    | some entries => exact sorted entries had
  rw [withoutSnapshot_eq] at held
  dsimp only at held
  split_ifs at held
  rw [← Option.some.inj held]
  exact before.sublist List.filter_sublist

/-- A proper object is proper without its snapshot. -/
theorem Proper.withoutSnapshot (proper : object.Proper) : object.withoutSnapshot.Proper := by
  have sorted := sorted_withoutSnapshot proper.metadata.annotations
  rw [withoutSnapshot_eq] at sorted ⊢
  exact ⟨{ proper.metadata with annotations := sorted }, proper.body⟩

/-- A regular object is regular without its snapshot. -/
theorem Regular.withoutSnapshot {allowed : Time.Instant -> Prop}
    (regular : object.Regular allowed) : object.withoutSnapshot.Regular allowed := by
  have sorted := sorted_withoutSnapshot regular.metadata.annotations
  rw [withoutSnapshot_eq] at sorted ⊢
  exact ⟨{ regular.metadata with annotations := sorted }, regular.body⟩

/-- The snapshot of an object is the same whatever snapshot the object carries, so that it does
not change when it is taken again, and the object without a snapshot is read back from it. -/
theorem snapshot_round_trip (object : Object kind) :
    (∀ text, (object.setLastApplied text).snapshotText = object.snapshotText) ∧
    object.stamped.stamped.lastApplied = object.stamped.lastApplied ∧
    (object.Proper -> ∃ text value, object.stamped.lastApplied = some text ∧
      Json.parse text = .ok value ∧ Object.read kind value = .ok object.withoutSnapshot) := by
  refine ⟨object.snapshotText_setLastApplied, ?_, fun proper => ?_⟩
  · rw [stamped, stamped, setLastApplied_lastApplied, setLastApplied_lastApplied,
      snapshotText_setLastApplied]
  · have exact := proper.withoutSnapshot.exact
    exact ⟨object.snapshotText, object.withoutSnapshot.toJson,
      setLastApplied_lastApplied object _, exact.parse, exact.read⟩

/-- A config map with texts that are written with escapes, with bytes, and with nothing but an old
snapshot among its annotations. -/
def snappedConfigMap : Object .configMap :=
  { metadata := { name := some "motd", annotations := some [(lastAppliedKey, "old")] }
    body :=
      { binaryData := some [("raw", ⟨[0, 127, 255, 16]⟩)]
        data := some [("greeting", "\"Grüße\"\n\t\\"), ("name", "\u0007𝄞")]
        immutable := some true } }

/-- The config map with a snapshot is a proper object. -/
theorem proper_snappedConfigMap : snappedConfigMap.Proper where
  metadata :=
    { annotations := by
        rintro _ ⟨⟩
        exact List.pairwise_singleton _ _
      labels := fun _ none => by cases none
      grace := fun _ none => by cases none
      generation := fun _ none => by cases none
      uncreated := rfl
      undeleted := rfl }
  body :=
    { binaryData := by
        rintro _ ⟨⟩
        exact List.pairwise_singleton _ _
      data := by
        rintro _ ⟨⟩
        show List.Pairwise (· < ·) ["greeting", "name"]
        decide }

/-- The config map is read back from its snapshot, without annotations. -/
theorem snapshot_round_trip_configMap :
    (snappedConfigMap.setLastApplied "new").snapshotText = snappedConfigMap.snapshotText ∧
    ∃ text value, snappedConfigMap.stamped.lastApplied = some text ∧
      Json.parse text = .ok value ∧ Object.read .configMap value =
        .ok { snappedConfigMap with
              metadata := { snappedConfigMap.metadata with annotations := none } } := by
  obtain ⟨stable, -, back⟩ := snapshot_round_trip snappedConfigMap
  exact ⟨stable "new", back proper_snappedConfigMap⟩

end Object

end GuestFleet.Kube
