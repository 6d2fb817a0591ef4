import GuestFleet.Proofs.Json.Parsed
import GuestFleet.Proofs.Json.RoundTrip
import GuestFleet.Proofs.Json.ThreeWay
import GuestFleet.Proofs.Kube.Written
import GuestFleet.Proofs.Time.Instant

/-!
# Codecs that read back what they write

A record is read back when every member that it writes is. The records between which the reading
moves, from the empty one to the one that was written, are named member by member, so that what a
record needs is said by its members alone.
-/

namespace GuestFleet.Json

variable {α σ : Type} {depth : Nat}

/-- Whatever is read back from its text lists its members in key order. -/
theorem Printable.ordered {value : Json} (printable : Printable depth value) : Ordered value := by
  induction printable with
  | array _ ih => exact orderedItems_iff.2 ih
  | object sorted _ ih => exact ordered_object.2 ⟨sorted, orderedMembers_iff.2 ih⟩
  | _ => trivial

/-- Members that a merge may set: in order, printable, and without null. -/
structure Members.Settable (depth : Nat) (members : Members) : Prop where
  sorted : Members.Sorted members
  printable : ∀ member ∈ members, Printable depth member.2
  nullFree : NullFreeMembers members

/-- The members inside of members that can be set can be set. -/
theorem Members.Settable.within {members : Members} (settable : Members.Settable depth members)
    {key : String}
    {wanted : Members} (found : Members.find members key = some (.object wanted)) :
    Members.Settable depth wanted := by
  have printable := settable.printable _ (Entries.mem_of_lookup found)
  obtain ⟨-, nullFree⟩ := settable.nullFree.find found
  cases printable with
  | object sorted within =>
    exact ⟨sorted, fun member mem => (within member mem).mono (Nat.le_succ _), nullFree.membersOf⟩

/-- Members that can be set are in order, all the way down. -/
theorem Members.Settable.ordered {members : Members} (settable : Members.Settable depth members) :
    OrderedMembers members :=
  orderedMembers_iff.2 fun member mem => (settable.printable member mem).ordered

namespace Codec

/-- A value is read back from what is written for it, which can be printed, is not null and holds
no null. -/
structure Exact (codec : Codec α) (depth : Nat) (value : α) : Prop where
  printable : Printable depth (codec.write value)
  present : codec.write value ≠ .null
  nullFree : NullFree (codec.write value)
  read : codec.read (codec.write value) = .ok value

/-- What is read back within some depth is read back within a greater one. -/
theorem Exact.mono {codec : Codec α} {value : α} (exact : codec.Exact depth value) {more : Nat}
    (le : depth ≤ more) : codec.Exact more value :=
  ⟨exact.printable.mono le, exact.present, exact.nullFree, exact.read⟩

/-- Every text is read back. -/
theorem exact_text (value : String) : text.Exact depth value :=
  ⟨.string value, (nomatch ·), trivial, rfl⟩

/-- Every truth value is read back. -/
theorem exact_truth (value : Bool) : truth.Exact depth value :=
  ⟨.bool value, (nomatch ·), trivial, rfl⟩

/-- An integer that 32 bits hold. -/
def IsInt32 (value : Int) : Prop := -2147483648 ≤ value ∧ value ≤ 2147483647

instance (value : Int) : Decidable (IsInt32 value) :=
  inferInstanceAs (Decidable (-2147483648 ≤ value ∧ value ≤ 2147483647))

/-- An integer that 64 bits hold. -/
def IsInt64 (value : Int) : Prop := -9223372036854775808 ≤ value ∧ value ≤ 9223372036854775807

/-- Every number that fits into 32 bits is read back. -/
theorem exact_int32 {value : Int} (fits : IsInt32 value) : int32.Exact depth value := by
  obtain ⟨low, high⟩ := fits
  refine ⟨.integer (by omega) (by omega), (nomatch ·), trivial, ?_⟩
  have inside : (decide (-2147483648 ≤ value) && decide (value ≤ 2147483647)) = true := by
    rw [decide_eq_true low, decide_eq_true high, Bool.and_self]
  exact if_pos inside

/-- Every number that fits into 64 bits is read back. -/
theorem exact_int64 {value : Int} (fits : IsInt64 value) : int64.Exact depth value := by
  obtain ⟨low, high⟩ := fits
  refine ⟨.integer (by omega) (by omega), (nomatch ·), trivial, ?_⟩
  have inside :
      (decide (-9223372036854775808 ≤ value) && decide (value ≤ 9223372036854775807)) = true := by
    rw [decide_eq_true low, decide_eq_true high, Bool.and_self]
  exact if_pos inside

/-- Every instant of a four-digit year is read back. -/
theorem exact_instant {value : Time.Instant} (proper : value.Proper) :
    instant.Exact depth value := by
  have written : text.Exact depth value.text := exact_text value.text
  refine ⟨written.printable, written.present, written.nullFree, ?_⟩
  simp only [instant, readInstant, proper.parse_text]

/-- A list is read back when its items are. -/
theorem exact_list {item : Codec α} {values : List α}
    (exact : ∀ value ∈ values, item.Exact depth value) :
    (list item).Exact (depth + 1) values := by
  refine ⟨.array ?_, (nomatch ·), trivial, ?_⟩
  · intro written mem
    obtain ⟨value, among, rfl⟩ := List.mem_map.1 mem
    exact (exact value among).printable
  · show (values.map item.write).mapM item.read = .ok values
    induction values with
    | nil => rfl
    | cons value values ih =>
      rw [List.forall_mem_cons] at exact
      rw [List.map_cons, List.mapM_cons, exact.1.read, ih exact.2]
      rfl

/-- A map is read back when its values are and its entries are in order. -/
theorem exact_map {item : Codec α} {entries : List (String × α)} (sorted : Entries.Sorted entries)
    (exact : ∀ entry ∈ entries, item.Exact depth entry.2) :
    (map item).Exact (depth + 1) entries := by
  let members : Members := entries.map fun entry => (entry.1, item.write entry.2)
  have keys : members.map Prod.fst = entries.map Prod.fst := by
    rw [List.map_map]
    rfl
  refine ⟨.object ?_ ?_, (nomatch ·), nullFreeMembers_iff.2 ?_, ?_⟩
  · show (members.map Prod.fst).Pairwise (· < ·)
    rw [keys]
    exact sorted
  · intro written mem
    obtain ⟨entry, among, rfl⟩ := List.mem_map.1 mem
    exact (exact entry among).printable
  · intro written mem
    obtain ⟨entry, among, rfl⟩ := List.mem_map.1 mem
    exact ⟨(exact entry among).present, (exact entry among).nullFree⟩
  · show (entries.map fun entry => (entry.1, item.write entry.2)).mapM
      (fun member => (item.read member.2).map fun value => (member.1, value)) = .ok entries
    clear keys members sorted
    induction entries with
    | nil => rfl
    | cons entry entries ih =>
      obtain ⟨key, value⟩ := entry
      rw [List.forall_mem_cons] at exact
      have first : (item.read (item.write value)).map (fun v => (key, v)) = .ok (key, value) := by
        rw [exact.1.read]
        rfl
      rw [List.map_cons, List.mapM_cons]
      dsimp only
      rw [first, ih exact.2]
      rfl

/-- What is found in the JSON form of a map. -/
theorem find_map (item : Codec α) (entries : List (String × α)) (key : String) :
    Members.find ((map item).write entries).membersOf key =
      (List.lookup key entries).map item.write := by
  show Members.find (entries.map fun entry => (entry.1, item.write entry.2)) key = _
  induction entries with
  | nil => rfl
  | cons entry entries ih =>
    obtain ⟨k, value⟩ := entry
    rw [List.map_cons, Members.find_cons, Entries.lookup_cons, ih]
    split_ifs <;> rfl

/-- A map of texts is read back when its entries are in order. -/
theorem exact_textMap {entries : List (String × String)} (sorted : Entries.Sorted entries) :
    textMap.Exact (depth + 1) entries :=
  exact_map sorted fun entry _ => exact_text entry.2

end Codec

/-! ## Records -/

namespace Member

variable (depth) (record : σ)

/-- Reading what a record writes for a member leads from one record to the next. -/
inductive Copies (member : Member σ) : σ -> σ -> Prop where
  | absent {before : σ} (unwritten : member.write record = none) : Copies member before before
  | present {before after : σ} {value : Json} (written : member.write record = some value)
      (printable : Printable depth value) (present : value ≠ .null) (nullFree : NullFree value)
      (read : member.read before value = .ok after) : Copies member before after

/-- Reading what a record writes for some members leads from another record back to it. -/
inductive Restores : List (Member σ) -> σ -> Prop where
  | nil : Restores [] record
  | cons {member : Member σ} {members : List (Member σ)} {before after : σ}
      (copies : member.Copies depth record before after) (later : Restores members after) :
      Restores (member :: members) before

variable {depth record}

/-- An optional member is set to what it was. -/
theorem copies_optional {key : String} {codec : Codec α} {get : σ -> Option α}
    {set : σ -> Option α -> σ} {before : σ}
    (exact : ∀ value, get record = some value -> codec.Exact depth value)
    (unset : set before none = before) :
    (Member.optional key codec get set).Copies depth record before (set before (get record)) := by
  cases held : get record with
  | none =>
    rw [unset]
    exact .absent (congrArg (Option.map codec.write) held)
  | some value =>
    have written := exact value held
    refine .present (congrArg (Option.map codec.write) held) written.printable written.present
      written.nullFree ?_
    have read : readOption codec.read (codec.write value) = .ok (some value) := by
      unfold readOption
      split
      · next isNull => exact absurd isNull written.present
      · rw [written.read]
        rfl
    exact congrArg (Except.map (set before)) read

/-- A member that is always written is set to what it was. -/
theorem copies_needed {key : String} {codec : Codec α} {absent : α} {get : σ -> α}
    {set : σ -> α -> σ} {before : σ} (exact : codec.Exact depth (get record)) :
    (Member.needed key codec absent get set).Copies depth record before
      (set before (get record)) := by
  refine .present rfl exact.printable exact.present exact.nullFree ?_
  have read : readOr absent codec.read (codec.write (get record)) = .ok (get record) := by
    unfold readOr
    split
    · next isNull => exact absurd isNull exact.present
    · exact exact.read
  exact congrArg (Except.map (set before)) read

/-- A member is found by its key. -/
theorem find?_key {members : List (Member σ)} (nodup : (members.map (·.key)).Nodup)
    {member : Member σ} (mem : member ∈ members) :
    members.find? (·.key == member.key) = some member := by
  induction members with
  | nil => cases mem
  | cons head rest ih =>
    obtain ⟨fresh, nodupRest⟩ := List.nodup_cons.1 nodup
    rcases List.mem_cons.1 mem with rfl | among
    · rw [List.find?_cons, beq_self_eq_true]
    · have ne : head.key ≠ member.key := by
        intro same
        exact fresh (List.mem_map.2 ⟨member, among, same.symm⟩)
      rw [List.find?_cons, beq_false_of_ne ne]
      exact ih nodupRest among

/-- The value of a key is taken up by the member with that key. -/
theorem take_mem {members : List (Member σ)} (nodup : (members.map (·.key)).Nodup)
    {member : Member σ} (mem : member ∈ members) (before : σ) (value : Json) :
    take members before member.key value = member.read before value := by
  rw [take, find?_key nodup mem]

/-- What is written for members is read back when it restores the record. -/
theorem Restores.read {members all : List (Member σ)} {before : σ}
    (restores : Restores depth record members before) (nodup : (all.map (·.key)).Nodup)
    (within : members ⊆ all) :
    (written members record).foldlM (fun record entry => take all record entry.1 entry.2) before =
      (.ok record : Read σ) := by
  induction restores with
  | nil => rfl
  | @cons member members before after copies _ ih =>
    rw [List.cons_subset] at within
    cases copies with
    | absent unwritten =>
      rw [written_absent unwritten]
      exact ih within.2
    | present writes _ _ _ read =>
      rw [written_present writes, List.foldlM_cons, take_mem nodup within.1, read]
      exact ih within.2

/-- Every value that is written for the members of a restored record is sound. -/
theorem Restores.values {members : List (Member σ)} {before : σ}
    (restores : Restores depth record members before) :
    ∀ entry ∈ written members record,
      Printable depth entry.2 ∧ entry.2 ≠ .null ∧ NullFree entry.2 := by
  induction restores with
  | nil => exact fun _ mem => by cases mem
  | @cons member members before after copies _ ih =>
    cases copies with
    | absent unwritten =>
      rw [written_absent unwritten]
      exact ih
    | present writes printable present nullFree _ =>
      rw [written_present writes, List.forall_mem_cons]
      exact ⟨⟨printable, present, nullFree⟩, ih⟩

end Member

/-- A record is read back when its members restore it. -/
theorem Codec.exact_record {name : String} {empty record : σ} {members : List (Member σ)}
    (sorted : (members.map (·.key)).Pairwise (· < ·))
    (restores : Member.Restores depth record members empty) :
    (Codec.record name empty members).Exact (depth + 1) record where
  printable := .object (sorted_written sorted record) fun entry mem =>
    (restores.values entry mem).1
  present := (nomatch ·)
  nullFree := nullFreeMembers_iff.2 fun entry mem => (restores.values entry mem).2
  read := restores.read (sorted.imp ne_of_lt) (List.Subset.refl _)

end GuestFleet.Json
