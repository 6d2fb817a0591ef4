import GuestFleet.Json.MergePatch
import GuestFleet.Kube.Object
import GuestFleet.Proofs.Entries

/-!
# Objects as JSON and back

Where the members of a record are found in what is written of it, and what a record that
was read owes to the member under one key.
-/

namespace GuestFleet

namespace Json

variable {σ β : Type}

/-- A mapped result that is no failure comes from one. -/
theorem map_eq_ok {ε α γ : Type} {f : α -> γ} {result : Except ε α} {value : γ}
    (mapped : result.map f = .ok value) : ∃ before, result = .ok before ∧ value = f before := by
  cases result with
  | error fault => cases mapped
  | ok before => exact ⟨before, rfl, (Except.ok.inj mapped).symm⟩

/-! ## Written records -/

/-- A member without a value is left out. -/
theorem written_absent {member : Member σ} {record : σ} (absent : member.write record = none)
    (members : List (Member σ)) :
    Member.written (member :: members) record = Member.written members record := by
  simp [Member.written, absent]

/-- A member with a value is written before those behind it. -/
theorem written_present {member : Member σ} {record : σ} {value : Json}
    (present : member.write record = some value) (members : List (Member σ)) :
    Member.written (member :: members) record =
      (member.key, value) :: Member.written members record := by
  simp [Member.written, present]

/-- The keys that are written are among those of the members, in the same order. -/
theorem keys_written (members : List (Member σ)) (record : σ) :
    ((Member.written members record).map Prod.fst).Sublist (members.map (·.key)) := by
  induction members with
  | nil => exact List.Sublist.slnil
  | cons member members ih =>
    cases writes : member.write record with
    | none =>
      rw [written_absent writes]
      exact ih.cons _
    | some value =>
      rw [written_present writes]
      exact ih.cons_cons _

/-- Members that are listed in order are written in order. -/
theorem sorted_written {members : List (Member σ)}
    (sorted : (members.map (·.key)).Pairwise (· < ·)) (record : σ) :
    Members.Sorted (Member.written members record) :=
  List.Pairwise.sublist (keys_written members record) sorted

/-- Records of which every member writes the same are written alike. -/
theorem written_congr {members : List (Member σ)} {first second : σ}
    (same : ∀ member ∈ members, member.write first = member.write second) :
    Member.written members first = Member.written members second :=
  List.filterMap_congr fun member mem => by rw [same member mem]

/-- Under a key stands what the member with that key writes. -/
theorem find_written {members : List (Member σ)} (nodup : (members.map (·.key)).Nodup)
    (record : σ) (key : String) :
    Members.find (Member.written members record) key =
      (members.find? (·.key == key)).bind fun member => member.write record := by
  induction members with
  | nil => rfl
  | cons member members ih =>
    obtain ⟨fresh, nodupRest⟩ := List.nodup_cons.1 nodup
    have tail := ih nodupRest
    rw [List.find?_cons]
    by_cases own : member.key = key
    · have unseen : Members.find (Member.written members record) key = none := by
        refine Entries.lookup_eq_none.2 fun mem => fresh ?_
        have among := (keys_written members record).subset mem
        rwa [← own] at among
      rw [own, beq_self_eq_true]
      cases writes : member.write record with
      | none =>
        rw [written_absent writes, unseen]
        exact writes.symm
      | some value =>
        rw [written_present writes, Members.find_cons, if_pos own.symm]
        exact writes.symm
    · rw [beq_false_of_ne own, ← tail]
      cases writes : member.write record with
      | none => rw [written_absent writes]
      | some value => rw [written_present writes, Members.find_cons, if_neg (Ne.symm own)]

/-! ## Records that were read -/

section

variable (get : σ -> β) {key : String} {member : σ -> String -> Json -> Read σ}
  (others : ∀ record k value after, k ≠ key -> member record k value = .ok after ->
    get after = get record)

include others

/-- Members under other keys do not matter. -/
theorem foldl_get_of_unseen {members : Members} {record after : σ}
    (unseen : key ∉ members.map Prod.fst)
    (read : members.foldlM (fun record entry => member record entry.1 entry.2) record =
      .ok after) : get after = get record := by
  induction members generalizing record with
  | nil => rw [← Except.ok.inj read]
  | cons head rest ih =>
    obtain ⟨k, value⟩ := head
    rw [List.map_cons, List.mem_cons, not_or] at unseen
    rw [List.foldlM_cons] at read
    cases step : member record k value with
    | error fault =>
      rw [step] at read
      cases read
    | ok between =>
      rw [step] at read
      rw [ih unseen.2 read]
      exact others record k value between (Ne.symm unseen.1) step

/-- What a record owes to a key is what the member under the key has made of it. -/
theorem foldl_get {members : Members} (nodup : (members.map Prod.fst).Nodup)
    {value : Json} (found : Members.find members key = some value) (demand : β -> Prop)
    (own : ∀ record after, member record key value = .ok after -> demand (get after))
    {record result : σ}
    (read : members.foldlM (fun record entry => member record entry.1 entry.2) record =
      .ok result) : demand (get result) := by
  induction members generalizing record with
  | nil => cases found
  | cons head rest ih =>
    obtain ⟨k, held⟩ := head
    obtain ⟨fresh, nodupRest⟩ := List.nodup_cons.1 nodup
    rw [Members.find_cons] at found
    rw [List.foldlM_cons] at read
    cases step : member record k held with
    | error fault =>
      rw [step] at read
      cases read
    | ok between =>
      rw [step] at read
      by_cases same : key = k
      · subst same
        rw [if_pos rfl] at found
        obtain rfl := Option.some.inj found
        rw [foldl_get_of_unseen get others fresh read]
        exact own record between step
      · rw [if_neg same] at found
        exact ih nodupRest found read

end

/-- Reading the other members of a record leaves a part of it alone. -/
theorem take_get {get : σ -> β} {members : List (Member σ)} {key : String}
    (apart : ∀ member ∈ members, member.key ≠ key -> ∀ record value after,
      member.read record value = .ok after -> get after = get record)
    (record : σ) (k : String) (value : Json) (after : σ) (ne : k ≠ key)
    (taken : Member.take members record k value = .ok after) : get after = get record := by
  unfold Member.take at taken
  cases found : members.find? (·.key == k) with
  | none =>
    rw [found] at taken
    rw [Except.ok.inj taken]
  | some member =>
    rw [found] at taken
    have own : member.key = k := by simpa using List.find?_some found
    exact apart member (List.mem_of_find?_eq_some found) (own ▸ ne) record value after taken

/-- An optional member changes what its setter changes. -/
theorem optional_get {get : σ -> β} {key : String} {codec : Codec α} {write : σ -> Option α}
    {set : σ -> Option α -> σ} (apart : ∀ record value, get (set record value) = get record)
    (record : σ) (value : Json) (after : σ)
    (read : (Member.optional key codec write set).read record value = .ok after) :
    get after = get record := by
  obtain ⟨taken, -, same⟩ := map_eq_ok read
  rw [same]
  exact apart record taken

end Json

namespace Kube

open Json (Members)

/-! ## Written objects -/

/-- Metadata is written in order. -/
theorem Metadata.sorted_written (metadata : Metadata) :
    Members.Sorted (Metadata.codec.write metadata).membersOf :=
  Json.sorted_written (by decide) metadata

namespace Object

variable {kind : Kind}

/-- The members of a body are in key order. -/
theorem sorted_keys (kind : Kind) : ((Body.members kind).map (·.key)).Pairwise (· < ·) := by
  cases kind <;> decide

/-- The members of an object are written in order. -/
theorem sorted_fields (object : Object kind) : Members.Sorted object.fields :=
  Members.Sorted.insert (Json.sorted_written (sorted_keys kind) object.body) _ _

/-- So the JSON form of an object is in order. -/
theorem sorted_toJson (object : Object kind) : Members.Sorted object.toJson.membersOf :=
  (object.sorted_fields.insert _ _).insert _ _

/-- What stands under a key in the JSON form of an object. -/
theorem find_toJson (object : Object kind) (key : String) :
    Members.find object.toJson.membersOf key =
      if key = "apiVersion" then some (.string kind.apiVersion)
      else if key = "kind" then some (.string kind.name)
      else if key = "metadata" then some (Metadata.codec.write object.metadata)
      else Members.find (Json.Member.written (Body.members kind) object.body) key := by
  show Members.find (Members.insert _ _ (Members.insert _ _ (Members.insert _ _ _))) key = _
  split_ifs with isVersion isKind isMetadata
  · rw [isVersion, Members.find_insert_self]
  · rw [Members.find_insert_of_ne isVersion, isKind, Members.find_insert_self]
  · rw [Members.find_insert_of_ne isVersion, Members.find_insert_of_ne isKind, isMetadata,
      Members.find_insert_self]
  · rw [Members.find_insert_of_ne isVersion, Members.find_insert_of_ne isKind,
      Members.find_insert_of_ne isMetadata]

/-- The metadata of an object in its JSON form. -/
theorem find_metadata (object : Object kind) :
    Members.find object.toJson.membersOf "metadata" =
      some (Metadata.codec.write object.metadata) :=
  object.find_toJson "metadata"

/-- The keys of a body are not those that every object has. -/
theorem keys_body : ∀ key ∈ (Body.members kind).map (·.key),
    key ≠ "apiVersion" ∧ key ≠ "kind" ∧ key ≠ "metadata" := by
  cases kind <;> decide

/-- No member of a body takes the place of one that every object has. -/
theorem keys_written_body (body : Body kind) {key : String}
    (mem : key ∈ (Json.Member.written (Body.members kind) body).map Prod.fst) :
    key ≠ "apiVersion" ∧ key ≠ "kind" ∧ key ≠ "metadata" :=
  keys_body key ((Json.keys_written (Body.members kind) body).subset mem)

/-- The members that name the type are not among the fields. -/
theorem fresh_fields (object : Object kind) {key : String}
    (names : key = "apiVersion" ∨ key = "kind") : key ∉ object.fields.map Prod.fst := by
  intro mem
  rcases Members.mem_keys_insert mem with same | mem
  · rcases names with rfl | rfl <;> exact absurd same (by decide)
  · obtain ⟨version, isKind, -⟩ := keys_written_body object.body mem
    exact names.elim version isKind

end Object

end Kube

end GuestFleet
