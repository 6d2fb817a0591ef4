import GuestFleet.Json.MergePatch
import GuestFleet.Proofs.Entries

/-!
# What merge patches do to members

A patch acts on each key by itself: it takes the member away, patches it, or leaves it
alone. `find_patchedMembers` says so for every key at once, and everything that is said
about patched objects is said through it.
-/

namespace GuestFleet.Json

/-! ## Values in key order -/

/-- An object is in order when its keys are and its values are. -/
theorem ordered_object {members : Members} :
    Ordered (.object members) <-> Members.Sorted members ∧ OrderedMembers members := by
  rw [Ordered, Members.Sorted, Entries.Sorted]

/-- Members are in order when all their values are. -/
theorem orderedMembers_iff {members : Members} :
    OrderedMembers members <-> ∀ member ∈ members, Ordered member.2 := by
  induction members with
  | nil => simp [OrderedMembers]
  | cons member members ih => simp [OrderedMembers, ih]

/-- What is found among ordered members is ordered. -/
theorem OrderedMembers.find {members : Members} (ordered : OrderedMembers members)
    {key : String} {value : Json} (found : Members.find members key = some value) :
    Ordered value := by
  induction members with
  | nil => simp at found
  | cons head rest ih =>
    obtain ⟨k, v⟩ := head
    rw [OrderedMembers] at ordered
    rw [Members.find_cons] at found
    split_ifs at found with same
    · exact (Option.some.inj found) ▸ ordered.1
    · exact ih ordered.2 found

/-- The members of an ordered value are in order. -/
theorem Ordered.membersOf {value : Json} (ordered : Ordered value) :
    Members.Sorted value.membersOf ∧ OrderedMembers value.membersOf := by
  cases value with
  | object members => exact ordered_object.1 ordered
  | _ => exact ⟨Entries.sorted_nil, by simp [Json.membersOf, OrderedMembers]⟩

/-- The value of a member is smaller than the members. -/
theorem sizeOf_lt_of_mem {members : Members} {member : String × Json} (mem : member ∈ members) :
    sizeOf member.2 < sizeOf members := by
  have inside := List.sizeOf_lt_of_mem mem
  have parts : sizeOf member = 1 + sizeOf member.1 + sizeOf member.2 := rfl
  omega

/-! ## Patched members -/

/-- What is not null is any other value. -/
theorem isNull_eq_false {value : Json} : value.isNull = false <-> value ≠ .null := by
  cases value <;> simp [isNull]

/-- A patch that is no object is what the target becomes. -/
theorem patched_of_plain {change : Json} (plain : ∀ members, change ≠ .object members)
    (target : Json) : patched target change = change := by
  cases change with
  | object members => exact absurd rfl (plain members)
  | _ => simp [patched]

/-- The members after one entry of a patch. -/
def patchedMember (members : Members) (key : String) (change : Json) : Members :=
  if change.isNull then Members.erase key members
  else Members.insert key (patched ((Members.find members key).getD .null) change) members

/-- Members are patched one after the other. -/
theorem patchedMembers_cons (members : Members) (key : String) (change : Json)
    (rest : Members) :
    patchedMembers members ((key, change) :: rest) =
      patchedMembers (patchedMember members key change) rest := by
  rw [patchedMembers, patchedMember]
  split_ifs <;> rfl

/-- A patch of a single member puts what the member makes of the value there. -/
theorem patched_single (target : Json) (key : String) {change : Json} (notNull : change ≠ .null) :
    patched target (.object [(key, change)]) =
      .object (Members.insert key
        (patched ((Members.find target.membersOf key).getD .null) change) target.membersOf) := by
  rw [patched, patchedMembers, isNull_eq_false.2 notNull]
  rfl

/-- What an entry of a patch leaves under its own key. -/
theorem find_patchedMember_self (members : Members) (key : String) (change : Json) :
    Members.find (patchedMember members key change) key =
      if change.isNull then none
      else some (patched ((Members.find members key).getD .null) change) := by
  rw [patchedMember]
  split_ifs
  · rw [Members.find_erase, if_pos rfl]
  · rw [Members.find_insert_self]

/-- An entry of a patch does not touch other keys. -/
theorem find_patchedMember_of_ne {key other : String} (ne : other ≠ key) (members : Members)
    (change : Json) :
    Members.find (patchedMember members key change) other = Members.find members other := by
  rw [patchedMember]
  split_ifs
  · rw [Members.find_erase, if_neg ne]
  · rw [Members.find_insert_of_ne ne]

/-- A patch acts on each key by itself. -/
theorem find_patchedMembers {entries : Members} (nodup : (entries.map Prod.fst).Nodup)
    (members : Members) (key : String) :
    Members.find (patchedMembers members entries) key =
      match Members.find entries key with
      | none => Members.find members key
      | some change =>
        if change.isNull then none
        else some (patched ((Members.find members key).getD .null) change) := by
  induction entries generalizing members with
  | nil => rw [patchedMembers]; rfl
  | cons head rest ih =>
    obtain ⟨k, change⟩ := head
    obtain ⟨fresh, nodupRest⟩ := List.nodup_cons.1 nodup
    rw [patchedMembers_cons, Members.find_cons, ih nodupRest]
    by_cases same : key = k
    · -- the other entries do not come back to the key of the first
      have unseen : Members.find rest key = none :=
        Entries.lookup_eq_none.2 (same ▸ fresh)
      subst same
      rw [if_pos rfl, unseen]
      exact find_patchedMember_self members key change
    · rw [if_neg same, find_patchedMember_of_ne same]

/-- Patched members stay in order. -/
theorem Members.Sorted.patched {members : Members} (sorted : Members.Sorted members)
    (entries : Members) : Members.Sorted (patchedMembers members entries) := by
  induction entries generalizing members with
  | nil => rwa [patchedMembers]
  | cons head rest ih =>
    obtain ⟨k, change⟩ := head
    rw [patchedMembers_cons]
    apply ih
    rw [patchedMember]
    split_ifs
    · exact sorted.erase k
    · exact sorted.insert k _

end GuestFleet.Json
