import Mathlib.Data.List.Nodup
import Mathlib.Data.String.Basic
import GuestFleet.Kube.Metadata

/-!
# Entries in key order

The members of JSON objects, maps of texts and the objects of a collection are all lists
of entries in key order, written by the same insertion. What an insertion and a removal do
to a lookup holds of every list; what they do to the order is said once here for all keys.
-/

namespace GuestFleet

namespace Entries

variable {κ : Type} [LinearOrder κ] {β : Type}

/-- Entries with a value put under a key, in its place in the order. -/
def insert (key : κ) (value : β) : List (κ × β) -> List (κ × β)
  | [] => [(key, value)]
  | (k, v) :: rest =>
    if key = k then (key, value) :: rest
    else if key < k then (key, value) :: (k, v) :: rest
    else (k, v) :: insert key value rest

/-- The keys increase strictly. -/
def Sorted (entries : List (κ × β)) : Prop := (entries.map Prod.fst).Pairwise (· < ·)

/-- No entries are in order. -/
theorem sorted_nil : Sorted ([] : List (κ × β)) := List.Pairwise.nil

/-- Entries are in order when the first has the least key and the others are in order. -/
theorem sorted_cons {key : κ} {value : β} {rest : List (κ × β)} :
    Sorted ((key, value) :: rest) <-> (∀ entry ∈ rest, key < entry.1) ∧ Sorted rest := by
  simp [Sorted]

/-- Keys in increasing order do not repeat. -/
theorem Sorted.nodup {entries : List (κ × β)} (sorted : Sorted entries) :
    (entries.map Prod.fst).Nodup :=
  sorted.imp ne_of_lt

/-- A part of entries in order is in order. -/
theorem Sorted.sublist {part entries : List (κ × β)} (sorted : Sorted entries)
    (isPart : part.Sublist entries) : Sorted part :=
  List.Pairwise.sublist (isPart.map Prod.fst) sorted

/-- After an insertion, an entry is the new one or was there before. -/
theorem mem_insert {key : κ} {value : β} {entry : κ × β} {entries : List (κ × β)}
    (mem : entry ∈ insert key value entries) : entry = (key, value) ∨ entry ∈ entries := by
  induction entries with
  | nil => simpa [insert] using mem
  | cons head rest ih =>
    obtain ⟨k, v⟩ := head
    rw [insert] at mem
    split_ifs at mem with same before
    · rcases List.mem_cons.1 mem with eq | mem
      · exact .inl eq
      · exact .inr (List.mem_cons_of_mem _ mem)
    · rcases List.mem_cons.1 mem with eq | mem
      · exact .inl eq
      · exact .inr mem
    · rcases List.mem_cons.1 mem with eq | mem
      · exact .inr (eq ▸ List.mem_cons_self)
      · exact (ih mem).imp id (List.mem_cons_of_mem _)

/-- An insertion keeps the order. -/
theorem Sorted.insert {entries : List (κ × β)} (sorted : Sorted entries) (key : κ) (value : β) :
    Sorted (Entries.insert key value entries) := by
  induction entries with
  | nil => simp [Entries.insert, Sorted]
  | cons head rest ih =>
    obtain ⟨k, v⟩ := head
    obtain ⟨above, sortedRest⟩ := sorted_cons.1 sorted
    rw [Entries.insert]
    split_ifs with same before
    · exact sorted_cons.2 ⟨same ▸ above, sortedRest⟩
    · refine sorted_cons.2 ⟨fun entry mem => ?_, sorted⟩
      rcases List.mem_cons.1 mem with rfl | mem
      · exact before
      · exact before.trans (above entry mem)
    · refine sorted_cons.2 ⟨fun entry mem => ?_, ih sortedRest⟩
      rcases mem_insert mem with rfl | mem
      · exact lt_of_le_of_ne (not_lt.1 before) (Ne.symm same)
      · exact above entry mem

variable [BEq κ] [LawfulBEq κ]

omit [LinearOrder κ] in
/-- A key is looked up at the head of a list, or else in the rest. -/
theorem lookup_cons [DecidableEq κ] (key k : κ) (v : β) (rest : List (κ × β)) :
    List.lookup key ((k, v) :: rest) = if key = k then some v else List.lookup key rest := by
  rw [List.lookup_cons]
  by_cases same : key = k
  · simp [same]
  · rw [if_neg same, beq_false_of_ne same]

/-- What was put under a key is found there, in whatever order the entries are. -/
theorem lookup_insert_self (key : κ) (value : β) (entries : List (κ × β)) :
    List.lookup key (insert key value entries) = some value := by
  induction entries with
  | nil => simp [insert]
  | cons head rest ih =>
    obtain ⟨k, v⟩ := head
    rw [insert]
    split_ifs with same before
    · rw [lookup_cons, if_pos rfl]
    · rw [lookup_cons, if_pos rfl]
    · rw [lookup_cons, if_neg same, ih]

/-- An insertion does not touch other keys. -/
theorem lookup_insert_of_ne {key other : κ} (ne : other ≠ key) (value : β)
    (entries : List (κ × β)) :
    List.lookup other (insert key value entries) = List.lookup other entries := by
  induction entries with
  | nil => rw [insert, lookup_cons, if_neg ne]
  | cons head rest ih =>
    obtain ⟨k, v⟩ := head
    rw [insert]
    split_ifs with same before
    · subst same
      rw [lookup_cons, lookup_cons, if_neg ne, if_neg ne]
    · rw [lookup_cons, if_neg ne]
    · rw [lookup_cons, lookup_cons, ih]

omit [LinearOrder κ] in
/-- A removal takes away what is under the key and nothing else. -/
theorem lookup_erase [DecidableEq κ] (key other : κ) (entries : List (κ × β)) :
    List.lookup other (entries.filter fun entry => entry.1 != key) =
      if other = key then none else List.lookup other entries := by
  induction entries with
  | nil => simp
  | cons head rest ih =>
    obtain ⟨k, v⟩ := head
    by_cases same : k = key
    · subst same
      rw [List.filter_cons_of_neg (by simp), ih, lookup_cons]
      split_ifs <;> rfl
    · rw [List.filter_cons_of_pos (by simpa using same), lookup_cons, lookup_cons, ih]
      by_cases found : other = k
      · rw [if_pos found, if_pos found, if_neg (found ▸ same)]
      · rw [if_neg found, if_neg found]

omit [LinearOrder κ] in
/-- What is looked up is an entry. -/
theorem mem_of_lookup [DecidableEq κ] {key : κ} {value : β} {entries : List (κ × β)}
    (found : List.lookup key entries = some value) : (key, value) ∈ entries := by
  induction entries with
  | nil => simp at found
  | cons head rest ih =>
    obtain ⟨k, v⟩ := head
    rw [lookup_cons] at found
    split_ifs at found with same
    · obtain rfl := same
      exact (Option.some.inj found) ▸ List.mem_cons_self
    · exact List.mem_cons_of_mem _ (ih found)

omit [LinearOrder κ] in
/-- Nothing is looked up under a key that no entry has. -/
theorem lookup_eq_none [DecidableEq κ] {key : κ} {entries : List (κ × β)} :
    List.lookup key entries = none <-> key ∉ entries.map Prod.fst := by
  induction entries with
  | nil => simp
  | cons head rest ih =>
    obtain ⟨k, v⟩ := head
    rw [lookup_cons]
    split_ifs with same
    · simp [same]
    · rw [ih]
      simp [same]

omit [LinearOrder κ] in
/-- Without repeated keys every entry is found. -/
theorem lookup_of_mem [DecidableEq κ] {key : κ} {value : β} {entries : List (κ × β)}
    (nodup : (entries.map Prod.fst).Nodup) (mem : (key, value) ∈ entries) :
    List.lookup key entries = some value := by
  induction entries with
  | nil => cases mem
  | cons head rest ih =>
    obtain ⟨k, v⟩ := head
    obtain ⟨fresh, nodupRest⟩ := List.nodup_cons.1 nodup
    rw [lookup_cons]
    rcases List.mem_cons.1 mem with eq | memRest
    · cases eq
      rw [if_pos rfl]
    · have ne : key ≠ k := by
        rintro rfl
        exact fresh (List.mem_map.2 ⟨_, memRest, rfl⟩)
      rw [if_neg ne, ih nodupRest memRest]

/-- The entries for which a function of key and value gives a value, with that value. -/
def choose {γ : Type} (f : κ -> β -> Option γ) (entries : List (κ × β)) : List (κ × γ) :=
  entries.filterMap fun entry => (f entry.1 entry.2).map fun value => (entry.1, value)

omit [LinearOrder κ] [BEq κ] [LawfulBEq κ] in
/-- A choice takes the head of a list, or leaves it out, and goes on with the rest. -/
theorem choose_cons {γ : Type} (f : κ -> β -> Option γ) (k : κ) (v : β)
    (rest : List (κ × β)) :
    choose f ((k, v) :: rest) =
      match f k v with
      | none => choose f rest
      | some value => (k, value) :: choose f rest := by
  rw [choose, List.filterMap_cons]
  cases f k v <;> rfl

omit [LinearOrder κ] [BEq κ] [LawfulBEq κ] in
/-- A choice keeps the order of keys. -/
theorem choose_keys {γ : Type} (f : κ -> β -> Option γ) (entries : List (κ × β)) :
    ((choose f entries).map Prod.fst).Sublist (entries.map Prod.fst) := by
  induction entries with
  | nil => exact List.Sublist.slnil
  | cons head rest ih =>
    obtain ⟨k, v⟩ := head
    rw [choose_cons]
    cases f k v with
    | none => exact ih.cons k
    | some value => exact ih.cons_cons k

/-- A choice among entries acts on each key by itself. -/
theorem lookup_choose {γ : Type} (f : κ -> β -> Option γ) {entries : List (κ × β)}
    (nodup : (entries.map Prod.fst).Nodup) (key : κ) :
    List.lookup key (choose f entries) = (List.lookup key entries).bind (f key) := by
  induction entries with
  | nil => rfl
  | cons head rest ih =>
    obtain ⟨k, v⟩ := head
    obtain ⟨fresh, nodupRest⟩ := List.nodup_cons.1 nodup
    have later := ih nodupRest
    rw [choose_cons, lookup_cons]
    by_cases same : key = k
    · subst same
      have unseen : List.lookup key rest = none := lookup_eq_none.2 fresh
      rw [if_pos rfl, Option.bind_some]
      cases f key v with
      | none => exact later.trans (by rw [unseen, Option.bind_none])
      | some value => exact (lookup_cons key key value _).trans (if_pos rfl)
    · rw [if_neg same]
      cases f k v with
      | none => exact later
      | some value => exact (lookup_cons key k value _).trans ((if_neg same).trans later)

/-- Entries in order are determined by what is found under the keys. -/
theorem Sorted.ext {left right : List (κ × β)} (sortedLeft : Sorted left)
    (sortedRight : Sorted right)
    (same : ∀ key, List.lookup key left = List.lookup key right) : left = right := by
  have memIff : ∀ entry, entry ∈ left <-> entry ∈ right := by
    rintro ⟨key, value⟩
    constructor
    · intro mem
      exact mem_of_lookup ((same key).symm.trans (lookup_of_mem sortedLeft.nodup mem))
    · intro mem
      exact mem_of_lookup ((same key).trans (lookup_of_mem sortedRight.nodup mem))
  have perm : left.Perm right :=
    (List.perm_ext_iff_of_nodup (List.Nodup.of_map _ sortedLeft.nodup)
      (List.Nodup.of_map _ sortedRight.nodup)).2 memIff
  have antisymmetric : ∀ a b : κ × β, a ∈ left -> b ∈ right -> a.1 < b.1 -> b.1 < a.1 ->
      a = b := fun _ _ _ _ before after => absurd before (lt_asymm after)
  exact perm.eq_of_pairwise antisymmetric (List.pairwise_map.1 sortedLeft)
    (List.pairwise_map.1 sortedRight)

end Entries

namespace Kube.StringMap

/-- An entry is put into a map of texts as it is put into entries in order. -/
theorem insert_eq (key text : String) (entries : StringMap) :
    insert key text entries = Entries.insert key text entries := by
  induction entries with
  | nil => rfl
  | cons head rest ih =>
    obtain ⟨k, t⟩ := head
    rw [insert, Entries.insert, ih]

/-- The text put under a key is found there. -/
@[simp]
theorem find_insert_self (key text : String) (entries : StringMap) :
    find (insert key text entries) key = some text := by
  rw [insert_eq]
  exact Entries.lookup_insert_self key text entries

end Kube.StringMap

namespace Json.Members

/-- A member is put into an object as an entry is put into entries in order. -/
theorem insert_eq (key : String) (value : Json) (members : Members) :
    insert key value members = Entries.insert key value members := by
  induction members with
  | nil => rfl
  | cons head rest ih =>
    obtain ⟨k, v⟩ := head
    rw [insert, Entries.insert, ih]

/-- The keys increase strictly. -/
abbrev Sorted (members : Members) : Prop := Entries.Sorted members

/-- A member is found at the head of a list, or else in the rest. -/
theorem find_cons (key k : String) (v : Json) (rest : Members) :
    find ((k, v) :: rest) key = if key = k then some v else find rest key :=
  Entries.lookup_cons key k v rest

/-- Nothing is found in an object without members. -/
@[simp]
theorem find_nil (key : String) : find [] key = none := rfl

/-- The value put under a key is found there. -/
@[simp]
theorem find_insert_self (key : String) (value : Json) (members : Members) :
    find (insert key value members) key = some value := by
  rw [insert_eq]
  exact Entries.lookup_insert_self key value members

/-- Putting a member into an object leaves the others as they are. -/
theorem find_insert_of_ne {key other : String} (ne : other ≠ key) (value : Json)
    (members : Members) : find (insert key value members) other = find members other := by
  rw [insert_eq]
  exact Entries.lookup_insert_of_ne ne value members

/-- Taking a member out of an object leaves the others as they are. -/
theorem find_erase (key other : String) (members : Members) :
    find (erase key members) other = if other = key then none else find members other :=
  Entries.lookup_erase key other members

/-- Putting a member into an object keeps its members in order. -/
theorem Sorted.insert {members : Members} (sorted : Sorted members) (key : String)
    (value : Json) : Sorted (Members.insert key value members) := by
  rw [insert_eq]
  exact Entries.Sorted.insert sorted key value

/-- Taking a member out of an object keeps its members in order. -/
theorem Sorted.erase {members : Members} (sorted : Sorted members) (key : String) :
    Sorted (Members.erase key members) :=
  Entries.Sorted.sublist sorted List.filter_sublist

/-- Something is true of all members when it is true of the inserted one and of the others. -/
theorem forall_insert {p : String × Json -> Prop} {key : String} {value : Json}
    {members : Members} (own : p (key, value)) (others : ∀ entry ∈ members, p entry) :
    ∀ entry ∈ insert key value members, p entry := by
  intro entry mem
  rw [insert_eq] at mem
  rcases Entries.mem_insert mem with rfl | mem
  · exact own
  · exact others entry mem

/-- An insertion adds no key but its own. -/
theorem mem_keys_insert {key other : String} {value : Json} {members : Members}
    (mem : other ∈ (insert key value members).map Prod.fst) :
    other = key ∨ other ∈ members.map Prod.fst := by
  obtain ⟨entry, among, rfl⟩ := List.mem_map.1 mem
  rw [insert_eq] at among
  rcases Entries.mem_insert among with rfl | among
  · exact .inl rfl
  · exact .inr (List.mem_map_of_mem among)

end Json.Members

end GuestFleet
