import GuestFleet.Json.Parser
import GuestFleet.Json.Printer
import GuestFleet.Proofs.Json.MergePatch

/-!
# Values read back from their text

A value whose integers fit in 64 bits, whose objects are in key order and that does not nest too
deep is read back from its text. Binary64 numbers are left out: objects of the API hold none.
-/

namespace GuestFleet.Json

open Number (Binary64)

/-- A value that is read back from its text when `depth` levels of nesting are allowed. -/
inductive Printable : Nat -> Json -> Prop where
  | null {depth : Nat} : Printable depth .null
  | bool {depth : Nat} (value : Bool) : Printable depth (.bool value)
  | integer {depth : Nat} {value : Int} (low : -0x8000000000000000 ≤ value)
      (high : value ≤ 0xffffffffffffffff) : Printable depth (.integer value)
  | string {depth : Nat} (text : String) : Printable depth (.string text)
  | array {depth : Nat} {items : List Json} (within : ∀ item ∈ items, Printable depth item) :
      Printable (depth + 1) (.array items)
  | object {depth : Nat} {members : Members} (sorted : Members.Sorted members)
      (within : ∀ member ∈ members, Printable depth member.2) :
      Printable (depth + 1) (.object members)

/-- What can be printed within some depth can be printed within a greater one. -/
theorem Printable.mono {depth more : Nat} {value : Json} (printable : Printable depth value)
    (le : depth ≤ more) : Printable more value := by
  induction printable generalizing more with
  | null => exact .null
  | bool value => exact .bool value
  | integer low high => exact .integer low high
  | string text => exact .string text
  | array _ ih =>
    obtain ⟨more, rfl⟩ := Nat.exists_eq_add_of_lt le
    exact .array fun item mem => ih item mem (by omega)
  | object sorted _ ih =>
    obtain ⟨more, rfl⟩ := Nat.exists_eq_add_of_lt le
    exact .object sorted fun member mem => ih member mem (by omega)

namespace Parser

/-! ## Where values start and end -/

/-- What may follow a value: nothing, a comma or a closing bracket. -/
def Delimited (rest : List Char) : Prop :=
  ∀ c ∈ rest.head?, c = ',' ∨ c = ']' ∨ c = '\x7d'

/-- The end of a text ends a number. -/
theorem delimited_nil : Delimited [] := fun _ mem => by cases mem

/-- A text ends a number before it when it begins with a mark. -/
theorem delimited_cons {c : Char} {rest : List Char} :
    Delimited (c :: rest) <-> c = ',' ∨ c = ']' ∨ c = '\x7d' := by
  simp [Delimited]

/-- A character that is no white space is not skipped. -/
theorem skipSpace_cons {c : Char} {rest : List Char} (isText : isSpace c = false) :
    skipSpace (c :: rest) = c :: rest :=
  List.dropWhile_cons_of_neg (by rw [isText]; exact Bool.false_ne_true)

/-- There are at least as many characters as parts, when no part is empty. -/
theorem length_le_flatMap {α : Type} (part : α -> List Char) (some : ∀ item, part item ≠ [])
    (list : List α) : list.length ≤ (list.flatMap part).length := by
  induction list with
  | nil => exact Nat.le_refl 0
  | cons item list ih =>
    have one := List.length_pos_iff.2 (some item)
    rw [List.flatMap_cons, List.length_append, List.length_cons]
    omega

/-! ## Strings -/

/-- Characters below the blank are escaped by their number, in four digits. -/
theorem escape_control {n : Nat} (isControl : n < 0x20) (rest : List Char) :
    escape ('u' :: '0' :: '0' :: Nat.digitChar (n / 16) :: Nat.digitChar (n % 16) :: rest) =
      .ok (Char.ofNat n, rest) := by
  have digits : ∀ n < 0x20, hexValue (Nat.digitChar (n / 16)) = some (n / 16) ∧
      hexValue (Nat.digitChar (n % 16)) = some (n % 16) := by decide
  obtain ⟨high, low⟩ := digits n isControl
  have zero : hexValue '0' = some 0 := rfl
  have whole : ((0 * 16 + 0) * 16 + n / 16) * 16 + n % 16 = n := by omega
  have noTrailing : ¬ (0xdc00 ≤ n ∧ n ≤ 0xdfff) := by omega
  have noLeading : ¬ (0xd800 ≤ n ∧ n ≤ 0xdbff) := by omega
  simp only [escape, hexEscape, zero, high, low, whole, Bool.and_eq_true, decide_eq_true_eq,
    noTrailing, noLeading, if_false]

/-- An escaped character is read as one character. -/
theorem stringBody_escapeChar (c : Char) (fuel : Nat) (read rest : List Char) :
    stringBody (fuel + 1) read (escapeChar c ++ rest) = stringBody fuel (c :: read) rest := by
  unfold escapeChar
  split_ifs with quote backslash backspace feed line carriage tab control
  · subst quote
    rfl
  · subst backslash
    rfl
  · subst backspace
    rfl
  · subst feed
    rfl
  · subst line
    rfl
  · subst carriage
    rfl
  · subst tab
    rfl
  · have read := escape_control control rest
    rw [Char.ofNat_toNat] at read
    simp only [List.cons_append, List.nil_append, stringBody, read]
  · have plain : ¬ c.toNat < 0x20 := control
    rw [List.singleton_append, stringBody]
    split
    · simp_all
    · simp_all
    · simp_all
    · simp_all

/-- The inside of a string is read up to the closing quote. -/
theorem stringBody_escaped (text rest read : List Char) {fuel : Nat} (enough : text.length < fuel) :
    stringBody fuel read (text.flatMap escapeChar ++ '"' :: rest) =
      .ok (String.ofList (read.reverse ++ text), rest) := by
  induction text generalizing fuel read with
  | nil =>
    obtain ⟨fuel, rfl⟩ := Nat.exists_eq_add_of_lt enough
    rw [List.append_nil]
    rfl
  | cons c text ih =>
    obtain ⟨fuel, rfl⟩ := Nat.exists_eq_add_of_lt enough
    rw [List.flatMap_cons, List.append_assoc, stringBody_escapeChar, ih]
    · simp
    · simp only [List.length_cons]
      omega

/-- The text of a string is read after its opening quote. -/
theorem string_chars (text : String) (rest : List Char) :
    string (text.toList.flatMap escapeChar ++ '"' :: rest) = .ok (text, rest) := by
  have shorter : text.toList.length ≤ (text.toList.flatMap escapeChar).length := by
    refine length_le_flatMap escapeChar (fun c => ?_) _
    unfold escapeChar
    split_ifs <;> exact List.cons_ne_nil _ _
  have enough : text.toList.length <
      (text.toList.flatMap escapeChar ++ '"' :: rest).length + 1 := by
    rw [List.length_append]
    omega
  rw [string, stringBody_escaped text.toList rest [] enough]
  simp

/-! ## Integers -/

/-- A digit is no white space. -/
theorem isSpace_digit {c : Char} (isDigit : c.isDigit = true) : isSpace c = false := by
  by_contra isSpace
  simp only [Parser.isSpace, Bool.not_eq_false, Bool.or_eq_true, beq_iff_eq] at isSpace
  rcases isSpace with ((rfl | rfl) | rfl) | rfl <;> cases isDigit

/-- Digits do not follow a value. -/
theorem Delimited.not_digit {rest : List Char} (delimited : Delimited rest) {c : Char}
    (mem : c ∈ rest.head?) : c.isDigit = false := by
  rcases delimited c mem with rfl | rfl | rfl <;> rfl

/-- What follows a value does not go on with a number. -/
theorem number_delimited {rest : List Char} (delimited : Delimited rest) (positive : Bool)
    (significand : Nat) :
    number positive significand rest =
      if positive then .ok (.integer significand, rest)
      else if significand = 0 || significand > 0x8000000000000000 then
        .ok (.real (Binary64.ofFloat (-(Float.ofNat significand))), rest)
      else .ok (.integer (-significand), rest) := by
  unfold number
  split
  · rcases delimited_cons.1 delimited with same | same | same <;> cases same
  · rcases delimited_cons.1 delimited with same | same | same <;> cases same
  · rcases delimited_cons.1 delimited with same | same | same <;> cases same
  · rfl

/-- Digits are read one by one, as long as their value fits. -/
theorem significandDigits_digits (positive : Bool) {digits rest : List Char} {significand : Nat}
    (areDigits : ∀ c ∈ digits, c.isDigit = true) (delimited : Delimited rest)
    (fits : Nat.ofDigitChars 10 digits significand ≤ significandLimit) :
    significandDigits positive significand (digits ++ rest) =
      number positive (Nat.ofDigitChars 10 digits significand) rest := by
  induction digits generalizing significand with
  | nil =>
    rw [List.nil_append]
    cases rest with
    | nil => rfl
    | cons c rest =>
      rw [significandDigits, delimited.not_digit rfl]
      rfl
  | cons c digits ih =>
    rw [List.forall_mem_cons] at areDigits
    have next : Nat.ofDigitChars 10 (c :: digits) significand =
        Nat.ofDigitChars 10 digits (significand * 10 + (c.toNat - 48)) := by
      rw [Nat.ofDigitChars_cons, Nat.mul_comm]
      rfl
    rw [next] at fits ⊢
    have grows : significand * 10 + (c.toNat - 48) ≤
        Nat.ofDigitChars 10 digits (significand * 10 + (c.toNat - 48)) := by
      rw [Nat.ofDigitChars_eq_ofDigitChars_zero]
      have power : 0 < 10 ^ digits.length := Nat.pow_pos (by decide)
      exact Nat.le_add_right_of_le (Nat.le_mul_of_pos_left _ power)
    have small : ¬ significand * 10 + (c.toNat - 48) > significandLimit := by omega
    rw [List.cons_append, significandDigits, areDigits.1, if_pos rfl]
    simp only [small, if_false]
    exact ih areDigits.2 fits

/-- A positive number is not written with a zero in front. -/
theorem toDigits_head {n : Nat} (positive : 0 < n) :
    ∃ c digits, Nat.toDigits 10 n = c :: digits ∧ c ≠ '0' := by
  induction n using Nat.strongRecOn with
  | ind n ih =>
    by_cases small : n < 10
    · have nonzero : ∀ n < 10, 0 < n -> Nat.digitChar n ≠ '0' := by decide
      exact ⟨_, [], Nat.toDigits_of_lt_base small, nonzero n small positive⟩
    · obtain ⟨c, digits, written, ne⟩ := ih (n / 10) (by omega) (by omega)
      refine ⟨c, digits ++ [Nat.digitChar (n % 10)], ?_, ne⟩
      rw [Nat.toDigits_of_base_le (by decide) (by omega), written, List.cons_append]

/-- A number is read after its sign as its digits say. -/
theorem unsignedNumber_digits (positive : Bool) {n : Nat} (fits : n ≤ significandLimit)
    {rest : List Char} (delimited : Delimited rest) :
    unsignedNumber positive (Nat.toDigits 10 n ++ rest) = number positive n rest := by
  rcases Nat.eq_zero_or_pos n with rfl | nonzero
  · cases rest with
    | nil => rfl
    | cons c rest =>
      have noDigit := delimited.not_digit (c := c) rfl
      show unsignedNumber positive ('0' :: c :: rest) = _
      rw [unsignedNumber, noDigit]
      rfl
  · obtain ⟨c, digits, written, ne⟩ := toDigits_head nonzero
    have value : Nat.ofDigitChars 10 (c :: digits) 0 = n := by
      rw [← written]
      exact Nat.ofDigitChars_toDigits (by decide) (by decide)
    have areDigits : ∀ d ∈ c :: digits, d.isDigit = true := by
      intro d mem
      rw [← written] at mem
      exact Nat.isDigit_of_mem_toDigits (by decide) (by decide) mem
    rw [List.forall_mem_cons] at areDigits
    have first : Nat.ofDigitChars 10 digits (c.toNat - 48) = n := by
      rw [← value, Nat.ofDigitChars_cons]
      simp
    have reads : significandDigits positive (c.toNat - 48) (digits ++ rest) =
        number positive (Nat.ofDigitChars 10 digits (c.toNat - 48)) rest :=
      significandDigits_digits positive areDigits.2 delimited (first.symm ▸ fits)
    rw [first] at reads
    rw [written, List.cons_append, unsignedNumber]
    · rw [areDigits.1, if_pos rfl, reads]
    · exact fun same => ne same

/-! ## Arrays and objects -/

/-- The text of a value starts with a character that neither is skipped nor closes a list. -/
theorem chars_head {depth : Nat} {value : Json} (printable : Printable depth value) :
    ∃ c more, chars value = c :: more ∧ isSpace c = false ∧ c ≠ ']' := by
  cases printable with
  | null => exact ⟨_, _, rfl, rfl, by decide⟩
  | bool value => cases value <;> exact ⟨_, _, rfl, rfl, by decide⟩
  | @integer _ value low high =>
    cases value with
    | negSucc n => exact ⟨_, _, rfl, rfl, by decide⟩
    | ofNat n =>
      have areDigits : ∀ c ∈ Nat.toDigits 10 n, c.isDigit = true :=
        fun c mem => Nat.isDigit_of_mem_toDigits (by decide) (by decide) mem
      cases written : Nat.toDigits 10 n with
      | nil => exact absurd written Nat.toDigits_ne_nil
      | cons c digits =>
        have isDigit : c.isDigit = true := areDigits c (written ▸ List.mem_cons_self)
        refine ⟨c, digits, written, ?_, ?_⟩
        · exact isSpace_digit isDigit
        · rintro rfl
          cases isDigit
  | string text => exact ⟨_, _, rfl, rfl, by decide⟩
  | array within => exact ⟨_, _, rfl, rfl, by decide⟩
  | object sorted within => exact ⟨_, _, rfl, rfl, by decide⟩

section

variable (read : List Char -> Reading Json)

/-- A reader that gets a value back from its text. -/
def Reads (value : Json) : Prop :=
  ∀ rest, Delimited rest -> read (chars value ++ rest) = .ok (value, rest)

variable {read}

/-- The text of items is that of the first and those of the others, each after a comma. -/
theorem itemsChars_cons (item : Json) (items : List Json) :
    itemsChars (item :: items) = chars item ++ items.flatMap fun item => ',' :: chars item := by
  induction items generalizing item with
  | nil => simp [itemsChars]
  | cons next items ih =>
    rw [itemsChars, ih next, List.flatMap_cons, List.cons_append]
    exact List.cons_ne_nil next items

/-- An array goes on after a comma. -/
theorem itemEntry_comma {c : Char} (more : List Char) (isText : isSpace c = false) (ne : c ≠ ']') :
    itemEntry false (',' :: c :: more) = .ok (.next (c :: more)) := by
  have comma : skipSpace (',' :: c :: more) = ',' :: c :: more := skipSpace_cons rfl
  have next : skipSpace (c :: more) = c :: more := skipSpace_cons isText
  rw [itemEntry, comma]
  simp [next, ne]

/-- An array that does not end at once starts with an item. -/
theorem itemEntry_first {c : Char} (more : List Char) (isText : isSpace c = false) (ne : c ≠ ']') :
    itemEntry true (c :: more) = .ok (.next (c :: more)) := by
  rw [itemEntry, skipSpace_cons isText]
  simp

/-- What follows an item is a comma or the end of the array. -/
theorem delimited_items (items : List Json) (rest : List Char) :
    Delimited ((items.flatMap fun item => ',' :: chars item) ++ ']' :: rest) := by
  cases items with
  | nil => exact delimited_cons.2 (.inr (.inl rfl))
  | cons item items => exact delimited_cons.2 (.inl rfl)

/-- Items are read one after the other. -/
theorem items_chars {depth : Nat} {list : List Json}
    (printable : ∀ item ∈ list, Printable depth item) (reads : ∀ item ∈ list, Reads read item)
    (before : List Json) (rest : List Char) {fuel : Nat} (enough : list.length < fuel) :
    items read fuel false before ((list.flatMap fun item => ',' :: chars item) ++ ']' :: rest) =
      .ok (before.reverse ++ list, rest) := by
  induction list generalizing before fuel with
  | nil =>
    obtain ⟨fuel, rfl⟩ := Nat.exists_eq_add_of_lt enough
    rw [List.append_nil]
    rfl
  | cons item list ih =>
    obtain ⟨fuel, rfl⟩ := Nat.exists_eq_add_of_lt enough
    rw [List.forall_mem_cons] at printable reads
    obtain ⟨c, more, written, isText, ne⟩ := chars_head printable.1
    have reading := reads.1 _ (delimited_items list rest)
    have entry := itemEntry_comma
      (more ++ ((list.flatMap fun item => ',' :: chars item) ++ ']' :: rest)) isText ne
    rw [← List.cons_append, ← written] at entry
    rw [List.flatMap_cons, List.append_assoc, List.cons_append, items, entry]
    simp only [reading]
    rw [ih printable.2 reads.2]
    · simp
    · simp only [List.length_cons]
      omega

/-- The text of a member. -/
def memberChars (member : String × Json) : List Char :=
  stringChars member.1 ++ ':' :: chars member.2

/-- The text of members is that of the first and those of the others, each after a comma. -/
theorem membersChars_cons (member : String × Json) (members : Members) :
    membersChars (member :: members) =
      memberChars member ++ members.flatMap fun member => ',' :: memberChars member := by
  induction members generalizing member with
  | nil => simp [membersChars, memberChars]
  | cons next members ih =>
    rw [membersChars, ih next, List.flatMap_cons, List.cons_append]
    · rfl
    · exact List.cons_ne_nil next members

/-- What follows a member is a comma or the end of the object. -/
theorem delimited_members (members : Members) (rest : List Char) :
    Delimited ((members.flatMap fun member => ',' :: memberChars member) ++ '\x7d' :: rest) := by
  cases members with
  | nil => exact delimited_cons.2 (.inr (.inr rfl))
  | cons member members => exact delimited_cons.2 (.inl rfl)

/-- A member is read after the quote of its key. -/
theorem member_chars {entry : String × Json} (reads : Reads read entry.2) {rest : List Char}
    (delimited : Delimited rest) :
    member read (entry.1.toList.flatMap escapeChar ++ '"' :: ':' :: (chars entry.2 ++ rest)) =
      .ok (entry, rest) := by
  have key := string_chars entry.1 (':' :: (chars entry.2 ++ rest))
  have colon : skipSpace (':' :: (chars entry.2 ++ rest)) = ':' :: (chars entry.2 ++ rest) :=
    skipSpace_cons rfl
  simp only [member, key, colon, reads rest delimited]

/-- The text of a member starts with the quote of its key. -/
theorem memberChars_append (entry : String × Json) (rest : List Char) :
    memberChars entry ++ rest = '"' ::
      (entry.1.toList.flatMap escapeChar ++ '"' :: ':' :: (chars entry.2 ++ rest)) := by
  simp [memberChars, stringChars]

/-- Members are read one after the other, and put in order. -/
theorem members_chars {list : Members} (reads : ∀ member ∈ list, Reads read member.2)
    (before : Members) (rest : List Char) {fuel : Nat} (enough : list.length < fuel) :
    members read fuel false before
        ((list.flatMap fun member => ',' :: memberChars member) ++ '\x7d' :: rest) =
      .ok (list.foldl (fun sorted member => Members.insert member.1 member.2 sorted) before,
        rest) := by
  induction list generalizing before fuel with
  | nil =>
    obtain ⟨fuel, rfl⟩ := Nat.exists_eq_add_of_lt enough
    rfl
  | cons entry list ih =>
    obtain ⟨fuel, rfl⟩ := Nat.exists_eq_add_of_lt enough
    rw [List.forall_mem_cons] at reads
    have reading := member_chars reads.1 (delimited_members list rest)
    rw [List.flatMap_cons, List.append_assoc, List.cons_append, memberChars_append, members]
    have entered (more : List Char) : memberEntry false (',' :: '"' :: more) = .ok (.next more) :=
      rfl
    simp only [entered, reading]
    refine (ih reads.2 _ ?_).trans rfl
    simp only [List.length_cons]
    omega

end

/-! ## Values -/

/-- An array is read when its items are. -/
theorem value_array {depth limit : Nat} {list : List Json}
    (printable : ∀ item ∈ list, Printable depth item)
    (reads : ∀ item ∈ list, Reads (value (limit + 1)) item) :
    Reads (value (limit + 2)) (.array list) := by
  intro rest _
  have opened : value (limit + 2) (chars (.array list) ++ rest) =
      (items (value (limit + 1)) ((itemsChars list ++ ']' :: rest).length + 1) true []
        (itemsChars list ++ ']' :: rest)).map fun found => (.array found.1, found.2) := by
    rw [chars, List.cons_append, List.append_assoc, List.singleton_append]
    rfl
  rw [opened]
  cases list with
  | nil => rfl
  | cons item list =>
    rw [List.forall_mem_cons] at printable reads
    obtain ⟨c, more, written, isText, ne⟩ := chars_head printable.1
    have reading := reads.1 _ (delimited_items list rest)
    have entry := itemEntry_first
      (more ++ ((list.flatMap fun item => ',' :: chars item) ++ ']' :: rest)) isText ne
    rw [← List.cons_append, ← written] at entry
    have shorter := length_le_flatMap (fun item => ',' :: chars item)
      (fun _ => List.cons_ne_nil _ _) list
    have enough : list.length <
        (chars item ++ ((list.flatMap fun item => ',' :: chars item) ++ ']' :: rest)).length := by
      simp only [List.length_append, List.length_cons]
      omega
    rw [itemsChars_cons, List.append_assoc, items, entry]
    simp only [reading]
    rw [items_chars printable.2 reads.2 [item] rest enough]
    rfl

/-- An object is read when the values of its members are; its members are put in order. -/
theorem value_object {limit : Nat} {list : Members}
    (reads : ∀ member ∈ list, Reads (value (limit + 1)) member.2) (rest : List Char) :
    value (limit + 2) (chars (.object list) ++ rest) = .ok (.ofMembers list, rest) := by
  have opened : value (limit + 2) (chars (.object list) ++ rest) =
      (members (value (limit + 1)) ((membersChars list ++ '\x7d' :: rest).length + 1) true []
        (membersChars list ++ '\x7d' :: rest)).map fun found => (.object found.1, found.2) := by
    rw [chars, List.cons_append, List.append_assoc, List.singleton_append]
    rfl
  rw [opened]
  cases list with
  | nil => rfl
  | cons entry list =>
    rw [List.forall_mem_cons] at reads
    have reading := member_chars reads.1 (delimited_members list rest)
    have shorter := length_le_flatMap (fun member => ',' :: memberChars member)
      (fun _ => List.cons_ne_nil _ _) list
    have enough : list.length < (memberChars entry ++
        ((list.flatMap fun member => ',' :: memberChars member) ++ '\x7d' :: rest)).length := by
      simp only [List.length_append, List.length_cons]
      omega
    have entered (more : List Char) : memberEntry true ('"' :: more) = .ok (.next more) := rfl
    have later := members_chars reads.2 (Members.insert entry.1 entry.2 []) rest enough
    rw [membersChars_cons, List.append_assoc, members]
    rw [memberChars_append] at later ⊢
    simp only [entered, reading]
    rw [later]
    rfl

end Parser

/-- A member that comes after all others in the order is inserted at the end. -/
theorem Members.insert_last {members : Members} {key : String}
    (last : ∀ member ∈ members, member.1 < key) (value : Json) :
    Members.insert key value members = members ++ [(key, value)] := by
  induction members with
  | nil => rfl
  | cons head rest ih =>
    obtain ⟨k, v⟩ := head
    rw [List.forall_mem_cons] at last
    rw [Members.insert, if_neg (ne_of_gt last.1), if_neg (lt_asymm last.1), ih last.2,
      List.cons_append]

/-- Members in order are not moved when they are put in order. -/
theorem Members.ofList_sorted {members : Members} (sorted : Members.Sorted members) :
    Members.ofList members = members := by
  have appended (list before : Members) (sorted : Members.Sorted (before ++ list)) :
      list.foldl (fun sorted member => Members.insert member.1 member.2 sorted) before =
        before ++ list := by
    induction list generalizing before with
    | nil => exact (List.append_nil before).symm
    | cons member list ih =>
      have last : ∀ other ∈ before, other.1 < member.1 := by
        intro other mem
        rw [Members.Sorted, Entries.Sorted, List.map_append, List.pairwise_append] at sorted
        exact sorted.2.2 _ (List.mem_map_of_mem mem) _ List.mem_cons_self
      rw [List.foldl_cons, Members.insert_last last, ih, List.append_assoc, List.singleton_append]
      rwa [List.append_assoc, List.singleton_append]
  exact appended members [] sorted

/-- Members under different keys may be inserted in any order. -/
theorem Members.insert_comm {members : Members} (sorted : Members.Sorted members)
    {j k : String} (ne : j ≠ k) (u v : Json) :
    Members.insert j u (Members.insert k v members) =
      Members.insert k v (Members.insert j u members) := by
  refine Entries.Sorted.ext ((sorted.insert k v).insert j u) ((sorted.insert j u).insert k v)
    fun key => ?_
  show Members.find _ key = Members.find _ key
  by_cases first : key = j
  · subst first
    rw [Members.find_insert_self, Members.find_insert_of_ne ne, Members.find_insert_self]
  · rw [Members.find_insert_of_ne first]
    by_cases second : key = k
    · subst second
      rw [Members.find_insert_self, Members.find_insert_self]
    · rw [Members.find_insert_of_ne second, Members.find_insert_of_ne second,
        Members.find_insert_of_ne first]

/-- A member under a key of its own is put in order whenever it comes. -/
theorem Members.ofList_cons {members : Members} {key : String}
    (fresh : key ∉ members.map Prod.fst) (value : Json) :
    Members.ofList ((key, value) :: members) =
      Members.insert key value (Members.ofList members) := by
  have later (list before : Members) (sorted : Members.Sorted before)
      (fresh : key ∉ list.map Prod.fst) :
      list.foldl (fun sorted member => Members.insert member.1 member.2 sorted)
          (Members.insert key value before) =
        Members.insert key value
          (list.foldl (fun sorted member => Members.insert member.1 member.2 sorted) before) := by
    induction list generalizing before with
    | nil => rfl
    | cons member list ih =>
      rw [List.map_cons, List.mem_cons, not_or] at fresh
      rw [List.foldl_cons, List.foldl_cons, Members.insert_comm sorted (Ne.symm fresh.1)]
      exact ih _ (sorted.insert member.1 member.2) fresh.2
  exact later members [] Entries.sorted_nil fresh

namespace Parser

/-- A literal name is read after its first letter. -/
theorem ident_chars (name rest : List Char) : ident (name ++ rest) name = .ok rest := by
  induction name with
  | nil => rw [List.nil_append, ident]
  | cons c name ih => rw [List.cons_append, ident, if_pos rfl, ih]

/-- A number is read from its first digit on. -/
theorem value_digit {limit : Nat} {c : Char} (isDigit : c.isDigit = true) (rest : List Char) :
    value limit (c :: rest) = unsignedNumber true (c :: rest) := by
  unfold value
  rw [skipSpace_cons (isSpace_digit isDigit)]
  split
  case h_1 same => cases same
  case h_9 same =>
    obtain ⟨rfl, rfl⟩ := List.cons.inj same
    rw [if_pos isDigit]
  -- The other values start with letters, signs and brackets.
  all_goals
    next same =>
    obtain ⟨rfl, -⟩ := List.cons.inj same
    cases isDigit

/-- A value is read from its text, whatever follows it, when its nesting is allowed. -/
theorem value_chars {depth limit : Nat} {json : Json} (printable : Printable depth json)
    (allowed : depth < limit) : Reads (value limit) json := by
  induction printable generalizing limit with
  | null =>
    intro rest _
    have name := ident_chars ['u', 'l', 'l'] rest
    rw [value.eq_def]
    exact congrArg (Except.map _) name
  | bool truth =>
    intro rest _
    rw [value.eq_def]
    cases truth with
    | true => exact congrArg (Except.map _) (ident_chars ['r', 'u', 'e'] rest)
    | false => exact congrArg (Except.map _) (ident_chars ['a', 'l', 's', 'e'] rest)
  | @integer _ number low high =>
    intro rest delimited
    cases number with
    | negSucc n =>
      have fits : n + 1 ≤ 0x8000000000000000 := by omega
      have inside : ¬ (n + 1 = 0 ∨ n + 1 > 0x8000000000000000) := by omega
      have reads : unsignedNumber false (Nat.toDigits 10 (n + 1) ++ rest) =
          number false (n + 1) rest :=
        unsignedNumber_digits false (fits.trans (by decide)) delimited
      rw [number_delimited delimited] at reads
      simp only [Bool.false_eq_true, if_false, Bool.or_eq_true, decide_eq_true_eq, inside] at reads
      unfold value
      exact reads
    | ofNat n =>
      have fits : n ≤ significandLimit := Int.ofNat_le.1 high
      have reads := unsignedNumber_digits true fits delimited
      rw [number_delimited delimited, if_pos rfl] at reads
      have text : chars (.integer (.ofNat n)) = Nat.toDigits 10 n := rfl
      rw [text]
      cases written : Nat.toDigits 10 n with
      | nil => exact absurd written Nat.toDigits_ne_nil
      | cons c digits =>
        have isDigit : c.isDigit = true :=
          Nat.isDigit_of_mem_toDigits (by decide) (by decide) (written ▸ List.mem_cons_self)
        rw [written] at reads
        exact (value_digit isDigit _).trans reads
  | string text =>
    intro rest _
    have reads := string_chars text rest
    unfold value
    rw [chars, stringChars, List.cons_append, List.append_assoc, List.singleton_append]
    exact congrArg (Except.map _) reads
  | @array depth items within ih =>
    obtain ⟨limit, rfl⟩ : ∃ more, limit = more + 2 := ⟨limit - 2, by omega⟩
    exact value_array within fun item mem => ih item mem (by omega)
  | @object depth members sorted within ih =>
    obtain ⟨limit, rfl⟩ : ∃ more, limit = more + 2 := ⟨limit - 2, by omega⟩
    intro rest _
    have reads : ∀ member ∈ members, Reads (value (limit + 1)) member.2 :=
      fun member mem => ih member mem (by omega)
    rw [value_object reads, ofMembers, Members.ofList_sorted sorted]

end Parser

/-! ## Texts -/

/-- What the reader of values makes of a whole text is the value of the text. -/
theorem parse_of_value {chars : List Char} {json : Json}
    (read : Parser.value 128 chars = .ok (json, [])) : parse (String.ofList chars) = .ok json := by
  rw [parse, String.toList_ofList, Parser.document, read]
  rfl

/-- A value is read back from its text. -/
theorem parse_text {depth : Nat} {json : Json} (printable : Printable depth json)
    (allowed : depth < 128) : parse json.text = .ok json := by
  have read := Parser.value_chars printable allowed [] Parser.delimited_nil
  rw [List.append_nil] at read
  exact parse_of_value read

/-- An object is read back with its members in order, whatever the order they were written in. -/
theorem parse_text_object {depth : Nat} {members : Members}
    (within : ∀ member ∈ members, Printable depth member.2) (allowed : depth < 127) :
    parse (text (.object members)) = .ok (.ofMembers members) := by
  have reads : ∀ member ∈ members, Parser.Reads (Parser.value 127) member.2 :=
    fun member mem => Parser.value_chars (within member mem) allowed
  have read := Parser.value_object reads []
  rw [List.append_nil] at read
  exact parse_of_value read

end GuestFleet.Json
