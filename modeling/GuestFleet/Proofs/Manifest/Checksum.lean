import GuestFleet.Manifest.CloudConfig
import GuestFleet.Proofs.Kube.Bytes

/-!
# What checksums tell

Every key and every text in the bytes of a checksum ends with a zero. No other character than the
one with the number zero has a zero byte, so that data without this character is read off its bytes,
and its checksum tells it unless digests collide.
-/

namespace GuestFleet

open Kube (StringMap)

/-! ## Digits and bytes -/

/-- A text is told by its bytes. -/
theorem toUTF8_injective {a b : String} (same : a.toUTF8.toList = b.toUTF8.toList) : a = b := by
  rw [byteArray_toList, byteArray_toList] at same
  exact String.toByteArray_inj.1 (ByteArray.ext (Array.toList_inj.1 same))

/-- Two digits tell a byte. -/
theorem hexPair_injective {a b : UInt8}
    (high : Nat.digitChar (a.toNat / 16) = Nat.digitChar (b.toNat / 16))
    (low : Nat.digitChar (a.toNat % 16) = Nat.digitChar (b.toNat % 16)) : a = b := by
  have digits : ∀ m < 16, ∀ n < 16, Nat.digitChar m = Nat.digitChar n -> m = n := by decide
  have boundA := a.toNat_lt
  have boundB := b.toNat_lt
  have quotients := digits _ (by omega) _ (by omega) high
  have remainders := digits _ (by omega) _ (by omega) low
  refine UInt8.toNat_inj.1 ?_
  omega

/-- Bytes are told by their hexadecimal digits. -/
theorem hex_injective {a b : List UInt8} (same : Digest.hex a = Digest.hex b) : a = b := by
  have digits := String.ofList_injective same
  clear same
  induction a generalizing b with
  | nil =>
    cases b with
    | nil => rfl
    | cons byte rest => cases digits
  | cons byte rest ih =>
    cases b with
    | nil => cases digits
    | cons other others =>
      simp only [List.flatMap_cons, List.cons_append, List.nil_append, List.cons.injEq] at digits
      obtain ⟨high, low, tails⟩ := digits
      rw [hexPair_injective high low, ih tails]

/-! ## Ends of texts -/

/-- The byte of a number within the range is zero only for zero. -/
theorem zero_ne_ofNat {n : Nat} (positive : 0 < n) (small : n < 256) :
    (0 : UInt8) ≠ UInt8.ofNat n := by
  intro same
  have value := congrArg UInt8.toNat same
  rw [UInt8.toNat_ofNat_of_lt' small] at value
  exact absurd value (Nat.ne_of_lt positive)

/-- The bytes of a character of more than one byte have their high bits set. -/
theorem char_of_zero_byte {c : Char} (zero : 0 ∈ String.utf8EncodeChar c) : c = '\x00' := by
  rw [String.utf8EncodeChar] at zero
  by_cases one : c.val.toNat ≤ 127
  · rw [if_pos one, List.mem_singleton] at zero
    refine Char.ext (UInt32.toNat_inj.1 ?_)
    by_contra positive
    exact zero_ne_ofNat (Nat.pos_of_ne_zero positive) (by omega) zero
  · rw [if_neg one] at zero
    split_ifs at zero
    all_goals
      simp (disch := omega) only [List.mem_cons, List.not_mem_nil, zero_ne_ofNat, or_self] at zero

/-- The text has no character with the number zero. -/
def IsZeroFree (text : String) : Prop := '\x00' ∉ text.toList

instance (text : String) : Decidable (IsZeroFree text) := inferInstanceAs (Decidable (¬ _))

/-- A text without the zero character has no zero byte. -/
theorem IsZeroFree.zero_notMem {text : String} (zeroFree : IsZeroFree text) :
    0 ∉ text.toUTF8.toList := by
  have chars : text.toUTF8.toList = text.toList.flatMap String.utf8EncodeChar := by
    conv_lhs => rw [← String.ofList_toList (s := text)]
    rw [byteArray_toList]
    show text.toList.utf8Encode.data.toList = _
    rw [List.utf8Encode, List.toList_data_toByteArray]
  rw [chars, List.mem_flatMap]
  rintro ⟨c, mem, zero⟩
  exact zeroFree (char_of_zero_byte zero ▸ mem)

/-- The first mark ends what stands before it. -/
theorem before_mark_injective {α : Type} [DecidableEq α] {mark : α} {a b x y : List α}
    (inA : mark ∉ a) (inB : mark ∉ b) (same : a ++ mark :: x = b ++ mark :: y) :
    a = b ∧ x = y := by
  have parts := congrArg (List.splitOn mark) same
  rw [List.splitOn_append_cons_self_of_not_mem inA,
    List.splitOn_append_cons_self_of_not_mem inB] at parts
  obtain rfl := (List.cons.inj parts).1
  exact ⟨rfl, (List.cons.inj (List.append_cancel_left same)).2⟩

/-! ## Bytes of entries -/

/-- An entry adds its key and its text, each with a zero byte behind it. -/
theorem checksumInput_cons (key text : String) (rest : StringMap) :
    checksumInput ((key, text) :: rest) =
      key.toUTF8.toList ++ 0 :: (text.toUTF8.toList ++ 0 :: checksumInput rest) := by
  simp only [checksumInput, List.flatMap_cons, List.append_assoc, List.cons_append,
    List.nil_append]

/-- The bytes of a single entry tell the text under its key. -/
theorem checksumInput_single {key one other : String}
    (same : checksumInput [(key, one)] = checksumInput [(key, other)]) : one = other := by
  simp only [checksumInput, List.flatMap_cons, List.flatMap_nil, List.append_nil] at same
  have texts := (List.cons.inj (List.append_cancel_left same)).2
  exact toUTF8_injective (List.append_cancel_right texts)

/-- No key and no text has a character with the number zero. -/
def IsZeroFreeMap (data : StringMap) : Prop :=
  ∀ entry ∈ data, IsZeroFree entry.1 ∧ IsZeroFree entry.2

/-- The zeros are the ends of keys and texts, so the entries are read off one by one. -/
theorem checksumInput_injective {first second : StringMap} (zeroFree : IsZeroFreeMap first)
    (zeroFreeSecond : IsZeroFreeMap second) (same : checksumInput first = checksumInput second) :
    first = second := by
  induction first generalizing second with
  | nil =>
    cases second with
    | nil => rfl
    | cons entry rest =>
      rw [checksumInput_cons] at same
      exact absurd same.symm (by simp [checksumInput])
  | cons entry rest ih =>
    obtain ⟨key, text⟩ := entry
    cases second with
    | nil =>
      rw [checksumInput_cons] at same
      exact absurd same (by simp [checksumInput])
    | cons other others =>
      obtain ⟨otherKey, otherText⟩ := other
      obtain ⟨⟨inKey, inText⟩, inRest⟩ := List.forall_mem_cons.1 zeroFree
      obtain ⟨⟨inOtherKey, inOtherText⟩, inOthers⟩ := List.forall_mem_cons.1 zeroFreeSecond
      rw [checksumInput_cons, checksumInput_cons] at same
      obtain ⟨keys, afterKeys⟩ :=
        before_mark_injective inKey.zero_notMem inOtherKey.zero_notMem same
      obtain ⟨texts, tails⟩ :=
        before_mark_injective inText.zero_notMem inOtherText.zero_notMem afterKeys
      obtain rfl : key = otherKey := toUTF8_injective keys
      obtain rfl : text = otherText := toUTF8_injective texts
      rw [ih inRest inOthers tails]

/-- The bytes of two maps without zeros are the same if, and only if, the maps are. So maps with the
same checksum are the same, unless their bytes are different messages with one digest. -/
theorem checksumInput_eq_iff {first second : StringMap} (zeroFree : IsZeroFreeMap first)
    (zeroFreeSecond : IsZeroFreeMap second) :
    (checksumInput first = checksumInput second <-> first = second) ∧
      (checksum first = checksum second -> first = second ∨
        checksumInput first ≠ checksumInput second ∧
          Digest.sha256 (checksumInput first) = Digest.sha256 (checksumInput second)) := by
  have told : checksumInput first = checksumInput second <-> first = second :=
    ⟨checksumInput_injective zeroFree zeroFreeSecond, congrArg checksumInput⟩
  refine ⟨told, fun same => ?_⟩
  by_cases sameData : first = second
  · exact .inl sameData
  · exact .inr ⟨fun sameInput => sameData (told.1 sameInput), hex_injective same⟩

/-- Empty texts and texts in another place are told apart. -/
theorem checksumInput_eq_iff_moved :
    let first : StringMap := [("a", ""), ("b", "é"), ("c", "")]
    let second : StringMap := [("a", "b"), ("é", ""), ("c", "")]
    (IsZeroFreeMap first ∧ IsZeroFreeMap second) ∧
      checksumInput first ≠ checksumInput second := by
  intro first second
  have zeroFree : IsZeroFreeMap first := by simp only [first, IsZeroFreeMap]; decide
  have zeroFreeSecond : IsZeroFreeMap second := by simp only [second, IsZeroFreeMap]; decide
  refine ⟨⟨zeroFree, zeroFreeSecond⟩, fun same => ?_⟩
  have sameData := (checksumInput_eq_iff zeroFree zeroFreeSecond).1.1 same
  exact absurd sameData (by decide)

/-- A zero within a text looks like its end. -/
example : checksumInput [("a", "b\x00c\x00d")] = checksumInput [("a", "b"), ("c", "d")] := by
  cbv

end GuestFleet
