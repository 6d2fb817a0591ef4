import GuestFleet.Kube.Bytes
import GuestFleet.Proofs.Json.Exact

/-!
# Byte strings that are read back

Three bytes are read back from the four digits that stand for them, and the one or two bytes at the
end from the digits and the padding after them. Digits and padding are single bytes of the text.
-/

namespace GuestFleet

/-! ## Texts as bytes -/

/-- The list of a byte array, which is built by a loop, is that of its data. -/
theorem byteArray_toList (bytes : ByteArray) : bytes.toList = bytes.data.toList := by
  have loop (i : Nat) (seen : List UInt8) : ByteArray.toList.loop bytes i seen =
      seen.reverse ++ bytes.data.toList.drop i := by
    induction left : bytes.size - i generalizing i seen with
    | zero =>
      rw [ByteArray.toList.loop, if_neg (by omega), List.drop_eq_nil_of_le, List.append_nil]
      show bytes.data.size ≤ i
      exact Nat.le_of_sub_eq_zero left
    | succ n ih =>
      have within : i < bytes.size := by omega
      have inside : i < bytes.data.toList.length := within
      rw [ByteArray.toList.loop, if_pos within, ih (i + 1) _ (by omega), List.reverse_cons,
        List.append_assoc, List.singleton_append, List.drop_eq_getElem_cons inside]
      have here : bytes.get! i = bytes.data.toList[i] := getElem!_pos bytes.data i within
      rw [here]
  exact loop 0 []

/-- A character of one byte. -/
def IsAscii (c : Char) : Prop := c.toNat ≤ 127

/-- The byte of a character of one byte. -/
def byteOf (c : Char) : UInt8 := UInt8.ofNat c.toNat

/-- A text of such characters has one byte for each of them. -/
theorem toUTF8_ascii {chars : List Char} (ascii : ∀ c ∈ chars, IsAscii c) :
    (String.ofList chars).toUTF8.toList = chars.map byteOf := by
  rw [byteArray_toList]
  show chars.utf8Encode.data.toList = _
  rw [List.utf8Encode, List.toList_data_toByteArray]
  induction chars with
  | nil => rfl
  | cons c chars ih =>
    rw [List.forall_mem_cons] at ascii
    rw [List.flatMap_cons, ih ascii.2, String.utf8EncodeChar, List.map_cons]
    have one : c.val.toNat ≤ 127 := ascii.1
    simp only [one, if_true, List.singleton_append]
    rfl

namespace Kube.Bytes

/-! ## Digits -/

/-- The value of a digit is read back from its byte. -/
theorem value_digit : ∀ n < 64, value? (Char.ofNat (byteOf (digit n)).toNat) = some n := by
  decide

/-- A digit is a single byte, and no digit is the padding. -/
theorem ascii_digit : ∀ n < 64, (digit n).toNat ≤ 127 ∧ byteOf (digit n) ≠ padding := by
  decide

/-- Wherever it stands, the byte of a digit is taken for that digit. -/
theorem symbol_digit {n : Nat} (below : n < 64) (offset : Nat) :
    symbol offset (byteOf (digit n)) = .ok n := by
  rw [symbol, value_digit n below]

/-- Some digits and the padding after them. -/
def padded (digits : List Nat) (more : Nat) : List Char :=
  digits.map digit ++ List.replicate more '='

/-- The values of the digits that stand for one byte. -/
def one (a : UInt8) : List Nat := [a.toNat / 4, a.toNat % 4 * 16]

/-- The values of the digits that stand for two bytes. -/
def two (a b : UInt8) : List Nat :=
  [a.toNat / 4, a.toNat % 4 * 16 + b.toNat / 16, b.toNat % 16 * 4]

/-- The values of the digits that stand for three bytes. -/
def three (a b c : UInt8) : List Nat :=
  [a.toNat / 4, a.toNat % 4 * 16 + b.toNat / 16, b.toNat % 16 * 4 + c.toNat / 64, c.toNat % 64]

section

variable (a b c : UInt8)

/-- One byte stands for two digits and two characters of padding. -/
theorem encode_one : encode [a] = padded (one a) 2 := by
  simp [encode, padded, one, List.replicate]

/-- Two bytes stand for three digits and one character of padding. -/
theorem encode_two : encode [a, b] = padded (two a b) 1 := by
  simp [encode, padded, two]

/-- Three bytes stand for four digits, and what follows them is encoded on its own. -/
theorem encode_three (rest : List UInt8) :
    encode (a :: b :: c :: rest) = padded (three a b c) 0 ++ encode rest := by
  simp [encode, padded, three]

/-- The digits of one byte are digits. -/
theorem one_below : ∀ n ∈ one a, n < 64 := by
  have := a.toNat_lt
  simp [one]
  omega

/-- The digits of two bytes are digits. -/
theorem two_below : ∀ n ∈ two a b, n < 64 := by
  have := a.toNat_lt
  have := b.toNat_lt
  simp [two]
  omega

/-- The digits of three bytes are digits. -/
theorem three_below : ∀ n ∈ three a b c, n < 64 := by
  have := a.toNat_lt
  have := b.toNat_lt
  have := c.toNat_lt
  simp [three]
  omega

/-- A byte is told by its number. -/
theorem ofNat_eq {n : Nat} (same : n = a.toNat) : UInt8.ofNat n = a := by
  rw [same, UInt8.ofNat_toNat]

/-- The first byte is put together again from the first two digits. -/
theorem first_byte :
    UInt8.ofNat (a.toNat / 4 * 4 + (a.toNat % 4 * 16 + b.toNat / 16) / 16) = a := by
  have := b.toNat_lt
  exact ofNat_eq a (by omega)

/-- The second byte is put together again from the second and the third digit. -/
theorem second_byte : UInt8.ofNat ((a.toNat % 4 * 16 + b.toNat / 16) % 16 * 16 +
    (b.toNat % 16 * 4 + c.toNat / 64) / 4) = b := by
  have := b.toNat_lt
  have := c.toNat_lt
  exact ofNat_eq b (by omega)

/-- The third byte is put together again from the last two digits. -/
theorem third_byte :
    UInt8.ofNat ((b.toNat % 16 * 4 + c.toNat / 64) % 4 * 64 + c.toNat % 64) = c := by
  have := c.toNat_lt
  exact ofNat_eq c (by omega)

end

/-- The digits and the padding come in groups of four. -/
theorem length_encode (bytes : List UInt8) : (encode bytes).length % 4 = 0 := by
  induction bytes using encode.induct with
  | case1 => simp [encode]
  | case2 a => simp [encode]
  | case3 a b => simp [encode]
  | case4 a b c rest ih =>
    simp only [encode, List.length_cons]
    omega

/-- Only nothing is encoded as nothing. -/
theorem encode_ne_nil {bytes : List UInt8} (ne : bytes ≠ []) : encode bytes ≠ [] := by
  cases bytes using encode.induct with
  | case1 => exact absurd rfl ne
  | case2 a => simp [encode]
  | case3 a b => simp [encode]
  | case4 a b c rest => simp [encode]

/-- Digits with their padding are single bytes. -/
theorem ascii_padded {digits : List Nat} (below : ∀ n ∈ digits, n < 64) (more : Nat) :
    ∀ c ∈ padded digits more, IsAscii c := by
  intro c mem
  rcases List.mem_append.1 mem with mem | mem
  · obtain ⟨n, among, rfl⟩ := List.mem_map.1 mem
    exact (ascii_digit n (below n among)).1
  · rw [List.eq_of_mem_replicate mem]
    show (61 : Nat) ≤ 127
    decide

/-- Whatever is encoded is a text of single bytes. -/
theorem ascii_encode (bytes : List UInt8) : ∀ c ∈ encode bytes, IsAscii c := by
  induction bytes using encode.induct with
  | case1 => exact fun _ mem => absurd mem List.not_mem_nil
  | case2 a =>
    rw [encode_one]
    exact ascii_padded (one_below a) 2
  | case3 a b =>
    rw [encode_two]
    exact ascii_padded (two_below a b) 1
  | case4 a b c rest ih =>
    rw [encode_three, List.forall_mem_append]
    exact ⟨ascii_padded (three_below a b c) 0, ih⟩

/-! ## Groups -/

/-- The bytes of padded digits are those of the digits and those of the padding. -/
theorem map_padded (digits : List Nat) (more : Nat) :
    (padded digits more).map byteOf =
      digits.map (fun n => byteOf (digit n)) ++ List.replicate more padding := by
  rw [padded, List.map_append, List.map_map, List.map_replicate]
  rfl

section

variable {digits : List Nat} (below : ∀ n ∈ digits, n < 64) (more : Nat)

include below

/-- Digits in a row are read back. -/
theorem symbols_digits (offset : Nat) :
    symbols offset (digits.map fun n => byteOf (digit n)) = .ok digits := by
  induction digits generalizing offset with
  | nil => rfl
  | cons n digits ih =>
    rw [List.forall_mem_cons] at below
    rw [List.map_cons, symbols, symbol_digit below.1, ih below.2]
    rfl

/-- No digit is taken for padding. -/
theorem unpadded : ∀ byte ∈ digits.map fun n => byteOf (digit n), (byte != padding) = true := by
  intro byte mem
  obtain ⟨n, among, rfl⟩ := List.mem_map.1 mem
  exact bne_iff_ne.2 (ascii_digit n (below n among)).2

/-- The digits are what stands before the padding. -/
theorem takeWhile_padded :
    ((padded digits more).map byteOf).takeWhile (· != padding) =
      digits.map fun n => byteOf (digit n) := by
  rw [map_padded, List.takeWhile_append_of_pos (unpadded below)]
  cases more <;> simp [List.replicate_succ]

/-- The padding is what stands behind the digits. -/
theorem dropWhile_padded :
    ((padded digits more).map byteOf).dropWhile (· != padding) = List.replicate more padding := by
  rw [map_padded, List.dropWhile_append_of_pos (unpadded below)]
  cases more <;> simp [List.replicate_succ]

end

section

variable {x y z w : Nat} (offset : Nat)

/-- A last group of two digits gives one byte, if the bits left over are zero. -/
theorem lastGroup_two (below : ∀ n ∈ [x, y], n < 64) (spare : y % 16 = 0) :
    lastGroup offset ((padded [x, y] 2).map byteOf) = .ok [UInt8.ofNat (x * 4 + y / 16)] := by
  rw [lastGroup, takeWhile_padded below, dropWhile_padded below, symbols_digits below]
  simp [padded, spare, bind, Except.bind, pure, Except.pure, -UInt8.ofNat_add, -UInt8.ofNat_mul]

/-- A last group of three digits gives two bytes, if the bits left over are zero. -/
theorem lastGroup_three (below : ∀ n ∈ [x, y, z], n < 64) (spare : z % 4 = 0) :
    lastGroup offset ((padded [x, y, z] 1).map byteOf) =
      .ok [UInt8.ofNat (x * 4 + y / 16), UInt8.ofNat (y % 16 * 16 + z / 4)] := by
  rw [lastGroup, takeWhile_padded below, dropWhile_padded below, symbols_digits below]
  simp [padded, spare, bind, Except.bind, pure, Except.pure, -UInt8.ofNat_add, -UInt8.ofNat_mul]

/-- A last group of four digits gives three bytes. -/
theorem lastGroup_four (below : ∀ n ∈ [x, y, z, w], n < 64) :
    lastGroup offset ((padded [x, y, z, w] 0).map byteOf) =
      .ok [UInt8.ofNat (x * 4 + y / 16), UInt8.ofNat (y % 16 * 16 + z / 4),
        UInt8.ofNat (z % 4 * 64 + w)] := by
  rw [lastGroup, takeWhile_padded below, dropWhile_padded below, symbols_digits below]
  simp [bind, Except.bind, pure, Except.pure, -UInt8.ofNat_add, -UInt8.ofNat_mul]

/-- A group of four digits is read when more follows. -/
theorem groups_four (below : ∀ n ∈ [x, y, z, w], n < 64) {more : List UInt8} (ne : more ≠ []) :
    groups offset ((padded [x, y, z, w] 0).map byteOf ++ more) =
      (groups (offset + 4) more).map fun bytes =>
        UInt8.ofNat (x * 4 + y / 16) :: UInt8.ofNat (y % 16 * 16 + z / 4) ::
          UInt8.ofNat (z % 4 * 64 + w) :: bytes := by
  obtain ⟨next, rest, rfl⟩ := List.exists_cons_of_ne_nil ne
  simp only [List.forall_mem_cons] at below
  obtain ⟨first, second, third, fourth, -⟩ := below
  show groups offset (_ :: _ :: _ :: _ :: next :: rest) = _
  rw [groups, symbol_digit first, symbol_digit second, symbol_digit third, symbol_digit fourth]
  cases groups (offset + 4) (next :: rest) <;> rfl

end

/-- What stands for bytes is read back. -/
theorem groups_encode (bytes : List UInt8) (offset : Nat) :
    groups offset ((encode bytes).map byteOf) = .ok bytes := by
  induction bytes using encode.induct generalizing offset with
  | case1 => rfl
  | case2 a =>
    rw [encode_one]
    refine (lastGroup_two offset (one_below a) (by omega)).trans ?_
    rw [ofNat_eq a (by omega)]
  | case3 a b =>
    have := b.toNat_lt
    rw [encode_two]
    refine (lastGroup_three offset (two_below a b) (by omega)).trans ?_
    rw [first_byte, ofNat_eq b (by omega)]
  | case4 a b c rest ih =>
    rw [encode_three, List.map_append]
    by_cases last : rest = []
    · subst last
      refine (lastGroup_four offset (three_below a b c)).trans ?_
      rw [first_byte, second_byte, third_byte]
    · have more : (encode rest).map byteOf ≠ [] := by simpa using encode_ne_nil last
      refine (groups_four offset (three_below a b c) more).trans ?_
      rw [ih, first_byte, second_byte, third_byte]
      rfl

/-- A byte string is parsed from its text. -/
theorem parse_text (value : Bytes) : parse value.text = .ok value := by
  have chars : (String.ofList (encode value.bytes)).toUTF8.toList =
      (encode value.bytes).map byteOf :=
    toUTF8_ascii (ascii_encode value.bytes)
  have length : ((encode value.bytes).map byteOf).length % 4 = 0 := by
    rw [List.length_map]
    exact length_encode value.bytes
  have whole : strayEnd ((encode value.bytes).map byteOf) = .ok () := by
    unfold strayEnd
    split
    · rw [length]
      rfl
    · rfl
  rw [parse, text, chars]
  simp only [whole, groups_encode]
  rfl

/-- A byte string is read back at any depth. -/
theorem exact (value : Bytes) {depth : Nat} : codec.Exact depth value := by
  have back : read (.string value.text) = .ok value := by
    rw [read, parse_text]
  exact ⟨.string value.text, (nomatch ·), trivial, back⟩

end Kube.Bytes

end GuestFleet
