import GuestFleet.Proofs.Entries
import GuestFleet.Yaml.Document

/-!
# Texts that are told apart

Different texts of whole lines are written as different scalars, be it as literal blocks or between
double quotes, so that a document says which text it was made from.
-/

namespace GuestFleet.Yaml

open Yaml.Node (endLine)

/-! ## Numbers in escapes -/

/-- The value of an upper case hexadecimal digit. -/
def hexDigit (c : Char) : Nat := "0123456789ABCDEF".toList.idxOf c

/-- The value of upper case hexadecimal digits. -/
def hexValue (digits : List Char) : Nat :=
  digits.foldl (fun value c => 16 * value + hexDigit c) 0

/-- A digit has its value in upper case, too. -/
theorem hexDigit_digitChar {n : Nat} (below : n < 16) :
    hexDigit (Nat.digitChar n).toUpper = n := by
  have each : ∀ n < 16, hexDigit (Nat.digitChar n).toUpper = n := by decide
  exact each n below

/-- Hexadecimal digits in upper case have the value of the number. -/
theorem hexValue_hexDigits (n : Nat) : hexValue ((Text.hexDigits n).map Char.toUpper) = n := by
  induction n using Nat.strong_induction_on with
  | _ n ih =>
    rw [Text.hexDigits]
    by_cases small : n < 16
    · rw [Nat.toDigits_of_lt_base small]
      show 16 * 0 + hexDigit (Nat.digitChar n).toUpper = n
      rw [hexDigit_digitChar small, Nat.mul_zero, Nat.zero_add]
    · have least : 16 ≤ n := Nat.le_of_not_lt small
      have before := ih (n / 16) (Nat.div_lt_self (by omega) (by decide))
      have last := hexDigit_digitChar (Nat.mod_lt n (by decide : 0 < 16))
      rw [Text.hexDigits, hexValue] at before
      rw [Nat.toDigits_of_base_le (by decide) least, List.map_append, hexValue, List.foldl_append,
        before, List.map_cons, List.map_nil, List.foldl_cons, List.foldl_nil, last]
      omega

/-- Zeros in front do not change the value. -/
theorem hexValue_upperHex (count n : Nat) : hexValue (upperHex count n) = n := by
  have zeros (k : Nat) : (List.replicate k '0').foldl
      (fun value c => 16 * value + hexDigit c) 0 = 0 := by
    induction k with
    | zero => rfl
    | succ k ih => exact ih
  rw [upperHex, hexValue, List.foldl_append, zeros]
  exact hexValue_hexDigits n

/-- A number that fits has no more digits than it may have. -/
theorem length_hexDigits {count n : Nat} (fits : n < 16 ^ (count + 1)) :
    (Text.hexDigits n).length ≤ count + 1 := by
  induction count generalizing n with
  | zero =>
    have small : n < 16 := fits
    rw [Text.hexDigits, Nat.toDigits_of_lt_base small, List.length_singleton]
  | succ count ih =>
    by_cases small : n < 16
    · rw [Text.hexDigits, Nat.toDigits_of_lt_base small, List.length_singleton]
      omega
    · have before : n / 16 < 16 ^ (count + 1) := by
        rw [Nat.div_lt_iff_lt_mul (by decide)]
        rwa [pow_succ] at fits
      have shorter := ih before
      rw [Text.hexDigits] at shorter ⊢
      rw [Nat.toDigits_of_base_le (by decide) (Nat.le_of_not_lt small), List.length_append,
        List.length_singleton]
      omega

/-- With zeros in front it has exactly as many. -/
theorem length_upperHex {count n : Nat} (fits : n < 16 ^ (count + 1)) :
    (upperHex (count + 1) n).length = count + 1 := by
  have short := length_hexDigits fits
  rw [upperHex, List.length_append, List.length_replicate, List.length_map]
  omega

/-! ## Between double quotes -/

/-- The marks of escapes by number, with the count of digits that follow. -/
def numberMarks : List (Char × Nat) := [('x', 1), ('u', 3), ('U', 7)]

/-- A character stands for itself, or for a letter or a number after a backslash. -/
theorem doubleChar_cases (c : Char) :
    (doubleChar c = [c] ∧ c ≠ '\\') ∨
      (∃ letter, doubleChar c = ['\\', letter] ∧ (c, letter) ∈ escapeLetters) ∨
      ∃ mark count, doubleChar c = '\\' :: mark :: upperHex (count + 1) c.toNat ∧
        (mark, count) ∈ numberMarks ∧ c.toNat < 16 ^ (count + 1) := by
  unfold doubleChar
  split_ifs with shown
  · simp only [Bool.and_eq_true, bne_iff_ne, ne_eq] at shown
    exact .inl ⟨rfl, shown.2⟩
  · refine .inr ?_
    cases found : List.lookup c escapeLetters with
    | some letter =>
      exact .inl ⟨letter, rfl, Entries.mem_of_lookup found⟩
    | none =>
      refine .inr ?_
      have bound : c.toNat < 16 ^ 8 := c.val.toNat_lt
      dsimp only
      split_ifs with one two
      · exact ⟨'x', 1, rfl, by decide, by omega⟩
      · exact ⟨'u', 3, rfl, by decide, by omega⟩
      · exact ⟨'U', 7, rfl, by decide, bound⟩

/-- No character is written as the beginning of what is written for another one. -/
theorem doubleChar_append_inj {a b : Char} {s t : List Char}
    (same : doubleChar a ++ s = doubleChar b ++ t) : a = b ∧ s = t := by
  have apart : ∀ one ∈ escapeLetters, ∀ other ∈ numberMarks, one.2 ≠ other.1 := by decide
  rcases doubleChar_cases a with
      ⟨isA, plainA⟩ | ⟨letter, isA, memA⟩ | ⟨mark, count, isA, memA, fits⟩
    <;> rcases doubleChar_cases b with
      ⟨isB, plainB⟩ | ⟨other, isB, memB⟩ | ⟨other, digits, isB, memB, fitsB⟩
    <;> rw [isA, isB] at same
    <;> simp only [List.cons_append, List.nil_append, List.cons.injEq] at same
  · exact same
  · exact absurd same.1 plainA
  · exact absurd same.1 plainA
  · exact absurd same.1.symm plainB
  · have letters : ∀ one ∈ escapeLetters, ∀ other ∈ escapeLetters, one.2 = other.2 ->
        one.1 = other.1 := by decide
    exact ⟨letters _ memA _ memB same.2.1, same.2.2⟩
  · exact absurd same.2.1 (apart _ memA _ memB)
  · exact absurd same.1.symm plainB
  · exact absurd same.2.1.symm (apart _ memB _ memA)
  · have marks : ∀ one ∈ numberMarks, ∀ other ∈ numberMarks, one.1 = other.1 ->
        one.2 = other.2 := by decide
    obtain ⟨-, sameMark, rest⟩ := same
    obtain rfl : count = digits := marks _ memA _ memB sameMark
    obtain ⟨numbers, rest⟩ := List.append_inj rest
      ((length_upperHex fits).trans (length_upperHex fitsB).symm)
    have values := congrArg hexValue numbers
    rw [hexValue_upperHex, hexValue_upperHex] at values
    exact ⟨Char.toNat_inj.1 values, rest⟩

/-- Every character is written as something. -/
theorem doubleChar_ne_nil (c : Char) : doubleChar c ≠ [] := by
  rcases doubleChar_cases c with ⟨isC, -⟩ | ⟨_, isC, -⟩ | ⟨_, _, isC, -⟩ <;> rw [isC] <;>
    exact List.cons_ne_nil _ _

/-- A text between double quotes is told by what is written. -/
theorem flatMap_doubleChar_inj {a b : List Char}
    (same : a.flatMap doubleChar = b.flatMap doubleChar) : a = b := by
  induction a generalizing b with
  | nil =>
    cases b with
    | nil => rfl
    | cons c rest =>
      have nothing := (List.append_eq_nil_iff.1 same.symm).1
      exact absurd nothing (doubleChar_ne_nil c)
  | cons c rest ih =>
    cases b with
    | nil => exact absurd (List.append_eq_nil_iff.1 same).1 (doubleChar_ne_nil c)
    | cons d others =>
      obtain ⟨rfl, tails⟩ := doubleChar_append_inj same
      rw [ih tails]

/-! ## In literal blocks -/

/-- Lines are indented unless they are empty, so that a blank at the start of one is known for
what it is. -/
theorem literalLines_inj {indent : Nat} {afterBreak : Bool} {a b : List Char}
    (same : literalLines (indent + 1) afterBreak a = literalLines (indent + 1) afterBreak b) :
    a = b := by
  -- What is written of a line tells whether it starts with a character or with a break.
  have start {afterBreak : Bool} {c d : Char} {s t : List Char} (isBreakC : isBreak c = true)
      (isTextD : isBreak d = false) :
      c :: s ≠ (if afterBreak then blanks (indent + 1) else []) ++ d :: t := by
    intro same
    cases afterBreak with
    | false =>
      obtain rfl := (List.cons.inj same).1
      cases isTextD.symm.trans isBreakC
    | true =>
      have isBlank : c = ' ' := (List.cons.inj same).1
      rw [isBlank] at isBreakC
      exact absurd isBreakC (by decide)
  induction a generalizing afterBreak b with
  | nil =>
    cases b with
    | nil => rfl
    | cons d others =>
      rw [literalLines, literalLines] at same
      split_ifs at same <;> simp at same
  | cons c rest ih =>
    cases b with
    | nil =>
      rw [literalLines, literalLines] at same
      split_ifs at same <;> simp at same
    | cons d others =>
      rw [literalLines, literalLines] at same
      cases isBreakC : isBreak c <;> cases isBreakD : isBreak d <;>
        simp only [isBreakC, isBreakD, if_true, Bool.false_eq_true, if_false] at same
      · have tails := List.cons.inj (List.append_cancel_left same)
        rw [tails.1, ih tails.2]
      · exact absurd same.symm (start isBreakD isBreakC)
      · exact absurd same (start isBreakC isBreakD)
      · rw [(List.cons.inj same).1, ih (List.cons.inj same).2]

/-- A break at the end is a break at the end of the block. -/
theorem literalLines_concat (indent : Nat) (afterBreak : Bool) (text : List Char) :
    literalLines indent afterBreak (text ++ ['\n']) =
      literalLines indent afterBreak text ++ ['\n'] := by
  induction text generalizing afterBreak with
  | nil => rfl
  | cons c rest ih =>
    rw [List.cons_append, literalLines, literalLines, ih, ih]
    split_ifs <;> simp only [List.cons_append, List.append_assoc]

/-! ## Scalars of whole lines -/

/-- The mark of a literal block is on the line of the key. -/
theorem break_notMem_marks (text : List Char) : '\n' ∉ indentMark text ++ chompMark text := by
  intro mem
  rcases List.mem_append.1 mem with mem | mem
  · unfold indentMark at mem
    split_ifs at mem
    · exact absurd mem (by decide)
    · cases mem
  · unfold chompMark at mem
    split at mem
    · split_ifs at mem
      · exact absurd mem (by decide)
      · exact absurd mem (by decide)
      · cases mem
    · exact absurd mem (by decide)

/-- The first break of a text tells where it is. -/
theorem break_inj {one other s t : List Char} (inLine : '\n' ∉ one) (inLineOther : '\n' ∉ other)
    (same : one ++ '\n' :: s = other ++ '\n' :: t) : s = t := by
  induction one generalizing other with
  | nil =>
    cases other with
    | nil => exact (List.cons.inj same).2
    | cons d rest => exact absurd (List.cons.inj same).1 (List.ne_of_not_mem_cons inLineOther)
  | cons c rest ih =>
    cases other with
    | nil => exact absurd (List.cons.inj same).1.symm (List.ne_of_not_mem_cons inLine)
    | cons d others =>
      exact ih (List.not_mem_of_not_mem_cons inLine) (List.not_mem_of_not_mem_cons inLineOther)
        (List.cons.inj same).2

/-- Whole lines are a literal block or stand between double quotes. -/
theorem scalar_concat (indent : Nat) (text : List Char) :
    scalar indent (text ++ ['\n']) = '"' :: ((text ++ ['\n']).flatMap doubleChar ++ ['"']) ∨
      ∃ marks, '\n' ∉ marks ∧ scalar indent (text ++ ['\n']) =
        '|' :: (marks ++ '\n' :: (literalLines indent true text ++ ['\n'])) := by
  have broken : (text ++ ['\n']).contains '\n' = true := by
    rw [List.contains_iff_mem]
    exact List.mem_append_right _ List.mem_cons_self
  unfold scalar styleOf
  rw [broken]
  by_cases literal : allowsLiteral (text ++ ['\n']) = true
  · simp only [if_true, literal]
    refine .inr ⟨_, break_notMem_marks (text ++ ['\n']), ?_⟩
    rw [literalLines_concat]
  · simp only [if_true, literal]
    exact .inl rfl

/-- A line is given a break at its end unless it has one. -/
theorem endLine_concat (line : List Char) (c : Char) :
    endLine (line ++ [c]) = line ++ (if isBreak c then [c] else [c, '\n']) := by
  unfold endLine
  rw [List.getLast?_concat, Option.any_some]
  split_ifs
  · rfl
  · rw [List.append_assoc]
    rfl

/-- Whole lines are told by what is written of them after a key. -/
theorem endLine_scalar_inj {indent : Nat} {a b : List Char}
    (same : endLine (' ' :: scalar (indent + 1) (a ++ ['\n'])) =
      endLine (' ' :: scalar (indent + 1) (b ++ ['\n']))) : a = b := by
  have quoted (inside : List Char) : endLine (' ' :: '"' :: (inside ++ ['"'])) =
      ' ' :: '"' :: (inside ++ ['"', '\n']) := endLine_concat (' ' :: '"' :: inside) '"'
  have block (marks lines : List Char) :
      endLine (' ' :: '|' :: (marks ++ '\n' :: (lines ++ ['\n']))) =
        ' ' :: '|' :: (marks ++ '\n' :: (lines ++ ['\n'])) := by
    have ends := endLine_concat (' ' :: '|' :: (marks ++ '\n' :: lines)) '\n'
    have isBreak : isBreak '\n' = true := rfl
    simpa only [isBreak, if_true, List.cons_append, List.append_assoc] using ends
  rcases scalar_concat (indent + 1) a with isA | ⟨marks, inLine, isA⟩ <;>
    rcases scalar_concat (indent + 1) b with isB | ⟨others, inLineOther, isB⟩ <;>
    rw [isA, isB] at same
  · rw [quoted, quoted] at same
    have inside := List.append_cancel_right (List.cons.inj (List.cons.inj same).2).2
    exact List.append_cancel_right (flatMap_doubleChar_inj inside)
  · rw [quoted, block] at same
    exact absurd (List.cons.inj (List.cons.inj same).2).1 (by decide)
  · rw [quoted, block] at same
    exact absurd (List.cons.inj (List.cons.inj same).2).1 (by decide)
  · rw [block, block] at same
    have lines := break_inj inLine inLineOther (List.cons.inj (List.cons.inj same).2).2
    exact literalLines_inj (List.append_cancel_right lines)

end GuestFleet.Yaml
