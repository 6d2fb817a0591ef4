import Mathlib.Data.List.TakeDrop
import Mathlib.Data.List.TakeWhile
import GuestFleet.Cluster.Validation
import GuestFleet.Proofs.Kube.SelectorTerms

/-!
# Texts of versions

A text that is read as a version is three runs of digits with single points between them, except
that a plus sign may stand before each run. A valid version has no such sign: where there is none,
reading and checking agree on every text, save for numbers of more than 64 bits, and where there is
one, a text that is read is refused by the check.
-/

namespace GuestFleet.Version

/-! ## The grammar -/

/-- A run of digits that stands for a number of at most 64 bits. -/
structure IsNumeral (run : List Char) (n : Nat) : Prop where
  digits : isDigits run = true
  value : Nat.ofDigitChars 10 run 0 = n
  small : n < UInt64.size

/-- Such a run, or one with a plus sign before it. -/
def IsSigned (run : List Char) (n : Nat) : Prop :=
  IsNumeral run n ∨ ∃ digits, run = '+' :: digits ∧ IsNumeral digits n

/-- Three numbers with points between them. -/
def Spells (number : List Char -> Nat -> Prop) (text : List Char) (version : Version) : Prop :=
  ∃ major minor patch, text = major ++ '.' :: (minor ++ '.' :: patch) ∧
    number major version.major ∧ number minor version.minor ∧ number patch version.patch

/-- A run of digits holds nothing but digits. -/
theorem isDigit_of_mem {run : List Char} (digits : isDigits run = true) :
    ∀ c ∈ run, c.isDigit = true := by
  rw [isDigits, Bool.and_eq_true, List.all_eq_true] at digits
  exact digits.2

/-- A character that is no digit is in no run of digits. -/
theorem notMem_digits {mark : Char} (isMark : mark.isDigit = false) {run : List Char}
    (digits : isDigits run = true) : mark ∉ run := by
  intro mem
  rw [isDigit_of_mem digits mark mem] at isMark
  exact absurd isMark (by decide)

/-- A character is in three runs with points between them if it is a point or in one of the runs. -/
theorem mem_runs {c : Char} {major minor patch : List Char} :
    c ∈ major ++ '.' :: (minor ++ '.' :: patch) <->
      c = '.' ∨ c ∈ major ∨ c ∈ minor ∨ c ∈ patch := by
  simp only [List.mem_append, List.mem_cons]
  tauto

/-! ## The check -/

/-- What the check takes, numbers of any size. -/
theorem isValid_iff {text : List Char} :
    isValid text = true <-> ∃ major minor patch, text = major ++ '.' :: (minor ++ '.' :: patch) ∧
      isDigits major = true ∧ isDigits minor = true ∧ isDigits patch = true := by
  rw [isValid, Text.splitAt_eq_splitOn]
  constructor
  · intro valid
    split at valid
    · rename_i major minor patch parts
      simp only [Bool.and_eq_true, and_assoc] at valid
      have joined : ['.'].intercalate (text.splitOn '.') = text := List.intercalate_splitOn '.'
      rw [parts] at joined
      exact ⟨major, minor, patch, by simpa [List.intercalate] using joined.symm, valid⟩
    · cases valid
  · rintro ⟨major, minor, patch, rfl, isMajor, isMinor, isPatch⟩
    rw [List.splitOn_append_cons_self_of_not_mem (notMem_digits rfl isMajor),
      List.splitOn_append_cons_self_of_not_mem (notMem_digits rfl isMinor),
      List.splitOn_eq_singleton (notMem_digits rfl isPatch)]
    simp only [isMajor, isMinor, isPatch, Bool.and_self]

/-- What the check takes has no plus sign. -/
theorem plus_notMem_of_isValid {text : List Char} (valid : isValid text = true) : '+' ∉ text := by
  obtain ⟨major, minor, patch, rfl, isMajor, isMinor, isPatch⟩ := isValid_iff.1 valid
  rw [mem_runs]
  rintro (isPoint | mem | mem | mem)
  · exact absurd isPoint (by decide)
  · exact notMem_digits rfl isMajor mem
  · exact notMem_digits rfl isMinor mem
  · exact notMem_digits rfl isPatch mem

/-- The check takes every version that is spelled with numerals. -/
theorem Spells.isValid {text : List Char} {version : Version}
    (spells : Spells IsNumeral text version) : isValid text = true := by
  obtain ⟨major, minor, patch, parts, isMajor, isMinor, isPatch⟩ := spells
  exact isValid_iff.2 ⟨major, minor, patch, parts, isMajor.digits, isMinor.digits, isPatch.digits⟩

/-! ## Signs -/

/-- A number with or without a sign has no point in it. -/
theorem IsSigned.point_notMem {run : List Char} {n : Nat} (signed : IsSigned run n) :
    '.' ∉ run := by
  rcases signed with numeral | ⟨digits, rfl, numeral⟩
  · exact notMem_digits rfl numeral.digits
  · rw [List.mem_cons, not_or]
    exact ⟨by decide, notMem_digits rfl numeral.digits⟩

/-- A number without a sign is a numeral. -/
theorem IsSigned.numeral {run : List Char} {n : Nat} (signed : IsSigned run n)
    (unsigned : '+' ∉ run) : IsNumeral run n := by
  rcases signed with numeral | ⟨digits, rfl, -⟩
  · exact numeral
  · exact absurd List.mem_cons_self unsigned

/-- Of the texts with signs those without a sign are the plain ones. -/
theorem spells_numeral_iff {text : List Char} {version : Version} :
    Spells IsNumeral text version <-> Spells IsSigned text version ∧ '+' ∉ text := by
  constructor
  · intro spells
    refine ⟨?_, plus_notMem_of_isValid spells.isValid⟩
    obtain ⟨major, minor, patch, parts, isMajor, isMinor, isPatch⟩ := spells
    exact ⟨major, minor, patch, parts, .inl isMajor, .inl isMinor, .inl isPatch⟩
  · rintro ⟨⟨major, minor, patch, rfl, isMajor, isMinor, isPatch⟩, unsigned⟩
    simp only [mem_runs, not_or] at unsigned
    obtain ⟨-, inMajor, inMinor, inPatch⟩ := unsigned
    exact ⟨major, minor, patch, rfl, isMajor.numeral inMajor, isMinor.numeral inMinor,
      isPatch.numeral inPatch⟩

/-! ## The reader -/

/-- The value of digits is the one that they have to the base of ten. -/
theorem digitsValue_eq (digits : List Char) :
    digitsValue digits = Nat.ofDigitChars 10 digits 0 := by
  rw [digitsValue, Nat.ofDigitChars]
  refine List.foldl_ext _ _ _ fun value c _ => ?_
  rw [Nat.mul_comm]
  rfl

/-- A run is read as a number if, and only if, it is a numeral of it. -/
theorem numeral_iff {digits : List Char} {n : Nat} :
    (if isDigits digits && digitsValue digits < 0x10000000000000000 then
      some (digitsValue digits) else none) = some n <-> IsNumeral digits n := by
  rw [Option.ite_none_right_eq_some, Bool.and_eq_true, decide_eq_true_eq, digitsValue_eq,
    Option.some.injEq]
  constructor
  · rintro ⟨⟨isDigits, small⟩, rfl⟩
    exact ⟨isDigits, rfl, small⟩
  · rintro ⟨isDigits, rfl, small⟩
    exact ⟨⟨isDigits, small⟩, rfl⟩

/-- A run is parsed as a number if, and only if, it is one with or without a sign. -/
theorem number?_eq_some {run : List Char} {n : Nat} :
    number? run = some n <-> IsSigned run n := by
  by_cases plus : ∃ digits, run = '+' :: digits
  · obtain ⟨digits, rfl⟩ := plus
    refine numeral_iff.trans ⟨fun numeral => .inr ⟨digits, rfl, numeral⟩, ?_⟩
    rintro (numeral | ⟨others, same, numeral⟩)
    · exact absurd List.mem_cons_self (notMem_digits rfl numeral.digits)
    · exact (List.cons.inj same).2 ▸ numeral
  · have bare : number? run = if isDigits run && digitsValue run < 0x10000000000000000 then
        some (digitsValue run) else none := by
      rw [number?]
      exact fun digits same => plus ⟨digits, same⟩
    rw [bare, numeral_iff]
    refine ⟨.inl, ?_⟩
    rintro (numeral | ⟨digits, same, -⟩)
    · exact numeral
    · exact absurd ⟨digits, same⟩ plus

/-- The first point is where a text is cut. -/
theorem cut_point {before : List Char} (inBefore : '.' ∉ before) (after : List Char) :
    cut (before ++ '.' :: after) = some (before, after) := by
  rw [cut, List.span_eq_takeWhile_dropWhile, Text.dropWhile_mark inBefore,
    Text.takeWhile_mark inBefore]

/-- A text is cut at a point into what comes before it and after it. -/
theorem eq_of_cut {text before after : List Char} (parts : cut text = some (before, after)) :
    text = before ++ '.' :: after := by
  by_cases mem : '.' ∈ text
  · obtain ⟨first, rest, rfl, inFirst⟩ := List.eq_append_cons_of_mem mem
    rw [cut_point inFirst] at parts
    cases parts
    rfl
  · have nothing := List.dropWhile_eq_nil_iff.2 (Text.ne_mark mem)
    rw [cut, List.span_eq_takeWhile_dropWhile, nothing] at parts
    cases parts

/-- What the reader takes. -/
theorem parse?_eq_some {text : String} {version : Version} :
    parse? text = some version <-> Spells IsSigned text.toList version := by
  constructor
  · intro read
    simp only [parse?, Option.bind_eq_bind, Option.bind_eq_some_iff, Option.pure_def,
      Option.some.injEq] at read
    obtain ⟨⟨major, rest⟩, first, a, isMajor, ⟨minor, patch⟩, second, b, isMinor, c, isPatch,
      rfl⟩ := read
    refine ⟨major, minor, patch, ?_, number?_eq_some.1 isMajor, number?_eq_some.1 isMinor,
      number?_eq_some.1 isPatch⟩
    obtain rfl : rest = minor ++ '.' :: patch := eq_of_cut second
    exact eq_of_cut first
  · rintro ⟨major, minor, patch, parts, isMajor, isMinor, isPatch⟩
    rw [parse?, parts, cut_point isMajor.point_notMem]
    simp only [Option.bind_eq_bind, Option.bind_some, number?_eq_some.2 isMajor,
      cut_point isMinor.point_notMem, number?_eq_some.2 isMinor, number?_eq_some.2 isPatch]
    rfl

/-! ## Reading and checking -/

/-- An empty version is taken too. -/
theorem checkVersion_eq_none {text : String} :
    checkVersion text = none <-> text = "" ∨ isValid text.toList = true := by
  rw [checkVersion, ite_eq_left_iff]
  simp only [reduceCtorEq, imp_false, not_not, Bool.or_eq_true, String.isEmpty_iff]

/-- What is read as a version has a plus sign or not. Without one it is what the check takes, with
its numbers at most 64 bits long; with one it is refused. -/
theorem parse?_eq_some_iff_signed (text : String) (version : Version) :
    (parse? text = some version <-> Spells IsSigned text.toList version) ∧
      (isValid text.toList = true ∧ Spells IsNumeral text.toList version <->
        parse? text = some version ∧ '+' ∉ text.toList) ∧
      (parse? text = some version -> (checkVersion text = none <-> '+' ∉ text.toList)) := by
  refine ⟨parse?_eq_some, ?plain, ?checked⟩
  case plain =>
    rw [parse?_eq_some, ← spells_numeral_iff]
    exact and_iff_right_of_imp Spells.isValid
  case checked =>
    intro read
    have spells := parse?_eq_some.1 read
    have filled : text ≠ "" := by
      rintro rfl
      obtain ⟨major, minor, patch, parts, -⟩ := spells
      simp at parts
    rw [checkVersion_eq_none, or_iff_right filled]
    exact ⟨plus_notMem_of_isValid, fun unsigned =>
      (spells_numeral_iff.2 ⟨spells, unsigned⟩).isValid⟩

/-- A version with a sign is read, although the check refuses it. -/
theorem parse?_signed_refused :
    parse? "+1.2.3" = some ⟨1, 2, 3⟩ ∧ checkVersion "+1.2.3" = some (.invalidVersion "+1.2.3") ∧
      ¬ (isValid "+1.2.3".toList = true ∧ Spells IsNumeral "+1.2.3".toList ⟨1, 2, 3⟩) := by
  obtain ⟨-, plain, checked⟩ := parse?_eq_some_iff_signed "+1.2.3" ⟨1, 2, 3⟩
  have read : parse? "+1.2.3" = some ⟨1, 2, 3⟩ := by decide
  have signed : '+' ∈ "+1.2.3".toList := by decide
  refine ⟨read, ?_, fun valid => (plain.1 valid).2 signed⟩
  rw [checkVersion, if_neg]
  intro taken
  exact (checked read).1 (if_pos taken) signed

end GuestFleet.Version
