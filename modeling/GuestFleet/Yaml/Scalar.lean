import GuestFleet.Text.Quoted

/-!
# YAML scalars

A text as a YAML scalar in block context. Plain is the first choice. A text with line
breaks is written as a literal block, a text that would read back as something other
than a text gets single quotes, and what the chosen style cannot hold goes into single
or double quotes instead. Lines are never folded.
-/

namespace GuestFleet.Yaml

/-- How a scalar is written. -/
inductive ScalarStyle where
  | plain
  | singleQuoted
  | doubleQuoted
  | literal
deriving DecidableEq, Repr

/-! ## Characters -/

/-- The characters that end a line. -/
def isBreak (c : Char) : Bool :=
  c == '\n' || c == '\r' || c == '\u0085' || c == '\u2028' || c == '\u2029'

/-- Blanks, line ends and the null character. -/
def isGap (c : Char) : Bool := c == ' ' || c == '\t' || c == '\x00' || isBreak c

/-- The characters that need no escape. -/
def isShown (c : Char) : Bool :=
  let n := c.toNat
  n == 10 || (decide (0x20 ≤ n) && decide (n ≤ 0x7e)) ||
    (decide (0xa0 ≤ n) && n != 0xfeff && n != 0xfffe && n != 0xffff)

/-- The characters that mean something at the start of a plain scalar. -/
def startIndicators : List Char :=
  ['#', ',', '[', ']', '\x7b', '\x7d', '&', '*', '!', '|', '>', '\x27', '"', '%', '@', '\x60']

/-! ## What a text holds -/

/-- Some character would not be read as part of a plain scalar; `previous` is the
character before. -/
def hasIndicator : Option Char -> List Char -> Bool
  | _, [] => false
  | previous, c :: rest =>
    let beforeGap :=
      match rest with
      | [] => true
      | next :: _ => isGap next
    let here :=
      match previous with
      | none => startIndicators.contains c || ((c == '?' || c == ':' || c == '-') && beforeGap)
      | some previous => (c == ':' && beforeGap) || (c == '#' && isGap previous)
    here || hasIndicator (some c) rest

/-- A character of one sort stands right before one of another sort. -/
def hasPair (first second : Char -> Bool) : List Char -> Bool
  | c :: d :: rest => (first c && second d) || hasPair first second (d :: rest)
  | _ => false

/-- The first or the last character is a blank or ends a line. -/
def hasOuterGap (text : List Char) : Bool :=
  let outer (c : Option Char) := c.any fun c => c == ' ' || isBreak c
  outer text.head? || outer text.getLast?

/-- The text starts like the mark between two documents. -/
def startsLikeMark (text : List Char) : Bool :=
  let start := text.take 3
  start == ['-', '-', '-'] || start == ['.', '.', '.']

/-! ## Texts that read as something else -/

/-- The words that read as null or as a truth value. -/
def reservedWords : List String :=
  ["", "~", "null", "Null", "NULL", "y", "Y", "yes", "Yes", "YES", "n", "N", "no", "No", "NO",
    "true", "True", "TRUE", "false", "False", "FALSE", "on", "On", "ON", "off", "Off", "OFF"]

/-- The words that read as special numbers, after their sign. -/
def specialNumbers : List String := [".inf", ".Inf", ".INF", ".nan", ".NaN", ".NAN"]

/-- At least one digit of a base, and nothing else. -/
def isNumeral (digit : Char -> Bool) (text : List Char) : Bool := !text.isEmpty && text.all digit

/-- An exponent with its letter, or nothing. -/
def isExponent : List Char -> Bool
  | [] => true
  | c :: rest =>
    let digits :=
      match rest with
      | '+' :: digits => digits
      | '-' :: digits => digits
      | digits => digits
    (c == 'e' || c == 'E') && isNumeral Char.isDigit digits

/-- Decimal digits with at most one point, and an exponent perhaps. -/
def isDecimal (text : List Char) : Bool :=
  let whole := text.takeWhile Char.isDigit
  match text.dropWhile Char.isDigit with
  | '.' :: rest =>
    let fraction := rest.takeWhile Char.isDigit
    (!whole.isEmpty || !fraction.isEmpty) && isExponent (rest.dropWhile Char.isDigit)
  | rest => !whole.isEmpty && isExponent rest

/-- A number after its sign: in base 16, 8 or 2, or decimal. -/
def isUnsignedNumber : List Char -> Bool
  | '0' :: 'x' :: digits =>
    isNumeral (fun c => c.isDigit || ('a' ≤ c.toLower && c.toLower ≤ 'f')) digits
  | '0' :: 'o' :: digits => isNumeral (fun c => '0' ≤ c && c ≤ '7') digits
  | '0' :: 'b' :: digits => isNumeral (fun c => c == '0' || c == '1') digits
  | text => isDecimal text || specialNumbers.contains (String.ofList text)

/-- The text as a plain scalar would read as null, a truth value or a number. -/
def readsOtherwise (text : List Char) : Bool :=
  let unsigned :=
    match text with
    | '+' :: rest => rest
    | '-' :: rest => rest
    | rest => rest
  reservedWords.contains (String.ofList text) || isUnsignedNumber unsigned

/-! ## The choice of a style -/

/-- Every character can stand unescaped, and no blank ends a line. -/
def isClean (text : List Char) : Bool :=
  text.all isShown && !hasPair (· == ' ') isBreak text

/-- The text can be a plain scalar. -/
def allowsPlain (text : List Char) : Bool :=
  isClean text && !text.any isBreak && !hasOuterGap text && !hasIndicator none text &&
    !startsLikeMark text

/-- The text can stand in single quotes. -/
def allowsSingle (text : List Char) : Bool :=
  isClean text && !hasPair isBreak (· == ' ') text

/-- The text can be a literal block. -/
def allowsLiteral (text : List Char) : Bool :=
  isClean text && !text.isEmpty && text.getLast? != some ' '

/-- Single quotes, or double quotes for what they cannot hold. -/
def quotedStyle (text : List Char) : ScalarStyle :=
  if allowsSingle text then .singleQuoted else .doubleQuoted

/-- The style of a text. -/
def styleOf (text : List Char) : ScalarStyle :=
  if text.contains '\n' then
    if allowsLiteral text then .literal else .doubleQuoted
  else if readsOtherwise text || !allowsPlain text then quotedStyle text
  else .plain

/-! ## Writing -/

/-- Blanks at the start of a line. -/
def blanks (count : Nat) : List Char := List.replicate count ' '

/-- The inside of single quotes: a quote stands twice, and a line break is followed by an
empty line or the indentation of the next line. -/
def singleInside (indent : Nat) : Bool -> List Char -> List Char
  | afterBreak, [] => if afterBreak then blanks indent else []
  | afterBreak, c :: rest =>
    if isBreak c then
      (if !afterBreak && c == '\n' then ['\n'] else []) ++ c :: singleInside indent true rest
    else
      (if afterBreak then blanks indent else []) ++
        (if c = '\x27' then ['\x27', '\x27'] else [c]) ++ singleInside indent false rest

/-- A number in upper case hexadecimal digits, so many of them. -/
def upperHex (count n : Nat) : List Char :=
  let digits := (Text.hexDigits n).map Char.toUpper
  List.replicate (count - digits.length) '0' ++ digits

/-- The letters of escapes that have one. -/
def escapeLetters : List (Char × Char) :=
  [('\x00', '0'), ('\x07', 'a'), ('\x08', 'b'), ('\t', 't'), ('\n', 'n'), ('\x0b', 'v'),
    ('\x0c', 'f'), ('\r', 'r'), ('\x1b', 'e'), ('"', '"'), ('\\', '\\'), ('\u0085', 'N'),
    ('\u00a0', '_'), ('\u2028', 'L'), ('\u2029', 'P')]

/-- A character between double quotes. -/
def doubleChar (c : Char) : List Char :=
  if isShown c && !isBreak c && c != '"' && c != '\\' then [c]
  else
    match List.lookup c escapeLetters with
    | some letter => ['\\', letter]
    | none =>
      let n := c.toNat
      if n ≤ 0xff then '\\' :: 'x' :: upperHex 2 n
      else if n ≤ 0xffff then '\\' :: 'u' :: upperHex 4 n
      else '\\' :: 'U' :: upperHex 8 n

/-- The lines of a literal block. -/
def literalLines (indent : Nat) : Bool -> List Char -> List Char
  | _, [] => []
  | afterBreak, c :: rest =>
    if isBreak c then c :: literalLines indent true rest
    else (if afterBreak then blanks indent else []) ++ c :: literalLines indent false rest

/-- The mark of how a literal block ends: `-` without a line break, `+` with more than
one. -/
def chompMark (text : List Char) : List Char :=
  match text.reverse with
  | last :: rest =>
    if !isBreak last then ['-']
    else if rest.head?.all isBreak then ['+']
    else []
  | [] => ['-']

/-- The mark of a literal block whose first line gives no indentation away. -/
def indentMark (text : List Char) : List Char :=
  if text.head?.any (fun c => c == ' ' || isBreak c) then ['2'] else []

/-- A text as a scalar whose further lines are indented by `indent`. -/
def scalar (indent : Nat) (text : List Char) : List Char :=
  match styleOf text with
  | .plain => text
  | .singleQuoted => '\x27' :: (singleInside indent false text ++ ['\x27'])
  | .doubleQuoted => '"' :: (text.flatMap doubleChar ++ ['"'])
  | .literal =>
    '|' :: (indentMark text ++ chompMark text ++ '\n' :: literalLines indent true text)

end GuestFleet.Yaml
