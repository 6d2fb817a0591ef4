import GuestFleet.Json.Parser
import GuestFleet.Text.Alphanumeric

/-!
# Patterns

Which texts are patterns of texts: characters, classes in brackets, groups, alternatives
and repetitions. Counts in braces are no part of them, and neither are the edges of words.
-/

namespace GuestFleet.Text.Pattern

/-! ## Escapes -/

/-- What stands behind a backslash. -/
inductive Escape where
  | character (c : Char)
  /-- One of several characters. -/
  | several
  /-- A place between characters. -/
  | place
deriving DecidableEq, Repr

/-- The character of so many digits in base sixteen. -/
def numbered (count : Nat) (input : List Char) : Option (Escape × List Char) := do
  let digits <- (input.take count).mapM Json.Parser.hexValue
  let code := digits.foldl (fun value digit => value * 16 + digit) 0
  if digits.length = count && code.isValidChar then
    some (.character (Char.ofNat code), input.drop count)
  else none

/-- The letters for whole categories of characters. -/
def categories : List Char := "CLMNPSZclmnpsz".toList

/-- The control characters that have letters. -/
def controls : List (Char × Char) :=
  [('a', '\x07'), ('f', '\x0c'), ('n', '\n'), ('r', '\r'), ('t', '\t'), ('v', '\x0b')]

/-- Reads what stands behind a backslash. -/
def escape : List Char -> Option (Escape × List Char)
  | [] => none
  | 'x' :: rest => numbered 2 rest
  | 'u' :: rest => numbered 4 rest
  | 'U' :: rest => numbered 8 rest
  | c :: rest =>
    if c = 'p' || c = 'P' then
      match rest with
      | category :: rest => if categories.contains category then some (.several, rest) else none
      | [] => none
    else if ("dDsSwW".toList).contains c then some (.several, rest)
    else if c = 'A' || c = 'z' then some (.place, rest)
    else
      match controls.lookup c with
      | some control => some (.character control, rest)
      | none =>
        if c.isAlphanum || c = '<' || c = '>' || decide (0x80 ≤ c.toNat) then none
        else some (.character c, rest)

/-! ## Classes -/

/-- A character of a class, or none for several at once. -/
def member : List Char -> Option (Option Char × List Char)
  | [] => none
  | '\\' :: rest =>
    match escape rest with
    | some (.character c, rest) => some (some c, rest)
    | some (.several, rest) => some (none, rest)
    | _ => none
  | c :: rest => some (some c, rest)

/-- A member of a class, or two characters in order with a dash between them. -/
def range (input : List Char) : Option (List Char) := do
  let (first, rest) <- member input
  match rest with
  | [] => none
  | '-' :: ']' :: _ => some rest
  | '-' :: '-' :: _ => some rest
  | '-' :: upper =>
    let (last, rest) <- member upper
    if (<- first) ≤ (<- last) then some rest else none
  | _ => some rest

/-- The start of a class behind its bracket. A bracket that closes stands for itself there,
and so do dashes. -/
def opened (input : List Char) : Option (List Char) :=
  let plain := if input.head? = some '^' then input.drop 1 else input
  match plain, plain.dropWhile (· == '-') with
  | _, [] => none
  | ']' :: rest, _ => some rest
  | _, rest => some rest

/-- The names of classes. -/
def classNames : List String :=
  ["alnum", "alpha", "ascii", "blank", "cntrl", "digit", "graph", "lower", "print", "punct",
    "space", "upper", "word", "xdigit"]

/-- The rest behind a class that is named, past the bracket that opens it. -/
def named? : List Char -> Option (List Char)
  | ':' :: rest =>
    let rest := if rest.head? = some '^' then rest.drop 1 else rest
    match rest.dropWhile (· != ':') with
    | ':' :: ']' :: others =>
      if classNames.contains (String.ofList (rest.takeWhile (· != ':'))) then some others else none
    | _ => none
  | _ => none

/-- The rest behind a class in so many others, in at most so many steps. -/
def inClass : (fuel depth : Nat) -> List Char -> Option (List Char)
  | 0, _, _ => none
  | _, _, [] => none
  | fuel + 1, depth, '[' :: rest =>
    match named? rest with
    | some rest => inClass fuel depth rest
    | none => (opened rest).bind (inClass fuel (depth + 1))
  | _ + 1, 0, ']' :: rest => some rest
  | fuel + 1, depth + 1, ']' :: rest => inClass fuel depth rest
  | fuel + 1, depth, '&' :: '&' :: rest => inClass fuel depth rest
  | fuel + 1, depth, '-' :: '-' :: rest => inClass fuel depth rest
  | fuel + 1, depth, '~' :: '~' :: rest => inClass fuel depth rest
  | fuel + 1, depth, input => (range input).bind (inClass fuel depth)

/-! ## Groups -/

/-- What stands behind the bracket of a group. -/
inductive Opening where
  | plain
  | named (name : List Char)
  /-- Options for what comes, without a group. -/
  | options

/-- Options are letters, each at most once, of which those behind a dash are off. -/
def areOptions (flags : List Char) : Bool :=
  flags.all ("imsUuRx-".toList).contains && flags.eraseDups.length == flags.length &&
    flags.getLast? != some '-'

/-- The name of a group is made of letters, numbers and a few marks. -/
def isName : List Char -> Bool
  | [] => false
  | first :: others =>
    (first == '_' || (isAlphanumeric first && !first.isDigit)) &&
      others.all fun c => isAlphanumeric c || ("_.[]".toList).contains c

/-- The name of a group up to its bracket. -/
def groupName (input : List Char) : Option (Opening × List Char) :=
  let name := input.takeWhile (· != '>')
  match input.drop name.length with
  | _ :: rest => if isName name then some (.named name, rest) else none
  | [] => none

/-- Reads the start of a group behind its bracket. -/
def opening : List Char -> Option (Opening × List Char)
  | '?' :: 'P' :: '<' :: rest => groupName rest
  | '?' :: '<' :: rest => groupName rest
  | '?' :: rest =>
    let flags := rest.takeWhile fun c => c != ':' && c != ')'
    if !areOptions flags then none
    else
      match rest.drop flags.length with
      | ':' :: rest => some (.plain, rest)
      | ')' :: rest => if flags.isEmpty then none else some (.options, rest)
      | _ => none
  | rest => some (.plain, rest)

/-! ## Patterns -/

/-- The rest of a pattern in so many groups is well formed, as seen in at most so many steps;
`repeatable` says that there is something to repeat. -/
def follows : (fuel depth : Nat) -> (names : List (List Char)) -> (repeatable : Bool) ->
    List Char -> Bool
  | 0, _, _, _, _ => false
  | _, depth, _, _, [] => depth == 0
  | fuel + 1, depth, names, repeatable, c :: rest =>
    if c = '(' then
      match opening rest with
      | some (.plain, rest) => follows fuel (depth + 1) names false rest
      | some (.named name, rest) =>
        !names.contains name && follows fuel (depth + 1) (name :: names) false rest
      | some (.options, rest) => follows fuel depth names false rest
      | none => false
    else if c = ')' then decide (0 < depth) && follows fuel (depth - 1) names true rest
    else if c = '|' then follows fuel depth names false rest
    else if c = '*' || c = '+' || c = '?' then
      repeatable &&
        follows fuel depth names true (if rest.head? = some '?' then rest.drop 1 else rest)
    else if c = '\x7b' then false
    else if c = '[' then
      match (opened rest).bind (inClass (rest.length + 1) 0) with
      | some rest => follows fuel depth names true rest
      | none => false
    else if c = '\\' then
      match escape rest with
      | some (_, rest) => follows fuel depth names true rest
      | none => false
    else follows fuel depth names true rest

end Pattern

/-- The text is a pattern. -/
def isPattern (text : List Char) : Bool := Pattern.follows (text.length + 1) 0 [] false text

end GuestFleet.Text
