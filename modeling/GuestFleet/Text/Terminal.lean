/-!
# Terminal text

Styles of text on a terminal, and the text that is left of a styled one where nothing can
be styled. Styles are control sequences in the text itself. Whatever is quoted in a text
may hold control sequences too, and those are taken out alike.
-/

namespace GuestFleet.Text

/-- How a part of a text stands out. -/
inductive Style where
  | failure
  | heading
  | literal
  | invalid
  | valid
deriving DecidableEq, Repr

namespace Style

/-- Starts a style. -/
def start : Style -> String
  | .failure => "\x1b[1m\x1b[31m"
  | .heading => "\x1b[1m\x1b[4m"
  | .literal => "\x1b[1m"
  | .invalid => "\x1b[33m"
  | .valid => "\x1b[32m"

/-- Ends every style. -/
def reset : String := "\x1b[0m"

/-- A text in a style. -/
def apply (style : Style) (text : String) : String := style.start ++ text ++ reset

end Style

namespace Terminal

/-- Where in a control sequence a terminal is. -/
inductive Mode where
  /-- Outside of all control sequences. -/
  | ground
  /-- Behind an escape character. -/
  | escape
  /-- Behind an escape character and marks that announce one more character. -/
  | escapeMarks
  /-- In the parameters of a control sequence. -/
  | parameters
  /-- In the parameters of a device control text. -/
  | deviceParameters
  /-- In a device control text or one that is meant for a program. -/
  | hidden
  /-- In a command to the operating system. -/
  | command
deriving DecidableEq, Repr

/-- The character lies between two code points. -/
def isBetween (low high : Nat) (c : Char) : Bool :=
  decide (low ≤ c.toNat) && decide (c.toNat ≤ high)

/-- The byte that ends hidden texts is among the bytes of the character. -/
def holdsEnd (c : Char) : Bool := (String.ofList [c]).toUTF8.toList.contains 0x9c

/-- The mode behind an escape character and one more character. -/
def afterEscape (c : Char) : Option Mode :=
  if c = '[' then some .parameters
  else if c = ']' then some .command
  else if c = 'P' then some .deviceParameters
  else if c = 'X' || c = '^' || c = '_' then some .hidden
  else if isBetween 0x20 0x2f c then some .escapeMarks
  else if isBetween 0x30 0x7e c then some .ground
  else none

/-- The mode that a character leads to, if it changes the mode. -/
def Mode.after (mode : Mode) (c : Char) : Option Mode :=
  if c = '\x1b' then some .escape
  else if c = '\x18' || c = '\x1a' then some .ground
  else
    match mode with
    | .ground => if 0x80 ≤ c.toNat then some .ground else none
    | .escape => afterEscape c
    | .escapeMarks => if isBetween 0x30 0x7e c then some .ground else none
    | .parameters => if isBetween 0x40 0x7e c then some .ground else none
    | .deviceParameters => if isBetween 0x40 0x7e c then some .hidden else none
    | .hidden => if holdsEnd c then some .ground else none
    | .command => if c = '\x07' then some .ground else none

/-- The controls that make white space, which take effect even inside of most control
sequences. -/
def isSpacing (c : Char) : Bool := c = '\t' || c = '\n' || c = '\x0c' || c = '\r'

/-- A character is shown in a mode. -/
def Mode.shows (mode : Mode) (c : Char) : Bool :=
  match mode with
  | .ground => isSpacing c || (decide (0x20 ≤ c.toNat) && c != '\x7f')
  | .escape => isSpacing c
  | .escapeMarks => isSpacing c
  | .parameters => isSpacing c
  | _ => false

/-- What is shown of a text. Behind a character that is shown the next one is looked at as
if outside of all control sequences. -/
def shownFrom (mode : Mode) (shown : Bool) : List Char -> List Char
  | [] => []
  | c :: rest =>
    let place := if shown then .ground else mode
    let next := (place.after c).getD mode
    if place.shows c then c :: shownFrom next true rest else shownFrom next false rest

/-- What is shown of a text where there are no styles. -/
def plain (text : String) : String := String.ofList (shownFrom .ground false text.toList)

end Terminal

end GuestFleet.Text
