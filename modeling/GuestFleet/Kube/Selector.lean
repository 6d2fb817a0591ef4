import GuestFleet.Kube.Metadata

/-!
# Label selectors

A selector is a list of terms with commas between them, all of which have to hold. A
term asks for a label, for its value, for another value, or for one of several.
-/

namespace GuestFleet.Kube

/-- A demand on the labels of an object. -/
inductive SelectorTerm where
  | isPresent (key : String)
  | equals (key value : String)
  | differs (key value : String)
  | oneOf (key : String) (values : List String)
deriving DecidableEq, Repr

namespace SelectorTerm

/-- The term holds for some labels. A label that is absent differs from every value. -/
def holds (labels : StringMap) : SelectorTerm -> Bool
  | .isPresent key => (StringMap.find labels key).isSome
  | .equals key value => StringMap.find labels key == some value
  | .differs key value => StringMap.find labels key != some value
  | .oneOf key values => (StringMap.find labels key).any values.contains

/-- A text without the blanks around it. -/
def trimmed (text : List Char) : String := String.ofList (Text.trim text)

/-- What stands before and after the first occurrence of a mark. -/
def cutAt (mark : List Char) : List Char -> Option (List Char × List Char)
  | [] => if mark.isEmpty then some ([], []) else none
  | c :: rest =>
    if mark.isPrefixOf (c :: rest) then some ([], (c :: rest).drop mark.length)
    else (cutAt mark rest).map fun (before, after) => (c :: before, after)

/-- The values of a set in parentheses, of which there may be too many or none. -/
def setValues (text : List Char) : List String :=
  let inside := Text.dropEnd (· == ')') ((Text.trim text).dropWhile (· == '('))
  (Text.splitAt ',' inside).map trimmed

/-- The term of a text. A set is looked for first, then an inequality. -/
def ofText (text : List Char) : SelectorTerm :=
  match cutAt [' ', 'i', 'n', ' '] text with
  | some (key, set) => .oneOf (trimmed key) (setValues set)
  | none =>
    match cutAt ['!', '='] text with
    | some (key, value) => .differs (trimmed key) (trimmed value)
    | none =>
      match cutAt ['='] text with
      | some (key, value) => .equals (trimmed key) (trimmed value)
      | none => .isPresent (trimmed text)

end SelectorTerm

namespace Selector

/-- The texts between the commas that stand outside parentheses; `depth` counts the open
parentheses. -/
def termTexts : Int -> List Char -> List (List Char)
  | _, [] => [[]]
  | depth, c :: rest =>
    if c = ',' && depth == 0 then [] :: termTexts depth rest
    else
      let next := if c = '(' then depth + 1 else if c = ')' then depth - 1 else depth
      match termTexts next rest with
      | [] => [[c]]
      | text :: texts => (c :: text) :: texts

/-- The terms of a selector; blank ones do not count. -/
def terms (selector : String) : List SelectorTerm :=
  (((termTexts 0 selector.toList).map Text.trim).filter fun text => !text.isEmpty).map
    SelectorTerm.ofText

/-- Every term holds. Absent labels are no labels. -/
def selects (selector : String) (labels : Option StringMap) : Bool :=
  (terms selector).all (SelectorTerm.holds (labels.getD []))

end Selector

end GuestFleet.Kube
