import GuestFleet.Cli.Parser
import GuestFleet.Text.Terminal

/-!
# What a program says about its usage

The help, with the environment as it is, and the words for a wrong command line. All of it
is styled for a terminal.
-/

namespace GuestFleet.Cli

open Text (Style)

/-- An option as it is written in usages, with its name in its style. -/
def Flag.styled (flag : Flag) : String :=
  Style.literal.apply ("--" ++ flag.name) ++
    (match flag.placeholder with
      | some placeholder => " <" ++ placeholder ++ ">"
      | none => "")

namespace Tool

/-- The usage with what matters of the options, or with any of them. -/
def usage (tool : Tool) (shown : List String) : String :=
  Style.heading.apply "Usage:" ++ " " ++ Style.literal.apply tool.name ++
    (if shown.isEmpty then " [OPTIONS]" else String.join (shown.map fun text => " " ++ text))

/-- All options of the tool's own, of which one or the other is given. -/
def anyOption (tool : Tool) : String :=
  "<" ++ String.intercalate "|" (tool.flags.map Flag.text) ++ ">"

/-- The text of a variable in the help, where its further lines are moved in. -/
def shownValue (environment : Environment) (name : String) : String :=
  String.ofList (((environment.value? name).getD "").toList.flatMap fun c =>
    if c = '\n' then c :: List.replicate 10 ' ' else [c])

/-- An option with its explanation. -/
def flagHelp (environment : Environment) (flag : Flag) : String :=
  "  " ++
    (match flag.letter with
      | some letter => Style.literal.apply ("-" ++ String.ofList [letter]) ++ ", "
      | none => "    ") ++
    flag.styled ++ "\n          " ++ flag.help ++
    (match flag.variableName with
      | some name => " [env: " ++ name ++ "=" ++ shownValue environment name ++ "]"
      | none => "") ++
    (match flag.placeholder, flag.usual with
      | some _, some usual => " [default: " ++ (if usual.isEmpty then "\"\"" else usual) ++ "]"
      | _, _ => "") ++
    "\n"

/-- The help. -/
def help (tool : Tool) (environment : Environment) : String :=
  tool.about ++ "\n\n" ++ tool.usage [] ++ "\n\n" ++ Style.heading.apply "Options:" ++ "\n" ++
    String.join (tool.allFlags.map (flagHelp environment))

/-- The name and the version. -/
def versionText (tool : Tool) : String := tool.name ++ " " ++ tool.version ++ "\n"

end Tool

/-- A text in a style and between quotes. -/
def quotedIn (style : Style) (text : String) : String := "'" ++ style.apply text ++ "'"

/-- A hint at what may have been meant. -/
def hint (thing : String) (text : String) : String :=
  "\n\n  " ++ Style.valid.apply "tip:" ++ " a similar " ++ thing ++ " exists: " ++
    quotedIn .valid text

/-- The words for a value that is missing. -/
def noValueText (flag : Flag) : String :=
  "a value is required for " ++ quotedIn .invalid flag.text ++ " but none was supplied"

/-- The words for a value that is wrong. -/
def badValueText (flag : Flag) (value : String) : String :=
  "invalid value " ++ quotedIn .invalid value ++ " for " ++ quotedIn .literal flag.text

/-- The words for a fault of a value. -/
def ValueFault.text (flag : Flag) (value : String) : ValueFault -> String
  | .because reason => badValueText flag value ++ ": " ++ reason
  | .notAmong values =>
    (if value.isEmpty then noValueText flag else badValueText flag value) ++
      "\n  [possible values: " ++ String.intercalate ", " (values.map Style.valid.apply) ++ "]" ++
      (match Text.closest? value values with
        | some closest => hint "value" closest
        | none => "")

namespace UsageFault

/-- What the usage shows of the options. Behind others, an option of the tool's own stands
for all of them. -/
def shown (tool : Tool) : UsageFault -> List String
  | .unexpected _ _ used => used.map Flag.styled
  | .unneeded _ flag isFirst =>
    if isFirst then [flag.styled]
    else
      (if tool.flags.contains flag then [] else [flag.styled]) ++ [tool.anyOption]
  | _ => []

/-- What is wrong. -/
def text (tool : Tool) (fault : UsageFault) : String :=
  match fault with
  | .unexpected argument similar _ =>
    "unexpected argument " ++ quotedIn .invalid argument ++ " found" ++
      (match similar with
        | some flag => hint "argument" ("--" ++ flag.name)
        | none => "") ++
      "\n\n" ++ tool.usage (fault.shown tool)
  | .unneeded value flag _ =>
    "unexpected value " ++ quotedIn .invalid value ++ " for " ++ quotedIn .literal flag.text ++
      " found; no more were expected\n\n" ++ tool.usage (fault.shown tool)
  | .repeated flag =>
    "the argument " ++ quotedIn .invalid flag.text ++ " cannot be used multiple times\n\n" ++
      tool.usage (fault.shown tool)
  | .noValue flag => noValueText flag
  | .badValue flag value fault => fault.text flag value

/-- What is wrong, and where to find help. -/
def message (tool : Tool) (fault : UsageFault) : String :=
  Style.failure.apply "error:" ++ " " ++ fault.text tool ++ "\n\nFor more information, try " ++
    quotedIn .literal "--help" ++ ".\n"

end UsageFault

end GuestFleet.Cli
