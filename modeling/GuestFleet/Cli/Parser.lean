import GuestFleet.Cli.Value

/-!
# Command lines

How the arguments of a program and its environment give values to options. Every option
has a long name and may be given once; what the arguments leave out is taken from the
environment. The first thing that is wrong ends the reading, and so do the questions for
help and for the version.
-/

namespace GuestFleet.Cli

/-- An option. -/
structure Flag where
  /-- The name, which follows two dashes. -/
  name : String
  /-- A letter, which may follow one dash. -/
  letter : Option Char := none
  /-- What stands for its value in usages. An option without one is on when it is given. -/
  placeholder : Option String := none
  type : ValueType := .truth
  /-- The variable of the environment that it is taken from otherwise. -/
  variableName : Option String := none
  /-- The value if it is not given at all. -/
  usual : Option String := none
  help : String
deriving DecidableEq, Repr

/-- An option as it is written in usages. -/
def Flag.text (flag : Flag) : String :=
  "--" ++ flag.name ++
    (match flag.placeholder with
      | some placeholder => " <" ++ placeholder ++ ">"
      | none => "")

/-- A program and its options. -/
structure Tool where
  name : String
  version : String
  about : String
  flags : List Flag

/-- Asks for the help. -/
def helpFlag : Flag := { name := "help", letter := some 'h', help := "Print help" }

/-- Asks for the version. -/
def versionFlag : Flag := { name := "version", letter := some 'V', help := "Print version" }

namespace Tool

/-- Every option, also those that every program has. -/
def allFlags (tool : Tool) : List Flag := tool.flags ++ [helpFlag, versionFlag]

/-- The option with a long name. -/
def flag? (tool : Tool) (name : String) : Option Flag :=
  tool.allFlags.find? fun flag => flag.name == name

/-- The option with a letter. -/
def letterFlag? (tool : Tool) (letter : Char) : Option Flag :=
  tool.allFlags.find? fun flag => flag.letter == some letter

end Tool

/-- Options with the texts of their values, in the order in which they were given. -/
abbrev Given := List (Flag × String)

/-- The text of an option's value. -/
def Given.value? (given : Given) (flag : Flag) : Option String := List.lookup flag given

/-- What is wrong with a command line. -/
inductive UsageFault where
  /-- No option is called so; maybe another one was meant. The options given before it are
  shown in the usage. -/
  | unexpected (argument : String) (similar : Option Flag) (used : List Flag)
  /-- An option that takes no value got one, behind other options or as the first one. -/
  | unneeded (value : String) (flag : Flag) (isFirst : Bool)
  | repeated (flag : Flag)
  | noValue (flag : Flag)
  | badValue (flag : Flag) (value : String) (fault : ValueFault)
deriving DecidableEq, Repr

/-- Why the reading of a command line ends early. -/
inductive Interruption where
  | help
  | version
  | fault (fault : UsageFault)
deriving DecidableEq, Repr

/-- The state of the reading. -/
structure Reading where
  given : Given := []
  /-- The option that was named last, if its value has not been looked at: the value may
  still be missing. -/
  pending : Option (Flag × Option String) := none
  /-- Two dashes were seen, after which there are no options any more. -/
  ended : Bool := false

namespace Reading

/-- Gives a value to an option. -/
def give (flag : Flag) (value : String) (reading : Reading) : Except UsageFault Reading :=
  if (reading.given.value? flag).isSome then .error (.repeated flag)
  else
    match flag.type.fault? value with
    | some fault => .error (.badValue flag value fault)
    | none => .ok { reading with given := reading.given ++ [(flag, value)], pending := none }

/-- Gives the option that was named last its value. -/
def settle (reading : Reading) : Except UsageFault Reading :=
  match reading.pending with
  | none => .ok reading
  | some (flag, none) => .error (.noValue flag)
  | some (flag, some value) => reading.give flag value

/-- The options that were given so far. -/
def used (reading : Reading) : List Flag := reading.given.map Prod.fst

/-- Some options and one more, none of them twice. -/
def withFlag (flag : Flag) (flags : List Flag) : List Flag :=
  if flag ∈ flags then flags else flags ++ [flag]

/-- The options that were given so far, with the last one if it got a value for the first
time; a second time takes it away. -/
def named (reading : Reading) : List Flag :=
  match reading.pending with
  | some (flag, some _) =>
    if flag ∈ reading.used then reading.used.filter (· != flag) else reading.used ++ [flag]
  | _ => reading.used

/-- An argument that is no option and no value. -/
def stray (argument : String) : Except Interruption α :=
  .error (.fault (.unexpected argument none []))

/-- A name that no option has. -/
def unknown (tool : Tool) (name : String) (reading : Reading) : UsageFault :=
  let similar :=
    (Text.closest? name (tool.allFlags.map (·.name))).bind fun closest => tool.flag? closest
  let used :=
    match similar with
    | some flag => withFlag flag reading.named
    | none => reading.named
  .unexpected ("--" ++ name) similar used

/-- Takes an option that has no value. -/
def switch (flag : Flag) (reading : Reading) : Except Interruption Reading := do
  let reading <- reading.settle.mapError .fault
  if flag = helpFlag then throw .help
  else if flag = versionFlag then throw .version
  else (reading.give flag "true").mapError .fault

/-- Takes an option by its long name, with the value behind an equals sign if there is
one. -/
def long (tool : Tool) (name : String) (attached : Option String) (reading : Reading) :
    Except Interruption Reading :=
  match tool.flag? name with
  | none => .error (.fault (reading.unknown tool name))
  | some flag =>
    match flag.placeholder, attached with
    | some _, some value => do
      let reading <- reading.settle.mapError .fault
      (reading.give flag value).mapError .fault
    | some _, none => do
      let reading <- reading.settle.mapError .fault
      return { reading with pending := some (flag, none) }
    | none, some value => .error (.fault (.unneeded value flag reading.used.isEmpty))
    | none, none => reading.switch flag

/-- Takes options by their letters. -/
def short (tool : Tool) : List Char -> Reading -> Except Interruption Reading
  | [], reading => .ok reading
  | c :: rest, reading =>
    match tool.letterFlag? c with
    | some flag => do
      let reading <- reading.switch flag
      short tool rest reading
    | none => stray ("-" ++ String.ofList [c])

/-- Takes the value of the option that was named last. -/
def plain (argument : String) (reading : Reading) : Except Interruption Reading :=
  match reading.pending with
  | some (flag, none) => .ok { reading with pending := some (flag, some argument) }
  | _ => stray argument

/-- Takes an argument. -/
def argument (tool : Tool) (text : String) (reading : Reading) : Except Interruption Reading :=
  if reading.ended then stray text
  else
    match text.toList with
    | ['-', '-'] => .ok { reading with ended := true }
    | '-' :: '-' :: rest =>
      let name := rest.takeWhile (· != '=')
      reading.long tool (String.ofList name)
        (if name.length = rest.length then none
          else some (String.ofList (rest.drop (name.length + 1))))
    | '-' :: c :: rest => reading.short tool (c :: rest)
    | _ => reading.plain text

/-- Takes arguments one after the other. -/
def arguments (tool : Tool) : List String -> Reading -> Except Interruption Reading
  | [], reading => .ok reading
  | text :: rest, reading => do
    let reading <- reading.argument tool text
    arguments tool rest reading

end Reading

/-- The variables of the environment. -/
abbrev Environment := List (String × String)

/-- The text of a variable. -/
def Environment.value? (environment : Environment) (name : String) : Option String :=
  List.lookup name environment

/-- Takes the options that are not given from the environment. -/
def fromEnvironment (environment : Environment) : List Flag -> Given -> Except UsageFault Given
  | [], given => .ok given
  | flag :: flags, given =>
    match given.value? flag, flag.variableName.bind environment.value? with
    | none, some value =>
      match flag.type.fault? value with
      | some fault => .error (.badValue flag value fault)
      | none => fromEnvironment environment flags (given ++ [(flag, value)])
    | _, _ => fromEnvironment environment flags given

/-- The values that arguments and the environment give. -/
def Tool.read (tool : Tool) (environment : Environment) (arguments : List String) :
    Except Interruption Given := do
  let reading <- Reading.arguments tool arguments {}
  let reading <- reading.settle.mapError .fault
  (fromEnvironment environment tool.flags reading.given).mapError .fault

end GuestFleet.Cli
