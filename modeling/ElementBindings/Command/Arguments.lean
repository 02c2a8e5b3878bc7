import ElementBindings.Command.Similarity
import ElementBindings.Files.Tree

/-
  The arguments of the command line.

  Options of the program come first, then a command with its
  own options.  The arguments are first read as options and
  values; the values are then checked in the order in which
  the options were given, and missing options are noticed
  last.  A path that no file system can hold is no misuse: it
  ends the run as a fault of files.

  Key definitions include:
    * `UsageFault`, `UsageFault.report`
    * `OptionSpec`, `Arguments.scan`
    * `ValueFault`, `InvocationFault`
    * `GenerateOptions`, `InfoOptions`
    * `Invocation`, `Invocation.parse`
    * `mentionedPaths`
-/

namespace ElementBindings

------------------------------------------------------------
-- Faults
------------------------------------------------------------

/- What a fault of the arguments is. -/
inductive UsageError where
  | noSuchCommand (name : String) (close : List String)
  | missingCommand
  | noSuchOption (name : String) (close : List String)
  | needsValue (name : String)
  | takesNoValue (name : String)
  | missingOption (option : String)
  | invalidValue (option reason : String)
  | extraArguments (arguments : List String)
deriving DecidableEq, Repr

/- The wording of a suggestion of other names. -/
def suggestion : List String → String
  | [] => ""
  | [name] => " Did you mean " ++ Text.quoted name ++ "?"
  | names =>
      let sorted := names.mergeSort fun a b => a ≤ b
      " (Did you mean one of: "
        ++ Text.joinWith ", " (sorted.map Text.quoted) ++ "?)"

/- The wording of a fault of the arguments. -/
def UsageError.message : UsageError → String
  | .noSuchCommand name close =>
      "No such command " ++ Text.quoted name ++ "."
        ++ suggestion close
  | .missingCommand => "Missing command."
  | .noSuchOption name close =>
      "No such option " ++ Text.quoted name ++ "."
        ++ suggestion close
  | .needsValue name =>
      "Option " ++ Text.quoted name ++ " requires an argument."
  | .takesNoValue name =>
      "Option " ++ Text.quoted name
        ++ " does not take a value."
  | .missingOption option => "Missing option " ++ option ++ "."
  | .invalidValue option reason =>
      "Invalid value for " ++ option ++ ": " ++ reason
  | .extraArguments arguments =>
      let noun :=
        if arguments.length = 1 then "argument" else "arguments"
      "Got unexpected extra " ++ noun ++ " ("
        ++ Text.joinWith " " arguments ++ ")"

/- The commands whose arguments can be at fault. -/
inductive CommandName where
  | program
  | generate
  | info
deriving DecidableEq, Repr

/- How a command is called. -/
def CommandName.call : CommandName → String
  | .program => "iupgen"
  | .generate => "iupgen gen"
  | .info => "iupgen info"

/- The arguments that a command takes. -/
def CommandName.synopsis : CommandName → String
  | .program => "[OPTIONS] COMMAND [ARGS]..."
  | .generate => "[OPTIONS]"
  | .info => "[OPTIONS]"

/- A fault of the arguments of a command. -/
structure UsageFault where
  command : CommandName
  error : UsageError
deriving DecidableEq, Repr

/- A missing or unwanted value is reported without the usage. -/
def UsageError.showsUsage : UsageError → Bool
  | .needsValue _ => false
  | .takesNoValue _ => false
  | _ => true

/- The report of a fault. -/
def UsageFault.report
    (fault : UsageFault) : String :=
  let usage :=
    if fault.error.showsUsage then
      "Usage: " ++ fault.command.call ++ " "
        ++ fault.command.synopsis ++ "\nTry '"
        ++ fault.command.call ++ " --help' for help.\n\n"
    else
      ""
  usage ++ "Error: " ++ fault.error.message ++ "\n"

/- Why the arguments of a command are refused. -/
inductive ValueFault where
  | misuse (error : UsageError)
  | path (fault : FileFault)
deriving DecidableEq, Repr

/- Why a command line is refused. -/
inductive InvocationFault where
  | misuse (fault : UsageFault)
  | path (fault : FileFault)
deriving DecidableEq, Repr

/- A fault of the arguments of a command. -/
def ValueFault.within
    (command : CommandName) :
    ValueFault →
    InvocationFault
  | .misuse error => .misuse ⟨command, error⟩
  | .path fault => .path fault

------------------------------------------------------------
-- Options
------------------------------------------------------------

/- The options of all commands. -/
inductive OptionName where
  | verbose
  | help
  | input
  | output
  | only
  | jobs
  | fmt
  | noFmt
  | formatter
  | json
deriving DecidableEq, Repr

/- An option with its spellings. -/
structure OptionSpec where
  name : OptionName
  long : String
  short : Option Char
  takesValue : Bool
deriving DecidableEq, Repr

/- The options of a command, in order of declaration. -/
def CommandName.options : CommandName → List OptionSpec
  | .program =>
      [ ⟨.verbose, "--verbose", some 'v', false⟩,
        ⟨.help, "--help", none, false⟩ ]
  | .generate =>
      [ ⟨.input, "--input", some 'i', true⟩,
        ⟨.output, "--output", some 'o', true⟩,
        ⟨.only, "--only", none, true⟩,
        ⟨.jobs, "--jobs", some 'j', true⟩,
        ⟨.fmt, "--fmt", none, false⟩,
        ⟨.noFmt, "--no-fmt", none, false⟩,
        ⟨.formatter, "--zig", none, true⟩,
        ⟨.help, "--help", none, false⟩ ]
  | .info =>
      [ ⟨.input, "--input", some 'i', true⟩,
        ⟨.json, "--json", none, false⟩,
        ⟨.help, "--help", none, false⟩ ]

/- An option that was given, with its value if it takes one. -/
structure Occurrence where
  name : OptionName
  value : String
deriving DecidableEq, Repr

namespace Arguments

------------------------------------------------------------
-- Scanning
------------------------------------------------------------

/-
  The options in one argument, and the option whose value is
  still to come, with the spelling that was used.
-/
structure Reading where
  given : List Occurrence
  awaiting : Option (OptionName × String)
deriving DecidableEq, Repr

/- Read short options that stand together. -/
def readShort
    (options : List OptionSpec) :
    List Char →
    Except UsageError Reading
  | [] => .ok ⟨[], none⟩
  | c :: rest =>
      let spelling := String.ofList ['-', c]
      match options.find? (·.short = some c) with
      | none => .error (.noSuchOption spelling [])
      | some option =>
          if option.takesValue then
            if rest.isEmpty then
              .ok ⟨[], some (option.name, spelling)⟩
            else
              .ok ⟨[⟨option.name, String.ofList rest⟩], none⟩
          else
            (readShort options rest).map fun reading =>
              { reading with
                given := ⟨option.name, ""⟩ :: reading.given }

/- Split an argument at its first equals sign. -/
def splitValue
    (s : List Char) : String × Option String :=
  let name := s.takeWhile (· ≠ '=')
  let value :=
    match s.drop name.length with
    | [] => none
    | _ :: rest => some (String.ofList rest)
  (String.ofList name, value)

/- Read an argument that starts with a hyphen. -/
def readOption
    (options : List OptionSpec)
    (arg : List Char) :
    Except UsageError Reading :=
  let (name, value) := splitValue arg
  match options.find? (·.long = name), value with
  | some option, some value =>
      if option.takesValue then
        .ok ⟨[⟨option.name, value⟩], none⟩
      else
        .error (.takesNoValue name)
  | some option, none =>
      if option.takesValue then
        .ok ⟨[], some (option.name, name)⟩
      else
        .ok ⟨[⟨option.name, ""⟩], none⟩
  | none, _ =>
      match arg with
      | '-' :: '-' :: _ =>
          .error (.noSuchOption name
            (Similarity.closest name (options.map (·.long))))
      | _ => readShort options (arg.drop 1)

/-
  Read arguments as options and others.  A program whose
  options come first stops at the first other argument; two
  hyphens end the options.
-/
def scan
    (options : List OptionSpec)
    (optionsFirst : Bool) :
    List String →
    Except UsageError (List Occurrence × List String)
  | [] => .ok ([], [])
  | arg :: rest =>
      if arg = "--" then
        .ok ([], rest)
      else if arg.toList.head? = some '-' && arg ≠ "-" then
        match readOption options arg.toList with
        | .error error => .error error
        | .ok ⟨given, none⟩ =>
            (scan options optionsFirst rest).map
              fun (more, others) => (given ++ more, others)
        | .ok ⟨given, some (name, spelling)⟩ =>
            match rest with
            | [] => .error (.needsValue spelling)
            | value :: rest =>
                (scan options optionsFirst rest).map
                  fun (more, others) =>
                    (given ++ ⟨name, value⟩ :: more, others)
      else if optionsFirst then
        .ok ([], arg :: rest)
      else
        (scan options optionsFirst rest).map
          fun (more, others) => (more, arg :: others)

------------------------------------------------------------
-- Values
------------------------------------------------------------

/- Read all arguments of a command. -/
def scanAll
    (options : List OptionSpec)
    (args : List String) :
    Except ValueFault (List Occurrence × List String) :=
  (scan options false args).mapError .misuse

/- The last value given for an option. -/
def last?
    (given : List Occurrence)
    (name : OptionName) : Option String :=
  (given.reverse.find? (·.name = name)).map (·.value)

/- All values given for an option. -/
def values
    (given : List Occurrence)
    (name : OptionName) : List String :=
  (given.filter (·.name = name)).map (·.value)

/- How the input option is named in messages. -/
def inputLabel : String :=
  "'--input' / '-i'"

/- How the output option is named in messages. -/
def outputLabel : String :=
  "'--output' / '-o'"

/- How the jobs option is named in messages. -/
def jobsLabel : String :=
  "'--jobs' / '-j'"

/- How the kind of a file is found out. -/
abbrev Lookup :=
  String → Option EntryKind

/- The kind of what a value names, if it can name anything. -/
def namedKind
    (kindOf : Lookup)
    (value : String) :
    Except ValueFault (Option EntryKind) :=
  if FileTree.hasNul [value] then
    .error (.path ⟨.refused .nulCharacter, value⟩)
  else
    .ok (kindOf value)

/- Refuse the value of an option. -/
def refuse
    {α : Type}
    (label reason : String) : Except ValueFault α :=
  .error (.misuse (.invalidValue label reason))

/- Check that a value names a file. -/
def checkInput
    (kindOf : Lookup)
    (value : String) : Except ValueFault Unit := do
  let shown := "File " ++ Text.quoted value
  match ← namedKind kindOf value with
  | none => refuse inputLabel (shown ++ " does not exist.")
  | some .directory =>
      refuse inputLabel (shown ++ " is a directory.")
  | some .file => return ()

/- Check that a value names no file. -/
def checkOutput
    (kindOf : Lookup)
    (value : String) : Except ValueFault Unit := do
  match ← namedKind kindOf value with
  | some .file =>
      refuse outputLabel
        ("Directory " ++ Text.quoted value ++ " is a file.")
  | _ => return ()

/- Read a number of jobs. -/
def readJobs
    (value : String) : Except ValueFault Int :=
  match Integer.read value.toList with
  | .ok n => .ok n
  | .error _ =>
      refuse jobsLabel
        (Text.quoted value ++ " is not a valid integer.")

/- Check the value that counts for an option. -/
def checkOption
    (kindOf : Lookup)
    (given : List Occurrence)
    (name : OptionName) : Except ValueFault Unit :=
  match name, last? given name with
  | .input, some value => checkInput kindOf value
  | .output, some value => checkOutput kindOf value
  | .jobs, some value => discard (readJobs value)
  | _, _ => .ok ()

/- The value of an option that has to be given. -/
def requiredValue
    (given : List Occurrence)
    (name : OptionName)
    (label : String) : Except ValueFault String :=
  match last? given name with
  | some value => .ok value
  | none => .error (.misuse (.missingOption label))

/- Check that no other arguments are left. -/
def checkOthers
    (others : List String) : Except ValueFault Unit :=
  if others.isEmpty then
    .ok ()
  else
    .error (.misuse (.extraArguments others))

end Arguments

------------------------------------------------------------
-- Invocations
------------------------------------------------------------

/- What to generate, and where. -/
structure GenerateOptions where
  input : String
  output : Path
  only : List String
  jobs : Int
  format : Bool
  formatter : String
deriving DecidableEq, Repr

/- What to report on, and how. -/
structure InfoOptions where
  input : String
  json : Bool
deriving DecidableEq, Repr

/- A command with its options. -/
inductive Command where
  | generate (options : GenerateOptions)
  | info (options : InfoOptions)
  | help
deriving DecidableEq, Repr

/- A command and whether debug messages are wanted. -/
structure Invocation where
  verbose : Bool
  command : Command
deriving DecidableEq, Repr

open Arguments

/- The formatter that is used when none is given. -/
def defaultFormatter
    (environment : Option String) : String :=
  match environment with
  | none | some "" => "zig"
  | some name => name

/- The options of the generating command. -/
def GenerateOptions.parse
    (kindOf : Lookup)
    (environment : Option String)
    (args : List String) :
    Except ValueFault (Option GenerateOptions) := do
  let (given, others) ←
    scanAll CommandName.generate.options args
  if given.any (·.name = .help) then
    return none
  given.forM fun occurrence =>
    checkOption kindOf given occurrence.name
  let input ← requiredValue given .input inputLabel
  let output ← requiredValue given .output outputLabel
  let jobs ← readJobs ((last? given .jobs).getD "1")
  checkOthers others
  let switches := given.filter fun occurrence =>
    occurrence.name = .fmt || occurrence.name = .noFmt
  return some {
    input := input
    output := Path.ofString output
    only := values given .only
    jobs := jobs
    format := switches.getLast?.all (·.name = .fmt)
    formatter :=
      (last? given .formatter).getD
        (defaultFormatter environment) }

/- The options of the reporting command. -/
def InfoOptions.parse
    (kindOf : Lookup)
    (args : List String) :
    Except ValueFault (Option InfoOptions) := do
  let (given, others) ←
    scanAll CommandName.info.options args
  if given.any (·.name = .help) then
    return none
  given.forM fun occurrence =>
    checkOption kindOf given occurrence.name
  let input ← requiredValue given .input inputLabel
  checkOthers others
  return some {
    input := input
    json := given.any (·.name = .json) }

/- The commands by the names that they are called with. -/
def commandNames : List String :=
  ["gen", "info"]

/-
  The fault of arguments whose first one names no command.
  Where they can be read as options of the program, a fault of
  that reading comes first.
-/
def unknownCommand
    (name : String)
    (args : List String) : UsageError :=
  match scan CommandName.program.options true (name :: args) with
  | .error error => error
  | .ok _ =>
      .noSuchCommand name (Similarity.closest name commandNames)

/- A command with its options, unless they ask for help. -/
def commandOr
    {α : Type}
    (name : CommandName)
    (command : α → Command)
    (options : Except ValueFault (Option α)) :
    Except InvocationFault Command :=
  match options with
  | .ok (some options) => .ok (command options)
  | .ok none => .ok .help
  | .error fault => .error (fault.within name)

/- The command of some arguments, the first of which names it. -/
def Command.parse
    (kindOf : Lookup)
    (environment : Option String) :
    List String →
    Except InvocationFault Command
  | [] => .error (.misuse ⟨.program, .missingCommand⟩)
  | name :: args =>
      if name = "gen" then
        commandOr .generate .generate
          (GenerateOptions.parse kindOf environment args)
      else if name = "info" then
        commandOr .info .info (InfoOptions.parse kindOf args)
      else
        .error (.misuse ⟨.program, unknownCommand name args⟩)

/- The options of the command that some arguments name. -/
def commandOptions : List String → List Occurrence
  | [] => []
  | name :: args =>
      let command :=
        if name = "gen" then CommandName.generate else .info
      match scan command.options false args with
      | .ok (given, _) => given
      | .error _ => []

/- The paths that checking some arguments will look up. -/
def mentionedPaths
    (args : List String) : List String :=
  match scan CommandName.program.options true args with
  | .error _ => []
  | .ok (_, rest) =>
      let given := commandOptions rest
      values given .input ++ values given .output

/-
  The invocation of some arguments.  No arguments at all ask
  for help.
-/
def Invocation.parse
    (kindOf : Lookup)
    (environment : Option String)
    (args : List String) :
    Except InvocationFault Invocation :=
  match scan CommandName.program.options true args with
  | .error error => .error (.misuse ⟨.program, error⟩)
  | .ok (given, rest) =>
      let verbose := given.any (·.name = .verbose)
      if args.isEmpty || given.any (·.name = .help) then
        .ok ⟨verbose, .help⟩
      else
        (Command.parse kindOf environment rest).map
          (⟨verbose, ·⟩)

end ElementBindings
