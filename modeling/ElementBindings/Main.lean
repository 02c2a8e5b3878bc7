import ElementBindings.Command.Run

/-
  The command line on the files of the system.

  The paths that the arguments mention are looked up first,
  the command is worked out, and its steps are carried out.
  No program is started from here, so that files stay as they
  were written; and the console knows no names of characters,
  which are those of another library.

  Key definitions include:
    * `Environment.ofVariables`
    * `main`
-/

namespace ElementBindings

------------------------------------------------------------
-- Reading
------------------------------------------------------------

/- The octets of a file, if it can be read. -/
def readOctets?
    (path : String) : IO (Option (List UInt8)) := do
  try
    return some (← IO.FS.readBinFile path).toList
  catch _ =>
    return none

/- The kind of what stands at a path, if there is anything. -/
def lookUpKind
    (path : String) : IO (Option EntryKind) := do
  if (← readOctets? path).isSome then
    return some .file
  try
    discard (IO.FS.realPath path)
    return some .directory
  catch _ =>
    return none

/- The kinds of some paths. -/
def lookUpKinds
    (paths : List String) :
    IO (List (String × Option EntryKind)) :=
  paths.mapM fun path => return (path, ← lookUpKind path)

/- The contents of some paths. -/
def readContents
    (paths : List String) :
    IO (List (String × Option (List UInt8))) :=
  paths.mapM fun path => return (path, ← readOctets? path)

------------------------------------------------------------
-- Environments
------------------------------------------------------------

/- The cells of a console that nothing is told about. -/
def usualWidth : Nat := 80

/- An environment by the formatter and the width it names. -/
def Environment.ofVariables
    (formatter columns : Option String) : Environment :=
  let told := (columns.bind String.toNat?).getD usualWidth
  { formatter := formatter
    console :=
      { Console.wide with
        width := max 1 told
        positive := by omega } }

------------------------------------------------------------
-- Carrying Out
------------------------------------------------------------

/- A text that cannot be encoded is a fault. -/
def demandWhole
    (cause : FileCause)
    (text : String) : IO Unit := do
  unless Text.isWhole text do
    throw (IO.userError (FileFault.message ⟨cause, text⟩))

/- Carry out one step. -/
def Step.perform : Step → IO Unit
  | .print text => do
      demandWhole .unencodableOutput text
      IO.print text
  | .log record => IO.eprintln record.text
  | .write path text => do
      IO.FS.createDirAll path.parent.text
      IO.FS.writeFile path.text (FileTree.encoded text)
      demandWhole .unencodableText text
  | .format path formatter =>
      IO.eprintln (LogRecord.text
        ⟨.warning, missingFormatter formatter path⟩)

/- The exit code of an ending, whose fault is reported. -/
def Ending.conclude : Ending → IO UInt32
  | .exit code => return code.toUInt32
  | .failure fault => do
      IO.eprintln fault.message
      return 1

/- Carry out a plan. -/
def Plan.perform
    (plan : Plan) : IO UInt32 := do
  plan.steps.forM Step.perform
  plan.ending.conclude

/- Run the command that some arguments name. -/
def runArguments
    (args : List String) : IO UInt32 := do
  let environment := Environment.ofVariables
    (← IO.getEnv "IUPGEN_ZIG") (← IO.getEnv "COLUMNS")
  let paths := mentionedPaths args
  let kinds ← lookUpKinds paths
  let contents ← readContents paths
  let kindOf (path : String) := (kinds.lookup path).join
  let load (path : String) :=
    Catalog.loadFile path (contents.lookup path).join
  match Invocation.parse kindOf environment.formatter args with
  | .error (.misuse fault) =>
      IO.eprint fault.report
      return 2
  | .error (.path fault) =>
      (Ending.failure (.file fault)).conclude
  | .ok invocation =>
      let plan := invocation.command.plan environment.console
        invocation.verbose load
      plan.perform

end ElementBindings

/- Run the program. -/
def main
    (args : List String) : IO UInt32 :=
  ElementBindings.runArguments args
