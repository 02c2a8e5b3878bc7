import ElementBindings.Command.Report

/-
  Commands from their arguments to what they leave behind.

  Key definitions include:
    * `Environment`
    * `FileTree.loadCatalog`
    * `Command.plan`
    * `RunResult`, `runCommand`
-/

namespace ElementBindings

------------------------------------------------------------
-- Environments
------------------------------------------------------------

/-
  What a command is run in: the formatter that the environment
  names, if it names one, and the console that it prints to.
-/
structure Environment where
  formatter : Option String
  console : Console

namespace Environment

/- A wide console, with or without the name of a formatter. -/
def wide
    (formatter : Option String) : Environment :=
  { formatter := formatter
    console := .wide }

/- Where only a formatter is told, the console is wide. -/
instance : Coe (Option String) Environment :=
  ⟨wide⟩

/- A wide console that no formatter is named for. -/
def plain : Environment :=
  wide none

end Environment

------------------------------------------------------------
-- Plans
------------------------------------------------------------

/- Load a catalog from a file of a tree. -/
def FileTree.loadCatalog
    (tree : FileTree)
    (path : String) : Except Fault Catalog :=
  let refused (error : FileError) : Except Fault Catalog :=
    .error (.file ⟨.refused error, (Path.ofString path).text⟩)
  match tree.stat? path with
  | some (.file text) => Catalog.loadText text
  | some (.binary octets) => Catalog.loadOctets octets
  | some .directory => refused .isDirectory
  | none => refused .notFound

/- The plan of a command, given how a catalog is loaded. -/
def Command.plan
    (console : Console)
    (verbose : Bool)
    (load : String → Except Fault Catalog) :
    Command →
    Plan
  | .generate options =>
      options.plan console verbose (load options.input)
  | .info options =>
      options.plan console verbose (load options.input)
  | .help => .stop (.exit 0)

------------------------------------------------------------
-- Runs
------------------------------------------------------------

/- A run ends before it starts, or with an outcome. -/
inductive RunResult where
  | misused (fault : UsageFault)
  | ran (outcome : Outcome)
deriving DecidableEq, Repr

/-
  Run a command on a tree of files, with the programs of a
  system and in an environment.
-/
def runCommand
    (programs : Programs)
    (environment : Environment)
    (tree : FileTree)
    (args : List String) : RunResult :=
  match Invocation.parse tree.kind? environment.formatter
      args with
  | .error (.misuse fault) => .misused fault
  | .error (.path fault) =>
      .ran ((Plan.stop (.failure (.file fault))).run programs tree)
  | .ok invocation =>
      let plan := invocation.command.plan environment.console
        invocation.verbose tree.loadCatalog
      .ran (plan.run programs tree)

/- The tree that a run leaves behind. -/
def RunResult.tree
    (before : FileTree) :
    RunResult →
    FileTree
  | .misused _ => before
  | .ran outcome => outcome.tree

end ElementBindings
