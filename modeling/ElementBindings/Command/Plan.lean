import ElementBindings.Console.Layout
import ElementBindings.Files.Formatting

/-
  What a command is going to do.

  A command is worked out in full before anything happens: it
  prints, logs, writes and formats, step by step, and ends
  with an exit code or a fault.  Carrying a plan out stops at
  the first text that cannot be printed, and at the first file
  that cannot be written or formatted.

  Key definitions include:
    * `LogRecord`
    * `Step`, `Ending`, `Plan`
    * `Outcome`, `Plan.run`
-/

namespace ElementBindings

------------------------------------------------------------
-- Log
------------------------------------------------------------

/- The levels of the log that are in use. -/
inductive LogLevel where
  | debug
  | warning
deriving DecidableEq, Repr

/- The name of a level. -/
def LogLevel.text : LogLevel → String
  | .debug => "DEBUG"
  | .warning => "WARNING"

/- A record of the log. -/
structure LogRecord where
  level : LogLevel
  message : String
deriving DecidableEq, Repr

/- A record as it is listed. -/
def LogRecord.text
    (record : LogRecord) : String :=
  record.level.text ++ " " ++ record.message

------------------------------------------------------------
-- Plans
------------------------------------------------------------

/- One thing that a command does. -/
inductive Step where
  | print (text : String)
  | log (record : LogRecord)
  | write (path : Path) (text : String)
  | format (path : Path) (formatter : String)
deriving DecidableEq, Repr

/- How a command ends, if all its steps succeed. -/
inductive Ending where
  | exit (code : Nat)
  | failure (fault : Fault)
deriving DecidableEq, Repr

/- The steps of a command and its ending. -/
structure Plan where
  steps : List Step
  ending : Ending
deriving DecidableEq, Repr

namespace Plan

/- A plan without steps. -/
def stop
    (ending : Ending) : Plan :=
  ⟨[], ending⟩

/- Do something first. -/
def before
    (steps : List Step)
    (plan : Plan) : Plan :=
  { plan with steps := steps ++ plan.steps }

/- Continue with a value, or end with its fault. -/
def withValue
    {α : Type}
    (value : Except Fault α)
    (next : α → Plan) : Plan :=
  match value with
  | .ok a => next a
  | .error fault => .stop (.failure fault)

/- Print a line first, as the console shows it. -/
def printing
    (line : Except Fault String)
    (plan : Plan) : Plan :=
  .withValue line fun shown =>
    plan.before [.print (shown ++ "\n")]

/- Log debug messages first, if they are wanted. -/
def debugging
    (verbose : Bool)
    (messages : List String)
    (plan : Plan) : Plan :=
  if verbose then
    plan.before (messages.map (.log ⟨.debug, ·⟩))
  else
    plan

end Plan

------------------------------------------------------------
-- Running
------------------------------------------------------------

/- What a command leaves behind. -/
structure Outcome where
  tree : FileTree
  output : String
  log : List LogRecord
  ending : Ending
deriving DecidableEq, Repr

/-
  Carry steps out, from the first on.  Nothing is printed of a
  text that cannot be encoded.
-/
def Plan.runSteps
    (programs : Programs)
    (ending : Ending) :
    Outcome →
    List Step →
    Outcome
  | outcome, [] => { outcome with ending := ending }
  | outcome, .print text :: rest =>
      if Text.isWhole text then
        runSteps programs ending
          { outcome with output := outcome.output ++ text } rest
      else
        { outcome with
          ending := .failure (.file ⟨.unencodableOutput, text⟩) }
  | outcome, .log record :: rest =>
      runSteps programs ending
        { outcome with log := outcome.log ++ [record] } rest
  | outcome, .write path text :: rest =>
      match outcome.tree.writeText path text with
      | (tree, .ok ()) =>
          runSteps programs ending
            { outcome with tree := tree } rest
      | (tree, .error fault) =>
          { outcome with
            tree := tree
            ending := .failure (.file fault) }
  | outcome, .format path formatter :: rest =>
      match outcome.tree.format programs formatter path with
      | .ok formatting =>
          runSteps programs ending
            { outcome with
              tree := formatting.tree
              log := outcome.log
                ++ formatting.warnings.map (⟨.warning, ·⟩) }
            rest
      | .error fault =>
          { outcome with ending := .failure (.file fault) }

/- Carry a plan out on a tree. -/
def Plan.run
    (plan : Plan)
    (programs : Programs)
    (tree : FileTree) : Outcome :=
  runSteps programs plan.ending
    ⟨tree, "", [], plan.ending⟩ plan.steps

end ElementBindings
