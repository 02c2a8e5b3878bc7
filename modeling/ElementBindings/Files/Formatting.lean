import ElementBindings.Files.Tree

/-
  Formatting of written files.

  A formatter is a program that may change files, and ends in
  success or with a complaint.  One that is missing or fails
  is worth a warning and leaves the run as it is.

  Key definitions include:
    * `Formatter`, `FormatterRun`
    * `Formatting`
    * `FileTree.format`
-/

namespace ElementBindings

------------------------------------------------------------
-- Formatters
------------------------------------------------------------

/- What a formatter leaves: files, success, and a complaint. -/
structure FormatterRun where
  tree : FileTree
  succeeded : Bool
  complaint : String
deriving DecidableEq, Repr

/- A formatter is run on the file at a path. -/
abbrev Formatter :=
  FileTree → Path → FormatterRun

/- The programs of a system, by the name they are called with. -/
abbrev Programs :=
  FileTree → String → Option Formatter

/- A system on which no program is found. -/
def Programs.none : Programs :=
  fun _ _ => Option.none

------------------------------------------------------------
-- Warnings
------------------------------------------------------------

/- The warning about a formatter that is not found. -/
def missingFormatter
    (name : String)
    (path : Path) : String :=
  name ++ " not found, skipping formatting of " ++ path.text

/- The warning about a formatter that failed. -/
def failedFormatter
    (path : Path)
    (complaint : String) : String :=
  "zig fmt failed for " ++ path.text ++ ": "
    ++ String.ofList (Text.trim complaint.toList)

------------------------------------------------------------
-- Formatting
------------------------------------------------------------

/- The outcome of formatting one file. -/
structure Formatting where
  tree : FileTree
  formatted : Bool
  warnings : List String
deriving DecidableEq, Repr

/-
  Format the file at a path with a named program.  A path that
  no file can have cannot be handed to a program, unless it is
  only too long.
-/
def FileTree.format
    (tree : FileTree)
    (programs : Programs)
    (name : String)
    (path : Path) : Except FileFault Formatting :=
  match programs tree name with
  | none => .ok ⟨tree, false, [missingFormatter name path]⟩
  | some formatter =>
      match (FileTree.flaw? path).filter (· ≠ .tooLong) with
      | some cause => .error ⟨cause, path.text⟩
      | none =>
          let run := formatter tree path
          if run.succeeded then
            .ok ⟨run.tree, true, []⟩
          else
            .ok ⟨run.tree, false,
              [failedFormatter path run.complaint]⟩

end ElementBindings
