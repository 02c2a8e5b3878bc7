import ElementBindings.Catalog.Basic
import ElementBindings.Fault
import ElementBindings.Naming

/-
  Paths of files.

  A path has no slash at its start, or one, or two; three and
  more count as one.  Empty components and single dots say
  nothing and are dropped, double dots are kept.

  Key definitions include:
    * `Path`, `Path.ofString`, `Path.text`
    * `Path.join`, `Path.parent`
    * `Element.path`
-/

namespace ElementBindings

------------------------------------------------------------
-- Splitting
------------------------------------------------------------

/- The parts of a text between slashes. -/
def splitSlashes
    (s : List Char) : List (List Char) :=
  Text.splitAtEach '/' s

------------------------------------------------------------
-- Paths
------------------------------------------------------------

/- The slashes at the start of a path and its components. -/
structure Path where
  root : Nat
  parts : List String
deriving DecidableEq, Repr

namespace Path

/- The slashes that a path keeps of those it starts with. -/
def rootOf
    (s : List Char) : Nat :=
  let slashes := (s.takeWhile (· = '/')).length
  if slashes = 0 then 0 else if slashes = 2 then 2 else 1

/- Read a path. -/
def ofString
    (s : String) : Path :=
  { root := rootOf s.toList
    parts :=
      ((splitSlashes s.toList).map String.ofList).filter
        fun part => part ≠ "" && part ≠ "." }

/- A path as it is written; the empty path is a dot. -/
def text
    (path : Path) : String :=
  let s := String.ofList (List.replicate path.root '/')
    ++ Text.joinWith "/" path.parts
  if s = "" then "." else s

/- Continue a path; one that starts with a slash replaces it. -/
def join
    (path : Path)
    (s : String) : Path :=
  let next := ofString s
  if next.root = 0 then
    { path with parts := path.parts ++ next.parts }
  else
    next

/- The path of the directory that holds a path. -/
def parent
    (path : Path) : Path :=
  { path with parts := path.parts.dropLast }

end Path

------------------------------------------------------------
-- Output Paths
------------------------------------------------------------

/- Where the source of an element lives under a directory. -/
def Element.path
    (base : Path)
    (element : Element) : Except Fault Path := do
  let name ← needed .search element.name
  return (base.join "elements").join
    (Naming.snakeCase name ++ ".zig")

end ElementBindings
