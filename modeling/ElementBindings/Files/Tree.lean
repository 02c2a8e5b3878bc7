import ElementBindings.Files.Path

/-
  A tree of files and directories, without links.

  A location is the list of names that leads from the root to
  an entry.  A path is looked up from the root or from the
  working directory, and everything it passes through has to
  be a directory.  Names and paths have a greatest size, in
  octets.  A file is empty once it is opened for writing, and
  stays so if what is to be written cannot be encoded.

  Key definitions include:
    * `FileTree`, `FileTree.entry?`, `FileTree.put`
    * `FileTree.flaw?`, `FileTree.resolve`
    * `FileTree.stat?`, `FileTree.kind?`
    * `FileTree.makeDirectories`
    * `FileTree.writeText`
    * `FileTree.files`
-/

namespace ElementBindings

------------------------------------------------------------
-- Trees
------------------------------------------------------------

/- The names that lead from the root to an entry. -/
abbrev Location :=
  List String

/-
  A file with its text, a file whose octets need not be a
  text, or a directory.
-/
inductive Entry where
  | file (text : String)
  | binary (octets : List UInt8)
  | directory
deriving DecidableEq, Repr

/- What stands at a location, without its contents. -/
inductive EntryKind where
  | file
  | directory
deriving DecidableEq, Repr

/- The kind of an entry. -/
def Entry.kind : Entry → EntryKind
  | .directory => .directory
  | _ => .file

/- The entries of a tree, and its working directory. -/
structure FileTree where
  workingDirectory : Location
  entries : List (Location × Entry)
deriving DecidableEq, Repr

namespace FileTree

/- A tree that holds nothing but its working directory. -/
def ofWorkingDirectory
    (location : Location) : FileTree :=
  { workingDirectory := location
    entries :=
      (List.range location.length).map fun depth =>
        (location.take (depth + 1), .directory) }

/- The entry at a location; the root is a directory. -/
def entry?
    (tree : FileTree)
    (location : Location) : Option Entry :=
  if location = [] then
    some .directory
  else
    tree.entries.lookup location

/- Set the entry at a location. -/
def put
    (tree : FileTree)
    (location : Location)
    (entry : Entry) : FileTree :=
  { tree with
    entries :=
      (location, entry)
        :: tree.entries.filter (·.1 ≠ location) }

/- The texts below the working directory, by relative path. -/
def files
    (tree : FileTree) : List (String × String) :=
  tree.entries.filterMap fun (location, entry) =>
    match entry with
    | .directory | .binary _ => none
    | .file text =>
        let depth := tree.workingDirectory.length
        if location.take depth = tree.workingDirectory then
          some (Text.joinWith "/" (location.drop depth), text)
        else
          none

------------------------------------------------------------
-- Looking Up
------------------------------------------------------------

/- One step from a directory. -/
def step
    (location : Location)
    (name : String) : Location :=
  if name = "" || name = "." then location
  else if name = ".." then location.dropLast
  else location ++ [name]

/- Follow names, each from an existing directory. -/
def follow
    (tree : FileTree)
    (location : Location) :
    List String →
    Except FileError Location
  | [] => .ok location
  | name :: rest =>
      match tree.entry? location with
      | none => .error .notFound
      | some .directory =>
          follow tree (step location name) rest
      | some _ => .error .notDirectory

/- Some name holds the character that no path may hold. -/
def hasNul
    (names : List String) : Bool :=
  names.any fun name => name.toList.contains '\x00'

/- The octets that the name of an entry can have. -/
def maxNameSize : Nat := 255

/- The octets that a path can have. -/
def maxPathSize : Nat := 4095

/- A name is too long for an entry. -/
def isTooLong
    (name : String) : Bool :=
  maxNameSize < Text.nameSize name

/- What makes a path unfit, whatever stands in the tree. -/
def flaw?
    (path : Path) : Option FileCause :=
  if !path.parts.all Text.isNameable then
    some .unencodablePath
  else if hasNul path.parts then
    some (.refused .nulCharacter)
  else if maxPathSize < Text.nameSize path.text then
    some .tooLong
  else
    none

/-
  The location that a path leads to; it need not exist.  A name
  that is too long is refused where it would be looked up.
-/
def resolve
    (tree : FileTree)
    (path : Path) : Except FileCause Location :=
  match flaw? path with
  | some cause => .error cause
  | none =>
      let start :=
        if path.root = 0 then tree.workingDirectory else []
      let short := path.parts.takeWhile (!isTooLong ·)
      let names := path.parts.take (short.length + 1)
      match follow tree start names with
      | .error error => .error (.refused error)
      | .ok location =>
          if short = path.parts then
            .ok location
          else
            .error .tooLong

/-
  The entry that a text leads to.  Here empty components and
  dots count: they stand only behind a directory.
-/
def stat?
    (tree : FileTree)
    (s : String) : Option Entry :=
  if s = "" || maxPathSize < Text.nameSize s then
    none
  else
    let start :=
      if Path.rootOf s.toList = 0 then
        tree.workingDirectory
      else
        []
    let names := (splitSlashes s.toList).map String.ofList
    match follow tree start names with
    | .ok location => tree.entry? location
    | .error _ => none

/- The kind of the entry that a text leads to. -/
def kind?
    (tree : FileTree)
    (s : String) : Option EntryKind :=
  (tree.stat? s).map Entry.kind

/- A path leads to a directory. -/
def isDirectory
    (tree : FileTree)
    (path : Path) : Bool :=
  match tree.resolve path with
  | .ok location => tree.entry? location = some .directory
  | .error _ => false

------------------------------------------------------------
-- Directories
------------------------------------------------------------

/- Make one directory. -/
def makeDirectory
    (tree : FileTree)
    (path : Path) : Except FileCause FileTree := do
  let location ← tree.resolve path
  match tree.entry? location with
  | some _ => .error (.refused .alreadyExists)
  | none => .ok (tree.put location .directory)

/- A fault at a path. -/
def faultAt
    (path : Path)
    (cause : FileCause) : Except FileFault Unit :=
  .error ⟨cause, path.text⟩

/- What is left after an attempt that may have failed halfway. -/
abbrev Attempt :=
  FileTree × Except FileFault Unit

/- A failure is forgiven where a directory is there already. -/
def unlessDirectory
    (tree : FileTree)
    (path : Path)
    (cause : FileCause) : Attempt :=
  if tree.isDirectory path then
    (tree, .ok ())
  else
    (tree, faultAt path cause)

/-
  Make the directory of some components, last one first, and
  the directories above it where they are missing.
-/
def makeChain
    (tree : FileTree)
    (root : Nat) :
    List String →
    Attempt
  | [] =>
      let path : Path := ⟨root, []⟩
      match tree.makeDirectory path with
      | .ok made => (made, .ok ())
      | .error cause => unlessDirectory tree path cause
  | name :: above =>
      let path : Path := ⟨root, (name :: above).reverse⟩
      match tree.makeDirectory path with
      | .ok made => (made, .ok ())
      | .error (.refused .notFound) =>
          match makeChain tree root above with
          | (tree, .error fault) => (tree, .error fault)
          | (tree, .ok ()) =>
              match tree.makeDirectory path with
              | .ok made => (made, .ok ())
              | .error cause => unlessDirectory tree path cause
      | .error cause => unlessDirectory tree path cause

/- Make a directory and the missing ones above it. -/
def makeDirectories
    (tree : FileTree)
    (path : Path) : Attempt :=
  tree.makeChain path.root path.parts.reverse

------------------------------------------------------------
-- Files
------------------------------------------------------------

/- Put a text in a file whose directory exists. -/
def putText
    (tree : FileTree)
    (path : Path)
    (text : String) : Except FileCause FileTree := do
  let location ← tree.resolve path
  match tree.entry? location with
  | some .directory => .error (.refused .isDirectory)
  | _ => .ok (tree.put location (.file text))

/- What is written of a text: all of it, or nothing. -/
def encoded
    (text : String) : String :=
  if Text.isWhole text then text else ""

/-
  Write a text, making missing directories.  The file is opened
  before the text is encoded.
-/
def writeText
    (tree : FileTree)
    (path : Path)
    (text : String) : Attempt :=
  match tree.makeDirectories path.parent with
  | (tree, .error fault) => (tree, .error fault)
  | (tree, .ok ()) =>
      match tree.putText path (encoded text) with
      | .error cause => (tree, faultAt path cause)
      | .ok written =>
          if Text.isWhole text then
            (written, .ok ())
          else
            (written, .error ⟨.unencodableText, text⟩)

end FileTree

end ElementBindings
