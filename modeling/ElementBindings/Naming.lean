import ElementBindings.Text.Case

/-
  Names of generated symbols and files.

  A snake case name separates words by underscores; a word
  begins at a capital after a small letter or a digit, and at
  the last of several capitals before a small letter.  A
  Pascal case name drops underscores and runs of spaces and
  capitalises what follows them.

  Key definitions include:
    * `Naming.snakeCase`
    * `Naming.pascalCase`
    * `Naming.camelCase`
-/

namespace ElementBindings

namespace Naming

------------------------------------------------------------
-- Snake Case
------------------------------------------------------------

/- Part an acronym from the capitalised word after it. -/
def splitAcronyms : List Char → List Char
  | a :: b :: c :: rest =>
      if Text.isCapital a && Text.isCapital b
          && Text.isSmall c then
        a :: '_' :: b :: c :: splitAcronyms rest
      else
        a :: splitAcronyms (b :: c :: rest)
  | s => s

/- A word may end in a small letter or a digit. -/
def endsWord
    (c : Char) : Bool :=
  Text.isSmall c || Text.isDecimalDigit c

/- Part a word from the capitalised word after it. -/
def splitWords : List Char → List Char
  | a :: b :: rest =>
      if endsWord a && Text.isCapital b then
        a :: '_' :: b :: splitWords rest
      else
        a :: splitWords (b :: rest)
  | s => s

/- Hyphens and blanks become underscores. -/
def separatorToUnderscore
    (c : Char) : Char :=
  if c = '-' || Text.isBlank c then '_' else c

/- The snake case of a name, over characters. -/
def snakeChars
    (s : List Char) : List Char :=
  Text.lower
    ((splitWords (splitAcronyms s)).map separatorToUnderscore)

/- The snake case of a name. -/
def snakeCase
    (name : String) : String :=
  String.ofList (snakeChars name.toList)

------------------------------------------------------------
-- Pascal Case
------------------------------------------------------------

/- The separator that has been read and not yet used up. -/
inductive Pending where
  | nothing
  | underscore
  | spaces
deriving DecidableEq, Repr

/- A separator that nothing used up stands for itself. -/
def Pending.kept : Pending → List Char
  | .nothing => []
  | .underscore => ['_']
  | .spaces => [' ']

/-
  Capitalise the character after a separator and drop the
  separator, unless the line ends there.
-/
def joinWords : Pending → List Char → List Char
  | pending, [] => pending.kept
  | .nothing, c :: rest =>
      if c = '_' then joinWords .underscore rest
      else if c = ' ' then joinWords .spaces rest
      else c :: joinWords .nothing rest
  | .underscore, c :: rest =>
      if c = '\n' then
        '_' :: '\n' :: joinWords .nothing rest
      else
        Text.upperChar c ++ joinWords .nothing rest
  | .spaces, c :: rest =>
      if c = ' ' then
        joinWords .spaces rest
      else if c = '\n' then
        ' ' :: '\n' :: joinWords .nothing rest
      else
        Text.upperChar c ++ joinWords .nothing rest

/- The Pascal case of a name, over characters. -/
def pascalChars : List Char → List Char
  | [] => []
  | c :: rest =>
      if c = '\n' then
        '\n' :: joinWords .nothing rest
      else
        Text.upperChar c ++ joinWords .nothing rest

/- The Pascal case of a name. -/
def pascalCase
    (name : String) : String :=
  String.ofList (pascalChars name.toList)

------------------------------------------------------------
-- Camel Case
------------------------------------------------------------

/- The camel case of a name, over characters. -/
def camelChars
    (s : List Char) : List Char :=
  match pascalChars s with
  | [] => []
  | c :: rest => Text.lowerChar c ++ rest

/- The camel case of a name: Pascal case with a small start. -/
def camelCase
    (name : String) : String :=
  String.ofList (camelChars name.toList)

end Naming

end ElementBindings
