import ElementBindings.Text.CodePoint

/-
  Lines of a text.

  A line ends at a line feed, a carriage return, the two
  together, or one of the other boundaries of Unicode.  A
  boundary at the very end closes the last line and opens no
  further one.

  Key definitions include:
    * `Text.isLineBoundary`
    * `Text.splitLines`
    * `Text.splitAtEach`
    * `Text.joinWith`
    * `Text.indent`
-/

namespace ElementBindings

namespace Text

------------------------------------------------------------
-- Boundaries
------------------------------------------------------------

/- The characters that end a line. -/
def lineBoundaryRanges : List (Nat × Nat) :=
  [ (0x000A, 0x000D), (0x001C, 0x001E), (0x0085, 0x0085),
    (0x2028, 0x2029) ]

/- A character that ends a line. -/
def isLineBoundary
    (c : Char) : Bool :=
  inRanges lineBoundaryRanges c.toNat

/- The lines of a text, without their boundaries. -/
def splitLines : List Char → List (List Char)
  | [] => []
  | '\r' :: '\n' :: rest => [] :: splitLines rest
  | c :: rest =>
      if isLineBoundary c then
        [] :: splitLines rest
      else
        match splitLines rest with
        | [] => [[c]]
        | line :: lines => (c :: line) :: lines

------------------------------------------------------------
-- Separators
------------------------------------------------------------

/- The parts of a text between separators. -/
def splitAtEach
    (separator : Char) :
    List Char →
    List (List Char)
  | [] => [[]]
  | c :: rest =>
      if c = separator then
        [] :: splitAtEach separator rest
      else
        match splitAtEach separator rest with
        | [] => [[c]]
        | part :: parts => (c :: part) :: parts

------------------------------------------------------------
-- Joining
------------------------------------------------------------

/- Put a separator between neighbouring texts. -/
def joinWith
    (separator : String) :
    List String → String
  | [] => ""
  | [s] => s
  | s :: t :: rest =>
      s ++ separator ++ joinWith separator (t :: rest)

/- Put a line feed between neighbouring lines. -/
def joinLines
    (lines : List String) : String :=
  joinWith "\n" lines

------------------------------------------------------------
-- Indentation
------------------------------------------------------------

/- Put blanks before a line that is not empty. -/
def indentLine
    (width : Nat)
    (line : List Char) : List Char :=
  if line.isEmpty then
    []
  else
    List.replicate width ' ' ++ line

/-
  Indent every line but the first, and end lines with a line
  feed.  A boundary at the end of the text stays, as a line
  feed of its own.
-/
def indentChars
    (width : Nat)
    (s : List Char) : List Char :=
  match splitLines (s ++ ['\n']) with
  | [] => []
  | first :: rest =>
      first ++ rest.flatMap
        fun line => '\n' :: indentLine width line

/- Indent a text that continues a line already indented. -/
def indent
    (width : Nat)
    (s : String) : String :=
  String.ofList (indentChars width s.toList)

end Text

end ElementBindings
