import ElementBindings.Console.Basic
import ElementBindings.Console.Style
import ElementBindings.Fault
import ElementBindings.Text.Word

/-
  Text with tags in brackets, as the console prints it.

  A tag starts with a small letter or one of three signs and
  prints nothing.  A backslash before a tag makes it plain
  text.  Between tags, the console shows characters for their
  codes; no code goes on behind a tag, even a plain one.
  Closing tags have to match an open one; styles are compared
  by their full names.  The parameters of an action, whose name
  starts with an at sign, have to be a literal value once the
  action is closed.

  Key definitions include:
    * `Markup.Piece`, `Markup.pieces`
    * `Markup.escape`
    * `Markup.Chunk`, `Markup.chunks`
    * `Markup.Token`, `Markup.tokens`
    * `Markup.Span`, `Markup.Printed`, `Markup.read`
-/

namespace ElementBindings

namespace Markup

------------------------------------------------------------
-- Pieces
------------------------------------------------------------

/- A plain character, or a tag behind some backslashes. -/
inductive Piece where
  | plain (c : Char)
  | tag (slashes : Nat) (body : List Char)
deriving DecidableEq, Repr

/- A character that may start a tag. -/
def startsTag
    (c : Char) : Bool :=
  Text.isSmall c || c = '#' || c = '/' || c = '@'

/- The body of the tag at the start of a text, and the rest. -/
def tag? : List Char → Option (List Char × List Char)
  | '[' :: c :: rest =>
      if startsTag c then
        let body := rest.takeWhile fun c => c ≠ ']' && c ≠ '['
        match rest.drop body.length with
        | ']' :: after => some (c :: body, after)
        | _ => none
      else
        none
  | _ => none

/- The first pieces of a text, up to some number. -/
def firstPieces :
    Nat →
    List Char →
    List Piece
  | 0, _ => []
  | _ + 1, [] => []
  | count + 1, c :: rest =>
      let s := c :: rest
      let slashes := (s.takeWhile (· = '\\')).length
      match tag? (s.drop slashes) with
      | some (body, after) =>
          .tag slashes body :: firstPieces count after
      | none => .plain c :: firstPieces count rest

/- The pieces of a text; there is a character in each. -/
def pieces
    (s : List Char) : List Piece :=
  firstPieces s.length s

/- A tag as it is written. -/
def bracketed
    (body : List Char) : List Char :=
  '[' :: body ++ [']']

------------------------------------------------------------
-- Escaping
------------------------------------------------------------

/- Double the backslashes before a tag and add one. -/
def Piece.escaped : Piece → List Char
  | .plain c => [c]
  | .tag slashes body =>
      List.replicate (2 * slashes + 1) '\\' ++ bracketed body

/- Make a text print as it is. -/
def escape
    (s : String) : String :=
  let escaped := (pieces s.toList).flatMap Piece.escaped
  let slashes := escaped.reverse.takeWhile (· = '\\')
  String.ofList
    (if slashes.length = 1 then escaped ++ ['\\'] else escaped)

------------------------------------------------------------
-- Chunks
------------------------------------------------------------

/- A run of plain characters, or a tag with its position. -/
inductive Chunk where
  | run (s : List Char)
  | tag (position : Nat) (body : List Char)
deriving DecidableEq, Repr

/-
  The chunks of pieces from a position on, given the run that
  stands before them.  Of two backslashes before a tag one is
  kept, and one that is left makes the tag a run.  A backslash
  before any other opening bracket is not kept.
-/
def chunksFrom :
    Nat →
    List Char →
    List Piece →
    List Chunk
  | _, run, [] => [.run run]
  | position, run, .plain '\\' :: .plain '[' :: rest =>
      chunksFrom (position + 2) (run ++ ['[']) rest
  | position, run, .plain c :: rest =>
      chunksFrom (position + 1) (run ++ [c]) rest
  | position, run, .tag slashes body :: rest =>
      let start := position + slashes
      let item :=
        if slashes % 2 = 1 then
          .run (bracketed body)
        else
          .tag start body
      .run run :: .run (List.replicate (slashes / 2) '\\')
        :: item
        :: chunksFrom (start + (bracketed body).length) [] rest

/- The chunks of a text. -/
def chunks
    (s : List Char) : List Chunk :=
  chunksFrom 0 [] (pieces s)

------------------------------------------------------------
-- Tokens
------------------------------------------------------------

/- A character to print, or a tag with its position. -/
inductive Token where
  | plain (c : Char)
  | tag (position : Nat) (body : List Char)
deriving DecidableEq, Repr

/- The tokens of a chunk, with characters for codes. -/
def Chunk.tokens
    (console : Console) :
    Chunk →
    List Token
  | .run s => (console.decode s).map .plain
  | .tag position body => [.tag position body]

/- The tokens of a text. -/
def tokens
    (console : Console)
    (s : List Char) : List Token :=
  (chunks s).flatMap (Chunk.tokens console)

------------------------------------------------------------
-- Tags
------------------------------------------------------------

/- A tag with what stands behind its first equals sign. -/
structure Tag where
  name : String
  parameters : Option String
deriving DecidableEq, Repr

namespace Tag

/- Read the body of a tag, whose name may need its full form. -/
def ofBody
    (nameOf : List Char → Except DecodeFault String)
    (body : List Char) : Except Fault Tag := do
  let written := body.takeWhile (· ≠ '=')
  let name ← (nameOf written).mapError Fault.decode
  let parameters :=
    match body.drop written.length with
    | [] => none
    | _ :: rest => some (String.ofList rest)
  return { name := name, parameters := parameters }

/- The style that a tag gives to the text inside. -/
def style
    (tag : Tag) : String :=
  match tag.parameters with
  | none => tag.name
  | some parameters => tag.name ++ " " ++ parameters

/- A tag that names an action. -/
def isAction
    (tag : Tag) : Bool :=
  tag.name.toList.head? = some '@'

/-
  The part of parameters that has to be a literal value: what
  stands in parentheses behind a name, or everything.
-/
def literalPart
    (parameters : List Char) : List Char :=
  let s := Text.trim parameters
  let name := s.takeWhile fun c => Text.isWordChar c || c = '.'
  let rest := s.drop name.length
  let isCall := rest.head? = some '('
    && rest.getLast? = some ')' && !rest.contains '\n'
  if rest.isEmpty then
    ['(', ')']
  else if isCall then
    rest
  else
    s

/- Check the parameters of an action. -/
def checkParameters
    (parameters : String) : Except MarkupFault Unit :=
  let part := literalPart parameters.toList
  match Literal.check part with
  | .ok () => .ok ()
  | .error (.misread fault) =>
      .error (.misread (String.ofList part) parameters fault)
  | .error (.flawed flaw) => .error (.flawed parameters flaw)

/- The style that a tag has given when it is closed. -/
def close
    (tag : Tag) : Except Fault (Option String) :=
  if tag.isAction then
    match tag.parameters with
    | none | some "" => .ok none
    | some parameters =>
        match checkParameters parameters with
        | .ok () => .ok none
        | .error fault => .error (.markup fault)
  else
    .ok (some tag.style)

end Tag

------------------------------------------------------------
-- Printing
------------------------------------------------------------

/- Bells and characters that would move the cursor. -/
def silentCharacters : List Char :=
  ['\x07', '\x08', '\x0b', '\x0c', '\r']

/- A character that the console does not print. -/
def isSilent
    (c : Char) : Bool :=
  silentCharacters.contains c

/-
  A part of a printed text with the style that it is given;
  actions give none.
-/
structure Span where
  start : Nat
  stop : Nat
  style : Option String
deriving DecidableEq, Repr

/- A text without its tags, and the parts that tags cover. -/
structure Printed where
  text : List Char
  spans : List Span
deriving DecidableEq, Repr

namespace Printed

/- Print a character first. -/
def before
    (c : Char)
    (printed : Printed) : Printed :=
  { printed with text := c :: printed.text }

/- Cover a part first. -/
def covering
    (span : Span)
    (printed : Printed) : Printed :=
  { printed with spans := span :: printed.spans }

end Printed

/- A tag that is open from a position on. -/
structure OpenTag where
  start : Nat
  tag : Tag
deriving DecidableEq, Repr

/- What an open tag covers when the text ends. -/
def OpenTag.untilEnd
    (stop : Nat)
    (opened : OpenTag) : Span :=
  ⟨opened.start, stop, some opened.tag.style⟩

/- What an open tag covers when it is closed. -/
def OpenTag.close
    (stop : Nat)
    (opened : OpenTag) : Except Fault Span := do
  let style ← opened.tag.close
  return ⟨opened.start, stop, style⟩

/-
  Print tokens at a position while some tags are open, the
  innermost first.
-/
def printTokens :
    Nat →
    List OpenTag →
    List Token →
    Except Fault Printed
  | here, opened, [] => .ok ⟨[], opened.map (·.untilEnd here)⟩
  | here, opened, .plain c :: rest =>
      if isSilent c then
        printTokens here opened rest
      else
        (printTokens (here + 1) opened rest).map
          (Printed.before c)
  | here, opened, .tag position body :: rest => do
      match body with
      | '/' :: closing =>
          let written := closing.takeWhile (· ≠ '=')
          if (Text.trim written).isEmpty then
            match opened with
            | [] => throw (.markup (.nothingOpen position))
            | innermost :: outer =>
                let span ← innermost.close here
                return (← printTokens here outer rest).covering
                  span
          else
            let closed ← Tag.ofBody Style.nameOf closing
            let matching (opened : OpenTag) : Bool :=
              opened.tag.name = closed.name
            match opened.find? matching with
            | some found =>
                let span ← found.close here
                let outer := opened.eraseP matching
                return (← printTokens here outer rest).covering
                  span
            | none =>
                throw (.markup (.unopened
                  (String.ofList (bracketed body)) position))
      | _ =>
          let tag ← Tag.ofBody Style.nameOf body
          printTokens here (⟨here, tag⟩ :: opened) rest

/-
  The parts that tags cover, those that start first before the
  others, and of two with one start the outer one first.
-/
def Printed.ordered
    (printed : Printed) : Printed :=
  { printed with
    spans := printed.spans.reverse.mergeSort fun first second =>
      first.start ≤ second.start }

/- Take a text with tags apart. -/
def read
    (console : Console)
    (s : String) : Except Fault Printed :=
  (printTokens 0 [] (tokens console s.toList)).map
    Printed.ordered

end Markup

end ElementBindings
