import ElementBindings.Console.Literal.Reader
import ElementBindings.Text.Utf8

/-
  Texts that are literal values.

  A text is read by the grammar.  If that fails, it is read
  again to find out which mistake was made.  Faults of its
  tokens count before mistakes, also those behind the place
  where the reading has ended.

  Key definitions include:
    * `Literal.readText`
    * `Literal.check`
-/

namespace ElementBindings

namespace Literal

------------------------------------------------------------
-- Limits
------------------------------------------------------------

/- How deep rules may be nested. -/
def maxNesting : Nat := 6000

/-
  More steps than a reading of some tokens can nest: a rule
  adds a few, and a list of items one for each.
-/
def stepsFor
    (size : Nat) : Nat :=
  (maxNesting + 1) * (size + 64)

------------------------------------------------------------
-- Reading Twice
------------------------------------------------------------

/-
  Read tokens by a rule from the start, given how many have
  been asked for before.
-/
def readFromStart
    (manner : Manner)
    (rule : Rule)
    (asked : Nat) : Result (Option Tree) :=
  let size := manner.tokens.size
  readRule (stepsFor size) rule manner
    ⟨0, asked, Array.replicate (size + 1) []⟩

/- The last token that a reading has asked for. -/
def lastAsked
    (manner : Manner)
    (memory : Memory) : Option PlacedToken :=
  manner.tokens[memory.asked - 1]?

/-
  The fault of the tokens behind a reading, if there is one: a
  fault of the text, or an open bracket on an earlier line
  than the one where the reading has ended.
-/
def laterFault?
    (manner : Manner)
    (memory : Memory) : Option SyntaxFault :=
  match manner.ending with
  | .complete => none
  | .broken fault => some fault
  | .stopped _ none => none
  | .stopped _ (some bracket) =>
      let line := (lastAsked manner memory).map (·.spot.line)
      if line.any (bracket.line < ·) then
        some (.neverClosed bracket.opening)
      else
        none

/- A fault for which no other one is looked for. -/
def isFinal
    (fault : SyntaxFault) : Bool :=
  fault = .tooDeep || fault = .unplaced

/-
  Where an expression starts and how the faults that are found
  in it are reported.
-/
structure Frame where
  start : Start
  report : SyntaxFault → SyntaxFault

/-
  The fault of a mistake.  At a column in front of the start
  there is no place to report it.
-/
def Frame.faultOf
    (frame : Frame)
    (mistake : Mistake) : SyntaxFault :=
  match mistake.column with
  | none => mistake.fault
  | some column =>
      if column < frame.start.margin then
        .unplaced
      else
        frame.report mistake.fault

/-
  The fault that counts where a reading has found one.  Nothing
  stands behind a token that was found to end where the text
  ends.
-/
def firstFault
    (manner : Manner)
    (memory : Memory)
    (fault : SyntaxFault) : SyntaxFault :=
  let isLast := (lastAsked manner memory).any (·.meetsEnd)
  if isLast || isFinal fault then
    fault
  else
    (laterFault? manner memory).getD fault

/-
  The fault of a text that no rule matches, given what was
  asked for when mistakes were not looked for.
-/
def plainFault
    (frame : Frame)
    (manner : Manner)
    (first second : Memory) : SyntaxFault :=
  let last := lastAsked manner first
  if last.any (·.token = .indentation) then
    .unexpectedIndent
  else
    (laterFault? manner second).getD
      (frame.faultOf ⟨.invalid, last.map (·.spot.column)⟩)

/- The fault behind a reading that was broken off. -/
def haltFault
    (frame : Frame)
    (manner : Manner)
    (memory : Memory) :
    Halt →
    SyntaxFault
  | .fault fault => fault
  | .mistake mistake =>
      firstFault manner memory (frame.faultOf mistake)

/- Read a text by a rule. -/
def readText
    (inner : InnerReader)
    (rule : Rule)
    (frame : Frame)
    (s : List Char) : Except SyntaxFault Tree :=
  let scan := scan frame.start s
  let manner : Manner :=
    ⟨scan.tokens.toArray, scan.ending, inner, false, maxNesting⟩
  match readFromStart manner rule 0 with
  | .done (some tree) _ => .ok tree
  | .halted halt memory =>
      .error (haltFault frame manner memory halt)
  | .done none first =>
      let seeking := { manner with seeks := true }
      match readFromStart seeking rule first.asked with
      | .halted halt memory =>
          .error (haltFault frame manner memory halt)
      | .done _ second =>
          .error (plainFault frame manner first second)

------------------------------------------------------------
-- Texts
------------------------------------------------------------

/-
  The fault of an expression inside a string.  The first
  argument bounds how deep strings are nested.
-/
def innerFault? : Nat → InnerReader
  | 0, _, _ => none
  | depth + 1, start, s =>
      let text := '(' :: s ++ [')', '\n']
      match
        readText (innerFault? depth) .inner ⟨start, .insideString⟩
          text
      with
      | .ok _ => none
      | .error fault => some fault

/- Check that a text is a literal value. -/
def check
    (s : List Char) : Except Fault Unit :=
  let text := (Text.unifyLineFeeds s).dropWhile fun c =>
    c = ' ' || c = '\t'
  if text.contains '\x00' then
    .error (.flawed .holdsNul)
  else
    let inner := innerFault? text.length
    match readText inner .whole ⟨⟨1, 0⟩, id⟩ text with
    | .error .tooDeep => .error (.flawed .tooDeep)
    | .error .unplaced => .error (.flawed .unplaced)
    | .error fault => .error (.misread fault)
    | .ok tree =>
        match (expressionAt 0 [tree]).meaning.flaw? with
        | some flaw => .error (.flawed flaw)
        | none => .ok ()

end Literal

end ElementBindings
