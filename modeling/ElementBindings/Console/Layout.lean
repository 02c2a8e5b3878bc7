import ElementBindings.Console.Markup
import ElementBindings.Text.Line
import ElementBindings.Text.Width

/-
  Lines of a text whose parts have styles.

  Lines end at line feeds, and tabs become blanks up to the
  next stop.  A line with more characters than the console has
  cells loses blanks at its end.  Where lines are not left as
  long as they are, one that is too wide is broken between
  words; a word that is too wide itself is folded on the
  console, but cut off in a column.  A style counts where it
  covers something of a line.

  Key definitions include:
    * `Printed.slice`, `Printed.append`
    * `Printed.lines`
    * `Printed.longLines`, `Printed.foldedLines`
    * `Printed.linesIn`
    * `Printed.check`
    * `Markup.render`, `Markup.renderFolded`
-/

namespace ElementBindings

namespace Markup

------------------------------------------------------------
-- Parts of Texts
------------------------------------------------------------

/- A part of a text has something of a range in it. -/
def Span.meets
    (span : Span)
    (start stop : Nat) : Bool :=
  max span.start start < min span.stop stop

/- The same part further behind. -/
def Span.shift
    (span : Span)
    (distance : Nat) : Span :=
  { span with
    start := span.start + distance
    stop := span.stop + distance }

namespace Printed

/- What stands between two positions. -/
def slice
    (printed : Printed)
    (start stop : Nat) : Printed :=
  { text := (printed.text.take stop).drop start
    spans :=
      (printed.spans.filter (·.meets start stop)).map fun span =>
        { span with
          start := max span.start start - start
          stop := min span.stop stop - start } }

/- A text divided into ranges; a single one changes nothing. -/
def divide
    (printed : Printed) :
    List (Nat × Nat) →
    List Printed
  | [] | [_] => [printed]
  | ranges =>
      ranges.map fun (start, stop) => printed.slice start stop

/- Put one text behind another. -/
def append
    (first second : Printed) : Printed :=
  { text := first.text ++ second.text
    spans := first.spans
      ++ second.spans.map (·.shift first.text.length) }

/- Blanks without a style. -/
def blank
    (size : Nat) : Printed :=
  ⟨List.replicate size ' ', []⟩

/- Keep so many characters at the start. -/
def shorten
    (printed : Printed)
    (size : Nat) : Printed :=
  { text := printed.text.take size
    spans := (printed.spans.filter (·.start < size)).map fun span =>
      { span with stop := min span.stop size } }

end Printed

------------------------------------------------------------
-- Lines
------------------------------------------------------------

/-
  The ranges of parts that stand one behind the other, each
  followed by some more characters.
-/
def rangesOf
    (between : Nat)
    (start : Nat) :
    List (List Char) →
    List (Nat × Nat)
  | [] => []
  | part :: rest =>
      let stop := start + part.length
      (start, stop) :: rangesOf between (stop + between) rest

/- The number of cells from one tab stop to the next. -/
def tabWidth : Nat := 8

namespace Printed

/- Blanks behind a text, which go on with its last style. -/
def extend
    (printed : Printed)
    (size : Nat) : Printed :=
  let length := printed.text.length
  { text := printed.text ++ List.replicate size ' '
    spans := printed.spans.map fun span =>
      if length ≤ span.stop then
        { span with stop := span.stop + size }
      else
        span }

/-
  Parts that end with tabs, except for the last one, with
  blanks up to the next stop behind them, given the number of
  cells that are filled already.
-/
def align
    (filled : Nat) :
    List Printed →
    Printed
  | [] => blank 0
  | [part] => part
  | part :: next :: rest =>
      let ended :=
        { part with text := part.text.dropLast ++ [' '] }
      let reached := filled + Text.cells ended.text
      let missing := (tabWidth - reached % tabWidth) % tabWidth
      (ended.extend missing).append
        (align (reached + missing) (next :: rest))

/- A line with blanks for tabs. -/
def expandTabs
    (line : Printed) : Printed :=
  let parts := Text.splitAtEach '\t' line.text
  let ended := parts.dropLast.map (· ++ ['\t'])
  align 0
    (line.divide (rangesOf 0 0 (ended ++ [parts.getLastD []])))

/- The lines of a text. -/
def lines
    (printed : Printed) : List Printed :=
  let lines := Text.splitAtEach '\n' printed.text
  (printed.divide (rangesOf 1 0 lines)).map expandTabs

end Printed

------------------------------------------------------------
-- Breaking Lines
------------------------------------------------------------

/-
  The words of a line, each with the blanks behind it, and the
  first one also with those in front.
-/
def words
    (s : List Char) : List (List Char) :=
  let goesOn (c next : Char) : Bool :=
    !Text.isBlank c || Text.isBlank next
  match s.splitBy goesOn with
  | first :: second :: rest =>
      if first.all Text.isBlank then
        (first ++ second) :: rest
      else
        first :: second :: rest
  | groups => groups

/-
  The parts of a word that are folded to fit into some cells,
  given how many of the cells are filled already.
-/
def fold
    (width : Nat) :
    Nat →
    List Char →
    List (List Char)
  | _, [] => [[]]
  | filled, c :: rest =>
      let size := Text.cells [c]
      if width < filled + size then
        let parts := fold width size rest
        [] :: (c :: parts.headD []) :: parts.tail
      else
        let parts := fold width (filled + size) rest
        (c :: parts.headD []) :: parts.tail

/-
  The positions where a line is broken, given the position and
  how many cells are filled before the words that are left.
-/
def breaks
    (folds : Bool)
    (width : Nat)
    (start filled : Nat) :
    List (List Char) →
    List Nat
  | [] => []
  | word :: rest =>
      let size := Text.cells (Text.trimEnd word)
      let next := start + word.length
      let whole := Text.cells word
      if filled + size ≤ width then
        breaks folds width next (filled + whole) rest
      else if width < size then
        let parts := if folds then fold width 0 word else [word]
        let starts := (rangesOf 0 start parts).map (·.1)
        starts.filter (· ≠ 0)
          ++ breaks folds width next
            (Text.cells (parts.getLastD [])) rest
      else if start ≠ 0 && filled ≠ 0 then
        start :: breaks folds width next whole rest
      else
        breaks folds width next filled rest

/- The longest start of a text that fits into some cells. -/
def longestFit
    (width : Nat)
    (text : List Char) : List Char :=
  let fits (size : Nat) : Bool :=
    Text.cells (text.take size) ≤ width
  let sizes := (List.range (text.length + 1)).filter fits
  text.take (sizes.getLast?.getD 0)

/-
  A text that is cut off to fill some cells exactly.  Nothing
  is left for no cells, not even what takes no room.
-/
def cutTo
    (width : Nat)
    (text : List Char) : List Char :=
  let kept := if width = 0 then [] else longestFit width text
  kept ++ List.replicate (width - Text.cells kept) ' '

/- The sign that something of a column is cut off. -/
def ellipsis : List Char := ['…']

namespace Printed

/- The parts of a line that is broken. -/
def broken
    (folds : Bool)
    (width : Nat)
    (line : Printed) : List Printed :=
  let stops :=
    breaks folds width 0 0 (words line.text)
      ++ [line.text.length]
  line.divide ((0 :: stops).zip stops)

/-
  Leave out blanks at the end while a line has more characters
  than there are cells.
-/
def trimTo
    (width : Nat)
    (line : Printed) : Printed :=
  let length := line.text.length
  let blanks := length - (Text.trimEnd line.text).length
  let excess := min blanks (length - width)
  if excess = 0 then line else line.shorten (length - excess)

/- Cut a line off that is too wide, and put a sign behind it. -/
def cutOff
    (sign : List Char)
    (width : Nat)
    (line : Printed) : Printed :=
  if Text.cells line.text ≤ width then
    line
  else
    let text := cutTo (width - sign.length) line.text ++ sign
    if text.length < line.text.length then
      { line.shorten text.length with text := text }
    else
      { line with text := text }

/- Fill a line up to the width of its column. -/
def justify
    (width : Nat)
    (alignedRight : Bool)
    (line : Printed) : Printed :=
  if alignedRight then
    let size := (Text.trimEnd line.text).length
    let line := (line.shorten size).cutOff ellipsis width
    (blank (width - Text.cells line.text)).append line
  else
    let line := line.cutOff ellipsis width
    line.append (blank (width - Text.cells line.text))

/- The lines of a text in a column. -/
def linesIn
    (width : Nat)
    (alignedRight : Bool)
    (printed : Printed) : List Printed :=
  printed.lines.flatMap fun line =>
    (line.broken false width).map fun part =>
      ((part.trimTo width).justify width alignedRight).cutOff
        ellipsis width

/- The lines of a text as long as they are. -/
def longLines
    (width : Nat)
    (printed : Printed) : List Printed :=
  printed.lines.map (·.trimTo width)

/- The lines of a text that is folded on a console. -/
def foldedLines
    (width : Nat)
    (printed : Printed) : List Printed :=
  printed.lines.flatMap fun line =>
    (line.broken true width).map fun part =>
      (part.trimTo width).cutOff [] width

end Printed

------------------------------------------------------------
-- Printing
------------------------------------------------------------

/- A style may be no style, but has to be readable. -/
def Span.check
    (span : Span) : Except Fault Unit :=
  match span.style with
  | none => .ok ()
  | some style =>
      (discard (Style.read style.toList)).mapError Fault.decode

/- Check the styles on a line. -/
def Printed.check
    (line : Printed) : Except Fault Unit :=
  line.spans.forM Span.check

/- What lines print, one below the other. -/
def showLines
    (lines : List Printed) : Except Fault String := do
  lines.forM Printed.check
  return String.ofList
    (['\n'].intercalate (lines.map (·.text)))

/- What a text with tags prints, without breaking lines. -/
def render
    (console : Console)
    (s : String) : Except Fault String := do
  showLines ((← read console s).longLines console.width)

/- What a text with tags prints where lines are folded. -/
def renderFolded
    (console : Console)
    (s : String) : Except Fault String := do
  showLines ((← read console s).foldedLines console.width)

end Markup

end ElementBindings
