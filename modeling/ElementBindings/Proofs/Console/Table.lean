import ElementBindings.Proofs.Console.Print
import ElementBindings.Proofs.Console.Widths

/-
  Tables of texts without styles.

  A text that has no style can be shown in a column of any
  width, so that a table of such texts is always shown.  Its
  rows show one cell of each column, side by side, and are no
  wider than the console.  Where each character of a text fills
  one cell and the columns fit, the text stands on one line of
  its cell, behind or before the blanks that fill the column
  up; and a row of such texts is one line.

  Key definitions include:
    * `Column.Shows`, `Column.ShowsNarrow`
    * `Table.widths`, `Table.shownRow`
    * `padTo`, `Table.plainRow`

  Key theorems include:
    * `Table.render_of_shows`
    * `Printed.linesIn_of_narrow`
    * `Table.shownRow_of_narrow`
-/

namespace ElementBindings

------------------------------------------------------------
-- Styles of Cells
------------------------------------------------------------

namespace Markup

namespace Printed

variable {style : Option String}
variable {printed : Printed}

/- Blanks have any style. -/
theorem hasStyle_blank
    (size : Nat) :
    (blank size).HasStyle style := by
  simp [HasStyle, blank]

/- A line that is filled up keeps its style. -/
theorem HasStyle.justify
    (hStyle : printed.HasStyle style)
    (width : Nat)
    (alignedRight : Bool) :
    (printed.justify width alignedRight).HasStyle style := by
  unfold Printed.justify
  dsimp only
  split
  · exact
      (hasStyle_blank _).append
        ((hStyle.shorten _).cutOff ellipsis width)
  · exact
      (hStyle.cutOff ellipsis width).append (hasStyle_blank _)

/- The lines of a text in a column have the style of the text. -/
theorem HasStyle.linesIn
    (hStyle : printed.HasStyle style)
    (width : Nat)
    (alignedRight : Bool) :
    ∀ line ∈ printed.linesIn width alignedRight,
      line.HasStyle style := by
  intro line hLine
  rcases List.mem_flatMap.mp hLine with ⟨whole, hWhole, hPart⟩
  rcases List.mem_map.mp hPart with ⟨part, hDivided, rfl⟩
  have hHere :=
    (hStyle.lines whole hWhole).divide _ part hDivided
  exact
    ((hHere.trimTo width).justify width alignedRight).cutOff
      ellipsis width

end Printed

------------------------------------------------------------
-- Reading Cells
------------------------------------------------------------

/- A text without brackets to open is read as it is visible. -/
theorem read_of_no_bracket
    (console : Console)
    {s : String}
    (hNone : '[' ∉ s.toList) :
    read console s =
      .ok (.plain (visible (console.decode s.toList))) := by
  unfold read
  rw [tokens_of_no_bracket console hNone, printTokens_plain]
  simp [Except.map, Printed.ordered, Printed.plain]

/- A text that is escaped is read as what the console shows. -/
theorem read_escape
    (console : Console)
    (s : String) :
    read console (escape s) =
      .ok (.plain (visible (shown console [] s.toList []))) := by
  unfold read tokens chunks
  rw [chunksFrom_escape, printTokens_plain]
  simp [Except.map, Printed.ordered, Printed.plain]

end Markup

open Markup

------------------------------------------------------------
-- Columns
------------------------------------------------------------

/- The cells of a column whose texts have no style. -/
def Column.Shows
    (column : Column)
    (console : Console)
    (texts : List (List Char)) : Prop :=
  (column.heading :: column.cells).mapM (Markup.read console) =
    .ok (texts.map .plain)

/- Each of its texts is what is read from its cell. -/
theorem Column.shows_iff
    {column : Column}
    {console : Console}
    {texts : List (List Char)} :
    column.Shows console texts ↔
      List.Forall₂
        (fun cell text =>
          Markup.read console cell = .ok (.plain text))
        (column.heading :: column.cells) texts := by
  unfold Column.Shows
  rw [mapM_eq_ok_iff, List.forall₂_map_right_iff]

/- How wide a column of some texts is on a console. -/
def naturalWidth
    (console : Console)
    (texts : List (List Char)) : Nat :=
  min ((texts.map widthOf).foldl max 0
      + PrintedColumn.gap.length)
    console.width

/- What a column of some width shows of a text without style. -/
def shownCell
    (alignedRight : Bool)
    (width : Nat)
    (text : List Char) : List (List Char) :=
  let room := width - PrintedColumn.gap.length
  if room = 0 then
    []
  else
    ((Printed.plain text).linesIn room alignedRight).map
      fun line =>
        fillPieces room (piecesBetween line.edges 0 line.text)
          ++ PrintedColumn.gap

namespace PrintedColumn

/- A column that is read, of texts without style. -/
def ofTexts
    (console : Console)
    (alignedRight : Bool)
    (texts : List (List Char)) : PrintedColumn :=
  { alignedRight := alignedRight
    width := naturalWidth console texts
    cells :=
      if console.width ≤ gap.length then
        []
      else
        texts.map .plain }

/- A text without style is shown in every column. -/
theorem showCell_plain
    (column : PrintedColumn)
    (text : List Char) :
    column.showCell (.plain text) =
      .ok (shownCell column.alignedRight column.width text) := by
  have hStyle : (Printed.plain text).HasStyle (some "red") :=
    Printed.hasStyle_plain text
  have hCheck :
      ((Printed.plain text).linesIn
        (column.width - gap.length)
        column.alignedRight).forM Printed.check = .ok () := by
    apply forM_eq_ok_iff.mpr
    intro line hLine
    apply forM_eq_ok_iff.mpr
    intro span hSpan
    have hSame :=
      hStyle.linesIn _ column.alignedRight line hLine span hSpan
    unfold Span.check
    rw [hSame]
    exact isReadable_red
  unfold showCell shownCell
  dsimp only
  split
  · rfl
  · rw [hCheck, ok_bind]
    rfl

end PrintedColumn

/- A column of texts without style is read. -/
theorem Column.printed_of_shows
    {column : Column}
    {console : Console}
    {texts : List (List Char)}
    (hShows : column.Shows console texts) :
    column.printed console =
      .ok (.ofTexts console column.alignedRight texts) := by
  unfold Column.printed PrintedColumn.ofTexts naturalWidth
  dsimp only
  split
  · next hNarrow =>
      have hWidth :
          min ((texts.map widthOf).foldl max 0
              + PrintedColumn.gap.length) console.width =
            console.width := by
        omega
      rw [hWidth]
      rfl
  · rw [hShows, ok_bind, List.map_map]
    rfl

------------------------------------------------------------
-- Tables
------------------------------------------------------------

namespace Table

variable {ι : Type}
variable {indices : List ι}
variable {column : ι → Column}

/- The widths of columns with some texts on a console. -/
def widths
    (console : Console)
    (indices : List ι)
    (texts : ι → List (List Char)) : List Nat :=
  fitWidths console.width
    (indices.map fun i => naturalWidth console (texts i))

/- There is a width for each column. -/
theorem length_widths
    (console : Console)
    (indices : List ι)
    (texts : ι → List (List Char)) :
    (widths console indices texts).length = indices.length := by
  simp [widths, length_fitWidths]

/- A row of a table with columns of some widths. -/
def shownRow
    (alignedRight : ι → Bool)
    (columns : List (ι × Nat))
    (text : ι → List Char) : String :=
  sideBySide (columns.map (·.2))
    (columns.map fun (i, width) =>
      shownCell (alignedRight i) width (text i))

/- A row of columns that show texts without style. -/
theorem row_of_shows
    {console : Console}
    {columns : List (ι × Nat)}
    {texts : ι → List (List Char)}
    (hWidths : totalWidth (columns.map (·.2)) ≤ console.width)
    (alignedRight : ι → Bool)
    (index : Nat) :
    row
        (columns.map fun (i, width) =>
          (PrintedColumn.ofTexts console (alignedRight i)
            (texts i)).ofWidth width)
        index =
      .ok (shownRow alignedRight columns
        fun i => (texts i).getD index []) := by
  have hCells :
      (columns.map fun (i, width) =>
          (PrintedColumn.ofTexts console (alignedRight i)
            (texts i)).ofWidth width).mapM
          (fun column =>
            column.showCell
              (column.cells.getD index (.blank 0))) =
        .ok (columns.map fun (i, width) =>
          shownCell (alignedRight i) width
            ((texts i).getD index [])) := by
    rw [List.mapM_map]
    apply mapM_eq_map
    rintro ⟨i, width⟩ hMember
    have hListed : width ∈ columns.map (·.2) :=
      List.mem_map.mpr ⟨(i, width), hMember, rfl⟩
    have hWidth : width ≤ console.width :=
      (le_totalWidth_of_mem hListed).trans hWidths
    unfold PrintedColumn.ofWidth PrintedColumn.ofTexts
    dsimp only [Function.comp_apply]
    split
    · -- There is no room for any cell, whichever it is.
      next hNarrow =>
        have hRoom :
            width - PrintedColumn.gap.length = 0 := by
          omega
        simp [PrintedColumn.showCell, shownCell, hRoom]
        rfl
    · have hCell :
          ((texts i).map Printed.plain).getD index (.blank 0) =
            .plain ((texts i).getD index []) := by
        simp only [List.getD_eq_getElem?_getD,
          List.getElem?_map]
        cases (texts i)[index]? with
        | none => rfl
        | some text => rfl
      rw [hCell, PrintedColumn.showCell_plain]
  unfold row shownRow
  rw [hCells, ok_bind, List.map_map]
  rfl

/-
  A table of texts without style is shown row by row, in
  columns that fit the console.
-/
theorem render_of_shows
    {console : Console}
    {texts : ι → List (List Char)}
    (height : Nat)
    (hShows :
      ∀ i ∈ indices, (column i).Shows console (texts i)) :
    render console height (indices.map column) =
      .ok (Text.joinWith ""
        ((List.range (height + 1)).map fun index =>
          shownRow (fun i => (column i).alignedRight)
            (indices.zip (widths console indices texts))
            fun i => (texts i).getD index [])) := by
  let printed : ι → PrintedColumn := fun i =>
    .ofTexts console (column i).alignedRight (texts i)
  have hPrinted :
      (indices.map column).mapM (Column.printed console) =
        .ok (indices.map printed) := by
    rw [List.mapM_map]
    apply mapM_eq_map
    intro i hMember
    exact Column.printed_of_shows (hShows i hMember)
  have hFit :
      fit console.width (indices.map printed) =
        (indices.zip (widths console indices texts)).map
          fun (i, width) => (printed i).ofWidth width := by
    have hNatural :
        (indices.map printed).map (·.width) =
          indices.map fun i => naturalWidth console (texts i) := by
      rw [List.map_map]
      rfl
    unfold fit widths
    rw [hNatural, List.zipWith_map_left, List.zip,
      List.map_zipWith]
  have hSum :
      totalWidth
          ((indices.zip (widths console indices texts)).map
            (·.2)) ≤
        console.width := by
    rw [List.map_snd_zip (by rw [length_widths])]
    exact totalWidth_fitWidths_le _ _
  have hRows :
      (List.range (height + 1)).mapM
          (row (fit console.width (indices.map printed))) =
        .ok ((List.range (height + 1)).map fun index =>
          shownRow (fun i => (column i).alignedRight)
            (indices.zip (widths console indices texts))
            fun i => (texts i).getD index []) := by
    apply mapM_eq_map
    intro index _
    rw [hFit]
    exact
      row_of_shows hSum (fun i => (column i).alignedRight) index
  unfold render
  rw [hPrinted, ok_bind]
  dsimp only
  rw [hRows]
  rfl

end Table

------------------------------------------------------------
-- Narrow Cells
------------------------------------------------------------

/- A text with blanks that fill it up to some cells. -/
def padTo
    (width : Nat)
    (alignedRight : Bool)
    (text : List Char) : List Char :=
  let blanks := List.replicate (width - text.length) ' '
  if alignedRight then blanks ++ text else text ++ blanks

/- It fills them if it is not too long. -/
theorem length_padTo
    {width : Nat}
    {text : List Char}
    (hFit : text.length ≤ width)
    (alignedRight : Bool) :
    (padTo width alignedRight text).length = width := by
  unfold padTo
  cases alignedRight with
  | true =>
      simp
      omega
  | false =>
      simp
      omega

/- Blanks are narrow, so a padded text is if the text is. -/
theorem isNarrow_of_mem_padTo
    {text : List Char}
    (hNarrow : ∀ c ∈ text, Text.isNarrow c)
    (width : Nat)
    (alignedRight : Bool) :
    ∀ c ∈ padTo width alignedRight text, Text.isNarrow c := by
  intro c hMember
  have hEither :
      c ∈ List.replicate (width - text.length) ' ' ∨
        c ∈ text := by
    cases alignedRight with
    | true => simpa [padTo] using hMember
    | false => simpa [padTo, or_comm] using hMember
  rcases hEither with hBlank | hText
  · rw [List.eq_of_mem_replicate hBlank]
    exact Text.isNarrow_of_graphic (by decide)
  · exact hNarrow c hText

namespace Markup

/- A narrow text is visible as it is. -/
theorem visible_of_narrow
    {text : List Char}
    (hNarrow : ∀ c ∈ text, Text.isNarrow c) :
    visible text = text := by
  apply List.filter_eq_self.mpr
  intro c hMember
  have hChar := Text.isOrdinary_of_narrow (hNarrow c hMember)
  simp [hChar.2.2]

namespace Printed

variable {width : Nat}
variable {text : List Char}

/- A narrow text is one line, which has no tabs. -/
theorem lines_of_narrow
    (hNarrow : ∀ c ∈ text, Text.isNarrow c) :
    (plain text).lines = [plain text] := by
  have hFeed : '\n' ∉ text := fun hMember =>
    (Text.isOrdinary_of_narrow (hNarrow _ hMember)).1 rfl
  have hTab : '\t' ∉ text := fun hMember =>
    (Text.isOrdinary_of_narrow (hNarrow _ hMember)).2.1 rfl
  have hLine : (plain text).expandTabs = plain text := by
    unfold expandTabs
    rw [plain, Text.splitAtEach_of_not_mem hTab]
    rfl
  unfold lines
  have hParts :
      Text.splitAtEach '\n' (plain text).text = [text] :=
    Text.splitAtEach_of_not_mem hFeed
  rw [hParts]
  show [(plain text).expandTabs] = [plain text]
  rw [hLine]

/- A line that fits is not trimmed. -/
theorem trimTo_of_fit
    {line : Printed}
    (hFit : line.text.length ≤ width) :
    line.trimTo width = line := by
  have hNothing : line.text.length - width = 0 := by
    omega
  unfold trimTo
  simp [hNothing]

/- Nor is one cut off that fills no more cells than there are. -/
theorem cutOff_of_fit
    {line : Printed}
    (sign : List Char)
    (hFit : Text.cells line.text ≤ width) :
    line.cutOff sign width = line := by
  unfold cutOff
  rw [if_pos hFit]

/- A narrow line that fits is filled up with blanks. -/
theorem justify_of_narrow
    {alignedRight : Bool}
    (hNarrow : ∀ c ∈ text, Text.isNarrow c)
    (hFit : text.length ≤ width)
    (hEnd : alignedRight → Text.trimEnd text = text) :
    (plain text).justify width alignedRight =
      plain (padTo width alignedRight text) := by
  have hCells : Text.cells text = text.length :=
    Text.cells_of_narrow hNarrow
  have hCut :
      (plain text).cutOff ellipsis width = plain text :=
    cutOff_of_fit ellipsis (by simpa [plain, hCells] using hFit)
  cases alignedRight with
  | true =>
      have hWhole :
          (plain text).shorten text.length = plain text := by
        simp [shorten, plain]
      have hSize :
          (plain text).shorten
              (Text.trimEnd (plain text).text).length =
            plain text := by
        rw [plain, hEnd rfl]
        exact hWhole
      unfold justify
      rw [if_pos rfl]
      simp only [hSize, hCut]
      simp [append, blank, padTo, plain, hCells]
  | false =>
      unfold justify
      rw [if_neg (by simp), hCut]
      simp [append, blank, padTo, plain, hCells]

/- A narrow line that fits is not broken. -/
theorem broken_of_narrow
    (folds : Bool)
    (hNarrow : ∀ c ∈ text, Text.isNarrow c)
    (hFit : text.length ≤ width) :
    (plain text).broken folds width = [plain text] := by
  have hBreaks :
      breaks folds width 0 0 (words (plain text).text) = [] :=
    breaks_words_of_narrow folds hNarrow hFit
  unfold broken
  rw [hBreaks]
  rfl

/- So a narrow text that fits is one line in its column. -/
theorem linesIn_of_narrow
    {alignedRight : Bool}
    (hNarrow : ∀ c ∈ text, Text.isNarrow c)
    (hFit : text.length ≤ width)
    (hEnd : alignedRight → Text.trimEnd text = text) :
    (plain text).linesIn width alignedRight =
      [plain (padTo width alignedRight text)] := by
  have hPadded :
      Text.cells (padTo width alignedRight text) ≤ width := by
    rw [Text.cells_of_narrow
        (isNarrow_of_mem_padTo hNarrow width alignedRight),
      length_padTo hFit]
  unfold linesIn
  rw [lines_of_narrow hNarrow, List.flatMap_singleton,
    broken_of_narrow false hNarrow hFit, List.map_singleton,
    trimTo_of_fit hFit, justify_of_narrow hNarrow hFit hEnd,
    cutOff_of_fit ellipsis hPadded]

end Printed

/- On a console that it fits, it is printed folded as it is. -/
theorem folded_of_narrow
    {width : Nat}
    {text : List Char}
    (hNarrow : ∀ c ∈ text, Text.isNarrow c)
    (hFit : text.length ≤ width) :
    folded width text = text := by
  have hFeed : '\n' ∉ text := fun hMember =>
    (Text.isOrdinary_of_narrow (hNarrow _ hMember)).1 rfl
  have hTab : '\t' ∉ text := fun hMember =>
    (Text.isOrdinary_of_narrow (hNarrow _ hMember)).2.1 rfl
  have hCells : Text.cells text ≤ width := by
    rw [Text.cells_of_narrow hNarrow]
    exact hFit
  have hLine : foldedLine width text = [text] := by
    unfold foldedLine
    rw [Printed.broken_of_narrow true hNarrow hFit,
      List.map_singleton]
    simp only [Printed.plain, trimmed_of_fit (.inl hFit), cut,
      if_pos hCells]
  unfold folded
  rw [visible_of_narrow hNarrow,
    Text.splitAtEach_of_not_mem hFeed, List.flatMap_singleton,
    lineText_of_no_tab hTab, hLine]
  simp

end Markup

/- A text without edges in it is one piece. -/
theorem piecesBetween_nil
    (position : Nat)
    {text : List Char}
    (hSome : text ≠ []) :
    piecesBetween [] position text = [text] := by
  induction text generalizing position with
  | nil => exact absurd rfl hSome
  | cons c rest ih =>
      cases rest with
      | nil => rfl
      | cons d rest =>
          unfold piecesBetween
          rw [ih (position + 1) (by simp)]
          simp

/- A narrow text that fills its cells is all that fills them. -/
theorem fillPieces_of_narrow
    {text : List Char}
    (hNarrow : ∀ c ∈ text, Text.isNarrow c) :
    fillPieces text.length (piecesBetween [] 0 text) =
      text := by
  cases text with
  | nil => rfl
  | cons c rest =>
      rw [piecesBetween_nil 0 (by simp)]
      unfold fillPieces
      dsimp only [List.foldl_cons, List.foldl_nil]
      rw [Text.cells_of_narrow hNarrow]
      simp

/- A narrow text is as wide as it is long. -/
theorem widthOf_of_narrow
    {text : List Char}
    (hNarrow : ∀ c ∈ text, Text.isNarrow c) :
    widthOf text = text.length := by
  cases text with
  | nil => rfl
  | cons c rest =>
      unfold widthOf
      rw [Text.splitLines_of_narrow hNarrow (by simp)]
      simp [Text.cells_of_narrow hNarrow]

/- The length of the longest of some texts. -/
def longest
    (texts : List (List Char)) : Nat :=
  (texts.map List.length).foldl max 0

/- No text is longer. -/
theorem length_le_longest
    {texts : List (List Char)}
    {text : List Char}
    (hMember : text ∈ texts) :
    text.length ≤ longest texts :=
  (foldl_max_spec (texts.map List.length) 0).2.1 _
    (List.mem_map_of_mem hMember)

/- A narrow text in a column that it fits is one line at most. -/
theorem shownCell_of_narrow
    {alignedRight : Bool}
    {room : Nat}
    {text : List Char}
    (hNarrow : ∀ c ∈ text, Text.isNarrow c)
    (hFit : text.length ≤ room)
    (hEnd : alignedRight → Text.trimEnd text = text) :
    shownCell alignedRight (room + PrintedColumn.gap.length)
        text =
      if room = 0 then
        []
      else
        [padTo room alignedRight text ++ PrintedColumn.gap] := by
  have hFill :
      fillPieces room
          (piecesBetween [] 0 (padTo room alignedRight text)) =
        padTo room alignedRight text := by
    have hWhole :=
      fillPieces_of_narrow
        (isNarrow_of_mem_padTo hNarrow room alignedRight)
    rw [length_padTo hFit] at hWhole
    exact hWhole
  unfold shownCell
  rw [Nat.add_sub_cancel]
  dsimp only
  rw [Printed.linesIn_of_narrow hNarrow hFit hEnd,
    List.map_singleton]
  simp only [Printed.plain, Printed.edges, List.flatMap_nil,
    hFill]

/- Filled up to the width of its column, it is a padded text. -/
theorem getD_shownCell_of_narrow
    {alignedRight : Bool}
    {room : Nat}
    {text : List Char}
    (hNarrow : ∀ c ∈ text, Text.isNarrow c)
    (hFit : text.length ≤ room)
    (hEnd : alignedRight → Text.trimEnd text = text) :
    (shownCell alignedRight (room + PrintedColumn.gap.length)
          text).getD 0
        (List.replicate (room + PrintedColumn.gap.length) ' ') =
      padTo room alignedRight text ++ PrintedColumn.gap := by
  rw [shownCell_of_narrow hNarrow hFit hEnd]
  split
  · next hNone =>
      rw [hNone] at hFit
      rw [List.length_eq_zero_iff.mp (Nat.le_zero.mp hFit),
        hNone]
      cases alignedRight with
      | true => rfl
      | false => rfl
  · rfl

/- A cell has one line at most. -/
theorem length_shownCell_of_narrow
    {alignedRight : Bool}
    {room : Nat}
    {text : List Char}
    (hNarrow : ∀ c ∈ text, Text.isNarrow c)
    (hFit : text.length ≤ room)
    (hEnd : alignedRight → Text.trimEnd text = text) :
    (shownCell alignedRight (room + PrintedColumn.gap.length)
        text).length ≤ 1 := by
  rw [shownCell_of_narrow hNarrow hFit hEnd]
  split
  · simp
  · simp

------------------------------------------------------------
-- Narrow Tables
------------------------------------------------------------

/-
  A column that shows narrow texts; on the right side they do
  not end in blanks.
-/
structure Column.ShowsNarrow
    (column : Column)
    (console : Console)
    (texts : List (List Char)) : Prop where
  shows : column.Shows console texts
  narrow : ∀ text ∈ texts, ∀ c ∈ text, Text.isNarrow c
  ends :
    column.alignedRight →
      ∀ text ∈ texts, Text.trimEnd text = text

namespace Table

variable {ι : Type}
variable {indices : List ι}

/- A row of narrow texts in columns that fit. -/
def plainRow
    (indices : List ι)
    (alignedRight : ι → Bool)
    (texts : ι → List (List Char))
    (text : ι → List Char) : String :=
  String.ofList
    (indices.flatMap (fun i =>
        padTo (longest (texts i)) (alignedRight i) (text i)
          ++ PrintedColumn.gap)
      ++ ['\n'])

/- Columns of narrow texts that fit are as wide as they need. -/
theorem widths_of_narrow
    {console : Console}
    {texts : ι → List (List Char)}
    (hNarrow :
      ∀ i ∈ indices, ∀ text ∈ texts i, ∀ c ∈ text,
        Text.isNarrow c)
    (hFit :
      totalWidth
          (indices.map fun i =>
            longest (texts i) + PrintedColumn.gap.length) ≤
        console.width) :
    widths console indices texts =
      indices.map fun i =>
        longest (texts i) + PrintedColumn.gap.length := by
  have hNatural :
      (indices.map fun i => naturalWidth console (texts i)) =
        indices.map fun i =>
          longest (texts i) + PrintedColumn.gap.length := by
    apply List.map_congr_left
    intro i hMember
    have hSizes :
        (texts i).map widthOf = (texts i).map List.length :=
      List.map_congr_left fun text hText =>
        widthOf_of_narrow (hNarrow i hMember text hText)
    have hListed :
        longest (texts i) + PrintedColumn.gap.length ∈
          indices.map fun i =>
            longest (texts i) + PrintedColumn.gap.length :=
      List.mem_map.mpr ⟨i, hMember, rfl⟩
    have hHere :
        longest (texts i) + PrintedColumn.gap.length ≤
          console.width :=
      (le_totalWidth_of_mem hListed).trans hFit
    unfold naturalWidth
    rw [hSizes]
    exact min_eq_left hHere
  unfold widths
  rw [hNatural, fitWidths_of_fit hFit]

/- Cells of one line at most, side by side, are one line. -/
theorem sideBySide_of_low
    (widths : List Nat)
    {cells : List (List (List Char))}
    (hLow : ∀ lines ∈ cells, lines.length ≤ 1) :
    sideBySide widths cells =
      String.ofList
        ((widths.zipWith
            (fun width lines =>
              lines.getD 0 (List.replicate width ' '))
            cells).flatten
          ++ ['\n']) := by
  have hHeight : (cells.map List.length).foldl max 1 = 1 := by
    rcases foldl_max_spec (cells.map List.length) 1 with
      ⟨hLeast, _, hSame | hThere⟩
    · exact hSame
    · rcases List.mem_map.mp hThere with
        ⟨lines, hLines, hLength⟩
      have hOne := hLow lines hLines
      omega
  unfold sideBySide
  dsimp only
  rw [hHeight, List.range_one, List.flatMap_singleton]

/-
  If narrow columns fit, a row of the table is one line, in
  which each text is filled up to the longest of its column.
-/
theorem shownRow_of_narrow
    {console : Console}
    {column : ι → Column}
    {texts : ι → List (List Char)}
    {text : ι → List Char}
    (hShows :
      ∀ i ∈ indices, (column i).ShowsNarrow console (texts i))
    (hFit :
      totalWidth
          (indices.map fun i =>
            longest (texts i) + PrintedColumn.gap.length) ≤
        console.width)
    (hText : ∀ i ∈ indices, text i ∈ texts i) :
    shownRow (fun i => (column i).alignedRight)
        (indices.zip (widths console indices texts)) text =
      plainRow indices (fun i => (column i).alignedRight) texts
        text := by
  have hColumns :
      indices.zip (widths console indices texts) =
        indices.map fun i =>
          (i, longest (texts i) + PrintedColumn.gap.length) := by
    rw [widths_of_narrow
        (fun i hMember => (hShows i hMember).narrow) hFit,
      List.map_prod_left_eq_zip]
  have hLow :
      ∀ lines ∈ indices.map (fun i =>
          shownCell (column i).alignedRight
            (longest (texts i) + PrintedColumn.gap.length)
            (text i)),
        lines.length ≤ 1 := by
    intro lines hLines
    rcases List.mem_map.mp hLines with ⟨i, hMember, rfl⟩
    have hThere := hText i hMember
    exact
      length_shownCell_of_narrow
        ((hShows i hMember).narrow _ hThere)
        (length_le_longest hThere)
        fun hRight => (hShows i hMember).ends hRight _ hThere
  have hLine :
      ∀ i ∈ indices,
        (shownCell (column i).alignedRight
              (longest (texts i) + PrintedColumn.gap.length)
              (text i)).getD 0
            (List.replicate
              (longest (texts i) + PrintedColumn.gap.length)
              ' ') =
          padTo (longest (texts i)) (column i).alignedRight
              (text i)
            ++ PrintedColumn.gap := by
    intro i hMember
    have hThere := hText i hMember
    exact
      getD_shownCell_of_narrow
        ((hShows i hMember).narrow _ hThere)
        (length_le_longest hThere)
        fun hRight => (hShows i hMember).ends hRight _ hThere
  unfold shownRow
  rw [hColumns, List.map_map, List.map_map]
  have hSide :=
    sideBySide_of_low
      (indices.map fun i =>
        longest (texts i) + PrintedColumn.gap.length)
      hLow
  rw [List.zipWith_map, List.zipWith_self,
    List.map_congr_left hLine] at hSide
  exact hSide

end Table

end ElementBindings
