import ElementBindings.Proofs.Command.Coverage
import ElementBindings.Proofs.Console.Table

/-
  Reporting from the command line.

  A run that reports on a catalog prints the entries of all
  elements as JSON, or as a table with the faults behind it.
  It changes no file, and succeeds if what it prints can be
  encoded, as JSON always can.  The table can be shown if no
  name opens a tag.  It has a row for each element; on a
  console with room for it, and for the lines behind it, names
  and messages of plain characters are in them as they are.

  Key definitions include:
    * `Coverage.NoTag`
    * `Coverage.shownRows`, `Coverage.plainRows`
    * `Coverage.failed`, `Coverage.errorLine`
    * `Coverage.texts`
    * `Coverage.HasRoom`, `Coverage.IsPlainLine`

  Key theorems include:
    * `Coverage.table_eq`
    * `Coverage.table_of_room`
    * `Coverage.tablePlan_eq`
    * `Catalog.runCommand_reports`
-/

namespace ElementBindings

namespace Coverage

------------------------------------------------------------
-- Cells
------------------------------------------------------------

/- The column under a heading, in a table of some rows. -/
def column
    (rows : List (List String))
    (heading : (String × Bool) × Nat) : Column :=
  { heading := heading.1.1
    alignedRight := heading.1.2
    cells := rows.filterMap (·[heading.2]?) }

/- Neither the name nor the class name opens a tag. -/
def NoTag
    (element : Element) : Prop :=
  '[' ∉ element.label.toList ∧
    '[' ∉ element.classLabel.toList

/- A graphic character that opens no tag. -/
def isLabelChar
    (c : Char) : Bool :=
  Text.isGraphic c && c ≠ '[' && c ≠ ':'

/- A character of a count, or of what stands in its place. -/
theorem range_of_mem_countCells
    {coverage : Coverage}
    {cell : String}
    {c : Char}
    (hCell : cell ∈ coverage.countCells)
    (hChar : c ∈ cell.toList) :
    0x2D ≤ c.toNat ∧ c.toNat ≤ 0x39 := by
  have hDigits :
      ∀ count : Nat, c ∈ (toString count).toList →
        0x2D ≤ c.toNat ∧ c.toNat ≤ 0x39 := by
    intro count hMember
    have hCount :
        (toString count).toList = Nat.toDigits 10 count :=
      Nat.toList_repr
    rw [hCount] at hMember
    have hDigit : c.isDigit :=
      Nat.isDigit_of_mem_toDigits (by decide) (by decide)
        hMember
    have hRange : 0x30 ≤ c.toNat ∧ c.toNat ≤ 0x39 :=
      Char.isDigit_iff_toNat.mp hDigit
    omega
  unfold countCells at hCell
  cases hSummary : coverage.summary with
  | ok summary =>
      rw [hSummary] at hCell
      simp only [List.mem_cons, List.not_mem_nil, or_false]
        at hCell
      rcases hCell with rfl | rfl | rfl | rfl
      · exact hDigits summary.setters hChar
      · exact hDigits summary.getters hChar
      · exact hDigits summary.callbacks hChar
      · exact hDigits summary.tests hChar
  | error fault =>
      rw [hSummary] at hCell
      have hDash : cell = "-" := by
        simpa using hCell
      have hOnly : c = '-' := by
        simpa [hDash] using hChar
      rw [hOnly]
      decide

/- The native kinds have names of letters. -/
theorem isLabelChar_of_mem_kindLabel
    {element : Element}
    {c : Char}
    (hChar : c ∈ element.kindLabel.toList) :
    isLabelChar c := by
  have hKinds :
      NativeType.all.all fun kind =>
        kind.text.toList.all isLabelChar := by
    decide
  unfold Element.kindLabel at hChar
  cases hKind : element.nativeType with
  | none => simp [hKind] at hChar
  | some kind =>
      have hListed : kind ∈ NativeType.all := by
        cases kind <;> decide
      have hText := List.all_eq_true.mp hKinds kind hListed
      apply List.all_eq_true.mp hText
      simpa [hKind] using hChar

/-
  The characters of all cells but the last one are those of
  the names, and graphic ones that open no tag.
-/
theorem mem_firstCells
    {coverage : Coverage}
    {cell : String}
    (hCell : cell ∈ coverage.firstCells) :
    cell = coverage.element.label ∨
      cell = coverage.element.classLabel ∨
        ∀ c ∈ cell.toList, isLabelChar c := by
  have hParts :
      (cell = coverage.element.label ∨
        cell = coverage.element.classLabel ∨
          cell = coverage.element.kindLabel) ∨
        cell ∈ coverage.countCells := by
    simpa [firstCells, or_assoc] using hCell
  rcases hParts with (hLabel | hClass | hKind) | hCount
  · exact .inl hLabel
  · exact .inr (.inl hClass)
  · refine .inr (.inr ?_)
    intro c hChar
    rw [hKind] at hChar
    exact isLabelChar_of_mem_kindLabel hChar
  · refine .inr (.inr ?_)
    intro c hChar
    have hRange := range_of_mem_countCells hCount hChar
    have hBracket : c ≠ '[' := by
      rintro rfl
      exact absurd hRange (by decide)
    have hColon : c ≠ ':' := by
      rintro rfl
      exact absurd hRange (by decide)
    simp only [isLabelChar, Text.isGraphic, Bool.and_eq_true,
      decide_eq_true_eq]
    exact ⟨⟨by omega, hBracket⟩, hColon⟩

/- So all cells but the last one open no tag, either. -/
theorem noBracket_of_mem_firstCells
    {coverage : Coverage}
    {cell : String}
    (hNoTag : NoTag coverage.element)
    (hCell : cell ∈ coverage.firstCells) :
    '[' ∉ cell.toList := by
  rcases mem_firstCells hCell with rfl | rfl | hOther
  · exact hNoTag.1
  · exact hNoTag.2
  · intro hMember
    exact absurd (hOther '[' hMember) (by decide)

/- The headings are of such characters, too. -/
theorem isLabelChar_of_mem_heading
    {heading : (String × Bool) × Nat}
    {c : Char}
    (hHeading : heading ∈ headings.zipIdx)
    (hChar : c ∈ heading.1.1.toList) :
    isLabelChar c := by
  have hHeadings :
      headings.zipIdx.all fun heading =>
        heading.1.1.toList.all isLabelChar := by
    decide
  have hTitle := List.all_eq_true.mp hHeadings heading hHeading
  exact List.all_eq_true.mp hTitle c hChar

/- Such characters fill one cell. -/
theorem isNarrow_of_labelChar
    {c : Char}
    (hChar : isLabelChar c) :
    Text.isNarrow c := by
  unfold isLabelChar at hChar
  simp only [Bool.and_eq_true] at hChar
  exact Text.isNarrow_of_graphic hChar.1.1

/- What the cells of a row show on a console. -/
def shownCells
    (console : Console)
    (coverage : Coverage) : List (List Char) :=
  coverage.firstCells.map (fun cell =>
      Markup.visible (console.decode cell.toList))
    ++ [Markup.visible
      (Markup.shown console [] coverage.lastCell.toList [])]

/- The cells of a row are read as what they show. -/
theorem read_markedCells
    (console : Console)
    {coverage : Coverage}
    (hNoTag : NoTag coverage.element) :
    List.Forall₂
      (fun cell text =>
        Markup.read console cell = .ok (.plain text))
      coverage.markedCells (coverage.shownCells console) := by
  apply List.rel_append
  · rw [List.forall₂_map_right_iff, List.forall₂_same]
    intro cell hCell
    exact
      Markup.read_of_no_bracket console
        (noBracket_of_mem_firstCells hNoTag hCell)
  · exact .cons (Markup.read_escape console _) .nil

/- A row has a cell for each heading. -/
theorem length_markedCells
    (coverage : Coverage) :
    coverage.markedCells.length = 8 := by
  unfold markedCells firstCells countCells
  cases coverage.summary with
  | ok summary => rfl
  | error fault => rfl

/- The cells of a column are those of the rows, in order. -/
theorem cells_column
    (coverage : List Coverage)
    {heading : (String × Bool) × Nat}
    (hHeading : heading ∈ headings.zipIdx) :
    (column (coverage.map markedCells) heading).cells =
      coverage.map fun item =>
        item.markedCells.getD heading.2 "" := by
  have hPlace : ∀ heading ∈ headings.zipIdx, heading.2 < 8 := by
    decide
  have hThere := hPlace heading hHeading
  unfold column
  dsimp only
  rw [List.filterMap_map, ← List.filterMap_eq_map]
  apply List.filterMap_congr
  intro item _
  have hCell : heading.2 < item.markedCells.length := by
    rw [length_markedCells]
    exact hThere
  simp [hCell]

------------------------------------------------------------
-- Tables
------------------------------------------------------------

/- What stands in a column of some rows. -/
def columnOf
    (rows : List (List (List Char)))
    (heading : (String × Bool) × Nat) : List (List Char) :=
  rows.map (·.getD heading.2 [])

/- The rows of the table, of which the headings are the first. -/
def shownRows
    (console : Console)
    (coverage : List Coverage) : List (List (List Char)) :=
  headings.map (·.1.toList) :: coverage.map (shownCells console)

/- A table of some rows on a console. -/
def shownTable
    (console : Console)
    (rows : List (List (List Char))) : String :=
  let widths :=
    Table.widths console headings.zipIdx (columnOf rows)
  Text.joinWith "" (rows.map fun cells =>
    Table.shownRow (fun heading => heading.1.2)
      (headings.zipIdx.zip widths)
      fun heading => cells.getD heading.2 [])

/- A row is what stands at its place in all columns. -/
theorem map_range_columnOf
    {α : Type}
    (rows : List (List (List Char)))
    (shown : ((String × Bool) × Nat → List Char) → α) :
    (List.range rows.length).map (fun index =>
        shown fun heading =>
          (columnOf rows heading).getD index []) =
      rows.map fun cells =>
        shown fun heading => cells.getD heading.2 [] := by
  apply List.ext_getElem
  · simp
  · intro index hRange hRow
    simp only [List.length_map, List.length_range] at hRange
    simp [columnOf, hRange]

/- A heading is the first of its column. -/
theorem getD_headings
    {heading : (String × Bool) × Nat}
    (hHeading : heading ∈ headings.zipIdx) :
    (headings.map (·.1.toList)).getD heading.2 [] =
      heading.1.1.toList := by
  have hAll :
      ∀ heading ∈ headings.zipIdx,
        (headings.map (·.1.toList)).getD heading.2 [] =
          heading.1.1.toList := by
    decide
  exact hAll heading hHeading

/- Headings are shown as they are. -/
theorem read_heading
    (console : Console)
    {heading : (String × Bool) × Nat}
    (hHeading : heading ∈ headings.zipIdx) :
    Markup.read console heading.1.1 =
      .ok (.plain heading.1.1.toList) := by
  have hNarrow :
      ∀ c ∈ heading.1.1.toList, Text.isNarrow c :=
    fun c hChar =>
      isNarrow_of_labelChar
        (isLabelChar_of_mem_heading hHeading hChar)
  have hNoBracket : '[' ∉ heading.1.1.toList := fun hMember =>
    absurd (isLabelChar_of_mem_heading hHeading hMember)
      (by decide)
  have hNoColon : ':' ∉ heading.1.1.toList := fun hMember =>
    absurd (isLabelChar_of_mem_heading hHeading hMember)
      (by decide)
  rw [Markup.read_of_no_bracket console hNoBracket,
    console.decode_of_no_colon hNoColon,
    Markup.visible_of_narrow hNarrow]

/- Every column shows what stands in it. -/
theorem shows_column
    (console : Console)
    {coverage : List Coverage}
    {heading : (String × Bool) × Nat}
    (hNoTag : ∀ item ∈ coverage, NoTag item.element)
    (hHeading : heading ∈ headings.zipIdx) :
    (column (coverage.map markedCells) heading).Shows console
      (columnOf (shownRows console coverage) heading) := by
  rw [Column.shows_iff, cells_column coverage hHeading]
  unfold columnOf shownRows
  rw [List.map_cons, List.map_map, getD_headings hHeading]
  apply List.Forall₂.cons
  · exact read_heading console hHeading
  · rw [List.forall₂_map_left_iff,
      List.forall₂_map_right_iff, List.forall₂_same]
    intro item hItem
    exact
      rel_getD_of_forall₂
        (read_markedCells console (hNoTag item hItem))
        (Markup.read_of_no_bracket console (by simp)) heading.2

/- The table of all rows can be shown. -/
theorem table_eq
    (console : Console)
    {coverage : List Coverage}
    (hNoTag : ∀ item ∈ coverage, NoTag item.element) :
    table console (coverage.map markedCells) =
      .ok (shownTable console (shownRows console coverage)) := by
  have hTable :
      table console (coverage.map markedCells) =
        Table.render console (coverage.map markedCells).length
          (headings.zipIdx.map
            (column (coverage.map markedCells))) := rfl
  have hHeight :
      (coverage.map markedCells).length + 1 =
        (shownRows console coverage).length := by
    simp [shownRows]
  rw [hTable,
    Table.render_of_shows _
      fun heading => shows_column console hNoTag,
    hHeight]
  unfold shownTable
  dsimp only
  rw [← map_range_columnOf]
  rfl

------------------------------------------------------------
-- Plain Tables
------------------------------------------------------------

/-
  A row whose cells a console shows as they are: each of their
  characters fills one cell, none of their codes is known, and
  no backslash is among the names that are left out.
-/
structure IsPlain
    (console : Console)
    (coverage : Coverage) : Prop where
  narrow :
    ∀ cell ∈ coverage.cells, ∀ c ∈ cell.toList,
      Text.isNarrow c
  spares : ∀ cell ∈ coverage.cells, console.Spares cell.toList
  noSlash : '\\' ∉ coverage.lastCell.toList

/- The rows of the table as they are. -/
def plainRows
    (coverage : List Coverage) : List (List (List Char)) :=
  headings.map (·.1.toList) :: coverage.map fun item =>
    item.cells.map String.toList

/- A table of some rows, in columns as wide as they need. -/
def plainTable
    (rows : List (List (List Char))) : String :=
  Text.joinWith "" (rows.map fun cells =>
    Table.plainRow headings.zipIdx
      (fun heading => heading.1.2) (columnOf rows)
      fun heading => cells.getD heading.2 [])

/- A console has room for a table of plain rows. -/
structure HasRoom
    (console : Console)
    (coverage : List Coverage) : Prop where
  plain : ∀ item ∈ coverage, item.IsPlain console
  room :
    totalWidth
        (headings.zipIdx.map fun heading =>
          longest (columnOf (plainRows coverage) heading)
            + PrintedColumn.gap.length) ≤
      console.width

/- The cells of a plain row show what they are. -/
theorem IsPlain.shownCells_eq
    {console : Console}
    {coverage : Coverage}
    (hPlain : coverage.IsPlain console) :
    coverage.shownCells console =
      coverage.cells.map String.toList := by
  have hFirst :
      ∀ cell ∈ coverage.firstCells,
        Markup.visible (console.decode cell.toList) =
          cell.toList := by
    intro cell hCell
    have hMember : cell ∈ coverage.cells :=
      List.mem_append_left _ hCell
    rw [console.decode_of_spares (hPlain.spares cell hMember),
      Markup.visible_of_narrow (hPlain.narrow cell hMember)]
  have hLast : coverage.lastCell ∈ coverage.cells :=
    List.mem_append_right _ (by simp)
  have hShown :
      Markup.shown console [] coverage.lastCell.toList [] =
        [] ++ coverage.lastCell.toList ++ [] :=
    Markup.shown_of_spares hPlain.noSlash
      (by simpa using hPlain.spares _ hLast)
  unfold shownCells cells
  rw [List.map_congr_left hFirst, hShown, List.nil_append,
    List.append_nil,
    Markup.visible_of_narrow (hPlain.narrow _ hLast)]
  simp

/- So the rows show what they are. -/
theorem shownRows_of_plain
    {console : Console}
    {coverage : List Coverage}
    (hPlain : ∀ item ∈ coverage, item.IsPlain console) :
    shownRows console coverage = plainRows coverage := by
  unfold shownRows plainRows
  rw [List.map_congr_left
    fun item hItem => (hPlain item hItem).shownCells_eq]

/- What is in a column is a heading or in a row. -/
theorem mem_columnOf_plainRows
    {coverage : List Coverage}
    {heading : (String × Bool) × Nat}
    {text : List Char}
    (hHeading : heading ∈ headings.zipIdx)
    (hText : text ∈ columnOf (plainRows coverage) heading) :
    text = heading.1.1.toList ∨
      ∃ item ∈ coverage,
        text = (item.cells.getD heading.2 "").toList := by
  unfold columnOf plainRows at hText
  rw [List.map_cons, getD_headings hHeading] at hText
  rcases List.mem_cons.mp hText with hTitle | hRow
  · exact .inl hTitle
  · rw [List.map_map] at hRow
    rcases List.mem_map.mp hRow with ⟨item, hItem, rfl⟩
    refine .inr ⟨item, hItem, ?_⟩
    simp only [Function.comp_apply, List.getD_eq_getElem?_getD,
      List.getElem?_map]
    cases item.cells[heading.2]? with
    | none => rfl
    | some cell => rfl

/- The cells on the right side are those of the counts. -/
theorem getD_cells_mem_countCells
    (coverage : Coverage)
    {i : Nat}
    (hStart : 3 ≤ i)
    (hStop : i < 7) :
    coverage.cells.getD i "" ∈ coverage.countCells := by
  have hLength : coverage.countCells.length = 4 := by
    unfold countCells
    cases coverage.summary with
    | ok summary => rfl
    | error fault => rfl
  have hThere : i - 3 < coverage.countCells.length := by
    omega
  have hCell :
      coverage.cells.getD i "" =
        coverage.countCells[i - 3] := by
    unfold cells firstCells
    rw [List.getD_eq_getElem?_getD,
      List.getElem?_append_left (by simp; omega),
      List.getElem?_append_right (by simpa using hStart)]
    simp [hThere]
  rw [hCell]
  exact List.getElem_mem hThere

/- What is on the right side has no blanks. -/
theorem trimEnd_of_alignedRight
    {coverage : List Coverage}
    {heading : (String × Bool) × Nat}
    {text : List Char}
    (hHeading : heading ∈ headings.zipIdx)
    (hRight : heading.1.2)
    (hText : text ∈ columnOf (plainRows coverage) heading) :
    Text.trimEnd text = text := by
  have hHeadings :
      ∀ heading ∈ headings.zipIdx, heading.1.2 →
        (3 ≤ heading.2 ∧ heading.2 < 7) ∧
          heading.1.1.toList.all (!Text.isBlank ·) := by
    decide
  rcases hHeadings heading hHeading hRight with
    ⟨hPlace, hTitle⟩
  apply Text.trimEnd_of_no_blank
  rcases mem_columnOf_plainRows hHeading hText with
    rfl | ⟨item, _, rfl⟩
  · intro c hChar
    simpa using List.all_eq_true.mp hTitle c hChar
  · intro c hChar
    have hCount :=
      item.getD_cells_mem_countCells hPlace.1 hPlace.2
    have hRange := range_of_mem_countCells hCount hChar
    exact
      @Text.inRanges_of_apart Text.blankRanges 0x2D 0x39
        c.toNat (by decide) hRange.1 hRange.2

/- A column of plain rows shows narrow texts. -/
theorem showsNarrow_column
    {console : Console}
    {coverage : List Coverage}
    {heading : (String × Bool) × Nat}
    (hNoTag : ∀ item ∈ coverage, NoTag item.element)
    (hPlain : ∀ item ∈ coverage, item.IsPlain console)
    (hHeading : heading ∈ headings.zipIdx) :
    (column (coverage.map markedCells) heading).ShowsNarrow
      console (columnOf (plainRows coverage) heading) where
  shows := by
    rw [← shownRows_of_plain hPlain]
    exact shows_column console hNoTag hHeading
  narrow := by
    intro text hText
    rcases mem_columnOf_plainRows hHeading hText with
      rfl | ⟨item, hItem, rfl⟩
    · intro c hChar
      exact
        isNarrow_of_labelChar
          (isLabelChar_of_mem_heading hHeading hChar)
    · rw [List.getD_eq_getElem?_getD]
      cases hCell : item.cells[heading.2]? with
      | none => simp
      | some cell =>
          exact
            (hPlain item hItem).narrow cell
              (List.mem_of_getElem? hCell)
  ends := by
    intro hRight text hText
    exact trimEnd_of_alignedRight hHeading hRight hText

/- The table of plain rows that a console has room for. -/
theorem table_of_room
    {console : Console}
    {coverage : List Coverage}
    (hNoTag : ∀ item ∈ coverage, NoTag item.element)
    (hRoom : HasRoom console coverage) :
    shownTable console (shownRows console coverage) =
      plainTable (plainRows coverage) := by
  rw [shownRows_of_plain hRoom.plain]
  have hRows :
      ∀ cells ∈ plainRows coverage,
        Table.shownRow (fun heading => heading.1.2)
            (headings.zipIdx.zip
              (Table.widths console headings.zipIdx
                (columnOf (plainRows coverage))))
            (fun heading => cells.getD heading.2 []) =
          Table.plainRow headings.zipIdx
            (fun heading => heading.1.2)
            (columnOf (plainRows coverage))
            fun heading => cells.getD heading.2 [] := by
    intro cells hCells
    have hTexts :
        ∀ heading ∈ headings.zipIdx,
          cells.getD heading.2 [] ∈
            columnOf (plainRows coverage) heading :=
      fun heading _ => List.mem_map_of_mem hCells
    have hShows :
        ∀ heading ∈ headings.zipIdx,
          (column (coverage.map markedCells)
              heading).ShowsNarrow console
            (columnOf (plainRows coverage) heading) :=
      fun _ => showsNarrow_column hNoTag hRoom.plain
    have hRow :=
      Table.shownRow_of_narrow hShows hRoom.room hTexts
    exact hRow
  unfold shownTable plainTable
  dsimp only
  rw [List.map_congr_left hRows]

------------------------------------------------------------
-- Errors
------------------------------------------------------------

/- The elements without a summary, with their faults. -/
def failed
    (coverage : List Coverage) :
    List (String × DispatchFault) :=
  coverage.filterMap fun item =>
    match item.summary with
    | .ok _ => none
    | .error fault => some (item.element.label, fault)

/- No failure of complete elements opens a tag by its name. -/
theorem noBracket_of_mem_failed
    {coverage : List Coverage}
    {failure : String × DispatchFault}
    (hNoTag : ∀ item ∈ coverage, NoTag item.element)
    (hMember : failure ∈ failed coverage) :
    '[' ∉ failure.1.toList := by
  rcases List.mem_filterMap.mp hMember with
    ⟨item, hItem, hFailure⟩
  cases hSummary : item.summary with
  | ok summary => simp [hSummary] at hFailure
  | error fault =>
      rw [hSummary] at hFailure
      rw [← Option.some.inj hFailure]
      exact (hNoTag item hItem).1

/- The line about an element that has no summary. -/
def errorLine
    (console : Console)
    (failure : String × DispatchFault) : String :=
  String.ofList
      (Markup.folded console.width
        (Markup.shown console
          ("  " ++ Markup.escape failure.1 ++ ": ").toList
          failure.2.message.toList []))
    ++ "\n"

/- A title, as it is printed. -/
def titleLine
    (console : Console)
    (title : String) : String :=
  String.ofList (Markup.folded console.width title.toList)
    ++ "\n"

/- What is printed behind the table, if there are faults. -/
def errorTexts
    (console : Console)
    (coverage : List Coverage) : List String :=
  if (failed coverage).isEmpty then
    []
  else
    "\n" :: titleLine console "Errors"
      :: (failed coverage).map (errorLine console)

/- All that is printed with the table. -/
def texts
    (console : Console)
    (coverage : List Coverage) : List String :=
  titleLine console "Elements"
    :: shownTable console (shownRows console coverage)
    :: errorTexts console coverage

/-
  A console has room for the line about a fault and shows it
  as it is.
-/
structure IsPlainLine
    (console : Console)
    (failure : String × DispatchFault) : Prop where
  narrow :
    ∀ c ∈ failure.1.toList ++ failure.2.message.toList,
      Text.isNarrow c ∧ c ≠ '\\'
  spares :
    console.Spares
      ("  " ++ failure.1 ++ ": " ++ failure.2.message).toList
  room :
    ("  " ++ failure.1 ++ ": " ++ failure.2.message).length ≤
      console.width

/- A plain title is printed as it is if there is room for it. -/
theorem titleLine_of_fit
    {console : Console}
    {title : String}
    (hNarrow : ∀ c ∈ title.toList, Text.isNarrow c)
    (hFit : title.length ≤ console.width) :
    titleLine console title = title ++ "\n" := by
  unfold titleLine
  rw [Markup.folded_of_narrow hNarrow hFit,
    String.ofList_toList]

/- The titles are plain. -/
theorem isNarrow_of_mem_title
    {title : String}
    (hTitle : title ∈ ["Elements", "Errors"]) :
    ∀ c ∈ title.toList, Text.isNarrow c := by
  have hTitles :
      ["Elements", "Errors"].all fun title =>
        title.toList.all Text.isGraphic := by
    decide
  intro c hChar
  have hHere := List.all_eq_true.mp hTitles title hTitle
  exact Text.isNarrow_of_graphic (List.all_eq_true.mp hHere c hChar)

/- So is a plain line about a fault. -/
theorem IsPlainLine.errorLine_eq
    {console : Console}
    {failure : String × DispatchFault}
    (hNoTag : '[' ∉ failure.1.toList)
    (hPlain : IsPlainLine console failure) :
    errorLine console failure =
      "  " ++ failure.1 ++ ": " ++ failure.2.message
        ++ "\n" := by
  let line := "  " ++ failure.1 ++ ": " ++ failure.2.message
  have hLine :
      line.toList =
        ("  " ++ failure.1 ++ ": ").toList
          ++ failure.2.message.toList ++ [] := by
    simp [line]
  have hName : '\\' ∉ failure.1.toList := fun hMember =>
    (hPlain.narrow _ (List.mem_append_left _ hMember)).2 rfl
  have hMessage : '\\' ∉ failure.2.message.toList :=
    fun hMember =>
      (hPlain.narrow _ (List.mem_append_right _ hMember)).2 rfl
  have hEscape : Markup.escape failure.1 = failure.1 := by
    have hNoSlash :
        .plain '\\' ∉ Markup.pieces failure.1.toList :=
      fun hPiece => hName (Markup.slash_mem_of_pieces hPiece)
    rw [← String.toList_inj,
      Markup.toList_escape_of_no_bracket hNoTag,
      Markup.lastSlash_of_no_slash hNoSlash, List.append_nil]
  have hNarrow : ∀ c ∈ line.toList, Text.isNarrow c := by
    intro c hMember
    have hEither :
        c ∈ [' ', ':'] ∨
          c ∈ failure.1.toList ++ failure.2.message.toList := by
      simp [line] at hMember ⊢
      tauto
    rcases hEither with hOther | hThere
    · exact
        Text.isNarrow_of_graphic
          (List.all_eq_true.mp (by decide) c hOther)
    · exact (hPlain.narrow c hThere).1
  have hSpares := hPlain.spares
  have hFit : line.toList.length ≤ console.width := by
    rw [String.length_toList]
    exact hPlain.room
  unfold errorLine
  rw [hEscape, Markup.shown_of_spares hMessage
      (by rw [← hLine]; exact hSpares),
    ← hLine, Markup.folded_of_narrow hNarrow hFit,
    String.ofList_toList]

/- The failures of complete elements are named. -/
theorem failures_eq
    {coverage : List Coverage}
    (hComplete : ∀ item ∈ coverage, item.element.Complete) :
    failures coverage =
      (failed coverage).map fun failure =>
        (some failure.1, failure.2) := by
  unfold failures failed
  rw [List.map_filterMap]
  apply List.filterMap_congr
  intro item hItem
  cases item.summary with
  | ok summary => rfl
  | error fault =>
      simp [(hComplete item hItem).name_eq]

/- Failures are printed one by one. -/
theorem failurePlan_eq
    (console : Console)
    {failures : List (String × DispatchFault)}
    (hNoTag :
      ∀ failure ∈ failures, '[' ∉ failure.1.toList) :
    failurePlan console
        (failures.map fun failure =>
          (some failure.1, failure.2)) =
      ⟨(failures.map (errorLine console)).map .print,
        .exit 0⟩ := by
  induction failures with
  | nil => rfl
  | cons failure rest ih =>
      have hRest :=
        ih fun later hLater =>
          hNoTag later (List.mem_cons_of_mem failure hLater)
      have hName : '[' ∉ failure.1.toList :=
        hNoTag failure List.mem_cons_self
      rw [List.map_cons, failurePlan, needed_some]
      unfold Plan.withValue Plan.printing
      dsimp only
      rw [Markup.renderFolded_line console hName, hRest]
      rfl

/- The titles have styles. -/
theorem isStyle_title
    (style : String)
    (hStyle : style ∈ ["bold cyan", "bold red"]) :
    Markup.IsStyle style.toList style := by
  have hRead :
      ∀ style ∈ ["bold cyan", "bold red"],
        Markup.Tag.ofBody Style.nameOf style.toList =
            .ok ⟨style, none⟩ ∧
          Markup.Span.check ⟨0, 0, some style⟩ = .ok () := by
    decide +kernel
  have hBody :
      ∀ style ∈ ["bold cyan", "bold red"],
        style.toList = 'b' :: style.toList.drop 1 ∧
          style.toList.all (!Markup.isBracket ·) ∧
          Markup.Tag.isAction ⟨style, none⟩ = false ∧
          (Text.trim
            (style.toList.takeWhile (· ≠ '='))).isEmpty =
              false := by
    decide
  rcases hRead style hStyle with ⟨hTag, hCheck⟩
  rcases hBody style hStyle with
    ⟨hStart, hPlain, hPassive, hNamed⟩
  constructor
  · refine ⟨⟨'b', _, hStart, by decide⟩, ?_⟩
    intro c hMember
    simpa using List.all_eq_true.mp hPlain c hMember
  · intro rest hSlash
    rw [hStart] at hSlash
    simp at hSlash
  · exact hTag
  · exact hPassive
  · exact hNamed
  · exact hCheck

/-
  The plan for the table prints it, and behind it the faults
  if there are any.
-/
theorem tablePlan_eq
    (console : Console)
    {coverage : List Coverage}
    (hComplete : ∀ item ∈ coverage, item.element.Complete)
    (hNames : ∀ item ∈ coverage, item.HasNames)
    (hNoTag : ∀ item ∈ coverage, NoTag item.element) :
    tablePlan console coverage =
      ⟨(texts console coverage).map .print, .exit 0⟩ := by
  have hRows :
      coverage.mapM row = .ok (coverage.map markedCells) :=
    mapM_eq_map fun item hItem =>
      row_eq (hComplete item hItem) (hNames item hItem)
  have hTitle :
      Markup.renderFolded console
          "[bold cyan]Elements[/bold cyan]" =
        .ok (String.ofList
          (Markup.folded console.width "Elements".toList)) :=
    Markup.renderFolded_title console 19
      (isStyle_title "bold cyan" (by simp)) (by decide)
      (by decide)
  have hErrors :
      Markup.renderFolded console
          "[bold red]Errors[/bold red]" =
        .ok (String.ofList
          (Markup.folded console.width "Errors".toList)) :=
    Markup.renderFolded_title console 16
      (isStyle_title "bold red" (by simp)) (by decide)
      (by decide)
  have hIsEmpty :
      (failures coverage).isEmpty = (failed coverage).isEmpty := by
    rw [failures_eq hComplete, List.isEmpty_map]
  unfold tablePlan Plan.printing
  dsimp only
  rw [hTitle, hRows]
  unfold Plan.withValue
  dsimp only
  rw [table_eq console hNoTag]
  dsimp only
  rw [hIsEmpty, hErrors, failures_eq hComplete,
    failurePlan_eq console fun _ =>
      noBracket_of_mem_failed hNoTag]
  unfold texts errorTexts
  cases (failed coverage).isEmpty with
  | true => rfl
  | false => rfl

end Coverage

------------------------------------------------------------
-- Runs
------------------------------------------------------------

namespace Catalog

variable {catalog : Catalog}
variable {coverage : List Coverage}

/- What is reported are the elements themselves. -/
theorem exists_of_mem_coverage
    {item : Coverage}
    (hCovers :
      List.Forall₂ catalog.Covers catalog.elementList coverage)
    (hItem : item ∈ coverage) :
    item.element ∈ catalog.elementList ∧
      catalog.Covers item.element item := by
  rcases exists_left_of_forall₂ hCovers hItem with
    ⟨element, hElement, hHere⟩
  rcases hHere with ⟨parents, hParents, hReports⟩
  rw [hReports.subject]
  exact ⟨hElement, parents, hParents, hReports⟩

/- No name is null among those that are left out. -/
theorem Covers.hasNames
    {element : Element}
    {item : Coverage}
    (hComplete : catalog.Complete)
    (hFormed : catalog.WellFormed)
    (hElement : element ∈ catalog.elementList)
    (hCovers : catalog.Covers element item) :
    item.HasNames := by
  rcases hCovers with ⟨parents, hParents, hReports⟩
  rcases Catalog.exists_merged hComplete hFormed hElement
    with ⟨others, hOthers, hMerge, hAttributes⟩
  have hSame : others.map some = parents.map some :=
    Except.ok.inj (hOthers.symm.trans hParents)
  have hSame : others = parents :=
    (List.map_inj_right fun _ _ => Option.some.inj).mp hSame
  rw [hSame] at hMerge hAttributes
  intro summary hSummary name hName
  exact
    isSome_of_mem_unsupported hMerge
      (fun a hMember =>
        (hAttributes a
          (mem_of_mem_firstOccurrences hMember)).1)
      (hReports.counts summary hSummary) hName

/- Behind its debug messages, the plan prints the report. -/
theorem exists_infoPlan
    (options : InfoOptions)
    (console : Console)
    (verbose : Bool)
    (hComplete : catalog.Complete)
    (hCoverage :
      catalog.coverage catalog.elementList = .ok coverage) :
    ∃ messages : List String,
      options.plan console verbose (.ok catalog) =
        (if options.json then
            Coverage.jsonPlan coverage
          else
            Coverage.tablePlan console coverage).before
          (messages.map (.log ⟨.debug, ·⟩)) := by
  let report : Plan :=
    if options.json then
      Coverage.jsonPlan coverage
    else
      Coverage.tablePlan console coverage
  rcases Plan.exists_debugging verbose
      (catalog.coverageLog catalog.elementList) report with
    ⟨counted, hCounted⟩
  rcases Plan.exists_debugging verbose [catalog.loadedMessage]
      (report.before (counted.map (.log ⟨.debug, ·⟩))) with
    ⟨loaded, hLoaded⟩
  refine ⟨loaded ++ counted, ?_⟩
  have hPlan :
      options.plan console verbose (.ok catalog) =
        (report.debugging verbose
          (catalog.coverageLog
            catalog.elementList)).debugging verbose
          [catalog.loadedMessage] := by
    unfold InfoOptions.plan
    simp [Plan.withCatalog, Plan.withValue,
      hComplete.namedElements_eq, hCoverage, report]
  rw [hPlan, hCounted, hLoaded]
  simp [Plan.before, report]

/-
  So a run that reports on a catalog prints what is planned,
  up to the first text that cannot be encoded.
-/
theorem runCommand_info
    (programs : Programs)
    {tree : FileTree}
    {environment : Environment}
    {args : List String}
    {verbose : Bool}
    {options : InfoOptions}
    {texts : List String}
    (hParse :
      Invocation.parse tree.kind? environment.formatter args =
        .ok ⟨verbose, .info options⟩)
    (hLoad : tree.loadCatalog options.input = .ok catalog)
    (hComplete : catalog.Complete)
    (hCoverage :
      catalog.coverage catalog.elementList = .ok coverage)
    (hPlan :
      (if options.json then
          Coverage.jsonPlan coverage
        else
          Coverage.tablePlan environment.console coverage) =
        ⟨texts.map .print, .exit 0⟩) :
    ∃ log,
      runCommand programs environment tree args =
        .ran
          ⟨tree, String.join (texts.takeWhile Text.isWhole),
            log, Plan.endingAfter (.exit 0) texts⟩ := by
  rcases exists_infoPlan options environment.console verbose
      hComplete hCoverage with
    ⟨messages, hMessages⟩
  rw [hPlan] at hMessages
  refine ⟨messages.map (⟨.debug, ·⟩), ?_⟩
  unfold runCommand
  rw [hParse]
  unfold Command.plan
  dsimp only
  rw [hLoad, hMessages, Plan.run_before_messages,
    Plan.runSteps_prints]
  simp

section Outputs

variable {tree : FileTree}
variable {environment : Environment}
variable {args : List String}
variable {verbose : Bool}
variable {input : String}

/- A run for JSON prints the records, which can be encoded. -/
theorem runCommand_json
    (programs : Programs)
    (hParse :
      Invocation.parse tree.kind? environment.formatter args =
        .ok ⟨verbose, .info ⟨input, true⟩⟩)
    (hLoad : tree.loadCatalog input = .ok catalog)
    (hComplete : catalog.Complete)
    (hCoverage :
      catalog.coverage catalog.elementList = .ok coverage)
    (hWhole : ∀ item ∈ coverage, item.element.Complete) :
    ∃ log,
      runCommand programs environment tree args =
        .ran
          ⟨tree, Coverage.jsonText coverage, log, .exit 0⟩ := by
  have hPlan :
      (if (⟨input, true⟩ : InfoOptions).json then
          Coverage.jsonPlan coverage
        else
          Coverage.tablePlan environment.console coverage) =
        ⟨[Coverage.jsonText coverage].map .print,
          .exit 0⟩ := by
    rw [if_pos rfl, Coverage.jsonPlan_eq hWhole]
    rfl
  have hText :
      ∀ text ∈ [Coverage.jsonText coverage],
        Text.isWhole text := by
    intro text hMember
    rw [List.mem_singleton.mp hMember]
    exact Coverage.isWhole_jsonText coverage
  rcases runCommand_info programs hParse hLoad hComplete
      hCoverage hPlan with
    ⟨log, hRun⟩
  refine ⟨log, ?_⟩
  rw [hRun, List.takeWhile_eq_self_iff.mpr hText,
    Plan.endingAfter_of_whole _ hText]
  simp

/- Any other one prints the table and the faults. -/
theorem runCommand_table
    (programs : Programs)
    (hParse :
      Invocation.parse tree.kind? environment.formatter args =
        .ok ⟨verbose, .info ⟨input, false⟩⟩)
    (hLoad : tree.loadCatalog input = .ok catalog)
    (hComplete : catalog.Complete)
    (hCoverage :
      catalog.coverage catalog.elementList = .ok coverage)
    (hWhole : ∀ item ∈ coverage, item.element.Complete)
    (hNames : ∀ item ∈ coverage, item.HasNames)
    (hNoTag :
      ∀ item ∈ coverage, Coverage.NoTag item.element) :
    let texts := Coverage.texts environment.console coverage
    ∃ log,
      runCommand programs environment tree args =
        .ran
          ⟨tree, String.join (texts.takeWhile Text.isWhole),
            log, Plan.endingAfter (.exit 0) texts⟩ := by
  have hPlan :
      (if (⟨input, false⟩ : InfoOptions).json then
          Coverage.jsonPlan coverage
        else
          Coverage.tablePlan environment.console coverage) =
        ⟨(Coverage.texts environment.console
            coverage).map .print,
          .exit 0⟩ := by
    rw [if_neg (by simp),
      Coverage.tablePlan_eq _ hWhole hNames hNoTag]
  exact
    runCommand_info programs hParse hLoad hComplete hCoverage
      hPlan

end Outputs

/- The names of a loaded catalog tell its elements apart. -/
theorem nodup_labels
    (hComplete : catalog.Complete)
    (hFormed : catalog.WellFormed) :
    (catalog.elementList.map (·.label)).Nodup := by
  have hNames :
      catalog.elementList.map (·.name) =
        (catalog.elementList.map (·.label)).map some := by
    rw [List.map_map]
    apply List.map_congr_left
    intro element hElement
    exact (hComplete.everyElement element hElement).name_eq
  have hDistinct := hFormed.elementNames
  rw [hNames] at hDistinct
  exact List.Nodup.of_map some hDistinct

/-
  A run that reports on a catalog covers its elements, one
  after the other.  In JSON, there is a record of each element
  under its name.  If no name opens a tag, the table has a row
  for each element, and behind it the faults of those that
  have no counts; the run succeeds if none of this holds half
  of a pair.  On a console with room for them, plain names and
  messages are printed as they are.
-/
theorem runCommand_reports
    (programs : Programs)
    {tree : FileTree}
    {input : String}
    (hLoad : tree.loadCatalog input = .ok catalog)
    (hComplete : catalog.Complete) :
    ∃ coverage : List Coverage,
      List.Forall₂ catalog.Covers catalog.elementList
          coverage ∧
        (catalog.elementList.map (·.label)).Nodup ∧
        (∀ (environment : Environment) args verbose,
          Invocation.parse tree.kind? environment.formatter
                args =
              .ok ⟨verbose, .info ⟨input, true⟩⟩ →
            ∃ log,
              runCommand programs environment tree args =
                .ran ⟨tree, Coverage.jsonText coverage, log,
                  .exit 0⟩) ∧
        ((∀ element ∈ catalog.elementList,
            Coverage.NoTag element) →
          (∀ (environment : Environment) args verbose,
            Invocation.parse tree.kind? environment.formatter
                  args =
                .ok ⟨verbose, .info ⟨input, false⟩⟩ →
              let texts :=
                Coverage.texts environment.console coverage
              ∃ log,
                runCommand programs environment tree args =
                  .ran
                    ⟨tree,
                      String.join (texts.takeWhile Text.isWhole),
                      log, Plan.endingAfter (.exit 0) texts⟩) ∧
            ∀ console : Console,
              (∀ title ∈ ["Elements", "Errors"],
                title.length ≤ console.width →
                  Coverage.titleLine console title =
                    title ++ "\n") ∧
              (Coverage.HasRoom console coverage →
                Coverage.shownTable console
                    (Coverage.shownRows console coverage) =
                  Coverage.plainTable
                    (Coverage.plainRows coverage)) ∧
              ∀ failure ∈ Coverage.failed coverage,
                Coverage.IsPlainLine console failure →
                  Coverage.errorLine console failure =
                    "  " ++ failure.1 ++ ": "
                      ++ failure.2.message ++ "\n") := by
  have hFormed := wellFormed_of_loadCatalog hComplete hLoad
  rcases exists_coverage hComplete hFormed with
    ⟨coverage, hCoverage, hCovers⟩
  have hListed :
      ∀ item ∈ coverage, item.element ∈ catalog.elementList :=
    fun item hItem => (exists_of_mem_coverage hCovers hItem).1
  have hWhole :
      ∀ item ∈ coverage, item.element.Complete :=
    fun item hItem =>
      hComplete.everyElement item.element (hListed item hItem)
  have hNames : ∀ item ∈ coverage, item.HasNames := by
    intro item hItem
    rcases exists_of_mem_coverage hCovers hItem with
      ⟨hElement, hHere⟩
    exact hHere.hasNames hComplete hFormed hElement
  refine
    ⟨coverage, hCovers, nodup_labels hComplete hFormed, ?_, ?_⟩
  · intro environment args verbose hParse
    exact
      runCommand_json programs hParse hLoad hComplete hCoverage
        hWhole
  · intro hElements
    have hNoTag :
        ∀ item ∈ coverage, Coverage.NoTag item.element :=
      fun item hItem => hElements item.element (hListed item hItem)
    refine ⟨?_, ?_⟩
    · intro environment args verbose hParse
      exact
        runCommand_table programs hParse hLoad hComplete
          hCoverage hWhole hNames hNoTag
    · intro console
      refine ⟨?_, ?_, ?_⟩
      · intro title hTitle hFit
        exact
          Coverage.titleLine_of_fit
            (Coverage.isNarrow_of_mem_title hTitle) hFit
      · exact Coverage.table_of_room hNoTag
      · intro failure hFailure hPlain
        exact
          hPlain.errorLine_eq
            (Coverage.noBracket_of_mem_failed hNoTag hFailure)

end Catalog

------------------------------------------------------------
-- Some Reports
------------------------------------------------------------

/- An attribute with a rule. -/
def ruledSlot : Attribute :=
  { sizeNumber "SLOT" false with
    type := some .string
    format := some .binary }

/- An element of which one name has two attributes. -/
def twofold : Element :=
  plainBox "Twofold"
    [some ruledSlot, some (sizeNumber "SLOT" false)] []

/- An element with a tab and a code in the name of an attribute. -/
def coded : Element :=
  plainBox "Coded" [some (sizeNumber "A\tB:x:" false)] []

/- An element with an attribute without rule. -/
def unruled : Element :=
  plainBox "Unruled" [some (sizeNumber "SIZE" false)] []

/- A catalog of the three. -/
def assorted : Catalog :=
  ⟨some [], some [some twofold, some coded, some unruled]⟩

/- The text of this catalog. -/
def assortedText : String :=
  elementsText
    [ elementText "Twofold"
        [ fieldText "attributes"
            (listText
              [ attributeText "SLOT" "String" "Binary" [],
                attributeText "SLOT" "Int" "Size" [] ]) ],
      elementText "Coded"
        [ fieldText "attributes"
            (listText
              [attributeText "A\\tB:x:" "Int" "Size" []]) ],
      elementText "Unruled"
        [ fieldText "attributes"
            (listText
              [attributeText "SIZE" "Int" "Size" []]) ] ]

set_option maxRecDepth 4000 in
/- It is loaded from this text. -/
theorem assortedText_loads :
    Catalog.loadText assortedText = .ok assorted := by
  rw [Catalog.loadText_eq_ok_iff]
  simp only [assortedText, elementsText, elementText,
    attributeText, recordText, listText, fieldText,
    quotedText, Text.joinWith, String.toList_append,
    String.reduceToList, List.cons_append, List.nil_append]
  exact ⟨_, rfl, by decide, by decide⟩

/- The arguments of a run that reports on it. -/
def reportArguments
    (more : List String) : List String :=
  ["info", "-i", "c.json"] ++ more

/- The coverage of the three elements. -/
def assortedCoverage : List Coverage :=
  [ { element := twofold
      summary :=
        .ok
          { name := some "Twofold"
            attributes := 1
            setters := 1
            getters := 1
            callbacks := 0
            tests := 1
            unsupported := [] } },
    { element := coded
      summary := .error (.noRule "A\tB:x:" "Size" "Int") },
    { element := unruled
      summary := .error (.noRule "SIZE" "Size" "Int") } ]

/- What JSON tells about the three elements. -/
def assortedReport : String :=
  Text.joinLines
    [ "\x7b",
      "  \"elements\": \x7b",
      "    \"Twofold\": \x7b",
      "      \"class_name\": \"box\",",
      "      \"native_type\": \"Void\",",
      "      \"attributes\": 1,",
      "      \"setters\": 1,",
      "      \"getters\": 1,",
      "      \"callbacks\": 0,",
      "      \"tests\": 1,",
      "      \"unsupported\": []",
      "    \x7d,",
      "    \"Coded\": \x7b",
      "      \"class_name\": \"box\",",
      "      \"native_type\": \"Void\",",
      "      \"error\": \"No rule for attribute A\\tB:x:: "
        ++ "format Size, type Int\"",
      "    \x7d,",
      "    \"Unruled\": \x7b",
      "      \"class_name\": \"box\",",
      "      \"native_type\": \"Void\",",
      "      \"error\": \"No rule for attribute SIZE: "
        ++ "format Size, type Int\"",
      "    \x7d",
      "  \x7d",
      "\x7d",
      "" ]

/- What is printed about them without JSON on a wide console. -/
def assortedTable : String :=
  Text.joinLines
    [ "Name     Class  Kind  Setters  Getters  "
        ++ "Callbacks  Tests  Unsupported  ",
      "Twofold  box    Void        1        1  "
        ++ "        0      1               ",
      "Coded    box    Void        -        -  "
        ++ "        -      -  error        ",
      "Unruled  box    Void        -        -  "
        ++ "        -      -  error        ",
      "" ]

/- The line about the attribute with a tab, on that console. -/
def codedLine : String :=
  "  Coded: No rule for attribute A        B:x:: "
    ++ "format Size, type Int\n"

/- The line about the other one without rule. -/
def unruledLine : String :=
  "  Unruled: No rule for attribute SIZE: "
    ++ "format Size, type Int\n"

/- Whatever covers these elements is their coverage. -/
theorem eq_assortedCoverage
    {coverage : List Coverage}
    (hCovers :
      List.Forall₂ assorted.Covers assorted.elementList
        coverage) :
    coverage = assortedCoverage := by
  have hComplete : assorted.Complete := by
    decide
  have hFormed :=
    Catalog.wellFormed_of_loadText hComplete assortedText_loads
  rcases Catalog.exists_coverage hComplete hFormed with
    ⟨other, hCoverage, hOther⟩
  have hSame : other = assortedCoverage :=
    Except.ok.inj (hCoverage.symm.trans rfl)
  rw [← hSame]
  exact assorted.rightUnique_covers.forall₂ hCovers hOther

/- A wide console has room for the table of these elements. -/
theorem hasRoom_assortedCoverage :
    Coverage.HasRoom .wide assortedCoverage := by
  have hGraphic :
      ∀ item ∈ assortedCoverage, ∀ cell ∈ item.cells,
        cell.toList.all fun c =>
          Text.isGraphic c && c ≠ '\\' := by
    decide
  constructor
  · intro item hItem
    have hCells :
        ∀ cell ∈ item.cells, ∀ c ∈ cell.toList,
          (Text.isGraphic c && c ≠ '\\') = true :=
      fun cell hCell =>
        List.all_eq_true.mp (hGraphic item hItem cell hCell)
    constructor
    · intro cell hCell c hChar
      have hHere := hCells cell hCell c hChar
      rw [Bool.and_eq_true] at hHere
      exact Text.isNarrow_of_graphic hHere.1
    · intro cell _
      exact Console.spares_wide cell.toList
    · intro hSlash
      have hLast : item.lastCell ∈ item.cells :=
        List.mem_append_right _ (by simp)
      exact absurd (hCells _ hLast _ hSlash) (by decide)
  · decide

/- So it has for the line about the last one. -/
theorem isPlainLine_unruled :
    Coverage.IsPlainLine .wide
      ("Unruled", .noRule "SIZE" "Size" "Int") := by
  constructor
  · have hChars :
        ("Unruled".toList ++ (DispatchFault.message
          (.noRule "SIZE" "Size" "Int")).toList).all fun c =>
            Text.isGraphic c && c ≠ '\\' := by
      decide
    intro c hChar
    have hHere := List.all_eq_true.mp hChars c hChar
    rw [Bool.and_eq_true, decide_eq_true_eq] at hHere
    exact ⟨Text.isNarrow_of_graphic hHere.1, hHere.2⟩
  · exact Console.spares_wide _
  · decide

/-
  Two attributes of one name are counted once, and two of the
  elements have faults, of which one has a plain line.
-/
theorem assorted_reported :
    ∃ coverage log more,
      List.Forall₂ assorted.Covers [twofold, coded, unruled]
          coverage ∧
        runCommand Programs.none .plain (workplace assortedText)
            (reportArguments ["--json"]) =
          .ran
            ⟨workplace assortedText, Coverage.jsonText coverage,
              log, .exit 0⟩ ∧
        runCommand Programs.none .plain (workplace assortedText)
            (reportArguments []) =
          .ran
            ⟨workplace assortedText,
              String.join
                [ "Elements\n", assortedTable, "\n", "Errors\n",
                  codedLine, unruledLine ],
              more, .exit 0⟩ := by
  rcases Catalog.runCommand_reports Programs.none
      (workplace_loads assortedText_loads) (by decide) with
    ⟨coverage, hCovers, _, hJson, hTable⟩
  rcases hTable (by unfold Coverage.NoTag; decide) with
    ⟨hPrints, hShows⟩
  rcases hJson .plain (reportArguments ["--json"]) false rfl with
    ⟨log, hJsonRun⟩
  rcases hPrints .plain (reportArguments []) false rfl with
    ⟨more, hRun⟩
  rcases hShows .wide with ⟨hTitle, hRows, hLine⟩
  have hSame := eq_assortedCoverage hCovers
  rw [hSame] at hRun hRows hLine
  have hFailed :
      Coverage.failed assortedCoverage =
        [ ("Coded", .noRule "A\tB:x:" "Size" "Int"),
          ("Unruled", .noRule "SIZE" "Size" "Int") ] := rfl
  have hPlain :
      Coverage.plainTable (Coverage.plainRows assortedCoverage) =
        assortedTable := by
    decide +kernel
  have hCoded :
      Coverage.errorLine .wide
          ("Coded", .noRule "A\tB:x:" "Size" "Int") =
        codedLine := by
    decide
  have hUnruled :
      Coverage.errorLine .wide
          ("Unruled", .noRule "SIZE" "Size" "Int") =
        unruledLine :=
    hLine _ (by simp [hFailed]) isPlainLine_unruled
  have hTexts :
      Coverage.texts .wide assortedCoverage =
        [ "Elements\n", assortedTable, "\n", "Errors\n",
          codedLine, unruledLine ] := by
    unfold Coverage.texts Coverage.errorTexts
    rw [hTitle "Elements" (by simp) (by decide),
      hTitle "Errors" (by simp) (by decide),
      hRows hasRoom_assortedCoverage, hPlain, hFailed,
      List.map_cons, List.map_cons, hCoded, hUnruled]
    rfl
  have hWhole :
      ∀ text ∈ Coverage.texts .wide assortedCoverage,
        Text.isWhole text := by
    have hAscii :
        ∀ text ∈
            [ "Elements\n", assortedTable, "\n", "Errors\n",
              codedLine, unruledLine ],
          Text.IsAscii text := by
      decide +kernel
    rw [hTexts]
    intro text hText
    exact (hAscii text hText).isWhole
  refine ⟨coverage, log, more, hCovers, hJsonRun, ?_⟩
  rw [hRun]
  dsimp only [Environment.plain, Environment.wide]
  rw [List.takeWhile_eq_self_iff.mpr hWhole,
    Plan.endingAfter_of_whole _ hWhole, hTexts]

/- A narrow console that shows one character by its name. -/
def narrowConsole : Console :=
  { crossConsole with
    width := 60
    positive := by decide }

/- The table on that console. -/
def narrowTable : String :=
  Text.joinLines
    [ "Name    Class  Kind  Sette…  Gette…  "
        ++ "Callb…  Tests  Unsup…  ",
      "Twofo…  box    Void       1       1  "
        ++ "     0      1          ",
      "Coded   box    Void       -       -  "
        ++ "     -      -  error   ",
      "Unrul…  box    Void       -       -  "
        ++ "     -      -  error   ",
      "" ]

/- The lines about the attribute with a tab and a code there. -/
def narrowLines : String :=
  "  Coded: No rule for attribute A        B\u274C: "
    ++ "format Size, \ntype Int\n"

/- So a report on that console shows them otherwise. -/
theorem assorted_narrowed :
    ∃ log,
      runCommand Programs.none ⟨none, narrowConsole⟩
          (workplace assortedText) (reportArguments []) =
        .ran
          ⟨workplace assortedText,
            String.join
              [ "Elements\n", narrowTable, "\n", "Errors\n",
                narrowLines, unruledLine ],
            log, .exit 0⟩ := by
  have hParse :
      Invocation.parse (workplace assortedText).kind?
          (⟨none, narrowConsole⟩ : Environment).formatter
          (reportArguments []) =
        .ok ⟨false, .info ⟨"c.json", false⟩⟩ := rfl
  have hCoverage :
      assorted.coverage assorted.elementList =
        .ok assortedCoverage := rfl
  have hComplete :
      ∀ item ∈ assortedCoverage, item.element.Complete := by
    decide
  have hNames : ∀ item ∈ assortedCoverage, item.HasNames := by
    simp [assortedCoverage, Coverage.HasNames]
  have hNoTag :
      ∀ item ∈ assortedCoverage,
        Coverage.NoTag item.element := by
    unfold Coverage.NoTag
    decide
  rcases Catalog.runCommand_table Programs.none hParse
      (workplace_loads assortedText_loads) (by decide) hCoverage
      hComplete hNames hNoTag with
    ⟨log, hRun⟩
  have hTexts :
      Coverage.texts narrowConsole assortedCoverage =
        [ "Elements\n", narrowTable, "\n", "Errors\n",
          narrowLines, unruledLine ] := by
    decide +kernel
  have hOctets :
      ∀ text ∈
          [ "Elements\n", narrowTable, "\n", "Errors\n",
            narrowLines, unruledLine ],
        text.toByteArray.data.toList.all
          (·.toNat < 0xF0) := by
    decide +kernel
  have hWhole :
      ∀ text ∈ Coverage.texts narrowConsole assortedCoverage,
        Text.isWhole text := by
    rw [hTexts]
    intro text hText
    exact Text.isWhole_of_octets (hOctets text hText)
  refine ⟨log, ?_⟩
  rw [hRun]
  dsimp only
  rw [List.takeWhile_eq_self_iff.mpr hWhole,
    Plan.endingAfter_of_whole _ hWhole, hTexts]

/- The coverage of the elements with half of a pair. -/
def halvesCoverage : List Coverage :=
  [ { element := sampleElement half [some unmappedCallback]
      summary := .ok ⟨some half, 0, 0, 0, 1, 0, []⟩ },
    { element := halfDocumented
      summary := .ok ⟨some "Foo", 0, 0, 0, 0, 0, []⟩ } ]

/- The table of these elements on a wide console. -/
def halvesTable : String :=
  Coverage.shownTable .wide
    (Coverage.shownRows .wide halvesCoverage)

/- Half of a pair is in its second row. -/
theorem isWhole_halvesTable :
    Text.isWhole halvesTable = false := by
  let rows := Coverage.shownRows .wide halvesCoverage
  let widths :=
    Table.widths .wide Coverage.headings.zipIdx
      (Coverage.columnOf rows)
  let row (cells : List (List Char)) : String :=
    Table.shownRow (fun heading => heading.1.2)
      (Coverage.headings.zipIdx.zip widths)
      fun heading => cells.getD heading.2 []
  have hRow : Text.isWhole (row (rows.getD 1 [])) = false := by
    dsimp only [row, Table.shownRow]
    unfold Table.sideBySide Text.isWhole
    rw [String.toList_ofList]
    decide +kernel
  have hMember : rows.getD 1 [] ∈ rows := by
    simp [rows, Coverage.shownRows, halvesCoverage]
  have hInfix :
      (row (rows.getD 1 [])).toList <:+: halvesTable.toList :=
    Text.infix_joinWith (List.mem_map_of_mem hMember)
  apply Bool.eq_false_iff.mpr
  intro hWhole
  rw [Text.isWhole_of_infix hInfix hWhole] at hRow
  cases hRow

/- So a report on them ends behind its title. -/
theorem halves_unreported :
    ∃ log,
      runCommand Programs.none .plain (workplace halvesText)
          (reportArguments []) =
        .ran
          ⟨workplace halvesText, "Elements\n", log,
            .failure (.file
              ⟨.unencodableOutput, halvesTable⟩)⟩ := by
  have hParse :
      Invocation.parse (workplace halvesText).kind?
          Environment.plain.formatter (reportArguments []) =
        .ok ⟨false, .info ⟨"c.json", false⟩⟩ := rfl
  have hCoverage :
      halves.coverage halves.elementList =
        .ok halvesCoverage := rfl
  have hComplete :
      ∀ item ∈ halvesCoverage, item.element.Complete := by
    decide
  have hNames : ∀ item ∈ halvesCoverage, item.HasNames := by
    simp [halvesCoverage, Coverage.HasNames]
  have hNoTag :
      ∀ item ∈ halvesCoverage,
        Coverage.NoTag item.element := by
    unfold Coverage.NoTag
    decide
  rcases Catalog.runCommand_table Programs.none hParse
      (workplace_loads halvesText_loads) (by decide) hCoverage
      hComplete hNames hNoTag with
    ⟨log, hRun⟩
  have hTexts :
      Coverage.texts .wide halvesCoverage =
        ["Elements\n", halvesTable] := by
    unfold Coverage.texts
    rw [Coverage.titleLine_of_fit
      (Coverage.isNarrow_of_mem_title (by simp)) (by decide)]
    rfl
  have hTitle : Text.isWhole "Elements\n" := by
    decide
  refine ⟨log, ?_⟩
  rw [hRun]
  dsimp only [Environment.plain, Environment.wide]
  rw [hTexts]
  simp [hTitle, isWhole_halvesTable, Plan.endingAfter]

/-
  An own attribute without rule is not missed if another one
  of its name is before it.  Without JSON, the console shortens
  the names of elements, shows blanks for tabs and characters
  for codes, and breaks lines; and a name that is half of a
  pair ends the run.
-/
theorem reports_that_tell_otherwise :
    ((workplace assortedText).loadCatalog "c.json" =
        .ok assorted ∧
      assorted.Complete ∧
      sizeNumber "SLOT" false ∈ twofold.attributeList ∧
      (sizeNumber "SLOT" false).Missed) ∧
    (∃ log,
      runCommand Programs.none .plain (workplace assortedText)
          (reportArguments ["--json"]) =
        .ran
          ⟨workplace assortedText, assortedReport, log,
            .exit 0⟩) ∧
    (∃ log,
      runCommand Programs.none ⟨none, narrowConsole⟩
          (workplace assortedText) (reportArguments []) =
        .ran
          ⟨workplace assortedText,
            String.join
              [ "Elements\n", narrowTable, "\n", "Errors\n",
                narrowLines, unruledLine ],
            log, .exit 0⟩) ∧
    ∃ log,
      runCommand Programs.none .plain (workplace halvesText)
          (reportArguments []) =
        .ran
          ⟨workplace halvesText, "Elements\n", log,
            .failure (.file
              ⟨.unencodableOutput, halvesTable⟩)⟩ := by
  have hLoad := workplace_loads assortedText_loads
  have hComplete : assorted.Complete := by
    decide
  have hJson :
      Coverage.jsonText assortedCoverage = assortedReport := by
    decide +kernel
  refine
    ⟨⟨hLoad, hComplete, by decide, by decide⟩, ?_,
      assorted_narrowed, halves_unreported⟩
  rw [← hJson]
  exact
    Catalog.runCommand_json Programs.none rfl hLoad hComplete
      rfl (by decide)

end ElementBindings
