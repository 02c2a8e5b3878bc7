import ElementBindings.Console.Layout
import ElementBindings.Proofs.Console.Escape
import ElementBindings.Proofs.Result
import ElementBindings.Proofs.Text.Width

/-
  What the console prints.

  A text that is read without tags, or with tags for one style
  that can be read, can always be printed.  What appears does
  not depend on styles: characters that would move the cursor
  are left out, tabs become blanks, and lines lose the blanks
  that are too many at their end, or are folded.  A text that
  has none of these, and no code that the console knows,
  appears as it is.

  Key definitions include:
    * `Markup.visible`, `Markup.displayed`, `Markup.folded`
    * `Printed.HasStyle`, `Markup.IsStyle`
    * `Console.Keeps`

  Key theorems include:
    * `Markup.render_of_read`, `Markup.renderFolded_of_read`
    * `Markup.printTokens_style`
    * `Markup.render_red_line`, `Markup.renderFolded_line`
    * `Markup.appearance_of_keeps`
-/

namespace ElementBindings

namespace Markup

------------------------------------------------------------
-- Texts Without Styles
------------------------------------------------------------

/- A text without the blanks at its end that are too many. -/
def trimmed
    (width : Nat)
    (text : List Char) : List Char :=
  text.take (max width (Text.trimEnd text).length)

/- A text that is cut off if it is too wide. -/
def cut
    (sign : List Char)
    (width : Nat)
    (text : List Char) : List Char :=
  if Text.cells text ≤ width then
    text
  else
    cutTo (width - sign.length) text ++ sign

namespace Printed

variable {style : Option String}

/- A text without style. -/
def plain
    (text : List Char) : Printed :=
  ⟨text, []⟩

/- Dividing a text does not look at its styles. -/
theorem map_text_divide
    (printed : Printed)
    (ranges : List (Nat × Nat)) :
    (printed.divide ranges).map (·.text) =
      ((plain printed.text).divide ranges).map (·.text) := by
  cases ranges with
  | nil => rfl
  | cons first rest =>
      cases rest with
      | nil => rfl
      | cons second rest =>
          simp [divide, slice, plain]

/- Nor does putting blanks for tabs. -/
theorem text_align
    {parts others : List Printed}
    (hTexts : parts.map (·.text) = others.map (·.text))
    (filled : Nat) :
    (align filled parts).text = (align filled others).text := by
  induction parts generalizing others filled with
  | nil =>
      have hNil : others = [] := by
        simpa using hTexts
      rw [hNil]
  | cons part rest ih =>
      cases others with
      | nil => simp at hTexts
      | cons other others =>
          simp only [List.map_cons, List.cons.injEq] at hTexts
          rcases hTexts with ⟨hText, hRest⟩
          cases rest with
          | nil =>
              have hNil : others = [] := by
                simpa using hRest
              rw [hNil]
              exact hText
          | cons next rest =>
              cases others with
              | nil => simp at hRest
              | cons following others =>
                  unfold align
                  simp only [append, extend, hText]
                  rw [ih hRest]

/- A line with blanks for tabs, as a text. -/
theorem text_expandTabs
    (line : Printed) :
    line.expandTabs.text =
      (plain line.text).expandTabs.text := by
  unfold expandTabs
  exact text_align (map_text_divide line _) 0

/- Leaving out blanks does not look at styles, either. -/
theorem text_trimTo
    (line : Printed)
    (width : Nat) :
    (line.trimTo width).text = trimmed width line.text := by
  have hTrimmed :
      (Text.trimEnd line.text).length ≤ line.text.length :=
    Text.length_trimEnd_le line.text
  unfold trimTo trimmed
  dsimp only
  split
  · next hNone =>
      rw [List.take_of_length_le]
      omega
  · next hSome =>
      have hSize :
          line.text.length
              - min (line.text.length
                  - (Text.trimEnd line.text).length)
                (line.text.length - width) =
            max width (Text.trimEnd line.text).length := by
        omega
      rw [hSize]
      rfl

/- Nor does cutting a line off. -/
theorem text_cutOff
    (line : Printed)
    (sign : List Char)
    (width : Nat) :
    (line.cutOff sign width).text =
      cut sign width line.text := by
  unfold cutOff cut
  dsimp only
  split
  · rfl
  · split
    · rfl
    · rfl

/- Nor does breaking it. -/
theorem map_text_broken
    (line : Printed)
    (folds : Bool)
    (width : Nat) :
    (line.broken folds width).map (·.text) =
      ((plain line.text).broken folds width).map (·.text) :=
  map_text_divide line _

end Printed

------------------------------------------------------------
-- Lines
------------------------------------------------------------

/- A line as it appears, with blanks for tabs. -/
def lineText
    (line : List Char) : List Char :=
  (Printed.plain line).expandTabs.text

/- A line without tabs appears as it is. -/
theorem lineText_of_no_tab
    {line : List Char}
    (hNone : '\t' ∉ line) :
    lineText line = line := by
  unfold lineText Printed.expandTabs Printed.plain
  rw [Text.splitAtEach_of_not_mem hNone]
  rfl

/- A part in the middle of a text is cut out. -/
theorem drop_take_middle
    (before part after : List Char) :
    ((before ++ part ++ after).take
        (before.length + part.length)).drop before.length =
      part := by
  have hTake :
      (before ++ part ++ after).take
          (before.length + part.length) = before ++ part :=
    List.take_left' (by simp)
  rw [hTake, List.drop_left]

/- Ranges cut a text with line feeds into its lines. -/
theorem map_slice_rangesOf
    (before : List Char)
    (parts : List (List Char)) :
    (rangesOf 1 before.length parts).map (fun range =>
        ((before ++ ['\n'].intercalate parts).take
          range.2).drop range.1) =
      parts := by
  induction parts generalizing before with
  | nil => rfl
  | cons part rest ih =>
      cases rest with
      | nil =>
          have hPart := drop_take_middle before part []
          simpa [rangesOf, List.intercalate] using hPart
      | cons next rest =>
          have hJoin :
              before ++ ['\n'].intercalate (part :: next :: rest) =
                before ++ part ++
                  '\n' :: ['\n'].intercalate (next :: rest) := by
            simp [List.intercalate]
          have hRest :
              before ++ part ++
                  '\n' :: ['\n'].intercalate (next :: rest) =
                (before ++ part ++ ['\n']) ++
                  ['\n'].intercalate (next :: rest) := by
            simp
          have hLength :
              before.length + part.length + 1 =
                (before ++ part ++ ['\n']).length := by
            simp [Nat.add_assoc]
          rw [rangesOf, List.map_cons, hJoin,
            drop_take_middle, hRest, hLength,
            ih (before ++ part ++ ['\n'])]

/- Dividing a text at its line feeds gives the parts between. -/
theorem map_text_divide_rangesOf
    (printed : Printed) :
    (printed.divide
        (rangesOf 1 0
          (Text.splitAtEach '\n' printed.text))).map (·.text) =
      Text.splitAtEach '\n' printed.text := by
  have hWhole :=
    Text.intercalate_splitAtEach '\n' printed.text
  cases hParts : Text.splitAtEach '\n' printed.text with
  | nil => exact absurd hParts (Text.splitAtEach_ne_nil _ _)
  | cons first rest =>
      rw [hParts] at hWhole
      cases rest with
      | nil =>
          have hText : first = printed.text := by
            simpa [List.intercalate] using hWhole
          rw [hText]
          rfl
      | cons second rest =>
          have hCut :=
            map_slice_rangesOf [] (first :: second :: rest)
          rw [List.nil_append, hWhole] at hCut
          have hDivide :
              printed.divide
                  (rangesOf 1 0 (first :: second :: rest)) =
                (rangesOf 1 0 (first :: second :: rest)).map
                  fun range =>
                    printed.slice range.1 range.2 := rfl
          rw [hDivide, List.map_map]
          exact hCut

/- The lines of a text are its parts between line feeds. -/
theorem map_text_lines
    (printed : Printed) :
    printed.lines.map (·.text) =
      (Text.splitAtEach '\n' printed.text).map lineText := by
  have hParts := map_text_divide_rangesOf printed
  unfold Printed.lines
  rw [List.map_map, ← hParts, List.map_map, hParts]
  apply List.map_congr_left
  intro line _
  exact line.text_expandTabs

/- A line that is folded. -/
def foldedLine
    (width : Nat)
    (line : List Char) : List (List Char) :=
  ((Printed.plain line).broken true width).map fun part =>
    cut [] width (trimmed width part.text)

/- Lines that are left as long as they are, as texts. -/
theorem map_text_longLines
    (printed : Printed)
    (width : Nat) :
    (printed.longLines width).map (·.text) =
      (Text.splitAtEach '\n' printed.text).map fun line =>
        trimmed width (lineText line) := by
  have hLines := map_text_lines printed
  have hTrimmed :=
    congrArg (List.map (trimmed width)) hLines
  rw [List.map_map, List.map_map] at hTrimmed
  unfold Printed.longLines
  rw [List.map_map]
  refine Eq.trans ?_ hTrimmed
  apply List.map_congr_left
  intro line _
  exact line.text_trimTo width

/- Lines that are folded, as texts. -/
theorem map_text_foldedLines
    (printed : Printed)
    (width : Nat) :
    (printed.foldedLines width).map (·.text) =
      (Text.splitAtEach '\n' printed.text).flatMap fun line =>
        foldedLine width (lineText line) := by
  have hLines := map_text_lines printed
  have hFolded :=
    congrArg (List.flatMap (foldedLine width)) hLines
  rw [List.flatMap_map, List.flatMap_map] at hFolded
  unfold Printed.foldedLines
  rw [List.map_flatMap]
  refine Eq.trans ?_ hFolded
  apply List.flatMap_congr
  intro line _
  have hParts := line.map_text_broken true width
  have hEach :=
    congrArg
      (List.map fun text => cut [] width (trimmed width text))
      hParts
  rw [List.map_map, List.map_map] at hEach
  rw [List.map_map]
  refine Eq.trans ?_ hEach
  apply List.map_congr_left
  intro part _
  exact
    (Printed.text_cutOff _ [] width).trans
      (congrArg (cut [] width) (part.text_trimTo width))

------------------------------------------------------------
-- Appearance
------------------------------------------------------------

/- The characters of a text that are printed at all. -/
def visible
    (s : List Char) : List Char :=
  s.filter fun c => !isSilent c

/- A text as it appears on a console of some width. -/
def displayed
    (width : Nat)
    (s : List Char) : List Char :=
  ['\n'].intercalate
    ((Text.splitAtEach '\n' (visible s)).map fun line =>
      trimmed width (lineText line))

/- A text as it appears where lines are folded. -/
def folded
    (width : Nat)
    (s : List Char) : List Char :=
  ['\n'].intercalate
    ((Text.splitAtEach '\n' (visible s)).flatMap fun line =>
      foldedLine width (lineText line))

/- A character that every text may have without changing. -/
def isOrdinary
    (c : Char) : Bool :=
  c ≠ '\t' && !isSilent c

/- Ordinary characters are visible. -/
theorem visible_of_ordinary
    {s : List Char}
    (hOrdinary : ∀ c ∈ s, isOrdinary c) :
    visible s = s := by
  apply List.filter_eq_self.mpr
  intro c hMember
  have hChar := hOrdinary c hMember
  unfold isOrdinary at hChar
  simp only [Bool.and_eq_true] at hChar
  exact hChar.2

/- A line that fits, or does not end in blanks, stays whole. -/
theorem trimmed_of_fit
    {width : Nat}
    {text : List Char}
    (hFit :
      text.length ≤ width ∨ Text.trimEnd text = text) :
    trimmed width text = text := by
  unfold trimmed
  apply List.take_of_length_le
  rcases hFit with hShort | hEnd
  · omega
  · rw [hEnd]
    omega

/-
  A text of ordinary characters appears as it is if no line
  has too many blanks at its end.
-/
theorem displayed_of_ordinary
    {width : Nat}
    {s : List Char}
    (hOrdinary : ∀ c ∈ s, isOrdinary c)
    (hFits :
      ∀ line ∈ Text.splitAtEach '\n' s,
        line.length ≤ width ∨ Text.trimEnd line = line) :
    displayed width s = s := by
  have hLines :
      (Text.splitAtEach '\n' s).map
          (fun line => trimmed width (lineText line)) =
        Text.splitAtEach '\n' s := by
    apply (List.map_congr_left _).trans (List.map_id _)
    intro line hLine
    have hTab : '\t' ∉ line := by
      intro hTab
      have hChar :=
        hOrdinary '\t'
          (Text.mem_of_mem_splitAtEach hLine hTab)
      simp [isOrdinary] at hChar
    rw [lineText_of_no_tab hTab,
      trimmed_of_fit (hFits line hLine)]
    rfl
  unfold displayed
  rw [visible_of_ordinary hOrdinary, hLines]
  exact Text.intercalate_splitAtEach '\n' s

------------------------------------------------------------
-- Styles
------------------------------------------------------------

namespace Printed

/- All parts of a text that have a style have one and the same. -/
def HasStyle
    (style : Option String)
    (printed : Printed) : Prop :=
  ∀ span ∈ printed.spans, span.style = style

variable {style : Option String}
variable {printed : Printed}

/- A part of a text has the style of the text. -/
theorem HasStyle.slice
    (hStyle : printed.HasStyle style)
    (start stop : Nat) :
    (printed.slice start stop).HasStyle style := by
  intro span hSpan
  rcases List.mem_map.mp hSpan with ⟨whole, hWhole, rfl⟩
  exact hStyle whole (List.mem_of_mem_filter hWhole)

/- So have all parts that a text is divided into. -/
theorem HasStyle.divide
    (hStyle : printed.HasStyle style)
    (ranges : List (Nat × Nat)) :
    ∀ part ∈ printed.divide ranges, part.HasStyle style := by
  intro part hPart
  cases ranges with
  | nil =>
      rw [List.mem_singleton.mp hPart]
      exact hStyle
  | cons first rest =>
      cases rest with
      | nil =>
          rw [List.mem_singleton.mp hPart]
          exact hStyle
      | cons second rest =>
          rcases List.mem_map.mp hPart with
            ⟨range, _, rfl⟩
          exact hStyle.slice range.1 range.2

/- Blanks go on with the style of a text. -/
theorem HasStyle.extend
    (hStyle : printed.HasStyle style)
    (size : Nat) :
    (printed.extend size).HasStyle style := by
  intro span hSpan
  rcases List.mem_map.mp hSpan with ⟨whole, hWhole, rfl⟩
  have hSame := hStyle whole hWhole
  by_cases hEnd : printed.text.length ≤ whole.stop
  · simpa [hEnd] using hSame
  · simpa [hEnd] using hSame

/- Texts of one style make up a text of the style. -/
theorem HasStyle.append
    {second : Printed}
    (hFirst : printed.HasStyle style)
    (hSecond : second.HasStyle style) :
    (printed.append second).HasStyle style := by
  intro span hSpan
  rcases List.mem_append.mp hSpan with hHere | hThere
  · exact hFirst span hHere
  · rcases List.mem_map.mp hThere with ⟨whole, hWhole, rfl⟩
    exact hSecond whole hWhole

/- Aligning parts of one style gives a text of the style. -/
theorem HasStyle.align
    {parts : List Printed}
    (hParts : ∀ part ∈ parts, part.HasStyle style)
    (filled : Nat) :
    (align filled parts).HasStyle style := by
  induction parts generalizing filled with
  | nil =>
      intro span hSpan
      simp [Printed.align, blank] at hSpan
  | cons part rest ih =>
      cases rest with
      | nil => exact hParts part (by simp)
      | cons next rest =>
          have hPart : part.HasStyle style :=
            hParts part (by simp)
          have hRest :
              ∀ later ∈ next :: rest, later.HasStyle style := by
            intro later hLater
            exact hParts later (List.mem_cons_of_mem part hLater)
          have hEnded :
              HasStyle style
                { part with
                  text := part.text.dropLast ++ [' '] } :=
            hPart
          exact (hEnded.extend _).append (ih hRest _)

/- The lines of a text have its style. -/
theorem HasStyle.lines
    (hStyle : printed.HasStyle style) :
    ∀ line ∈ printed.lines, line.HasStyle style := by
  intro line hLine
  rcases List.mem_map.mp hLine with ⟨whole, hWhole, rfl⟩
  have hPart := hStyle.divide _ whole hWhole
  exact HasStyle.align (hPart.divide _) 0

/- The start of a text has the style of the text. -/
theorem HasStyle.shorten
    (hStyle : printed.HasStyle style)
    (size : Nat) :
    (printed.shorten size).HasStyle style := by
  intro span hSpan
  rcases List.mem_map.mp hSpan with ⟨whole, hWhole, rfl⟩
  exact hStyle whole (List.mem_of_mem_filter hWhole)

/- A line that is trimmed keeps its style. -/
theorem HasStyle.trimTo
    (hStyle : printed.HasStyle style)
    (width : Nat) :
    (printed.trimTo width).HasStyle style := by
  unfold Printed.trimTo
  dsimp only
  split
  · exact hStyle
  · exact hStyle.shorten _

/- So does a line that is cut off. -/
theorem HasStyle.cutOff
    (hStyle : printed.HasStyle style)
    (sign : List Char)
    (width : Nat) :
    (printed.cutOff sign width).HasStyle style := by
  unfold Printed.cutOff
  dsimp only
  split
  · exact hStyle
  · split
    · exact hStyle.shorten _
    · exact hStyle

/- Long lines have the style of the text. -/
theorem HasStyle.longLines
    (hStyle : printed.HasStyle style)
    (width : Nat) :
    ∀ line ∈ printed.longLines width, line.HasStyle style := by
  intro line hLine
  rcases List.mem_map.mp hLine with ⟨whole, hWhole, rfl⟩
  exact (hStyle.lines whole hWhole).trimTo width

/- So have folded ones. -/
theorem HasStyle.foldedLines
    (hStyle : printed.HasStyle style)
    (width : Nat) :
    ∀ line ∈ printed.foldedLines width,
      line.HasStyle style := by
  intro line hLine
  rcases List.mem_flatMap.mp hLine with ⟨whole, hWhole, hPart⟩
  rcases List.mem_map.mp hPart with ⟨part, hDivided, rfl⟩
  have hHere :=
    (hStyle.lines whole hWhole).divide _ part hDivided
  exact (hHere.trimTo width).cutOff [] width

/- Putting parts in order does not change their styles. -/
theorem HasStyle.ordered
    (hStyle : printed.HasStyle style) :
    printed.ordered.HasStyle style := by
  intro span hSpan
  have hMember := List.mem_mergeSort.mp hSpan
  exact hStyle span (List.mem_reverse.mp hMember)

/- A text without style has any style. -/
theorem hasStyle_plain
    (text : List Char) :
    (plain text).HasStyle style := by
  simp [HasStyle, plain]

end Printed

/- A style whose words can be read. -/
def IsReadable
    (style : String) : Prop :=
  Span.check ⟨0, 0, some style⟩ = .ok ()

/- The style of faults is one. -/
theorem isReadable_red :
    IsReadable "red" :=
  rfl

/- Lines of one style that can be read are shown. -/
theorem showLines_of_style
    {lines : List Printed}
    {style : String}
    (hReadable : IsReadable style)
    (hStyle : ∀ line ∈ lines, line.HasStyle (some style)) :
    showLines lines =
      .ok (String.ofList
        (['\n'].intercalate (lines.map (·.text)))) := by
  have hCheck : lines.forM Printed.check = .ok () := by
    apply forM_eq_ok_iff.mpr
    intro line hLine
    apply forM_eq_ok_iff.mpr
    intro span hSpan
    have hSame := hStyle line hLine span hSpan
    unfold Span.check
    rw [hSame]
    exact hReadable
  unfold showLines
  rw [hCheck]
  rfl

section Read

variable {console : Console}
variable {s style : String}
variable {printed : Printed}
variable {shown : List Char}

/-
  A text that can be read, with nothing but one style, is
  printed as it appears.
-/
theorem render_of_read
    (hRead :
      printTokens 0 [] (tokens console s.toList) = .ok printed)
    (hReadable : IsReadable style)
    (hStyle : printed.HasStyle (some style))
    (hShown : printed.text = visible shown) :
    render console s =
      .ok (String.ofList (displayed console.width shown)) := by
  have hText : printed.ordered.text = visible shown := hShown
  unfold render read
  rw [hRead]
  show showLines (printed.ordered.longLines console.width) = _
  rw [showLines_of_style hReadable
      (hStyle.ordered.longLines console.width),
    map_text_longLines, hText]
  rfl

/- It is printed folded where lines are folded. -/
theorem renderFolded_of_read
    (hRead :
      printTokens 0 [] (tokens console s.toList) = .ok printed)
    (hReadable : IsReadable style)
    (hStyle : printed.HasStyle (some style))
    (hShown : printed.text = visible shown) :
    renderFolded console s =
      .ok (String.ofList (folded console.width shown)) := by
  have hText : printed.ordered.text = visible shown := hShown
  unfold renderFolded read
  rw [hRead]
  show showLines (printed.ordered.foldedLines console.width) = _
  rw [showLines_of_style hReadable
      (hStyle.ordered.foldedLines console.width),
    map_text_foldedLines, hText]
  rfl

end Read

------------------------------------------------------------
-- Reading
------------------------------------------------------------

/- Plain characters are printed where they are visible. -/
theorem printTokens_plain_append
    (shown : List Char)
    (here : Nat)
    (opened : List OpenTag)
    (rest : List Token) :
    printTokens here opened
        (shown.map Token.plain ++ rest) =
      (printTokens (here + (visible shown).length) opened
        rest).map fun printed =>
          { printed with
            text := visible shown ++ printed.text } := by
  induction shown generalizing here with
  | nil =>
      cases hRest : printTokens here opened rest with
      | ok printed => simp [visible, hRest, Except.map]
      | error fault => simp [visible, hRest, Except.map]
  | cons c shown ih =>
      rw [List.map_cons, List.cons_append, printTokens]
      by_cases hSilent : isSilent c
      · have hSame : visible (c :: shown) = visible shown := by
          simp [visible, hSilent]
        rw [if_pos hSilent, ih, hSame]
      · have hMore :
            visible (c :: shown) = c :: visible shown := by
          simp [visible, hSilent]
        have hHere :
            here + 1 + (visible shown).length =
              here + (c :: visible shown).length := by
          rw [List.length_cons]
          omega
        rw [if_neg hSilent, ih, hMore, hHere]
        cases printTokens (here + (c :: visible shown).length)
            opened rest with
        | ok printed => rfl
        | error fault => rfl

/- A text of plain characters is printed without styles. -/
theorem printTokens_plain
    (shown : List Char)
    (here : Nat) :
    printTokens here [] (shown.map Token.plain) =
      .ok ⟨visible shown, []⟩ := by
  have hRun := printTokens_plain_append shown here [] []
  rw [List.append_nil] at hRun
  rw [hRun]
  simp [printTokens, Except.map]

/-
  What stands in a tag for a style: it opens the style, also
  when it is written again to close it.
-/
structure IsStyle
    (body : List Char)
    (style : String) : Prop where
  written : IsBody body
  opening : ∀ rest, body ≠ '/' :: rest
  tag : Tag.ofBody Style.nameOf body = .ok ⟨style, none⟩
  passive : Tag.isAction ⟨style, none⟩ = false
  named : (Text.trim (body.takeWhile (· ≠ '='))).isEmpty = false
  readable : IsReadable style

/- The color of faults is a style. -/
theorem isStyle_red :
    IsStyle "red".toList "red" where
  written :=
    ⟨⟨'r', "ed".toList, rfl, by decide⟩, by simp [isBracket]⟩
  opening := by simp
  tag := rfl
  passive := by decide
  named := rfl
  readable := isReadable_red

section Styled

variable {body : List Char}
variable {style : String}

/- A tag for a style is opened. -/
theorem printTokens_opened
    (hBody : IsStyle body style)
    (here position : Nat)
    (opened : List OpenTag)
    (rest : List Token) :
    printTokens here opened (.tag position body :: rest) =
      printTokens here (⟨here, ⟨style, none⟩⟩ :: opened)
        rest := by
  rw [printTokens]
  · rw [hBody.tag, ok_bind]
  · exact hBody.opening

/- A tag for a style is closed. -/
theorem printTokens_closed
    (hBody : IsStyle body style)
    (here start position : Nat)
    (rest : List Token) :
    printTokens here [⟨start, ⟨style, none⟩⟩]
        (.tag position ('/' :: body) :: rest) = do
      let printed ← printTokens here [] rest
      return printed.covering ⟨start, here, some style⟩ := by
  have hClose :
      OpenTag.close here ⟨start, ⟨style, none⟩⟩ =
        .ok ⟨start, here, some style⟩ := by
    simp [OpenTag.close, Tag.close, hBody.passive, Tag.style]
  rw [printTokens]
  simp only [hBody.named, hBody.tag, ok_bind]
  simp [hClose]

/- A text of which the first part is between tags for a style. -/
theorem printTokens_style
    (hBody : IsStyle body style)
    (inside outside : List Char)
    (first last : Nat) :
    ∃ printed,
      printTokens 0 []
          (.tag first body ::
            (inside.map Token.plain ++
              .tag last ('/' :: body) ::
                outside.map Token.plain)) =
        .ok printed ∧
        printed.text = visible (inside ++ outside) ∧
        printed.HasStyle (some style) := by
  rw [printTokens_opened hBody, printTokens_plain_append,
    printTokens_closed hBody, printTokens_plain]
  refine ⟨_, rfl, ?_, ?_⟩
  · simp [visible, Printed.covering]
  · intro span hSpan
    have hOnly :=
      List.mem_singleton.mp hSpan
    rw [hOnly]

end Styled

------------------------------------------------------------
-- Lines of Messages
------------------------------------------------------------

/- A text without brackets to open is read as it is decoded. -/
theorem tokens_of_no_bracket
    (console : Console)
    {s : List Char}
    (hNone : '[' ∉ s) :
    tokens console s = (console.decode s).map Token.plain := by
  unfold tokens
  rw [chunks_of_no_bracket hNone]
  simp [Chunk.tokens]

/- A text without brackets to open is printed as it appears. -/
theorem render_of_no_bracket
    (console : Console)
    {s : String}
    (hNone : '[' ∉ s.toList) :
    render console s =
      .ok (String.ofList
        (displayed console.width
          (console.decode s.toList))) := by
  have hRead :
      printTokens 0 [] (tokens console s.toList) =
        .ok ⟨visible (console.decode s.toList), []⟩ := by
    rw [tokens_of_no_bracket console hNone]
    exact printTokens_plain (console.decode s.toList) 0
  exact
    render_of_read hRead isReadable_red
      (Printed.hasStyle_plain _) rfl

/- A tag that no backslash stands before ends the run. -/
theorem chunksFrom_tag
    (position : Nat)
    (run body : List Char)
    (rest : List Piece) :
    chunksFrom position run (.tag 0 body :: rest) =
      .run run :: .run [] :: .tag position body ::
        chunksFrom (position + (bracketed body).length) []
          rest := by
  rw [chunksFrom]
  simp

/- A text that starts with a tag is that tag and the rest. -/
theorem pieces_bracketed_append
    {body : List Char}
    (hBody : IsBody body)
    (after : List Char) :
    pieces (bracketed body ++ after) =
      .tag 0 body :: pieces after :=
  pieces_of_tag (tag?_bracketed hBody after)

/- The tag that ends the color of faults. -/
theorem isBody_red_end :
    IsBody ('/' :: "red".toList) :=
  ⟨⟨'/', "red".toList, rfl, by decide⟩, by simp [isBracket]⟩

/- What stands in a line behind a colored name. -/
def behindName
    (message : List Char) : List Char :=
  ':' :: (bracketed ('/' :: "red".toList) ++ ' ' :: message)

/- It may follow the name when that is escaped. -/
theorem follows_behindName
    (message : List Char) :
    Follows (behindName message) := by
  have hFirst :
      (behindName message).find? isBracket = some '[' := rfl
  constructor
  · rfl
  · rw [hFirst]
    decide

/- Its pieces are the colon, the tag, and the message. -/
theorem pieces_behindName
    (message : List Char) :
    pieces (behindName message) =
      .plain ':' :: .tag 0 ('/' :: "red".toList) ::
        .plain ' ' :: pieces message := by
  have hColon :
      pieces (behindName message) =
        .plain ':' :: pieces
          (bracketed ('/' :: "red".toList) ++
            ' ' :: message) :=
    pieces_of_plain rfl
  have hBlank :
      pieces (' ' :: message) = .plain ' ' :: pieces message :=
    pieces_of_plain rfl
  rw [hColon, pieces_bracketed_append isBody_red_end, hBlank]

/- The tokens of a colored text and another one, both escaped. -/
theorem tokens_red_line
    (console : Console)
    (name message : String) :
    ∃ last,
      tokens console
          ("[red]" ++ escape name ++ ":[/red] "
            ++ escape message).toList =
        .tag 0 "red".toList ::
          ((shown console [] name.toList [':']).map Token.plain ++
            .tag last ('/' :: "red".toList) ::
              (shown console [' '] message.toList []).map
                Token.plain) := by
  have hChars :
      ("[red]" ++ escape name ++ ":[/red] "
          ++ escape message).toList =
        bracketed "red".toList ++
          ((escape name).toList ++
            behindName (escape message).toList) := by
    simp [behindName, bracketed]
  have hNothing : console.decode [] = [] := rfl
  rcases chunksFrom_escape_append name
      (follows_behindName (escape message).toList)
      (by simp [pieces_behindName])
      (0 + (bracketed "red".toList).length) []
    with ⟨next, closed, last, hName, hRuns⟩
  have hMessage :=
    chunksFrom_escape console message
      (next + 1 + (bracketed ('/' :: "red".toList)).length + 1)
      [' ']
  refine ⟨next + 1, ?_⟩
  unfold tokens chunks
  rw [hChars, pieces_bracketed_append isStyle_red.written,
    chunksFrom_tag, hName, pieces_behindName, chunksFrom_plain,
    chunksFrom_tag, chunksFrom_plain]
  · simp only [List.flatMap_cons, List.flatMap_append,
      flatMap_tokens_runs, List.nil_append, hMessage]
    simp only [Chunk.tokens, hNothing, shown, hRuns [':'],
      List.flatMap_append, List.map_append, List.map_nil,
      List.flatMap_singleton, List.append_assoc,
      List.nil_append, List.cons_append]
  · simp
  · simp

/- How a name and a message appear, one behind the other. -/
def appearance
    (console : Console)
    (name message : String) : String :=
  String.ofList
    (displayed console.width
      (shown console [] name.toList [':']
        ++ shown console [' '] message.toList []))

/- A colored name and a message can always be printed. -/
theorem render_red_line
    (console : Console)
    (name message : String) :
    render console
        ("[red]" ++ escape name ++ ":[/red] "
          ++ escape message) =
      .ok (appearance console name message) := by
  rcases tokens_red_line console name message with
    ⟨last, hTokens⟩
  rcases printTokens_style isStyle_red
      (shown console [] name.toList [':'])
      (shown console [' '] message.toList []) 0 last with
    ⟨printed, hRead, hText, hRed⟩
  rw [← hTokens] at hRead
  exact render_of_read hRead isReadable_red hRed hText

/-
  A name without brackets to open and a message behind two
  blanks can always be printed folded, without any color.
-/
theorem renderFolded_line
    (console : Console)
    {name : String}
    (hNone : '[' ∉ name.toList)
    (message : String) :
    renderFolded console
        ("  " ++ escape name ++ ": " ++ escape message) =
      .ok (String.ofList
        (folded console.width
          (shown console ("  " ++ escape name ++ ": ").toList
            message.toList []))) := by
  let before := ("  " ++ escape name ++ ":").toList
  have hBefore : '[' ∉ before := by
    have hLast : '[' ∉ lastSlash name.toList := by
      unfold lastSlash
      split
      · decide
      · exact List.not_mem_nil
    simp [before, toList_escape_of_no_bracket hNone, hNone,
      hLast]
  have hChars :
      ("  " ++ escape name ++ ": " ++ escape message).toList =
        before ++ ' ' :: (escape message).toList := by
    simp [before]
  have hRun :
      before ++ [' '] =
        ("  " ++ escape name ++ ": ").toList := by
    simp [before]
  have hTokens :
      tokens console
          ("  " ++ escape name ++ ": "
            ++ escape message).toList =
        (shown console ("  " ++ escape name ++ ": ").toList
          message.toList []).map Token.plain := by
    unfold tokens chunks
    rw [hChars, pieces_before_blank hBefore,
      chunksFrom_before_blank hBefore, List.nil_append, hRun]
    exact chunksFrom_escape console message _ _
  have hRead :=
    printTokens_plain
      (shown console ("  " ++ escape name ++ ": ").toList
        message.toList []) 0
  rw [← hTokens] at hRead
  exact
    renderFolded_of_read hRead isReadable_red
      (Printed.hasStyle_plain _) rfl

/- A title between the tags of a style is printed folded. -/
theorem renderFolded_title
    (console : Console)
    {s style : String}
    {title body : List Char}
    (last : Nat)
    (hBody : IsStyle body style)
    (hNone : ':' ∉ title)
    (hChunks :
      chunks s.toList =
        [ .run [], .run [], .tag 0 body, .run title, .run [],
          .tag last ('/' :: body), .run [] ]) :
    renderFolded console s =
      .ok (String.ofList (folded console.width title)) := by
  have hNothing : console.decode [] = [] := rfl
  have hTokens :
      tokens console s.toList =
        .tag 0 body ::
          (title.map Token.plain ++
            .tag last ('/' :: body) :: [].map Token.plain) := by
    unfold tokens
    rw [hChunks]
    simp [Chunk.tokens, hNothing,
      console.decode_of_no_colon hNone]
  rcases printTokens_style hBody title [] 0 last with
    ⟨printed, hRead, hText, hStyle⟩
  rw [← hTokens] at hRead
  rw [List.append_nil] at hText
  exact renderFolded_of_read hRead hBody.readable hStyle hText

end Markup

------------------------------------------------------------
-- Texts That Are Kept
------------------------------------------------------------

open Markup

/-
  A console shows a text as it is: it knows no code in it,
  prints all of its characters, and leaves out no blanks.
-/
structure Console.Keeps
    (console : Console)
    (s : List Char) : Prop where
  spares : console.Spares s
  ordinary : ∀ c ∈ s, isOrdinary c
  fits :
    ∀ line ∈ Text.splitAtEach '\n' s,
      line.length ≤ console.width ∨ Text.trimEnd line = line

namespace Markup

/-
  A name and a message without backslashes appear as they are
  if the console keeps their line.
-/
theorem appearance_of_keeps
    {console : Console}
    {name message : String}
    (hName : '\\' ∉ name.toList)
    (hMessage : '\\' ∉ message.toList)
    (hKeeps :
      console.Keeps (name ++ ": " ++ message).toList) :
    appearance console name message =
      name ++ ": " ++ message := by
  have hParts :
      (name ++ ": " ++ message).toList =
        ([] ++ name.toList ++ [':'])
          ++ ([' '] ++ message.toList ++ []) := by
    simp
  have hSpares := hKeeps.spares
  rw [hParts] at hSpares
  unfold appearance
  rw [shown_of_spares hName
      (hSpares.of_infix (List.prefix_append _ _).isInfix),
    shown_of_spares hMessage
      (hSpares.of_infix (List.suffix_append _ _).isInfix),
    ← hParts,
    displayed_of_ordinary hKeeps.ordinary hKeeps.fits,
    String.ofList_toList]

end Markup

end ElementBindings
