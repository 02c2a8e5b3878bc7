import Mathlib.Data.List.Basic
import ElementBindings.Proofs.Text.Line

/-
  Indentation that can be taken away again.

  A text is indented line by line, where a line also ends at
  boundaries that are replaced.  If the line feed is its only
  boundary, the text comes back when the blanks are dropped
  from each line again.

  Key definitions include:
    * `Text.IsPlain`, `Text.dedent`
    * `Text.IsIndented`

  Key theorems include:
    * `Text.splitAtEach_intercalate`
    * `Text.splitLines_of_plain`
    * `Text.isIndented_indent`
-/

namespace ElementBindings

namespace Text

------------------------------------------------------------
-- Plain Texts
------------------------------------------------------------

/- The line feed is the only line boundary in a text. -/
def IsPlain
    (s : String) : Prop :=
  ∀ c ∈ s.toList, isLineBoundary c → c = '\n'

/- A text is plain if its characters are. -/
theorem isPlain_ofList
    {chars : List Char}
    (hPlain : ∀ c ∈ chars, isLineBoundary c → c = '\n') :
    IsPlain (String.ofList chars) := by
  unfold IsPlain
  rw [String.toList_ofList]
  exact hPlain

/- That can be computed where the characters are written out. -/
theorem isPlain_of_all
    {chars : List Char}
    (hAll :
      chars.all fun c => !isLineBoundary c || c == '\n') :
    IsPlain (String.ofList chars) := by
  apply isPlain_ofList
  intro c hChar hBoundary
  have hFeed := List.all_eq_true.mp hAll c hChar
  simpa [hBoundary] using hFeed

/- Two texts are plain together. -/
theorem isPlain_append
    {s t : String} :
    IsPlain (s ++ t) ↔ IsPlain s ∧ IsPlain t := by
  unfold IsPlain
  rw [String.toList_append]
  constructor
  · intro hBoth
    exact
      ⟨fun c hChar => hBoth c (List.mem_append_left _ hChar),
        fun c hChar => hBoth c (List.mem_append_right _ hChar)⟩
  · intro hEach c hChar
    rcases List.mem_append.mp hChar with hFirst | hSecond
    · exact hEach.1 c hFirst
    · exact hEach.2 c hSecond

/- The parts are those of the library's split. -/
theorem splitAtEach_eq_splitOn
    (separator : Char)
    (s : List Char) :
    splitAtEach separator s = s.splitOn separator := by
  induction s with
  | nil => rfl
  | cons c rest ih =>
      rw [List.splitOn, List.splitOnP_cons_eq_if_modifyHead]
      rw [List.splitOn] at ih
      by_cases hSame : c = separator
      · rw [splitAtEach, if_pos hSame, ih,
          if_pos (by simpa using hSame)]
      · rcases splitAtEach_cons hSame rest with
          ⟨part, parts, hRest, hSplit⟩
        rw [hSplit, if_neg (by simpa using hSame), ← ih, hRest]
        rfl

/- The lines of a plain text stand between its line feeds. -/
theorem splitLines_of_plain
    {s : List Char}
    (hPlain : ∀ c ∈ s, isLineBoundary c → c = '\n') :
    splitLines (s ++ ['\n']) = splitAtEach '\n' s := by
  induction s with
  | nil => rfl
  | cons c rest ih =>
      have hRest := ih fun d hMember =>
        hPlain d (List.mem_cons_of_mem c hMember)
      have hReturn : c ≠ '\r' := by
        rintro rfl
        have hFeed := hPlain '\r' List.mem_cons_self (by decide)
        exact absurd hFeed (by decide)
      rw [List.cons_append, splitLines, splitAtEach]
      · rw [hRest]
        by_cases hFeed : c = '\n'
        · rw [if_pos hFeed, if_pos]
          rw [hFeed]
          decide
        · have hInside : ¬ isLineBoundary c := fun hBoundary =>
            hFeed (hPlain c List.mem_cons_self hBoundary)
          rw [if_neg hFeed, if_neg hInside]
      · intro more hHere
        exact absurd hHere hReturn

/- Lines with line feeds between them are split again. -/
theorem splitAtEach_intercalate
    {separator : Char}
    {parts : List (List Char)}
    (hParts : ∀ part ∈ parts, separator ∉ part)
    (hSome : parts ≠ []) :
    splitAtEach separator ([separator].intercalate parts) =
      parts := by
  rw [splitAtEach_eq_splitOn]
  exact List.splitOn_intercalate separator hParts hSome

/- Behind the first part each one follows a separator. -/
theorem intercalate_cons_eq_flatMap
    (separator : Char)
    (first : List Char)
    (rest : List (List Char)) :
    [separator].intercalate (first :: rest) =
      first ++ rest.flatMap (separator :: ·) := by
  induction rest generalizing first with
  | nil => simp [List.intercalate]
  | cons next others ih =>
      rw [List.intercalate_cons_cons, ih, List.flatMap_cons]
      simp

------------------------------------------------------------
-- Indented Texts
------------------------------------------------------------

/- Take characters away from the start of every line. -/
def dedent
    (width : Nat)
    (s : String) : String :=
  String.ofList
    (['\n'].intercalate
      ((splitAtEach '\n' s.toList).map (·.drop width)))

/-
  A text is another one with blanks before its lines: they
  start every line that is not empty, and without them the
  text is the other one.
-/
structure IsIndented
    (width : Nat)
    (inner outer : String) : Prop where
  blanks :
    ∀ line ∈ splitAtEach '\n' outer.toList,
      line ≠ [] → List.replicate width ' ' <+: line
  inner : dedent width outer = inner

/- Blanks before a line can be dropped. -/
theorem drop_indentLine
    (width : Nat)
    (line : List Char) :
    (indentLine width line).drop width = line := by
  unfold indentLine
  cases line with
  | nil => simp
  | cons c rest => simp

/- A line that is not empty starts with the blanks before it. -/
theorem prefix_indentLine
    {width : Nat}
    {line : List Char}
    (hSome : indentLine width line ≠ []) :
    List.replicate width ' ' <+: indentLine width line := by
  unfold indentLine at hSome ⊢
  split
  · next hEmpty => simp [hEmpty] at hSome
  · exact List.prefix_append _ _

/- Putting blanks before a line puts no line feed there. -/
theorem not_mem_indentLine
    {width : Nat}
    {line : List Char}
    (hLine : '\n' ∉ line) :
    '\n' ∉ indentLine width line := by
  unfold indentLine
  split
  · exact List.not_mem_nil
  · simp [hLine]

/- The lines of a plain text, without line feeds. -/
theorem exists_lines_of_plain
    {s : List Char}
    (hPlain : ∀ c ∈ s, isLineBoundary c → c = '\n') :
    ∃ first rest,
      splitLines (s ++ ['\n']) = first :: rest ∧
        splitAtEach '\n' s = first :: rest ∧
        ∀ line ∈ first :: rest, '\n' ∉ line := by
  have hLines := splitLines_of_plain hPlain
  cases hSplit : splitAtEach '\n' s with
  | nil => exact absurd hSplit (splitAtEach_ne_nil _ _)
  | cons first rest =>
      rw [hSplit] at hLines
      refine ⟨first, rest, hLines, rfl, ?_⟩
      intro line hLine
      rw [← hLines] at hLine
      exact lineFeed_not_mem hLine

/- The lines of an indented text are those of it, indented. -/
theorem splitAtEach_indent
    {first : List Char}
    {rest : List (List Char)}
    {s : String}
    (hLines : splitLines (s.toList ++ ['\n']) = first :: rest)
    (hFree : ∀ line ∈ first :: rest, '\n' ∉ line)
    (width : Nat) :
    splitAtEach '\n'
        (String.ofList (List.replicate width ' ')
          ++ indent width s).toList =
      (List.replicate width ' ' ++ first)
        :: rest.map (indentLine width) := by
  have hText :
      (String.ofList (List.replicate width ' ')
        ++ indent width s).toList =
        ['\n'].intercalate
          ((List.replicate width ' ' ++ first)
            :: rest.map (indentLine width)) := by
    rw [intercalate_cons_eq_flatMap, List.flatMap_map,
      List.append_assoc]
    unfold indent indentChars
    rw [hLines]
    simp
  rw [hText]
  apply splitAtEach_intercalate _ (by simp)
  intro line hLine
  rcases List.mem_cons.mp hLine with rfl | hLater
  · have hFirst := hFree first List.mem_cons_self
    simp [hFirst]
  · rcases List.mem_map.mp hLater with ⟨inner, hInner, rfl⟩
    exact
      not_mem_indentLine
        (hFree inner (List.mem_cons_of_mem _ hInner))

/- A plain text is indented so that it comes back. -/
theorem isIndented_indent
    {s : String}
    (hPlain : IsPlain s)
    (width : Nat) :
    IsIndented width s
      (String.ofList (List.replicate width ' ')
        ++ indent width s) := by
  rcases exists_lines_of_plain hPlain with
    ⟨first, rest, hLines, hParts, hFree⟩
  have hSplit := splitAtEach_indent hLines hFree width
  constructor
  · rw [hSplit]
    intro line hLine hSome
    rcases List.mem_cons.mp hLine with rfl | hLater
    · exact List.prefix_append _ _
    · rcases List.mem_map.mp hLater with ⟨inner, _, rfl⟩
      exact prefix_indentLine hSome
  · have hDropped :
        rest.map (List.drop width ∘ indentLine width) =
          rest := by
      have hEach :
          ∀ line ∈ rest,
            (List.drop width ∘ indentLine width) line =
              id line :=
        fun line _ => drop_indentLine width line
      rw [List.map_congr_left hEach, List.map_id]
    unfold dedent
    rw [hSplit, List.map_cons, List.map_map, hDropped,
      List.drop_left' List.length_replicate, ← hParts,
      intercalate_splitAtEach, String.ofList_toList]

/- Nothing is taken away where there are no blanks. -/
theorem dedent_zero
    (s : String) :
    dedent 0 s = s := by
  unfold dedent
  have hSame :
      (splitAtEach '\n' s.toList).map (·.drop 0) =
        splitAtEach '\n' s.toList := List.map_id _
  rw [hSame, intercalate_splitAtEach, String.ofList_toList]

/- Without blanks a text is indented as it is. -/
theorem isIndented_zero_iff
    {s t : String} :
    IsIndented 0 s t ↔ t = s := by
  constructor
  · intro hIndented
    rw [← hIndented.inner, dedent_zero]
  · rintro rfl
    exact ⟨fun _ _ _ => List.nil_prefix, dedent_zero t⟩

end Text

end ElementBindings
