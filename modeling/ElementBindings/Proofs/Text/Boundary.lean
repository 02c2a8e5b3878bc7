import Mathlib.Data.List.DropRight
import ElementBindings.Proofs.Text.Inside

/-
  What the lines of a text are, and what a text is without the
  blanks around it.

  Both are told without the functions that find them.  A text
  consists of its lines and of what ends them, where a carriage
  return with a line feed behind it ends one line and not two.
  A trimmed text is what stands between blanks and neither
  starts nor ends with one.

  Key definitions include:
    * `Text.IsUnbroken`, `Text.EndsLine`, `Text.InLines`
    * `Text.IsTrimmedEnd`, `Text.IsTrimmed`

  Key theorems include:
    * `Text.splitLines_eq_iff`
    * `Text.isTrimmedEnd_trimEnd`
    * `Text.isTrimmed_trim`
-/

namespace ElementBindings

namespace Text

variable {s line rest : List Char}
variable {lines : List (List Char)}

------------------------------------------------------------
-- Lines
------------------------------------------------------------

/- A text that no line boundary breaks. -/
def IsUnbroken
    (line : List Char) : Prop :=
  ∀ c ∈ line, ¬ isLineBoundary c

/-
  What ends a line: a carriage return and a line feed, or one
  boundary.  A carriage return ends it alone only where no
  line feed follows.
-/
def EndsLine
    (ending rest : List Char) : Prop :=
  ending = ['\r', '\n'] ∨
    ∃ b, ending = [b] ∧ isLineBoundary b ∧
      (b = '\r' → rest.head? ≠ some '\n')

/-
  A text in lines.  Something ends every line; only behind the
  last one there may be nothing, unless it is empty.
-/
inductive InLines :
    List Char →
    List (List Char) →
    Prop where
  | nothing : InLines [] []
  | last {line : List Char}
      (hSome : line ≠ [])
      (hLine : IsUnbroken line) :
      InLines line [line]
  | ended {line ending rest : List Char}
      {lines : List (List Char)}
      (hLine : IsUnbroken line)
      (hEnding : EndsLine ending rest)
      (hRest : InLines rest lines) :
      InLines (line ++ (ending ++ rest)) (line :: lines)

/- An empty text is unbroken. -/
theorem isUnbroken_nil : IsUnbroken [] := by
  intro c hChar
  cases hChar

/- So is a text with a character before it that ends no line. -/
theorem isUnbroken_cons
    {c : Char} :
    IsUnbroken (c :: line) ↔
      ¬ isLineBoundary c ∧ IsUnbroken line :=
  List.forall_mem_cons

/- Such a character belongs to the first line. -/
theorem InLines.cons
    {c : Char}
    (hLines : InLines s (line :: lines))
    (hChar : ¬ isLineBoundary c) :
    InLines (c :: s) ((c :: line) :: lines) := by
  cases hLines with
  | last hSome hLine =>
      exact
        .last (List.cons_ne_nil c _)
          (isUnbroken_cons.mpr ⟨hChar, hLine⟩)
  | ended hLine hEnding hRest =>
      exact
        .ended (isUnbroken_cons.mpr ⟨hChar, hLine⟩) hEnding
          hRest

/- The lines that are found are the lines of the text. -/
theorem inLines_splitLines
    (s : List Char) :
    InLines s (splitLines s) := by
  fun_induction splitLines s with
  | case1 => exact .nothing
  | case2 rest ih =>
      exact .ended isUnbroken_nil (.inl rfl) ih
  | case3 c rest hPair hBoundary ih =>
      have hAlone : c = '\r' → rest.head? ≠ some '\n' := by
        intro hReturn hFeed
        rcases List.head?_eq_some_iff.mp hFeed with ⟨more, hRest⟩
        exact hPair more hReturn hRest
      exact
        .ended isUnbroken_nil (.inr ⟨c, rfl, hBoundary, hAlone⟩)
          ih
  | case4 c rest hPair hInside hNone ih =>
      rw [hNone] at ih
      cases ih
      exact
        .last (List.cons_ne_nil c [])
          (isUnbroken_cons.mpr ⟨hInside, isUnbroken_nil⟩)
  | case5 c rest hPair hInside first others hSome ih =>
      rw [hSome] at ih
      exact ih.cons hInside

/- The characters of an unbroken text are on the first line. -/
theorem splitLines_append
    {first : List Char}
    (hLine : IsUnbroken line)
    (hLines : splitLines s = first :: lines) :
    splitLines (line ++ s) = (line ++ first) :: lines := by
  induction line with
  | nil => exact hLines
  | cons c line ih =>
      rcases isUnbroken_cons.mp hLine with ⟨hChar, hMore⟩
      exact splitLines_cons_unbroken hChar (ih hMore)

/- What ends a line is found as an end. -/
theorem splitLines_ending
    {ending : List Char}
    (hEnding : EndsLine ending rest) :
    splitLines (ending ++ rest) = [] :: splitLines rest := by
  rcases hEnding with rfl | ⟨b, rfl, hBoundary, hAlone⟩
  · rw [List.cons_append, List.cons_append, List.nil_append,
      splitLines]
  · apply splitLines_cons_boundary hBoundary
    intro more hReturn hRest
    exact hAlone hReturn (List.head?_eq_some_iff.mpr ⟨more, hRest⟩)

/- An unbroken text is one line. -/
theorem splitLines_of_unbroken
    (hSome : line ≠ [])
    (hLine : IsUnbroken line) :
    splitLines line = [line] := by
  induction line with
  | nil => exact absurd rfl hSome
  | cons c line ih =>
      rcases isUnbroken_cons.mp hLine with ⟨hChar, hMore⟩
      cases line with
      | nil =>
          rw [splitLines, if_neg hChar]
          · rfl
          · intro more hReturn hRest
            cases hRest
      | cons d line =>
          exact
            splitLines_cons_unbroken hChar
              (ih (List.cons_ne_nil d line) hMore)

/- The lines of a text are those that are found, and no others. -/
theorem splitLines_eq_iff :
    splitLines s = lines ↔ InLines s lines := by
  constructor
  · rintro rfl
    exact inLines_splitLines s
  · intro hLines
    induction hLines with
    | nothing => rfl
    | last hSome hLine =>
        exact splitLines_of_unbroken hSome hLine
    | ended hLine hEnding hRest ih =>
        rw [splitLines_append hLine (splitLines_ending hEnding),
          List.append_nil, ih]

/- Unbroken lines, each with a line feed, are the lines. -/
theorem inLines_feeds
    (hLines : ∀ line ∈ lines, IsUnbroken line) :
    InLines (lines.flatMap (· ++ ['\n'])) lines := by
  induction lines with
  | nil => exact .nothing
  | cons line lines ih =>
      rcases List.forall_mem_cons.mp hLines with ⟨hLine, hRest⟩
      have hFeed : EndsLine ['\n'] (lines.flatMap (· ++ ['\n'])) := by
        refine .inr ⟨'\n', rfl, by decide, ?_⟩
        intro hReturn
        exact absurd hReturn (by decide)
      rw [List.flatMap_cons, List.append_assoc]
      exact .ended hLine hFeed (ih hRest)

------------------------------------------------------------
-- Blanks
------------------------------------------------------------

/- A text with the blanks at its end, and the text without them. -/
structure IsTrimmedEnd
    (s shown : List Char) : Prop where
  blanks : ∃ after, s = shown ++ after ∧ ∀ c ∈ after, isBlank c
  ends : ∀ c, shown.getLast? = some c → ¬ isBlank c

/- A text with the blanks around it, and the text without them. -/
structure IsTrimmed
    (s body : List Char) : Prop where
  blanks :
    ∃ before after, s = before ++ (body ++ after) ∧
      (∀ c ∈ before, isBlank c) ∧ ∀ c ∈ after, isBlank c
  starts : ∀ c, body.head? = some c → ¬ isBlank c
  ends : ∀ c, body.getLast? = some c → ¬ isBlank c

/- Trimming the end is what the library does from the right. -/
theorem trimEnd_eq_rdropWhile
    (s : List Char) :
    trimEnd s = s.rdropWhile isBlank :=
  rfl

/- It leaves out the blanks at the end. -/
theorem isTrimmedEnd_trimEnd
    (s : List Char) :
    IsTrimmedEnd s (trimEnd s) := by
  rw [trimEnd_eq_rdropWhile]
  constructor
  · refine ⟨s.rtakeWhile isBlank, ?_, ?_⟩
    · exact (List.rdropWhile_append_rtakeWhile ..).symm
    · intro c hChar
      exact List.mem_rtakeWhile_imp hChar
  · intro c hLast
    have hSome : s.rdropWhile isBlank ≠ [] := by
      intro hNone
      rw [hNone] at hLast
      cases hLast
    rw [List.getLast?_eq_some_getLast hSome, Option.some.injEq]
      at hLast
    rw [← hLast]
    exact List.rdropWhile_last_not isBlank s hSome

/- Trimming leaves out the blanks at both ends. -/
theorem isTrimmed_trim
    (s : List Char) :
    IsTrimmed s (trim s) := by
  have hTrimmed := isTrimmedEnd_trimEnd (s.dropWhile isBlank)
  rcases hTrimmed.blanks with ⟨after, hRest, hAfter⟩
  constructor
  · refine ⟨s.takeWhile isBlank, after, ?_, ?_, hAfter⟩
    · calc
        s = s.takeWhile isBlank ++ s.dropWhile isBlank :=
          List.takeWhile_append_dropWhile.symm
        _ = s.takeWhile isBlank ++ (trim s ++ after) := by
          rw [trim, ← hRest]
    · intro c hChar
      exact List.mem_takeWhile_imp hChar
  · intro c hFirst
    have hHead : (s.dropWhile isBlank).head? = some c := by
      rw [hRest, List.head?_append, ← trim, hFirst]
      rfl
    have hShown := List.head?_dropWhile_not isBlank s
    rw [hHead] at hShown
    simpa using hShown
  · exact hTrimmed.ends

/- Nothing is left of a text exactly if it is all blank. -/
theorem trim_eq_nil_iff :
    trim s = [] ↔ ∀ c ∈ s, isBlank c := by
  rw [trim, trimEnd_eq_rdropWhile, List.rdropWhile_eq_nil_iff]
  constructor
  · intro hRest c hChar
    rw [← List.takeWhile_append_dropWhile (p := isBlank) (l := s)]
      at hChar
    rcases List.mem_append.mp hChar with hBefore | hAfter
    · exact List.mem_takeWhile_imp hBefore
    · exact hRest c hAfter
  · intro hBlank c hChar
    exact hBlank c ((List.dropWhile_sublist isBlank).subset hChar)

end Text

end ElementBindings
