import Mathlib.Data.List.Basic
import ElementBindings.Proofs.Text.Indentation

/-
  Parts of an indented text.

  Any line boundary of a text becomes a line feed when it is
  indented, with blanks behind it unless the line is empty.
  So what becomes of a part of the text depends on this part
  alone, if a character follows that ends no line.  The part
  stays as it is exactly if it has no boundaries; any other
  one is broken off by a line feed.

  Key definitions include:
    * `Text.lineStart`, `Text.indentInside`

  Key theorems include:
    * `Text.indentChars_append_cons`
    * `Text.indentInside_of_inside`
    * `Text.exists_indentInside`
-/

namespace ElementBindings

namespace Text

variable {width : Nat}
variable {c : Char}
variable {s : List Char}

------------------------------------------------------------
-- Indented Parts
------------------------------------------------------------

/- The blanks before a line that starts with a text. -/
def lineStart
    (width : Nat)
    (s : List Char) : List Char :=
  if s.head?.any isLineBoundary then
    []
  else
    List.replicate width ' '

/-
  What becomes of a text inside of an indented one, where the
  character behind it is on the last line of the text.
-/
def indentInside
    (width : Nat) :
    List Char → List Char
  | [] => []
  | '\r' :: '\n' :: rest =>
      '\n' :: (lineStart width rest ++ indentInside width rest)
  | c :: rest =>
      if isLineBoundary c then
        '\n' :: (lineStart width rest ++ indentInside width rest)
      else
        c :: indentInside width rest

------------------------------------------------------------
-- Lines
------------------------------------------------------------

/- A text that is not empty has lines. -/
theorem splitLines_ne_nil
    (c : Char)
    (s : List Char) :
    splitLines (c :: s) ≠ [] := by
  unfold splitLines
  split
  · simp_all
  · simp
  · split
    · simp
    · split
      · simp
      · simp

/- A boundary ends a line, be it one character or two. -/
theorem splitLines_cons_boundary
    (hBoundary : isLineBoundary c)
    (hSingle : ∀ rest, c = '\r' → s ≠ '\n' :: rest) :
    splitLines (c :: s) = [] :: splitLines s := by
  rw [splitLines]
  · rw [if_pos hBoundary]
  · exact hSingle

/- In any case the line that it ends is empty. -/
theorem exists_splitLines_boundary
    (hBoundary : isLineBoundary c)
    (s : List Char) :
    ∃ lines, splitLines (c :: s) = [] :: lines := by
  by_cases hPair : ∃ rest, c = '\r' ∧ s = '\n' :: rest
  · rcases hPair with ⟨rest, rfl, rfl⟩
    exact ⟨splitLines rest, by rw [splitLines]⟩
  · refine ⟨splitLines s, splitLines_cons_boundary hBoundary ?_⟩
    intro rest hReturn hFeed
    exact hPair ⟨rest, hReturn, hFeed⟩

/- Any other character stands on the first line. -/
theorem splitLines_cons_unbroken
    {line : List Char}
    {lines : List (List Char)}
    (hInside : ¬ isLineBoundary c)
    (hLines : splitLines s = line :: lines) :
    splitLines (c :: s) = (c :: line) :: lines := by
  have hReturn : ∀ rest, c = '\r' → s ≠ '\n' :: rest := by
    rintro rest rfl
    exact absurd (by decide) hInside
  rw [splitLines, if_neg hInside, hLines]
  exact hReturn

/- Before a line feed there is a line where it can stand. -/
theorem splitLines_cons_inside
    (hInside : isLineBoundary c = false)
    (s : List Char) :
    ∃ first rest,
      splitLines (s ++ ['\n']) = first :: rest ∧
        splitLines (c :: s ++ ['\n']) = (c :: first) :: rest := by
  have hSome : splitLines (s ++ ['\n']) ≠ [] := by
    cases s with
    | nil => exact splitLines_ne_nil '\n' []
    | cons d more => exact splitLines_ne_nil d (more ++ ['\n'])
  rcases List.exists_cons_of_ne_nil hSome with
    ⟨first, rest, hLines⟩
  exact
    ⟨first, rest, hLines,
      splitLines_cons_unbroken (Bool.eq_false_iff.mp hInside)
        hLines⟩

------------------------------------------------------------
-- Indenting
------------------------------------------------------------

/- Such a character is left where it is. -/
theorem indentChars_cons_inside
    (hInside : isLineBoundary c = false)
    (width : Nat)
    (s : List Char) :
    indentChars width (c :: s) = c :: indentChars width s := by
  rcases splitLines_cons_inside hInside s with
    ⟨first, rest, hShort, hLong⟩
  unfold indentChars
  rw [hShort, hLong]
  rfl

/- The lines of a text, each behind a line feed and indented. -/
theorem flatMap_splitLines
    (width : Nat)
    (hSome : s ≠ []) :
    (splitLines (s ++ ['\n'])).flatMap
        (fun line => '\n' :: indentLine width line) =
      '\n' :: (lineStart width s ++ indentChars width s) := by
  cases s with
  | nil => exact absurd rfl hSome
  | cons c rest =>
      cases hBoundary : isLineBoundary c with
      | false =>
          rcases splitLines_cons_inside hBoundary rest with
            ⟨first, lines, _, hLines⟩
          unfold indentChars lineStart
          rw [hLines]
          simp [indentLine, hBoundary]
      | true =>
          rcases exists_splitLines_boundary hBoundary
              (rest ++ ['\n']) with
            ⟨lines, hLines⟩
          rw [← List.cons_append] at hLines
          unfold indentChars lineStart
          rw [hLines]
          simp [indentLine, hBoundary]

/- A boundary becomes a line feed, with blanks behind it. -/
theorem indentChars_cons_boundary
    (hBoundary : isLineBoundary c)
    (hSingle : ∀ rest, c = '\r' → s ≠ '\n' :: rest)
    (hSome : s ≠ [])
    (width : Nat) :
    indentChars width (c :: s) =
      '\n' :: (lineStart width s ++ indentChars width s) := by
  rw [← flatMap_splitLines width hSome]
  have hLines :
      splitLines (c :: s ++ ['\n']) =
        [] :: splitLines (s ++ ['\n']) := by
    apply splitLines_cons_boundary hBoundary
    intro rest hReturn hFeed
    cases s with
    | nil => exact hSome rfl
    | cons d more =>
        have hHere : d = '\n' := (List.cons.inj hFeed).1
        exact hSingle more hReturn (by rw [hHere])
  unfold indentChars
  rw [hLines]
  rfl

/- So do a carriage return and a line feed together. -/
theorem indentChars_cons_return
    (hSome : s ≠ [])
    (width : Nat) :
    indentChars width ('\r' :: '\n' :: s) =
      '\n' :: (lineStart width s ++ indentChars width s) := by
  rw [← flatMap_splitLines width hSome]
  have hLines :
      splitLines ('\r' :: '\n' :: s ++ ['\n']) =
        [] :: splitLines (s ++ ['\n']) := by
    rw [List.cons_append, List.cons_append, splitLines]
  unfold indentChars
  rw [hLines]
  rfl

/- A character that ends no line parts an indented text. -/
theorem indentChars_append_cons
    (hInside : isLineBoundary c = false)
    (width : Nat)
    (s t : List Char) :
    indentChars width (s ++ c :: t) =
      indentInside width s ++ c :: indentChars width t := by
  have hStart :
      ∀ rest,
        lineStart width (rest ++ c :: t) =
          lineStart width rest := by
    intro rest
    unfold lineStart
    cases rest with
    | nil => simp [hInside]
    | cons d rest => rfl
  fun_induction indentInside width s with
  | case1 => exact indentChars_cons_inside hInside width t
  | case2 rest ih =>
      rw [List.cons_append, List.cons_append,
        indentChars_cons_return (by simp), hStart, ih]
      simp
  | case3 d rest hSingle hBoundary ih =>
      rw [List.cons_append,
        indentChars_cons_boundary hBoundary _ (by simp), hStart,
        ih]
      · simp
      · intro more hReturn hFeed
        cases rest with
        | nil =>
            have hHere : c = '\n' := (List.cons.inj hFeed).1
            rw [hHere] at hInside
            exact absurd hInside (by decide)
        | cons e others =>
            have hHere : e = '\n' := (List.cons.inj hFeed).1
            exact hSingle others hReturn (by rw [hHere])
  | case4 d rest hSingle hOther ih =>
      rw [List.cons_append,
        indentChars_cons_inside (by simpa using hOther), ih]
      rfl

------------------------------------------------------------
-- Parts With and Without Boundaries
------------------------------------------------------------

/- A text without boundaries stays as it is. -/
theorem indentInside_of_inside
    (hInside : ∀ c ∈ s, isLineBoundary c = false)
    (width : Nat) :
    indentInside width s = s := by
  fun_induction indentInside width s with
  | case1 => rfl
  | case2 rest ih =>
      exact absurd (hInside '\n' (by simp)) (by decide)
  | case3 c rest _ hBoundary ih =>
      have hHere := hInside c List.mem_cons_self
      rw [hHere] at hBoundary
      cases hBoundary
  | case4 c rest _ _ ih =>
      rw [ih fun d hMember =>
        hInside d (List.mem_cons_of_mem c hMember)]

/- Any other text is broken off where its first line ends. -/
theorem exists_indentInside
    (hNot : ¬ ∀ c ∈ s, isLineBoundary c = false)
    (width : Nat) :
    ∃ front boundary back more,
      s = front ++ boundary :: back ∧
        indentInside width s = front ++ '\n' :: more := by
  fun_induction indentInside width s with
  | case1 => simp at hNot
  | case2 rest ih => exact ⟨[], '\r', _, _, rfl, rfl⟩
  | case3 c rest _ hBoundary ih => exact ⟨[], c, _, _, rfl, rfl⟩
  | case4 c rest _ hOther ih =>
      have hRest : ¬ ∀ d ∈ rest, isLineBoundary d = false := by
        intro hRest
        apply hNot
        rw [List.forall_mem_cons]
        exact ⟨by simpa using hOther, hRest⟩
      rcases ih hRest with
        ⟨front, boundary, back, more, hSplit, hHere⟩
      refine ⟨c :: front, boundary, back, more, ?_, ?_⟩
      · rw [hSplit, List.cons_append]
      · rw [hHere, List.cons_append]

end Text

end ElementBindings

