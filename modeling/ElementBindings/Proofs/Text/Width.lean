import ElementBindings.Console.Layout
import ElementBindings.Proofs.Text.Boundary
import Mathlib.Data.List.SplitBy

/-
  Texts whose characters fill one cell each.

  No control is such a character, so a text of them is one
  line of as many cells as it has characters.  A column with
  that many cells does not break it between its words.

  Key definitions include:
    * `Text.isNarrow`, `Text.isGraphic`

  Key theorems include:
    * `Text.isNarrow_of_graphic`
    * `Text.cells_of_narrow`
    * `Text.splitLines_of_narrow`
    * `Markup.breaks_words_of_narrow`
-/

namespace ElementBindings

namespace Text

------------------------------------------------------------
-- Narrow Characters
------------------------------------------------------------

/- A character that fills one cell. -/
def isNarrow
    (c : Char) : Bool :=
  cellWidth c = 1

/- What lies in some ranges lies in ranges that cover them. -/
theorem inRanges_of_covered
    {inner outer : List (Nat × Nat)}
    (hCovered :
      ∀ small ∈ inner, ∃ large ∈ outer,
        large.1 ≤ small.1 ∧ small.2 ≤ large.2)
    {n : Nat}
    (hInner : inRanges inner n) :
    inRanges outer n := by
  unfold inRanges at hInner ⊢
  rcases List.any_eq_true.mp hInner with ⟨small, hSmall, hIn⟩
  rcases hCovered small hSmall with
    ⟨large, hLarge, hStart, hStop⟩
  simp only [Bool.and_eq_true, decide_eq_true_eq] at hIn
  apply List.any_eq_true.mpr
  refine ⟨large, hLarge, ?_⟩
  simp only [Bool.and_eq_true, decide_eq_true_eq]
  exact ⟨hStart.trans hIn.1, hIn.2.trans hStop⟩

/- What lies between ranges lies in none of them. -/
theorem inRanges_of_apart
    {ranges : List (Nat × Nat)}
    {low high n : Nat}
    (hApart :
      ∀ range ∈ ranges, range.2 < low ∨ high < range.1)
    (hLow : low ≤ n)
    (hHigh : n ≤ high) :
    inRanges ranges n = false := by
  unfold inRanges
  rw [List.any_eq_false]
  intro range hRange
  have hAway := hApart range hRange
  simp only [Bool.and_eq_true, decide_eq_true_eq]
  omega

/- The graphic characters of ASCII fill one cell. -/
theorem isNarrow_of_graphic
    {c : Char}
    (hGraphic : isGraphic c) :
    isNarrow c := by
  simp [isNarrow, cellWidth, hGraphic]

/- What ends a line fills no cell. -/
theorem isNarrow_of_boundary
    {c : Char}
    (hBoundary : isLineBoundary c) :
    isNarrow c = false := by
  have hControl : inRanges narrowRanges c.toNat :=
    inRanges_of_covered (by decide +kernel) hBoundary
  have hOther : ¬ isGraphic c := by
    intro hGraphic
    simp only [isGraphic, Bool.and_eq_true,
      decide_eq_true_eq] at hGraphic
    have hNone :=
      @inRanges_of_apart lineBoundaryRanges 0x20 0x7E c.toNat
        (by decide) hGraphic.1 hGraphic.2
    have hSome : inRanges lineBoundaryRanges c.toNat :=
      hBoundary
    rw [hNone] at hSome
    cases hSome
  unfold isNarrow cellWidth
  rw [if_neg hOther, if_pos hControl]
  rfl

variable {s : List Char}

/- Narrow characters fill one cell each, in any place. -/
theorem cellsAfter_of_narrow
    (last : Option Char)
    (hNarrow : ∀ c ∈ s, isNarrow c) :
    cellsAfter last s = s.length := by
  fun_induction cellsAfter last s with
  | case1 => rfl
  | case2 =>
      exact absurd (hNarrow '\u200d' (by simp)) (by decide)
  | case3 =>
      exact absurd (hNarrow '\u200d' (by simp)) (by decide)
  | case4 =>
      exact absurd (hNarrow '\ufe0f' (by simp)) (by decide)
  | case5 =>
      exact absurd (hNarrow '\ufe0f' (by simp)) (by decide)
  | case6 last c rest _ _ _ width hZero =>
      have hOne : cellWidth c = 1 := by
        simpa [isNarrow] using hNarrow c (by simp)
      exact absurd hZero (by simp [width, hOne])
  | case7 last c rest _ _ _ width hSome ih =>
      have hOne : cellWidth c = 1 := by
        simpa [isNarrow] using hNarrow c (by simp)
      have hRest :=
        ih fun d hMember =>
          hNarrow d (List.mem_cons_of_mem c hMember)
      rw [hRest, List.length_cons]
      simp only [width, hOne]
      omega

/- So a text of them has as many cells as characters. -/
theorem cells_of_narrow
    (hNarrow : ∀ c ∈ s, isNarrow c) :
    cells s = s.length :=
  cellsAfter_of_narrow none hNarrow

/- A text of narrow characters is one line. -/
theorem splitLines_of_narrow
    (hNarrow : ∀ c ∈ s, isNarrow c)
    (hSome : s ≠ []) :
    splitLines s = [s] := by
  apply splitLines_of_unbroken hSome
  intro c hMember hBoundary
  have hNot := isNarrow_of_boundary hBoundary
  rw [hNarrow c hMember] at hNot
  cases hNot

/- Narrow characters are visible, and no tab is among them. -/
theorem isOrdinary_of_narrow
    {c : Char}
    (hNarrow : isNarrow c) :
    c ≠ '\n' ∧ c ≠ '\t' ∧ Markup.isSilent c = false := by
  refine ⟨?_, ?_, ?_⟩
  · rintro rfl
    exact absurd hNarrow (by decide)
  · rintro rfl
    exact absurd hNarrow (by decide)
  · apply Bool.eq_false_iff.mpr
    intro hSilent
    have hMember : c ∈ Markup.silentCharacters := by
      simpa [Markup.isSilent] using hSilent
    have hNone :
        Markup.silentCharacters.all (!isNarrow ·) := by
      decide
    have hWide := List.all_eq_true.mp hNone c hMember
    rw [hNarrow] at hWide
    exact absurd hWide (by simp)

/- A text without blanks stays whole. -/
theorem trimEnd_of_no_blank
    (hNone : ∀ c ∈ s, isBlank c = false) :
    trimEnd s = s := by
  rw [trimEnd_eq_rdropWhile, List.rdropWhile_eq_self_iff]
  intro hSome
  rw [hNone _ (List.getLast_mem hSome)]
  exact Bool.false_ne_true

/- Leaving out blanks at the end leaves no more characters. -/
theorem length_trimEnd_le
    (s : List Char) :
    (trimEnd s).length ≤ s.length := by
  rw [trimEnd_eq_rdropWhile]
  exact (List.rdropWhile_prefix isBlank s).length_le

end Text

------------------------------------------------------------
-- Words
------------------------------------------------------------

namespace Markup

open Text

/- The words of a line make up the line. -/
theorem flatten_words
    (s : List Char) :
    (words s).flatten = s := by
  have hGroups :
      ∀ goesOn : Char → Char → Bool,
        (s.splitBy goesOn).flatten = s := fun goesOn =>
    List.flatten_splitBy goesOn s
  unfold words
  dsimp only
  split
  · next first second rest hParts =>
      rw [← hGroups, hParts]
      split
      · simp
      · rfl
  · exact hGroups _

/- Words that fit into a column need no break between them. -/
theorem breaks_of_fit
    {width : Nat}
    {parts : List (List Char)}
    (folds : Bool)
    (start filled : Nat)
    (hNarrow : ∀ part ∈ parts, ∀ c ∈ part, isNarrow c)
    (hFit : filled + parts.flatten.length ≤ width) :
    breaks folds width start filled parts = [] := by
  induction parts generalizing start filled with
  | nil => rfl
  | cons part rest ih =>
      have hPart : ∀ c ∈ part, isNarrow c :=
        hNarrow part (by simp)
      have hTrimmed : ∀ c ∈ trimEnd part, isNarrow c :=
        fun c hMember => hPart c (mem_of_mem_trimEnd hMember)
      have hLess := length_trimEnd_le part
      rw [List.flatten_cons, List.length_append] at hFit
      unfold breaks
      dsimp only
      rw [cells_of_narrow hPart, cells_of_narrow hTrimmed,
        if_pos (by omega)]
      apply ih
      · intro other hOther
        exact hNarrow other (List.mem_cons_of_mem part hOther)
      · omega

/- So a line of narrow characters that fits is not broken. -/
theorem breaks_words_of_narrow
    {width : Nat}
    {s : List Char}
    (folds : Bool)
    (hNarrow : ∀ c ∈ s, isNarrow c)
    (hFit : s.length ≤ width) :
    breaks folds width 0 0 (words s) = [] := by
  apply breaks_of_fit
  · intro part hPart c hMember
    apply hNarrow
    rw [← flatten_words s]
    exact List.mem_flatten.mpr ⟨part, hPart, hMember⟩
  · rw [flatten_words]
    omega

end Markup

end ElementBindings
