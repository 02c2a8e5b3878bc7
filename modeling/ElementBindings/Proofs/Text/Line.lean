import Mathlib.Data.List.Basic
import ElementBindings.Text.Line

/-
  Texts in parts.

  Splitting a text at a character and putting the character
  between the parts again gives the text.  A text without the
  character is its only part.  The lines of a text do not hold
  line boundaries.

  Key theorems include:
    * `Text.splitAtEach_of_not_mem`
    * `Text.intercalate_splitAtEach`
    * `Text.mem_of_mem_splitAtEach`
    * `Text.isLineBoundary_not_mem`
-/

namespace ElementBindings

namespace Text

variable {separator : Char}
variable {s : List Char}

------------------------------------------------------------
-- Parts
------------------------------------------------------------

/- A text has a first part. -/
theorem splitAtEach_ne_nil
    (separator : Char)
    (s : List Char) :
    splitAtEach separator s ≠ [] := by
  cases s with
  | nil => simp [splitAtEach]
  | cons c rest =>
      unfold splitAtEach
      by_cases hSame : c = separator
      · simp [hSame]
      · rw [if_neg hSame]
        cases splitAtEach separator rest with
        | nil => simp
        | cons part parts => simp

/- A character that is no separator goes to the first part. -/
theorem splitAtEach_cons
    {c : Char}
    (hOther : c ≠ separator)
    (rest : List Char) :
    ∃ part parts,
      splitAtEach separator rest = part :: parts ∧
        splitAtEach separator (c :: rest) =
          (c :: part) :: parts := by
  cases hParts : splitAtEach separator rest with
  | nil => exact absurd hParts (splitAtEach_ne_nil _ _)
  | cons part parts =>
      refine ⟨part, parts, rfl, ?_⟩
      rw [splitAtEach, if_neg hOther, hParts]

/- A text without the separator is its only part. -/
theorem splitAtEach_of_not_mem
    (hNone : separator ∉ s) :
    splitAtEach separator s = [s] := by
  induction s with
  | nil => rfl
  | cons c rest ih =>
      have hOther : c ≠ separator := by
        intro hSame
        apply hNone
        rw [hSame]
        exact List.mem_cons_self
      have hRest : separator ∉ rest := by
        intro hMember
        exact hNone (List.mem_cons_of_mem c hMember)
      rw [splitAtEach, if_neg hOther, ih hRest]

/- Every part is made of characters of the text. -/
theorem mem_of_mem_splitAtEach
    {part : List Char}
    {c : Char}
    (hPart : part ∈ splitAtEach separator s)
    (hChar : c ∈ part) :
    c ∈ s := by
  induction s generalizing part with
  | nil =>
      simp [splitAtEach] at hPart
      simp [hPart] at hChar
  | cons first rest ih =>
      by_cases hSame : first = separator
      · rw [splitAtEach, if_pos hSame] at hPart
        rcases List.mem_cons.mp hPart with rfl | hLater
        · simp at hChar
        · exact List.mem_cons_of_mem _ (ih hLater hChar)
      · rcases splitAtEach_cons hSame rest with
          ⟨start, others, hRest, hSplit⟩
        rw [hSplit] at hPart
        rcases List.mem_cons.mp hPart with rfl | hLater
        · rcases List.mem_cons.mp hChar with rfl | hStart
          · exact List.mem_cons_self
          · apply List.mem_cons_of_mem
            exact ih (by simp [hRest]) hStart
        · apply List.mem_cons_of_mem
          exact ih (by simp [hRest, hLater]) hChar

/- No part holds the separator. -/
theorem not_mem_of_mem_splitAtEach
    {part : List Char}
    (hPart : part ∈ splitAtEach separator s) :
    separator ∉ part := by
  induction s generalizing part with
  | nil =>
      have hEmpty : part = [] := by
        simpa [splitAtEach] using hPart
      simp [hEmpty]
  | cons first rest ih =>
      by_cases hSame : first = separator
      · rw [splitAtEach, if_pos hSame] at hPart
        rcases List.mem_cons.mp hPart with rfl | hLater
        · simp
        · exact ih hLater
      · rcases splitAtEach_cons hSame rest with
          ⟨start, others, hRest, hSplit⟩
        rw [hSplit] at hPart
        rcases List.mem_cons.mp hPart with rfl | hLater
        · have hStart : separator ∉ start := ih (by simp [hRest])
          simp [hStart, Ne.symm hSame]
        · exact ih (by simp [hRest, hLater])

------------------------------------------------------------
-- Joining
------------------------------------------------------------

/- The parts with the separator between them are the text. -/
theorem intercalate_splitAtEach
    (separator : Char)
    (s : List Char) :
    [separator].intercalate (splitAtEach separator s) = s := by
  induction s with
  | nil => rfl
  | cons c rest ih =>
      by_cases hSame : c = separator
      · rw [splitAtEach, if_pos hSame]
        cases hParts : splitAtEach separator rest with
        | nil => exact absurd hParts (splitAtEach_ne_nil _ _)
        | cons part parts =>
            rw [hParts] at ih
            simpa [List.intercalate, hSame] using ih
      · rcases splitAtEach_cons hSame rest with
          ⟨part, parts, hRest, hSplit⟩
        rw [hRest] at ih
        rw [hSplit]
        cases parts with
        | nil => simpa [List.intercalate] using ih
        | cons next others =>
            simpa [List.intercalate] using ih

------------------------------------------------------------
-- Lines
------------------------------------------------------------

/- A line of a text holds no line boundary. -/
theorem isLineBoundary_not_mem
    {text line : List Char}
    {b : Char}
    (hLine : line ∈ splitLines text)
    (hBoundary : isLineBoundary b) :
    b ∉ line := by
  fun_induction splitLines text generalizing line with
  | case1 => simp at hLine
  | case2 rest ih =>
      rcases List.mem_cons.mp hLine with rfl | hLater
      · simp
      · exact ih hLater
  | case3 c rest hPair hHere ih =>
      rcases List.mem_cons.mp hLine with rfl | hLater
      · simp
      · exact ih hLater
  | case4 c rest hPair hInside hNone ih =>
      have hOther : b ≠ c := by
        intro hSame
        rw [← hSame] at hInside
        exact hInside hBoundary
      rcases List.mem_singleton.mp hLine with rfl
      simpa using hOther
  | case5 c rest hPair hInside first lines hSome ih =>
      have hOther : b ≠ c := by
        intro hSame
        rw [← hSame] at hInside
        exact hInside hBoundary
      rcases List.mem_cons.mp hLine with rfl | hLater
      · have hRest : b ∉ first := by
          apply ih
          rw [hSome]
          exact List.mem_cons_self
        simp [hOther, hRest]
      · apply ih
        rw [hSome]
        exact List.mem_cons_of_mem first hLater

/- It holds no line feed, in particular. -/
theorem lineFeed_not_mem
    {text line : List Char}
    (hLine : line ∈ splitLines text) :
    '\n' ∉ line :=
  isLineBoundary_not_mem hLine (by decide)

/- What stands before a separator that it does not hold is told. -/
theorem append_cons_inj
    {first second rest more : List Char}
    (hFirst : separator ∉ first)
    (hSecond : separator ∉ second)
    (hSame :
      first ++ separator :: rest = second ++ separator :: more) :
    first = second ∧ rest = more := by
  induction first generalizing second with
  | nil =>
      cases second with
      | nil => exact ⟨rfl, (List.cons.inj hSame).2⟩
      | cons d second =>
          have hHere : separator = d := (List.cons.inj hSame).1
          exact absurd (by simp [hHere]) hSecond
  | cons c first ih =>
      cases second with
      | nil =>
          have hHere : c = separator := (List.cons.inj hSame).1
          exact absurd (by simp [hHere]) hFirst
      | cons d second =>
          rcases List.cons.inj hSame with ⟨hHead, hTail⟩
          simp only [List.mem_cons, not_or] at hFirst hSecond
          rcases ih hFirst.2 hSecond.2 hTail with
            ⟨hRest, hMore⟩
          exact ⟨by rw [hHead, hRest], hMore⟩

/- Leaving out blanks at the end adds no character. -/
theorem mem_of_mem_trimEnd
    {text : List Char}
    {c : Char}
    (hMember : c ∈ trimEnd text) :
    c ∈ text := by
  unfold trimEnd at hMember
  rw [List.mem_reverse] at hMember
  have hSuffix :=
    List.dropWhile_suffix isBlank (l := text.reverse)
  exact List.mem_reverse.mp (hSuffix.subset hMember)

/- What is joined has the characters of its parts. -/
theorem mem_joinWith
    {separator : String}
    {parts : List String}
    {c : Char}
    (hMember : c ∈ (joinWith separator parts).toList) :
    c ∈ separator.toList ∨
      ∃ part ∈ parts, c ∈ part.toList := by
  fun_induction joinWith separator parts with
  | case1 => simp at hMember
  | case2 s => exact .inr ⟨s, by simp, hMember⟩
  | case3 s t rest ih =>
      simp only [String.toList_append, List.mem_append]
        at hMember
      rcases hMember with (hHere | hBetween) | hLater
      · exact .inr ⟨s, by simp, hHere⟩
      · exact .inl hBetween
      · rcases ih hLater with hBetween | ⟨part, hPart, hThere⟩
        · exact .inl hBetween
        · exact
            .inr ⟨part, List.mem_cons_of_mem s hPart, hThere⟩

/- Every piece stands in the text that they are joined to. -/
theorem infix_joinWith
    {separator piece : String}
    {pieces : List String}
    (hMember : piece ∈ pieces) :
    piece.toList <:+: (joinWith separator pieces).toList := by
  fun_induction joinWith separator pieces with
  | case1 => cases hMember
  | case2 s =>
      cases List.mem_singleton.mp hMember
      exact List.infix_rfl
  | case3 s t rest ih =>
      rw [String.toList_append, String.toList_append]
      rcases List.mem_cons.mp hMember with rfl | hLater
      · rw [List.append_assoc]
        exact (List.prefix_append _ _).isInfix
      · exact (ih hLater).trans (List.suffix_append _ _).isInfix

end Text

end ElementBindings
