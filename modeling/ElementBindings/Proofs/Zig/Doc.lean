import Mathlib.Data.List.Forall2
import ElementBindings.Zig.Doc
import ElementBindings.Proofs.Text.Boundary

/-
  What a comment holds of the text that it documents.

  Whatever the text is, each line of its comment starts with
  slashes and is one line, so nothing of the text stands
  outside of comment lines.  Nothing is lost, either: without
  their marks, the lines behind the first one are the lines of
  the text, apart from the blanks around the text and at the
  ends of its lines.

  Key definitions include:
    * `Zig.mark`, `Zig.unmarked`
    * `Zig.Documents`

  Key theorems include:
    * `Zig.mem_docLines_cases`
    * `Zig.isLineBoundary_not_mem_docLines`
    * `Zig.docLines_line`
    * `Zig.docComment_documents`
-/

namespace ElementBindings

namespace Zig

variable {text line : List Char}
variable {lines : List (List Char)}

------------------------------------------------------------
-- Lines of a Comment
------------------------------------------------------------

/- What each line of a comment starts with. -/
def mark : List Char :=
  ['/', '/', '/']

/- A line of a comment without its mark and the blank behind it. -/
def unmarked
    (line : List Char) : List Char :=
  line.drop (mark.length + 1)

/- Neither the mark nor the blank behind it ends a line. -/
theorem forall_mem_mark :
    ∀ c ∈ mark ++ [' '], ¬ Text.isLineBoundary c := by
  have hNone :
      (mark ++ [' ']).all (!Text.isLineBoundary ·) := by
    decide
  intro c hChar
  simpa using List.all_eq_true.mp hNone c hChar

/- A line of a comment shows a line, if there is more than blanks. -/
theorem docLine_cases
    (line : List Char) :
    Text.trimEnd line = [] ∧ docLine line = mark ∨
      Text.trimEnd line ≠ [] ∧
        docLine line = mark ++ ' ' :: Text.trimEnd line := by
  unfold docLine
  dsimp only
  split
  · next hEmpty => exact .inl ⟨List.isEmpty_iff.mp hEmpty, rfl⟩
  · next hSome =>
      refine .inr ⟨?_, rfl⟩
      intro hEmpty
      exact hSome (List.isEmpty_iff.mpr hEmpty)

/- A text that is not blank has a mark and a line for each line. -/
theorem docLines_eq
    (hSome : Text.trim text ≠ []) :
    docLines text =
      mark :: (Text.splitLines (Text.trim text)).map docLine := by
  unfold docLines
  dsimp only
  rw [if_neg (mt List.isEmpty_iff.mp hSome)]
  rfl

/- A blank text has no lines. -/
theorem docLines_eq_nil_iff :
    docLines text = [] ↔ Text.trim text = [] := by
  constructor
  · intro hNone
    by_contra hSome
    rw [docLines_eq hSome] at hNone
    cases hNone
  · intro hEmpty
    unfold docLines
    dsimp only
    rw [if_pos (List.isEmpty_iff.mpr hEmpty)]

/-
  So each line of a comment is a mark, with nothing behind it
  or with a blank and what is shown of a line of the text.
-/
theorem mem_docLines_cases
    (hLine : line ∈ docLines text) :
    line = mark ∨
      ∃ source ∈ Text.splitLines (Text.trim text),
        Text.trimEnd source ≠ [] ∧
          line = mark ++ ' ' :: Text.trimEnd source := by
  by_cases hEmpty : Text.trim text = []
  · rw [docLines_eq_nil_iff.mpr hEmpty] at hLine
    cases hLine
  · rw [docLines_eq hEmpty] at hLine
    rcases List.mem_cons.mp hLine with hFirst | hShown
    · exact .inl hFirst
    · rcases List.mem_map.mp hShown with ⟨source, hSource, rfl⟩
      rcases docLine_cases source with ⟨_, hMark⟩ | hFull
      · exact .inl hMark
      · exact .inr ⟨source, hSource, hFull⟩

/- No line of a comment holds a line boundary. -/
theorem isLineBoundary_not_mem_docLines
    {b : Char}
    (hLine : line ∈ docLines text)
    (hBoundary : Text.isLineBoundary b) :
    b ∉ line := by
  intro hMember
  rcases mem_docLines_cases hLine with
    rfl | ⟨source, hSource, _, rfl⟩
  · exact
      forall_mem_mark b (List.mem_append_left _ hMember) hBoundary
  · rw [← List.singleton_append, ← List.append_assoc] at hMember
    rcases List.mem_append.mp hMember with hMark | hShown
    · exact forall_mem_mark b hMark hBoundary
    · exact
        Text.isLineBoundary_not_mem hSource hBoundary
          (Text.mem_of_mem_trimEnd hShown)

/- A line of a comment starts with a slash, and is one line. -/
theorem docLines_line
    (hLine : line ∈ docLines text) :
    line.head? = some '/' ∧ '\n' ∉ line := by
  have hInside :=
    isLineBoundary_not_mem_docLines hLine
      (by decide : Text.isLineBoundary '\n')
  refine ⟨?_, hInside⟩
  rcases mem_docLines_cases hLine with rfl | ⟨source, _, _, rfl⟩
  · rfl
  · rfl

/- A comment consists of such lines. -/
theorem exists_docComment_eq
    (text : Option String) :
    ∃ lines : List (List Char),
      (∀ line ∈ lines, line.head? = some '/' ∧ '\n' ∉ line) ∧
        (docComment text).toList =
          lines.flatMap (· ++ ['\n']) := by
  cases text with
  | none => exact ⟨[], by simp, rfl⟩
  | some text =>
      refine ⟨docLines text.toList, ?_, ?_⟩
      · intro line hLine
        exact docLines_line hLine
      · exact String.toList_ofList

------------------------------------------------------------
-- Comments and Texts
------------------------------------------------------------

/-
  A comment that documents a text by some lines.  It is written
  as a line with a mark and then these lines, and is read as
  these lines, too.  None of them ends in a blank.  Without
  their marks they are the lines of the text that is left
  between the blanks around it, each without the blanks at its
  end.
-/
structure Documents
    (comment text : List Char)
    (lines : List (List Char)) : Prop where
  written : comment = (mark :: lines).flatMap (· ++ ['\n'])
  inLines : Text.InLines comment (mark :: lines)
  unbroken : ∀ line ∈ mark :: lines, Text.IsUnbroken line
  ends :
    ∀ line ∈ mark :: lines, ∀ c, line.getLast? = some c →
      ¬ Text.isBlank c
  marked : ∀ line ∈ lines, line = mark ∨ mark ++ [' '] <+: line
  shown :
    ∃ body source,
      Text.IsTrimmed text body ∧ Text.InLines body source ∧
        List.Forall₂ Text.IsTrimmedEnd source
          (lines.map unmarked)

/- A line of a comment does not end in a blank. -/
theorem ends_of_mem_docLines
    (hLine : line ∈ docLines text)
    {c : Char}
    (hLast : line.getLast? = some c) :
    ¬ Text.isBlank c := by
  rcases mem_docLines_cases hLine with
    rfl | ⟨source, _, hSome, rfl⟩
  · rw [← Option.some.inj hLast]
    decide
  · rw [← List.singleton_append, ← List.append_assoc,
      List.getLast?_append_of_ne_nil _ hSome] at hLast
    exact (Text.isTrimmedEnd_trimEnd source).ends c hLast

/- It is a mark, or starts with a mark and a blank. -/
theorem marked_of_mem_docLines
    (hLine : line ∈ docLines text) :
    line = mark ∨ mark ++ [' '] <+: line := by
  rcases mem_docLines_cases hLine with
    hMark | ⟨source, _, _, rfl⟩
  · exact .inl hMark
  · exact .inr ⟨Text.trimEnd source, rfl⟩

/- Without its mark, a line is the line that it shows. -/
theorem unmarked_docLine
    (line : List Char) :
    unmarked (docLine line) = Text.trimEnd line := by
  rcases docLine_cases line with ⟨hNone, hMark⟩ | ⟨_, hFull⟩
  · rw [hMark, hNone]
    rfl
  · rw [hFull]
    rfl

/- Lines are shown without the blanks at their ends, in order. -/
theorem forall₂_unmarked
    (sources : List (List Char)) :
    List.Forall₂ Text.IsTrimmedEnd sources
      ((sources.map docLine).map unmarked) := by
  rw [List.map_map, List.forall₂_map_right_iff,
    List.forall₂_same]
  intro source _
  rw [Function.comp_apply, unmarked_docLine]
  exact Text.isTrimmedEnd_trimEnd source

/- There is no comment exactly if there are no lines of it. -/
theorem docComment_eq_empty_iff
    {source : String} :
    docComment (some source) = "" ↔
      ∀ c ∈ source.toList, Text.isBlank c := by
  rw [← Text.trim_eq_nil_iff, ← docLines_eq_nil_iff, docComment,
    String.ofList_eq_empty_iff]
  cases docLines source.toList with
  | nil => simp
  | cons first rest => simp

/- A text that is not blank is documented by its comment. -/
theorem documents_docLines
    (hSome : Text.trim text ≠ []) :
    Documents ((docLines text).flatMap (· ++ ['\n'])) text
      ((Text.splitLines (Text.trim text)).map docLine) := by
  have hLines := docLines_eq hSome
  have hUnbroken :
      ∀ line ∈ docLines text, Text.IsUnbroken line :=
    fun _ hLine _ hChar hBoundary =>
      isLineBoundary_not_mem_docLines hLine hBoundary hChar
  constructor
  · rw [hLines]
  · rw [← hLines]
    exact Text.inLines_feeds hUnbroken
  · rw [← hLines]
    exact hUnbroken
  · rw [← hLines]
    intro line hLine c hLast
    exact ends_of_mem_docLines hLine hLast
  · intro line hLine
    have hMember : line ∈ docLines text := by
      rw [hLines]
      exact List.mem_cons_of_mem mark hLine
    exact marked_of_mem_docLines hMember
  · exact
      ⟨Text.trim text, Text.splitLines (Text.trim text),
        Text.isTrimmed_trim text,
        Text.inLines_splitLines (Text.trim text),
        forall₂_unmarked _⟩

/-
  A comment is empty exactly if there is no text or only
  blanks.  Any other one documents the text.
-/
theorem docComment_documents
    (text : Option String) :
    (docComment text = "" ↔
      ∀ source, text = some source →
        ∀ c ∈ source.toList, Text.isBlank c) ∧
      ∀ source, text = some source →
        docComment text ≠ "" →
          ∃ lines,
            Documents (docComment text).toList source.toList
              lines := by
  cases text with
  | none =>
      refine ⟨iff_of_true rfl ?_, ?_⟩
      · intro source hSource
        cases hSource
      · intro source hSource
        cases hSource
  | some text =>
      refine ⟨?_, ?_⟩
      · rw [docComment_eq_empty_iff]
        constructor
        · rintro hBlank source ⟨⟩
          exact hBlank
        · intro hBlank
          exact hBlank text rfl
      · rintro source ⟨⟩ hComment
        have hSome : Text.trim text.toList ≠ [] := by
          rw [ne_eq, Text.trim_eq_nil_iff,
            ← docComment_eq_empty_iff]
          exact hComment
        rw [docComment, String.toList_ofList]
        exact ⟨_, documents_docLines hSome⟩

/- A text with blanks around its lines, which end in many ways. -/
def ragged : String :=
  " \n  First.\t\r\n \r Second\x0b\u2028Third.\u00A0\x1c\n\n"

/- A text of blanks has no comment, and a ragged one has this. -/
theorem ragged_documented :
    docComment (some "\t\r\n \u2028") = "" ∧
      docComment (some ragged) =
        "///\n/// First.\n///\n///  Second\n///\n/// Third.\n" ∧
      ∃ lines,
        Documents (docComment (some ragged)).toList
          ragged.toList lines := by
  have hBlank := docComment_documents (some "\t\r\n \u2028")
  have hRagged := docComment_documents (some ragged)
  have hComment :
      docComment (some ragged) =
        "///\n/// First.\n///\n///  Second\n///\n/// Third.\n" := by
    decide
  refine ⟨hBlank.1.mpr ?_, hComment, hRagged.2 ragged rfl ?_⟩
  · rintro source ⟨⟩
    exact List.all_eq_true.mp (by decide)
  · rw [hComment]
    decide

end Zig

end ElementBindings
