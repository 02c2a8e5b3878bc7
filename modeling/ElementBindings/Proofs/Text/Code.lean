import ElementBindings.Proofs.Text.Brackets
import ElementBindings.Proofs.Text.Indentation

/-
  The code of a text that is put together line by line.

  Comment lines do not count.  What is awaited after the lines
  of a text is told line by line, and within a line part by
  part: a neutral part can be left out, and so can even lines.
  Lines may be indented without being read differently.  If
  nothing is awaited after a text, its code is nested.

  Key definitions include:
    * `Text.code`
    * `Text.awaitedAfter`
    * `Text.IsBare`, `Text.IsNeutral`
    * `Text.Turns`, `Text.AreEven`, `Text.IsSettled`

  Key theorems include:
    * `Text.nested_code_of_awaitedAfter`
    * `Text.turns_cons_around`
    * `Text.awaitedAfter_joinLines`
    * `Text.IsSettled.indent`
    * `Text.awaitedAfter_append`
-/

namespace ElementBindings

namespace Text

------------------------------------------------------------
-- Parts of a Text
------------------------------------------------------------

/- A separator between texts ends the parts of the first. -/
theorem splitAtEach_append_cons
    (separator : Char)
    (s t : List Char) :
    splitAtEach separator (s ++ separator :: t) =
      splitAtEach separator s ++ splitAtEach separator t := by
  induction s with
  | nil => simp [splitAtEach]
  | cons c rest ih =>
      by_cases hSame : c = separator
      · rw [List.cons_append, splitAtEach, if_pos hSame, ih,
          splitAtEach, if_pos hSame, List.cons_append]
      · rcases splitAtEach_cons hSame rest with
          ⟨part, parts, hRest, hSplit⟩
        rw [List.cons_append, splitAtEach, if_neg hSame, ih,
          hSplit, hRest]
        rfl

/- Every character of a text stands in a part of it. -/
theorem eq_or_mem_splitAtEach
    {separator : Char}
    {s : List Char}
    {c : Char}
    (hChar : c ∈ s) :
    c = separator ∨
      ∃ part ∈ splitAtEach separator s, c ∈ part := by
  rw [← intercalate_splitAtEach separator s] at hChar
  cases hParts : splitAtEach separator s with
  | nil => exact absurd hParts (splitAtEach_ne_nil _ _)
  | cons first rest =>
      rw [hParts, intercalate_cons_eq_flatMap] at hChar
      rcases List.mem_append.mp hChar with hFirst | hLater
      · exact .inr ⟨first, List.mem_cons_self, hFirst⟩
      · rcases List.mem_flatMap.mp hLater with
          ⟨part, hPart, hMember⟩
        rcases List.mem_cons.mp hMember with hSame | hInside
        · exact .inl hSame
        · exact
            .inr ⟨part, List.mem_cons_of_mem _ hPart, hInside⟩

------------------------------------------------------------
-- Lines of Code
------------------------------------------------------------

/- A line is a comment if it starts with slashes, blanks apart. -/
def isComment
    (line : List Char) : Bool :=
  ['/', '/'].isPrefixOf (line.dropWhile isBlank)

/- A text without the lines that are comments. -/
def code
    (s : String) : List Char :=
  ['\n'].intercalate
    ((splitAtEach '\n' s.toList).filter (!isComment ·))

/-
  What is awaited after a part of a line.  No line boundary may
  stand in it.
-/
def awaitedInLine
    (pending part : List Char) : Option (List Char) :=
  if part.any isLineBoundary then
    none
  else
    awaited pending part

/- What is awaited after a line, which may be a comment. -/
def awaitedAfterLine
    (pending line : List Char) : Option (List Char) :=
  if isComment line then
    if line.any isLineBoundary then none else some pending
  else
    awaitedInLine pending line

/- What is awaited after some lines. -/
def awaitedAfterLines
    (pending : List Char)
    (lines : List (List Char)) : Option (List Char) :=
  lines.foldlM awaitedAfterLine pending

/- What is awaited after the lines of a text. -/
def awaitedAfter
    (pending : List Char)
    (s : String) : Option (List Char) :=
  awaitedAfterLines pending (splitAtEach '\n' s.toList)

/- Parts of a line are read one after the other. -/
theorem awaitedInLine_append
    (pending part more : List Char) :
    awaitedInLine pending (part ++ more) =
      (awaitedInLine pending part).bind
        (awaitedInLine · more) := by
  unfold awaitedInLine
  rw [List.any_append]
  cases part.any isLineBoundary with
  | true => rfl
  | false =>
      cases more.any isLineBoundary with
      | true => simp
      | false => simp [awaited_append]

/- So are lines. -/
theorem awaitedAfterLines_append
    (pending : List Char)
    (lines more : List (List Char)) :
    awaitedAfterLines pending (lines ++ more) =
      (awaitedAfterLines pending lines).bind
        (awaitedAfterLines · more) := by
  unfold awaitedAfterLines
  rw [List.foldlM_append]
  rfl

/- The first line is read before the others. -/
theorem awaitedAfterLines_cons
    (pending line : List Char)
    (rest : List (List Char)) :
    awaitedAfterLines pending (line :: rest) =
      (awaitedAfterLine pending line).bind
        (awaitedAfterLines · rest) := rfl

/- A line that has an end is free of line boundaries. -/
theorem not_isLineBoundary_of_line
    {pending next line : List Char}
    (hLine : awaitedAfterLine pending line = some next)
    {c : Char}
    (hChar : c ∈ line) :
    ¬ isLineBoundary c := by
  intro hBoundary
  have hAny : line.any isLineBoundary :=
    List.any_eq_true.mpr ⟨c, hChar, hBoundary⟩
  simp [awaitedAfterLine, awaitedInLine, hAny] at hLine

/- Nor is one in any of several lines. -/
theorem not_isLineBoundary_of_lines
    {pending next : List Char}
    {lines : List (List Char)}
    (hLines : awaitedAfterLines pending lines = some next)
    {line : List Char}
    (hLine : line ∈ lines)
    {c : Char}
    (hChar : c ∈ line) :
    ¬ isLineBoundary c := by
  induction lines generalizing pending with
  | nil => cases hLine
  | cons first rest ih =>
      rw [awaitedAfterLines_cons, Option.bind_eq_some_iff]
        at hLines
      rcases hLines with ⟨after, hFirst, hRest⟩
      rcases List.mem_cons.mp hLine with rfl | hLater
      · exact not_isLineBoundary_of_line hFirst hChar
      · exact ih hRest hLater

/-
  What lines leave awaited is what the lines of code among them
  leave awaited, with line feeds between these.
-/
theorem awaited_code_lines
    {pending next : List Char}
    {lines : List (List Char)}
    (hLines : awaitedAfterLines pending lines = some next) :
    awaited pending
        (['\n'].intercalate (lines.filter (!isComment ·))) =
      some next := by
  induction lines generalizing pending with
  | nil => exact hLines
  | cons line rest ih =>
      rw [awaitedAfterLines_cons, Option.bind_eq_some_iff]
        at hLines
      rcases hLines with ⟨after, hLine, hRest⟩
      have hLater := ih hRest
      unfold awaitedAfterLine at hLine
      by_cases hComment : isComment line
      · rw [if_pos hComment] at hLine
        rw [List.filter_cons_of_neg (by simp [hComment])]
        split at hLine
        · cases hLine
        · rw [Option.some.inj hLine]
          exact hLater
      · have hHere : awaited pending line = some after := by
          rw [if_neg hComment] at hLine
          unfold awaitedInLine at hLine
          split at hLine
          · cases hLine
          · exact hLine
        rw [List.filter_cons_of_pos (by simp [hComment])]
        cases hOthers : rest.filter (!isComment ·) with
        | nil =>
            rw [hOthers] at hLater
            have hDone : after = next := Option.some.inj hLater
            rw [← hDone]
            simpa [List.intercalate] using hHere
        | cons second others =>
            rw [hOthers] at hLater
            have hFeed :
                awaited after ['\n'] = some after := rfl
            rw [List.intercalate_cons_cons, awaited_append,
              awaited_append, hHere, Option.bind_some, hFeed,
              Option.bind_some, hLater]

/- A text whose lines can be read has line feeds only. -/
theorem isPlain_of_awaitedAfter
    {pending next : List Char}
    {s : String}
    (hText : awaitedAfter pending s = some next) :
    IsPlain s := by
  intro c hChar hBoundary
  rcases eq_or_mem_splitAtEach hChar with
    hFeed | ⟨line, hLine, hInside⟩
  · exact hFeed
  · exact
      absurd hBoundary
        (not_isLineBoundary_of_lines hText hLine hInside)

/- If nothing stays awaited, the code of the text is nested. -/
theorem nested_code_of_awaitedAfter
    {s : String}
    (hText : awaitedAfter [] s = some []) :
    Nested (code s) :=
  nested_iff.mpr (awaited_code_lines hText)

------------------------------------------------------------
-- Neutral Parts
------------------------------------------------------------

/- A character is bare: no bracket, and no line boundary. -/
def isBare
    (c : Char) : Bool :=
  !isBracket c && !isLineBoundary c

/- A text is bare if its characters are. -/
def IsBare
    (s : String) : Prop :=
  ∀ c ∈ s.toList, isBare c

instance (s : String) : Decidable (IsBare s) :=
  decidable_of_iff (s.toList.all isBare) List.all_eq_true

/- A part of a line changes nothing about what is awaited. -/
def IsNeutral
    (s : String) : Prop :=
  ∀ pending,
    awaitedInLine pending s.toList = some pending

/- A bare text stands on one line. -/
theorem IsBare.any_isLineBoundary
    {s : String}
    (hBare : IsBare s) :
    s.toList.any isLineBoundary = false := by
  rw [List.any_eq_false]
  intro c hChar hBoundary
  have hHere := hBare c hChar
  simp [isBare, hBoundary] at hHere

/- A bare text is nested, having no brackets. -/
theorem IsBare.nested
    {s : String}
    (hBare : IsBare s) :
    Nested s.toList := by
  unfold IsBare at hBare
  generalize s.toList = chars at hBare
  induction chars with
  | nil => exact .nil
  | cons c rest ih =>
      have hHere := hBare c List.mem_cons_self
      simp only [isBare, Bool.and_eq_true, Bool.not_eq_true']
        at hHere
      exact
        .other hHere.1
          (ih fun d hLater =>
            hBare d (List.mem_cons_of_mem c hLater))

/- So it changes nothing. -/
theorem IsBare.isNeutral
    {s : String}
    (hBare : IsBare s) :
    IsNeutral s := by
  intro pending
  unfold awaitedInLine
  rw [hBare.any_isLineBoundary]
  exact awaited_of_nested hBare.nested pending

/- Further brackets may be awaited around a part. -/
theorem awaitedInLine_outer
    {before after part : List Char}
    (hPart : awaitedInLine before part = some after)
    (outer : List Char) :
    awaitedInLine (before ++ outer) part =
      some (after ++ outer) := by
  unfold awaitedInLine at hPart ⊢
  split at hPart
  · cases hPart
  · next hLine =>
      rw [if_neg hLine]
      exact awaited_outer hPart outer

/- A part that is written out is neutral if it is closed. -/
theorem isNeutral_of_chars
    {chars : List Char}
    (hClosed : awaitedInLine [] chars = some []) :
    IsNeutral (String.ofList chars) := by
  intro pending
  rw [String.toList_ofList]
  exact awaitedInLine_outer hClosed pending

/- It may be written out in two halves. -/
theorem isNeutral_of_halves
    {left right : List Char}
    (hClosed : awaitedInLine [] (left ++ right) = some []) :
    IsNeutral (String.ofList left ++ String.ofList right) := by
  rw [← String.ofList_append]
  exact isNeutral_of_chars hClosed

/- A neutral part can be left out where a line is read. -/
theorem awaitedInLine_around
    {s : String}
    (hInside : IsNeutral s)
    (left right pending : List Char) :
    awaitedInLine pending
        (String.ofList left ++ s ++ String.ofList right).toList =
      awaitedInLine pending (left ++ right) := by
  rw [String.toList_append, String.toList_append,
    String.toList_ofList, String.toList_ofList,
    awaitedInLine_append, awaitedInLine_append,
    awaitedInLine_append]
  simp only [hInside _, Option.bind_fun_some]

/- So it may stand inside a part that is closed. -/
theorem isNeutral_around
    {left right : List Char}
    {s : String}
    (hAround : awaitedInLine [] (left ++ right) = some [])
    (hInside : IsNeutral s) :
    IsNeutral
      (String.ofList left ++ s ++ String.ofList right) := by
  intro pending
  rw [awaitedInLine_around hInside]
  exact awaitedInLine_outer hAround pending

/- Neutral parts make a neutral whole. -/
theorem IsNeutral.append
    {s t : String}
    (hFirst : IsNeutral s)
    (hSecond : IsNeutral t) :
    IsNeutral (s ++ t) := by
  intro pending
  rw [String.toList_append, awaitedInLine_append,
    hFirst pending, Option.bind_some, hSecond pending]

/- Also behind a part that is neutral itself. -/
theorem IsNeutral.append_around
    {left right : List Char}
    {s t : String}
    (hFirst : IsNeutral s)
    (hAround : awaitedInLine [] (left ++ right) = some [])
    (hInside : IsNeutral t) :
    IsNeutral
      (s ++ String.ofList left ++ t ++ String.ofList right) := by
  have hParts :
      s ++ String.ofList left ++ t ++ String.ofList right =
        s
          ++ (String.ofList left ++ t
            ++ String.ofList right) := by
    simp only [String.append_assoc]
  rw [hParts]
  exact hFirst.append (isNeutral_around hAround hInside)

/- So do neutral texts joined by a neutral separator. -/
theorem isNeutral_joinWith
    {separator : String}
    {texts : List String}
    (hSeparator : IsNeutral separator)
    (hTexts : ∀ text ∈ texts, IsNeutral text) :
    IsNeutral (joinWith separator texts) := by
  induction texts with
  | nil => exact fun _ => rfl
  | cons text rest ih =>
      have hHere := hTexts text List.mem_cons_self
      have hRest := ih fun later hLater =>
        hTexts later (List.mem_cons_of_mem text hLater)
      cases rest with
      | nil => exact hHere
      | cons next others =>
          exact (hHere.append hSeparator).append hRest

------------------------------------------------------------
-- Lines in Turn
------------------------------------------------------------

/-
  Lines turn the brackets that are awaited before them into
  those awaited after them, whatever is awaited around these.
-/
def Turns
    (before after : List Char)
    (lines : List String) : Prop :=
  ∀ outer,
    awaitedAfterLines (before ++ outer)
        (lines.map String.toList) =
      some (after ++ outer)

/- Even lines change nothing about what is awaited. -/
def AreEven
    (lines : List String) : Prop :=
  Turns [] [] lines

variable {before after : List Char}
variable {rest : List String}

/- No lines change nothing. -/
theorem turns_nil
    (before : List Char) :
    Turns before before [] :=
  fun _ => rfl

/- One line after the other turns what is awaited. -/
theorem Turns.append
    {middle : List Char}
    {lines more : List String}
    (hFirst : Turns before middle lines)
    (hSecond : Turns middle after more) :
    Turns before after (lines ++ more) := by
  intro outer
  rw [List.map_append, awaitedAfterLines_append,
    hFirst outer, Option.bind_some, hSecond outer]

/- Even lines may stand within other ones. -/
theorem AreEven.turns
    {lines : List String}
    (hEven : AreEven lines)
    (before : List Char) :
    Turns before before lines :=
  fun outer => hEven (before ++ outer)

/- Lines are even if each group of them is. -/
theorem areEven_flatMap
    {α : Type}
    {items : List α}
    {linesOf : α → List String}
    (hItems : ∀ item ∈ items, AreEven (linesOf item)) :
    AreEven (items.flatMap linesOf) := by
  induction items with
  | nil => exact turns_nil []
  | cons item rest ih =>
      rw [List.flatMap_cons]
      exact
        (hItems item List.mem_cons_self).append
          (ih fun later hLater =>
            hItems later (List.mem_cons_of_mem item hLater))

/- A line may stand before others that go on from it. -/
theorem turns_cons_of_line
    {line : String}
    {middle : List Char}
    (hLine :
      ∀ outer,
        awaitedAfterLine (before ++ outer) line.toList =
          some (middle ++ outer))
    (hRest : Turns middle after rest) :
    Turns before after (line :: rest) := by
  intro outer
  rw [List.map_cons, awaitedAfterLines_cons, hLine outer,
    Option.bind_some, hRest outer]

/- A neutral line, comment or not, changes nothing. -/
theorem turns_cons_neutral
    {line : String}
    (hNeutral : IsNeutral line)
    (hRest : Turns before after rest) :
    Turns before after (line :: rest) := by
  apply turns_cons_of_line _ hRest
  intro outer
  have hRead := hNeutral (before ++ outer)
  unfold awaitedAfterLine
  by_cases hComment : isComment line.toList
  · rw [if_pos hComment]
    unfold awaitedInLine at hRead
    split at hRead
    · cases hRead
    · next hNone => rw [if_neg hNone]
  · rw [if_neg hComment]
    exact hRead

/- So neutral lines are even. -/
theorem areEven_of_neutral
    {lines : List String}
    (hLines : ∀ line ∈ lines, IsNeutral line) :
    AreEven lines := by
  induction lines with
  | nil => exact turns_nil []
  | cons line rest ih =>
      exact
        turns_cons_neutral (hLines line List.mem_cons_self)
          (ih fun later hLater =>
            hLines later (List.mem_cons_of_mem line hLater))

/-
  A line starts with code: something other than a slash is the
  first thing on it.
-/
def startsCode
    (s : List Char) : Bool :=
  match s.dropWhile isBlank with
  | [] => false
  | c :: _ => c ≠ '/'

/- Such a line is no comment, however it goes on. -/
theorem isComment_append
    {s : List Char}
    (hCode : startsCode s)
    (more : List Char) :
    isComment (s ++ more) = false := by
  unfold startsCode at hCode
  unfold isComment
  rw [List.dropWhile_append]
  cases hRest : s.dropWhile isBlank with
  | nil => simp [hRest] at hCode
  | cons c rest =>
      simp only [hRest, decide_eq_true_eq] at hCode
      have hOther : ('/' == c) = false :=
        beq_eq_false_iff_ne.mpr hCode.symm
      rw [if_neg (by simp), List.cons_append,
        List.isPrefixOf, hOther, Bool.false_and]

/-
  A line of code around a neutral part is read without that
  part.
-/
theorem turns_cons_around
    {left right : List Char}
    {s : String}
    (middle : List Char)
    (hCode : startsCode left)
    (hAround :
      awaitedInLine before (left ++ right) = some middle)
    (hInside : IsNeutral s)
    (hRest : Turns middle after rest) :
    Turns before after
      ((String.ofList left ++ s ++ String.ofList right)
        :: rest) := by
  apply turns_cons_of_line _ hRest
  intro outer
  have hLine :
      isComment
          (String.ofList left ++ s
            ++ String.ofList right).toList = false := by
    rw [String.toList_append, String.toList_append,
      String.toList_ofList, List.append_assoc]
    exact isComment_append hCode _
  unfold awaitedAfterLine
  rw [hLine, if_neg Bool.false_ne_true,
    awaitedInLine_around hInside]
  exact awaitedInLine_outer hAround outer

/- A line of code that is written out is read as it is. -/
theorem turns_cons
    {chars : List Char}
    (middle : List Char)
    (hCode : startsCode chars)
    (hChars : awaitedInLine before chars = some middle)
    (hRest : Turns middle after rest) :
    Turns before after (String.ofList chars :: rest) := by
  apply turns_cons_of_line _ hRest
  intro outer
  have hLine : isComment chars = false := by
    rw [← List.append_nil chars]
    exact isComment_append hCode []
  rw [String.toList_ofList]
  unfold awaitedAfterLine
  rw [hLine, if_neg Bool.false_ne_true]
  exact awaitedInLine_outer hChars outer

/- The line may also be written out in two halves. -/
theorem turns_cons_halves
    {left right : List Char}
    (middle : List Char)
    (hCode : startsCode left)
    (hChars :
      awaitedInLine before (left ++ right) = some middle)
    (hRest : Turns middle after rest) :
    Turns before after
      ((String.ofList left ++ String.ofList right) :: rest) := by
  have hEmpty : IsNeutral "" := fun _ => rfl
  have hLine :=
    turns_cons_around middle hCode hChars hEmpty hRest
  rw [String.append_empty] at hLine
  exact hLine

/- Blanks before a line change nothing about it. -/
theorem awaitedAfterLine_blanks
    (width : Nat)
    (line : List Char)
    (pending : List Char) :
    awaitedAfterLine pending
        (List.replicate width ' ' ++ line) =
      awaitedAfterLine pending line := by
  have hComment :
      isComment (List.replicate width ' ' ++ line) =
        isComment line := by
    unfold isComment
    rw [List.dropWhile_append_of_pos]
    intro c hChar
    rw [List.eq_of_mem_replicate hChar]
    rfl
  have hBlanks :
      IsBare (String.ofList (List.replicate width ' ')) := by
    intro c hChar
    rw [String.toList_ofList] at hChar
    rw [List.eq_of_mem_replicate hChar]
    decide
  have hRead := hBlanks.isNeutral pending
  have hNone := hBlanks.any_isLineBoundary
  rw [String.toList_ofList] at hRead hNone
  unfold awaitedAfterLine
  rw [hComment, List.any_append, hNone, Bool.false_or,
    awaitedInLine_append, hRead, Option.bind_some]

/- So do they when they are only put before a line with text. -/
theorem awaitedAfterLine_indentLine
    (width : Nat)
    (line : List Char)
    (pending : List Char) :
    awaitedAfterLine pending (indentLine width line) =
      awaitedAfterLine pending line := by
  unfold indentLine
  split
  · next hEmpty =>
      rw [List.isEmpty_iff.mp hEmpty]
  · exact awaitedAfterLine_blanks width line pending

/- Lines are read indented as they are read without blanks. -/
theorem awaitedAfterLines_map_indentLine
    (width : Nat)
    (lines : List (List Char))
    (pending : List Char) :
    awaitedAfterLines pending (lines.map (indentLine width)) =
      awaitedAfterLines pending lines := by
  unfold awaitedAfterLines
  rw [List.foldlM_map]
  simp only [awaitedAfterLine_indentLine]

------------------------------------------------------------
-- Settled Texts
------------------------------------------------------------

/- Texts with a line feed between them are read in turn. -/
theorem awaitedAfter_append_feed
    (pending : List Char)
    (s t : String) :
    awaitedAfter pending (s ++ "\n" ++ t) =
      (awaitedAfter pending s).bind (awaitedAfter · t) := by
  unfold awaitedAfter
  have hFeed : "\n".toList = ['\n'] := rfl
  rw [String.toList_append, String.toList_append, hFeed,
    List.append_assoc, List.singleton_append,
    splitAtEach_append_cons, awaitedAfterLines_append]

/- The lines of a text change nothing about what is awaited. -/
def IsSettled
    (s : String) : Prop :=
  ∀ pending, awaitedAfter pending s = some pending

/- An empty text is settled. -/
theorem isSettled_empty : IsSettled "" :=
  fun _ => rfl

/- Settled texts are settled with a line feed between them. -/
theorem IsSettled.append_feed
    {s t : String}
    (hFirst : IsSettled s)
    (hSecond : IsSettled t) :
    IsSettled (s ++ "\n" ++ t) := by
  intro pending
  rw [awaitedAfter_append_feed, hFirst pending,
    Option.bind_some, hSecond pending]

/- A line without line feeds is read as it is. -/
theorem awaitedAfter_of_line
    {line : String}
    (hLine : '\n' ∉ line.toList)
    (pending : List Char) :
    awaitedAfter pending line =
      awaitedAfterLine pending line.toList := by
  unfold awaitedAfter
  rw [splitAtEach_of_not_mem hLine, awaitedAfterLines_cons]
  exact Option.bind_fun_some _

/- Lines that can be read are read the same when joined. -/
theorem awaitedAfter_joinLines
    {pending next : List Char}
    {lines : List String}
    (hLines :
      awaitedAfterLines pending (lines.map String.toList) =
        some next) :
    awaitedAfter pending (joinLines lines) = some next := by
  induction lines generalizing pending with
  | nil => exact hLines
  | cons line rest ih =>
      rw [List.map_cons, awaitedAfterLines_cons,
        Option.bind_eq_some_iff] at hLines
      rcases hLines with ⟨after, hLine, hRest⟩
      have hInside : '\n' ∉ line.toList := fun hFeed =>
        not_isLineBoundary_of_line hLine hFeed rfl
      have hHere :
          awaitedAfter pending line = some after := by
        rw [awaitedAfter_of_line hInside, hLine]
      cases rest with
      | nil =>
          have hDone : after = next := Option.some.inj hRest
          rw [← hDone]
          exact hHere
      | cons second others =>
          have hJoin :
              joinLines (line :: second :: others) =
                line ++ "\n" ++ joinLines (second :: others) :=
            rfl
          rw [hJoin, awaitedAfter_append_feed, hHere,
            Option.bind_some, ih hRest]

/- Even lines make a settled text. -/
theorem AreEven.isSettled_joinLines
    {lines : List String}
    (hEven : AreEven lines) :
    IsSettled (joinLines lines) :=
  fun pending => awaitedAfter_joinLines (hEven pending)

/- An indented text is read as it is read without blanks. -/
theorem awaitedAfter_indent
    {s : String}
    (hPlain : IsPlain s)
    (width : Nat)
    (pending : List Char) :
    awaitedAfter pending
        (String.ofList (List.replicate width ' ')
          ++ indent width s) =
      awaitedAfter pending s := by
  rcases exists_lines_of_plain hPlain with
    ⟨first, rest, hLines, hParts, hFree⟩
  unfold awaitedAfter
  rw [splitAtEach_indent hLines hFree, hParts,
    awaitedAfterLines_cons, awaitedAfterLine_blanks,
    awaitedAfterLines_cons]
  simp only [awaitedAfterLines_map_indentLine]

/- So a settled text can be indented. -/
theorem IsSettled.indent
    {s : String}
    (hSettled : IsSettled s)
    (width : Nat) :
    IsSettled
      (String.ofList (List.replicate width ' ')
        ++ indent width s) := by
  intro pending
  have hPlain := isPlain_of_awaitedAfter (hSettled [])
  rw [awaitedAfter_indent hPlain, hSettled pending]

/- A line feed at the end of a text changes nothing. -/
theorem awaitedAfter_feed
    (pending : List Char)
    (s : String) :
    awaitedAfter pending (s ++ "\n") =
      awaitedAfter pending s := by
  rw [← String.append_empty (s := s ++ "\n"),
    awaitedAfter_append_feed]
  exact Option.bind_fun_some _

/- A text is closed: if it is not empty, a line feed ends it. -/
def IsClosed
    (s : String) : Prop :=
  s = "" ∨ ∃ front, s = front ++ "\n"

/- What follows a closed text stands on lines of its own. -/
theorem awaitedAfter_append
    {s : String}
    (hClosed : IsClosed s)
    (t : String)
    (pending : List Char) :
    awaitedAfter pending (s ++ t) =
      (awaitedAfter pending s).bind (awaitedAfter · t) := by
  rcases hClosed with rfl | ⟨front, rfl⟩
  · rw [String.empty_append, isSettled_empty pending,
      Option.bind_some]
  · rw [awaitedAfter_append_feed, awaitedAfter_feed]

/- So a settled text may follow a closed one that is settled. -/
theorem IsSettled.append
    {s t : String}
    (hFirst : IsSettled s)
    (hClosed : IsClosed s)
    (hSecond : IsSettled t) :
    IsSettled (s ++ t) := by
  intro pending
  rw [awaitedAfter_append hClosed, hFirst pending,
    Option.bind_some, hSecond pending]

end Text

end ElementBindings
