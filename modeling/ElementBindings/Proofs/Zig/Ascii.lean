import ElementBindings.Proofs.Result
import ElementBindings.Proofs.Text.Ascii
import ElementBindings.Proofs.Text.Line
import ElementBindings.Proofs.Zig.Doc
import ElementBindings.Zig.Page

/-
  Pages of ASCII characters.

  A page adds no other character to what is declared for its
  element, its names and its documentation.  So whether it can
  be encoded is seen from its declarations one by one, before
  they are indented.

  Key definitions include:
    * `Zig.FunctionDecl.IsAscii`
    * `Zig.Binding.IsAscii`

  Key theorems include:
    * `Zig.isAscii_docComment`
    * `Zig.isAscii_page`
    * `Element.isAscii_render`
-/

namespace ElementBindings

open Text Zig

------------------------------------------------------------
-- Lines
------------------------------------------------------------

namespace Text

/- The lines of a text have no other characters. -/
theorem mem_of_mem_splitLines
    {s line : List Char}
    {c : Char}
    (hLine : line ∈ splitLines s)
    (hChar : c ∈ line) :
    c ∈ s := by
  fun_induction splitLines s generalizing line with
  | case1 => simp at hLine
  | case2 rest ih =>
      rcases List.mem_cons.mp hLine with rfl | hLater
      · simp at hChar
      · simp [ih hLater hChar]
  | case3 d rest _ hBoundary ih =>
      rcases List.mem_cons.mp hLine with rfl | hLater
      · simp at hChar
      · simp [ih hLater hChar]
  | case4 d rest _ hUnbroken hNone ih =>
      rw [List.mem_singleton] at hLine
      rw [hLine, List.mem_singleton] at hChar
      simp [hChar]
  | case5 d rest _ hUnbroken first lines hSome ih =>
      rw [hSome] at ih
      rcases List.mem_cons.mp hLine with hFirst | hLater
      · rw [hFirst] at hChar
        rcases List.mem_cons.mp hChar with rfl | hThere
        · simp
        · simp [ih List.mem_cons_self hThere]
      · simp [ih (List.mem_cons_of_mem first hLater) hChar]

/- Indentation adds blanks and line feeds. -/
theorem mem_indentChars
    {width : Nat}
    {s : List Char}
    {c : Char}
    (hMember : c ∈ indentChars width s) :
    c ∈ s ∨ c ∈ [' ', '\n'] := by
  have hSource :
      ∀ line ∈ splitLines (s ++ ['\n']),
        c ∈ line → c ∈ s ∨ c ∈ [' ', '\n'] := by
    intro line hLine hChar
    have hThere := mem_of_mem_splitLines hLine hChar
    rcases List.mem_append.mp hThere with hHere | hFeed
    · exact .inl hHere
    · exact .inr (List.mem_cons_of_mem ' ' hFeed)
  unfold indentChars at hMember
  cases hLines : splitLines (s ++ ['\n']) with
  | nil => simp [hLines] at hMember
  | cons first rest =>
      rw [hLines] at hMember hSource
      rcases List.mem_append.mp hMember with hFirst | hRest
      · exact hSource first List.mem_cons_self hFirst
      · rcases List.mem_flatMap.mp hRest with
          ⟨line, hLine, hThere⟩
        rcases List.mem_cons.mp hThere with rfl | hShown
        · simp
        · unfold indentLine at hShown
          split at hShown
          · simp at hShown
          · rcases List.mem_append.mp hShown with hBlank | hText
            · rw [List.eq_of_mem_replicate hBlank]
              simp
            · exact
                hSource line
                  (List.mem_cons_of_mem first hLine) hText

/- So an indented text is ASCII, too. -/
theorem IsAscii.indent
    {s : String}
    (width : Nat)
    (hAscii : IsAscii s) :
    IsAscii (Text.indent width s) := by
  apply isAscii_ofList
  intro c hMember
  rcases mem_indentChars hMember with hThere | hAdded
  · exact hAscii c hThere
  · have hBoth : ∀ c ∈ [' ', '\n'], isAsciiChar c :=
      List.all_eq_true.mp (by decide)
    exact hBoth c hAdded

end Text

namespace Zig

------------------------------------------------------------
-- Declarations
------------------------------------------------------------

/- What is on a line of a comment is there before, or is added. -/
theorem mem_of_mem_docLines
    {source line : List Char}
    {c : Char}
    (hLine : line ∈ docLines source)
    (hMember : c ∈ line) :
    c ∈ mark ∨ c = ' ' ∨ c ∈ source := by
  rcases mem_docLines_cases hLine with
    rfl | ⟨piece, hPiece, _, rfl⟩
  · exact .inl hMember
  · rcases List.mem_append.mp hMember with hMark | hRest
    · exact .inl hMark
    · rcases List.mem_cons.mp hRest with hBlank | hText
      · exact .inr (.inl hBlank)
      · have hTrimmed :=
          mem_of_mem_splitLines hPiece (mem_of_mem_trimEnd hText)
        exact
          .inr (.inr
            ((List.dropWhile_suffix isBlank).subset
              (mem_of_mem_trimEnd hTrimmed)))

/- A comment of a text adds slashes, blanks and line feeds. -/
theorem isAscii_docComment
    {text : Option String}
    (hText : ∀ s ∈ text, IsAscii s) :
    IsAscii (docComment text) := by
  cases text with
  | none => decide
  | some source =>
      have hMarks : ∀ c ∈ mark, isAsciiChar c :=
        List.all_eq_true.mp (by decide)
      have hSource : IsAscii source := hText source rfl
      apply isAscii_ofList
      intro c hMember
      rcases List.mem_flatMap.mp hMember with
        ⟨line, hLine, hThere⟩
      rcases List.mem_append.mp hThere with hShown | hFeed
      · rcases mem_of_mem_docLines hLine hShown with
          hMark | rfl | hInside
        · exact hMarks c hMark
        · decide
        · exact hSource c hInside
      · rw [List.mem_singleton.mp hFeed]
        decide

/- A function whose documentation and whose lines are ASCII. -/
def FunctionDecl.IsAscii
    (function : FunctionDecl) : Prop :=
  (∀ s ∈ function.documentation, Text.IsAscii s) ∧
    Text.IsAscii
      (block function.header
        (function.body.flatMap Statement.lines))

instance
    (function : FunctionDecl) : Decidable function.IsAscii :=
  inferInstanceAs (Decidable (_ ∧ _))

/- Such functions are written in ASCII. -/
theorem isAscii_renderFunctions
    {functions : List FunctionDecl}
    (hFunctions : ∀ f ∈ functions, f.IsAscii) :
    IsAscii (renderFunctions functions) := by
  apply IsAscii.joinWith
  · decide
  · intro s hMember
    rcases List.mem_map.mp hMember with ⟨f, hFunction, rfl⟩
    rcases hFunctions f hFunction with ⟨hDocumentation, hLines⟩
    exact (isAscii_docComment hDocumentation).append hLines

/- A binding of such functions, all else of it being ASCII. -/
structure Binding.IsAscii
    (binding : Binding) : Prop where
  documentation :
    ∀ s ∈ binding.documentation, Text.IsAscii s
  enumTypes : Text.IsAscii (renderEnumTypes binding.enumTypes)
  handlerTypes :
    Text.IsAscii (renderHandlerTypes binding.handlerTypes)
  functions :
    ∀ f ∈ binding.initializer ++ binding.body
        ++ binding.bodyOperations
        ++ binding.initializerOperations,
      f.IsAscii
  tests : Text.IsAscii (renderRoundTrips binding.tests)

instance
    (binding : Binding) : Decidable binding.IsAscii :=
  decidable_of_iff
    ((∀ s ∈ binding.documentation, Text.IsAscii s) ∧
      Text.IsAscii (renderEnumTypes binding.enumTypes) ∧
      Text.IsAscii (renderHandlerTypes binding.handlerTypes) ∧
      (∀ f ∈ binding.initializer ++ binding.body
          ++ binding.bodyOperations
          ++ binding.initializerOperations,
        f.IsAscii) ∧
      Text.IsAscii (renderRoundTrips binding.tests))
    ⟨fun ⟨hDoc, hEnums, hHandlers, hFunctions, hTests⟩ =>
      ⟨hDoc, hEnums, hHandlers, hFunctions, hTests⟩,
      fun ⟨hDoc, hEnums, hHandlers, hFunctions, hTests⟩ =>
        ⟨hDoc, hEnums, hHandlers, hFunctions, hTests⟩⟩

------------------------------------------------------------
-- Pages
------------------------------------------------------------

/- The text of a piece of a page, as it was before. -/
def Piece.texts : Piece → List String
  | .frame lines => lines
  | .comment text => [text]
  | .slot _ fragment => [fragment]
  | .marginSlot fragment => [fragment]

/- A piece is ASCII if its texts are. -/
theorem Piece.isAscii_render
    {piece : Piece}
    (hTexts : ∀ s ∈ piece.texts, Text.IsAscii s) :
    Text.IsAscii piece.render := by
  have hFeed : Text.IsAscii "\n" := by decide
  have hNothing : Text.IsAscii "" := by decide
  cases piece with
  | frame lines =>
      apply IsAscii.joinWith hNothing
      intro s hMember
      rcases List.mem_map.mp hMember with ⟨line, hLine, rfl⟩
      exact (hTexts line hLine).append hFeed
  | comment text => exact hTexts text (by simp [texts])
  | slot width fragment =>
      have hText := hTexts fragment (by simp [texts])
      have hBlanks :
          Text.IsAscii
            (String.ofList (List.replicate width ' ')) := by
        apply isAscii_ofList
        intro c hMember
        rw [List.eq_of_mem_replicate hMember]
        decide
      simp only [Piece.render]
      split
      · exact hNothing
      · exact (hBlanks.append (hText.indent width)).append hFeed
  | marginSlot fragment =>
      have hText := hTexts fragment (by simp [texts])
      simp only [Piece.render]
      split
      · exact hNothing
      · exact hText.append hFeed

/- The lines of the frame are. -/
theorem isAscii_frame :
    ∀ s ∈ prologue ++ initializerOpening
        ++ ["    \x7d;", "\x7d;"],
      Text.IsAscii s := by
  decide

/- So a page is if its binding and its opening lines are. -/
theorem isAscii_page
    {binding : Binding}
    {name className nativeType : String}
    (hOpening :
      ∀ s ∈ opening name className nativeType, Text.IsAscii s)
    (hBinding : binding.IsAscii) :
    Text.IsAscii
      (page name className nativeType binding.fragments) := by
  have hFunctions := hBinding.functions
  simp only [List.forall_mem_append] at hFunctions
  rcases hFunctions with ⟨⟨⟨hInit, hBody⟩, hLive⟩, hStart⟩
  have hFrame := isAscii_frame
  simp only [List.forall_mem_append, List.forall_mem_cons] at hFrame
  rcases hFrame with
    ⟨⟨hPrologue, hInitializer⟩, hClose, hEnd, _⟩
  have hPieces :
      ∀ piece ∈
          pieces name className nativeType binding.fragments,
        ∀ s ∈ piece.texts, Text.IsAscii s := by
    simp only [pieces, Piece.texts, List.forall_mem_cons,
      Binding.fragments]
    refine
      ⟨hPrologue, ⟨?_, by simp⟩, hOpening,
        ⟨hBinding.enumTypes, by simp⟩,
        ⟨hBinding.handlerTypes, by simp⟩, hInitializer,
        ⟨?_, by simp⟩, ⟨?_, by simp⟩, ⟨hClose, by simp⟩,
        ⟨?_, by simp⟩, ⟨?_, by simp⟩, ⟨hEnd, by simp⟩,
        ⟨hBinding.tests, by simp⟩, by simp⟩
    · exact isAscii_docComment hBinding.documentation
    · exact isAscii_renderFunctions hStart
    · exact isAscii_renderFunctions hInit
    · exact isAscii_renderFunctions hBody
    · exact isAscii_renderFunctions hLive
  apply IsAscii.joinWith (by decide)
  intro s hMember
  rcases List.mem_map.mp hMember with ⟨piece, hPiece, rfl⟩
  exact Piece.isAscii_render (hPieces piece hPiece)

/- And a page that can be encoded has such a documentation. -/
theorem isWhole_documentation_of_page
    {name className nativeType : String}
    {fragments : Fragments}
    (hPage :
      Text.isWhole (page name className nativeType fragments)) :
    Text.isWhole fragments.documentation := by
  refine isWhole_of_infix (infix_joinWith ?_) hPage
  exact
    List.mem_map.mpr
      ⟨.comment fragments.documentation, by simp [pieces], rfl⟩

end Zig

/- The text of an element is that page. -/
theorem Element.isAscii_render
    {element : Element}
    {parents : List (Option Attribute)}
    {text : String}
    (hOpening :
      ∀ kind ∈ element.nativeType,
        ∀ s ∈ opening (shownName element.name)
            (shownName element.className) kind.text,
          Text.IsAscii s)
    (hBinding :
      ∀ binding, element.binding parents = .ok binding →
        binding.IsAscii)
    (hRender : element.render parents = .ok text) :
    Text.IsAscii text := by
  rcases bind_eq_ok_iff.mp hRender with ⟨kind, hKind, hRest⟩
  rcases bind_eq_ok_iff.mp hRest with
    ⟨fragments, hFragments, hWritten⟩
  rcases map_eq_ok_iff.mp hFragments with
    ⟨binding, hDeclared, hSame⟩
  rw [← hSame] at hWritten
  rw [← Except.ok.inj hWritten]
  exact
    isAscii_page (hOpening kind (needed_eq_ok_iff.mp hKind))
      (hBinding binding hDeclared)

/- A text that can be encoded comes from such a documentation. -/
theorem Element.isWhole_docComment_of_render
    {element : Element}
    {parents : List (Option Attribute)}
    {text : String}
    (hRender : element.render parents = .ok text)
    (hWhole : Text.isWhole text) :
    Text.isWhole (docComment element.documentation) := by
  rcases bind_eq_ok_iff.mp hRender with ⟨kind, _, hRest⟩
  rcases bind_eq_ok_iff.mp hRest with
    ⟨fragments, hFragments, hWritten⟩
  rcases map_eq_ok_iff.mp hFragments with
    ⟨binding, hDeclared, hSame⟩
  rw [← Except.ok.inj hWritten, ← hSame] at hWhole
  have hShown := isWhole_documentation_of_page hWhole
  rcases bind_eq_ok_iff.mp hDeclared with
    ⟨declarations, hDone, hTested⟩
  rcases bind_eq_ok_iff.mp hTested with ⟨tests, _, hBinding⟩
  rcases bind_eq_ok_iff.mp hDone with ⟨merged, _, hDone⟩
  rcases bind_eq_ok_iff.mp hDone with ⟨types, _, hDone⟩
  rcases bind_eq_ok_iff.mp hDone with ⟨handlers, _, hDone⟩
  rcases bind_eq_ok_iff.mp hDone with ⟨initializer, _, hDone⟩
  rcases bind_eq_ok_iff.mp hDone with ⟨body, _, hDone⟩
  rw [← Except.ok.inj hBinding, ← Except.ok.inj hDone] at hShown
  exact hShown

end ElementBindings
