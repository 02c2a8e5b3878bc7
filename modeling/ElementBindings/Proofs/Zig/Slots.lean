import ElementBindings.Proofs.Text.Indentation
import ElementBindings.Proofs.Zig.Page
import ElementBindings.Proofs.Zig.RoundTrip

/-
  The page of an element holds its fragments.

  A page consists of a frame, in which only the names and the
  native kind of the element vary, and of one slot for every
  fragment.  A slot holds the lines of its fragment, indented,
  so that the fragment can be read off the slot again.  The
  slot of an empty fragment is empty.  A page ends with one
  line feed, whether it has tests or not.

  Key definitions include:
    * `Zig.Fragments.texts`
    * `Zig.framed`
    * `Zig.Holds`, `Zig.Fragments.Fill`
    * `Text.EndsWithOneFeed`

  Key theorems include:
    * `Zig.page_eq_framed`
    * `Zig.holds_slot`
    * `Element.page_holds_fragments`
-/

namespace ElementBindings

------------------------------------------------------------
-- Ends of Texts
------------------------------------------------------------

namespace Text

/- A text ends with a line feed, and with no second one. -/
def EndsWithOneFeed
    (s : String) : Prop :=
  ∃ front c, s.toList = front ++ [c, '\n'] ∧ c ≠ '\n'

/- More text in front does not change how a text ends. -/
theorem EndsWithOneFeed.append
    {s : String}
    (hEnds : EndsWithOneFeed s)
    (more : String) :
    EndsWithOneFeed (more ++ s) := by
  rcases hEnds with ⟨front, c, hText, hOther⟩
  refine ⟨more.toList ++ front, c, ?_, hOther⟩
  rw [String.toList_append, hText, List.append_assoc]

/- Texts that are joined end with the last one of them. -/
theorem exists_joinWith_append
    (separator : String)
    (texts : List String)
    (last : String) :
    ∃ front,
      joinWith separator (texts ++ [last]) = front ++ last := by
  induction texts with
  | nil => exact ⟨"", by simp [joinWith]⟩
  | cons text rest ih =>
      rcases ih with ⟨front, hFront⟩
      refine ⟨text ++ separator ++ front, ?_⟩
      rw [String.append_assoc, ← hFront]
      cases rest with
      | nil => rfl
      | cons next others => rfl

end Text

namespace Zig

/- A block ends with a brace. -/
theorem exists_block_eq
    (header : String)
    (body : List String) :
    ∃ front, block header body = front ++ "\x7d" :=
  Text.exists_joinWith_append "\n"
    ((header ++ " \x7b") :: body.map indentLine) "\x7d"

/- Tests, if there are some, end with a brace. -/
theorem exists_renderRoundTrips_eq
    {tests : List RoundTrip}
    (hSome : tests ≠ []) :
    ∃ front, renderRoundTrips tests = front ++ "\x7d" := by
  rcases List.eq_nil_or_concat tests with
    hNone | ⟨others, last, rfl⟩
  · exact absurd hNone hSome
  · rcases Text.exists_joinWith_append "\n\n"
        (others.map RoundTrip.render) last.render with
      ⟨before, hBefore⟩
    have hBlock :
        ∃ inner, last.render = inner ++ "\x7d" :=
      exists_block_eq _ _
    rcases hBlock with ⟨inner, hInner⟩
    refine ⟨before ++ inner, ?_⟩
    unfold renderRoundTrips joinDeclarations
    rw [List.concat_eq_append, List.map_append,
      List.map_singleton, hBefore, hInner, String.append_assoc]

------------------------------------------------------------
-- Slots
------------------------------------------------------------

/- All fragments, in the order in which a page has them. -/
def Fragments.texts
    (fragments : Fragments) : List String :=
  [ fragments.documentation,
    fragments.enumTypes,
    fragments.handlerTypes,
    fragments.initializerOperations,
    fragments.initializer,
    fragments.body,
    fragments.bodyOperations,
    fragments.tests ]

/- A page with certain texts in its slots. -/
def framed
    (name className nativeType : String)
    (slots : Fragments) : String :=
  (Piece.frame prologue).render
    ++ slots.documentation
    ++ (Piece.frame (opening name className nativeType)).render
    ++ slots.enumTypes
    ++ slots.handlerTypes
    ++ (Piece.frame initializerOpening).render
    ++ slots.initializerOperations
    ++ slots.initializer
    ++ (Piece.frame ["    \x7d;"]).render
    ++ slots.body
    ++ slots.bodyOperations
    ++ (Piece.frame ["\x7d;"]).render
    ++ slots.tests

/-
  A slot holds a fragment: nothing if it is empty, and else
  the fragment, indented, with something that closes it.
-/
def Holds
    (width : Nat)
    (closing fragment slot : String) : Prop :=
  if fragment = "" then
    slot = ""
  else
    ∃ text,
      slot = text ++ closing ∧
        Text.IsIndented width fragment text

/- Slots hold fragments, each one its own. -/
structure Fragments.Fill
    (fragments slots : Fragments) : Prop where
  documentation :
    Holds 0 "" fragments.documentation slots.documentation
  enumTypes : Holds 4 "\n" fragments.enumTypes slots.enumTypes
  handlerTypes :
    Holds 4 "\n" fragments.handlerTypes slots.handlerTypes
  initializerOperations :
    Holds 8 "\n" fragments.initializerOperations
      slots.initializerOperations
  initializer :
    Holds 8 "\n" fragments.initializer slots.initializer
  body : Holds 4 "\n" fragments.body slots.body
  bodyOperations :
    Holds 4 "\n" fragments.bodyOperations slots.bodyOperations
  tests : Holds 0 "\n" fragments.tests slots.tests

/- A slot holds a fragment whose lines end with line feeds. -/
theorem holds_slot
    {fragment : String}
    (hPlain : Text.IsPlain fragment)
    (width : Nat) :
    Holds width "\n" fragment
      (Piece.slot width fragment).render := by
  unfold Holds
  by_cases hEmpty : fragment = ""
  · rw [if_pos hEmpty, Piece.render, if_pos hEmpty]
  · rw [if_neg hEmpty, Piece.render, if_neg hEmpty]
    exact ⟨_, rfl, Text.isIndented_indent hPlain width⟩

/- A slot at the margin holds any fragment. -/
theorem holds_marginSlot
    (fragment : String) :
    Holds 0 "\n" fragment
      (Piece.marginSlot fragment).render := by
  unfold Holds
  by_cases hEmpty : fragment = ""
  · rw [if_pos hEmpty, Piece.render, if_pos hEmpty]
  · rw [if_neg hEmpty, Piece.render, if_neg hEmpty]
    exact ⟨fragment, rfl, Text.isIndented_zero_iff.mpr rfl⟩

/- A comment stands for itself. -/
theorem holds_comment
    (text : String) :
    Holds 0 "" text (Piece.comment text).render := by
  unfold Holds Piece.render
  split
  · next hEmpty => exact hEmpty
  · exact
      ⟨text, (String.append_empty).symm,
        Text.isIndented_zero_iff.mpr rfl⟩

/- The slots of a page, with their fragments. -/
def Fragments.slots
    (fragments : Fragments) : Fragments :=
  { documentation :=
      (Piece.comment fragments.documentation).render
    enumTypes := (Piece.slot 4 fragments.enumTypes).render
    handlerTypes :=
      (Piece.slot 4 fragments.handlerTypes).render
    initializer := (Piece.slot 8 fragments.initializer).render
    body := (Piece.slot 4 fragments.body).render
    bodyOperations :=
      (Piece.slot 4 fragments.bodyOperations).render
    initializerOperations :=
      (Piece.slot 8 fragments.initializerOperations).render
    tests := (Piece.marginSlot fragments.tests).render }

/- A page is the frame around these slots. -/
theorem page_eq_framed
    (name className nativeType : String)
    (fragments : Fragments) :
    page name className nativeType fragments =
      framed name className nativeType fragments.slots := by
  unfold page pieces framed Fragments.slots
  simp only [List.map_cons, List.map_nil, Text.joinWith,
    String.append_assoc, String.empty_append]

/- The slots hold fragments whose lines end with line feeds. -/
theorem Fragments.fill_slots
    {fragments : Fragments}
    (hPlain : ∀ text ∈ fragments.texts, Text.IsPlain text) :
    fragments.Fill fragments.slots := by
  unfold Fragments.texts at hPlain
  constructor
  · exact holds_comment _
  · exact holds_slot (hPlain _ (by simp)) 4
  · exact holds_slot (hPlain _ (by simp)) 4
  · exact holds_slot (hPlain _ (by simp)) 8
  · exact holds_slot (hPlain _ (by simp)) 8
  · exact holds_slot (hPlain _ (by simp)) 4
  · exact holds_slot (hPlain _ (by simp)) 4
  · exact holds_marginSlot _

/- The slot of tests that end with a brace is closed once. -/
theorem endsWithOneFeed_slot
    {fragments : Fragments}
    (hTests :
      fragments.tests = "" ∨
        ∃ front, fragments.tests = front ++ "\x7d") :
    fragments.slots.tests = "" ∨
      Text.EndsWithOneFeed fragments.slots.tests := by
  unfold Fragments.slots
  by_cases hEmpty : fragments.tests = ""
  · left
    simp only [Piece.render, hEmpty, if_true]
  · right
    rcases hTests with hNone | ⟨front, hBrace⟩
    · exact absurd hNone hEmpty
    · refine ⟨front.toList, '\x7d', ?_, by decide⟩
      simp only [Piece.render, hEmpty, if_false]
      rw [hBrace]
      simp

/- A page ends with one line feed if its tests do so. -/
theorem endsWithOneFeed_framed
    {name className nativeType : String}
    {slots : Fragments}
    (hTests :
      slots.tests = "" ∨ Text.EndsWithOneFeed slots.tests) :
    Text.EndsWithOneFeed
      (framed name className nativeType slots) := by
  unfold framed
  rcases hTests with hNone | hEnds
  · have hFrame :
        Text.EndsWithOneFeed
          (Piece.frame ["\x7d;"]).render :=
      ⟨['\x7d'], ';', by decide, by decide⟩
    rw [hNone, String.append_empty]
    exact hFrame.append _
  · exact hEnds.append _

end Zig

open Zig

------------------------------------------------------------
-- Pages of Elements
------------------------------------------------------------

/- The tests of an element are empty, or end with a brace. -/
theorem Element.tests_of_fragments
    {element : Element}
    {parents : List (Option Attribute)}
    {fragments : Fragments}
    (hFragments : element.fragments parents = .ok fragments) :
    fragments.tests = "" ∨
      ∃ front, fragments.tests = front ++ "\x7d" := by
  rcases map_eq_ok_iff.mp hFragments with ⟨binding, _, hText⟩
  rw [← hText]
  by_cases hNone : binding.tests = []
  · left
    unfold Binding.fragments
    rw [hNone]
    rfl
  · right
    exact exists_renderRoundTrips_eq hNone

/-
  An element that has fragments and a native kind has a page.
  If the fragments have no line boundaries but line feeds, the
  page is the frame around slots that hold them, and ends with
  one line feed.
-/
theorem Element.page_holds_fragments
    (element : Element)
    {parents : List (Option Attribute)}
    {fragments : Fragments}
    {nativeType : NativeType}
    (hFragments : element.fragments parents = .ok fragments)
    (hPlain : ∀ text ∈ fragments.texts, Text.IsPlain text)
    (hNative : element.nativeType = some nativeType) :
    ∃ page slots,
      element.render parents = .ok page ∧
      page =
        framed (shownName element.name)
          (shownName element.className) nativeType.text
          slots ∧
      fragments.Fill slots ∧
      Text.EndsWithOneFeed page := by
  have hTests :=
    endsWithOneFeed_slot (Element.tests_of_fragments hFragments)
  refine
    ⟨_, fragments.slots, ?_, rfl, Fragments.fill_slots hPlain,
      endsWithOneFeed_framed hTests⟩
  unfold Element.render
  rw [hNative, hFragments, ← page_eq_framed]
  rfl

------------------------------------------------------------
-- Plain Texts
------------------------------------------------------------

namespace Zig

/- A comment is plain, whatever it documents. -/
theorem isPlain_docComment
    (text : Option String) :
    Text.IsPlain (docComment text) := by
  cases text with
  | none => exact Text.isPlain_of_all rfl
  | some text =>
      apply Text.isPlain_ofList
      intro c hChar hBoundary
      rcases List.mem_flatMap.mp hChar with
        ⟨line, hLine, hEnded⟩
      rcases List.mem_append.mp hEnded with hInside | hFeed
      · exact
          absurd hInside
            (isLineBoundary_not_mem_docLines hLine hBoundary)
      · exact List.mem_singleton.mp hFeed

/- A line is as plain as it is indented. -/
theorem isPlain_indentLine
    {line : String} :
    Text.IsPlain (indentLine line) ↔ Text.IsPlain line := by
  have hBlanks : Text.IsPlain "    " :=
    Text.isPlain_of_all (by decide)
  unfold indentLine
  split
  · next hEmpty => rw [hEmpty]
  · rw [Text.isPlain_append]
    simp [hBlanks]

/-
  The operations of a plain box are written in plain lines.
  Their literals are looked at one by one.
-/
theorem isPlain_operations
    (name : String)
    (attributes : List (Option Attribute))
    (callbacks : List (Option Callback)) :
    Text.IsPlain
      (renderFunctions
        (plainBox name attributes callbacks).bodyOperations)
    := by
  have hOperations :
      (plainBox name attributes callbacks).bodyOperations =
        [ initElement, deinitElement, mapElement, getDialog,
          getDialogChild, refresh ] := rfl
  have hFeed : Text.IsPlain "\n" :=
    Text.isPlain_of_all (by decide)
  have hGap : Text.IsPlain "\n\n" :=
    Text.isPlain_of_all (by decide)
  have hOpen : Text.IsPlain " \x7b" :=
    Text.isPlain_of_all (by decide)
  have hClose : Text.IsPlain "\x7d" :=
    Text.isPlain_of_all (by decide)
  have hPublic : Text.IsPlain "pub fn " :=
    Text.isPlain_of_all (by decide)
  have hLeft : Text.IsPlain "(" :=
    Text.isPlain_of_all (by decide)
  have hRight : Text.IsPlain ") " :=
    Text.isPlain_of_all (by decide)
  rw [hOperations]
  simp only [renderFunctions, joinDeclarations, List.map_cons,
    List.map_nil, Text.joinWith, Text.joinLines,
    FunctionDecl.render, FunctionDecl.header, block,
    initElement, deinitElement, mapElement, getDialog,
    getDialogChild, refresh, operation, initLines,
    List.flatMap_cons, List.flatMap_nil, Statement.lines,
    List.cons_append, List.nil_append, Param.render, receiver,
    selfParam, Text.isPlain_append, isPlain_docComment,
    isPlain_indentLine, hFeed, hGap, hOpen, hClose, hPublic,
    hLeft, hRight, true_and, and_true]
  and_intros
  all_goals exact Text.isPlain_of_all (by decide)

end Zig

------------------------------------------------------------
-- Pages With and Without a Kind
------------------------------------------------------------

/- A choice that can neither be made nor be read. -/
def fixedChoice : Attribute :=
  { choice "KIND" "A" with
    readOnly := some true
    creationOnly := some true }

/- A documented element with this choice. -/
def card : Element :=
  { plainBox "Card" [some fixedChoice] [] with
    documentation := some "A card.\n\nIt has one kind." }

/- The page of this element holds the type of the choice. -/
theorem card_page_holds_fragments :
    ∃ page slots,
      card.render [] = .ok page ∧
      page = framed "Card" "box" "Void" slots ∧
      slots.documentation =
        "///\n/// A card.\n///\n/// It has one kind.\n" ∧
      (∃ text,
        slots.enumTypes = text ++ "\n" ∧
        Text.IsIndented 4
          "pub const KIND = enum \x7b\n    A,\n\x7d;" text) ∧
      slots.tests = "" ∧
      Text.EndsWithOneFeed page := by
  have hFragments :
      ∃ fragments,
        card.fragments [] = .ok fragments ∧
          fragments.texts =
            [ "///\n/// A card.\n///\n/// It has one kind.\n",
              "pub const KIND = enum \x7b\n    A,\n\x7d;",
              "", "", "", "",
              renderFunctions
                (plainBox "Card" [some fixedChoice]
                  []).bodyOperations, "" ] := ⟨_, rfl, rfl⟩
  rcases hFragments with ⟨fragments, hFragments, hTexts⟩
  have hEmpty : Text.IsPlain "" := Text.isPlain_of_all rfl
  have hPlain : ∀ text ∈ fragments.texts, Text.IsPlain text := by
    rw [hTexts]
    simp only [List.forall_mem_cons, List.not_mem_nil,
      false_implies, implies_true, and_true, hEmpty,
      isPlain_operations]
    exact
      ⟨Text.isPlain_of_all (by decide),
        Text.isPlain_of_all (by decide)⟩
  rcases Element.page_holds_fragments card hFragments hPlain
      rfl with
    ⟨page, slots, hRender, hPage, hFill, hEnds⟩
  simp only [Fragments.texts, List.cons.injEq] at hTexts
  rcases hTexts with
    ⟨hComment, hTypes, _, _, _, _, _, hTests, _⟩
  have hFirst := hFill.documentation
  have hSecond := hFill.enumTypes
  have hLast := hFill.tests
  unfold Holds at hFirst hSecond hLast
  rw [hComment, if_neg (by decide)] at hFirst
  rw [hTypes, if_neg (by decide)] at hSecond
  rw [hTests, if_pos rfl] at hLast
  rcases hFirst with ⟨text, hSlot, hSame⟩
  rw [String.append_empty,
    Text.isIndented_zero_iff.mp hSame] at hSlot
  exact
    ⟨page, slots, hRender, hPage, hSlot, hSecond, hLast, hEnds⟩

/- An element whose native kind is null. -/
def kindless : Element :=
  { plainBox "Kindless" [] [] with nativeType := none }

/- Such an element has fragments, but no page. -/
theorem kindless_has_no_page :
    ∃ fragments,
      kindless.fragments [] = .ok fragments ∧
      (∀ text ∈ fragments.texts, Text.IsPlain text) ∧
      kindless.render [] =
        .error (.null (.readField "value")) := by
  have hFragments :
      ∃ fragments,
        kindless.fragments [] = .ok fragments ∧
          fragments.texts =
            [ "", "", "", "", "", "",
              renderFunctions
                (plainBox "Kindless" [] []).bodyOperations,
              "" ] := ⟨_, rfl, rfl⟩
  rcases hFragments with ⟨fragments, hFragments, hTexts⟩
  have hEmpty : Text.IsPlain "" := Text.isPlain_of_all rfl
  refine ⟨fragments, hFragments, ?_, rfl⟩
  rw [hTexts]
  simp [hEmpty, isPlain_operations]

end ElementBindings
