import ElementBindings.Proofs.Zig.Bare
import ElementBindings.Proofs.Zig.Operation
import ElementBindings.Proofs.Zig.Slots

/-
  The code of a page is nested.

  The frame of a page opens the type of the element and the
  initializer in it, and closes both.  All slots are settled:
  a fragment closes what it opens, and documentation is no
  code.  So the brackets of a page are balanced as long as no
  name, key or value of the element holds a bracket.

  Key definitions include:
    * `Zig.Leads`

  Key theorems include:
    * `Zig.leads_page`
    * `Element.render_nested`
-/

namespace ElementBindings

open Text

namespace Zig

------------------------------------------------------------
-- Pieces of a Page
------------------------------------------------------------

variable {before middle after : List Char}

/-
  A text of whole lines leads from the brackets that are
  awaited before it to those awaited after it.
-/
structure Leads
    (before after : List Char)
    (s : String) : Prop where
  closed : IsClosed s
  awaited :
    ∀ outer,
      awaitedAfter (before ++ outer) s = some (after ++ outer)

/- Texts of whole lines lead on in turn. -/
theorem Leads.append
    {s t : String}
    (hFirst : Leads before middle s)
    (hSecond : Leads middle after t) :
    Leads before after (s ++ t) := by
  constructor
  · rcases hSecond.closed with rfl | ⟨front, rfl⟩
    · rw [String.append_empty]
      exact hFirst.closed
    · exact .inr ⟨s ++ front, String.append_assoc.symm⟩
  · intro outer
    rw [awaitedAfter_append hFirst.closed,
      hFirst.awaited outer, Option.bind_some,
      hSecond.awaited outer]

/- A settled text of whole lines leads nowhere. -/
theorem leads_of_settled
    {s : String}
    (hSettled : IsSettled s)
    (hClosed : IsClosed s)
    (before : List Char) :
    Leads before before s :=
  ⟨hClosed, fun outer => hSettled (before ++ outer)⟩

/- A frame consists of its lines, each with a line feed. -/
theorem render_frame
    (first : String)
    (rest : List String) :
    (Piece.frame (first :: rest)).render =
      joinLines (first :: rest) ++ "\n" := by
  rw [Piece.render]
  induction rest generalizing first with
  | nil => rfl
  | cons next others ih =>
      have hJoin :
          joinWith ""
              ((first :: next :: others).map (· ++ "\n")) =
            first ++ "\n"
              ++ joinWith ""
                ((next :: others).map (· ++ "\n")) := by
        simp only [List.map_cons, joinWith, String.append_empty]
      have hLines :
          joinLines (first :: next :: others) =
            first ++ "\n" ++ joinLines (next :: others) := rfl
      rw [hJoin, ih, hLines]
      simp only [String.append_assoc]

/- A frame leads where its lines turn to. -/
theorem leads_frame
    {first : String}
    {rest : List String}
    (hLines : Turns before after (first :: rest))
    (around : List Char) :
    Leads (before ++ around) (after ++ around)
      (Piece.frame (first :: rest)).render := by
  rw [render_frame]
  refine ⟨.inr ⟨_, rfl⟩, ?_⟩
  intro outer
  rw [awaitedAfter_feed, List.append_assoc, List.append_assoc]
  exact awaitedAfter_joinLines (hLines (around ++ outer))

/- A slot for a settled fragment leads nowhere. -/
theorem leads_slot
    {fragment : String}
    (hSettled : IsSettled fragment)
    (width : Nat)
    (before : List Char) :
    Leads before before (Piece.slot width fragment).render := by
  rw [Piece.render]
  split
  · exact leads_of_settled isSettled_empty (.inl rfl) before
  · refine ⟨.inr ⟨_, rfl⟩, ?_⟩
    intro outer
    rw [awaitedAfter_feed]
    exact hSettled.indent width (before ++ outer)

/- Nor does one at the margin. -/
theorem leads_marginSlot
    {fragment : String}
    (hSettled : IsSettled fragment)
    (before : List Char) :
    Leads before before (Piece.marginSlot fragment).render := by
  rw [Piece.render]
  split
  · exact leads_of_settled isSettled_empty (.inl rfl) before
  · refine ⟨.inr ⟨_, rfl⟩, ?_⟩
    intro outer
    rw [awaitedAfter_feed]
    exact hSettled (before ++ outer)

------------------------------------------------------------
-- The Frame
------------------------------------------------------------

/- The lines before the documentation are all neutral. -/
theorem areEven_prologue : AreEven prologue := by
  apply turns_cons_neutral (isNeutral_of_chars rfl)
  apply turns_cons_neutral (isNeutral_of_chars rfl)
  apply turns_cons_neutral (isNeutral_of_halves rfl)
  iterate 7
    apply turns_cons_neutral (isNeutral_of_chars rfl)
  apply turns_cons_neutral (isNeutral_of_halves rfl)
  iterate 9
    apply turns_cons_neutral (isNeutral_of_chars rfl)
  exact turns_nil []

/- The type of an element is opened by one brace. -/
theorem turns_opening
    {name className nativeType : String}
    (hName : IsNeutral name)
    (hClass : IsNeutral className)
    (hNative : IsNeutral nativeType) :
    Turns [] ['\x7d'] (opening name className nativeType) := by
  apply turns_cons_around ['\x7d'] rfl rfl hName
  apply turns_cons_neutral
    (isNeutral_around rfl
      (isNeutral_stringLiteral hClass))
  apply turns_cons_neutral
    (isNeutral_around rfl hNative)
  apply turns_cons_neutral (isNeutral_of_chars rfl)
  exact turns_nil _

/- The initializer is opened by another one. -/
theorem turns_initializerOpening :
    Turns [] ['\x7d'] initializerOpening := by
  apply turns_cons ['\x7d'] rfl rfl
  iterate 5
    apply turns_cons_neutral (isNeutral_of_chars rfl)
  apply turns_cons_neutral (isNeutral_of_halves rfl)
  apply turns_cons ['\x7d', '\x7d'] rfl rfl
  apply turns_cons ['\x7d', '\x7d', '\x7d'] rfl
    rfl
  apply turns_cons_neutral (isNeutral_of_chars rfl)
  apply turns_cons ['\x7d', '\x7d', '\x7d'] rfl
    rfl
  apply turns_cons_neutral (isNeutral_of_chars rfl)
  apply turns_cons ['\x7d', '\x7d'] rfl rfl
  apply turns_cons ['\x7d'] rfl rfl
  iterate 3
    apply turns_cons_neutral (isNeutral_of_chars rfl)
  apply turns_cons_neutral (isNeutral_of_halves rfl)
  apply turns_cons_halves ['\x7d', '\x7d'] rfl
    rfl
  iterate 2
    apply turns_cons_neutral (isNeutral_of_chars rfl)
  apply turns_cons ['\x7d'] rfl rfl
  exact turns_nil _

/- The brace of the initializer is closed behind its slots. -/
theorem turns_initializerClosing :
    Turns ['\x7d'] [] ["    \x7d;"] :=
  turns_cons [] rfl rfl (turns_nil [])

/- And that of the element behind the other ones. -/
theorem turns_closing : Turns ['\x7d'] [] ["\x7d;"] :=
  turns_cons [] rfl rfl (turns_nil [])

------------------------------------------------------------
-- Pages
------------------------------------------------------------

/- All fragments are settled. -/
structure Fragments.AreSettled
    (fragments : Fragments) : Prop where
  enumTypes : IsSettled fragments.enumTypes
  handlerTypes : IsSettled fragments.handlerTypes
  initializer : IsSettled fragments.initializer
  body : IsSettled fragments.body
  bodyOperations : IsSettled fragments.bodyOperations
  initializerOperations :
    IsSettled fragments.initializerOperations
  tests : IsSettled fragments.tests

/- A page of settled fragments leads from nothing to nothing. -/
theorem leads_page
    {name className nativeType : String}
    {fragments : Fragments}
    {documentation : Option String}
    (hName : IsNeutral name)
    (hClass : IsNeutral className)
    (hNative : IsNeutral nativeType)
    (hDocumentation :
      fragments.documentation = docComment documentation)
    (hSettled : fragments.AreSettled) :
    Leads [] [] (page name className nativeType fragments) := by
  have hComment :
      Leads [] []
        (Piece.comment fragments.documentation).render := by
    rw [Piece.render, hDocumentation]
    exact
      leads_of_settled (isSettled_docComment documentation)
        (isClosed_docComment documentation) []
  have hOpening :=
    leads_frame (turns_opening hName hClass hNative) []
  have hInitializer :=
    leads_frame turns_initializerOpening ['\x7d']
  have hClosed := leads_frame turns_initializerClosing ['\x7d']
  have hStart :=
    ((leads_frame areEven_prologue []).append hComment).append
      hOpening
  have hTypes :=
    (hStart.append (leads_slot hSettled.enumTypes 4 _)).append
      (leads_slot hSettled.handlerTypes 4 _)
  have hInner :=
    ((hTypes.append hInitializer).append
      (leads_slot hSettled.initializerOperations 8 _)).append
        (leads_slot hSettled.initializer 8 _)
  have hBody :=
    ((hInner.append hClosed).append
      (leads_slot hSettled.body 4 _)).append
        (leads_slot hSettled.bodyOperations 4 _)
  rw [page_eq_framed]
  exact
    (hBody.append (leads_frame turns_closing [])).append
      (leads_marginSlot hSettled.tests [])

end Zig

open Zig

------------------------------------------------------------
-- Elements
------------------------------------------------------------

/- A binding has the operations of its element. -/
theorem Element.operations_of_binding
    {element : Element}
    {parents : List (Option Attribute)}
    {binding : Binding}
    (hBinding : element.binding parents = .ok binding) :
    binding.bodyOperations = element.bodyOperations ∧
      binding.initializerOperations =
        element.initializerOperations := by
  rcases bind_eq_ok_iff.mp hBinding with
    ⟨declarations, hDone, hRest⟩
  rcases bind_eq_ok_iff.mp hRest with ⟨tests, _, hWhole⟩
  rcases bind_eq_ok_iff.mp hDone with ⟨merged, _, hDone⟩
  rcases bind_eq_ok_iff.mp hDone with ⟨types, _, hDone⟩
  rcases bind_eq_ok_iff.mp hDone with ⟨handlers, _, hDone⟩
  rcases bind_eq_ok_iff.mp hDone with ⟨initializer, _, hDone⟩
  rcases bind_eq_ok_iff.mp hDone with ⟨body, _, hDone⟩
  rw [← Except.ok.inj hWhole, ← Except.ok.inj hDone]
  exact ⟨rfl, rfl⟩

/- The fragments of a bare element are settled. -/
theorem Element.IsBare.areSettled_fragments
    {element : Element}
    {parents : List (Option Attribute)}
    {binding : Binding}
    (hBare : element.IsBare)
    (hParents : ∀ a, some a ∈ parents → a.IsBare)
    (hBinding : element.binding parents = .ok binding) :
    binding.fragments.AreSettled := by
  rcases bind_eq_ok_iff.mp hBinding with
    ⟨declarations, hDone, _⟩
  rcases bind_eq_ok_iff.mp hDone with ⟨merged, hMerge, _⟩
  rcases Element.parts_of_binding hMerge hBinding with
    ⟨hTypes, hHandlers, hInitializer, hBody, hTests⟩
  rcases Element.operations_of_binding hBinding with
    ⟨hBodyOperations, hInitializerOperations⟩
  have hMerged : ∀ a ∈ merged, a.IsBare := fun a hMember =>
    (Attribute.mem_of_merge hMerge hMember).elim
      (hBare.attributes a) (hParents a)
  constructor
  · apply isSettled_joinDeclarations
    intro text hText
    rcases List.mem_map.mp hText with ⟨type, hType, rfl⟩
    have hNeutral :=
      neutral_enumTypes hMerged hTypes type hType
    exact hNeutral.isSettled_render
  · apply isSettled_joinDeclarations
    intro text hText
    rcases List.mem_map.mp hText with ⟨type, hType, rfl⟩
    have hNeutral :=
      neutral_handlerTypes hBare.callbacks hHandlers type hType
    exact hNeutral.isSettled_render
  · exact
      isSettled_renderFunctions
        (neutral_functionBlock .initializer hMerged hBare.callbacks
          hInitializer)
  · exact
      isSettled_renderFunctions
        (neutral_functionBlock .live hMerged hBare.callbacks
          hBody)
  · apply isSettled_renderFunctions
    rw [hBodyOperations]
    exact Element.neutral_bodyOperations element
  · apply isSettled_renderFunctions
    rw [hInitializerOperations]
    exact Element.neutral_initializerOperations element
  · apply isSettled_joinDeclarations
    intro text hText
    rcases List.mem_map.mp hText with ⟨test, hTest, rfl⟩
    have hNeutral := hBare.neutral_roundTrips hTests test hTest
    exact hNeutral.isSettled_render

/-
  The code of an element that can be rendered is nested, if no
  text but the documentation of the element and of what it
  declares or inherits holds a bracket or a line boundary.  All
  lines end with line feeds then, so that there is only one way
  to tell the comment lines.
-/
theorem Element.render_nested
    {element : Element}
    {parents : List (Option Attribute)}
    {page : String}
    (hBare : element.IsBare)
    (hParents : ∀ a, some a ∈ parents → a.IsBare)
    (hRender : element.render parents = .ok page) :
    IsPlain page ∧ Nested (code page) := by
  rcases bind_eq_ok_iff.mp hRender with
    ⟨nativeType, _, hRest⟩
  rcases bind_eq_ok_iff.mp hRest with
    ⟨fragments, hFragments, hPage⟩
  rcases map_eq_ok_iff.mp hFragments with
    ⟨binding, hBinding, hSame⟩
  have hSettled :=
    hBare.areSettled_fragments hParents hBinding
  rw [hSame] at hSettled
  have hLeads :=
    leads_page hBare.name.isNeutral hBare.className.isNeutral
      (isNeutral_nativeType nativeType)
      (congrArg Fragments.documentation hSame.symm) hSettled
  have hWhole := hLeads.awaited []
  rw [← Except.ok.inj hPage]
  exact
    ⟨isPlain_of_awaitedAfter hWhole,
      nested_code_of_awaitedAfter hWhole⟩

/- A remark that opens brackets and closes other ones. -/
def remark : Option String :=
  some "Opens ( and \x7b.\n\x7d closes ]"

/- A handle of a known element. -/
def needle : Attribute :=
  { sizeNumber "NEEDLE" false with
    type := some .handle
    format := some .binary
    handle := some ⟨some "Image", none⟩
    documentation := remark }

/- An element with this remark on all that it declares. -/
def gauge : Element :=
  { plainBox "Gauge"
      [some { choice "KIND" "A" with documentation := remark }]
      [some { pressCallback with documentation := remark }] with
    childrenCount := some (.int 2)
    documentation := remark }

/- The code of its page is nested, which the remark is not. -/
theorem gauge_render_nested :
    ¬ Nested (docComment remark).toList ∧
      ∃ page,
        gauge.render [some needle] = .ok page ∧
          IsPlain page ∧
          Nested (code page) := by
  have hRender :
      ∃ page, gauge.render [some needle] = .ok page :=
    ⟨_, rfl⟩
  rcases hRender with ⟨page, hRender⟩
  have hNested :=
    Element.render_nested (by decide)
      (by
        intro a hMember
        rw [List.mem_singleton, Option.some.injEq] at hMember
        rw [hMember]
        decide) hRender
  exact
    ⟨by decide, page, hRender, hNested.1, hNested.2⟩

end ElementBindings
