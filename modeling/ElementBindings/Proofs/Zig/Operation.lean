import ElementBindings.Proofs.Zig.Neutral
import ElementBindings.Zig.Operation

/-
  Operations are made of neutral parts.

  The operations that elements have in common are fixed texts.
  Each of them closes the brackets that it opens.

  Key theorems include:
    * `Zig.neutral_operation`
    * `Element.neutral_bodyOperations`
    * `Element.neutral_initializerOperations`
-/

namespace ElementBindings

open Text Zig

namespace Zig

------------------------------------------------------------
-- Fixed Operations
------------------------------------------------------------

/- An operation of neutral lines is neutral. -/
theorem neutral_operation
    {documentation : List String}
    {name result : String}
    {params : List Param}
    {body : List String}
    (hName : IsNeutral name)
    (hParams : ∀ param ∈ params, param.HasNeutralParts)
    (hResult : IsNeutral result)
    (hBody : AreEven body) :
    (operation documentation name params result
      body).HasNeutralParts := by
  have hLines :
      (operation documentation name params result
        body).body.flatMap Statement.lines = body := by
    unfold operation
    rw [List.flatMap_map]
    exact List.flatMap_singleton' body
  exact ⟨hName, hParams, hResult, by rwa [hLines]⟩

/- So is one of a single line. -/
theorem neutral_command
    {documentation : List String}
    {name result line : String}
    {params : List Param}
    (hName : IsNeutral name)
    (hParams : ∀ param ∈ params, param.HasNeutralParts)
    (hResult : IsNeutral result)
    (hLine : IsNeutral line) :
    (operation documentation name params result
      [line]).HasNeutralParts :=
  neutral_operation hName hParams hResult
    (Statement.areEven_singleton hLine)

/- The receiver as the only parameter. -/
theorem neutral_receiver :
    ∀ param ∈ [receiver], param.HasNeutralParts := by
  rw [List.forall_mem_singleton]
  exact hasNeutralParts_selfParam .live

/- Constructors end with one choice between two values. -/
theorem areEven_initLines : AreEven initLines := by
  apply turns_cons_neutral (isNeutral_of_chars rfl)
  apply turns_cons ['\x7d'] rfl rfl
  apply turns_cons ['\x7d', '\x7d'] rfl rfl
  apply turns_cons ['\x7d', '\x7d'] rfl rfl
  apply turns_cons ['\x7d'] rfl rfl
  apply turns_cons ['\x7d'] rfl rfl
  apply turns_cons_neutral (isNeutral_of_halves rfl)
  exact turns_cons [] rfl rfl (turns_nil [])

/- Both constructors ask for a handle first. -/
theorem neutral_initOf
    (kind : Option NativeType) :
    (initOf kind).HasNeutralParts := by
  unfold initOf
  split
  · apply neutral_operation (isNeutral_of_chars rfl)
    · simp only [List.forall_mem_cons, List.not_mem_nil,
        false_implies, implies_true, and_true]
      exact
        ⟨⟨isNeutral_of_chars rfl, isNeutral_of_chars rfl⟩,
          ⟨isNeutral_of_chars rfl, isNeutral_of_chars rfl⟩,
          ⟨isNeutral_of_chars rfl, isNeutral_of_chars rfl⟩⟩
    · exact isNeutral_of_chars rfl
    · exact
        turns_cons_neutral (isNeutral_of_chars rfl)
          areEven_initLines
  · apply neutral_operation (isNeutral_of_chars rfl)
    · simp
    · exact isNeutral_of_chars rfl
    · exact
        turns_cons_neutral (isNeutral_of_chars rfl)
          areEven_initLines

/- Appending children handles an error in a block. -/
theorem neutral_setChildren :
    setChildren.HasNeutralParts := by
  constructor
  · exact isNeutral_of_chars rfl
  · simp only [setChildren, List.forall_mem_cons,
      List.not_mem_nil, false_implies, implies_true, and_true]
    exact
      ⟨hasNeutralParts_selfParam .initializer,
        ⟨isNeutral_of_chars rfl, isNeutral_of_chars rfl⟩⟩
  · exact isNeutral_of_chars rfl
  · apply turns_cons_neutral (isNeutral_of_chars rfl)
    apply turns_cons_neutral (isNeutral_of_chars rfl)
    apply turns_cons ['\x7d'] rfl rfl
    apply turns_cons ['\x7d'] rfl rfl
    apply turns_cons [] rfl rfl
    apply turns_cons_neutral (isNeutral_of_chars rfl)
    apply turns_cons_neutral (isNeutral_of_chars rfl)
    exact turns_nil []

/- The receiver and another parameter. -/
theorem neutral_receiver_and
    {name type : String}
    (hName : IsNeutral name)
    (hType : IsNeutral type) :
    ∀ param ∈ [receiver, ⟨name, type⟩],
      param.HasNeutralParts := by
  simp only [List.forall_mem_cons, List.not_mem_nil,
    false_implies, implies_true, and_true]
  exact ⟨hasNeutralParts_selfParam .live, ⟨hName, hType⟩⟩

/- A command to the live element, without anything else. -/
theorem neutral_plainCommand
    {documentation : List String}
    {name result line : String}
    (hName : IsNeutral name)
    (hResult : IsNeutral result)
    (hLine : IsNeutral line) :
    (operation documentation name [receiver] result
      [line]).HasNeutralParts :=
  neutral_command hName neutral_receiver hResult hLine

/- The operations on the visibility of an element. -/
theorem neutral_visibility :
    ∀ function ∈ [showElement, hideElement],
      function.HasNeutralParts := by
  simp only [List.forall_mem_cons, List.not_mem_nil,
    false_implies, implies_true, and_true]
  constructor
  · exact
      neutral_plainCommand (isNeutral_of_chars rfl)
        (isNeutral_of_chars rfl)
        (isNeutral_of_chars rfl)
  · exact
      neutral_plainCommand (isNeutral_of_chars rfl)
        (isNeutral_of_chars rfl)
        (isNeutral_of_chars rfl)

/- The operations on the life of an element. -/
theorem neutral_lifeCycle :
    ∀ function ∈ [deinitElement, mapElement],
      function.HasNeutralParts := by
  simp only [List.forall_mem_cons, List.not_mem_nil,
    false_implies, implies_true, and_true]
  constructor
  · exact
      neutral_plainCommand (isNeutral_of_chars rfl)
        (isNeutral_of_chars rfl)
        (isNeutral_of_chars rfl)
  · exact
      neutral_plainCommand (isNeutral_of_chars rfl)
        (isNeutral_of_chars rfl)
        (isNeutral_of_chars rfl)

/- The operations on children of a live element. -/
theorem neutral_childOperations :
    ∀ function ∈
      [appendChildren, appendChild, iterateChildren],
      function.HasNeutralParts := by
  simp only [List.forall_mem_cons, List.not_mem_nil,
    false_implies, implies_true, and_true]
  refine ⟨?_, ?_, ?_⟩
  · exact
      neutral_command (isNeutral_of_chars rfl)
        (neutral_receiver_and (isNeutral_of_chars rfl)
          (isNeutral_of_chars rfl))
        (isNeutral_of_chars rfl)
        (isNeutral_of_chars rfl)
  · exact
      neutral_command (isNeutral_of_chars rfl)
        (neutral_receiver_and (isNeutral_of_chars rfl)
          (isNeutral_of_chars rfl))
        (isNeutral_of_chars rfl)
        (isNeutral_of_chars rfl)
  · exact
      neutral_plainCommand (isNeutral_of_chars rfl)
        (isNeutral_of_chars rfl)
        (isNeutral_of_chars rfl)

/- A place on the screen. -/
theorem neutral_placeParams :
    ∀ param ∈ placeParams, param.HasNeutralParts := by
  simp only [placeParams, List.forall_mem_cons,
    List.not_mem_nil, false_implies, implies_true, and_true]
  exact
    ⟨hasNeutralParts_selfParam .live,
      ⟨isNeutral_of_chars rfl, isNeutral_of_chars rfl⟩,
      ⟨isNeutral_of_chars rfl, isNeutral_of_chars rfl⟩⟩

/- A message with its title. -/
theorem neutral_messageParams :
    ∀ param ∈ messageParams, param.HasNeutralParts := by
  simp only [messageParams, List.forall_mem_cons,
    List.not_mem_nil, false_implies, implies_true, and_true]
  exact
    ⟨⟨isNeutral_of_chars rfl, isNeutral_of_chars rfl⟩,
      ⟨isNeutral_of_chars rfl, isNeutral_of_chars rfl⟩,
      ⟨isNeutral_of_chars rfl, isNeutral_of_chars rfl⟩⟩

/- Showing an element at a place. -/
theorem neutral_popup : popup.HasNeutralParts :=
  neutral_command (isNeutral_of_chars rfl)
    neutral_placeParams (isNeutral_of_chars rfl)
    (isNeutral_of_chars rfl)

/- And showing it there without waiting. -/
theorem neutral_showXY : showXY.HasNeutralParts :=
  neutral_command (isNeutral_of_chars rfl)
    neutral_placeParams (isNeutral_of_chars rfl)
    (isNeutral_of_chars rfl)

/- The operations that show a message. -/
theorem neutral_messages :
    ∀ function ∈ [alert, confirm],
      function.HasNeutralParts := by
  simp only [List.forall_mem_cons, List.not_mem_nil,
    false_implies, implies_true, and_true]
  constructor
  · exact
      neutral_command (isNeutral_of_chars rfl)
        neutral_messageParams (isNeutral_of_chars rfl)
        (isNeutral_of_halves rfl)
  · exact
      neutral_command (isNeutral_of_chars rfl)
        neutral_messageParams (isNeutral_of_chars rfl)
        (isNeutral_of_halves rfl)

/- Finding the dialog of an element. -/
theorem neutral_getDialog : getDialog.HasNeutralParts :=
  neutral_plainCommand (isNeutral_of_chars rfl)
    (isNeutral_of_chars rfl)
    (isNeutral_of_chars rfl)

/- The operations on the other elements of a dialog. -/
theorem neutral_layout :
    ∀ function ∈ [getDialogChild, refresh],
      function.HasNeutralParts := by
  simp only [List.forall_mem_cons, List.not_mem_nil,
    false_implies, implies_true, and_true]
  constructor
  · exact
      neutral_command (isNeutral_of_chars rfl)
        (neutral_receiver_and (isNeutral_of_chars rfl)
          (isNeutral_of_chars rfl))
        (isNeutral_of_chars rfl)
        (isNeutral_of_chars rfl)
  · exact
      neutral_plainCommand (isNeutral_of_chars rfl)
        (isNeutral_of_chars rfl)
        (isNeutral_of_chars rfl)

/- The operations on positions in a text. -/
theorem neutral_textOperations :
    ∀ function ∈ [convertLinColToPos, convertPosToLinCol],
      function.HasNeutralParts := by
  simp only [List.forall_mem_cons, List.not_mem_nil,
    false_implies, implies_true, and_true]
  constructor
  · apply neutral_command (isNeutral_of_chars rfl)
    · simp only [List.forall_mem_cons, List.not_mem_nil,
        false_implies, implies_true, and_true]
      exact
        ⟨hasNeutralParts_selfParam .live,
          ⟨isNeutral_of_chars rfl, isNeutral_of_chars rfl⟩,
          ⟨isNeutral_of_chars rfl, isNeutral_of_chars rfl⟩⟩
    · exact isNeutral_of_chars rfl
    · exact isNeutral_of_chars rfl
  · exact
      neutral_command (isNeutral_of_chars rfl)
        (neutral_receiver_and (isNeutral_of_chars rfl)
          (isNeutral_of_chars rfl))
        (isNeutral_of_chars rfl)
        (isNeutral_of_chars rfl)

end Zig

------------------------------------------------------------
-- Operations of an Element
------------------------------------------------------------

/- Functions that are only declared on a condition. -/
theorem neutral_when
    {condition : Prop}
    [Decidable condition]
    {functions : List FunctionDecl}
    (hFunctions :
      ∀ function ∈ functions, function.HasNeutralParts) :
    ∀ function ∈ if condition then functions else [],
      function.HasNeutralParts := by
  split
  · exact hFunctions
  · simp

/- The operations on a live element are neutral. -/
theorem Element.neutral_bodyOperations
    (element : Element) :
    ∀ function ∈ element.bodyOperations,
      function.HasNeutralParts := by
  have hInit :
      ∀ function ∈ [initOf element.nativeType],
        function.HasNeutralParts := by
    rw [List.forall_mem_singleton]
    exact neutral_initOf element.nativeType
  have hPopup :
      ∀ function ∈ [popup], function.HasNeutralParts := by
    rw [List.forall_mem_singleton]
    exact neutral_popup
  have hDialog :
      ∀ function ∈
        if element.nativeType = some .dialog then
          showXY ::
            (if element.isOfClass ["messagedlg"] then
              [alert, confirm]
            else [])
        else [getDialog],
        function.HasNeutralParts := by
    split
    · rw [List.forall_mem_cons]
      exact ⟨neutral_showXY, neutral_when neutral_messages⟩
    · rw [List.forall_mem_singleton]
      exact neutral_getDialog
  unfold Element.bodyOperations
  simp only [List.forall_mem_append]
  exact
    ⟨⟨⟨⟨⟨⟨⟨hInit, neutral_when neutral_visibility⟩,
      neutral_lifeCycle⟩,
      neutral_when neutral_childOperations⟩,
      neutral_when hPopup⟩, hDialog⟩,
      neutral_when neutral_textOperations⟩, neutral_layout⟩

/- And so is the one on an element that is set up. -/
theorem Element.neutral_initializerOperations
    (element : Element) :
    ∀ function ∈ element.initializerOperations,
      function.HasNeutralParts := by
  unfold Element.initializerOperations
  split
  · rw [List.forall_mem_singleton]
    exact neutral_setChildren
  · simp

end ElementBindings
