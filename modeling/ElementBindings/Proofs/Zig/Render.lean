import Mathlib.Data.List.Find
import ElementBindings.Zig.Page
import ElementBindings.Proofs.Catalog.Merging
import ElementBindings.Proofs.Zig.Accessor
import ElementBindings.Proofs.Zig.Handler

/-
  When an element of an accepted catalog has no binding.

  The parts of a binding are put together in a fixed order:
  types of enumerations and of handlers, the initializer, the
  body, the tests.  The first part with a fault decides which
  one is reported.  It is always a dispatch fault: callbacks
  with an unknown type come first, then attributes that miss
  their rule in the initializer, then those that miss it in
  the body only.  Tests find nothing that was not found
  before.

  Key definitions include:
    * `renderFault?`

  Key theorems include:
    * `Element.fault?_declarations`
    * `Element.fault?_roundTrips`
    * `Element.fault?_render`
    * `Catalog.render_error_iff`
-/

namespace ElementBindings

open Zig

------------------------------------------------------------
-- Tests
------------------------------------------------------------

namespace Attribute

variable {a : Attribute}
variable {rule : Rule}

/- An attribute that lists values has a first member. -/
theorem fault?_firstMember
    (hListed : none ∉ a.enumValues.getD [])
    (hValues : a.enumValues.getD [] ≠ []) :
    fault? a.firstMember = none := by
  unfold firstMember
  cases hItems : a.enumValues with
  | none => simp [hItems] at hValues
  | some items =>
      cases items with
      | nil => simp [hItems] at hValues
      | cons item rest =>
          cases item with
          | none => simp [hItems] at hListed
          | some value => rfl

/- Under a rule an attribute has a sample, or none. -/
theorem fault?_sample?
    (hComplete : a.Complete)
    (hConsistent : a.Consistent)
    (hRule : a.rule = .ok rule) :
    fault? a.sample? = none := by
  rcases (rule_eq_ok_iff hComplete).mp hRule with
    ⟨format, type, hFormat, _, hFind⟩
  have hMember :
      rule = .enumInt ∨ rule = .enumString →
        fault? a.firstMember = none := by
    intro hKind
    have hEnum := Rule.format_of_find? hFind hKind
    apply fault?_firstMember hComplete.none_not_mem
    apply hConsistent.listed.mp
    rw [hFormat, hEnum]
  unfold sample?
  rw [hRule, ok_bind]
  split
  · exact
      fault?_bind_eq_none (hMember (.inl rfl))
        fun _ _ => rfl
  · exact
      fault?_bind_eq_none (hMember (.inr rfl))
        fun _ _ => rfl
  · rfl

end Attribute

namespace Element

variable {element : Element}
variable {a : Attribute}

/- A test has the fault of telling whether there is one. -/
theorem fault?_writtenTest?
    (hComplete : a.Complete)
    (hConsistent : a.Consistent) :
    fault? (element.writtenTest? a) = fault? a.hasTest := by
  unfold writtenTest?
  apply fault?_bind_eq_first
  intro written hTest
  cases written with
  | false => rfl
  | true =>
      rcases Attribute.exists_rule_of_hasTest hTest with
        ⟨rule, hRule⟩
      rw [if_pos rfl]
      unfold roundTrip?
      apply fault?_bind_eq_none
      · exact
          Attribute.fault?_sample? hComplete hConsistent hRule
      · intro sample _
        cases sample with
        | none => rfl
        | some sample =>
            exact
              fault?_bind_eq_none
                (Attribute.fault?_numbering hComplete)
                fun _ _ => rfl

/-
  Tests miss no rule where no own attribute misses one that
  can be written.
-/
theorem fault?_roundTrips
    (hComplete : element.Complete)
    (hConsistent :
      ∀ a ∈ element.attributeList, a.Consistent)
    (hNone :
      ∀ a ∈ firstOccurrences (·.name)
          element.attributeList,
        ¬ (a.Offends ∧ ¬ isSet a.readOnly)) :
    fault? element.roundTrips = none := by
  unfold roundTrips
  split
  · rw [Element.merge_own_nil hComplete.attributes, ok_bind]
    apply fault?_bind_eq_none
    · apply fault?_mapM_eq_none
      intro a hKept
      have hListed : a ∈ element.attributeList :=
        mem_of_mem_firstOccurrences hKept
      have hWhole := hComplete.everyAttribute a hListed
      have hFree := hNone a hKept
      rw [fault?_writtenTest? hWhole
        (hConsistent a hListed), Attribute.fault?_hasTest,
        Attribute.fault?_rule hWhole]
      by_cases hUnruled : a.Unruled
      · by_cases hFlags :
            isSet a.creationOnly ∨ isSet a.readOnly
              ∨ isSet a.writeOnly ∨ isSet a.deprecated
        · rw [if_pos hFlags]
        · simp only [not_or] at hFlags
          rcases hFlags with ⟨_, hRead, _, hOld⟩
          exfalso
          apply hFree
          refine ⟨⟨hOld, hUnruled, ?_⟩, hRead⟩
          intro hBoth
          exact hRead hBoth.1
      · simp [hUnruled]
    · intro tests _
      rfl
  · rfl

end Element

------------------------------------------------------------
-- Declarations
------------------------------------------------------------

namespace Zig

variable {attributes : List Attribute}

/- Types of enumerations have no fault. -/
theorem fault?_enumTypes
    (hComplete : ∀ a ∈ attributes, a.Complete) :
    fault? (enumTypes attributes) = none := by
  unfold enumTypes
  apply fault?_bind_eq_none
  · apply fault?_mapM_eq_none
    intro a hMember
    exact Attribute.fault?_enumType? (hComplete a hMember)
  · intro types _
    rfl

/- The initializer misses the rules of what can be written. -/
theorem fault?_initializerBlock
    (callbacks : List Callback)
    (hComplete : ∀ a ∈ attributes, a.Complete) :
    fault? (initializerBlock attributes
        (some (callbacks.map some))) =
      (attributes.find? fun a =>
        a.Offends ∧ ¬ isSet a.readOnly).map fun a =>
          .dispatch a.ruleFault := by
  have hAccessors :
      fault? (initializerBlock attributes
          (some (callbacks.map some))) =
        fault? (attributes.mapM
          Attribute.initializerFunctions) := by
    unfold initializerBlock
    apply fault?_bind_eq_first
    intro accessors _
    exact
      fault?_bind_eq_none (fault?_callbackSetters _ callbacks)
        fun _ _ => rfl
  rw [hAccessors]
  apply fault?_mapM_eq_find?
  intro a hMember
  exact
    Attribute.fault?_initializerFunctions
      (hComplete a hMember)

/- The body misses the rules of what may be set at any time. -/
theorem fault?_bodyBlock
    (callbacks : List Callback)
    (hComplete : ∀ a ∈ attributes, a.Complete)
    (hConsistent : ∀ a ∈ attributes, a.Consistent) :
    fault? (bodyBlock attributes
        (some (callbacks.map some))) =
      (attributes.find? fun a =>
        a.Offends ∧ ¬ isSet a.creationOnly).map fun a =>
          .dispatch a.ruleFault := by
  have hAccessors :
      fault? (bodyBlock attributes
          (some (callbacks.map some))) =
        fault? (attributes.mapM
          Attribute.bodyFunctions) := by
    unfold bodyBlock
    apply fault?_bind_eq_first
    intro accessors _
    exact
      fault?_bind_eq_none (fault?_callbackSetters _ callbacks)
        fun _ _ => rfl
  rw [hAccessors]
  apply fault?_mapM_eq_find?
  intro a hMember
  exact
    Attribute.fault?_bodyFunctions (hComplete a hMember)
      (hConsistent a hMember)

end Zig

/- Declarations have the fault of their first part with one. -/
theorem Element.fault?_declarations
    {element : Element}
    {parents : List (Option Attribute)}
    {merged : List Attribute}
    (hElement : element.Complete)
    (hMerge :
      Attribute.merge element.attributes parents
        = .ok merged)
    (hComplete : ∀ a ∈ merged, a.Complete)
    (hConsistent : ∀ a ∈ merged, a.Consistent) :
    fault? (element.declarations parents) =
      ((element.callbackList.find? fun c =>
        c.Unmapped).map fun c =>
          Fault.dispatch c.typeFault).or
        (((merged.find? fun a =>
          a.Offends ∧ ¬ isSet a.readOnly).map fun a =>
            Fault.dispatch a.ruleFault).or
          ((merged.find? fun a =>
            a.Offends ∧ ¬ isSet a.creationOnly).map fun a =>
              Fault.dispatch a.ruleFault)) := by
  have hCallbacks :
      element.callbacks =
        some (element.callbackList.map some) :=
    hElement.callbacks
  have hParts :
      fault? (element.declarations parents) =
        (fault? (enumTypes merged)).or
          ((fault? (handlerTypes element.callbacks)).or
            ((fault? (initializerBlock merged
              element.callbacks)).or
              (fault? (bodyBlock merged
                element.callbacks)))) := by
    unfold Element.declarations
    rw [hMerge, ok_bind]
    exact
      fault?_bind fun _ _ => fault?_bind fun _ _ =>
        fault?_bind fun _ _ =>
          fault?_bind_eq_first fun _ _ => rfl
  rw [hParts, fault?_enumTypes hComplete, hCallbacks,
    fault?_handlerTypes hElement.everyCallback,
    fault?_initializerBlock _ hComplete,
    fault?_bodyBlock _ hComplete hConsistent,
    Option.none_or]

------------------------------------------------------------
-- Pages
------------------------------------------------------------

/-
  The fault of an element: the one of its first callback with
  an unknown type; else the one of its first offending
  attribute that is not read-only; else the one of its first
  offending attribute.
-/
def renderFault?
    (callbacks : List Callback)
    (merged : List Attribute) : Option DispatchFault :=
  match callbacks.find? fun c => c.Unmapped with
  | some c => some c.typeFault
  | none =>
      match merged.find? fun a =>
          a.Offends ∧ ¬ isSet a.readOnly with
      | some a => some a.ruleFault
      | none =>
          (merged.find? fun a => a.Offends).map
            Attribute.ruleFault

/- There is a fault when a callback or an attribute has one. -/
theorem renderFault?_isSome_iff
    (callbacks : List Callback)
    (merged : List Attribute) :
    (renderFault? callbacks merged).isSome ↔
      (∃ c ∈ callbacks, c.Unmapped) ∨
        ∃ a ∈ merged, a.Offends := by
  unfold renderFault?
  split
  · next c hFound =>
      have hUnmapped := List.find?_some hFound
      have hMember := List.mem_of_find?_eq_some hFound
      simp only [Option.isSome_some, true_iff]
      exact .inl ⟨c, hMember, by simpa using hUnmapped⟩
  · next hMapped =>
      have hMapped :
          ¬ ∃ c ∈ callbacks, c.Unmapped := by
        simpa using hMapped
      split
      · next a hFound =>
          have hOffends := List.find?_some hFound
          have hMember := List.mem_of_find?_eq_some hFound
          simp only [decide_eq_true_eq] at hOffends
          simp only [Option.isSome_some, true_iff]
          exact .inr ⟨a, hMember, hOffends.1⟩
      · simp [hMapped]

/-
  Where no offending attribute can be written, those that may
  be set at any time are all that offend.
-/
theorem find?_offends_of_readOnly
    {merged : List Attribute}
    (hRead :
      ∀ a ∈ merged, ¬ (a.Offends ∧ ¬ isSet a.readOnly)) :
    (merged.find? fun a =>
        a.Offends ∧ ¬ isSet a.creationOnly) =
      merged.find? fun a => a.Offends := by
  apply List.find?_congr
  intro a hMember
  have hOnly := hRead a hMember
  by_cases hOffends : a.Offends
  · have hReadOnly : isSet a.readOnly := by
      by_cases hFlag : isSet a.readOnly
      · exact hFlag
      · exact absurd ⟨hOffends, hFlag⟩ hOnly
    have hLate : ¬ isSet a.creationOnly := by
      intro hCreation
      exact hOffends.2.2 ⟨hReadOnly, hCreation⟩
    simp [hOffends, hLate]
  · simp [hOffends]

/- A binding has the fault of declarations, then of tests. -/
theorem Element.fault?_binding
    (element : Element)
    (parents : List (Option Attribute)) :
    fault? (element.binding parents) =
      (fault? (element.declarations parents)).or
        (fault? element.roundTrips) := by
  unfold Element.binding
  apply fault?_bind
  intro declarations _
  exact fault?_bind_eq_first fun _ _ => rfl

/- The text of an element has the fault of its binding. -/
theorem Element.fault?_render_eq_binding
    {element : Element}
    (hNative : element.nativeType.isSome)
    (parents : List (Option Attribute)) :
    fault? (element.render parents) =
      fault? (element.binding parents) := by
  rcases Option.isSome_iff_exists.mp hNative with
    ⟨nativeType, hNative⟩
  have hPage :
      fault? (element.render parents) =
        fault? (element.fragments parents) := by
    unfold Element.render
    rw [hNative, needed_some, ok_bind]
    exact fault?_bind_eq_first fun _ _ => rfl
  rw [hPage]
  exact fault?_map _ _

/-
  The text of an element has the fault of its first callback
  or attribute with one, and no other.
-/
theorem Element.fault?_render
    {element : Element}
    {parents : List Attribute}
    {merged : List Attribute}
    (hElement : element.Complete)
    (hAttributes :
      ∀ a ∈ element.attributeList ++ parents,
        a.Complete ∧ a.Consistent)
    (hMerged :
      merged = firstOccurrences (·.name)
        (element.attributeList ++ parents)) :
    fault? (element.render (parents.map some)) =
      (renderFault? element.callbackList merged).map
        .dispatch := by
  have hKept :
      ∀ a ∈ merged, a.Complete ∧ a.Consistent := by
    intro a hMember
    rw [hMerged] at hMember
    exact hAttributes a (mem_of_mem_firstOccurrences hMember)
  have hMerge :
      Attribute.merge element.attributes (parents.map some)
        = .ok merged := by
    rw [hMerged]
    exact Element.merge_own_eq hElement parents
  rw [Element.fault?_render_eq_binding hElement.nativeType,
    Element.fault?_binding,
    Element.fault?_declarations hElement hMerge
      (fun a hMember => (hKept a hMember).1)
      fun a hMember => (hKept a hMember).2]
  unfold renderFault?
  cases hCallback :
      element.callbackList.find? fun c => c.Unmapped with
  | some c => simp
  | none =>
      cases hWritten :
          merged.find? fun a =>
            a.Offends ∧ ¬ isSet a.readOnly with
      | some a => simp
      | none =>
          have hRead :
              ∀ a ∈ merged,
                ¬ (a.Offends ∧ ¬ isSet a.readOnly) := by
            simpa using List.find?_eq_none.mp hWritten
          -- Own attributes that are kept are merged ones.
          have hTests : fault? element.roundTrips = none := by
            apply Element.fault?_roundTrips hElement
            · intro a hListed
              exact
                (hAttributes a
                  (List.mem_append_left _ hListed)).2
            · intro a hOwn
              apply hRead
              rw [hMerged]
              exact mem_firstOccurrences_append hOwn
          rw [hTests, find?_offends_of_readOnly hRead]
          simp [Option.map_map, Function.comp_def]

/-
  An element of an accepted catalog has no text exactly when
  a callback has an unknown type or a merged attribute
  offends.  The fault is then a dispatch fault, the one of
  the first callback or attribute that is at fault.
-/
theorem Catalog.render_error_iff
    (catalog : Catalog)
    (element : Element)
    (hComplete : catalog.Complete)
    (hAccepted : catalog.validate = .ok ())
    (hElement : element ∈ catalog.elementList) :
    ∃ parents merged,
      catalog.parentAttributes element = .ok parents ∧
      Attribute.merge element.attributes parents
        = .ok merged ∧
      ((∃ fault, element.render parents = .error fault) ↔
        (∃ c ∈ element.callbackList, c.Unmapped) ∨
          ∃ a ∈ merged, a.Offends) ∧
      (∀ fault, element.render parents = .error fault →
        ∃ reason,
          fault = .dispatch reason ∧
            renderFault? element.callbackList merged
              = some reason) ∧
      (¬ (∃ c ∈ element.callbackList, c.Unmapped) →
        ¬ (∃ a ∈ merged, a.Offends) →
          ∃ text, element.render parents = .ok text) := by
  have hFormed : catalog.WellFormed :=
    (Catalog.validate_decides hComplete).ok_iff.mp hAccepted
  rcases Catalog.exists_merged hComplete hFormed hElement
    with ⟨parents, hParents, hMerge, hAttributes⟩
  have hFault :=
    Element.fault?_render
      (hComplete.everyElement element hElement)
      hAttributes rfl
  have hCause :=
    renderFault?_isSome_iff element.callbackList
      (firstOccurrences (·.name)
        (element.attributeList ++ parents))
  refine ⟨_, _, hParents, hMerge, ?_⟩
  cases hReason :
      renderFault? element.callbackList
        (firstOccurrences (·.name)
          (element.attributeList ++ parents)) with
  | none =>
      rw [hReason] at hFault hCause
      rcases fault?_eq_none_iff.mp hFault with ⟨text, hText⟩
      have hNone := not_congr hCause
      simp only [Option.isSome_none, Bool.false_eq_true,
        not_false_eq_true, true_iff] at hNone
      refine ⟨?_, ?_, ?_⟩
      · simpa [hText] using hNone
      · simp [hText]
      · intro _ _
        exact ⟨text, hText⟩
  | some reason =>
      rw [hReason] at hFault hCause
      have hError := fault?_eq_some_iff.mp hFault
      have hCause := hCause.mp rfl
      refine ⟨?_, ?_, ?_⟩
      · simpa [hError] using hCause
      · simp [hError]
      · intro hMapped hRuled
        rcases hCause with hCallback | hAttribute
        · exact absurd hCallback hMapped
        · exact absurd hAttribute hRuled

/- An attribute of a format and a type without rule. -/
def sizeNumber
    (name : String)
    (readOnly : Bool) : Attribute :=
  { name := some name
    key := some name
    type := some .int
    format := some .size
    numbering := some .no
    readOnly := some readOnly
    writeOnly := some false
    creationOnly := some false
    deprecated := some false
    enumValues := none
    handle := none
    documentation := none }

/- An element that can be created as it is. -/
def plainBox
    (name : String)
    (attributes : List (Option Attribute))
    (callbacks : List (Option Callback)) : Element :=
  { name := some name
    className := some "box"
    nativeType := some .void
    attributes := some attributes
    callbacks := some callbacks
    childrenCount := some (.int 0)
    bases := some []
    documentation := none }

/- An element with two attributes that offend. -/
def sizedBox : Element :=
  { name := some "Box"
    className := some "box"
    nativeType := some .void
    attributes :=
      some
        [ some (sizeNumber "Shown" true),
          some (sizeNumber "Chosen" false) ]
    callbacks := some []
    childrenCount := some (.int 0)
    bases := some []
    documentation := none }

/- A read-only attribute is reported after one that is not. -/
theorem sizedBox_render_error :
    sizedBox.render [] =
      .error (.dispatch (.noRule "Chosen" "Size" "Int")) := by
  have hComplete :
      (Catalog.mk (some []) (some [some sizedBox])).Complete := by
    decide
  rcases Catalog.render_error_iff
      ⟨some [], some [some sizedBox]⟩ sizedBox hComplete rfl
      (by decide) with
    ⟨parents, merged, hParents, hMerge, hIff, hFirst, _⟩
  have hNone : [] = parents := Except.ok.inj hParents
  rw [← hNone] at hMerge hIff hFirst
  have hMerged :
      [sizeNumber "Shown" true, sizeNumber "Chosen" false]
        = merged := Except.ok.inj hMerge
  rw [← hMerged] at hIff hFirst
  rcases hIff.mpr (by decide) with ⟨fault, hFault⟩
  rcases hFirst fault hFault with
    ⟨reason, hReason, hFound⟩
  have hSecond :
      DispatchFault.noRule "Chosen" "Size" "Int" = reason :=
    Option.some.inj hFound
  rw [hFault, hReason, ← hSecond]

end ElementBindings
