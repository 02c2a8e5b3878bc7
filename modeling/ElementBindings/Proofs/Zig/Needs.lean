import ElementBindings.Files.Path
import ElementBindings.Proofs.Accessor.Summary
import ElementBindings.Proofs.Catalog.Acceptance

/-
  What has to be there for an element to be generated.

  Checking a catalog leaves some fields unseen that are used
  when an element is counted, named or written.  A null in
  one of them ends that work by a fault of another kind than
  the dispatch faults, which are reported for one element.
  All work succeeds, or ends with a dispatch fault, where none
  of these fields is null; and it never succeeds where one is.

  Key definitions include:
    * `Attribute.Usable`
    * `Element.Renderable`

  Key theorems include:
    * `Attribute.needs_setters`, `Attribute.needs_getter?`
    * `Element.needs_declarations`
    * `Catalog.generation_needs`
-/

namespace ElementBindings

open Zig

------------------------------------------------------------
-- Parts of an Attribute
------------------------------------------------------------

namespace Attribute

variable {a : Attribute}

/- Nothing has to be there to look for a rule. -/
theorem needs_rule
    (a : Attribute) :
    Needs a.rule True := by
  unfold rule
  extract_lets found
  cases found with
  | some rule => exact Needs.pass rule trivial
  | none => exact Needs.dispatch _ _

/- Nor to look for a separator. -/
theorem needs_separator
    (a : Attribute) :
    Needs a.separator True := by
  unfold separator
  split
  · exact Needs.pass _ trivial
  · exact Needs.dispatch _ _

/- Nor to tell whether a setter is written. -/
theorem needs_hasSetter
    (context : Context)
    (a : Attribute) :
    Needs (a.hasSetter context) True := by
  unfold hasSetter
  split
  · exact Needs.pass _ trivial
  · split
    · exact Needs.pass _ trivial
    · exact a.needs_rule.map _

/- Nor to tell whether a getter is written. -/
theorem needs_hasGetter
    (a : Attribute) :
    Needs a.hasGetter True := by
  unfold hasGetter
  split
  · exact Needs.pass _ trivial
  · exact a.needs_rule.map _

/- Nor to tell whether a test is written. -/
theorem needs_hasTest
    (a : Attribute) :
    Needs a.hasTest True := by
  unfold hasTest
  split
  · exact Needs.pass _ trivial
  · split
    · exact Needs.pass _ trivial
    · exact a.needs_rule.map _

/- To tell values apart, none of them may be null. -/
theorem needs_distinctValues
    (a : Attribute) :
    Needs a.distinctValues (none ∉ a.enumValues.getD []) := by
  unfold distinctValues
  refine
    ((Needs.mapM fun value _ =>
      Needs.needed _ value).andThen fun _ _ =>
        Needs.pass _ trivial).congr ?_
  rw [and_true]
  constructor
  · intro hEach hNull
    have hNone := hEach none hNull
    simp at hNone
  · intro hListed value hMember
    rw [Option.isSome_iff_ne_none]
    rintro rfl
    exact hListed hMember

/- An attribute is addressed by its key and its numbering. -/
theorem needs_boundKey
    (a : Attribute) :
    Needs a.boundKey a.numbering.isSome := by
  unfold boundKey
  refine
    ((Needs.needed _ a.numbering).andThen fun _ _ =>
      Needs.pass _ trivial).congr ?_
  rw [and_true]

/- The name of an action is taken apart. -/
theorem needs_setterName
    (a : Attribute) :
    Needs a.setterName
      (isSet a.writeOnly ∧ ¬ isSet a.creationOnly →
        a.name.isSome) := by
  unfold setterName
  refine
    (Needs.whenSo fun _ =>
      (Needs.needed _ a.name).map _).congr ?_
  simp

/- Forms of accessors need the numbering of their attribute. -/
theorem needs_formParts
    (hListed : none ∉ a.enumValues.getD [])
    (rule : Rule) :
    Needs (a.formParts rule) a.numbering.isSome := by
  have hValues : Needs (a.formValues rule) True := by
    unfold formValues
    split
    · exact
        Needs.of_fault?_eq_none (fault?_distinctValues hListed)
          trivial
    · exact Needs.pass _ trivial
  have hSeparator : Needs (a.formSeparator rule) True := by
    unfold formSeparator
    split
    · exact a.needs_separator.map _
    · exact a.needs_separator.map _
    · exact a.needs_separator.map _
    · exact Needs.pass _ trivial
  refine
    (hValues.andThen fun values _ =>
      hSeparator.andThen fun separator _ =>
        a.needs_boundKey.andThen fun key _ =>
          Needs.pass (values, separator, key) trivial).congr ?_
  simp

------------------------------------------------------------
-- Accessors
------------------------------------------------------------

/-
  A setter that is written has a numbering, and a name if it
  is an action.
-/
def SetterNamed
    (context : Context)
    (a : Attribute) : Prop :=
  a.hasSetter context = .ok true →
    a.numbering.isSome ∧
      (isSet a.writeOnly ∧ ¬ isSet a.creationOnly →
        a.name.isSome)

/- A getter that is written has a numbering. -/
def GetterNumbered
    (a : Attribute) : Prop :=
  a.hasGetter = .ok true → a.numbering.isSome

/- Setters need the numbering and the name of an attribute. -/
theorem needs_setters
    (hListed : none ∉ a.enumValues.getD [])
    (context : Context) :
    Needs (a.setters context) (a.SetterNamed context) := by
  unfold setters SetterNamed
  refine
    ((a.needs_hasSetter context).andThen
      fun written hSetter => ?_).congr (by rw [true_and])
  rw [hSetter]
  cases written with
  | false => exact Needs.pass _ (by simp)
  | true =>
      have hForms :=
        fun rule =>
          (needs_formParts hListed rule).of_fault?_eq
            (a.fault?_setterForms_eq context rule)
      refine
        (a.needs_rule.andThen fun rule _ =>
          (hForms rule).andThen fun forms _ =>
            (Needs.needed _ a.numbering).andThen
              fun numbering _ =>
                a.needs_setterName.andThen fun name _ =>
                  Needs.pass _ trivial).congr ?_
      simp

/- A getter needs the numbering of an attribute. -/
theorem needs_getter?
    (hListed : none ∉ a.enumValues.getD []) :
    Needs a.getter? a.GetterNumbered := by
  unfold getter? GetterNumbered
  refine
    (a.needs_hasGetter.andThen
      fun written hGetter => ?_).congr (by rw [true_and])
  rw [hGetter]
  cases written with
  | false => exact Needs.pass _ (by simp)
  | true =>
      have hForm :=
        fun rule =>
          (needs_formParts hListed rule).of_fault?_eq
            (a.fault?_getterForm?_eq rule)
      refine
        (a.needs_rule.andThen fun rule _ =>
          (hForm rule).andThen fun form _ =>
            (Needs.needed _ a.numbering).andThen
              fun numbering _ =>
                Needs.pass _ trivial).congr ?_
      simp

------------------------------------------------------------
-- Usable Attributes
------------------------------------------------------------

/-
  An attribute without null where something is written for
  it: among the values that it lists, in the numbering of an
  accessor, and in the name of an action.
-/
structure Usable
    (a : Attribute) : Prop where
  listed : none ∉ a.enumValues.getD []
  setter : ¬ isSet a.deprecated → a.SetterNamed .initializer
  getter : ¬ isSet a.deprecated → a.GetterNumbered

/- Nothing more is needed for the setters of a live element. -/
theorem SetterNamed.live
    (hNamed : a.SetterNamed .initializer) :
    a.SetterNamed .live := by
  intro hSetter
  rcases hasSetter_eq_true_iff.mp hSetter with
    ⟨_, hRead, hRule⟩
  exact
    hNamed
      (hasSetter_eq_true_iff.mpr ⟨by simp, hRead, hRule⟩)

/- The type of an attribute needs the values that it lists. -/
theorem needs_enumType?
    (a : Attribute) :
    Needs a.enumType? (none ∉ a.enumValues.getD []) := by
  unfold enumType?
  split
  · next hNone => exact Needs.pass _ (by simp [hNone])
  · next hEmpty => exact Needs.pass _ (by simp [hEmpty])
  · exact
      (a.needs_distinctValues.andThen fun _ _ =>
        Needs.pass _ trivial).congr (by rw [and_true])

/- The initializer needs what the setters of an attribute need. -/
theorem needs_initializerFunctions
    (hListed : none ∉ a.enumValues.getD []) :
    Needs a.initializerFunctions
      (¬ isSet a.deprecated →
        a.SetterNamed .initializer) := by
  unfold initializerFunctions
  by_cases hOld : isSet a.deprecated
  · rw [if_pos hOld]
    exact Needs.pass _ fun hNew => absurd hOld hNew
  · rw [if_neg hOld]
    exact (needs_setters hListed _).congr (by simp [hOld])

/- The body needs what accessors of a live element need. -/
theorem needs_bodyFunctions
    (hListed : none ∉ a.enumValues.getD []) :
    Needs a.bodyFunctions
      (¬ isSet a.deprecated →
        a.GetterNumbered ∧ a.SetterNamed .live) := by
  unfold bodyFunctions
  by_cases hOld : isSet a.deprecated
  · rw [if_pos hOld]
    exact Needs.pass _ fun hNew => absurd hOld hNew
  · rw [if_neg hOld]
    refine
      ((needs_getter? hListed).andThen fun getter _ =>
        (needs_setters hListed _).andThen fun setters _ =>
          Needs.pass _ trivial).congr ?_
    simp [hOld]

end Attribute

------------------------------------------------------------
-- Callbacks
------------------------------------------------------------

/- Nothing has to be there to look for the name of a type. -/
theorem needs_typeName
    (callback : Option String)
    (type : Option DataType) :
    Needs (typeName callback type) True := by
  unfold typeName
  split
  · exact Needs.pass _ trivial
  · exact Needs.dispatch _ _

/- The type of a handler needs the arguments of its callback. -/
theorem Callback.needs_handlerType
    (callback : Option Callback) :
    Needs (Callback.handlerType callback)
      (∃ c, callback = some c ∧ c.arguments.isSome) := by
  cases callback with
  | none =>
      refine
        ((Needs.needed _ none).andThen (Q := True)
          fun c hNone => ?_).congr (by simp)
      simp [needed] at hNone
  | some c =>
      unfold Callback.handlerType
      rw [needed_some, ok_bind]
      have hNames :
          ∀ types : List (Option DataType),
            Needs (types.mapM (typeName c.name)) True :=
        fun types =>
          (Needs.mapM fun type _ =>
            needs_typeName c.name type).congr (by simp)
      refine
        ((Needs.needed _ c.arguments).andThen
          fun arguments _ =>
            (hNames arguments).andThen fun names _ =>
              (needs_typeName c.name c.returnType).andThen
                fun result _ => Needs.pass _ trivial).congr ?_
      simp

/- Types of handlers need all callbacks and their arguments. -/
theorem needs_handlerTypes
    (callbacks : Option (List (Option Callback))) :
    Needs (handlerTypes callbacks)
      (Filled callbacks ∧
        ∀ c ∈ present callbacks, c.arguments.isSome) := by
  unfold handlerTypes
  cases callbacks with
  | none =>
      refine
        ((Needs.needed _ none).andThen (Q := True)
          fun items hNone => ?_).congr ?_
      · simp [needed] at hNone
      · simp [Filled]
  | some items =>
      rw [needed_some, ok_bind]
      refine
        (Needs.mapM fun item _ =>
          Callback.needs_handlerType item).congr ?_
      rw [filled_some_iff]
      simp only [mem_present_some]
      constructor
      · intro hEach
        refine ⟨?_, ?_⟩
        · intro hNull
          rcases hEach none hNull with ⟨c, hNone, _⟩
          simp at hNone
        · intro c hMember
          rcases hEach (some c) hMember with
            ⟨d, hSame, hArguments⟩
          rw [Option.some.inj hSame]
          exact hArguments
      · intro hBoth item hMember
        cases item with
        | none => exact absurd hMember hBoth.1
        | some c => exact ⟨c, rfl, hBoth.2 c hMember⟩

/- Setters of callbacks that are all there need nothing more. -/
theorem needs_callbackSetters
    {callbacks : Option (List (Option Callback))}
    (hFilled : Filled callbacks)
    (context : Context) :
    Needs (callbackSetters context callbacks) True := by
  rcases filled_iff.mp hFilled with ⟨items, rfl⟩
  exact
    Needs.of_fault?_eq_none (fault?_callbackSetters _ items)
      trivial

------------------------------------------------------------
-- Declarations
------------------------------------------------------------

/-
  An element without null where something is written for it:
  in its native type, among its callbacks and their arguments,
  and in its attributes.
-/
structure Element.Renderable
    (element : Element)
    (merged : List Attribute) : Prop where
  nativeType : element.nativeType.isSome
  callbacks : Filled element.callbacks
  everyCallback :
    ∀ c ∈ element.callbackList, c.arguments.isSome
  everyAttribute : ∀ a ∈ merged, a.Usable

/- The types of attributes need the values that are listed. -/
theorem Zig.needs_enumTypes
    (attributes : List Attribute) :
    Needs (enumTypes attributes)
      (∀ a ∈ attributes, none ∉ a.enumValues.getD []) := by
  unfold enumTypes
  refine
    ((Needs.mapM fun a _ => a.needs_enumType?).andThen
      fun _ _ => Needs.pass _ trivial).congr ?_
  rw [and_true]

section Blocks

variable {attributes : List Attribute}
variable {callbacks : Option (List (Option Callback))}
variable
  (hListed : ∀ a ∈ attributes, none ∉ a.enumValues.getD [])
  (hFilled : Filled callbacks)

include hListed hFilled

/- With these, the initializer needs the names of its setters. -/
theorem Zig.needs_initializerBlock :
    Needs (initializerBlock attributes callbacks)
      (∀ a ∈ attributes, ¬ isSet a.deprecated →
        a.SetterNamed .initializer) := by
  unfold initializerBlock
  exact
    ((Needs.mapM fun a hMember =>
      Attribute.needs_initializerFunctions
        (hListed a hMember)).andThen fun _ _ =>
      (needs_callbackSetters hFilled _).andThen
        fun _ _ => Needs.pass _ trivial).congr (by simp)

/- The live element also needs the numberings of its getters. -/
theorem Zig.needs_bodyBlock :
    Needs (bodyBlock attributes callbacks)
      (∀ a ∈ attributes, ¬ isSet a.deprecated →
        a.GetterNumbered ∧ a.SetterNamed .live) := by
  unfold bodyBlock
  exact
    ((Needs.mapM fun a hMember =>
      Attribute.needs_bodyFunctions
        (hListed a hMember)).andThen fun _ _ =>
      (needs_callbackSetters hFilled _).andThen
        fun _ _ => Needs.pass _ trivial).congr (by simp)

end Blocks

/- Declarations need callbacks and attributes without null. -/
theorem Element.needs_declarations
    {element : Element}
    {parents : List (Option Attribute)}
    {merged : List Attribute}
    (hMerge :
      Attribute.merge element.attributes parents
        = .ok merged) :
    Needs (element.declarations parents)
      ((Filled element.callbacks ∧
          ∀ c ∈ element.callbackList, c.arguments.isSome) ∧
        ∀ a ∈ merged, a.Usable) := by
  have hTypes := needs_enumTypes merged
  unfold declarations
  rw [hMerge, ok_bind]
  -- The values that are listed are known to be there from here.
  refine
    (hTypes.andThen
      (Q := (Filled element.callbacks ∧
          ∀ c ∈ element.callbackList, c.arguments.isSome) ∧
        (∀ a ∈ merged, ¬ isSet a.deprecated →
          a.SetterNamed .initializer) ∧
        ∀ a ∈ merged, ¬ isSet a.deprecated →
          a.GetterNumbered ∧ a.SetterNamed .live)
      fun types hDone => ?_).congr ?_
  · have hListed := hTypes.given types hDone
    refine
      (needs_handlerTypes element.callbacks).andThen
        fun handlers hRegistered => ?_
    have hFilled :=
      ((needs_handlerTypes element.callbacks).given handlers
        hRegistered).1
    exact
      (needs_initializerBlock hListed hFilled).andThen
        fun _ _ =>
          ((needs_bodyBlock hListed hFilled).andThen fun _ _ =>
            Needs.pass _ trivial).congr (by rw [and_true])
  · constructor
    · intro hAll
      rcases hAll with ⟨hListed, hCallbacks, hSetters, hBody⟩
      refine ⟨hCallbacks, fun a hMember => ?_⟩
      exact
        ⟨hListed a hMember, hSetters a hMember,
          fun hOld => (hBody a hMember hOld).1⟩
    · intro hBoth
      rcases hBoth with ⟨hCallbacks, hUsable⟩
      refine
        ⟨fun a hMember => (hUsable a hMember).listed,
          hCallbacks,
          fun a hMember => (hUsable a hMember).setter, ?_⟩
      intro a hMember hOld
      exact
        ⟨(hUsable a hMember).getter hOld,
          ((hUsable a hMember).setter hOld).live⟩

------------------------------------------------------------
-- Tests
------------------------------------------------------------

/- A sample needs no more than the values that are listed. -/
theorem Attribute.needs_sample?
    {a : Attribute}
    (hListed : none ∉ a.enumValues.getD [])
    (hConsistent : a.Consistent) :
    Needs a.sample? True := by
  have hMember :
      ∀ rule, a.rule = .ok rule →
        rule = .enumInt ∨ rule = .enumString →
          Needs a.firstMember True := by
    intro rule hRule hKind
    have hValues :=
      hConsistent.listed.mp
        (Attribute.format_of_rule hRule hKind)
    exact
      Needs.of_fault?_eq_none
        (Attribute.fault?_firstMember hListed hValues) trivial
  unfold sample?
  refine
    (a.needs_rule.andThen fun rule hRule => ?_).congr
      (by rw [true_and])
  split
  · exact
      ((hMember _ hRule (.inl rfl)).andThen fun _ _ =>
        Needs.pass _ trivial).congr (by rw [true_and])
  · exact
      ((hMember _ hRule (.inr rfl)).andThen fun _ _ =>
        Needs.pass _ trivial).congr (by rw [true_and])
  · exact Needs.pass _ trivial

namespace Element

variable {element : Element}

/- A test needs nothing more where accessors can be written. -/
theorem needs_writtenTest?
    {a : Attribute}
    (hUsable : a.Usable)
    (hConsistent : a.Consistent) :
    Needs (element.writtenTest? a) True := by
  unfold writtenTest?
  refine
    (a.needs_hasTest.andThen fun written hTest => ?_).congr
      (by rw [true_and])
  cases written with
  | false => exact Needs.pass _ trivial
  | true =>
      rcases Attribute.hasTest_eq_true_iff.mp hTest with
        ⟨_, _, _, hOld, _⟩
      have hNumbered :=
        hUsable.getter hOld
          (Attribute.hasGetter_of_hasTest hTest)
      rw [if_pos rfl]
      unfold roundTrip?
      refine
        ((Attribute.needs_sample? hUsable.listed
          hConsistent).andThen fun sample _ => ?_).congr
          (by rw [true_and])
      cases sample with
      | none => exact Needs.pass _ trivial
      | some sample =>
          exact
            ((Needs.needed _ a.numbering).andThen fun _ _ =>
              Needs.pass _ trivial).congr
              (by rw [and_true, iff_true]; exact hNumbered)

/- Tests need nothing more where accessors can be written. -/
theorem needs_roundTrips
    (hFilled : Filled element.attributes)
    (hOwn :
      ∀ a ∈ firstOccurrences (·.name) element.attributeList,
        a.Usable ∧ a.Consistent) :
    Needs element.roundTrips True := by
  unfold roundTrips
  split
  · rw [merge_own_nil hFilled, ok_bind]
    exact
      ((Needs.mapM fun a hMember =>
        needs_writtenTest? (hOwn a hMember).1
          (hOwn a hMember).2).andThen fun _ _ =>
        Needs.pass _ trivial).congr (by simp)
  · exact Needs.pass _ trivial

------------------------------------------------------------
-- Pages and Summaries
------------------------------------------------------------

/- A text needs all that is written to be there. -/
theorem needs_render
    (hFilled : Filled element.attributes)
    (hConsistent : ∀ a ∈ element.attributeList, a.Consistent)
    (parents : List Attribute) :
    Needs (element.render (parents.map some))
      (element.Renderable
        (firstOccurrences (·.name)
          (element.attributeList ++ parents))) := by
  have hDeclarations :=
    needs_declarations (merge_of_filled hFilled parents)
  have hFragments :
      Needs (element.fragments (parents.map some))
        ((Filled element.callbacks ∧
            ∀ c ∈ element.callbackList,
              c.arguments.isSome) ∧
          ∀ a ∈ firstOccurrences (·.name)
              (element.attributeList ++ parents),
            a.Usable) := by
    refine
      ((hDeclarations.andThen (Q := True)
        fun declarations hDone => ?_).congr
          (by rw [and_true])).map _
    -- What is declared by the element itself is usable by now.
    have hUsable := (hDeclarations.given _ hDone).2
    refine
      ((needs_roundTrips hFilled ?_).andThen fun _ _ =>
        Needs.pass _ trivial).congr (by rw [true_and])
    intro a hOwn
    exact
      ⟨hUsable a (mem_firstOccurrences_append hOwn),
        hConsistent a (mem_of_mem_firstOccurrences hOwn)⟩
  unfold render
  refine
    ((Needs.needed _ element.nativeType).andThen fun _ _ =>
      hFragments.andThen fun _ _ =>
        Needs.pass _ trivial).congr ?_
  constructor
  · intro hParts
    rcases hParts with
      ⟨hNative, ⟨⟨hCallbacks, hArguments⟩, hUsable⟩, _⟩
    exact ⟨hNative, hCallbacks, hArguments, hUsable⟩
  · intro hRenderable
    exact
      ⟨hRenderable.nativeType,
        ⟨⟨hRenderable.callbacks, hRenderable.everyCallback⟩,
          hRenderable.everyAttribute⟩, trivial⟩

/- Counting needs nothing that is not needed for one item. -/
theorem needs_filterChecked
    {test : Attribute → Except Fault Bool}
    (hTest : ∀ a, Needs (test a) True)
    (attributes : List Attribute) :
    Needs (filterChecked test attributes) True := by
  induction attributes with
  | nil => exact Needs.pass _ trivial
  | cons a rest ih =>
      rw [filterChecked_cons]
      exact
        ((hTest a).andThen fun _ _ =>
          ih.andThen fun _ _ =>
            Needs.pass _ trivial).congr (by simp)

/- A summary needs the callbacks that it counts. -/
theorem needs_summary
    (hFilled : Filled element.attributes)
    (parents : List Attribute) :
    Needs (element.summary (parents.map some))
      element.callbacks.isSome := by
  have hTests : Needs element.testedAttributes True := by
    unfold testedAttributes
    split
    · rw [merge_own_nil hFilled, ok_bind]
      exact needs_filterChecked Attribute.needs_hasTest _
    · exact Needs.pass _ trivial
  unfold summary
  rw [merge_of_filled hFilled, ok_bind]
  refine
    (hTests.andThen fun _ _ =>
      (needs_filterChecked
        (Attribute.needs_hasSetter .live) _).andThen
        fun _ _ =>
          (needs_filterChecked
            Attribute.needs_hasGetter _).andThen fun _ _ =>
            (Needs.needed _ element.callbacks).andThen
              fun _ _ =>
                (needs_filterChecked
                  (fun a => a.needs_rule.map _) _).andThen
                  fun _ _ => Needs.pass _ trivial).congr ?_
  simp

/- The path of an element needs its name. -/
theorem needs_path
    (base : Path)
    (element : Element) :
    Needs (element.path base) element.name.isSome := by
  unfold path
  exact
    ((Needs.needed _ element.name).andThen fun _ _ =>
      Needs.pass _ trivial).congr (by rw [and_true])

end Element

/-
  For an element of a catalog that could be loaded, finding
  its path, counting it and writing it give a result or a
  dispatch fault if what they need is there, and no result if
  it is not: a name; a list of callbacks; and all fields of
  which something is written.
-/
theorem Catalog.generation_needs
    (text : String)
    (catalog : Catalog)
    (element : Element)
    (hLoad : Catalog.load text = .ok catalog)
    (hElement : element ∈ catalog.elementList) :
    ∃ parents merged,
      catalog.parentAttributes element = .ok parents ∧
      Attribute.merge element.attributes parents
        = .ok merged ∧
      (∀ base,
        Needs (element.path base) element.name.isSome) ∧
      Needs (element.summary parents)
        element.callbacks.isSome ∧
      Needs (element.render parents)
        (element.Renderable merged) := by
  rcases Catalog.exists_merged_of_validate
      (Catalog.validate_of_load hLoad) hElement with
    ⟨parents, hParents, hFilled, hConsistent⟩
  exact
    ⟨_, _, hParents, Element.merge_of_filled hFilled parents,
      fun base => Element.needs_path base element,
      Element.needs_summary hFilled parents,
      Element.needs_render hFilled hConsistent parents⟩

------------------------------------------------------------
-- Elements With Null
------------------------------------------------------------

/- An element whose list of callbacks is null. -/
def voiceless : Element :=
  { plainBox "Voiceless" [] [] with callbacks := none }

/- An element whose name is null. -/
def nameless : Element :=
  { plainBox "" [] [] with name := none }

/- A catalog of both. -/
def voicelessAndNameless : Catalog :=
  ⟨some [], some [some voiceless, some nameless]⟩

/- The text of this catalog. -/
def voicelessAndNamelessText : String :=
  elementsText
    [ elementText "Voiceless" [fieldText "callbacks" "null"],
      recordText
        [ fieldText "name" "null",
          fieldText "class_name" (quotedText "box"),
          fieldText "native_type" (quotedText "Void") ] ]

set_option maxRecDepth 4000 in
/- Both are loaded from their text. -/
theorem voicelessAndNamelessText_loads :
    Catalog.load voicelessAndNamelessText =
      .ok voicelessAndNameless := by
  rw [Catalog.load_eq_ok_iff]
  simp only [voicelessAndNamelessText, elementsText,
    elementText, recordText, listText, fieldText, quotedText,
    Text.joinWith, String.toList_append, String.reduceToList,
    List.cons_append, List.nil_append]
  exact ⟨_, rfl, by decide, by decide⟩

/- An element without name has no path, but all the rest. -/
theorem nameless_has_no_path :
    (∀ base path, nameless.path base ≠ .ok path) ∧
      ((∃ summary, nameless.summary [] = .ok summary) ∨
        ∃ reason,
          nameless.summary [] = .error (.dispatch reason)) ∧
      ((∃ text, nameless.render [] = .ok text) ∨
        ∃ reason,
          nameless.render [] = .error (.dispatch reason)) := by
  rcases Catalog.generation_needs voicelessAndNamelessText
      voicelessAndNameless nameless
      voicelessAndNamelessText_loads (by decide) with
    ⟨parents, merged, hParents, hMerge, hPath, hSummary,
      hRender⟩
  have hNone : [] = parents := Except.ok.inj hParents
  rw [← hNone] at hMerge hSummary hRender
  have hMerged : [] = merged := Except.ok.inj hMerge
  rw [← hMerged] at hRender
  have hRenderable : nameless.Renderable [] :=
    ⟨rfl, rfl, by decide, by simp⟩
  refine
    ⟨?_, hSummary.returns_or_dispatch rfl,
      hRender.returns_or_dispatch hRenderable⟩
  intro base path hGiven
  have hNamed := (hPath base).given path hGiven
  simp [nameless] at hNamed

/-
  A null list of callbacks is accepted, and ends counting and
  writing with a use of null.
-/
theorem voiceless_ends_generation :
    Catalog.load voicelessAndNamelessText =
        .ok voicelessAndNameless ∧
      voicelessAndNameless.elementList =
        [voiceless, nameless] ∧
      voicelessAndNameless.parentAttributes voiceless =
        .ok [] ∧
      voiceless.summary [] = .error (.null .count) ∧
      voiceless.render [] = .error (.null .iterate) ∧
      ∀ base,
        nameless.path base = .error (.null .search) :=
  ⟨voicelessAndNamelessText_loads, rfl, rfl, rfl, rfl,
    fun _ => rfl⟩

end ElementBindings
