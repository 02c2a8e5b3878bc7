import ElementBindings.Proofs.Accessor.Summary
import ElementBindings.Proofs.Zig.Enumeration

/-
  A summary counts what is declared.

  Counting looks at the flags and the rule of an attribute,
  and declaring puts functions together that may be missing.
  Both see the same: an attribute is counted for its getter
  or its setter when the function is declared from it, and a
  test is counted when it is written.  Attributes without an
  encoding are listed.  No accessor is declared from them in
  any context, but their type is if they are enumerated.

  Key definitions include:
    * `Attribute.Unencoded`
    * `Summary.Counts`

  Key theorems include:
    * `length_filterChecked`
    * `Attribute.rule_eq_unsupported_iff`
    * `Zig.exists_type_iff`
    * `Catalog.summary_counts`
-/

namespace ElementBindings

open Zig

------------------------------------------------------------
-- Checked Lists
------------------------------------------------------------

section Checked

variable {α β : Type}
variable {test : α → Except Fault Bool}
variable {items kept : List α}

/- As many items are kept as there are results that pass. -/
theorem length_filterChecked
    {passes : β → Bool}
    {results : List β}
    (hEach :
      List.Forall₂
        (fun a result => test a = .ok (passes result))
        items results)
    (hKept : filterChecked test items = .ok kept) :
    kept.length = results.countP passes := by
  induction hEach generalizing kept with
  | nil =>
      have hNone : [] = kept := Except.ok.inj hKept
      rw [← hNone]
      rfl
  | @cons a result rest others hFirst hRest ih =>
      rw [filterChecked_cons, hFirst, ok_bind] at hKept
      rcases bind_eq_ok_iff.mp hKept with
        ⟨later, hLater, hSum⟩
      have hSum := Except.ok.inj hSum
      cases hPasses : passes result with
      | true =>
          rw [hPasses, if_pos rfl] at hSum
          rw [← hSum, List.length_cons, ih hLater,
            List.countP_cons_of_pos hPasses]
      | false =>
          have hSum : later = kept := by
            rw [hPasses] at hSum
            exact hSum
          rw [← hSum, ih hLater,
            List.countP_cons_of_neg (by simp [hPasses])]

/- The items that are kept are those that pass. -/
theorem eq_filter_of_filterChecked
    {passes : α → Bool}
    (hTest :
      ∀ a ∈ items, ∀ keep,
        test a = .ok keep → keep = passes a)
    (hKept : filterChecked test items = .ok kept) :
    kept = items.filter passes := by
  induction items generalizing kept with
  | nil => exact (Except.ok.inj hKept).symm
  | cons a rest ih =>
      rw [filterChecked_cons] at hKept
      rcases bind_eq_ok_iff.mp hKept with
        ⟨keep, hKeep, hKept⟩
      rcases bind_eq_ok_iff.mp hKept with
        ⟨later, hLater, hSum⟩
      have hRest :=
        ih (fun b hMember =>
          hTest b (List.mem_cons_of_mem a hMember)) hLater
      rw [hTest a List.mem_cons_self keep hKeep] at hSum
      rw [← Except.ok.inj hSum, hRest, List.filter_cons]

end Checked

------------------------------------------------------------
-- Rules
------------------------------------------------------------

/- The table has a rule for the pairs without an encoding. -/
theorem Rule.find?_eq_unsupported_iff
    {format : DataFormat}
    {type : DataType} :
    Rule.find? format type = some .unsupported ↔
      type = .unknown ∨
        (type = .handle ∧ format ≠ .binary) ∨
        (type = .string ∧
          format ∈
            [ .floatRange, .alignment, .rect, .selection,
              .mdiActivate ]) := by
  cases type <;> cases format <;> decide

------------------------------------------------------------
-- Accessors
------------------------------------------------------------

namespace Attribute

variable {a : Attribute}
variable {rule : Rule}
variable {accessors : Accessors}

/- A getter is counted when it is declared. -/
theorem hasGetter_of_accessors
    (hAccessors : a.accessors = .ok accessors) :
    a.hasGetter = .ok accessors.getter.isSome := by
  rcases accessors_eq_ok_iff.mp hAccessors with
    ⟨_, hGetter, _⟩
  have hSome := getter?_isSome_iff hGetter
  rcases bind_eq_ok_iff.mp hGetter with ⟨written, hWritten, _⟩
  rw [hWritten] at hSome ⊢
  simp only [Except.ok.injEq] at hSome ⊢
  exact Bool.eq_iff_iff.mpr hSome.symm

/- A setter is counted when one is declared. -/
theorem hasSetter_of_accessors
    (hAccessors : a.accessors = .ok accessors) :
    a.hasSetter .live = .ok (accessors.live ≠ []) := by
  rcases accessors_eq_ok_iff.mp hAccessors with
    ⟨_, _, hLive⟩
  have hSome := setters_ne_nil_iff hLive
  rcases bind_eq_ok_iff.mp hLive with ⟨written, hWritten, _⟩
  rw [hWritten] at hSome ⊢
  simp only [Except.ok.injEq] at hSome ⊢
  exact Bool.eq_iff_iff.mpr (by simpa using hSome.symm)

/- Nothing is declared under the rule that says so. -/
theorem accessors_of_unsupported
    (hRule : a.rule = .ok .unsupported) :
    a.accessors = .ok ⟨[], none, []⟩ := by
  have hSetter :
      ∀ context, a.hasSetter context = .ok false := by
    intro context
    unfold hasSetter
    rw [hRule]
    split
    · rfl
    · split
      · rfl
      · rfl
  have hGetter : a.hasGetter = .ok false := by
    unfold hasGetter
    rw [hRule]
    split
    · rfl
    · rfl
  apply accessors_eq_ok_iff.mpr
  unfold setters getter?
  rw [hSetter .initializer, hGetter, hSetter .live]
  exact ⟨rfl, rfl, rfl⟩

------------------------------------------------------------
-- Encodings
------------------------------------------------------------

/-
  Formats and types that are known to have no encoding: all
  formats of the unknown type, all but one of handles, and
  some of strings.
-/
def Unencoded
    (a : Attribute) : Prop :=
  a.type = some .unknown ∨
    (a.type = some .handle ∧ a.format ≠ some .binary) ∨
    (a.type = some .string ∧
      a.format ∈
        [ some .floatRange, some .alignment, some .rect,
          some .selection, some .mdiActivate ])

instance (a : Attribute) : Decidable a.Unencoded := by
  unfold Unencoded
  infer_instance

/- Attributes without an encoding have this rule. -/
theorem rule_eq_unsupported_iff
    (hComplete : a.Complete) :
    a.rule = .ok .unsupported ↔ a.Unencoded := by
  rcases Option.isSome_iff_exists.mp hComplete.format with
    ⟨format, hFormat⟩
  rcases Option.isSome_iff_exists.mp hComplete.type with
    ⟨type, hType⟩
  have hTable :
      a.rule = .ok .unsupported ↔
        Rule.find? format type = some .unsupported := by
    rw [rule_eq_ok_iff hComplete, hFormat, hType]
    simp only [Option.some.injEq, exists_and_left,
      exists_eq_left']
  rw [hTable, Rule.find?_eq_unsupported_iff]
  unfold Unencoded
  rw [hFormat, hType]
  simp only [ne_eq, List.mem_cons, List.not_mem_nil,
    Option.some.injEq]

/- They are listed when they are without an encoding. -/
theorem unsupported_eq_unencoded
    {keep : Bool}
    (hComplete : a.Complete)
    (hKeep :
      (a.rule.map fun rule => decide (rule = .unsupported))
        = .ok keep) :
    keep = decide a.Unencoded := by
  rcases map_eq_ok_iff.mp hKeep with ⟨rule, hRule, hKeep⟩
  have hSame : rule = .unsupported ↔ a.Unencoded := by
    rw [← rule_eq_unsupported_iff hComplete, hRule,
      Except.ok.injEq]
  rw [← hKeep]
  exact decide_eq_decide.mpr hSame

end Attribute

------------------------------------------------------------
-- Types
------------------------------------------------------------

/-
  Of distinct attributes those in the format of enumerations
  have a type of their name.
-/
theorem Zig.exists_type_iff
    {attributes : List Attribute}
    {types : List EnumType}
    {a : Attribute}
    (hFit : ∀ b ∈ attributes, b.Complete ∧ b.Consistent)
    (hDistinct : (attributes.map (·.name)).Nodup)
    (hTypes : enumTypes attributes = .ok types)
    (hMember : a ∈ attributes) :
    (∃ type ∈ types, type.name = shownName a.name) ↔
      a.format = some .enum := by
  rcases hFit a hMember with ⟨hComplete, hConsistent⟩
  rw [hConsistent.listed]
  constructor
  · rintro ⟨type, hType, hName⟩
    rcases exists_of_mem_enumTypes hTypes hType with
      ⟨b, hOther, hOwn⟩
    rcases Option.isSome_iff_exists.mp hComplete.name with
      ⟨name, hHere⟩
    rcases Option.isSome_iff_exists.mp
        (hFit b hOther).1.name with
      ⟨other, hThere⟩
    have hSame : other = name := by
      rw [Attribute.name_of_enumType? hOwn, hHere, hThere]
        at hName
      exact hName
    have hOnly : b = a := by
      apply List.inj_on_of_nodup_map hDistinct hOther hMember
      rw [hHere, hThere, hSame]
    rw [hOnly] at hOwn
    exact Attribute.listed_of_enumType? hOwn
  · intro hListed
    rcases Attribute.exists_enumType hListed
        (Attribute.distinctValues_eq hComplete) with
      ⟨type, hType, _⟩
    exact
      ⟨type, mem_enumTypes hTypes hMember hType,
        Attribute.name_of_enumType? hType⟩

------------------------------------------------------------
-- Tests and Callbacks
------------------------------------------------------------

/- Under a sampled rule a sample is given. -/
theorem Attribute.isSome_of_sample?
    {a : Attribute}
    {rule : Rule}
    {sample? : Option Sample}
    (hRule : a.rule = .ok rule)
    (hSampled : rule.isSampled)
    (hSample : a.sample? = .ok sample?) :
    sample?.isSome := by
  unfold Attribute.sample? at hSample
  rw [hRule, ok_bind] at hSample
  cases rule with
  | enumInt | enumString =>
      rcases bind_eq_ok_iff.mp hSample with ⟨_, _, hSome⟩
      rw [← Except.ok.inj hSome]
      rfl
  | pointer | handle | void | dialogSize | date
  | unsupported => simp [Rule.isSampled] at hSampled
  | _ =>
      rw [← Except.ok.inj hSample]
      rfl

/- A test is counted when it is written. -/
theorem Element.hasTest_of_writtenTest?
    {element : Element}
    {a : Attribute}
    {test? : Option RoundTrip}
    (hTest : element.writtenTest? a = .ok test?) :
    a.hasTest = .ok test?.isSome := by
  rcases bind_eq_ok_iff.mp hTest with
    ⟨written, hWritten, hRest⟩
  rw [hWritten]
  cases written with
  | false =>
      rw [← Except.ok.inj hRest]
      rfl
  | true =>
      rcases Attribute.hasTest_eq_true_iff.mp hWritten with
        ⟨_, _, _, _, rule, hRule, hSampled⟩
      rcases bind_eq_ok_iff.mp hRest with
        ⟨sample?, hSample, hRest⟩
      have hSome :=
        Attribute.isSome_of_sample? hRule hSampled hSample
      rcases Option.isSome_iff_exists.mp hSome with
        ⟨sample, rfl⟩
      rcases bind_eq_ok_iff.mp hRest with ⟨_, _, hRest⟩
      rw [← Except.ok.inj hRest]
      rfl

/- As many tests are counted as are written. -/
theorem Element.length_testedAttributes
    {element : Element}
    {tested : List Attribute}
    {tests : List RoundTrip}
    (hTested : element.testedAttributes = .ok tested)
    (hTests : element.roundTrips = .ok tests) :
    tested.length = tests.length := by
  unfold Element.testedAttributes at hTested
  unfold Element.roundTrips at hTests
  split at hTested
  · next hTestable =>
      rw [if_pos hTestable] at hTests
      rcases bind_eq_ok_iff.mp hTested with
        ⟨own, hOwn, hKept⟩
      rw [hOwn, ok_bind] at hTests
      rcases bind_eq_ok_iff.mp hTests with
        ⟨results, hResults, hList⟩
      have hEach :
          List.Forall₂
            (fun a result => a.hasTest = .ok result.isSome)
            own results :=
        (mapM_eq_ok_iff.mp hResults).imp fun _ _ =>
          Element.hasTest_of_writtenTest?
      rw [length_filterChecked hEach hKept,
        ← Except.ok.inj hList]
      exact List.length_filterMap_eq_countP.symm
  · next hNative =>
      rw [if_neg hNative] at hTests
      rw [← Except.ok.inj hTested, ← Except.ok.inj hTests]
      rfl

/- There are as many handler types as callbacks. -/
theorem Zig.length_handlerTypes
    {items : List (Option Callback)}
    {types : List HandlerType}
    (hTypes : handlerTypes (some items) = .ok types) :
    types.length = items.length :=
  (mapM_eq_ok_iff.mp hTypes).length_eq.symm

/- There are as many setters of callbacks as callbacks. -/
theorem Zig.length_callbackSetters
    {context : Context}
    {items : List (Option Callback)}
    {setters : List FunctionDecl}
    (hSetters :
      callbackSetters context (some items) = .ok setters) :
    setters.length = items.length :=
  (mapM_eq_ok_iff.mp hSetters).length_eq.symm

------------------------------------------------------------
-- Summaries
------------------------------------------------------------

/-
  A summary counts what a binding declares.  Both blocks of
  functions consist of the accessors of the current
  attributes and of the setters of callbacks.  The attributes
  that are listed have no accessor, but a type if they are
  enumerated.
-/
structure Summary.Counts
    (summary : Summary)
    (binding : Binding)
    (current : List Attribute)
    (accessors : List Accessors)
    (chained live : List FunctionDecl) : Prop where
  initializer :
    binding.initializer =
      accessors.flatMap (·.chained) ++ chained
  body :
    binding.body = accessors.flatMap (·.body) ++ live
  attributes : summary.attributes = current.length
  getters :
    summary.getters = accessors.countP (·.getter.isSome)
  setters : summary.setters = accessors.countP (·.live ≠ [])
  tests : summary.tests = binding.tests.length
  callbacks : summary.callbacks = binding.handlerTypes.length
  chained : summary.callbacks = chained.length
  live : summary.callbacks = live.length
  unsupported :
    summary.unsupported =
      (current.filter (·.Unencoded)).map (·.name)
  silent :
    ∀ a ∈ current, a.Unencoded →
      a.accessors = .ok ⟨[], none, []⟩ ∧
        ((∃ type ∈ binding.enumTypes,
            type.name = shownName a.name) ↔
          a.format = some .enum)

section Parts

variable {element : Element}
variable {parents : List (Option Attribute)}
variable {merged : List Attribute}
variable
  (hMerge :
    Attribute.merge element.attributes parents = .ok merged)

include hMerge

/- What a binding is made of. -/
theorem Element.parts_of_binding
    {binding : Binding}
    (hBinding : element.binding parents = .ok binding) :
    enumTypes merged = .ok binding.enumTypes ∧
      handlerTypes element.callbacks
        = .ok binding.handlerTypes ∧
      initializerBlock merged element.callbacks
        = .ok binding.initializer ∧
      bodyBlock merged element.callbacks = .ok binding.body ∧
      element.roundTrips = .ok binding.tests := by
  rcases bind_eq_ok_iff.mp hBinding with
    ⟨declarations, hDone, hRest⟩
  rcases bind_eq_ok_iff.mp hRest with ⟨tests, hTests, hWhole⟩
  rcases Element.parts_of_declarations hMerge hDone with
    ⟨hTypes, hHandlers, hInitializer, hBody⟩
  rw [← Except.ok.inj hWhole]
  exact ⟨hTypes, hHandlers, hInitializer, hBody, hTests⟩

/- What a summary counts. -/
theorem Element.exists_counted
    {summary : Summary}
    (hSummary : element.summary parents = .ok summary) :
    ∃ tested setters getters callbacks unsupported,
      element.testedAttributes = .ok tested ∧
      filterChecked (·.hasSetter .live)
          (merged.filter (!isSet ·.deprecated))
        = .ok setters ∧
      filterChecked Attribute.hasGetter
          (merged.filter (!isSet ·.deprecated))
        = .ok getters ∧
      element.callbacks = some callbacks ∧
      filterChecked (fun a => a.rule.map (· = .unsupported))
          (merged.filter (!isSet ·.deprecated))
        = .ok unsupported ∧
      summary =
        { name := element.name
          attributes :=
            (merged.filter (!isSet ·.deprecated)).length
          setters := setters.length
          getters := getters.length
          callbacks := callbacks.length
          tests := tested.length
          unsupported := unsupported.map (·.name) } := by
  unfold Element.summary at hSummary
  rw [hMerge, ok_bind] at hSummary
  rcases bind_eq_ok_iff.mp hSummary with
    ⟨tested, hTested, hSummary⟩
  rcases bind_eq_ok_iff.mp hSummary with
    ⟨setters, hSetters, hSummary⟩
  rcases bind_eq_ok_iff.mp hSummary with
    ⟨getters, hGetters, hSummary⟩
  rcases bind_eq_ok_iff.mp hSummary with
    ⟨callbacks, hCallbacks, hSummary⟩
  rcases bind_eq_ok_iff.mp hSummary with
    ⟨unsupported, hUnsupported, hSummary⟩
  exact
    ⟨tested, setters, getters, callbacks, unsupported, hTested,
      hSetters, hGetters, needed_eq_ok_iff.mp hCallbacks,
      hUnsupported, (Except.ok.inj hSummary).symm⟩

end Parts

/-
  The summary of an element of an accepted catalog counts what
  its binding declares, if there are both.
-/
theorem Catalog.summary_counts
    (catalog : Catalog)
    (element : Element)
    {parents : List (Option Attribute)}
    {summary : Summary}
    {fragments : Fragments}
    (hComplete : catalog.Complete)
    (hAccepted : catalog.validate = .ok ())
    (hElement : element ∈ catalog.elementList)
    (hParents : catalog.parentAttributes element = .ok parents)
    (hSummary : element.summary parents = .ok summary)
    (hFragments : element.fragments parents = .ok fragments) :
    ∃ merged binding accessors chained live,
      Attribute.merge element.attributes parents
        = .ok merged ∧
      element.binding parents = .ok binding ∧
      fragments = binding.fragments ∧
      (merged.filter (!isSet ·.deprecated)).mapM
        Attribute.accessors = .ok accessors ∧
      callbackSetters .initializer element.callbacks
        = .ok chained ∧
      callbackSetters .live element.callbacks = .ok live ∧
      summary.Counts binding
        (merged.filter (!isSet ·.deprecated)) accessors
        chained live := by
  have hFormed : catalog.WellFormed :=
    (Catalog.validate_decides hComplete).ok_iff.mp hAccepted
  rcases Catalog.exists_merged hComplete hFormed hElement
    with ⟨inherited, hInherited, hMerge, hAttributes⟩
  rw [hParents, Except.ok.injEq] at hInherited
  rw [← hInherited] at hMerge
  have hDistinct :=
    nodup_firstOccurrences (·.name)
      (element.attributeList ++ inherited)
  have hFit :
      ∀ a ∈ firstOccurrences (·.name)
          (element.attributeList ++ inherited),
        a.Complete ∧ a.Consistent := fun a hMember =>
    hAttributes a (mem_of_mem_firstOccurrences hMember)
  generalize
    firstOccurrences (·.name)
      (element.attributeList ++ inherited) = merged
    at hMerge hDistinct hFit
  rcases map_eq_ok_iff.mp hFragments with
    ⟨binding, hBinding, hText⟩
  rcases Element.parts_of_binding hMerge hBinding with
    ⟨hTypes, hHandlers, hInitializer, hBody, hTests⟩
  rcases Zig.exists_accessors hInitializer hBody with
    ⟨accessors, chained, live, hAccessors, hChained, hLive,
      hFirst, hSecond⟩
  have hEach := mapM_eq_ok_iff.mp hAccessors
  rcases Element.exists_counted hMerge hSummary with
    ⟨tested, setters, getters, callbacks, unsupported, hTested,
      hSetters, hGetters, hCallbacks, hUnsupported, rfl⟩
  refine
    ⟨merged, binding, accessors, chained, live, hMerge,
      hBinding, hText.symm, hAccessors, hChained, hLive, ?_⟩
  rw [hCallbacks] at hHandlers hChained hLive
  constructor
  case initializer => exact hFirst
  case body => exact hSecond
  case attributes => rfl
  case getters =>
    exact
      length_filterChecked
        (hEach.imp fun _ _ => Attribute.hasGetter_of_accessors)
        hGetters
  case setters =>
    exact
      length_filterChecked
        (hEach.imp fun _ _ => Attribute.hasSetter_of_accessors)
        hSetters
  case tests =>
    exact Element.length_testedAttributes hTested hTests
  case callbacks => exact (length_handlerTypes hHandlers).symm
  case chained => exact (length_callbackSetters hChained).symm
  case live => exact (length_callbackSetters hLive).symm
  case unsupported =>
    have hListed :
        unsupported =
          (merged.filter (!isSet ·.deprecated)).filter
            (·.Unencoded) := by
      apply eq_filter_of_filterChecked _ hUnsupported
      intro a hMember keep hKeep
      have hThere := (List.mem_filter.mp hMember).1
      exact
        Attribute.unsupported_eq_unencoded (hFit a hThere).1
          hKeep
    exact congrArg (List.map (·.name)) hListed
  case silent =>
    intro a hMember hUnencoded
    have hThere := (List.mem_filter.mp hMember).1
    have hRule :=
      (Attribute.rule_eq_unsupported_iff
        (hFit a hThere).1).mpr hUnencoded
    exact
      ⟨Attribute.accessors_of_unsupported hRule,
        exists_type_iff hFit hDistinct hTypes hThere⟩

/- An enumerated attribute of the unknown type. -/
def vagueChoice : Attribute :=
  { choice "KIND" "A" with type := some .unknown }

/- An attribute that is deprecated. -/
def formerSize : Attribute :=
  { sizeNumber "OLD" false with deprecated := some true }

/- A callback without arguments. -/
def pressCallback : Callback :=
  { name := some "press"
    key := some "PRESS"
    arguments := some []
    returnType := some .void
    documentation := none }

/- An element with attributes of all these kinds. -/
def panel : Element :=
  plainBox "Panel"
    [ some (choice "ALIGN" "Left"), some reading,
      some vagueChoice, some formerSize ]
    [some pressCallback]

/- The catalog of this element. -/
def panelCatalog : Catalog :=
  ⟨some [], some [some panel]⟩

/- Of three current attributes two are read and one is set. -/
theorem panel_is_counted :
    ∃ binding accessors chained live,
      panel.binding [] = .ok binding ∧
      Summary.Counts
        { name := some "Panel"
          attributes := 3
          setters := 1
          getters := 2
          callbacks := 1
          tests := 1
          unsupported := [some "KIND"] }
        binding [choice "ALIGN" "Left", reading, vagueChoice]
        accessors chained live := by
  rcases Catalog.summary_counts panelCatalog panel
      (by decide) rfl (by decide) rfl rfl rfl with
    ⟨merged, binding, accessors, chained, live, hMerge,
      hBinding, _, _, _, _, hCounts⟩
  have hMerged :
      [choice "ALIGN" "Left", reading, vagueChoice,
        formerSize] = merged := Except.ok.inj hMerge
  rw [← hMerged] at hCounts
  exact
    ⟨binding, accessors, chained, live, hBinding, hCounts⟩

/- An element whose only attribute has no encoding. -/
def dial : Element :=
  plainBox "Dial" [some vagueChoice] []

/- The catalog of this element. -/
def dialCatalog : Catalog :=
  ⟨some [], some [some dial]⟩

/-
  An attribute can be listed for having no encoding although
  something is declared from it: no accessor, but its type.
-/
theorem listed_attribute_has_type :
    dialCatalog.Complete ∧
      dialCatalog.validate = .ok () ∧
      dialCatalog.elementList = [dial] ∧
      dialCatalog.parentAttributes dial = .ok [] ∧
      ∃ summary fragments,
        dial.summary [] = .ok summary ∧
        dial.fragments [] = .ok fragments ∧
        summary.unsupported = [some "KIND"] ∧
        fragments.enumTypes =
          "pub const KIND = enum \x7b\n    A,\n\x7d;" :=
  ⟨by decide, rfl, rfl, rfl, _, _, rfl, rfl, rfl, rfl⟩

end ElementBindings
