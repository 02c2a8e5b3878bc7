import ElementBindings.Proofs.Zig.Render

/-
  Elements that are counted, and elements that have a text.

  A summary asks for the rule of every attribute that is not
  deprecated, whatever its flags say, and for no type of a
  callback.  The text asks for the rules of what is written,
  and for all types.  So an element can be counted without
  having a text, when a callback has an unknown type; and it
  can have a text without being counted, when the only
  attributes without rule are those of which nothing is
  written.  In all other cases both fail, or none of them.

  Key definitions include:
    * `Attribute.Missed`
    * `summaryFault?`
    * `UntypedOnly`, `IdleOnly`

  Key theorems include:
    * `Element.fault?_summary`
    * `Catalog.summary_fails_iff_render_fails`
-/

namespace ElementBindings

------------------------------------------------------------
-- Counting
------------------------------------------------------------

/- A test goes on with the rest after the first item. -/
theorem filterChecked_cons
    {α : Type}
    (test : α → Except Fault Bool)
    (a : α)
    (rest : List α) :
    filterChecked test (a :: rest) = do
      let keep ← test a
      let kept ← filterChecked test rest
      return if keep then a :: kept else kept := rfl

/- What passes a test was among the items. -/
theorem mem_of_mem_filterChecked
    {α : Type}
    {test : α → Except Fault Bool}
    {items kept : List α}
    {a : α}
    (hKept : filterChecked test items = .ok kept)
    (hMember : a ∈ kept) :
    a ∈ items := by
  induction items generalizing kept with
  | nil =>
      rw [← Except.ok.inj hKept] at hMember
      exact hMember
  | cons b rest ih =>
      rw [filterChecked_cons] at hKept
      rcases bind_eq_ok_iff.mp hKept with ⟨keep, _, hKept⟩
      rcases bind_eq_ok_iff.mp hKept with
        ⟨later, hLater, hSum⟩
      rw [← Except.ok.inj hSum] at hMember
      split at hMember
      · rcases List.mem_cons.mp hMember with rfl | hThere
        · exact List.mem_cons_self
        · exact List.mem_cons_of_mem b (ih hLater hThere)
      · exact List.mem_cons_of_mem b (ih hLater hMember)

/- A test of all items has the first fault of one of them. -/
theorem fault?_filterChecked
    {α : Type}
    (test : α → Except Fault Bool)
    (items : List α) :
    fault? (filterChecked test items) =
      items.findSome? fun a => fault? (test a) := by
  induction items with
  | nil => rfl
  | cons a rest ih =>
      have hParts :
          fault? (filterChecked test (a :: rest)) =
            (fault? (test a)).or
              (fault? (filterChecked test rest)) := by
        rw [filterChecked_cons]
        exact
          fault?_bind fun _ _ =>
            fault?_bind_eq_first fun _ _ => rfl
      rw [hParts, ih, List.findSome?_cons]
      cases fault? (test a) with
      | none => rfl
      | some fault => rfl

namespace Attribute

variable {a : Attribute}

/- An attribute without rule that is not deprecated. -/
def Missed
    (a : Attribute) : Prop :=
  ¬ isSet a.deprecated ∧ a.Unruled

instance (a : Attribute) : Decidable a.Missed := by
  unfold Missed
  infer_instance

/-
  An attribute without rule offends when it is missed, unless
  it can neither be set nor be read.
-/
theorem offends_iff
    (a : Attribute) :
    a.Offends ↔
      a.Missed ∧
        ¬ (isSet a.readOnly ∧ isSet a.creationOnly) := by
  unfold Offends Missed
  rw [and_assoc]

/-
  A test that asks for the rules of some attributes has the
  fault of the first one that is asked without having one.
-/
theorem fault?_filterChecked_rule
    {test : Attribute → Except Fault Bool}
    {attributes : List Attribute}
    (asked : Attribute → Bool)
    (hComplete : ∀ a ∈ attributes, a.Complete)
    (hTest :
      ∀ a ∈ attributes,
        fault? (test a) =
          if asked a then fault? a.rule else none) :
    fault? (filterChecked test attributes) =
      (attributes.find? fun a => asked a ∧ a.Unruled).map
        fun a => .dispatch a.ruleFault := by
  rw [fault?_filterChecked]
  apply findSome?_eq_find?
  intro a hMember
  rw [hTest a hMember, fault?_rule (hComplete a hMember)]
  by_cases hAsked : asked a
  · simp [hAsked]
  · simp [hAsked]

------------------------------------------------------------
-- Flags
------------------------------------------------------------

/- Flags leave room for a setter on the live element. -/
def maySet
    (a : Attribute) : Bool :=
  !isSet a.creationOnly && !isSet a.readOnly

/- Flags leave room for a getter. -/
def mayGet
    (a : Attribute) : Bool :=
  !isSet a.creationOnly && !isSet a.writeOnly

/- Flags leave room for a setter, a getter and a test of both. -/
def mayTest
    (a : Attribute) : Bool :=
  a.maySet && a.mayGet && !isSet a.deprecated

/- A live setter asks for the rule where flags allow it. -/
theorem fault?_hasSetter_live
    (a : Attribute) :
    fault? (a.hasSetter .live) =
      if a.maySet then fault? a.rule else none := by
  rw [fault?_hasSetter]
  unfold maySet
  cases isSet a.creationOnly with
  | true => simp
  | false =>
      cases isSet a.readOnly with
      | true => simp
      | false => simp

/- A getter asks for the rule where flags allow it. -/
theorem fault?_hasGetter_eq
    (a : Attribute) :
    fault? a.hasGetter =
      if a.mayGet then fault? a.rule else none := by
  rw [fault?_hasGetter]
  unfold mayGet
  cases isSet a.creationOnly with
  | true => simp
  | false =>
      cases isSet a.writeOnly with
      | true => simp
      | false => simp

/- A test asks for the rule where flags allow it. -/
theorem fault?_hasTest_eq
    (a : Attribute) :
    fault? a.hasTest =
      if a.mayTest then fault? a.rule else none := by
  rw [fault?_hasTest, ← ite_not]
  congr 1
  unfold mayTest maySet mayGet
  simp only [Bool.and_eq_true, Bool.not_eq_true']
  grind

end Attribute

------------------------------------------------------------
-- Summaries
------------------------------------------------------------

/- The fault of the first missed attribute that is asked. -/
def missedFault?
    (asked : Attribute → Bool)
    (attributes : List Attribute) : Option DispatchFault :=
  (attributes.find? fun a => asked a ∧ a.Missed).map
    Attribute.ruleFault

/- There is such a fault when there is such an attribute. -/
theorem missedFault?_isSome_iff
    (asked : Attribute → Bool)
    (attributes : List Attribute) :
    (missedFault? asked attributes).isSome ↔
      ∃ a ∈ attributes, asked a ∧ a.Missed := by
  unfold missedFault?
  rw [Option.isSome_map, List.find?_isSome]
  simp

/-
  The fault of a summary.  Tests are looked at first, then
  setters, then getters, and at last all attributes; each
  step leaves out what its flags rule out.
-/
def summaryFault?
    (tested merged : List Attribute) : Option DispatchFault :=
  (missedFault? Attribute.mayTest tested).or
    ((missedFault? Attribute.maySet merged).or
      ((missedFault? Attribute.mayGet merged).or
        (missedFault? (fun _ => true) merged)))

/-
  A summary has a fault when some attribute is missed, if
  what is tested is among what is counted.
-/
theorem summaryFault?_isSome_iff
    {tested merged : List Attribute}
    (hTested : ∀ a ∈ tested, a ∈ merged) :
    (summaryFault? tested merged).isSome ↔
      ∃ a ∈ merged, a.Missed := by
  unfold summaryFault?
  simp only [Option.isSome_or, Bool.or_eq_true,
    missedFault?_isSome_iff]
  constructor
  · intro hSome
    rcases hSome with hTest | hSetter | hGetter | hRule
    · rcases hTest with ⟨a, hMember, _, hMissed⟩
      exact ⟨a, hTested a hMember, hMissed⟩
    · rcases hSetter with ⟨a, hMember, _, hMissed⟩
      exact ⟨a, hMember, hMissed⟩
    · rcases hGetter with ⟨a, hMember, _, hMissed⟩
      exact ⟨a, hMember, hMissed⟩
    · rcases hRule with ⟨a, hMember, _, hMissed⟩
      exact ⟨a, hMember, hMissed⟩
  · intro hSome
    rcases hSome with ⟨a, hMember, hMissed⟩
    exact .inr (.inr (.inr ⟨a, hMember, trivial, hMissed⟩))

/- The attributes of an element whose tests are counted. -/
def Element.testCandidates
    (element : Element) : List Attribute :=
  if element.isTestable then
    firstOccurrences (·.name) element.attributeList
  else
    []

/- Counting tests asks for the rules of what can be tested. -/
theorem Element.fault?_testedAttributes
    {element : Element}
    (hComplete : element.Complete) :
    fault? element.testedAttributes =
      (missedFault? Attribute.mayTest
        element.testCandidates).map .dispatch := by
  unfold testedAttributes testCandidates
  split
  · have hAttributes :
        ∀ a ∈ firstOccurrences (·.name)
            element.attributeList,
          a.Complete := by
      intro a hKept
      exact
        hComplete.everyAttribute a
          (mem_of_mem_firstOccurrences hKept)
    rw [Element.merge_own_nil hComplete.attributes, ok_bind,
      Attribute.fault?_filterChecked_rule Attribute.mayTest
        hAttributes fun a _ => a.fault?_hasTest_eq]
    unfold missedFault?
    rw [Option.map_map]
    congr 1
    apply List.find?_congr
    intro a _
    by_cases hOld : isSet a.deprecated
    · simp [Attribute.Missed, Attribute.mayTest, hOld]
    · simp [Attribute.Missed, hOld]
  · rfl

/-
  Counting what is written for the attributes that are not
  deprecated asks for the rules of those that are asked.
-/
theorem fault?_filterChecked_counted
    {test : Attribute → Except Fault Bool}
    {merged : List Attribute}
    (asked : Attribute → Bool)
    (hComplete : ∀ a ∈ merged, a.Complete)
    (hTest :
      ∀ a, fault? (test a) =
        if asked a then fault? a.rule else none) :
    fault? (filterChecked test
        (merged.filter (!isSet ·.deprecated))) =
      (missedFault? asked merged).map .dispatch := by
  rw [Attribute.fault?_filterChecked_rule asked
    (fun a hCounted =>
      hComplete a (List.mem_of_mem_filter hCounted))
    fun a _ => hTest a]
  unfold missedFault?
  rw [List.find?_filter, Option.map_map]
  congr 1
  apply List.find?_congr
  intro a _
  by_cases hOld : isSet a.deprecated
  · simp [Attribute.Missed, hOld]
  · simp [Attribute.Missed, hOld]

/- A summary has the fault of the first attribute without rule. -/
theorem Element.fault?_summary
    {element : Element}
    {parents : List Attribute}
    {merged : List Attribute}
    (hElement : element.Complete)
    (hComplete : ∀ a ∈ merged, a.Complete)
    (hMerge :
      Attribute.merge element.attributes (parents.map some)
        = .ok merged) :
    fault? (element.summary (parents.map some)) =
      (summaryFault? element.testCandidates merged).map
        .dispatch := by
  have hCallbacks :
      element.callbacks =
        some (element.callbackList.map some) :=
    hElement.callbacks
  have hParts :
      fault? (element.summary (parents.map some)) =
        (fault? element.testedAttributes).or
          ((fault? (filterChecked (·.hasSetter .live)
            (merged.filter (!isSet ·.deprecated)))).or
          ((fault? (filterChecked Attribute.hasGetter
            (merged.filter (!isSet ·.deprecated)))).or
          (fault? (filterChecked
            (fun a => a.rule.map (· = .unsupported))
            (merged.filter (!isSet ·.deprecated)))))) := by
    unfold Element.summary
    rw [hMerge, ok_bind, hCallbacks]
    refine
      fault?_bind fun _ _ => fault?_bind fun _ _ =>
        fault?_bind fun _ _ => ?_
    rw [needed_some, ok_bind]
    exact fault?_bind_eq_first fun _ _ => rfl
  rw [hParts, Element.fault?_testedAttributes hElement,
    fault?_filterChecked_counted Attribute.maySet hComplete
      Attribute.fault?_hasSetter_live,
    fault?_filterChecked_counted Attribute.mayGet hComplete
      Attribute.fault?_hasGetter_eq,
    fault?_filterChecked_counted (fun _ => true) hComplete
      fun a => by rw [fault?_map, if_pos rfl]]
  unfold summaryFault?
  simp only [Option.map_or]

------------------------------------------------------------
-- Counted Elements and Written Elements
------------------------------------------------------------

/- A result that is a dispatch fault. -/
def DispatchFails
    {α : Type}
    (result : Except Fault α) : Prop :=
  ∃ reason, result = .error (.dispatch reason)

/- A result fails so when its fault is a dispatch fault. -/
theorem dispatchFails_iff
    {α : Type}
    {result : Except Fault α}
    {reason? : Option DispatchFault}
    (hFault : fault? result = reason?.map .dispatch) :
    DispatchFails result ↔ reason?.isSome := by
  unfold DispatchFails
  simp only [← fault?_eq_some_iff, hFault]
  cases reason? with
  | none => simp
  | some reason => simp

/- What is merged first comes from what was declared itself. -/
theorem Element.mem_merged_of_mem_testCandidates
    {element : Element}
    {a : Attribute}
    (parents : List Attribute)
    (hTested : a ∈ element.testCandidates) :
    a ∈ firstOccurrences (·.name)
      (element.attributeList ++ parents) := by
  unfold testCandidates at hTested
  split at hTested
  · exact mem_firstOccurrences_append hTested
  · simp at hTested

/- Types of callbacks are unknown, and no attribute is missed. -/
def UntypedOnly
    (callbacks : List Callback)
    (merged : List Attribute) : Prop :=
  (∃ c ∈ callbacks, c.Unmapped) ∧
    ∀ a ∈ merged, ¬ a.Missed

instance
    (callbacks : List Callback)
    (merged : List Attribute) :
    Decidable (UntypedOnly callbacks merged) := by
  unfold UntypedOnly
  infer_instance

/-
  Attributes are missed, but only such as can neither be set
  nor be read, and all types of callbacks are known.
-/
def IdleOnly
    (callbacks : List Callback)
    (merged : List Attribute) : Prop :=
  (∀ c ∈ callbacks, ¬ c.Unmapped) ∧
    (∃ a ∈ merged, a.Missed) ∧
    ∀ a ∈ merged, a.Missed →
      isSet a.readOnly ∧ isSet a.creationOnly

instance
    (callbacks : List Callback)
    (merged : List Attribute) :
    Decidable (IdleOnly callbacks merged) := by
  unfold IdleOnly
  infer_instance

/-
  An element of a loaded catalog is counted without having a
  text when only types of callbacks are unknown.  It has a
  text without being counted when the only attributes without
  rule are idle.  In all other cases it fails in both ways, or
  in none.
-/
theorem Catalog.summary_fails_iff_render_fails
    (text : String)
    (catalog : Catalog)
    (element : Element)
    (hLoad : Catalog.load text = .ok catalog)
    (hComplete : catalog.Complete)
    (hElement : element ∈ catalog.elementList) :
    ∃ parents merged,
      catalog.parentAttributes element = .ok parents ∧
      Attribute.merge element.attributes parents
        = .ok merged ∧
      (¬ DispatchFails (element.summary parents) ∧
          DispatchFails (element.render parents) ↔
        UntypedOnly element.callbackList merged) ∧
      (DispatchFails (element.summary parents) ∧
          ¬ DispatchFails (element.render parents) ↔
        IdleOnly element.callbackList merged) ∧
      (¬ UntypedOnly element.callbackList merged →
        ¬ IdleOnly element.callbackList merged →
        (DispatchFails (element.summary parents) ↔
          DispatchFails (element.render parents))) := by
  have hFormed : catalog.WellFormed :=
    (Catalog.validate_decides hComplete).ok_iff.mp
      (Catalog.validate_of_load hLoad)
  have hWhole := hComplete.everyElement element hElement
  rcases Catalog.exists_merged hComplete hFormed hElement
    with ⟨parents, hParents, hMerge, hAttributes⟩
  have hSummary :
      DispatchFails (element.summary (parents.map some)) ↔
        ∃ a ∈ firstOccurrences (·.name)
            (element.attributeList ++ parents),
          a.Missed := by
    have hKept :
        ∀ a ∈ firstOccurrences (·.name)
            (element.attributeList ++ parents),
          a.Complete := by
      intro a hMember
      exact
        (hAttributes a (mem_of_mem_firstOccurrences hMember)).1
    rw [dispatchFails_iff
      (Element.fault?_summary hWhole hKept hMerge)]
    apply summaryFault?_isSome_iff
    intro a hTested
    exact
      Element.mem_merged_of_mem_testCandidates parents hTested
  have hRender :
      DispatchFails (element.render (parents.map some)) ↔
        (∃ c ∈ element.callbackList, c.Unmapped) ∨
          ∃ a ∈ firstOccurrences (·.name)
              (element.attributeList ++ parents),
            a.Missed ∧
              ¬ (isSet a.readOnly ∧ isSet a.creationOnly) := by
    rw [dispatchFails_iff
      (Element.fault?_render hWhole hAttributes rfl)]
    simp only [← Attribute.offends_iff]
    exact renderFault?_isSome_iff _ _
  -- What offends is missed, and what is missed may be idle.
  refine ⟨_, _, hParents, hMerge, ?_⟩
  rw [hSummary, hRender]
  unfold UntypedOnly IdleOnly
  grind

------------------------------------------------------------
-- Elements That Fail in One Way Only
------------------------------------------------------------

/- A callback with a result of the unknown type. -/
def vagueCallback : Callback :=
  { name := some "call"
    key := some "CALL"
    arguments := some []
    returnType := some .unknown
    documentation := none }

/- An attribute without rule that is set by nobody. -/
def idleSize : Attribute :=
  { sizeNumber "SLOT" true with creationOnly := some true }

/- An attribute whose only enumeration value is null. -/
def nullChoice : Attribute :=
  { sizeNumber "KIND" false with
    type := some .string
    format := some .enum
    enumValues := some [none] }

/- An element with a callback of an unknown type. -/
def talker : Element :=
  plainBox "Talker" [] [some vagueCallback]

/- An element with an attribute of which nothing is written. -/
def holder : Element :=
  plainBox "Holder" [some idleSize] []

/- An element with a null among the values of an attribute. -/
def chooser : Element :=
  plainBox "Chooser"
    [some nullChoice, some (sizeNumber "SIZE" false)] []

/- A catalog of the first two. -/
def talkerAndHolder : Catalog :=
  ⟨some [], some [some talker, some holder]⟩

/- The text of this catalog. -/
def talkerAndHolderText : String :=
  elementsText
    [ elementText "Talker"
        [ fieldText "callbacks"
            (listText
              [ recordText
                  [ fieldText "name" (quotedText "call"),
                    fieldText "attribute_name"
                      (quotedText "CALL"),
                    fieldText "return_type"
                      (quotedText "Unknown") ] ]) ],
      elementText "Holder"
        [ fieldText "attributes"
            (listText
              [ attributeText "SLOT" "Int" "Size"
                  [ fieldText "read_only" "true",
                    fieldText "creation_only" "true" ] ]) ] ]

/- The text of a catalog with the third one. -/
def chooserText : String :=
  elementsText
    [ elementText "Chooser"
        [ fieldText "attributes"
            (listText
              [ attributeText "KIND" "String" "Enum"
                  [ fieldText "enum_values"
                      (listText ["null"]) ],
                attributeText "SIZE" "Int" "Size" [] ]) ] ]

set_option maxRecDepth 4000 in
/- The first two are loaded from their text. -/
theorem talkerAndHolderText_loads :
    Catalog.load talkerAndHolderText =
      .ok talkerAndHolder := by
  rw [Catalog.load_eq_ok_iff]
  simp only [talkerAndHolderText, elementsText, elementText,
    attributeText, recordText, listText, fieldText,
    quotedText, Text.joinWith, String.toList_append,
    String.reduceToList, List.cons_append, List.nil_append]
  exact ⟨_, rfl, by decide, by decide⟩

set_option maxRecDepth 4000 in
/- The third one is loaded from its text. -/
theorem chooserText_loads :
    Catalog.load chooserText =
      .ok ⟨some [], some [some chooser]⟩ := by
  rw [Catalog.load_eq_ok_iff]
  simp only [chooserText, elementsText, elementText,
    attributeText, recordText, listText, fieldText,
    quotedText, Text.joinWith, String.toList_append,
    String.reduceToList, List.cons_append, List.nil_append]
  exact ⟨_, rfl, by decide, by decide⟩

/- The text of an element misses a type that is not counted. -/
theorem talker_fails_only_in_render :
    ¬ DispatchFails (talker.summary []) ∧
      DispatchFails (talker.render []) := by
  rcases Catalog.summary_fails_iff_render_fails
      talkerAndHolderText talkerAndHolder talker
      talkerAndHolderText_loads (by decide) (by decide) with
    ⟨parents, merged, hParents, hMerge, hUntyped, _, _⟩
  have hNone : [] = parents := Except.ok.inj hParents
  rw [← hNone] at hMerge hUntyped
  have hMerged : [] = merged := Except.ok.inj hMerge
  rw [← hMerged] at hUntyped
  exact hUntyped.mpr (by decide)

/-
  Each of three elements fails in one way only: for the type
  of a callback, for an attribute of which nothing is written,
  and for an attribute that is reached in one way only, since
  a null ends the other one before.
-/
theorem elements_that_fail_in_one_way :
    (Catalog.load talkerAndHolderText = .ok talkerAndHolder ∧
      talkerAndHolder.Complete ∧
      talkerAndHolder.elementList = [talker, holder] ∧
      talkerAndHolder.parentAttributes talker = .ok [] ∧
      (∃ summary, talker.summary [] = .ok summary) ∧
      talker.render [] =
        .error (.dispatch (.noTypeName "call" "Unknown")) ∧
      talkerAndHolder.parentAttributes holder = .ok [] ∧
      holder.summary [] =
        .error (.dispatch (.noRule "SLOT" "Size" "Int")) ∧
      ∃ text, holder.render [] = .ok text) ∧
    ∃ catalog,
      Catalog.load chooserText = .ok catalog ∧
      catalog.elementList = [chooser] ∧
      catalog.parentAttributes chooser = .ok [] ∧
      chooser.summary [] =
        .error (.dispatch (.noRule "SIZE" "Size" "Int")) ∧
      chooser.render [] =
        .error (.null (.readField "name")) :=
  ⟨⟨talkerAndHolderText_loads, by decide, rfl, rfl, ⟨_, rfl⟩,
    rfl, rfl, rfl, ⟨_, rfl⟩⟩, _, chooserText_loads, rfl, rfl,
    rfl, rfl⟩

end ElementBindings
