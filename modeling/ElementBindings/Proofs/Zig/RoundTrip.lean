import ElementBindings.Proofs.Zig.ArgumentList
import ElementBindings.Proofs.Zig.Declared
import ElementBindings.Proofs.Zig.Render

/-
  Tests call accessors that are there, as they are declared.

  A test is written for the own attributes that have a setter
  and a getter on a live element, and a sample value.  An own
  attribute is kept when inherited ones are merged with it, so
  both accessors are declared from the very attribute that is
  tested.  They take as many arguments as the test passes,
  ids included: in the text of the call, too, unless a name
  that is written into it has a comma of its own.

  Key definitions include:
    * `Attribute.isRoundTripped`
    * `Attribute.CommaFree`
    * `Zig.FunctionDecl.Accepts`
    * `Element.Exercises`

  Key theorems include:
    * `Attribute.exists_taking`
    * `Element.tests_forall₂`
    * `Catalog.tests_exercise_accessors`
-/

namespace ElementBindings

open Zig

------------------------------------------------------------
-- Calls
------------------------------------------------------------

/-
  A function takes the arguments of a call behind its
  receiver: it has as many more parameters, and so has its
  text if what is written there is plain.
-/
structure Zig.FunctionDecl.Accepts
    (function : FunctionDecl)
    (context : Context)
    (arguments : List String)
    (plain : Prop) : Prop where
  params :
    ∃ params,
      function.params = selfParam context :: params ∧
        params.length = arguments.length
  text :
    plain →
      argumentCount
          (Text.joinWith ", "
            (function.params.map Param.render)) =
        argumentCount (Text.joinWith ", " arguments) + 1

/- Parameters and arguments that are counted one by one. -/
theorem Zig.FunctionDecl.accepts_of_countable
    {function : FunctionDecl}
    {context : Context}
    {params : List Param}
    {arguments : List String}
    {plain : Prop}
    (hParams : function.params = selfParam context :: params)
    (hLength : params.length = arguments.length)
    (hDeclared : plain → Countable (params.map Param.render))
    (hPassed : plain → Countable arguments) :
    function.Accepts context arguments plain := by
  refine ⟨⟨params, hParams, hLength⟩, ?_⟩
  intro hPlain
  have hReceiver :
      ∀ piece ∈ [(selfParam context).render], Closed piece := by
    cases context with
    | initializer => decide
    | live => decide
  have hAll :=
    countable_append hReceiver (hDeclared hPlain)
  rw [hParams, List.map_cons,
    argumentCount_joinWith (hPassed hPlain)]
  rw [List.singleton_append] at hAll
  rw [argumentCount_joinWith hAll, List.length_cons,
    List.length_map, hLength]

/- The parameters of ids are counted one by one. -/
theorem Zig.closed_idParams
    (numbering : Numbering) :
    ∀ piece ∈ (idParams numbering).map Param.render,
      Closed piece := by
  cases numbering with
  | no => decide
  | oneId => decide
  | twoIds => decide

/- The ids of a test are counted one by one. -/
theorem Zig.closed_testIds
    (numbering : Numbering) :
    ∀ piece ∈ testIds numbering, Closed piece := by
  cases numbering with
  | no => decide
  | oneId => decide
  | twoIds => decide

/- A test passes an id for every parameter of one. -/
theorem Zig.length_testIds
    (numbering : Numbering) :
    (idParams numbering).length =
      (testIds numbering).length := by
  cases numbering with
  | no => rfl
  | oneId => rfl
  | twoIds => rfl

------------------------------------------------------------
-- Samples and Forms
------------------------------------------------------------

/-
  A form takes the arguments of a sample: as many as it has
  parameters, and both are counted one by one if what is
  written into them is plain.
-/
structure Zig.SetterForm.Takes
    (form : SetterForm)
    (sample : Sample)
    (plain : Prop) : Prop where
  suffix : form.suffix = ""
  generic : form.generic = false
  length : form.params.length = sample.arguments.length
  params : plain → Countable (form.params.map Param.render)
  arguments : plain → Countable sample.arguments

/- The setter of such a form takes the sample behind the ids. -/
theorem Zig.SetterForm.Takes.accepts
    {form : SetterForm}
    {sample : Sample}
    {plain : Prop}
    (hTakes : form.Takes sample plain)
    (context : Context)
    (numbering : Numbering)
    (documentation : Option String)
    (name : String) :
    (form.function context numbering documentation
      name).Accepts context
        (testIds numbering ++ sample.arguments) plain := by
  have hParams :
      (form.function context numbering documentation
        name).params =
        selfParam context
          :: (idParams numbering ++ form.params) := by
    unfold function
    rw [hTakes.generic]
    rfl
  apply FunctionDecl.accepts_of_countable hParams
  · rw [List.length_append, List.length_append,
      length_testIds, hTakes.length]
  · intro hPlain
    rw [List.map_append]
    exact
      countable_append (closed_idParams numbering)
        (hTakes.params hPlain)
  · intro hPlain
    exact
      countable_append (closed_testIds numbering)
        (hTakes.arguments hPlain)

/-
  The names that are written into the call of a setter, if its
  attribute is enumerated, are free of commas.
-/
def Attribute.CommaFree
    (a : Attribute) : Prop :=
  a.enumValues.getD [] ≠ [] →
    ',' ∉ (shownName a.name).toList ∧
      ∀ member, a.firstMember = .ok member →
        ',' ∉ member.toList

namespace Attribute

variable {a : Attribute}
variable {rule : Rule}

/- Under a rule a complete attribute has parts for its forms. -/
theorem exists_formParts
    (hComplete : a.Complete)
    (hRule : a.rule = .ok rule) :
    ∃ values separator key,
      a.formValues rule = .ok values ∧
        a.formSeparator rule = .ok separator ∧
        a.boundKey = .ok key :=
  exists_parts (fault?_formParts hComplete hRule)

/- A rule for members has a first member to choose. -/
theorem exists_firstMember
    (hComplete : a.Complete)
    (hConsistent : a.Consistent)
    (hRule : a.rule = .ok rule)
    (hKind : rule = .enumInt ∨ rule = .enumString) :
    a.enumValues.getD [] ≠ [] ∧
      ∃ member, a.firstMember = .ok member := by
  have hValues :=
    hConsistent.listed.mp (format_of_rule hRule hKind)
  exact
    ⟨hValues,
      fault?_eq_none_iff.mp
        (fault?_firstMember hComplete.none_not_mem hValues)⟩

/- A member is one argument, as is the parameter for it. -/
theorem countable_of_commaFree
    {member : String}
    (hMember : a.firstMember = .ok member)
    (hValues : a.enumValues.getD [] ≠ [])
    (hFree : a.CommaFree) :
    Countable
        ([⟨"arg", "?" ++ shownName a.name⟩].map
          Param.render) ∧
      Countable ["." ++ member] := by
  rcases hFree hValues with ⟨hName, hMembers⟩
  have hParam : Single "arg: ?" :=
    (by decide : Closed "arg: ?").toSingle
  have hDot : Single "." := (by decide : Closed ".").toSingle
  refine ⟨?_, hDot.append (hMembers member hMember)⟩
  have hText :
      Param.render ⟨"arg", "?" ++ shownName a.name⟩ =
        "arg: ?" ++ shownName a.name := by
    unfold Param.render
    rw [← String.append_assoc]
    rfl
  rw [List.map_singleton, hText]
  exact hParam.append hName

/- Under a sampled rule there is one setter, for the sample. -/
theorem exists_taking
    (hComplete : a.Complete)
    (hConsistent : a.Consistent)
    (hRule : a.rule = .ok rule)
    (hSampled : rule.isSampled) :
    ∃ sample,
      a.sample? = .ok (some sample) ∧
        ∀ context, ∃ form,
          a.setterForms context rule = .ok [form] ∧
            form.Takes sample a.CommaFree := by
  rcases exists_formParts hComplete hRule with
    ⟨values, separator, key, hValues, hSeparator, hKey⟩
  unfold sample? setterForms
  rw [hRule, hKey]
  cases rule with
  | int | string | boolean | float | double | size | margin
  | rgb =>
      refine
        ⟨_, rfl, fun context => ⟨_, rfl, rfl, rfl, rfl, ?_, ?_⟩⟩
      · intro _
        exact countable_of_closed (of_decide_eq_true rfl)
      · intro _
        exact countable_of_closed (of_decide_eq_true rfl)
  | linColPos | xyPos | range =>
      have hFound : a.separator.map some = .ok separator :=
        hSeparator
      rw [hFound]
      refine
        ⟨_, rfl, fun context => ⟨_, rfl, rfl, rfl, rfl, ?_, ?_⟩⟩
      · intro _
        exact countable_of_closed (of_decide_eq_true rfl)
      · intro _
        exact countable_of_closed (of_decide_eq_true rfl)
  | enumInt =>
      rcases exists_firstMember hComplete hConsistent hRule
          (.inl rfl) with
        ⟨hListed, member, hMember⟩
      have hCountable :=
        countable_of_commaFree hMember hListed
      rw [ok_bind, hMember]
      exact
        ⟨_, rfl, fun context =>
          ⟨_, rfl, rfl, rfl, rfl, fun hFree =>
            (hCountable hFree).1, fun hFree =>
            (hCountable hFree).2⟩⟩
  | enumString =>
      rcases exists_firstMember hComplete hConsistent hRule
          (.inr rfl) with
        ⟨hListed, member, hMember⟩
      have hCountable :=
        countable_of_commaFree hMember hListed
      have hFound : a.distinctValues = .ok values := hValues
      rw [ok_bind, hMember, hFound]
      exact
        ⟨_, rfl, fun context =>
          ⟨_, rfl, rfl, rfl, rfl, fun hFree =>
            (hCountable hFree).1, fun hFree =>
            (hCountable hFree).2⟩⟩
  | _ => simp [Rule.isSampled] at hSampled

/- Under a sampled rule there is a getter without type. -/
theorem exists_getterForm
    (hComplete : a.Complete)
    (hRule : a.rule = .ok rule)
    (hSampled : rule.isSampled) :
    ∃ form,
      a.getterForm? rule = .ok (some form) ∧
        form.generic = false := by
  rcases exists_formParts hComplete hRule with
    ⟨values, separator, key, hValues, hSeparator, hKey⟩
  unfold getterForm?
  rw [hKey]
  cases rule with
  | linColPos | xyPos | range =>
      have hFound : a.separator.map some = .ok separator :=
        hSeparator
      rw [hFound]
      exact ⟨_, rfl, rfl⟩
  | enumString =>
      have hFound : a.distinctValues = .ok values := hValues
      rw [hFound]
      exact ⟨_, rfl, rfl⟩
  | pointer | handle | void | dialogSize | date
  | unsupported => simp [Rule.isSampled] at hSampled
  | _ => exact ⟨_, rfl, rfl⟩

------------------------------------------------------------
-- Accessors of Tested Attributes
------------------------------------------------------------

/-
  An attribute is not deprecated, has a setter and a getter on
  a live element, and a sample value.
-/
def isRoundTripped
    (a : Attribute) : Bool :=
  !isSet a.deprecated
    && !((a.setters .live).toOption.getD []).isEmpty
    && (a.getter?.toOption.getD none).isSome
    && (a.sample?.toOption.getD none).isSome

/- Such an attribute is current, and all three are given. -/
theorem isRoundTripped_iff
    (a : Attribute) :
    a.isRoundTripped ↔
      ¬ isSet a.deprecated ∧
        (∃ setter others,
          a.setters .live = .ok (setter :: others)) ∧
        (∃ getter, a.getter? = .ok (some getter)) ∧
        ∃ sample, a.sample? = .ok (some sample) := by
  have hSetters :
      !((a.setters .live).toOption.getD []).isEmpty ↔
        ∃ setter others,
          a.setters .live = .ok (setter :: others) := by
    cases a.setters .live with
    | error fault => simp [Except.toOption]
    | ok setters =>
        cases setters with
        | nil => simp [Except.toOption]
        | cons setter others => simp [Except.toOption]
  have hGiven :
      ∀ {α : Type} (result : Except Fault (Option α)),
        (result.toOption.getD none).isSome ↔
          ∃ value, result = .ok (some value) := by
    intro α result
    cases result with
    | error fault => simp [Except.toOption]
    | ok value? =>
        cases value? with
        | none => simp [Except.toOption]
        | some value => simp [Except.toOption]
  unfold isRoundTripped
  simp only [Bool.and_eq_true, hSetters, hGiven, and_assoc,
    Bool.not_eq_true', Bool.not_eq_true]

/- The accessors and the sample of an attribute with a test. -/
structure Tested
    (a : Attribute)
    (numbering : Numbering)
    (sample : Sample) : Prop where
  current : ¬ isSet a.deprecated
  numbered : a.numbering = some numbering
  sampled : a.sample? = .ok (some sample)
  setters :
    ∀ context, ∃ setter,
      a.setters context = .ok [setter] ∧
        setter.name = "set" ++ shownName a.name ∧
        setter.Accepts context
          (testIds numbering ++ sample.arguments) a.CommaFree
  getter :
    ∃ getter,
      a.getter? = .ok (some getter) ∧
        getter.name = "get" ++ shownName a.name ∧
        getter.Accepts .live (testIds numbering) True

/- An attribute with a test has accessors that fit to it. -/
theorem exists_tested
    (hComplete : a.Complete)
    (hConsistent : a.Consistent)
    (hTest : a.hasTest = .ok true) :
    ∃ numbering sample, a.Tested numbering sample := by
  rcases hasTest_eq_true_iff.mp hTest with
    ⟨_, _, hWrite, hOld, rule, hRule, hSampled⟩
  rcases Option.isSome_iff_exists.mp hComplete.numbering with
    ⟨numbering, hNumbering⟩
  rcases exists_taking hComplete hConsistent hRule hSampled
    with ⟨sample, hSample, hForms⟩
  refine
    ⟨numbering, sample, hOld, hNumbering, hSample, ?_, ?_⟩
  · intro context
    rcases hForms context with ⟨form, hForm, hTakes⟩
    have hName :
        a.setterName = .ok ("set" ++ shownName a.name) := by
      unfold setterName
      simp [hWrite]
    refine
      ⟨form.function context numbering a.documentation
        ("set" ++ shownName a.name), ?_, ?_,
        hTakes.accepts context numbering _ _⟩
    · unfold setters
      rw [hasSetter_of_hasTest hTest context, hRule, hNumbering,
        hName]
      simp only [ok_bind, if_true, hForm]
      rfl
    · unfold SetterForm.function
      rw [hTakes.suffix, String.append_empty]
  · rcases exists_getterForm hComplete hRule hSampled with
      ⟨form, hForm, hPlain⟩
    refine
      ⟨form.function numbering a.documentation
        ("get" ++ shownName a.name), ?_, rfl, ?_⟩
    · unfold getter?
      rw [hasGetter_of_hasTest hTest, hRule, hNumbering]
      simp only [ok_bind, if_true, hForm]
      rfl
    · have hParams :
          (form.function numbering a.documentation
            ("get" ++ shownName a.name)).params =
            selfParam .live :: idParams numbering := by
        unfold GetterForm.function
        rw [hPlain]
        rfl
      exact
        FunctionDecl.accepts_of_countable hParams
          (length_testIds numbering)
          (fun _ =>
            countable_of_closed (closed_idParams numbering))
          fun _ =>
            countable_of_closed (closed_testIds numbering)

/- A setter is only given where one is written. -/
theorem hasSetter_of_setters
    {context : Context}
    {setter : FunctionDecl}
    {others : List FunctionDecl}
    (hSetters : a.setters context = .ok (setter :: others)) :
    a.hasSetter context = .ok true :=
  (setters_ne_nil_iff hSetters).mp (List.cons_ne_nil _ _)

/- A getter is only given where one is written. -/
theorem hasGetter_of_getter?
    {getter : FunctionDecl}
    (hGetter : a.getter? = .ok (some getter)) :
    a.hasGetter = .ok true :=
  (getter?_isSome_iff hGetter).mp rfl

/- A sample is only given under a sampled rule. -/
theorem isSampled_of_sample?
    {sample : Sample}
    (hRule : a.rule = .ok rule)
    (hSample : a.sample? = .ok (some sample)) :
    rule.isSampled := by
  unfold sample? at hSample
  rw [hRule, ok_bind] at hSample
  cases rule with
  | pointer | handle | void | dialogSize | date
  | unsupported =>
      have hNone := Except.ok.inj hSample
      simp [Rule.sample?] at hNone
  | _ => rfl

/- There is a test exactly for what it can exercise. -/
theorem isRoundTripped_eq
    {written : Bool}
    (hComplete : a.Complete)
    (hConsistent : a.Consistent)
    (hTest : a.hasTest = .ok written) :
    a.isRoundTripped = written := by
  cases written with
  | true =>
      rcases exists_tested hComplete hConsistent hTest with
        ⟨numbering, sample, hTested⟩
      rcases hTested.setters .live with ⟨setter, hSetter, _⟩
      rcases hTested.getter with ⟨getter, hGetter, _⟩
      exact
        a.isRoundTripped_iff.mpr
          ⟨hTested.current, ⟨setter, [], hSetter⟩,
            ⟨getter, hGetter⟩, sample, hTested.sampled⟩
  | false =>
      rw [← Bool.not_eq_true]
      intro hAll
      rcases a.isRoundTripped_iff.mp hAll with
        ⟨hOld, ⟨_, _, hSetter⟩, ⟨_, hGetter⟩, _, hSample⟩
      rcases hasSetter_eq_true_iff.mp
          (hasSetter_of_setters hSetter) with
        ⟨_, hRead, rule, hRule, _⟩
      rcases hasGetter_eq_true_iff.mp
          (hasGetter_of_getter? hGetter) with
        ⟨hCreation, hWrite, _⟩
      have hTrue : a.hasTest = .ok true :=
        hasTest_eq_true_iff.mpr
          ⟨hCreation, hRead, hWrite, hOld, rule, hRule,
            isSampled_of_sample? hRule hSample⟩
      simp [hTest] at hTrue

end Attribute

------------------------------------------------------------
-- Tests of an Element
------------------------------------------------------------

/-
  A test exercises an attribute of an element: it is the only
  merged attribute of its name, the setter and the getter that
  the test calls are declared from it, and both accept what
  the test passes.
-/
structure Element.Exercises
    (element : Element)
    (merged : List Attribute)
    (declarations : Declarations)
    (a : Attribute)
    (test : RoundTrip) : Prop where
  element : test.element = shownName element.name
  subject : test.subject = shownName a.name
  kept : a ∈ merged
  only : ∀ b ∈ merged, b.name = a.name → b = a
  setter :
    ∃ setter,
      a.initializerFunctions = .ok [setter] ∧
        setter ∈ declarations.initializer ∧
        setter.name = "set" ++ test.subject ∧
        setter.Accepts .initializer test.setterArguments
          a.CommaFree
  getter :
    ∃ getter others,
      a.bodyFunctions = .ok (getter :: others) ∧
        getter ∈ declarations.body ∧
        getter.name = "get" ++ test.subject ∧
        getter.Accepts .live test.getterArguments True

/- Functions of merged attributes are declared. -/
theorem Element.mem_declarations
    {element : Element}
    {parents : List (Option Attribute)}
    {merged : List Attribute}
    {declarations : Declarations}
    {a : Attribute}
    {setters accessors : List FunctionDecl}
    (hMerge :
      Attribute.merge element.attributes parents
        = .ok merged)
    (hDone : element.declarations parents = .ok declarations)
    (hMember : a ∈ merged)
    (hSetters : a.initializerFunctions = .ok setters)
    (hAccessors : a.bodyFunctions = .ok accessors) :
    (∀ f ∈ setters, f ∈ declarations.initializer) ∧
      ∀ f ∈ accessors, f ∈ declarations.body := by
  rcases Element.parts_of_declarations hMerge hDone with
    ⟨_, _, hInitializer, hBody⟩
  refine ⟨fun f hFunction => ?_, fun f hFunction => ?_⟩
  · rcases parts_of_functionBlock .initializer hInitializer with
      ⟨parts, _, hParts, _, hSum⟩
    rw [hSum]
    apply List.mem_append_left
    exact
      List.mem_flatten_of_mem
        (mem_of_mapM hParts hMember hSetters) hFunction
  · rcases parts_of_functionBlock .live hBody with
      ⟨parts, _, hParts, _, hSum⟩
    rw [hSum]
    apply List.mem_append_left
    exact
      List.mem_flatten_of_mem
        (mem_of_mapM hParts hMember hAccessors) hFunction

/- The test of an attribute that has one. -/
theorem Element.writtenTest?_of_tested
    {a : Attribute}
    {numbering : Numbering}
    {sample : Sample}
    (element : Element)
    (hTest : a.hasTest = .ok true)
    (hTested : a.Tested numbering sample) :
    element.writtenTest? a =
      .ok (some
        { element := shownName element.name
          subject := shownName a.name
          setterArguments :=
            testIds numbering ++ sample.arguments
          getterArguments := testIds numbering
          check := sample.check }) := by
  unfold Element.writtenTest? Element.roundTrip?
  rw [hTest, hTested.sampled, hTested.numbered]
  rfl

section Exercises

variable {element : Element}
variable {parents merged : List Attribute}
variable {declarations : Declarations}
variable
  (hFilled : Filled element.attributes)
  (hAttributes :
    ∀ a ∈ element.attributeList ++ parents,
      a.Complete ∧ a.Consistent)
  (hMerged :
    merged =
      firstOccurrences (·.name)
        (element.attributeList ++ parents))
  (hDone :
    element.declarations (parents.map some)
      = .ok declarations)

include hFilled hAttributes hMerged hDone

/- A test of an own attribute that is kept exercises it. -/
theorem Element.exercises_of_hasTest
    {a : Attribute}
    {test : RoundTrip}
    (hOwn :
      a ∈ firstOccurrences (·.name) element.attributeList)
    (hTest : a.hasTest = .ok true)
    (hWritten : element.writtenTest? a = .ok (some test)) :
    element.Exercises merged declarations a test := by
  have hListed : a ∈ element.attributeList ++ parents :=
    List.mem_append_left _ (mem_of_mem_firstOccurrences hOwn)
  have hKept : a ∈ merged := by
    rw [hMerged]
    exact mem_firstOccurrences_append hOwn
  rcases hAttributes a hListed with ⟨hComplete, hConsistent⟩
  rcases Attribute.exists_tested hComplete hConsistent hTest
    with ⟨numbering, sample, hTested⟩
  rcases hTested.setters .initializer with
    ⟨setter, hSetter, hSetterName, hSetterAccepts⟩
  rcases hTested.setters .live with ⟨live, hLive, _⟩
  rcases hTested.getter with
    ⟨getter, hGetter, hGetterName, hGetterAccepts⟩
  have hInitializer :
      a.initializerFunctions = .ok [setter] := by
    unfold Attribute.initializerFunctions
    rw [if_neg hTested.current]
    exact hSetter
  have hBody : a.bodyFunctions = .ok [getter, live] := by
    unfold Attribute.bodyFunctions
    rw [if_neg hTested.current, hGetter, hLive]
    rfl
  have hMerge :
      Attribute.merge element.attributes (parents.map some) =
        .ok merged := by
    rw [hMerged]
    exact Element.merge_of_filled hFilled parents
  rcases Element.mem_declarations hMerge hDone hKept
      hInitializer hBody with
    ⟨hSetters, hAccessors⟩
  rw [Element.writtenTest?_of_tested element hTest hTested,
    Except.ok.injEq, Option.some.injEq] at hWritten
  rw [← hWritten]
  refine ⟨rfl, rfl, hKept, ?_, ?_, ?_⟩
  · intro b hOther hName
    exact
      List.inj_on_of_nodup_map
        (Attribute.nodup_of_merge hMerge) hOther hKept hName
  · exact
      ⟨setter, hInitializer, hSetters setter (by simp),
        hSetterName, hSetterAccepts⟩
  · exact
      ⟨getter, [live], hBody, hAccessors getter (by simp),
        hGetterName, hGetterAccepts⟩

/-
  The tests that are written for some own attributes, in
  order, exercise those that can be exercised.  By induction
  on the attributes, of which each has a test or none.
-/
theorem Element.forall₂_exercises
    {own : List Attribute}
    {results : List (Option RoundTrip)}
    (hOwn :
      ∀ a ∈ own,
        a ∈ firstOccurrences (·.name) element.attributeList)
    (hResults :
      List.Forall₂
        (fun a result => element.writtenTest? a = .ok result)
        own results) :
    List.Forall₂ (element.Exercises merged declarations)
      (own.filter (·.isRoundTripped))
      (results.filterMap id) := by
  induction hResults with
  | nil => exact .nil
  | @cons a result rest others hFirst hRest ih =>
      have hKept := hOwn a (by simp)
      have hLater :=
        ih fun b hMember => hOwn b (by simp [hMember])
      have hListed : a ∈ element.attributeList ++ parents :=
        List.mem_append_left _
          (mem_of_mem_firstOccurrences hKept)
      rcases hAttributes a hListed with
        ⟨hComplete, hConsistent⟩
      rcases bind_eq_ok_iff.mp hFirst with
        ⟨written, hTest, hResult⟩
      have hShould :=
        Attribute.isRoundTripped_eq hComplete hConsistent
          hTest
      cases written with
      | false =>
          have hNone : none = result := Except.ok.inj hResult
          rw [← hNone, List.filter_cons_of_neg (by
            simp [hShould])]
          exact hLater
      | true =>
          rcases Attribute.exists_tested hComplete
              hConsistent hTest with
            ⟨numbering, sample, hTested⟩
          have hSome :=
            Element.writtenTest?_of_tested element hTest
              hTested
          rw [hFirst, Except.ok.injEq] at hSome
          rw [hSome] at hFirst ⊢
          rw [List.filter_cons_of_pos hShould]
          exact
            .cons
              (Element.exercises_of_hasTest hFilled
                hAttributes hMerged hDone hKept hTest hFirst)
              hLater

/- The tests of an element exercise what can be exercised. -/
theorem Element.roundTrips_exercise
    {tests : List RoundTrip}
    (hTests : element.roundTrips = .ok tests) :
    List.Forall₂ (element.Exercises merged declarations)
      (if element.isTestable then
        (firstOccurrences (·.name)
          element.attributeList).filter (·.isRoundTripped)
      else
        [])
      tests := by
  unfold Element.roundTrips at hTests
  split at hTests
  · next hTestable =>
      rw [Element.merge_own_nil hFilled, ok_bind] at hTests
      rcases bind_eq_ok_iff.mp hTests with
        ⟨results, hResults, hList⟩
      rw [if_pos hTestable, ← Except.ok.inj hList]
      exact
        Element.forall₂_exercises hFilled hAttributes hMerged
          hDone (fun _ hOwn => hOwn)
          (mapM_eq_ok_iff.mp hResults)
  · next hNative =>
      rw [if_neg hNative, ← Except.ok.inj hTests]
      exact .nil

end Exercises

/-
  An element of an accepted catalog that has fragments has one
  test for each own attribute that has accessors and a sample,
  if it can be tested at all, and no other test.  Each test
  exercises its attribute.
-/
theorem Catalog.tests_exercise_accessors
    (catalog : Catalog)
    (element : Element)
    {parents : List (Option Attribute)}
    {fragments : Fragments}
    (hComplete : catalog.Complete)
    (hAccepted : catalog.validate = .ok ())
    (hElement : element ∈ catalog.elementList)
    (hParents : catalog.parentAttributes element = .ok parents)
    (hFragments : element.fragments parents = .ok fragments) :
    ∃ own merged binding,
      Attribute.merge element.attributes [] = .ok own ∧
      (own.map (·.name)).Nodup ∧
      Attribute.merge element.attributes parents
        = .ok merged ∧
      element.binding parents = .ok binding ∧
      fragments = binding.fragments ∧
      List.Forall₂
        (element.Exercises merged binding.toDeclarations)
        (if element.isTestable then
          own.filter (·.isRoundTripped)
        else
          [])
        binding.tests := by
  have hFormed : catalog.WellFormed :=
    (Catalog.validate_decides hComplete).ok_iff.mp hAccepted
  have hFilled :=
    (hComplete.everyElement element hElement).attributes
  rcases Catalog.exists_merged hComplete hFormed hElement
    with ⟨inherited, hInherited, hMerge, hAttributes⟩
  have hSame : inherited.map some = parents := by
    rw [hParents] at hInherited
    exact (Except.ok.inj hInherited).symm
  rw [← hSame] at hFragments ⊢
  rcases map_eq_ok_iff.mp hFragments with
    ⟨binding, hBinding, hText⟩
  rcases bind_eq_ok_iff.mp hBinding with
    ⟨declarations, hDone, hRest⟩
  rcases bind_eq_ok_iff.mp hRest with ⟨tests, hTests, hWhole⟩
  refine
    ⟨_, _, binding, Element.merge_own_nil hFilled,
      nodup_firstOccurrences _ _, hMerge, hBinding,
      hText.symm, ?_⟩
  rw [← Except.ok.inj hWhole]
  exact
    Element.roundTrips_exercise hFilled hAttributes rfl hDone
      hTests

/- An attribute of two ids that holds a number. -/
def cell : Attribute :=
  { sizeNumber "CELL" false with
    format := some .binary
    numbering := some .twoIds }

/- An attribute with one value to choose. -/
def choice
    (name member : String) : Attribute :=
  { sizeNumber name false with
    type := some .string
    format := some .enum
    enumValues :=
      some [some ⟨some member, some member, none⟩] }

/- A number that can only be read. -/
def reading : Attribute :=
  { sizeNumber "COUNT" true with format := some .binary }

/- An element that overrides one attribute and adds two. -/
def grid : Element :=
  { plainBox "Grid"
      [ some cell, some (choice "ALIGN" "Left"),
        some reading ]
      [] with
    bases := some ["cells"] }

/- The catalog of this element, with the attribute it overrides. -/
def gridCatalog : Catalog :=
  ⟨some
    [ some ⟨some "cells",
        some [some (sizeNumber "CELL" false)], some []⟩ ],
    some [some grid]⟩

/- Two of three own attributes are tested, and no other one. -/
theorem grid_is_exercised :
    ∃ merged binding,
      grid.binding [some (sizeNumber "CELL" false)] =
        .ok binding ∧
      List.Forall₂
        (grid.Exercises merged binding.toDeclarations)
        [cell, choice "ALIGN" "Left"] binding.tests := by
  rcases Catalog.tests_exercise_accessors gridCatalog grid
      (by decide) rfl (by decide) rfl rfl with
    ⟨own, merged, binding, hOwn, _, _, hBinding, _, hTests⟩
  have hListed :
      [cell, choice "ALIGN" "Left", reading] = own :=
    Except.ok.inj hOwn
  rw [← hListed] at hTests
  exact ⟨merged, binding, hBinding, hTests⟩

/- An element with a comma in the name of its only member. -/
def splitter : Element :=
  plainBox "Splitter" [some (choice "ALIGN" "Left, Right")] []

/- The catalog of this element. -/
def splitterCatalog : Catalog :=
  ⟨some [], some [some splitter]⟩

/-
  A member is written into the call as it is: one whose name
  has a comma makes two arguments of it, where the setter has
  one parameter behind its receiver.
-/
theorem comma_makes_two_arguments :
    splitterCatalog.Complete ∧
      splitterCatalog.validate = .ok () ∧
      splitterCatalog.elementList = [splitter] ∧
      splitterCatalog.parentAttributes splitter = .ok [] ∧
      ∃ binding test setter,
        splitter.fragments [] = .ok binding.fragments ∧
        splitter.binding [] = .ok binding ∧
        binding.tests = [test] ∧
        binding.initializer = [setter] ∧
        setter.name = "set" ++ test.subject ∧
        setter.params =
          [selfParam .initializer, ⟨"arg", "?ALIGN"⟩] ∧
        argumentCount
          (Text.joinWith ", "
            (setter.params.map Param.render)) = 1 + 1 ∧
        Text.joinWith ", " test.setterArguments
          = ".Left, Right" ∧
        argumentCount
          (Text.joinWith ", " test.setterArguments) = 2 :=
  ⟨by decide, rfl, rfl, rfl, _, _, _, rfl, rfl, rfl, rfl, rfl,
    rfl, by decide, rfl, by decide⟩

end ElementBindings
