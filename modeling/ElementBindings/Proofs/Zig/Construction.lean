import ElementBindings.Proofs.Zig.Counting

/-
  Tests that create their element.

  Every test starts with a call of the constructor, without
  arguments.  An element declares one constructor: that of an
  image has three parameters, that of any other element none.
  Images are told by their native kind where the constructor
  is chosen, but by their class name where elements without
  tests are chosen.  So a test may call the constructor of an
  image, which it does not fit.

  Key definitions include:
    * `Zig.FunctionDecl.IsInit`
    * `Zig.RoundTrip.Creates`

  Key theorems include:
    * `Element.filter_bodyOperations`
    * `Element.roundTrips_ne_nil_iff`
    * `Element.constructor_of_tests`
-/

namespace ElementBindings

open Zig

------------------------------------------------------------
-- Constructors
------------------------------------------------------------

/- A function has the name that tests call. -/
def Zig.FunctionDecl.isInit
    (function : FunctionDecl) : Bool :=
  function.name = "init"

/- The constructor of a kind has this name. -/
theorem Zig.isInit_initOf
    (kind : Option NativeType) :
    (initOf kind).isInit := by
  unfold initOf
  split <;> rfl

/- Only the constructor of an image has parameters. -/
theorem Zig.params_initOf
    (kind : Option NativeType) :
    (initOf kind).params.map Param.render =
      if kind = some .image then
        ["width: i32", "height: i32", "imgdata: ?[]const u8"]
      else
        [] := by
  unfold initOf
  split <;> decide

/- Functions that are only declared on a condition. -/
theorem Zig.filter_isInit_when
    {condition : Prop}
    [Decidable condition]
    {functions : List FunctionDecl}
    (hNone : functions.filter FunctionDecl.isInit = []) :
    (if condition then functions else []).filter
        FunctionDecl.isInit = [] := by
  split
  · exact hNone
  · rfl

/- An element declares the constructor of its kind, once. -/
theorem Element.filter_bodyOperations
    (element : Element) :
    element.bodyOperations.filter FunctionDecl.isInit =
      [initOf element.nativeType] := by
  have hInit :
      [initOf element.nativeType].filter FunctionDecl.isInit =
        [initOf element.nativeType] :=
    List.filter_cons_of_pos (isInit_initOf element.nativeType)
  have hMessages :
      (if element.isOfClass ["messagedlg"] then
          [alert, confirm]
        else []).filter FunctionDecl.isInit = [] :=
    filter_isInit_when rfl
  have hDialog :
      (if element.nativeType = some .dialog then
          showXY ::
            (if element.isOfClass ["messagedlg"] then
              [alert, confirm]
            else [])
        else [getDialog]).filter FunctionDecl.isInit = [] := by
    split
    · rw [List.filter_cons_of_neg (by decide), hMessages]
    · rfl
  unfold Element.bodyOperations
  simp only [List.filter_append, hInit, hDialog]
  rw [filter_isInit_when rfl, filter_isInit_when rfl,
    filter_isInit_when rfl, filter_isInit_when rfl]
  rfl

------------------------------------------------------------
-- Calls
------------------------------------------------------------

/- Every line stands in the block that it is a line of. -/
theorem Zig.infix_block
    {line : String}
    {body : List String}
    (header : String)
    (hMember : line ∈ body) :
    line.toList <:+: (block header body).toList := by
  have hIndented :
      line.toList <:+: (indentLine line).toList := by
    unfold indentLine
    split
    · next hEmpty =>
        subst hEmpty
        exact List.infix_rfl
    · rw [String.toList_append]
      exact (List.suffix_append _ _).isInfix
  refine hIndented.trans (Text.infix_joinWith ?_)
  simp only [List.mem_cons, List.mem_append, List.mem_map]
  exact .inl (.inr ⟨line, hMember, rfl⟩)

/-
  The call that a test sets its attribute with: the element is
  created without arguments.
-/
def Zig.RoundTrip.creation
    (test : RoundTrip) : String :=
  "iup." ++ test.element ++ ".init().set" ++ test.subject
    ++ "("

/- Every test has this call. -/
theorem Zig.RoundTrip.infix_render
    (test : RoundTrip) :
    test.creation.toList <:+: test.render.toList := by
  have hStart :
      "var item = try (iup." = "var item = try (" ++ "iup." :=
    rfl
  have hLine :
      "var item = try (iup." ++ test.element ++ ".init().set"
          ++ test.subject ++ "("
          ++ Text.joinWith ", " test.setterArguments
          ++ ").unwrap());" =
        "var item = try (" ++ test.creation
          ++ (Text.joinWith ", " test.setterArguments
            ++ ").unwrap());") := by
    rw [hStart]
    simp only [creation, String.append_assoc]
  have hInfix :
      test.creation.toList <:+:
        ("var item = try (" ++ test.creation
          ++ (Text.joinWith ", " test.setterArguments
            ++ ").unwrap());")).toList := by
    rw [String.toList_append, String.toList_append]
    exact List.infix_append _ _ _
  rw [← hLine] at hInfix
  exact hInfix.trans (infix_block _ (by simp))

------------------------------------------------------------
-- Tests
------------------------------------------------------------

variable {element : Element}
variable {tests : List RoundTrip}

/- A test is written for the element that it is a test of. -/
theorem Element.element_of_writtenTest?
    {a : Attribute}
    {test : RoundTrip}
    (hWritten : element.writtenTest? a = .ok (some test)) :
    test.element = shownName element.name := by
  rcases bind_eq_ok_iff.mp hWritten with
    ⟨written, _, hRest⟩
  cases written with
  | false => cases hRest
  | true =>
      rcases bind_eq_ok_iff.mp hRest with
        ⟨sample?, _, hTest⟩
      cases sample? with
      | none => cases hTest
      | some sample =>
          rcases bind_eq_ok_iff.mp hTest with
            ⟨numbering, _, hSame⟩
          have hPair := Option.some.inj (Except.ok.inj hSame)
          rw [← hPair]

/- An element has tests, or it cannot be tested at all. -/
theorem Element.cases_of_roundTrips
    (hTests : element.roundTrips = .ok tests) :
    (element.isTestable = false ∧ tests = []) ∨
      element.isTestable = true ∧
        ∃ own results,
          Attribute.merge element.attributes [] = .ok own ∧
            own.mapM element.writtenTest? = .ok results ∧
            tests = results.filterMap id := by
  unfold Element.roundTrips at hTests
  split at hTests
  · next hTestable =>
      rcases bind_eq_ok_iff.mp hTests with ⟨own, hOwn, hRest⟩
      rcases bind_eq_ok_iff.mp hRest with
        ⟨results, hResults, hList⟩
      exact
        .inr
          ⟨hTestable, own, results, hOwn, hResults,
            (Except.ok.inj hList).symm⟩
  · next hNative =>
      exact
        .inl
          ⟨Bool.eq_false_iff.mpr hNative,
            (Except.ok.inj hTests).symm⟩

/- All tests of an element are written for it. -/
theorem Element.element_of_mem_roundTrips
    {test : RoundTrip}
    (hTests : element.roundTrips = .ok tests)
    (hMember : test ∈ tests) :
    test.element = shownName element.name := by
  rcases Element.cases_of_roundTrips hTests with
    ⟨_, rfl⟩ | ⟨_, own, results, _, hResults, rfl⟩
  · cases hMember
  · have hSome : some test ∈ results := by
      simpa using hMember
    rcases exists_of_mem_mapM hResults hSome with
      ⟨a, _, hWritten⟩
    exact Element.element_of_writtenTest? hWritten

/-
  There are tests exactly if the element can be tested and one
  of its own attributes has a test.
-/
theorem Element.roundTrips_ne_nil_iff
    (hTests : element.roundTrips = .ok tests) :
    tests ≠ [] ↔
      element.isTestable ∧
        ∃ own, Attribute.merge element.attributes [] = .ok own ∧
          ∃ a ∈ own, a.hasTest = .ok true := by
  rcases Element.cases_of_roundTrips hTests with
    ⟨hNative, rfl⟩ |
      ⟨hTestable, own, results, hOwn, hResults, rfl⟩
  · simp [hNative]
  · constructor
    · intro hSome
      rcases List.exists_mem_of_ne_nil _ hSome with
        ⟨test, hMember⟩
      have hResult : some test ∈ results := by
        simpa using hMember
      rcases exists_of_mem_mapM hResults hResult with
        ⟨a, hAttribute, hWritten⟩
      exact
        ⟨hTestable, own, hOwn, a, hAttribute,
          Element.hasTest_of_writtenTest? hWritten⟩
    · rintro ⟨_, others, hOthers, a, hAttribute, hTest⟩
      rw [hOwn] at hOthers
      rw [← Except.ok.inj hOthers] at hAttribute
      rcases exists_value_of_mapM hResults hAttribute with
        ⟨result, hWritten⟩
      have hSome : result.isSome := by
        have hSame :=
          (Element.hasTest_of_writtenTest? hWritten).symm
        rw [hTest] at hSame
        exact Except.ok.inj hSame
      rcases Option.isSome_iff_exists.mp hSome with
        ⟨test, rfl⟩
      have hMember : test ∈ results.filterMap id := by
        simpa using mem_of_mapM hResults hAttribute hWritten
      exact List.ne_nil_of_mem hMember

/-
  An element declares one constructor.  All tests call it
  without arguments, while it has no parameters exactly if the
  element is no image.  But there are tests of an image, too,
  if its class name is none of those that are left out and an
  own attribute of it has a test.
-/
theorem Element.constructor_of_tests
    (hTests : element.roundTrips = .ok tests) :
    ∃ init,
      element.bodyOperations.filter FunctionDecl.isInit
          = [init] ∧
        (∀ test ∈ tests,
          test.element = shownName element.name ∧
            test.creation.toList <:+: test.render.toList) ∧
        (init.params = [] ↔
          element.nativeType ≠ some .image) ∧
        (element.nativeType = some .image →
          init.params.map Param.render =
            [ "width: i32", "height: i32",
              "imgdata: ?[]const u8" ]) ∧
        (tests ≠ [] ↔
          element.isTestable ∧
            ∃ own,
              Attribute.merge element.attributes [] = .ok own ∧
                ∃ a ∈ own, a.hasTest = .ok true) := by
  have hParams := params_initOf element.nativeType
  refine
    ⟨initOf element.nativeType,
      Element.filter_bodyOperations element, ?_, ?_, ?_,
      Element.roundTrips_ne_nil_iff hTests⟩
  · intro test hMember
    exact
      ⟨Element.element_of_mem_roundTrips hTests hMember,
        test.infix_render⟩
  · rw [← List.map_eq_nil_iff, hParams]
    split
    · next hImage => simp [hImage]
    · next hOther => simp [hOther]
  · intro hImage
    rw [hParams, if_pos hImage]

/- A number that is called HOT. -/
def hot : Attribute :=
  { sizeNumber "HOT" false with format := some .binary }

/- An element with this number. -/
def stove : Element :=
  plainBox "Stove" [some hot] []

/- The test of the number can create the element. -/
theorem stove_is_constructed :
    ∃ test init,
      stove.roundTrips = .ok [test] ∧
        stove.bodyOperations.filter FunctionDecl.isInit
          = [init] ∧
        test.creation = "iup.Stove.init().setHOT(" ∧
        test.creation.toList <:+: test.render.toList ∧
        init.params = [] := by
  have hTests :
      stove.roundTrips =
        .ok [⟨"Stove", "HOT", ["42"], [], "ret == 42"⟩] := rfl
  rcases Element.constructor_of_tests hTests with
    ⟨init, hInit, hCalls, hParams, _, _⟩
  exact
    ⟨_, init, hTests, hInit, rfl, (hCalls _ (by simp)).2,
      hParams.mpr (by decide)⟩

/- An image with this number, and a class name of its own. -/
def icon : Element :=
  { plainBox "Icon" [some hot] [] with
    className := some "icon"
    nativeType := some .image }

/- The text of a catalog with this image. -/
def iconText : String :=
  elementsText
    [ recordText
        [ fieldText "name" (quotedText "Icon"),
          fieldText "class_name" (quotedText "icon"),
          fieldText "native_type" (quotedText "Image"),
          fieldText "attributes"
            (listText [attributeText "HOT" "Int" "Binary" []]) ] ]

set_option maxRecDepth 4000 in
/-
  The catalog is accepted, and the image has a test, which
  calls its constructor without arguments.
-/
theorem icon_is_not_constructed :
    Catalog.load iconText = .ok ⟨some [], some [some icon]⟩ ∧
      ∃ test init,
        icon.roundTrips = .ok [test] ∧
          renderRoundTrips [test] ≠ "" ∧
          test.creation = "iup.Icon.init().setHOT(" ∧
          icon.bodyOperations.filter FunctionDecl.isInit
            = [init] ∧
          init.params.map Param.render =
            [ "width: i32", "height: i32",
              "imgdata: ?[]const u8" ] := by
  constructor
  · rw [Catalog.load_eq_ok_iff]
    simp only [iconText, elementsText, attributeText,
      recordText, listText, fieldText, quotedText,
      Text.joinWith, String.toList_append, List.cons_append,
      String.reduceToList, List.nil_append]
    exact ⟨_, rfl, by decide, by decide⟩
  · refine
      ⟨⟨"Icon", "HOT", ["42"], [], "ret == 42"⟩, initImage, rfl,
        ?_, rfl, Element.filter_bodyOperations icon, by decide⟩
    decide

end ElementBindings
