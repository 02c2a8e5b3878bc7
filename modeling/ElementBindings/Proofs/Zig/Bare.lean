import ElementBindings.Proofs.Zig.Counting
import ElementBindings.Proofs.Zig.Neutral

/-
  Declarations of bare data.

  If no name, key or value of an attribute or a callback holds
  a bracket or a line boundary, all that is declared for it has
  neutral parts.  Every bracket is then one that a rule writes,
  and every rule closes the brackets that it opens.

  Key definitions include:
    * `Attribute.IsBare`, `Callback.IsBare`, `Element.IsBare`

  Key theorems include:
    * `Attribute.neutral_setterForms`
    * `Attribute.neutral_getterForm?`
    * `Zig.neutral_functionBlock`
    * `Element.IsBare.neutral_roundTrips`
-/

namespace ElementBindings

open Text Zig

------------------------------------------------------------
-- Bare Data
------------------------------------------------------------

/- A text that may be null is bare if it is there. -/
def Text.IsBareName
    (name : Option String) : Prop :=
  ∀ s ∈ name, IsBare s

instance (name : Option String) :
    Decidable (IsBareName name) :=
  match name with
  | none => .isTrue fun _ hSome => nomatch hSome
  | some s =>
      decidable_of_iff (Text.IsBare s)
        ⟨fun hBare _ hSome => Option.some.inj hSome ▸ hBare,
          fun hBare => hBare s rfl⟩

/- A value with a bare name and a bare text. -/
structure EnumValue.IsBare
    (value : EnumValue) : Prop where
  name : IsBareName value.name
  text : IsBareName value.text

instance (value : EnumValue) : Decidable value.IsBare :=
  decidable_of_iff
    (IsBareName value.name ∧ IsBareName value.text)
    ⟨fun ⟨hName, hText⟩ => ⟨hName, hText⟩,
      fun ⟨hName, hText⟩ => ⟨hName, hText⟩⟩

/- An attribute whose texts, documentation apart, are bare. -/
structure Attribute.IsBare
    (a : Attribute) : Prop where
  name : IsBareName a.name
  key : IsBareName a.key
  values : ∀ value ∈ present a.enumValues, value.IsBare
  handle : IsBareName (a.handle.bind (·.elementName))

instance (a : Attribute) : Decidable a.IsBare :=
  decidable_of_iff
    (IsBareName a.name ∧ IsBareName a.key ∧
      (∀ value ∈ present a.enumValues, value.IsBare) ∧
      IsBareName (a.handle.bind (·.elementName)))
    ⟨fun ⟨hName, hKey, hValues, hHandle⟩ =>
      ⟨hName, hKey, hValues, hHandle⟩,
      fun ⟨hName, hKey, hValues, hHandle⟩ =>
        ⟨hName, hKey, hValues, hHandle⟩⟩

/- A callback whose texts, documentation apart, are bare. -/
structure Callback.IsBare
    (callback : Callback) : Prop where
  name : IsBareName callback.name
  key : IsBareName callback.key

instance (callback : Callback) : Decidable callback.IsBare :=
  decidable_of_iff
    (IsBareName callback.name ∧ IsBareName callback.key)
    ⟨fun ⟨hName, hKey⟩ => ⟨hName, hKey⟩,
      fun ⟨hName, hKey⟩ => ⟨hName, hKey⟩⟩

/- An element whose texts, documentation apart, are bare. -/
structure Element.IsBare
    (element : Element) : Prop where
  name : IsBareName element.name
  className : IsBareName element.className
  attributes : ∀ a ∈ element.attributeList, a.IsBare
  callbacks : ∀ c ∈ element.callbackList, c.IsBare

instance (element : Element) : Decidable element.IsBare :=
  decidable_of_iff
    (IsBareName element.name ∧ IsBareName element.className ∧
      (∀ a ∈ element.attributeList, a.IsBare) ∧
      ∀ c ∈ element.callbackList, c.IsBare)
    ⟨fun ⟨hName, hClass, hAttributes, hCallbacks⟩ =>
      ⟨hName, hClass, hAttributes, hCallbacks⟩,
      fun ⟨hName, hClass, hAttributes, hCallbacks⟩ =>
        ⟨hName, hClass, hAttributes, hCallbacks⟩⟩

namespace Text

/- A bare name is neutral where it is shown, as null is. -/
theorem IsBareName.isNeutral
    {name : Option String}
    (hBare : IsBareName name) :
    IsNeutral (shownName name) := by
  cases name with
  | none => exact isNeutral_of_chars rfl
  | some s => exact (hBare s rfl).isNeutral

/- The code points of brackets and of line boundaries. -/
def specialRanges : List (Nat × Nat) :=
  [ (0x0028, 0x0029), (0x005B, 0x005B), (0x005D, 0x005D),
    (0x007B, 0x007B), (0x007D, 0x007D) ] ++ lineBoundaryRanges

/- A character that is not bare lies in them. -/
theorem inRanges_of_not_isBare
    {c : Char}
    (hSpecial : ¬ isBare c) :
    inRanges specialRanges c.toNat := by
  unfold inRanges specialRanges
  rw [List.any_append, Bool.or_eq_true]
  simp only [isBare, Bool.and_eq_true, Bool.not_eq_true']
    at hSpecial
  by_cases hBracket : isBracket c
  · left
    have hMember := mem_of_isBracket hBracket
    simp only [List.mem_cons, List.not_mem_nil, or_false]
      at hMember
    rcases hMember with rfl | rfl | rfl | rfl | rfl | rfl
    all_goals decide
  · right
    by_contra hInside
    apply hSpecial
    exact
      ⟨Bool.eq_false_iff.mpr hBracket,
        Bool.eq_false_iff.mpr hInside⟩

/- No case adds such a character to a name. -/
theorem isForeign_of_not_isBare
    {c : Char}
    (hSpecial : ¬ isBare c) :
    Naming.IsForeign c := by
  have hInside := inRanges_of_not_isBare hSpecial
  constructor
  · exact isUnreached_of_avoid (by decide) hInside
  · exact isUnreached_of_avoid (by decide) hInside
  · rintro rfl
    exact hSpecial (by decide)
  · rintro rfl
    exact hSpecial (by decide)

/- So the camel case of a bare name is bare. -/
theorem IsBare.camelCase
    {name : String}
    (hBare : IsBare name) :
    IsBare (Naming.camelCase name) := by
  intro c hChar
  by_contra hSpecial
  have hForeign := isForeign_of_not_isBare hSpecial
  exact
    hSpecial (hBare c (hForeign.mem_of_mem_camelCase hChar))

end Text

------------------------------------------------------------
-- Forms of Setters
------------------------------------------------------------

namespace Zig

variable {context : Context}
variable {key : Key}
variable {type : String}
variable {values : List EnumValue}

/- A form of neutral parts. -/
structure SetterForm.HasNeutralParts
    (form : SetterForm) : Prop where
  suffix : IsNeutral form.suffix
  params : ∀ param ∈ form.params, param.HasNeutralParts
  body : ∀ statement ∈ form.body, statement.HasNeutralParts

/- So has one that only has parameters and a body. -/
theorem neutral_plain
    {params : List Param}
    {body : List Statement}
    (hParams : ∀ param ∈ params, param.HasNeutralParts)
    (hBody : ∀ statement ∈ body, statement.HasNeutralParts) :
    (SetterForm.plain params body).HasNeutralParts :=
  ⟨isNeutral_of_chars rfl, hParams, hBody⟩

/- One parameter and one statement. -/
theorem neutral_plain_singleton
    {name : String}
    {statement : Statement}
    (hName : IsNeutral name)
    (hType : IsNeutral type)
    (hStatement : statement.HasNeutralParts) :
    (SetterForm.plain [⟨name, type⟩]
      [statement]).HasNeutralParts := by
  apply neutral_plain
  · simp only [List.forall_mem_singleton]
    exact ⟨hName, hType⟩
  · simp only [List.forall_mem_singleton]
    exact hStatement

section Keyed

variable (hKey : IsNeutral key.name)

include hKey

/- A call that stores one argument. -/
theorem neutral_storeCall
    (context : Context)
    {function argument : String}
    (hFunction : IsNeutral function)
    (hArgument : IsNeutral argument) :
    (storeCall context key function
      [argument]).HasNeutralParts :=
  ⟨hFunction, hKey, by simpa [storeCall] using hArgument⟩

/- A call that removes the attribute. -/
theorem neutral_clearCall
    (context : Context) :
    (clearCall context key).HasNeutralParts :=
  ⟨isNeutral_of_chars rfl, hKey,
    by simp [clearCall, storeCall]⟩

/- A statement that stores a string. -/
theorem neutral_storeString
    (context : Context)
    {value : String}
    (hValue : IsNeutral value) :
    (storeString context key value).HasNeutralParts :=
  neutral_storeCall hKey context (isNeutral_of_chars rfl) hValue

/- One argument of a neutral type. -/
theorem neutral_scalarForm
    {function : String}
    (hType : IsNeutral type)
    (hFunction : IsNeutral function) :
    (scalarForm context key type function).HasNeutralParts :=
  neutral_plain_singleton (isNeutral_of_chars rfl)
    hType
    (neutral_storeCall hKey context hFunction
      (isNeutral_of_chars rfl))

/- Parameters that are laid out as one text. -/
theorem neutral_encodedForm
    {params : List Param}
    {function : String}
    {separator : Option Char}
    (hParams : ∀ param ∈ params, param.HasNeutralParts)
    (hFunction : IsNeutral function)
    (hSeparator : IsBareSeparator separator) :
    (encodedForm context key params function
      separator).HasNeutralParts := by
  apply neutral_plain hParams
  simp only [List.forall_mem_cons, List.not_mem_nil,
    false_implies, implies_true, and_true]
  refine ⟨trivial, ⟨hFunction, ?_, hSeparator⟩, ?_⟩
  · intro text hText
    rcases List.mem_map.mp hText with ⟨param, hParam, rfl⟩
    exact (hParams param hParam).name
  · exact
      neutral_storeString hKey context (isNeutral_of_chars rfl)

/- Two such parameters. -/
theorem neutral_pairForm
    {first firstType second secondType function : String}
    {separator : Option Char}
    (hFirst : IsNeutral first)
    (hFirstType : IsNeutral firstType)
    (hSecond : IsNeutral second)
    (hSecondType : IsNeutral secondType)
    (hFunction : IsNeutral function)
    (hSeparator : IsBareSeparator separator) :
    (encodedForm context key
      [⟨first, firstType⟩, ⟨second, secondType⟩] function
      separator).HasNeutralParts := by
  apply neutral_encodedForm hKey _ hFunction hSeparator
  simp only [List.forall_mem_cons, List.not_mem_nil,
    false_implies, implies_true, and_true]
  exact ⟨⟨hFirst, hFirstType⟩, ⟨hSecond, hSecondType⟩⟩

/- A pointer of any type. -/
theorem neutral_pointerForm :
    (pointerForm context key).HasNeutralParts := by
  constructor
  · exact isNeutral_of_chars rfl
  · simp only [pointerForm, List.forall_mem_singleton]
    exact ⟨isNeutral_of_chars rfl, isNeutral_of_chars rfl⟩
  · simp only [pointerForm, List.forall_mem_singleton]
    exact
      ⟨isNeutral_of_chars rfl, hKey,
        by simpa using isNeutral_of_chars rfl⟩

/- A handle of any kind, if the known element is neutral. -/
theorem neutral_handleForm
    {kind : HandleKind}
    (hKnown : ∀ name, kind = .known name → IsNeutral name) :
    (handleForm context key kind).HasNeutralParts := by
  have hArg : IsNeutral "arg" := isNeutral_of_chars rfl
  have hAny : IsNeutral "anytype" := isNeutral_of_chars rfl
  have hAssign :=
    neutral_storeCall hKey context
      (isNeutral_of_chars rfl :
        IsNeutral "setHandleAttribute") hArg
  cases kind with
  | known name =>
      have hType : IsNeutral ("*iup." ++ name) :=
        IsNeutral.append (isNeutral_of_chars rfl)
          (hKnown name rfl)
      exact neutral_plain_singleton hArg hType hAssign
  | unchecked => exact neutral_plain_singleton hArg hAny hAssign
  | validated nativeType =>
      cases context with
      | initializer =>
          exact neutral_plain_singleton hArg hAny hAssign
      | live =>
          constructor
          · exact isNeutral_of_chars rfl
          · simp only [handleForm, List.forall_mem_singleton]
            exact ⟨hArg, hAny⟩
          · simp only [handleForm, List.forall_mem_cons,
              List.not_mem_nil, false_implies, implies_true,
              and_true]
            exact ⟨trivial, hAssign⟩

/- A handle by the name of its element. -/
theorem neutral_handleNameForm :
    (handleNameForm context key).HasNeutralParts := by
  constructor
  · exact isNeutral_of_chars rfl
  · simp only [handleNameForm, List.forall_mem_singleton]
    exact ⟨isNeutral_of_chars rfl, isNeutral_of_chars rfl⟩
  · simp only [handleNameForm, List.forall_mem_singleton]
    exact
      neutral_storeString hKey context (isNeutral_of_chars rfl)

/- The three parts of a date. -/
theorem neutral_dateForm :
    (dateForm context key).HasNeutralParts := by
  apply neutral_plain
  · simp only [List.forall_mem_cons, List.not_mem_nil,
      false_implies, implies_true, and_true]
    exact
      ⟨⟨isNeutral_of_chars rfl, isNeutral_of_chars rfl⟩,
        ⟨isNeutral_of_chars rfl, isNeutral_of_chars rfl⟩,
        ⟨isNeutral_of_chars rfl, isNeutral_of_chars rfl⟩⟩
  · simp only [List.forall_mem_cons, List.not_mem_nil,
      false_implies, implies_true, and_true]
    exact
      ⟨trivial, trivial,
        neutral_storeString hKey context (isNeutral_of_chars rfl)⟩

/- A color. -/
theorem neutral_rgbForm :
    (rgbForm context key).HasNeutralParts :=
  neutral_plain_singleton (isNeutral_of_chars rfl)
    (isNeutral_of_chars rfl)
    (neutral_storeCall hKey context (isNeutral_of_chars rfl)
      (isNeutral_of_chars rfl))

/- A member by its number, or nothing. -/
theorem neutral_enumIntForm
    (hType : IsNeutral type) :
    (enumIntForm context key type).HasNeutralParts :=
  neutral_plain_singleton (isNeutral_of_chars rfl)
    (IsNeutral.append (isNeutral_of_chars rfl) hType)
    ⟨neutral_storeCall hKey context
        (isNeutral_of_chars rfl)
        (isNeutral_of_chars rfl),
      neutral_clearCall hKey context⟩

/- A switch over values with bare names and texts. -/
theorem neutral_enumStringForm
    (hType : IsNeutral type)
    (hValues : ∀ value ∈ values, value.IsBare) :
    (enumStringForm context key type
      values).HasNeutralParts := by
  apply
    neutral_plain_singleton (isNeutral_of_chars rfl)
      (IsNeutral.append (isNeutral_of_chars rfl) hType)
  refine ⟨?_, neutral_clearCall hKey context⟩
  intro branch hBranch
  rcases List.mem_map.mp hBranch with ⟨value, hValue, rfl⟩
  have hBare := hValues value hValue
  exact
    ⟨hBare.name.isNeutral,
      neutral_storeCall hKey context (isNeutral_of_chars rfl)
        (isNeutral_stringLiteral hBare.text.isNeutral)⟩

end Keyed

end Zig

------------------------------------------------------------
-- Setters
------------------------------------------------------------

namespace Attribute

variable {a : Attribute}
variable {rule : Rule}
variable {context : Context}

/- The values that forms tell apart are bare. -/
theorem IsBare.formValues
    (hBare : a.IsBare)
    {values : List EnumValue}
    (hValues : a.formValues rule = .ok values) :
    ∀ value ∈ values, value.IsBare := by
  intro value hValue
  exact
    hBare.values value (mem_present_of_formValues hValues hValue)

/- The separator of a format is a comma or a colon. -/
theorem isBareSeparator_of_formSeparator
    {separator : Option Char}
    (hSeparator : a.formSeparator rule = .ok separator) :
    IsBareSeparator separator := by
  have hFormat :
      ∀ format c,
        DataFormat.separator? format = some c → isBare c := by
    intro format c hChar
    cases format
    all_goals cases hChar
    all_goals decide
  have hFound :
      ∀ c, a.separator = .ok c → isBare c := by
    intro c hChar
    unfold Attribute.separator at hChar
    split at hChar
    · next d hSome =>
        rcases Option.bind_eq_some_iff.mp hSome with
          ⟨format, _, hThere⟩
        rw [← Except.ok.inj hChar]
        exact hFormat format d hThere
    · cases hChar
  intro c hMember
  cases rule with
  | linColPos | xyPos | range =>
      rcases map_eq_ok_iff.mp hSeparator with ⟨d, hChar, rfl⟩
      cases hMember
      exact hFound c hChar
  | _ =>
      cases hSeparator
      cases hMember

/- The key of a bare attribute is neutral. -/
theorem IsBare.boundKey
    (hBare : a.IsBare)
    {key : Key}
    (hKey : a.boundKey = .ok key) :
    IsNeutral key.name := by
  rcases bind_eq_ok_iff.mp hKey with ⟨numbering, _, hRest⟩
  rw [← Except.ok.inj hRest]
  exact hBare.key.isNeutral

/- A known target of its handle is neutral. -/
theorem IsBare.handleKind
    (hBare : a.IsBare)
    (name : String)
    (hKnown : a.handleKind = .known name) :
    IsNeutral name :=
  (hBare.handle name (elementName_of_known hKnown)).isNeutral

/- Every form of a setter of a bare attribute is neutral. -/
theorem neutral_setterForms
    (hBare : a.IsBare)
    {forms : List SetterForm}
    (hForms : a.setterForms context rule = .ok forms) :
    ∀ form ∈ forms, form.HasNeutralParts := by
  rcases exists_parts_of_setterForms hForms with
    ⟨values, separator, key, hValues, hSeparator, hFound⟩
  have hKey := hBare.boundKey hFound
  have hType := hBare.name.isNeutral
  intro form hForm
  cases (setterForms_spec hValues hSeparator hFound hForms).1
      form hForm with
  | scalar hScalar =>
      cases rule <;> cases hScalar
      all_goals
        exact
          neutral_scalarForm hKey (isNeutral_of_chars rfl)
            (isNeutral_of_chars rfl)
  | pair hPair =>
      cases rule <;> cases hPair
      all_goals
        exact
          neutral_pairForm hKey (isNeutral_of_chars rfl)
            (isNeutral_of_chars rfl)
            (isNeutral_of_chars rfl)
            (isNeutral_of_chars rfl)
            (isNeutral_of_chars rfl)
            (isBareSeparator_of_formSeparator hSeparator)
  | pointer => exact neutral_pointerForm hKey
  | handle => exact neutral_handleForm hKey hBare.handleKind
  | handleName => exact neutral_handleNameForm hKey
  | void =>
      apply neutral_plain
      · simp
      · rw [List.forall_mem_singleton]
        exact
          neutral_storeString hKey context
            (isNeutral_of_chars rfl)
  | date => exact neutral_dateForm hKey
  | rgb => exact neutral_rgbForm hKey
  | enumInt => exact neutral_enumIntForm hKey hType
  | enumString =>
      exact
        neutral_enumStringForm hKey hType
          (hBare.formValues hValues)

end Attribute

------------------------------------------------------------
-- Forms of Getters
------------------------------------------------------------

namespace Zig

variable {context : Context}
variable {key : Key}
variable {type : String}

/- A form of neutral parts. -/
structure GetterForm.HasNeutralParts
    (form : GetterForm) : Prop where
  result : IsNeutral form.result
  body : ∀ statement ∈ form.body, statement.HasNeutralParts

section Keyed

variable (hKey : IsNeutral key.name)

include hKey

/- A call that reads the attribute. -/
theorem neutral_fetchCall
    {function : String}
    (hFunction : IsNeutral function) :
    (fetchCall key function).HasNeutralParts :=
  ⟨hFunction, hKey, by simp [fetchCall]⟩

/- A call whose result is returned. -/
theorem neutral_fetchForm
    {result function : String}
    (hResult : IsNeutral result)
    (hFunction : IsNeutral function) :
    (fetchForm key result function).HasNeutralParts := by
  refine ⟨hResult, ?_⟩
  simp only [fetchForm, List.forall_mem_singleton]
  exact neutral_fetchCall hKey hFunction

/- A string that is parsed. -/
theorem neutral_parsedForm
    {result : String}
    {separator : Option Char}
    (hResult : IsNeutral result)
    (hType : IsNeutral type)
    (hSeparator : IsBareSeparator separator) :
    (parsedForm key result type separator).HasNeutralParts := by
  refine ⟨hResult, ?_⟩
  simp only [parsedForm, List.forall_mem_cons, List.not_mem_nil,
    false_implies, implies_true, and_true]
  exact
    ⟨⟨isNeutral_of_chars rfl,
        neutral_fetchCall hKey (isNeutral_of_chars rfl)⟩,
      ⟨hType, hSeparator⟩⟩

/- A pointer of any type. -/
theorem neutral_fetchPointerForm :
    (fetchPointerForm key).HasNeutralParts := by
  refine ⟨isNeutral_of_chars rfl, ?_⟩
  simp only [fetchPointerForm, List.forall_mem_singleton]
  exact ⟨isNeutral_of_chars rfl, hKey, by simp⟩

/- The cast to a known element closes its parenthesis. -/
theorem neutral_fetchHandleForm
    {kind : HandleKind}
    (hKnown : ∀ name, kind = .known name → IsNeutral name) :
    (fetchHandleForm key kind).HasNeutralParts := by
  have hCall :
      (fetchCall key "getHandleAttribute").HasNeutralParts :=
    neutral_fetchCall hKey (isNeutral_of_chars rfl)
  have hElement :
      GetterForm.HasNeutralParts
        ⟨false, "?iup.Element",
          [.ifHandleFound (fetchCall key "getHandleAttribute")
            "iup.Element.fromHandle(handle)"]⟩ := by
    refine ⟨isNeutral_of_chars rfl, ?_⟩
    rw [List.forall_mem_singleton]
    exact ⟨hCall, isNeutral_of_chars rfl⟩
  cases kind with
  | known name =>
      have hName := hKnown name rfl
      constructor
      · exact
          IsNeutral.append (isNeutral_of_chars rfl)
            hName
      · simp only [fetchHandleForm, List.forall_mem_singleton]
        exact ⟨hCall, isNeutral_around rfl hName⟩
  | validated nativeType => exact hElement
  | unchecked => exact hElement

/- A member that a number is turned into. -/
theorem neutral_fetchEnumIntForm
    (hType : IsNeutral type) :
    (fetchEnumIntForm key type).HasNeutralParts := by
  refine ⟨hType, ?_⟩
  simp only [fetchEnumIntForm, List.forall_mem_cons,
    List.not_mem_nil, false_implies, implies_true, and_true]
  exact
    ⟨⟨isNeutral_of_chars rfl,
        neutral_fetchCall hKey (isNeutral_of_chars rfl)⟩,
      hType⟩

/- Comparisons with values of bare names and texts. -/
theorem neutral_fetchEnumStringForm
    {values : List EnumValue}
    (hType : IsNeutral type)
    (hValues : ∀ value ∈ values, value.IsBare) :
    (fetchEnumStringForm key type values).HasNeutralParts := by
  constructor
  · exact IsNeutral.append (isNeutral_of_chars rfl) hType
  · simp only [fetchEnumStringForm, List.forall_mem_append,
      List.forall_mem_cons, List.not_mem_nil, false_implies,
      implies_true, and_true]
    refine
      ⟨⟨⟨isNeutral_of_chars rfl,
        neutral_fetchCall hKey
          (isNeutral_of_chars rfl)⟩, ?_⟩, trivial⟩
    intro statement hStatement
    rcases List.mem_map.mp hStatement with
      ⟨value, hValue, rfl⟩
    have hBare := hValues value hValue
    exact ⟨hBare.text.isNeutral, hBare.name.isNeutral⟩

end Keyed

end Zig

/- The form of the getter of a bare attribute is neutral. -/
theorem Attribute.neutral_getterForm?
    {a : Attribute}
    {rule : Rule}
    (hBare : a.IsBare)
    {form? : Option GetterForm}
    (hForm : a.getterForm? rule = .ok form?) :
    ∀ form ∈ form?, form.HasNeutralParts := by
  rcases exists_parts_of_getterForm? hForm with
    ⟨values, separator, key, hValues, hSeparator, hFound⟩
  have hKey := hBare.boundKey hFound
  have hType := hBare.name.isNeutral
  intro form hMember
  cases (getterForm?_spec hValues hSeparator hFound hForm).1
      form hMember with
  | fetched hFetched =>
      cases rule <;> cases hFetched
      all_goals
        exact
          neutral_fetchForm hKey (isNeutral_of_chars rfl)
            (isNeutral_of_chars rfl)
  | parsed hParsed =>
      cases rule <;> cases hParsed
      all_goals
        exact
          neutral_parsedForm hKey (isNeutral_of_chars rfl)
            (isNeutral_of_chars rfl)
            (isBareSeparator_of_formSeparator hSeparator)
  | pointer => exact neutral_fetchPointerForm hKey
  | handle => exact neutral_fetchHandleForm hKey hBare.handleKind
  | enumInt => exact neutral_fetchEnumIntForm hKey hType
  | enumString =>
      exact
        neutral_fetchEnumStringForm hKey hType
          (hBare.formValues hValues)

------------------------------------------------------------
-- Functions
------------------------------------------------------------

namespace Zig

/- The ids of an attribute are neutral parameters. -/
theorem neutral_idParams
    (numbering : Numbering) :
    ∀ param ∈ idParams numbering, param.HasNeutralParts := by
  intro param hParam
  constructor
  · exact
      isNeutral_idNames numbering param.name
        (List.mem_map_of_mem hParam)
  · have hType : param.type = "i32" := by
      cases numbering with
      | no => cases hParam
      | oneId =>
          simp only [idParams, List.mem_singleton] at hParam
          rw [hParam]
      | twoIds =>
          simp only [idParams, List.mem_cons,
            List.not_mem_nil, or_false] at hParam
          rcases hParam with rfl | rfl
          · rfl
          · rfl
    rw [hType]
    exact isNeutral_of_chars rfl

/- The type that a function is generic in is one, too. -/
theorem neutral_genericParams
    (generic : Bool) :
    ∀ param ∈ if generic then [typeParam] else [],
      param.HasNeutralParts := by
  cases generic with
  | false => simp
  | true =>
      simp only [if_true, List.forall_mem_singleton]
      exact ⟨isNeutral_of_chars rfl, isNeutral_of_chars rfl⟩

/- The result of a setter, which may fail. -/
theorem isNeutral_setterResult
    (context : Context)
    (fallible : Bool) :
    IsNeutral (setterResult context fallible) := by
  have hFails : IsNeutral "!" := isNeutral_of_chars rfl
  have hChained : IsNeutral "Initializer" :=
    isNeutral_of_chars rfl
  have hVoid : IsNeutral "void" := isNeutral_of_chars rfl
  cases context with
  | initializer =>
      cases fallible with
      | false => exact hChained
      | true => exact hFails.append hChained
  | live =>
      cases fallible with
      | false => exact hVoid
      | true => exact hFails.append hVoid

/- Statements of neutral parts make an even body. -/
theorem areEven_body
    {body : List Statement}
    (hBody : ∀ statement ∈ body, statement.HasNeutralParts) :
    AreEven (body.flatMap Statement.lines) :=
  areEven_flatMap fun statement hStatement =>
    Statement.areEven_lines (hBody statement hStatement)

/- The setter of a neutral form is neutral. -/
theorem SetterForm.HasNeutralParts.function
    {form : SetterForm}
    (hForm : form.HasNeutralParts)
    {name : String}
    (hName : IsNeutral name)
    (context : Context)
    (numbering : Numbering)
    (documentation : Option String) :
    (form.function context numbering documentation
      name).HasNeutralParts := by
  constructor
  · exact hName.append hForm.suffix
  · simp only [SetterForm.function, List.forall_mem_append,
      List.forall_mem_cons]
    exact
      ⟨⟨⟨hasNeutralParts_selfParam context,
          neutral_genericParams form.generic⟩,
        neutral_idParams numbering⟩, hForm.params⟩
  · exact isNeutral_setterResult context form.fallible
  · apply areEven_body
    cases context with
    | initializer =>
        simp only [SetterForm.function, chained,
          List.forall_mem_append, List.forall_mem_cons]
        exact ⟨⟨trivial, hForm.body⟩, trivial, by simp⟩
    | live => exact hForm.body

/- The getter of a neutral form is neutral. -/
theorem GetterForm.HasNeutralParts.function
    {form : GetterForm}
    (hForm : form.HasNeutralParts)
    {name : String}
    (hName : IsNeutral name)
    (numbering : Numbering)
    (documentation : Option String) :
    (form.function numbering documentation
      name).HasNeutralParts := by
  constructor
  · exact hName
  · simp only [GetterForm.function, List.forall_mem_append,
      List.forall_mem_cons]
    exact
      ⟨⟨hasNeutralParts_selfParam .live,
          neutral_genericParams form.generic⟩,
        neutral_idParams numbering⟩
  · exact hForm.result
  · exact areEven_body hForm.body

/- The documentation of a function is none of its parts. -/
theorem neutral_documentFirst
    {functions : List FunctionDecl}
    (hFunctions :
      ∀ function ∈ functions, function.HasNeutralParts)
    (documentation : Option String) :
    ∀ function ∈ documentFirst documentation functions,
      function.HasNeutralParts :=
  Attribute.forall_documentFirst
    (fun _ hFunction =>
      ⟨hFunction.name, hFunction.params, hFunction.result,
        hFunction.body⟩)
    hFunctions

end Zig

namespace Attribute

variable {a : Attribute}
variable {context : Context}

/- The setters of a bare attribute have a neutral name. -/
theorem IsBare.setterName
    (hBare : a.IsBare)
    {name : String}
    (hName : a.setterName = .ok name) :
    IsNeutral name := by
  unfold Attribute.setterName at hName
  split at hName
  · rcases map_eq_ok_iff.mp hName with ⟨own, hOwn, rfl⟩
    have hHere := hBare.name own (needed_eq_ok_iff.mp hOwn)
    exact hHere.camelCase.isNeutral
  · rw [← Except.ok.inj hName]
    exact
      IsNeutral.append (isNeutral_of_chars rfl)
        hBare.name.isNeutral

/- The setters of a bare attribute are neutral. -/
theorem neutral_setters
    (hBare : a.IsBare)
    {setters : List FunctionDecl}
    (hSetters : a.setters context = .ok setters) :
    ∀ function ∈ setters, function.HasNeutralParts := by
  rcases setters_cases hSetters with
    ⟨_, rfl⟩ |
    ⟨_, rule, forms, numbering, name, _, _, hForms, hName,
      rfl⟩
  · simp
  · apply neutral_documentFirst
    intro function hFunction
    rcases List.mem_map.mp hFunction with ⟨form, hForm, rfl⟩
    have hNeutral := neutral_setterForms hBare hForms form hForm
    exact hNeutral.function (hBare.setterName hName) _ _ _

/- So is the getter, if there is one. -/
theorem neutral_getter?
    (hBare : a.IsBare)
    {getter? : Option FunctionDecl}
    (hGetter : a.getter? = .ok getter?) :
    ∀ function ∈ getter?, function.HasNeutralParts := by
  rcases getter?_cases hGetter with
    ⟨_, rfl⟩ | ⟨_, rule, form?, numbering, _, _, hForm, rfl⟩
  · simp
  · intro function hFunction
    rcases Option.map_eq_some_iff.mp hFunction with
      ⟨form, hMember, rfl⟩
    have hNeutral := neutral_getterForm? hBare hForm form hMember
    have hName : IsNeutral ("get" ++ shownName a.name) :=
      IsNeutral.append (isNeutral_of_chars rfl)
        hBare.name.isNeutral
    exact hNeutral.function hName _ _

/- All functions of a bare attribute, in either context. -/
theorem neutral_functions
    (hBare : a.IsBare)
    {functions : List FunctionDecl}
    (hFunctions : a.functions context = .ok functions) :
    ∀ function ∈ functions, function.HasNeutralParts := by
  cases context with
  | initializer =>
      have hChained : a.initializerFunctions = .ok functions :=
        hFunctions
      unfold initializerFunctions at hChained
      split at hChained
      · cases hChained
        simp
      · exact neutral_setters hBare hChained
  | live =>
      have hBody : a.bodyFunctions = .ok functions :=
        hFunctions
      unfold bodyFunctions at hBody
      split at hBody
      · cases hBody
        simp
      · rcases bind_eq_ok_iff.mp hBody with
          ⟨getter?, hGetter, hRest⟩
        rcases bind_eq_ok_iff.mp hRest with
          ⟨setters, hSetters, hWhole⟩
        rw [← Except.ok.inj hWhole, List.forall_mem_append]
        refine ⟨?_, neutral_setters hBare hSetters⟩
        intro function hFunction
        exact
          neutral_getter? hBare hGetter function
            (Option.mem_toList.mp hFunction)

/- The type of a bare enumerated attribute is neutral. -/
theorem neutral_enumType?
    (hBare : a.IsBare)
    {type? : Option EnumType}
    (hType : a.enumType? = .ok type?) :
    ∀ type ∈ type?, type.HasNeutralParts := by
  unfold enumType? at hType
  split at hType
  · cases hType
    simp
  · cases hType
    simp
  · rcases bind_eq_ok_iff.mp hType with
      ⟨values, hValues, hWhole⟩
    cases hWhole
    intro type hMember
    cases hMember
    constructor
    · exact hBare.name.isNeutral
    · intro member hMember
      rcases List.mem_map.mp hMember with ⟨value, hValue, rfl⟩
      rw [eq_of_distinctValues hValues] at hValue
      have hHere :=
        hBare.values value
          (mem_of_mem_firstOccurrences hValue)
      exact hHere.name.isNeutral

end Attribute

------------------------------------------------------------
-- Callbacks
------------------------------------------------------------

namespace Callback

variable {callback : Callback}

/- Every type of an argument or a result is neutral. -/
theorem isNeutral_typeName
    {callback : Option String}
    {type : Option DataType}
    {text : String}
    (hText : typeName callback type = .ok text) :
    IsNeutral text := by
  have hKnown :
      ∀ dataType name,
        typeName? dataType = some name → IsNeutral name := by
    intro dataType name hName
    cases dataType
    all_goals cases hName
    all_goals exact isNeutral_of_chars rfl
  unfold typeName at hText
  split at hText
  · next name hSome =>
      rcases Option.bind_eq_some_iff.mp hSome with
        ⟨dataType, _, hName⟩
      rw [← Except.ok.inj hText]
      exact hKnown dataType name hName
  · cases hText

/- The name of the handler type of a bare callback. -/
theorem IsBare.handlerTypeName
    (hBare : callback.IsBare) :
    IsNeutral (handlerTypeName callback) := by
  have hStart : IsNeutral "On" := isNeutral_of_chars rfl
  have hEnd : IsNeutral "Fn" := isNeutral_of_chars rfl
  exact (hStart.append hBare.name.isNeutral).append hEnd

/- The handler type of a bare callback is neutral. -/
theorem neutral_handlerType
    (hBare : callback.IsBare)
    {type : HandlerType}
    (hType : Callback.handlerType (some callback) = .ok type) :
    type.HasNeutralParts := by
  unfold Callback.handlerType at hType
  rw [needed_some, ok_bind] at hType
  rcases bind_eq_ok_iff.mp hType with ⟨listed, _, hRest⟩
  rcases bind_eq_ok_iff.mp hRest with
    ⟨arguments, hArguments, hRest⟩
  rcases bind_eq_ok_iff.mp hRest with
    ⟨result, hResult, hWhole⟩
  rw [← Except.ok.inj hWhole]
  constructor
  · exact hBare.handlerTypeName
  · intro text hText
    rcases exists_of_mem_mapM hArguments hText with
      ⟨dataType, _, hName⟩
    exact isNeutral_typeName hName
  · exact isNeutral_typeName hResult

/- So is the function that registers a handler. -/
theorem neutral_setter
    (hBare : callback.IsBare)
    {context : Context}
    {setter : FunctionDecl}
    (hSetter :
      Callback.setter context (some callback) = .ok setter) :
    setter.HasNeutralParts := by
  unfold Callback.setter at hSetter
  rw [needed_some, ok_bind] at hSetter
  rw [← Except.ok.inj hSetter]
  have hType := hBare.handlerTypeName
  have hForm :
      (SetterForm.plain
        [⟨"callback", "?" ++ handlerTypeName callback⟩]
        [ .bindHandler (handlerTypeName callback)
            (shownName callback.key),
          .registerHandler
            (targetOf context) ]).HasNeutralParts := by
    apply neutral_plain
    · rw [List.forall_mem_singleton]
      exact
        ⟨isNeutral_of_chars rfl,
          IsNeutral.append (isNeutral_of_chars rfl)
            hType⟩
    · simp only [List.forall_mem_cons, List.not_mem_nil,
        false_implies, implies_true, and_true]
      exact ⟨⟨hType, hBare.key.isNeutral⟩, trivial⟩
  have hSet : IsNeutral "set" := isNeutral_of_chars rfl
  have hEnd : IsNeutral "Callback" := isNeutral_of_chars rfl
  exact
    hForm.function
      ((hSet.append hBare.name.isNeutral).append hEnd) _ _ _

end Callback

------------------------------------------------------------
-- Blocks
------------------------------------------------------------

namespace Zig

variable {attributes : List Attribute}
variable {callbacks : Option (List (Option Callback))}

/- What is made of each callback, none of them null. -/
theorem forall_mem_of_callbacks
    {β : Type}
    {make : Option Callback → Except Fault β}
    {IsGood : β → Prop}
    {made : List β}
    (hNull : ∀ b, make none ≠ .ok b)
    (hEach :
      ∀ c ∈ present callbacks, ∀ b,
        make (some c) = .ok b → IsGood b)
    (hMade :
      (do (← needed .iterate callbacks).mapM make) = .ok made) :
    ∀ b ∈ made, IsGood b := by
  rcases bind_eq_ok_iff.mp hMade with ⟨listed, hListed, hAll⟩
  rw [needed_eq_ok_iff.mp hListed] at hEach
  intro b hMember
  rcases exists_of_mem_mapM hAll hMember with
    ⟨item, hItem, hHere⟩
  cases item with
  | none => exact absurd hHere (hNull b)
  | some c => exact hEach c (mem_present_some.mpr hItem) b hHere

/- The setters of bare callbacks are neutral. -/
theorem neutral_callbackSetters
    {context : Context}
    (hBare : ∀ c ∈ present callbacks, c.IsBare)
    {setters : List FunctionDecl}
    (hSetters :
      callbackSetters context callbacks = .ok setters) :
    ∀ function ∈ setters, function.HasNeutralParts :=
  forall_mem_of_callbacks (fun _ hSetter => by cases hSetter)
    (fun c hCallback _ hSetter =>
      Callback.neutral_setter (hBare c hCallback) hSetter)
    hSetters

/- So are the types of their handlers. -/
theorem neutral_handlerTypes
    (hBare : ∀ c ∈ present callbacks, c.IsBare)
    {types : List HandlerType}
    (hTypes : handlerTypes callbacks = .ok types) :
    ∀ type ∈ types, type.HasNeutralParts :=
  forall_mem_of_callbacks (fun _ hType => by cases hType)
    (fun c hCallback _ hType =>
      Callback.neutral_handlerType (hBare c hCallback) hType)
    hTypes

/- And the types of bare attributes. -/
theorem neutral_enumTypes
    (hBare : ∀ a ∈ attributes, a.IsBare)
    {types : List EnumType}
    (hTypes : enumTypes attributes = .ok types) :
    ∀ type ∈ types, type.HasNeutralParts := by
  intro type hType
  rcases exists_of_mem_enumTypes hTypes hType with
    ⟨a, hMember, hHere⟩
  exact
    Attribute.neutral_enumType? (hBare a hMember) hHere type rfl

/- The functions of either block are neutral. -/
theorem neutral_functionBlock
    (context : Context)
    (hBare : ∀ a ∈ attributes, a.IsBare)
    (hCallbacks : ∀ c ∈ present callbacks, c.IsBare)
    {functions : List FunctionDecl}
    (hBlock :
      functionBlock context attributes callbacks
        = .ok functions) :
    ∀ function ∈ functions, function.HasNeutralParts := by
  rcases parts_of_functionBlock context hBlock with
    ⟨accessors, setters, hAccessors, hSetters, rfl⟩
  rw [List.forall_mem_append]
  refine ⟨?_, neutral_callbackSetters hCallbacks hSetters⟩
  intro function hFunction
  rcases List.mem_flatten.mp hFunction with
    ⟨own, hOwn, hMember⟩
  rcases exists_of_mem_mapM hAccessors hOwn with
    ⟨a, hAttribute, hHere⟩
  exact
    Attribute.neutral_functions (hBare a hAttribute) hHere
      function hMember

end Zig

------------------------------------------------------------
-- Tests
------------------------------------------------------------

/- A sample value whose texts are neutral. -/
structure Sample.HasNeutralParts
    (sample : Sample) : Prop where
  arguments : ∀ text ∈ sample.arguments, IsNeutral text
  check : IsNeutral sample.check

/- Conditions are neutral together. -/
theorem isNeutral_allOf
    {conditions : List String}
    (hConditions :
      ∀ condition ∈ conditions, IsNeutral condition) :
    IsNeutral (allOf conditions) :=
  isNeutral_joinWith (isNeutral_of_chars rfl)
    hConditions

/- One argument and a check. -/
theorem Sample.neutral_of_one
    {argument check : String}
    (hArgument : IsNeutral argument)
    (hCheck : IsNeutral check) :
    Sample.HasNeutralParts ⟨[argument], check⟩ :=
  ⟨by simpa using hArgument, hCheck⟩

/- Two numbers, each read back by a condition of its own. -/
theorem Sample.neutral_of_pair
    {conditions : List String}
    (hConditions :
      ∀ condition ∈ conditions, IsNeutral condition) :
    Sample.HasNeutralParts
      ⟨["9", "10"], allOf conditions⟩ := by
  refine ⟨?_, isNeutral_allOf hConditions⟩
  simp only [List.forall_mem_cons, List.not_mem_nil,
    false_implies, implies_true, and_true]
  exact ⟨isNeutral_of_chars rfl, isNeutral_of_chars rfl⟩

/- The samples of rules without members. -/
theorem Rule.neutral_sample?
    {rule : Rule}
    {sample : Sample}
    (hSample : rule.sample? = some sample) :
    sample.HasNeutralParts := by
  cases rule with
  | int | string | boolean | float | double =>
      cases hSample
      exact
        Sample.neutral_of_one (isNeutral_of_chars rfl)
          (isNeutral_of_chars rfl)
  | margin | linColPos | xyPos | range =>
      cases hSample
      apply Sample.neutral_of_pair
      simp only [List.forall_mem_cons, List.not_mem_nil,
        false_implies, implies_true, and_true]
      exact ⟨isNeutral_of_chars rfl, isNeutral_of_chars rfl⟩
  | size =>
      cases hSample
      apply Sample.neutral_of_pair
      simp only [List.forall_mem_cons, List.not_mem_nil,
        false_implies, implies_true, and_true]
      exact
        ⟨isNeutral_of_chars rfl,
          isNeutral_of_chars rfl,
          isNeutral_of_chars rfl,
          isNeutral_of_chars rfl⟩
  | rgb =>
      cases hSample
      apply
        Sample.neutral_of_one (isNeutral_of_chars rfl)
      apply isNeutral_allOf
      simp only [List.forall_mem_cons, List.not_mem_nil,
        false_implies, implies_true, and_true]
      exact
        ⟨isNeutral_of_chars rfl,
          isNeutral_of_chars rfl,
          isNeutral_of_chars rfl,
          isNeutral_of_chars rfl⟩
  | _ => cases hSample

namespace Attribute

variable {a : Attribute}

/- The first member of a bare attribute is neutral. -/
theorem IsBare.firstMember
    (hBare : a.IsBare)
    {member : String}
    (hMember : a.firstMember = .ok member) :
    IsNeutral member := by
  rcases bind_eq_ok_iff.mp hMember with
    ⟨listed, hListed, hRest⟩
  have hValues := hBare.values
  rw [needed_eq_ok_iff.mp hListed] at hValues
  cases listed with
  | nil => cases hRest
  | cons value rest =>
      rcases bind_eq_ok_iff.mp hRest with
        ⟨first, hFirst, hName⟩
      rw [← Except.ok.inj hName]
      rw [needed_eq_ok_iff.mp hFirst] at hValues
      have hHere :=
        hValues first
          (mem_present_some.mpr List.mem_cons_self)
      exact hHere.name.isNeutral

/- The sample of a bare attribute is neutral. -/
theorem neutral_sample?
    (hBare : a.IsBare)
    {sample : Sample}
    (hSample : a.sample? = .ok (some sample)) :
    sample.HasNeutralParts := by
  rcases bind_eq_ok_iff.mp hSample with ⟨rule, _, hRest⟩
  have hDot : IsNeutral "." := isNeutral_of_chars rfl
  cases rule with
  | enumInt =>
      rcases bind_eq_ok_iff.mp hRest with
        ⟨member, hMember, hWhole⟩
      cases hWhole
      have hName := hBare.firstMember hMember
      exact
        Sample.neutral_of_one (hDot.append hName)
          (IsNeutral.append (isNeutral_of_chars rfl)
            hName)
  | enumString =>
      rcases bind_eq_ok_iff.mp hRest with
        ⟨member, hMember, hWhole⟩
      cases hWhole
      have hName := hBare.firstMember hMember
      apply Sample.neutral_of_one (hDot.append hName)
      apply isNeutral_allOf
      simp only [List.forall_mem_cons, List.not_mem_nil,
        false_implies, implies_true, and_true]
      exact
        ⟨isNeutral_of_chars rfl,
          IsNeutral.append (isNeutral_of_chars rfl)
            hName⟩
  | _ => exact Rule.neutral_sample? (Except.ok.inj hRest)

end Attribute

namespace Element

variable {element : Element}

/- The ids in a test are neutral. -/
theorem isNeutral_testIds
    (numbering : Numbering) :
    ∀ text ∈ testIds numbering, IsNeutral text := by
  have hZero : IsNeutral "0" := isNeutral_of_chars rfl
  cases numbering with
  | no => simp [testIds]
  | oneId => simpa [testIds] using hZero
  | twoIds => simpa [testIds] using hZero

/- The test of a bare attribute of a bare element is neutral. -/
theorem IsBare.neutral_writtenTest?
    (hBare : element.IsBare)
    {a : Attribute}
    (hAttribute : a.IsBare)
    {test : RoundTrip}
    (hTest : element.writtenTest? a = .ok (some test)) :
    test.HasNeutralParts := by
  rcases bind_eq_ok_iff.mp hTest with ⟨written, _, hRest⟩
  cases written with
  | false => cases hRest
  | true =>
      rcases bind_eq_ok_iff.mp hRest with
        ⟨sample?, hSample, hRest⟩
      cases sample? with
      | none => cases hRest
      | some sample =>
          rcases bind_eq_ok_iff.mp hRest with
            ⟨numbering, _, hWhole⟩
          cases hWhole
          have hParts :=
            Attribute.neutral_sample? hAttribute hSample
          constructor
          · exact hBare.name.isNeutral
          · exact hAttribute.name.isNeutral
          · rw [List.forall_mem_append]
            exact
              ⟨isNeutral_testIds numbering, hParts.arguments⟩
          · exact isNeutral_testIds numbering
          · exact hParts.check

/- So are all tests of a bare element. -/
theorem IsBare.neutral_roundTrips
    (hBare : element.IsBare)
    {tests : List RoundTrip}
    (hTests : element.roundTrips = .ok tests) :
    ∀ test ∈ tests, test.HasNeutralParts := by
  unfold Element.roundTrips at hTests
  split at hTests
  · rcases bind_eq_ok_iff.mp hTests with ⟨own, hOwn, hRest⟩
    rcases bind_eq_ok_iff.mp hRest with ⟨each, hEach, hWhole⟩
    rw [← Except.ok.inj hWhole]
    intro test hTest
    rcases List.mem_filterMap.mp hTest with
      ⟨test?, hMember, hSome⟩
    rw [id_eq] at hSome
    rw [hSome] at hMember
    rcases exists_of_mem_mapM hEach hMember with
      ⟨a, hAttribute, hWritten⟩
    have hListed : a ∈ present element.attributes :=
      (Attribute.mem_of_merge hOwn hAttribute).resolve_right
        (by simp)
    exact
      hBare.neutral_writtenTest? (hBare.attributes a hListed)
        hWritten
  · cases hTests
    simp

end Element

end ElementBindings
