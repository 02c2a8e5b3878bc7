import ElementBindings.Proofs.Zig.Accessor

/-
  The forms that accessors have.

  Every form of a setter or a getter is of one of a few kinds:
  a single value is stored or fetched as it is, two values are
  laid out in one text, a handle, a member, and so on.  The
  rule tells the kind, and the types and the functions that
  make up the form.  What holds for each kind holds for all
  forms, so that nobody else has to look at all rules.

  Key definitions include:
    * `Rule.scalar?`, `Rule.pair?`
    * `Rule.fetched?`, `Rule.parsed?`
    * `Attribute.IsSetterForm`, `Attribute.IsGetterForm`

  Key theorems include:
    * `Attribute.exists_parts_of_setterForms`
    * `Attribute.setterForms_spec`, `Attribute.getterForm?_spec`
-/

namespace ElementBindings

open Zig

------------------------------------------------------------
-- Kinds of Rules
------------------------------------------------------------

namespace Rule

/- The type of a single value, and the function that stores it. -/
def scalar? : Rule → Option (String × String)
  | .int => some ("i32", "setIntAttribute")
  | .string => some ("[:0]const u8", "setStrAttribute")
  | .boolean => some ("bool", "setBoolAttribute")
  | .float => some ("f32", "setFloatAttribute")
  | .double => some ("f64", "setDoubleAttribute")
  | _ => none

/- Two values, and the function that lays them out in a text. -/
def pair? : Rule → Option (Param × Param × String)
  | .size =>
      some (⟨"width", "?i32"⟩, ⟨"height", "?i32"⟩,
        "Size.intIntToString")
  | .margin =>
      some (⟨"horiz", "i32"⟩, ⟨"vert", "i32"⟩,
        "Margin.intIntToString")
  | .linColPos =>
      some (⟨"lin", "i32"⟩, ⟨"col", "i32"⟩,
        "iup.LinColPos.intIntToString")
  | .xyPos =>
      some (⟨"x", "i32"⟩, ⟨"y", "i32"⟩,
        "iup.XYPos.intIntToString")
  | .range =>
      some (⟨"begin", "i32"⟩, ⟨"end", "i32"⟩,
        "iup.Range.intIntToString")
  | .dialogSize =>
      some (⟨"width", "?iup.ScreenSize"⟩,
        ⟨"height", "?iup.ScreenSize"⟩,
        "iup.DialogSize.screenSizeToString")
  | _ => none

/- What is returned as it is, and the function that reads it. -/
def fetched? : Rule → Option (String × String)
  | .int => some ("i32", "getIntAttribute")
  | .string => some ("[:0]const u8", "getStrAttribute")
  | .boolean => some ("bool", "getBoolAttribute")
  | .float => some ("f32", "getFloatAttribute")
  | .double => some ("f64", "getDoubleAttribute")
  | .rgb => some ("?iup.Rgb", "getRgb")
  | _ => none

/- What is returned as it was parsed, and the type that parses. -/
def parsed? : Rule → Option (String × String)
  | .size => some ("Size", "Size")
  | .margin => some ("Margin", "Margin")
  | .linColPos => some ("iup.LinColPos", "iup.LinColPos")
  | .xyPos => some ("iup.XYPos", "iup.XYPos")
  | .range => some ("iup.Range", "iup.Range")
  | .dialogSize => some ("iup.DialogSize", "iup.DialogSize")
  | .date => some ("?iup.Date", "iup.Date")
  | _ => none

end Rule

/- The setter of a handle itself has no suffix. -/
theorem Zig.suffix_handleForm
    (context : Context)
    (key : Key)
    (kind : HandleKind) :
    (handleForm context key kind).suffix = "" := by
  cases kind with
  | known name => rfl
  | unchecked => rfl
  | validated nativeType =>
      cases context with
      | initializer => rfl
      | live => rfl

namespace Attribute

variable {a : Attribute}
variable {rule : Rule}
variable {context : Context}
variable {values : List EnumValue}
variable {separator : Option Char}
variable {key : Key}

------------------------------------------------------------
-- Kinds of Forms
------------------------------------------------------------

/- What the form of a setter can be under a rule. -/
inductive IsSetterForm
    (a : Attribute)
    (context : Context)
    (values : List EnumValue)
    (separator : Option Char)
    (key : Key) : Rule → SetterForm → Prop where
  | scalar
      {rule : Rule}
      {type function : String}
      (hScalar : rule.scalar? = some (type, function)) :
      IsSetterForm a context values separator key rule
        (scalarForm context key type function)
  | pair
      {rule : Rule}
      {first second : Param}
      {function : String}
      (hPair : rule.pair? = some (first, second, function)) :
      IsSetterForm a context values separator key rule
        (encodedForm context key [first, second] function
          separator)
  | pointer :
      IsSetterForm a context values separator key .pointer
        (pointerForm context key)
  | handle :
      IsSetterForm a context values separator key .handle
        (handleForm context key a.handleKind)
  | handleName :
      IsSetterForm a context values separator key .handle
        (handleNameForm context key)
  | void :
      IsSetterForm a context values separator key .void
        (.plain [] [storeString context key "null"])
  | date :
      IsSetterForm a context values separator key .date
        (dateForm context key)
  | rgb :
      IsSetterForm a context values separator key .rgb
        (rgbForm context key)
  | enumInt :
      IsSetterForm a context values separator key .enumInt
        (enumIntForm context key (shownName a.name))
  | enumString :
      IsSetterForm a context values separator key .enumString
        (enumStringForm context key (shownName a.name) values)

/- What the form of a getter can be under a rule. -/
inductive IsGetterForm
    (a : Attribute)
    (values : List EnumValue)
    (separator : Option Char)
    (key : Key) : Rule → GetterForm → Prop where
  | fetched
      {rule : Rule}
      {result function : String}
      (hFetched : rule.fetched? = some (result, function)) :
      IsGetterForm a values separator key rule
        (fetchForm key result function)
  | parsed
      {rule : Rule}
      {result type : String}
      (hParsed : rule.parsed? = some (result, type)) :
      IsGetterForm a values separator key rule
        (parsedForm key result type separator)
  | pointer :
      IsGetterForm a values separator key .pointer
        (fetchPointerForm key)
  | handle :
      IsGetterForm a values separator key .handle
        (fetchHandleForm key a.handleKind)
  | enumInt :
      IsGetterForm a values separator key .enumInt
        (fetchEnumIntForm key (shownName a.name))
  | enumString :
      IsGetterForm a values separator key .enumString
        (fetchEnumStringForm key (shownName a.name) values)

------------------------------------------------------------
-- Parts of Forms
------------------------------------------------------------

/- What has no fault as a whole has all of its parts. -/
theorem exists_parts
    (hNone : fault? (a.formParts rule) = none) :
    ∃ values separator key,
      a.formValues rule = .ok values ∧
        a.formSeparator rule = .ok separator ∧
        a.boundKey = .ok key := by
  rcases fault?_eq_none_iff.mp hNone with ⟨parts, hParts⟩
  rcases bind_eq_ok_iff.mp hParts with
    ⟨values, hValues, hParts⟩
  rcases bind_eq_ok_iff.mp hParts with
    ⟨separator, hSeparator, hParts⟩
  rcases bind_eq_ok_iff.mp hParts with ⟨key, hKey, _⟩
  exact ⟨values, separator, key, hValues, hSeparator, hKey⟩

/- Where setters have forms, these have all of their parts. -/
theorem exists_parts_of_setterForms
    {forms : List SetterForm}
    (hForms : a.setterForms context rule = .ok forms) :
    ∃ values separator key,
      a.formValues rule = .ok values ∧
        a.formSeparator rule = .ok separator ∧
        a.boundKey = .ok key := by
  apply exists_parts
  rw [← fault?_setterForms_eq a context, hForms, fault?_ok]

/- So it is where it is known if a getter has a form. -/
theorem exists_parts_of_getterForm?
    {form? : Option GetterForm}
    (hForm : a.getterForm? rule = .ok form?) :
    ∃ values separator key,
      a.formValues rule = .ok values ∧
        a.formSeparator rule = .ok separator ∧
        a.boundKey = .ok key := by
  apply exists_parts
  rw [← fault?_getterForm?_eq, hForm, fault?_ok]

/- Forms that are there in one context are there in the other. -/
theorem exists_setterForms
    {forms : List SetterForm}
    (hForms : a.setterForms context rule = .ok forms)
    (other : Context) :
    ∃ others, a.setterForms other rule = .ok others := by
  apply fault?_eq_none_iff.mp
  rw [fault?_setterForms_eq, ← fault?_setterForms_eq a context,
    hForms, fault?_ok]

------------------------------------------------------------
-- Forms under a Rule
------------------------------------------------------------

section Parts

variable
  (hValues : a.formValues rule = .ok values)
  (hSeparator : a.formSeparator rule = .ok separator)
  (hKey : a.boundKey = .ok key)

include hValues hSeparator hKey

/-
  The forms of setters are of the kinds of their rule.  A
  handle has a second one, for names; where there is no
  encoding, there is none.
-/
theorem setterForms_spec
    {forms : List SetterForm}
    (hForms : a.setterForms context rule = .ok forms) :
    (∀ form ∈ forms,
      a.IsSetterForm context values separator key rule form) ∧
      forms.map (·.suffix) =
        if rule = .unsupported then []
        else if rule = .handle then ["", "HandleName"]
        else [""] := by
  unfold setterForms at hForms
  rw [hKey] at hForms
  cases rule with
  | int | string | boolean | float | double =>
      cases hForms
      rw [List.forall_mem_singleton]
      exact ⟨.scalar rfl, rfl⟩
  | size | margin | dialogSize =>
      cases hForms
      cases hSeparator
      rw [List.forall_mem_singleton]
      exact ⟨.pair rfl, rfl⟩
  | linColPos | xyPos | range =>
      have hParted : a.separator.map some = .ok separator :=
        hSeparator
      rw [hParted] at hForms
      cases hForms
      rw [List.forall_mem_singleton]
      exact ⟨.pair rfl, rfl⟩
  | pointer =>
      cases hForms
      rw [List.forall_mem_singleton]
      exact ⟨.pointer, rfl⟩
  | handle =>
      cases hForms
      rw [List.forall_mem_cons, List.forall_mem_singleton,
        List.map_cons, suffix_handleForm]
      exact ⟨⟨.handle, .handleName⟩, rfl⟩
  | void =>
      cases hForms
      rw [List.forall_mem_singleton]
      exact ⟨.void, rfl⟩
  | date =>
      cases hForms
      rw [List.forall_mem_singleton]
      exact ⟨.date, rfl⟩
  | rgb =>
      cases hForms
      rw [List.forall_mem_singleton]
      exact ⟨.rgb, rfl⟩
  | enumInt =>
      cases hForms
      rw [List.forall_mem_singleton]
      exact ⟨.enumInt, rfl⟩
  | enumString =>
      have hListed : a.distinctValues = .ok values := hValues
      rw [hListed] at hForms
      cases hForms
      rw [List.forall_mem_singleton]
      exact ⟨.enumString, rfl⟩
  | unsupported =>
      cases hForms
      exact ⟨by simp, rfl⟩

/-
  The form of a getter is of the kind of its rule.  There is
  none where there is no value or no encoding.
-/
theorem getterForm?_spec
    {form? : Option GetterForm}
    (hForm : a.getterForm? rule = .ok form?) :
    (∀ form ∈ form?,
      a.IsGetterForm values separator key rule form) ∧
      (form?.isSome ↔ rule ≠ .unsupported ∧ rule ≠ .void) := by
  unfold getterForm? at hForm
  rw [hKey] at hForm
  cases rule with
  | int | string | boolean | float | double | rgb =>
      cases hForm
      simpa using IsGetterForm.fetched rfl
  | size | margin | dialogSize | date =>
      cases hForm
      cases hSeparator
      simpa using IsGetterForm.parsed rfl
  | linColPos | xyPos | range =>
      have hParted : a.separator.map some = .ok separator :=
        hSeparator
      rw [hParted] at hForm
      cases hForm
      simpa using IsGetterForm.parsed rfl
  | pointer =>
      cases hForm
      simpa using IsGetterForm.pointer
  | handle =>
      cases hForm
      simpa using IsGetterForm.handle
  | enumInt =>
      cases hForm
      simpa using IsGetterForm.enumInt
  | enumString =>
      have hListed : a.distinctValues = .ok values := hValues
      rw [hListed] at hForm
      cases hForm
      simpa using IsGetterForm.enumString
  | void | unsupported =>
      cases hForm
      simp

end Parts

/- Every rule but one has a form of a setter. -/
theorem setterForms_ne_nil_iff
    {forms : List SetterForm}
    (hForms : a.setterForms context rule = .ok forms) :
    forms ≠ [] ↔ rule ≠ .unsupported := by
  rcases exists_parts_of_setterForms hForms with
    ⟨_, _, _, hValues, hSeparator, hKey⟩
  have hSuffixes :=
    (setterForms_spec hValues hSeparator hKey hForms).2
  rw [← (List.map_eq_nil_iff (f := SetterForm.suffix)).ne,
    hSuffixes]
  by_cases hRule : rule = .unsupported
  · simp [hRule]
  · by_cases hHandle : rule = .handle
    · simp [hHandle]
    · simp [hRule, hHandle]

/- Every rule but two has a form of a getter. -/
theorem getterForm?_isSome_iff
    {form? : Option GetterForm}
    (hForm : a.getterForm? rule = .ok form?) :
    form?.isSome ↔ rule ≠ .unsupported ∧ rule ≠ .void := by
  rcases exists_parts_of_getterForm? hForm with
    ⟨_, _, _, hValues, hSeparator, hKey⟩
  exact (getterForm?_spec hValues hSeparator hKey hForm).2

end Attribute

end ElementBindings
