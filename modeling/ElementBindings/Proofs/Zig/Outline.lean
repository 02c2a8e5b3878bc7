import ElementBindings.Proofs.Zig.Chaining
import ElementBindings.Proofs.Zig.Role

/-
  What can be read off the text of a block, line by line.

  If the names and strings of a catalog have no line feed,
  each line of a body stands on one line, behind blanks.  So
  only headers of functions start at the margin with the words
  that declare one, and documentation only stands right before
  them.  The names that are read off a block are therefore
  those of its roles, in their order.

  Key definitions include:
    * `Zig.AreOneLine`
    * `Attribute.IsReadable`, `Callback.IsReadable`
    * `Zig.declaredNames`
    * `Zig.IsOutlined`

  Key theorems include:
    * `Attribute.IsReadable.areOneLine_setters`
    * `Attribute.IsReadable.areOneLine_getter`
    * `Zig.splitAtEach_render`
    * `Zig.block_declares_roles`
-/

namespace ElementBindings

open Zig

/- A text is one line exactly if its parts are. -/
theorem Text.isOneLine_append
    {s t : String} :
    IsOneLine (s ++ t) ↔ IsOneLine s ∧ IsOneLine t := by
  unfold IsOneLine
  rw [String.toList_append, List.mem_append, not_or]

namespace Zig

------------------------------------------------------------
-- Calls
------------------------------------------------------------

/- A text on one line is quoted on it. -/
theorem isOneLine_stringLiteral
    {s : String}
    (hText : Text.IsOneLine s) :
    Text.IsOneLine (stringLiteral s) := by
  simp +decide [stringLiteral, Text.isOneLine_append, hText]

/- A key addresses an attribute on the line of its name. -/
theorem Key.isOneLine_arguments
    {key : Key}
    (hKey : Text.IsOneLine key.name) :
    ∀ text ∈ key.arguments, Text.IsOneLine text := by
  have hIds :
      Text.IsOneLine
        (tuple ((idParams key.numbering).map (·.name))) := by
    cases key.numbering <;> decide
  unfold Key.arguments
  rw [List.forall_mem_cons, List.forall_mem_singleton]
  exact ⟨isOneLine_stringLiteral hKey, hIds⟩

/- A call is one line, if its texts are. -/
theorem Call.isOneLine_render
    {call : Call}
    (hFunction : Text.IsOneLine call.function)
    (hKey : Text.IsOneLine call.key.name)
    (hArguments :
      ∀ text ∈ call.arguments, Text.IsOneLine text) :
    Text.IsOneLine call.render := by
  have hType :
      ∀ text ∈ if call.typed then ["T"] else [],
        Text.IsOneLine text := by
    cases call.typed <;> decide
  have hTarget : Text.IsOneLine call.target.text := by
    cases call.target <;> decide
  have hList :
      Text.IsOneLine
        (Text.joinWith ", "
          ((if call.typed then ["T"] else [])
            ++ call.target.text :: call.key.arguments
            ++ call.arguments)) := by
    apply Text.isOneLine_joinWith (by decide)
    simp only [List.forall_mem_append, List.forall_mem_cons]
    exact
      ⟨⟨hType, hTarget, Key.isOneLine_arguments hKey⟩,
        hArguments⟩
  unfold Call.render
  exact
    (((Text.IsOneLine.append (by decide) hFunction).append
      (by decide)).append hList).append (by decide)

/- So it is as a statement. -/
theorem Call.isOneLine_line
    {call : Call}
    (hFunction : Text.IsOneLine call.function)
    (hKey : Text.IsOneLine call.key.name)
    (hArguments :
      ∀ text ∈ call.arguments, Text.IsOneLine text) :
    Text.IsOneLine call.line :=
  (isOneLine_render hFunction hKey hArguments).append
    (by decide)

/- A separator is written on the line of its call. -/
theorem isOneLine_separatorArgument
    {separator : Option Char}
    (hBare : IsBareSeparator separator) :
    ∀ text ∈ separatorArgument separator,
      Text.IsOneLine text := by
  cases separator with
  | none => simp [separatorArgument]
  | some c =>
      have hOther : c ≠ '\n' := by
        rintro rfl
        exact absurd (hBare '\n' rfl) (by decide)
      simp only [separatorArgument, List.forall_mem_singleton]
      unfold Text.IsOneLine
      simp [hOther.symm]

/- The name of a native kind is one line. -/
theorem isOneLine_nativeType
    (nativeType : NativeType) :
    Text.IsOneLine nativeType.text := by
  cases nativeType <;> decide

------------------------------------------------------------
-- Bodies
------------------------------------------------------------

/- No line of a body has a line feed of its own. -/
def AreOneLine
    (body : List Statement) : Prop :=
  ∀ line ∈ body.flatMap Statement.lines, Text.IsOneLine line

/- Nor has one of the lines around it in the initializer. -/
theorem AreOneLine.chained
    {body : List Statement}
    (hBody : AreOneLine body)
    (context : Context) :
    AreOneLine (chained context body) := by
  cases context with
  | live => exact hBody
  | initializer =>
      intro line hLine
      simp only [Zig.chained, List.cons_append,
        List.flatMap_cons, List.flatMap_append,
        List.flatMap_nil, List.append_nil, Statement.lines,
        List.nil_append, List.mem_cons, List.mem_append,
        List.not_mem_nil, or_false] at hLine
      rcases hLine with rfl | (hInner | rfl)
      · decide
      · exact hBody line hInner
      · decide

/-
  The form of a getter stays on its lines: what it returns is
  on one, and so is each line of its body.
-/
structure GetterForm.IsOneLine
    (form : GetterForm) : Prop where
  result : Text.IsOneLine form.result
  body : AreOneLine form.body

section Keyed

variable {key : Key}
variable (context : Context)
variable (hKey : Text.IsOneLine key.name)

include hKey

/- One argument is stored on one line. -/
theorem areOneLine_scalarForm
    {function : String}
    (type : String)
    (hFunction : Text.IsOneLine function) :
    AreOneLine (scalarForm context key type function).body := by
  simp +decide [scalarForm, SetterForm.plain, AreOneLine,
    storeCall, Statement.lines, Call.isOneLine_line, hKey,
    hFunction]

/- A string is stored on one line. -/
theorem isOneLine_storeString
    {value : String}
    (hValue : Text.IsOneLine value) :
    ∀ line ∈ (storeString context key value).lines,
      Text.IsOneLine line := by
  simp +decide [storeString, storeCall, Statement.lines,
    Call.isOneLine_line, hKey, hValue]

/- A value is encoded and stored line by line. -/
theorem areOneLine_encodedForm
    {params : List Param}
    {function : String}
    {separator : Option Char}
    (hParams : ∀ param ∈ params, Text.IsOneLine param.name)
    (hFunction : Text.IsOneLine function)
    (hSeparator : IsBareSeparator separator) :
    AreOneLine
      (encodedForm context key params function
        separator).body := by
  have hArguments :
      Text.IsOneLine
        (Text.joinWith ", "
          ("&buffer" :: (params.map (·.name)
            ++ separatorArgument separator))) := by
    apply Text.isOneLine_joinWith (by decide)
    rw [List.forall_mem_cons, List.forall_mem_append,
      List.forall_mem_map]
    exact
      ⟨by decide, hParams,
        isOneLine_separatorArgument hSeparator⟩
  simp +decide [encodedForm, SetterForm.plain, AreOneLine,
    storeString, storeCall, Statement.lines,
    Call.isOneLine_line, Text.isOneLine_append, hKey,
    hFunction, hArguments]

/- A handle is checked and stored line by line. -/
theorem areOneLine_handleForm
    (kind : HandleKind) :
    AreOneLine (handleForm context key kind).body := by
  cases kind <;> cases context <;>
    simp +decide [handleForm, SetterForm.plain, AreOneLine,
      storeCall, Statement.lines, Call.isOneLine_line,
      Text.isOneLine_append, isOneLine_nativeType, hKey]

/- A member is stored by its string line by line. -/
theorem areOneLine_enumStringForm
    {values : List EnumValue}
    (type : String)
    (hValues :
      ∀ value ∈ values,
        Text.IsOneLine (shownName value.name) ∧
          Text.IsOneLine (shownName value.text)) :
    AreOneLine (enumStringForm context key type values).body := by
  have hBranches :
      ∀ value ∈ values,
        Text.IsOneLine
          (Statement.branchLine
            (enumBranch context key value)) := by
    intro value hValue
    rcases hValues value hValue with ⟨hName, hText⟩
    simp +decide [Statement.branchLine, enumBranch, storeCall,
      Call.isOneLine_render, Text.isOneLine_append,
      isOneLine_stringLiteral, hKey, hName, hText]
  have hClear :
      Text.IsOneLine
        ("    " ++ (clearCall context key).line) := by
    simp +decide [clearCall, storeCall, Call.isOneLine_line,
      Text.isOneLine_append, hKey]
  simp only [enumStringForm, SetterForm.plain, AreOneLine,
    List.flatMap_cons, List.flatMap_nil, List.append_nil,
    Statement.lines, List.map_map, List.cons_append,
    List.forall_mem_cons, List.forall_mem_append,
    List.forall_mem_map, Function.comp_apply]
  exact
    ⟨by decide, hBranches, by decide, hClear, by decide,
      by simp⟩

/- A parsed value is read line by line. -/
theorem isOneLine_parsedForm
    {result type : String}
    {separator : Option Char}
    (hResult : Text.IsOneLine result)
    (hType : Text.IsOneLine type)
    (hSeparator : IsBareSeparator separator) :
    (parsedForm key result type separator).IsOneLine := by
  have hArguments :
      Text.IsOneLine
        (Text.joinWith ", "
          ("str" :: separatorArgument separator)) := by
    apply Text.isOneLine_joinWith (by decide)
    rw [List.forall_mem_cons]
    exact
      ⟨by decide, isOneLine_separatorArgument hSeparator⟩
  refine ⟨hResult, ?_⟩
  simp +decide [parsedForm, AreOneLine, fetchCall,
    Statement.lines, Call.isOneLine_line,
    Text.isOneLine_append, hKey, hType, hArguments]

/- What a call reads is returned on one line. -/
theorem isOneLine_fetchForm
    {result function : String}
    (hResult : Text.IsOneLine result)
    (hFunction : Text.IsOneLine function) :
    (fetchForm key result function).IsOneLine := by
  refine ⟨hResult, ?_⟩
  simp +decide [fetchForm, AreOneLine, fetchCall,
    Statement.lines, Call.isOneLine_line,
    Text.isOneLine_append, hKey, hFunction]

/- A handle is read line by line. -/
theorem isOneLine_fetchHandleForm
    {kind : HandleKind}
    (hKnown :
      ∀ name, kind = .known name → Text.IsOneLine name) :
    (fetchHandleForm key kind).IsOneLine := by
  have hElement : Text.IsOneLine "?iup.Element" := by
    decide
  cases kind with
  | known name =>
      have hName := hKnown name rfl
      refine ⟨Text.IsOneLine.append (by decide) hName, ?_⟩
      simp +decide [fetchHandleForm, AreOneLine, fetchCall,
        Statement.lines, Call.isOneLine_render,
        Text.isOneLine_append, hKey, hName]
  | unchecked =>
      refine ⟨hElement, ?_⟩
      simp +decide [fetchHandleForm, AreOneLine, fetchCall,
        Statement.lines, Call.isOneLine_render,
        Text.isOneLine_append, hKey]
  | validated nativeType =>
      refine ⟨hElement, ?_⟩
      simp +decide [fetchHandleForm, AreOneLine, fetchCall,
        Statement.lines, Call.isOneLine_render,
        Text.isOneLine_append, hKey]

/- A member is found by its string line by line. -/
theorem isOneLine_fetchEnumStringForm
    {values : List EnumValue}
    {type : String}
    (hType : Text.IsOneLine type)
    (hValues :
      ∀ value ∈ values,
        Text.IsOneLine (shownName value.name) ∧
          Text.IsOneLine (shownName value.text)) :
    (fetchEnumStringForm key type values).IsOneLine := by
  have hFetch :
      Text.IsOneLine
        ("var ret = "
          ++ (fetchCall key "getStrAttribute").line) := by
    simp +decide [fetchCall, Call.isOneLine_line,
      Text.isOneLine_append, hKey]
  refine ⟨Text.IsOneLine.append (by decide) hType, ?_⟩
  unfold AreOneLine fetchEnumStringForm
  simp only [List.cons_append, List.flatMap_cons,
    List.flatMap_append, List.flatMap_nil, List.append_nil,
    List.flatMap_map, Statement.lines, List.nil_append,
    List.forall_mem_cons, List.forall_mem_append,
    List.forall_mem_flatMap, List.not_mem_nil,
    false_implies, implies_true, and_true]
  refine ⟨hFetch, ?_, by decide⟩
  intro value hValue
  rcases hValues value hValue with ⟨hName, hText⟩
  simp +decide [Text.isOneLine_append, isOneLine_stringLiteral,
    hName, hText]

end Keyed

/-
  A function is readable line by line: its name ends where its
  parameters start, and nothing else is on the line of its
  header or on the lines of its body.
-/
structure FunctionDecl.IsReadable
    (function : FunctionDecl) : Prop where
  name : '(' ∉ function.name.toList
  header : Text.IsOneLine function.header
  body : AreOneLine function.body

end Zig

------------------------------------------------------------
-- Readable Data
------------------------------------------------------------

/-
  No text of an attribute has a line feed, documentation apart,
  and its name does not look like the start of parameters.
-/
structure Attribute.IsReadable
    (a : Attribute) : Prop extends a.IsOneLine where
  key : ∀ s, a.key = some s → Text.IsOneLine s
  values :
    ∀ value ∈ present a.enumValues,
      Text.IsOneLine (shownName value.name) ∧
        Text.IsOneLine (shownName value.text)
  ends : '(' ∉ (shownName a.name).toList

/- The same for a callback. -/
structure Callback.IsReadable
    (c : Callback) : Prop where
  name : c.IsOneLine
  key : ∀ s, c.key = some s → Text.IsOneLine s
  ends : '(' ∉ (shownName c.name).toList

/- A role of a readable attribute or callback. -/
def Zig.Role.IsReadable : Role → Prop
  | .getter a | .setter a | .nameSetter a => a.IsReadable
  | .handler c => c.IsReadable

namespace Attribute

variable {a : Attribute}
variable {rule : Rule}
variable {context : Context}

/- The key of a readable attribute is one line. -/
theorem IsReadable.boundKey
    (hReadable : a.IsReadable)
    {key : Key}
    (hKey : a.boundKey = .ok key) :
    Text.IsOneLine key.name := by
  rcases bind_eq_ok_iff.mp hKey with ⟨numbering, _, hRest⟩
  rw [← Except.ok.inj hRest]
  exact isOneLine_shownName hReadable.key

/- The values that its forms tell apart are on one line. -/
theorem IsReadable.formValues
    (hReadable : a.IsReadable)
    {values : List EnumValue}
    (hValues : a.formValues rule = .ok values) :
    ∀ value ∈ values,
      Text.IsOneLine (shownName value.name) ∧
        Text.IsOneLine (shownName value.text) := by
  intro value hValue
  exact
    hReadable.values value
      (mem_present_of_formValues hValues hValue)

/- Its setters have bodies of one line a line. -/
theorem IsReadable.areOneLine_setterForms
    (hReadable : a.IsReadable)
    {forms : List SetterForm}
    (hForms : a.setterForms context rule = .ok forms) :
    ∀ form ∈ forms, AreOneLine form.body := by
  rcases exists_parts_of_setterForms hForms with
    ⟨values, separator, key, hValues, hSeparator, hBound⟩
  have hKey := hReadable.boundKey hBound
  have hBare := isBareSeparator_of_formSeparator hSeparator
  intro form hForm
  cases (setterForms_spec hValues hSeparator hBound hForms).1
      form hForm with
  | scalar hScalar =>
      cases rule <;> cases hScalar
      all_goals
        exact areOneLine_scalarForm context hKey _ (by decide)
  | pair hPair =>
      cases rule <;> cases hPair
      all_goals
        exact
          areOneLine_encodedForm context hKey (by decide)
            (by decide) hBare
  | pointer =>
      simp +decide [pointerForm, AreOneLine, Statement.lines,
        Call.isOneLine_line, hKey]
  | handle => exact areOneLine_handleForm context hKey _
  | handleName =>
      simpa [handleNameForm, AreOneLine] using
        isOneLine_storeString context hKey
          (by decide : Text.IsOneLine "arg")
  | void =>
      simpa [SetterForm.plain, AreOneLine] using
        isOneLine_storeString context hKey
          (by decide : Text.IsOneLine "null")
  | date =>
      simp +decide [dateForm, SetterForm.plain, AreOneLine,
        storeString, storeCall, Statement.lines,
        Call.isOneLine_line, hKey]
  | rgb =>
      simp +decide [rgbForm, SetterForm.plain, AreOneLine,
        storeCall, Statement.lines, Call.isOneLine_line, hKey]
  | enumInt =>
      simp +decide [enumIntForm, SetterForm.plain, AreOneLine,
        clearCall, storeCall, Statement.lines,
        Call.isOneLine_line, Text.isOneLine_append, hKey]
  | enumString =>
      exact
        areOneLine_enumStringForm context hKey _
          (hReadable.formValues hValues)

/- So has its getter, and what it returns is on one line. -/
theorem IsReadable.isOneLine_getterForm?
    (hReadable : a.IsReadable)
    {form : GetterForm}
    (hForm : a.getterForm? rule = .ok (some form)) :
    form.IsOneLine := by
  rcases exists_parts_of_getterForm? hForm with
    ⟨values, separator, key, hValues, hSeparator, hBound⟩
  have hKey := hReadable.boundKey hBound
  have hBare := isBareSeparator_of_formSeparator hSeparator
  have hName := isOneLine_shownName hReadable.name
  cases (getterForm?_spec hValues hSeparator hBound hForm).1
      form rfl with
  | fetched hFetched =>
      cases rule <;> cases hFetched
      all_goals
        exact isOneLine_fetchForm hKey (by decide) (by decide)
  | parsed hParsed =>
      cases rule <;> cases hParsed
      all_goals
        exact
          isOneLine_parsedForm hKey (by decide) (by decide)
            hBare
  | pointer =>
      refine ⟨(by decide : Text.IsOneLine "?*T"), ?_⟩
      simp +decide [fetchPointerForm, AreOneLine,
        Statement.lines, Call.isOneLine_line,
        Text.isOneLine_append, hKey]
  | handle =>
      apply isOneLine_fetchHandleForm hKey
      intro name hKind
      exact hReadable.handle name (elementName_of_known hKind)
  | enumInt =>
      refine ⟨hName, ?_⟩
      simp +decide [fetchEnumIntForm, AreOneLine, fetchCall,
        Statement.lines, Call.isOneLine_line,
        Text.isOneLine_append, hKey, hName]
  | enumString =>
      exact
        isOneLine_fetchEnumStringForm hKey hName
          (hReadable.formValues hValues)

end Attribute

------------------------------------------------------------
-- Readable Functions
------------------------------------------------------------

/- The setters of a readable attribute have one-line bodies. -/
theorem Attribute.IsReadable.areOneLine_setters
    {a : Attribute}
    {context : Context}
    {setters : List FunctionDecl}
    (hReadable : a.IsReadable)
    (hSetters : a.setters context = .ok setters) :
    ∀ function ∈ setters, AreOneLine function.body := by
  rcases setters_cases hSetters with
    ⟨_, rfl⟩ |
    ⟨_, rule, forms, numbering, name, _, _, hForms, _, rfl⟩
  · simp
  · apply forall_documentFirst
    · exact fun _ hBody => hBody
    · intro function hFunction
      rcases List.mem_map.mp hFunction with ⟨form, hForm, rfl⟩
      exact
        (hReadable.areOneLine_setterForms hForms form
          hForm).chained context

/- Its getter is on the lines that belong to it. -/
theorem Attribute.IsReadable.areOneLine_getter
    {a : Attribute}
    {getter : FunctionDecl}
    (hReadable : a.IsReadable)
    (hGetter : a.getter? = .ok (some getter)) :
    Text.IsOneLine getter.header ∧ AreOneLine getter.body := by
  rcases getter?_cases hGetter with
    ⟨_, hNone⟩ | ⟨_, rule, form?, numbering, _, _, hForm, hSome⟩
  · cases hNone
  · rcases Option.map_eq_some_iff.mp hSome.symm with
      ⟨form, rfl, rfl⟩
    have hLines := hReadable.isOneLine_getterForm? hForm
    refine ⟨?_, hLines.body⟩
    apply isOneLine_header
    · exact
        Text.IsOneLine.append (by decide)
          (isOneLine_shownName hReadable.name)
    · simp only [GetterForm.function, List.cons_append,
        List.forall_mem_cons]
      exact
        ⟨by decide,
          isOneLine_extraParams form.generic numbering⟩
    · exact hLines.result

namespace Zig

variable {context : Context}
variable {role : Role}
variable {function : FunctionDecl}

/- The name of a readable role does not start parameters. -/
theorem Role.IsReadable.ends
    (hReadable : role.IsReadable) :
    '(' ∉ role.name.toList := by
  have hLabel :
      ∀ a : Attribute, a.IsReadable →
        '(' ∉ a.setterLabel.toList := by
    intro a hAttribute
    have hForeign : Naming.IsForeign '(' :=
      Text.isForeign_of_not_isBare (by decide)
    unfold Attribute.setterLabel
    split
    · intro hMember
      exact
        hAttribute.ends (hForeign.mem_of_mem_camelCase hMember)
    · simp [hAttribute.ends]
  cases role with
  | getter a =>
      have hName := Attribute.IsReadable.ends hReadable
      simp [Role.name, hName]
  | setter a => exact hLabel a hReadable
  | nameSetter a =>
      have hName := hLabel a hReadable
      simp [Role.name, hName]
  | handler c =>
      have hName := Callback.IsReadable.ends hReadable
      simp [Role.name, hName]

/- A function that is declared for a readable role is readable. -/
theorem Role.IsReadable.isReadable_function
    (hReadable : role.IsReadable)
    (hDeclared : role.IsDeclaredBy context function) :
    function.IsReadable := by
  have hName : '(' ∉ function.name.toList := by
    rw [hDeclared.name_eq]
    exact hReadable.ends
  have hSetter :
      ∀ (a : Attribute) setters,
        a.IsReadable →
        a.setters context = .ok setters →
        function ∈ setters →
        function.IsReadable :=
    fun a setters hAttribute hSetters hMember =>
      ⟨hName,
        hAttribute.toIsOneLine.headers hSetters function
          hMember,
        hAttribute.areOneLine_setters hSetters function
          hMember⟩
  cases role with
  | getter a =>
      have hLines :=
        Attribute.IsReadable.areOneLine_getter hReadable
          hDeclared
      exact ⟨hName, hLines.1, hLines.2⟩
  | setter a =>
      rcases hDeclared with ⟨others, hSetters⟩
      exact hSetter a _ hReadable hSetters (by simp)
  | nameSetter a =>
      rcases hDeclared with ⟨first, hSetters⟩
      exact hSetter a _ hReadable hSetters (by simp)
  | handler c =>
      have hCallback : c.IsReadable := hReadable
      have hHeader :
          Text.IsOneLine function.header := by
        apply Callback.isOneLine_setter _ hDeclared
        rintro _ ⟨⟩
        exact hCallback.name
      refine ⟨hName, hHeader, ?_⟩
      rcases Callback.setter_eq_ok_iff.mp hDeclared with
        ⟨_, ⟨⟩, rfl⟩
      apply AreOneLine.chained
      have hShown := isOneLine_shownName hCallback.name
      have hKey := isOneLine_shownName hCallback.key
      cases context <;>
        simp +decide [Callback.form, SetterForm.plain,
          AreOneLine, Statement.lines, handlerTypeName,
          targetOf, Target.text, Text.isOneLine_append,
          isOneLine_stringLiteral, hShown, hKey]

/- All roles of readable attributes and callbacks are readable. -/
theorem isReadable_blockRoles
    {attributes : List Attribute}
    {callbacks : List Callback}
    (hAttributes : ∀ a ∈ attributes, a.IsReadable)
    (hCallbacks : ∀ c ∈ callbacks, c.IsReadable) :
    ∀ role ∈ blockRoles context attributes callbacks,
      role.IsReadable := by
  unfold blockRoles
  rw [List.forall_mem_append, List.forall_mem_map]
  refine ⟨?_, hCallbacks⟩
  intro role hRole
  rcases List.mem_flatMap.mp hRole with ⟨a, hListed, hMember⟩
  have hReadable :=
    hAttributes a (List.mem_of_mem_filter hListed)
  unfold Attribute.roles Attribute.setterRoles at hMember
  rcases List.mem_append.mp hMember with hGetter | hSetter
  · split at hGetter
    · rw [List.mem_singleton.mp hGetter]
      exact hReadable
    · cases hGetter
  · split at hSetter
    · split at hSetter
      · simp only [List.mem_cons, List.not_mem_nil, or_false]
          at hSetter
        rcases hSetter with rfl | rfl
        · exact hReadable
        · exact hReadable
      · rw [List.mem_singleton.mp hSetter]
        exact hReadable
    · cases hSetter

------------------------------------------------------------
-- Reading
------------------------------------------------------------

/- The name that a line declares a function of, if it does. -/
def declaredName?
    (line : List Char) : Option String :=
  if "pub fn ".toList.isPrefixOf line then
    some (String.ofList ((line.drop 7).takeWhile (· ≠ '(')))
  else
    none

/- The names of the functions that a text declares, in order. -/
def declaredNames
    (text : String) : List String :=
  (Text.splitAtEach '\n' text.toList).filterMap declaredName?

/- A line of documentation, at the margin. -/
def isDocumentation
    (line : List Char) : Bool :=
  ['/', '/', '/'].isPrefixOf line

/-
  Lines are outlined: documentation stands only right before a
  line that declares a function.
-/
inductive IsOutlined : List (List Char) → Prop where
  | nil : IsOutlined []
  | code
      {line : List Char}
      {rest : List (List Char)}
      (hCode : ¬ isDocumentation line)
      (hRest : IsOutlined rest) :
      IsOutlined (line :: rest)
  | declared
      {comments : List (List Char)}
      {line : List Char}
      {rest : List (List Char)}
      (hComments : ∀ comment ∈ comments, isDocumentation comment)
      (hDeclared : (declaredName? line).isSome)
      (hRest : IsOutlined rest) :
      IsOutlined (comments ++ line :: rest)

/- Outlined lines may follow each other. -/
theorem IsOutlined.append
    {lines others : List (List Char)}
    (hLines : IsOutlined lines)
    (hOthers : IsOutlined others) :
    IsOutlined (lines ++ others) := by
  induction hLines with
  | nil => exact hOthers
  | code hCode _ ih => exact .code hCode ih
  | declared hComments hDeclared _ ih =>
      rw [List.append_assoc, List.cons_append]
      exact .declared hComments hDeclared ih

/- Lines that are neither documentation nor declare anything. -/
def isInner
    (line : List Char) : Bool :=
  !isDocumentation line && (declaredName? line).isNone

/- Such lines are outlined. -/
theorem isOutlined_of_inner
    {lines : List (List Char)}
    (hInner : ∀ line ∈ lines, isInner line) :
    IsOutlined lines := by
  induction lines with
  | nil => exact .nil
  | cons line rest ih =>
      rw [List.forall_mem_cons] at hInner
      have hCode : ¬ isDocumentation line := by
        have hHere := (Bool.and_eq_true_iff.mp hInner.1).1
        simpa using hHere
      exact .code hCode (ih hInner.2)

/- Documentation and such lines declare no name. -/
theorem declaredName?_of_inner
    {line : List Char}
    (hInner : isInner line) :
    declaredName? line = none :=
  Option.isNone_iff_eq_none.mp
    (Bool.and_eq_true_iff.mp hInner).2

/- Nor does documentation. -/
theorem declaredName?_of_documentation
    {line : List Char}
    (hDocumentation : isDocumentation line) :
    declaredName? line = none := by
  rcases List.isPrefixOf_iff_prefix.mp hDocumentation with
    ⟨rest, rfl⟩
  rfl

/- Lines behind blanks are inner ones. -/
theorem isInner_indentLine
    (line : String) :
    isInner (indentLine line).toList := by
  unfold indentLine
  split
  · decide
  · rw [String.toList_append]
    rfl

/- The name of a function is read off its first line. -/
theorem declaredName?_header
    {function : FunctionDecl}
    (hName : '(' ∉ function.name.toList) :
    declaredName? (function.header ++ " \x7b").toList =
      some function.name := by
  let rest :=
    Text.joinWith ", " (function.params.map Param.render)
      ++ ") " ++ function.result ++ " \x7b"
  have hLine :
      (function.header ++ " \x7b").toList =
        "pub fn ".toList
          ++ (function.name.toList ++ '(' :: rest.toList) := by
    simp [FunctionDecl.header, rest]
  have hTaken :
      (function.name.toList ++ '(' :: rest.toList).takeWhile
          (· ≠ '(') =
        function.name.toList := by
    rw [List.takeWhile_append_of_pos]
    · simp
    · intro c hMember
      have hOther : c ≠ '(' := by
        rintro rfl
        exact hName hMember
      exact decide_eq_true hOther
  unfold declaredName?
  rw [hLine, if_pos (List.isPrefixOf_iff_prefix.mpr ⟨_, rfl⟩)]
  have hDrop :
      ("pub fn ".toList
          ++ (function.name.toList ++ '(' :: rest.toList)).drop 7 =
        function.name.toList ++ '(' :: rest.toList := rfl
  rw [hDrop, hTaken, String.ofList_toList]

------------------------------------------------------------
-- Lines of a Block
------------------------------------------------------------

/- Each line of a comment is documentation. -/
theorem isDocumentation_of_mem_docLines
    {text line : List Char}
    (hLine : line ∈ docLines text) :
    isDocumentation line := by
  rcases mem_docLines_cases hLine with rfl | ⟨source, _, _, rfl⟩
  · rfl
  · rfl

/- Lines with line feeds come before the lines of what follows. -/
theorem splitAtEach_feeds
    {lines : List (List Char)}
    (hInside : ∀ line ∈ lines, '\n' ∉ line)
    (text : List Char) :
    Text.splitAtEach '\n' (lines.flatMap (· ++ ['\n']) ++ text) =
      lines ++ Text.splitAtEach '\n' text := by
  induction lines with
  | nil => rfl
  | cons line rest ih =>
      rw [List.forall_mem_cons] at hInside
      rw [List.flatMap_cons, List.append_assoc,
        List.append_assoc, List.singleton_append,
        Text.splitAtEach_append_cons, ih hInside.2,
        Text.splitAtEach_of_not_mem hInside.1]
      rfl

/- So do the lines of a comment. -/
theorem splitAtEach_docComment
    (documentation : Option String)
    (text : String) :
    ∃ comments,
      Text.splitAtEach '\n'
          (docComment documentation ++ text).toList =
        comments ++ Text.splitAtEach '\n' text.toList ∧
      ∀ comment ∈ comments, isDocumentation comment := by
  cases documentation with
  | none =>
      exact
        ⟨[], by rw [docComment, String.empty_append]; rfl,
          by simp⟩
  | some source =>
      refine
        ⟨docLines source.toList, ?_,
          fun _ => isDocumentation_of_mem_docLines⟩
      rw [docComment, String.toList_append,
        String.toList_ofList]
      exact
        splitAtEach_feeds
          (fun line hLine => (docLines_line hLine).2) _

/-
  A readable function is written as its documentation, the line
  of its header, and inner lines.
-/
theorem splitAtEach_render
    {function : FunctionDecl}
    (hReadable : function.IsReadable) :
    ∃ comments inner,
      Text.splitAtEach '\n' function.render.toList =
        comments
          ++ (function.header ++ " \x7b").toList :: inner ∧
      (∀ comment ∈ comments, isDocumentation comment) ∧
      ∀ line ∈ inner, isInner line := by
  let body := function.body.flatMap Statement.lines
  rcases splitAtEach_docComment function.documentation
      (block function.header body) with
    ⟨comments, hComments, hDocumentation⟩
  have hHeader :
      Text.splitAtEach '\n' (function.header ++ " \x7b").toList =
        [(function.header ++ " \x7b").toList] :=
    Text.splitAtEach_of_not_mem
      (hReadable.header.append (by decide))
  have hBody :
      ((body.map indentLine).flatMap fun line =>
          Text.splitAtEach '\n' line.toList) =
        body.map fun line => (indentLine line).toList := by
    rw [List.flatMap_map, ← List.flatMap_pure_eq_map]
    apply List.flatMap_congr
    intro line hLine
    apply Text.splitAtEach_of_not_mem
    unfold indentLine
    split
    · decide
    · exact
        Text.IsOneLine.append (by decide)
          (hReadable.body line hLine)
  have hBrace :
      Text.splitAtEach '\n' "\x7d".toList = ["\x7d".toList] :=
    Text.splitAtEach_of_not_mem (by decide)
  refine
    ⟨comments,
      (body.map fun line => (indentLine line).toList)
        ++ ["\x7d".toList],
      ?_, hDocumentation, ?_⟩
  · unfold FunctionDecl.render
    rw [hComments]
    unfold block
    rw [Text.splitAtEach_joinLines (by simp)]
    simp only [List.cons_append, List.flatMap_cons,
      List.flatMap_append, List.flatMap_nil, hHeader, hBody,
      hBrace, List.nil_append, List.append_nil]
  · rw [List.forall_mem_append, List.forall_mem_map,
      List.forall_mem_singleton]
    exact ⟨fun line _ => isInner_indentLine line, by decide⟩

/- Its name is the only one on its lines, and they are outlined. -/
theorem outline_render
    {function : FunctionDecl}
    (hReadable : function.IsReadable) :
    declaredNames function.render = [function.name] ∧
      IsOutlined
        (Text.splitAtEach '\n' function.render.toList) := by
  rcases splitAtEach_render hReadable with
    ⟨comments, inner, hLines, hComments, hInner⟩
  have hHeader := declaredName?_header hReadable.name
  unfold declaredNames
  rw [hLines]
  constructor
  · have hBefore : comments.filterMap declaredName? = [] :=
      List.filterMap_eq_nil_iff.mpr fun comment hComment =>
        declaredName?_of_documentation
          (hComments comment hComment)
    have hBehind : inner.filterMap declaredName? = [] :=
      List.filterMap_eq_nil_iff.mpr fun line hLine =>
        declaredName?_of_inner (hInner line hLine)
    rw [List.filterMap_append, List.filterMap_cons_some hHeader,
      hBefore, hBehind]
    rfl
  · apply IsOutlined.declared hComments
    · rw [hHeader]
      rfl
    · exact isOutlined_of_inner hInner

/- The same for many functions.  By induction on them. -/
theorem outline_renderFunctions
    {functions : List FunctionDecl}
    (hReadable : ∀ function ∈ functions, function.IsReadable) :
    declaredNames (renderFunctions functions) =
        functions.map (·.name) ∧
      IsOutlined
        (Text.splitAtEach '\n'
          (renderFunctions functions).toList) := by
  induction functions with
  | nil =>
      exact ⟨by decide, .code (by decide) .nil⟩
  | cons first rest ih =>
      rw [List.forall_mem_cons] at hReadable
      have hFirst := outline_render hReadable.1
      cases rest with
      | nil => exact hFirst
      | cons next others =>
          have hRest := ih hReadable.2
          have hText :
              (renderFunctions (first :: next :: others)).toList =
                first.render.toList
                  ++ '\n' :: '\n'
                    :: (renderFunctions
                      (next :: others)).toList := by
            unfold renderFunctions joinDeclarations
            rw [List.map_cons, List.map_cons, Text.joinWith,
              String.toList_append, String.toList_append,
              List.append_assoc]
            rfl
          have hLines :
              Text.splitAtEach '\n'
                  (renderFunctions
                    (first :: next :: others)).toList =
                Text.splitAtEach '\n' first.render.toList
                  ++ [] :: Text.splitAtEach '\n'
                    (renderFunctions (next :: others)).toList := by
            rw [hText, Text.splitAtEach_append_cons]
            rfl
          unfold declaredNames at hFirst hRest ⊢
          rw [hLines]
          constructor
          · have hGap : declaredName? [] = none := rfl
            rw [List.filterMap_append, hFirst.1,
              List.filterMap_cons_none hGap, hRest.1]
            rfl
          · exact hFirst.2.append (.code (by decide) hRest.2)

/-
  A block that is put together has one function for each of its
  roles, in their order.  What is read off its text are the
  names of these roles, and no documentation stands anywhere
  but right before a function.
-/
theorem block_declares_roles
    {attributes : List Attribute}
    {callbacks : List Callback}
    {functions : List FunctionDecl}
    (hAttributes : ∀ a ∈ attributes, a.IsReadable)
    (hCallbacks : ∀ c ∈ callbacks, c.IsReadable)
    (hBlock :
      functionBlock context attributes
          (some (callbacks.map some)) = .ok functions) :
    List.Forall₂ (Role.IsDeclaredBy context)
        (blockRoles context attributes callbacks) functions ∧
      declaredNames (renderFunctions functions) =
        (blockRoles context attributes callbacks).map
          Role.name ∧
      IsOutlined
        (Text.splitAtEach '\n'
          (renderFunctions functions).toList) := by
  have hDeclared := declared_of_functionBlock hBlock
  have hRoles :
      ∀ role ∈ blockRoles context attributes callbacks,
        role.IsReadable :=
    isReadable_blockRoles hAttributes hCallbacks
  have hReadable :
      ∀ function ∈ functions, function.IsReadable := by
    intro function hFunction
    rcases exists_left_of_forall₂ hDeclared hFunction with
      ⟨role, hRole, hHere⟩
    exact (hRoles role hRole).isReadable_function hHere
  have hOutline := outline_renderFunctions hReadable
  refine ⟨hDeclared, ?_, hOutline.2⟩
  rw [hOutline.1]
  exact map_name_of_declared hDeclared

end Zig

------------------------------------------------------------
-- A Block
------------------------------------------------------------

/- An action: it can only be written, at any time. -/
def wipe : Attribute :=
  { sizeNumber "WipeAll" false with
    type := some .void
    format := some .binary
    writeOnly := some true
    documentation := some "Wipes everything." }

/- An attribute that is still described, but deprecated. -/
def retired : Attribute :=
  { formerSize with documentation := some "Not in use." }

/- These attributes are readable. -/
theorem isReadable_toolAttributes :
    ∀ a ∈ [menuHandle, retired, wipe], a.IsReadable := by
  have hReadable :
      ∀ a : Attribute, ∀ name : String,
        a.name = some name →
        a.key = some name →
        present a.enumValues = [] →
        a.handle.bind (·.elementName) = none →
        Text.IsOneLine name →
        '(' ∉ name.toList →
        a.IsReadable := by
    intro a name hName hKey hValues hHandle hLine hEnds
    refine ⟨⟨?_, ?_⟩, ?_, ?_, ?_⟩
    · rintro _ hSome
      rw [hName] at hSome
      cases hSome
      exact hLine
    · rintro _ hSome
      rw [hHandle] at hSome
      cases hSome
    · rintro _ hSome
      rw [hKey] at hSome
      cases hSome
      exact hLine
    · simp [hValues]
    · rw [hName]
      exact hEnds
  simp only [List.forall_mem_cons]
  exact
    ⟨hReadable menuHandle "MENU" rfl rfl rfl rfl (by decide)
        (by decide),
      hReadable retired "OLD" rfl rfl rfl rfl (by decide)
        (by decide),
      hReadable wipe "WipeAll" rfl rfl rfl rfl (by decide)
        (by decide),
      by simp⟩

/-
  Of three attributes two are current: a handle has three
  functions, an action has one with a bare verb.
-/
theorem tool_block_declares_roles :
    ∃ functions,
      functionBlock .live [menuHandle, retired, wipe]
          (some ([pressCallback].map some)) = .ok functions ∧
        declaredNames (renderFunctions functions) =
          [ "getMENU", "setMENU", "setMENUHandleName",
            "wipeAll", "setpressCallback" ] := by
  have hCallbacks : ∀ c ∈ [pressCallback], c.IsReadable := by
    rw [List.forall_mem_singleton]
    refine ⟨?_, ?_, by decide⟩
    · rintro _ ⟨⟩
      decide
    · rintro _ ⟨⟩
      decide
  have hBlock :
      ∃ functions,
        functionBlock .live [menuHandle, retired, wipe]
          (some ([pressCallback].map some)) = .ok functions :=
    ⟨_, rfl⟩
  rcases hBlock with ⟨functions, hBlock⟩
  have hNames :=
    (block_declares_roles isReadable_toolAttributes hCallbacks
      hBlock).2.1
  refine ⟨functions, hBlock, hNames.trans ?_⟩
  decide

end ElementBindings
