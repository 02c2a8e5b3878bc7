import ElementBindings.Proofs.Zig.Declared
import ElementBindings.Proofs.Zig.Render

/-
  All accessors of an attribute address it alike.

  What a setter stores is only read back if the getter uses the
  same key and the same ids, and parses with the separator that
  the setter encodes with.  Every form makes all of its calls
  under the key that it is given, and passes on the separator
  that it is given; its function declares the ids of that key
  right behind the receiver and the type.  The forms of an
  attribute are given one key and one separator, those of the
  getter and those of all setters.

  Key definitions include:
    * `Zig.Reaches`
    * `Zig.FunctionDecl.Addresses`
    * `Zig.FunctionDecl.encodedWith`
    * `Zig.FunctionDecl.parsedWith`

  Key theorems include:
    * `Attribute.writesUnder_of_setterForms`
    * `Attribute.readsUnder_of_getterForm?`
    * `Attribute.accessors_address_alike`
-/

namespace ElementBindings

open Zig

------------------------------------------------------------
-- Bodies
------------------------------------------------------------

namespace Zig

/- A statement that is not just a line of text. -/
def Statement.isKnown : Statement → Bool
  | .other _ => false
  | _ => true

/- The separator that components are joined with. -/
def Statement.encodedWith? : Statement → Option Char
  | .encodeValue _ _ separator => separator
  | _ => none

/- The separator that components are told apart by. -/
def Statement.parsedWith? : Statement → Option Char
  | .returnParsed _ separator => separator
  | _ => none

/-
  Statements call the interop layer, all of their calls are on
  one target and under one key, and there is no line of text
  that could hold another call.
-/
structure Reaches
    (body : List Statement)
    (target : Target)
    (key : Key) : Prop where
  called : body.flatMap Statement.calls ≠ []
  addressed :
    ∀ call ∈ body.flatMap Statement.calls,
      call.target = target ∧ call.key = key
  known : body.all Statement.isKnown

/-
  A function addresses an attribute: its parameters are the
  receiver, the type if it is generic, the ids of the key, and
  then values that are not named like ids.  Its body reaches
  the attribute under the key.
-/
structure FunctionDecl.Addresses
    (function : FunctionDecl)
    (context : Context)
    (generic : Bool)
    (key : Key) : Prop where
  params :
    ∃ values,
      function.params =
        selfParam context
          :: (if generic then [typeParam] else [])
          ++ idParams key.numbering ++ values ∧
      ∀ value ∈ values,
        value.name ∉ (idParams key.numbering).map (·.name)
  body : Reaches function.body (targetOf context) key

/- The separators that a function encodes with. -/
def FunctionDecl.encodedWith
    (function : FunctionDecl) : List Char :=
  function.body.filterMap Statement.encodedWith?

/- The separators that a function parses with. -/
def FunctionDecl.parsedWith
    (function : FunctionDecl) : List Char :=
  function.body.filterMap Statement.parsedWith?

variable {body : List Statement}
variable {target : Target}
variable {context : Context}
variable {key : Key}
variable {separator : Option Char}
variable {generic : Bool}

/- A single call is enough to reach an attribute. -/
theorem reaches_of_call
    {call : Call}
    (hCalls : body.flatMap Statement.calls = [call])
    (hTarget : call.target = target)
    (hKey : call.key = key)
    (hKnown : body.all Statement.isKnown) :
    Reaches body target key := by
  refine ⟨?_, ?_, hKnown⟩
  · rw [hCalls]
    exact List.cons_ne_nil _ _
  · rw [hCalls, List.forall_mem_singleton]
    exact ⟨hTarget, hKey⟩

/- Chaining adds no calls. -/
theorem Reaches.chained
    (hBody : Reaches body target key)
    (context : Context) :
    Reaches (chained context body) target key := by
  cases context with
  | live => exact hBody
  | initializer =>
      have hCalls :
          (Zig.chained .initializer body).flatMap
              Statement.calls =
            body.flatMap Statement.calls := by
        simp [Zig.chained, Statement.calls]
      refine ⟨?_, ?_, ?_⟩
      · rw [hCalls]
        exact hBody.called
      · rw [hCalls]
        exact hBody.addressed
      · simpa [Zig.chained, Statement.isKnown]
          using hBody.known

/- Nor does it encode anything. -/
theorem filterMap_chained
    (context : Context)
    (body : List Statement) :
    (chained context body).filterMap Statement.encodedWith? =
      body.filterMap Statement.encodedWith? := by
  cases context with
  | live => rfl
  | initializer =>
      rw [chained, List.cons_append,
        List.filterMap_cons_none rfl, List.filterMap_append]
      exact List.append_nil _

------------------------------------------------------------
-- Forms of Setters
------------------------------------------------------------

/- The names that parameters of ids have. -/
def idNames : List String :=
  ["index", "index_lin", "index_col"]

/- There are no others. -/
theorem mem_idNames
    {numbering : Numbering}
    {name : String}
    (hName : name ∈ (idParams numbering).map (·.name)) :
    name ∈ idNames := by
  cases numbering with
  | no => cases hName
  | oneId => exact List.mem_append_left _ hName
  | twoIds => exact List.mem_cons_of_mem _ hName

/- The value of a setter has another one. -/
theorem arg_not_mem_idNames : "arg" ∉ idNames := by
  decide

/-
  A form writes an attribute under a key, with a separator.
  Its values are not named like ids.
-/
structure SetterForm.WritesUnder
    (form : SetterForm)
    (context : Context)
    (key : Key)
    (separator : Option Char)
    (generic : Bool) : Prop where
  generic : form.generic = generic
  values : ∀ value ∈ form.params, value.name ∉ idNames
  body : Reaches form.body (targetOf context) key
  encoded :
    form.body.filterMap Statement.encodedWith? =
      separator.toList

/- The setter of such a form addresses the attribute. -/
theorem SetterForm.WritesUnder.addresses
    {form : SetterForm}
    (hForm : form.WritesUnder context key separator generic)
    (documentation : Option String)
    (name : String) :
    (form.function context key.numbering documentation
      name).Addresses context generic key := by
  refine ⟨⟨form.params, ?_, ?_⟩, hForm.body.chained context⟩
  · rw [← hForm.generic]
    rfl
  · intro value hValue hName
    exact hForm.values value hValue (mem_idNames hName)

/- It encodes with the separator of the form. -/
theorem SetterForm.WritesUnder.encodedWith_eq
    {form : SetterForm}
    (hForm : form.WritesUnder context key separator generic)
    (numbering : Numbering)
    (documentation : Option String)
    (name : String) :
    (form.function context numbering documentation
      name).encodedWith = separator.toList := by
  rw [← hForm.encoded]
  exact filterMap_chained context form.body

variable (context key)

/- One value is stored by one statement. -/
theorem writes_stored
    {name : String}
    (type function : String)
    (arguments : List String)
    (hName : name ∉ idNames) :
    (SetterForm.plain [⟨name, type⟩]
      [.perform (storeCall context key function
        arguments)]).WritesUnder context key none false := by
  refine ⟨rfl, ?_, reaches_of_call rfl rfl rfl rfl, rfl⟩
  simp only [SetterForm.plain, List.forall_mem_singleton]
  exact hName

/- Two values are laid out with a separator or without one. -/
theorem writes_pairForm
    {first second : String}
    (firstType secondType function : String)
    (separator : Option Char)
    (hFirst : first ∉ idNames)
    (hSecond : second ∉ idNames) :
    (encodedForm context key
      [⟨first, firstType⟩, ⟨second, secondType⟩] function
      separator).WritesUnder context key separator false := by
  refine ⟨rfl, ?_, reaches_of_call rfl rfl rfl rfl, ?_⟩
  · simp only [encodedForm, SetterForm.plain,
      List.forall_mem_cons, List.not_mem_nil, false_implies,
      implies_true, and_true]
    exact ⟨hFirst, hSecond⟩
  · cases separator with
    | none => rfl
    | some c => rfl

/- A pointer of any type. -/
theorem writes_pointerForm :
    (pointerForm context key).WritesUnder context key none
      true := by
  refine ⟨rfl, ?_, reaches_of_call rfl rfl rfl rfl, rfl⟩
  simp only [pointerForm, List.forall_mem_singleton]
  exact arg_not_mem_idNames

/- A handle of any kind; a check is none of its calls. -/
theorem writes_handleForm
    (kind : HandleKind) :
    (handleForm context key kind).WritesUnder context key none
      false := by
  have hAssign :=
    fun type =>
      writes_stored context key type "setHandleAttribute"
        ["arg"] arg_not_mem_idNames
  cases kind with
  | known name => exact hAssign _
  | unchecked => exact hAssign _
  | validated nativeType =>
      have hValues := (hAssign "anytype").values
      cases context with
      | initializer =>
          exact
            ⟨rfl, hValues, reaches_of_call rfl rfl rfl rfl, rfl⟩
      | live =>
          exact
            ⟨rfl, hValues, reaches_of_call rfl rfl rfl rfl, rfl⟩

/- A handle by the name of its element. -/
theorem writes_handleNameForm :
    (handleNameForm context key).WritesUnder context key none
      false := by
  refine ⟨rfl, ?_, reaches_of_call rfl rfl rfl rfl, rfl⟩
  simp only [handleNameForm, List.forall_mem_singleton]
  exact arg_not_mem_idNames

/- The three parts of a date. -/
theorem writes_dateForm :
    (dateForm context key).WritesUnder context key none
      false := by
  refine ⟨rfl, ?_, reaches_of_call rfl rfl rfl rfl, rfl⟩
  simp only [dateForm, SetterForm.plain]
  decide

/- A member is stored, or the attribute is removed. -/
theorem writes_enumIntForm
    (type : String) :
    (enumIntForm context key type).WritesUnder context key none
      false := by
  refine ⟨rfl, ?_, ⟨?_, ?_, rfl⟩, rfl⟩
  · simp only [enumIntForm, SetterForm.plain,
      List.forall_mem_singleton]
    exact arg_not_mem_idNames
  · exact List.cons_ne_nil _ _
  · simp [enumIntForm, SetterForm.plain, Statement.calls,
      storeCall, clearCall]

/- Each branch stores under the key that the last one clears. -/
theorem writes_enumStringForm
    (type : String)
    (values : List EnumValue) :
    (enumStringForm context key type values).WritesUnder
      context key none false := by
  have hCalls :
      (enumStringForm context key type values).body.flatMap
          Statement.calls =
        values.map (fun value =>
            (enumBranch context key value).2)
          ++ [clearCall context key] := by
    simp [enumStringForm, SetterForm.plain, Statement.calls]
  refine ⟨rfl, ?_, ⟨?_, ?_, rfl⟩, rfl⟩
  · simp only [enumStringForm, SetterForm.plain,
      List.forall_mem_singleton]
    exact arg_not_mem_idNames
  · rw [hCalls]
    exact List.append_ne_nil_of_right_ne_nil _ (by simp)
  · rw [hCalls, List.forall_mem_append,
      List.forall_mem_singleton, List.forall_mem_map]
    exact ⟨fun _ _ => ⟨rfl, rfl⟩, rfl, rfl⟩

------------------------------------------------------------
-- Forms of Getters
------------------------------------------------------------

variable {context key}

/- A form reads an attribute under a key, with a separator. -/
structure GetterForm.ReadsUnder
    (form : GetterForm)
    (key : Key)
    (separator : Option Char)
    (generic : Bool) : Prop where
  generic : form.generic = generic
  body : Reaches form.body .self key
  parsed :
    form.body.filterMap Statement.parsedWith? =
      separator.toList

/- The getter of such a form addresses the attribute. -/
theorem GetterForm.ReadsUnder.addresses
    {form : GetterForm}
    (hForm : form.ReadsUnder key separator generic)
    (documentation : Option String)
    (name : String) :
    (form.function key.numbering documentation
      name).Addresses .live generic key := by
  refine ⟨⟨[], ?_, by simp⟩, hForm.body⟩
  rw [← hForm.generic, List.append_nil]
  rfl

variable (key)

/- What a call reads is returned. -/
theorem reads_fetchForm
    (result function : String) :
    (fetchForm key result function).ReadsUnder key none
      false :=
  ⟨rfl, reaches_of_call rfl rfl rfl rfl, rfl⟩

/- What a call reads is parsed. -/
theorem reads_parsedForm
    (result type : String)
    (separator : Option Char) :
    (parsedForm key result type separator).ReadsUnder key
      separator false := by
  refine ⟨rfl, reaches_of_call rfl rfl rfl rfl, ?_⟩
  cases separator with
  | none => rfl
  | some c => rfl

/- A pointer of any type. -/
theorem reads_fetchPointerForm :
    (fetchPointerForm key).ReadsUnder key none true :=
  ⟨rfl, reaches_of_call rfl rfl rfl rfl, rfl⟩

/- A handle, as a known element or as any element. -/
theorem reads_fetchHandleForm
    (kind : HandleKind) :
    (fetchHandleForm key kind).ReadsUnder key none false := by
  cases kind with
  | known name =>
      exact ⟨rfl, reaches_of_call rfl rfl rfl rfl, rfl⟩
  | validated nativeType =>
      exact ⟨rfl, reaches_of_call rfl rfl rfl rfl, rfl⟩
  | unchecked =>
      exact ⟨rfl, reaches_of_call rfl rfl rfl rfl, rfl⟩

/- A member that a number is turned into. -/
theorem reads_fetchEnumIntForm
    (type : String) :
    (fetchEnumIntForm key type).ReadsUnder key none false :=
  ⟨rfl, reaches_of_call rfl rfl rfl rfl, rfl⟩

/- Comparisons call nothing. -/
theorem reads_fetchEnumStringForm
    (type : String)
    (values : List EnumValue) :
    (fetchEnumStringForm key type values).ReadsUnder key none
      false := by
  have hCalls :
      (fetchEnumStringForm key type values).body.flatMap
          Statement.calls =
        [fetchCall key "getStrAttribute"] := by
    simp [fetchEnumStringForm, Statement.calls,
      List.flatMap_map]
  refine ⟨rfl, reaches_of_call hCalls rfl rfl ?_, ?_⟩
  · simp [fetchEnumStringForm, Statement.isKnown]
  · rw [Option.toList_none, List.filterMap_eq_nil_iff]
    simp only [fetchEnumStringForm, List.forall_mem_append,
      List.forall_mem_cons, List.forall_mem_map,
      List.not_mem_nil, false_implies, implies_true, and_true]
    exact ⟨⟨rfl, fun _ _ => rfl⟩, rfl⟩

end Zig

------------------------------------------------------------
-- Rules
------------------------------------------------------------

namespace Attribute

variable {a : Attribute}
variable {rule : Rule}
variable {context : Context}

/- The separator of forms is the one of the format, or none. -/
theorem separator_of_formSeparator
    {separator : Option Char}
    (hSeparator : a.formSeparator rule = .ok separator) :
    (rule.IsSeparated →
        ∃ c, separator = some c ∧
          a.format.bind DataFormat.separator? = some c) ∧
      (¬ rule.IsSeparated → separator = none) := by
  have hFound :
      ∀ c, a.separator = .ok c →
        a.format.bind DataFormat.separator? = some c := by
    intro c hChar
    unfold Attribute.separator at hChar
    split at hChar
    · next d hSome => rw [hSome, Except.ok.inj hChar]
    · cases hChar
  cases rule with
  | linColPos | xyPos | range =>
      rcases map_eq_ok_iff.mp hSeparator with ⟨c, hChar, rfl⟩
      exact
        ⟨fun _ => ⟨c, rfl, hFound c hChar⟩, fun hOther =>
          absurd (by simp [Rule.IsSeparated]) hOther⟩
  | _ =>
      cases hSeparator
      exact
        ⟨fun hSeparated => by
          simp [Rule.IsSeparated] at hSeparated, fun _ => rfl⟩

/- The key of an attribute has its text and its numbering. -/
theorem eq_of_boundKey
    {key : Key}
    {numbering : Numbering}
    (hKey : a.boundKey = .ok key)
    (hNumbering : a.numbering = some numbering) :
    key = ⟨shownName a.key, numbering⟩ := by
  unfold boundKey at hKey
  rw [hNumbering] at hKey
  exact (Except.ok.inj hKey).symm

/-
  The forms of all setters write under the key of the attribute
  and with the separator of its format.  A handle has a second
  form, for names.
-/
theorem writesUnder_of_setterForms
    {forms : List SetterForm}
    {separator : Option Char}
    {key : Key}
    (hForms : a.setterForms context rule = .ok forms)
    (hRule : rule ≠ .unsupported)
    (hSeparator : a.formSeparator rule = .ok separator)
    (hKey : a.boundKey = .ok key) :
    forms.map (·.suffix) =
        (if rule = .handle then ["", "HandleName"] else [""]) ∧
      ∀ form ∈ forms,
        form.WritesUnder context key separator
          (rule = .pointer) := by
  rcases exists_parts_of_setterForms hForms with
    ⟨_, _, _, hValues, _, _⟩
  have hSpec := setterForms_spec hValues hSeparator hKey hForms
  refine ⟨by rw [hSpec.2, if_neg hRule], fun form hForm => ?_⟩
  cases hSpec.1 form hForm with
  | scalar hScalar =>
      cases rule <;> cases hScalar
      all_goals
        cases hSeparator
        exact
          writes_stored context key _ _ _ arg_not_mem_idNames
  | pair hPair =>
      cases rule <;> cases hPair
      all_goals
        exact
          writes_pairForm context key _ _ _ separator
            (by decide) (by decide)
  | pointer =>
      cases hSeparator
      exact writes_pointerForm context key
  | handle =>
      cases hSeparator
      exact writes_handleForm context key a.handleKind
  | handleName =>
      cases hSeparator
      exact writes_handleNameForm context key
  | void =>
      cases hSeparator
      exact
        ⟨rfl, by simp [SetterForm.plain],
          reaches_of_call rfl rfl rfl rfl, rfl⟩
  | date =>
      cases hSeparator
      exact writes_dateForm context key
  | rgb =>
      cases hSeparator
      exact writes_stored context key _ _ _ (by decide)
  | enumInt =>
      cases hSeparator
      exact writes_enumIntForm context key _
  | enumString =>
      cases hSeparator
      exact writes_enumStringForm context key _ _

/- So does the form of the getter read, if there is one. -/
theorem readsUnder_of_getterForm?
    {form : GetterForm}
    {separator : Option Char}
    {key : Key}
    (hForm : a.getterForm? rule = .ok (some form))
    (hSeparator : a.formSeparator rule = .ok separator)
    (hKey : a.boundKey = .ok key) :
    form.ReadsUnder key separator (rule = .pointer) := by
  rcases exists_parts_of_getterForm? hForm with
    ⟨_, _, _, hValues, _, _⟩
  have hSpec := getterForm?_spec hValues hSeparator hKey hForm
  cases hSpec.1 form rfl with
  | fetched hFetched =>
      cases rule <;> cases hFetched
      all_goals
        cases hSeparator
        exact reads_fetchForm key _ _
  | parsed hParsed =>
      cases rule <;> cases hParsed
      all_goals exact reads_parsedForm key _ _ separator
  | pointer =>
      cases hSeparator
      exact reads_fetchPointerForm key
  | handle =>
      cases hSeparator
      exact reads_fetchHandleForm key a.handleKind
  | enumInt =>
      cases hSeparator
      exact reads_fetchEnumIntForm key _
  | enumString =>
      cases hSeparator
      exact reads_fetchEnumStringForm key _ _

/- What the setters of an attribute under a rule are called. -/
def setterNames
    (a : Attribute)
    (rule : Rule) : List String :=
  let name := "set" ++ shownName a.name
  if rule = .handle then
    [name, name ++ "HandleName"]
  else
    [name]

/- The setters that are made of the forms of a rule. -/
theorem setters_of_forms
    {forms : List SetterForm}
    {numbering : Numbering}
    {name : String}
    (hWritten : a.hasSetter context = .ok true)
    (hRule : a.rule = .ok rule)
    (hForms : a.setterForms context rule = .ok forms)
    (hNumbering : a.numbering = some numbering)
    (hName : a.setterName = .ok name) :
    a.setters context =
      .ok (documentFirst a.documentation
        (forms.map
          (·.function context numbering none name))) := by
  unfold setters
  rw [hWritten, hRule, hNumbering, hName]
  simp only [ok_bind, if_true, hForms]
  rfl

/-
  Under a rule, an attribute that is not an action and may be
  written at any time has setters in both contexts.  They
  address it under its key, and encode with its separator.
-/
theorem exists_setters
    {numbering : Numbering}
    {separator : Option Char}
    {key : Key}
    (hRule : a.rule = .ok rule)
    (hKnown : rule ≠ .unsupported)
    (hCreation : ¬ isSet a.creationOnly)
    (hWrite : ¬ isSet a.writeOnly)
    (hRead : ¬ isSet a.readOnly)
    (hNumbering : a.numbering = some numbering)
    (hAvailable :
      ∀ context, ∃ forms,
        a.setterForms context rule = .ok forms)
    (hSeparator : a.formSeparator rule = .ok separator)
    (hKey : a.boundKey = .ok key)
    (context : Context) :
    ∃ setters,
      a.setters context = .ok setters ∧
        setters.map (·.name) = a.setterNames rule ∧
        ∀ function ∈ setters,
          function.Addresses context (rule = .pointer) key ∧
            function.encodedWith = separator.toList := by
  have hWritten : a.hasSetter context = .ok true :=
    hasSetter_eq_true_iff.mpr
      ⟨fun hLate => hCreation hLate.1, hRead, rule, hRule,
        hKnown⟩
  have hName :
      a.setterName = .ok ("set" ++ shownName a.name) := by
    unfold setterName
    simp [hWrite]
  rcases hAvailable context with ⟨forms, hForms⟩
  rcases writesUnder_of_setterForms hForms hKnown hSeparator
      hKey with
    ⟨hSuffixes, hWrites⟩
  have hBound := eq_of_boundKey hKey hNumbering
  subst hBound
  refine
    ⟨_, setters_of_forms hWritten hRule hForms hNumbering
      hName, ?_, ?_⟩
  · have hNames :
        (forms.map (·.suffix)).map
            (("set" ++ shownName a.name) ++ ·) =
          a.setterNames rule := by
      rw [hSuffixes]
      unfold setterNames
      split
      · simp
      · simp
    rw [map_name_documentFirst, List.map_map, ← hNames,
      List.map_map]
    rfl
  · apply forall_documentFirst
    · intro function hFunction
      exact ⟨⟨hFunction.1.params, hFunction.1.body⟩, hFunction.2⟩
    · intro function hFunction
      rcases List.mem_map.mp hFunction with ⟨form, hForm, rfl⟩
      have hHere := hWrites form hForm
      exact
        ⟨hHere.addresses _ _, hHere.encodedWith_eq _ _ _⟩

/-
  Where an attribute has a setter and a getter, the setters in
  both contexts, those of a handle by name included, and the
  getter all address it under one key, that of its text and its
  numbering, and declare the ids of this key.  If the rule is
  one for components, all encode and parse with the separator
  of the format; under other rules there is none.
-/
theorem accessors_address_alike
    {setter getter : FunctionDecl}
    {others : List FunctionDecl}
    (hSetters : a.setters context = .ok (setter :: others))
    (hGetter : a.getter? = .ok (some getter)) :
    ∃ rule numbering separator,
      a.rule = .ok rule ∧
      a.numbering = some numbering ∧
      (rule.IsSeparated →
        ∃ c, separator = some c ∧
          a.format.bind DataFormat.separator? = some c) ∧
      (¬ rule.IsSeparated → separator = none) ∧
      (∀ context, ∃ setters,
        a.setters context = .ok setters ∧
          setters.map (·.name) = a.setterNames rule ∧
          ∀ function ∈ setters,
            function.Addresses context (rule = .pointer)
                ⟨shownName a.key, numbering⟩ ∧
              function.encodedWith = separator.toList) ∧
      getter.Addresses .live (rule = .pointer)
        ⟨shownName a.key, numbering⟩ ∧
      getter.parsedWith = separator.toList := by
  rcases setters_cases hSetters with
    ⟨_, hNothing⟩ |
    ⟨hWritten, rule, forms, numbering, name, hRule, hNumbering,
      hForms, _, _⟩
  · cases hNothing
  rcases getter?_cases hGetter with
    ⟨_, hNothing⟩ |
    ⟨hReadable, found, form?, ids, hFound, hIds, hForm, hSome⟩
  · cases hNothing
  rw [hRule, Except.ok.injEq] at hFound
  rw [hNumbering, Option.some.injEq] at hIds
  rw [← hFound] at hForm
  rw [← hIds] at hSome
  rcases Option.map_eq_some_iff.mp hSome.symm with
    ⟨form, rfl, rfl⟩
  rcases hasSetter_eq_true_iff.mp hWritten with
    ⟨_, hRead, _, hHere, hKnown⟩
  rw [hRule, Except.ok.injEq] at hHere
  rw [← hHere] at hKnown
  rcases hasGetter_eq_true_iff.mp hReadable with
    ⟨hCreation, hWrite, _⟩
  rcases exists_parts_of_setterForms hForms with
    ⟨_, separator, key, _, hSeparator, hKey⟩
  have hBound := eq_of_boundKey hKey hNumbering
  subst hBound
  have hReads :=
    readsUnder_of_getterForm? hForm hSeparator hKey
  have hFormat := separator_of_formSeparator hSeparator
  exact
    ⟨rule, numbering, separator, hRule, hNumbering, hFormat.1,
      hFormat.2,
      exists_setters hRule hKnown hCreation hWrite hRead
        hNumbering (exists_setterForms hForms) hSeparator
        hKey,
      hReads.addresses _ _, hReads.parsed⟩

end Attribute

/- A position of two ids, with a colon between its parts. -/
def spot : Attribute :=
  { sizeNumber "Spot" false with
    key := some "CARET"
    type := some .string
    format := some .xyPosColon
    numbering := some .twoIds }

/- What is stored under its two ids is read back there. -/
theorem spot_is_addressed_alike :
    ∃ chained live getter,
      spot.setters .initializer = .ok [chained] ∧
      spot.setters .live = .ok [live] ∧
      spot.getter? = .ok (some getter) ∧
      chained.Addresses .initializer false
        ⟨"CARET", .twoIds⟩ ∧
      live.Addresses .live false ⟨"CARET", .twoIds⟩ ∧
      getter.Addresses .live false ⟨"CARET", .twoIds⟩ ∧
      chained.encodedWith = [':'] ∧
      live.encodedWith = [':'] ∧
      getter.parsedWith = [':'] := by
  have hFirst : spot.setters .live = .ok [_] := rfl
  have hSecond : spot.getter? = .ok (some _) := rfl
  rcases Attribute.accessors_address_alike hFirst hSecond with
    ⟨rule, numbering, separator, hRule, hNumbering, hFormat, _,
      hSetters, hAddresses, hParsed⟩
  have hXy : .xyPos = rule := Except.ok.inj hRule
  have hIds : .twoIds = numbering := Option.some.inj hNumbering
  subst hXy hIds
  rcases hFormat (.inr (.inl rfl)) with ⟨c, rfl, hSome⟩
  have hColon : ':' = c := Option.some.inj hSome
  subst hColon
  have hOne :
      ∀ context, ∃ setter,
        spot.setters context = .ok [setter] ∧
          setter.Addresses context false ⟨"CARET", .twoIds⟩ ∧
          setter.encodedWith = [':'] := by
    intro context
    rcases hSetters context with
      ⟨setters, hThere, hNames, hAlike⟩
    rcases List.map_eq_singleton_iff.mp hNames with
      ⟨setter, rfl, _⟩
    exact ⟨setter, hThere, hAlike setter List.mem_cons_self⟩
  rcases hOne .initializer with ⟨chained, hChained, hThere⟩
  rcases hOne .live with ⟨live, hLive, hHere⟩
  exact
    ⟨chained, live, _, hChained, hLive, hSecond, hThere.1,
      hHere.1, hAddresses, hThere.2, hHere.2, hParsed⟩

end ElementBindings
