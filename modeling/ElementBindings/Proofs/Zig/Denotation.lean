import ElementBindings.Proofs.Zig.Addressing
import ElementBindings.Proofs.Zig.Construction
import ElementBindings.Proofs.Zig.Quotation

/-
  What the literals of a page denote.

  Keys and strings are written between quotes as they are.
  Nothing is escaped, so a literal denotes the text that it is
  made from exactly if this text can be quoted as it is.  The
  class name stands in the frame of the page, all other
  literals in slots, where line boundaries are replaced when
  the slot is indented.

  Key definitions include:
    * `Zig.Quotation.ReadsBack`, `Zig.Quotation.IsMisread`
    * `Zig.Quotation.DenotesUnless`
    * `Attribute.Supplies`, `Callback.Supplies`
    * `Zig.Binding.IsSupplied`

  Key theorems include:
    * `Zig.denotes_verbatim`, `Zig.denotes_indented`
    * `Attribute.supplies_of_accessors`
    * `Zig.Binding.isSupplied_of_blocks`
    * `Catalog.literals_denote`
-/

namespace ElementBindings

open Zig

------------------------------------------------------------
-- Reading
------------------------------------------------------------

namespace Zig

variable {isBarred : Char → Bool}

/-
  A quotation is read back: whatever follows, its literal is
  closed where it ends and denotes its value.
-/
def Quotation.ReadsBack
    (quotation : Quotation)
    (isBarred : Char → Bool) : Prop :=
  ∀ after,
    readLiteral isBarred (quotation.shown ++ '"' :: after) =
      some (octets quotation.value.toList, after)

/-
  A quotation is misread: whatever follows, its literal does
  not denote its value.
-/
def Quotation.IsMisread
    (quotation : Quotation)
    (isBarred : Char → Bool) : Prop :=
  ∀ after rest,
    readLiteral isBarred (quotation.shown ++ '"' :: after) ≠
      some (octets quotation.value.toList, rest)

/-
  A quotation denotes its value unless this holds a quote, a
  backslash, a line feed or a refused character: only then it
  is misread.
-/
structure Quotation.DenotesUnless
    (quotation : Quotation)
    (isBarred isRefused : Char → Bool) : Prop where
  readsBack :
    IsQuotable isRefused quotation.value.toList →
      quotation.ReadsBack isBarred
  isMisread :
    ¬ IsQuotable isRefused quotation.value.toList →
      quotation.IsMisread isBarred

/- A value that is shown as it is may hold what is not barred. -/
theorem denotes_verbatim
    (isBarred : Char → Bool)
    (value : String) :
    (Quotation.verbatim value).DenotesUnless isBarred
      isBarred :=
  ⟨readLiteral_of_quotable, fun hNot _ _ =>
    readLiteral_ne_of_not_quotable hNot⟩

/- In an indented text line boundaries are refused, too. -/
def isRefusedInside
    (isBarred : Char → Bool)
    (c : Char) : Bool :=
  isBarred c || Text.isLineBoundary c

/- What can be quoted there can be quoted anywhere. -/
theorem isQuotable_inside_iff
    {s : List Char} :
    IsQuotable (isRefusedInside isBarred) s ↔
      IsQuotable isBarred s ∧
        ∀ c ∈ s, Text.isLineBoundary c = false := by
  unfold IsQuotable isRefusedInside
  simp only [Bool.or_eq_false_iff]
  constructor
  · intro hInside
    exact
      ⟨fun c hChar =>
          ⟨(hInside c hChar).1, (hInside c hChar).2.1,
            (hInside c hChar).2.2.1, (hInside c hChar).2.2.2.1⟩,
        fun c hChar => (hInside c hChar).2.2.2.2⟩
  · intro hBoth c hChar
    rcases hBoth.1 c hChar with ⟨hQuote, hEscape, hFeed, hFree⟩
    exact ⟨hQuote, hEscape, hFeed, hFree, hBoth.2 c hChar⟩

/-
  A value in an indented text may not hold line boundaries:
  one that does is broken off by a line feed.
-/
theorem denotes_indented
    (isBarred : Char → Bool)
    (width : Nat)
    (value : String) :
    ((Quotation.verbatim value).indented width).DenotesUnless
      isBarred (isRefusedInside isBarred) := by
  constructor
  · intro (hQuotable : IsQuotable _ value.toList) after
    rcases isQuotable_inside_iff.mp hQuotable with
      ⟨hHere, hInside⟩
    change
      readLiteral isBarred
          (Text.indentInside width value.toList
            ++ '"' :: after) =
        some (octets value.toList, after)
    rw [Text.indentInside_of_inside hInside]
    exact readLiteral_of_quotable hHere after
  · intro hNot after rest
    change
      readLiteral isBarred
          (Text.indentInside width value.toList
            ++ '"' :: after) ≠
        some (octets value.toList, rest)
    by_cases hInside :
        ∀ c ∈ value.toList, Text.isLineBoundary c = false
    · rw [Text.indentInside_of_inside hInside]
      apply readLiteral_ne_of_not_quotable
      intro hQuotable
      exact hNot (isQuotable_inside_iff.mpr ⟨hQuotable, hInside⟩)
    · rcases Text.exists_indentInside hInside width with
        ⟨front, boundary, back, more, hValue, hShown⟩
      rw [hShown, hValue, List.append_assoc, List.cons_append]
      exact readLiteral_ne_of_lineFeed back

/- So it is with all quotations in the slots of a page. -/
theorem Binding.denotes_slotQuotations
    (binding : Binding)
    (isBarred : Char → Bool) :
    ∀ quotation ∈ binding.slotQuotations,
      quotation.DenotesUnless isBarred
        (isRefusedInside isBarred) := by
  have hWidth :
      ∀ (width : Nat) (sources : List Source),
        ∀ quotation ∈ (quotations sources).map (·.indented width),
          quotation.DenotesUnless isBarred
            (isRefusedInside isBarred) := by
    intro width sources
    unfold quotations
    rw [List.map_map, List.forall_mem_map]
    intro source _
    exact denotes_indented isBarred width source.text
  intro quotation hQuotation
  rcases List.mem_append.mp hQuotation with hFirst | hSecond
  · exact hWidth 8 _ quotation hFirst
  · exact hWidth 4 _ quotation hSecond

------------------------------------------------------------
-- Forms
------------------------------------------------------------

/- Statements quote a key, and the strings of some values. -/
def DrawsOn
    (key : Key)
    (values : List EnumValue)
    (body : List Statement) : Prop :=
  ∀ source ∈ body.flatMap Statement.literals,
    source = .key key.name ∨
      ∃ value ∈ values, source = .value (shownName value.text)

variable {key : Key}
variable {values : List EnumValue}
variable {body : List Statement}
variable {context : Context}

/- It is enough that they quote the key alone. -/
theorem drawsOn_of_keys
    (count : Nat)
    (hLiterals :
      body.flatMap Statement.literals =
        List.replicate count (.key key.name)) :
    DrawsOn key values body := by
  intro source hSource
  rw [hLiterals] at hSource
  exact .inl (List.eq_of_mem_replicate hSource)

/- Chaining quotes nothing else. -/
theorem flatMap_literals_chained
    (context : Context)
    (body : List Statement) :
    (chained context body).flatMap Statement.literals =
      body.flatMap Statement.literals := by
  cases context with
  | live => rfl
  | initializer =>
      simp [chained, Statement.literals, Statement.calls]

/- A branch of a switch quotes the key and a string. -/
theorem literals_enumBranch
    (context : Context)
    (key : Key)
    (value : EnumValue) :
    (enumBranch context key value).2.literals =
      [.key key.name, .value (shownName value.text)] := by
  unfold enumBranch storeCall Call.literals
  rw [List.filterMap_cons_some (literalText?_stringLiteral _)]
  rfl

/- So a switch quotes the strings of all values. -/
theorem drawsOn_enumStringForm
    (type : String) :
    DrawsOn key values
      (enumStringForm context key type values).body := by
  intro source hSource
  have hCall :
      ∃ call ∈
          values.map (fun value =>
              (enumBranch context key value).2)
            ++ [clearCall context key],
        source ∈ call.literals := by
    simpa [enumStringForm, SetterForm.plain,
      Statement.literals, Statement.calls] using hSource
  rcases hCall with ⟨call, hCall, hHere⟩
  rcases List.mem_append.mp hCall with hBranch | hClear
  · rcases List.mem_map.mp hBranch with ⟨value, hValue, rfl⟩
    rw [literals_enumBranch] at hHere
    rcases List.mem_cons.mp hHere with hKey | hString
    · exact .inl hKey
    · exact .inr ⟨value, hValue, List.mem_singleton.mp hString⟩
  · rw [List.mem_singleton.mp hClear] at hHere
    exact .inl (List.mem_singleton.mp hHere)

/- So do the comparisons of a getter. -/
theorem drawsOn_fetchEnumStringForm
    (type : String) :
    DrawsOn key values
      (fetchEnumStringForm key type values).body := by
  have hLiterals :
      (fetchEnumStringForm key type values).body.flatMap
          Statement.literals =
        .key key.name
          :: values.map fun value =>
            .value (shownName value.text) := by
    rw [List.map_eq_flatMap]
    simp [fetchEnumStringForm, Statement.literals,
      Statement.calls, List.flatMap_map, Call.literals,
      fetchCall]
  intro source hSource
  rw [hLiterals] at hSource
  rcases List.mem_cons.mp hSource with hKey | hString
  · exact .inl hKey
  · rcases List.mem_map.mp hString with ⟨value, hValue, rfl⟩
    exact .inr ⟨value, hValue, rfl⟩

/- A handle is set under its key, be it checked or not. -/
theorem drawsOn_handleForm
    (kind : HandleKind) :
    DrawsOn key values (handleForm context key kind).body := by
  cases kind with
  | known name => exact drawsOn_of_keys 1 rfl
  | unchecked => exact drawsOn_of_keys 1 rfl
  | validated nativeType =>
      cases context with
      | initializer => exact drawsOn_of_keys 1 rfl
      | live => exact drawsOn_of_keys 1 rfl

/- It is also read under it. -/
theorem drawsOn_fetchHandleForm
    (kind : HandleKind) :
    DrawsOn key values (fetchHandleForm key kind).body := by
  cases kind with
  | known name => exact drawsOn_of_keys 1 rfl
  | unchecked => exact drawsOn_of_keys 1 rfl
  | validated nativeType => exact drawsOn_of_keys 1 rfl

end Zig

namespace Attribute

variable {a : Attribute}
variable {rule : Rule}
variable {context : Context}
variable {values : List EnumValue}
variable {key : Key}

/-
  All setters of an attribute quote its key and, under the
  rule for strings of members, the strings of its values.
-/
theorem drawsOn_of_setterForms
    {forms : List SetterForm}
    (hForms : a.setterForms context rule = .ok forms)
    (hValues : a.formValues rule = .ok values)
    (hKey : a.boundKey = .ok key) :
    ∀ form ∈ forms, DrawsOn key values form.body := by
  rcases exists_parts_of_setterForms hForms with
    ⟨_, separator, _, _, hSeparator, _⟩
  intro form hForm
  cases (setterForms_spec hValues hSeparator hKey hForms).1
      form hForm with
  | handle => exact drawsOn_handleForm a.handleKind
  | enumInt => exact drawsOn_of_keys 2 rfl
  | enumString => exact drawsOn_enumStringForm _
  | _ => exact drawsOn_of_keys 1 rfl

/- So does its getter. -/
theorem drawsOn_of_getterForm?
    {form : GetterForm}
    (hForm : a.getterForm? rule = .ok (some form))
    (hValues : a.formValues rule = .ok values)
    (hKey : a.boundKey = .ok key) :
    DrawsOn key values form.body := by
  rcases exists_parts_of_getterForm? hForm with
    ⟨_, separator, _, _, hSeparator, _⟩
  cases (getterForm?_spec hValues hSeparator hKey hForm).1
      form rfl with
  | handle => exact drawsOn_fetchHandleForm a.handleKind
  | enumString => exact drawsOn_fetchEnumStringForm _
  | _ => exact drawsOn_of_keys 1 rfl

------------------------------------------------------------
-- Functions
------------------------------------------------------------

/- An attribute supplies its key and the strings of its values. -/
def Supplies
    (a : Attribute) : Source → Prop
  | .key text => a.key = some text
  | .value text =>
      ∃ value ∈ present a.enumValues, value.text = some text

/- A complete attribute supplies what its forms draw on. -/
theorem supplies_of_drawsOn
    {body : List Statement}
    (hComplete : a.Complete)
    (hValues : a.formValues rule = .ok values)
    (hKey : a.boundKey = .ok key)
    (hDraws : DrawsOn key values body) :
    ∀ source ∈ body.flatMap Statement.literals,
      a.Supplies source := by
  intro source hSource
  rcases hDraws source hSource with
    rfl | ⟨value, hValue, rfl⟩
  · rcases Option.isSome_iff_exists.mp hComplete.numbering with
      ⟨numbering, hNumbering⟩
    rcases Option.isSome_iff_exists.mp hComplete.key with
      ⟨text, hText⟩
    rw [eq_of_boundKey hKey hNumbering, hText]
    exact hText
  · have hListed := mem_present_of_formValues hValues hValue
    rcases Option.isSome_iff_exists.mp
        (hComplete.everyValue value hListed).text with
      ⟨text, hText⟩
    exact ⟨value, hListed, by rw [hText]; rfl⟩

/- The setters of an attribute are made from it. -/
theorem supplies_of_setters
    {setters : List FunctionDecl}
    (hComplete : a.Complete)
    (hSetters : a.setters context = .ok setters) :
    ∀ function ∈ setters, ∀ source ∈ function.literals,
      a.Supplies source := by
  rcases setters_cases hSetters with
    ⟨_, rfl⟩ |
    ⟨_, rule, forms, numbering, name, _, _, hForms, _, rfl⟩
  · simp
  · rcases exists_parts_of_setterForms hForms with
      ⟨values, _, key, hValues, _, hKey⟩
    have hDraws := drawsOn_of_setterForms hForms hValues hKey
    apply forall_documentFirst
    · exact fun _ hFunction => hFunction
    · intro function hFunction
      rcases List.mem_map.mp hFunction with ⟨form, hForm, rfl⟩
      unfold FunctionDecl.literals SetterForm.function
      rw [flatMap_literals_chained]
      exact
        supplies_of_drawsOn hComplete hValues hKey
          (hDraws form hForm)

/- So is its getter. -/
theorem supplies_of_getter?
    {getter : FunctionDecl}
    (hComplete : a.Complete)
    (hGetter : a.getter? = .ok (some getter)) :
    ∀ source ∈ getter.literals, a.Supplies source := by
  rcases getter?_cases hGetter with
    ⟨_, hNone⟩ |
    ⟨_, rule, form?, numbering, _, _, hForm, hSome⟩
  · cases hNone
  · rcases Option.map_eq_some_iff.mp hSome.symm with
      ⟨form, rfl, rfl⟩
    rcases exists_parts_of_getterForm? hForm with
      ⟨values, _, key, hValues, _, hKey⟩
    exact
      supplies_of_drawsOn hComplete hValues hKey
        (drawsOn_of_getterForm? hForm hValues hKey)

/- So are all of its accessors. -/
theorem supplies_of_accessors
    {accessors : Accessors}
    (hComplete : a.Complete)
    (hAccessors : a.accessors = .ok accessors) :
    ∀ function ∈ accessors.chained ++ accessors.body,
      ∀ source ∈ function.literals, a.Supplies source := by
  rcases accessors_eq_ok_iff.mp hAccessors with
    ⟨hChained, hGetter, hLive⟩
  intro function hFunction
  rcases List.mem_append.mp hFunction with hHere | hThere
  · exact supplies_of_setters hComplete hChained function hHere
  · rcases List.mem_append.mp hThere with hRead | hWrite
    · have hSome : accessors.getter = some function := by
        simpa using hRead
      rw [hSome] at hGetter
      exact supplies_of_getter? hComplete hGetter
    · exact supplies_of_setters hComplete hLive function hWrite

end Attribute

/- A callback supplies its key. -/
def Callback.Supplies
    (callback : Callback) : Source → Prop
  | .key text => callback.key = some text
  | .value _ => False

/- The setters of complete callbacks are made from these. -/
theorem Callback.supplies_of_callbackSetters
    {context : Context}
    {callbacks : Option (List (Option Callback))}
    {setters : List FunctionDecl}
    (hComplete : ∀ c ∈ present callbacks, c.Complete)
    (hSetters : callbackSetters context callbacks = .ok setters) :
    ∀ function ∈ setters,
      ∃ c ∈ present callbacks,
        ∀ source ∈ function.literals, c.Supplies source := by
  intro function hFunction
  rcases bind_eq_ok_iff.mp hSetters with ⟨items, hItems, hRun⟩
  rcases exists_of_mem_mapM hRun hFunction with
    ⟨item, hItem, hSetter⟩
  rcases bind_eq_ok_iff.mp hSetter with ⟨c, hCallback, hForm⟩
  have hListed : c ∈ present callbacks := by
    unfold present
    rw [needed_eq_ok_iff.mp hItems]
    rw [needed_eq_ok_iff.mp hCallback] at hItem
    simpa using hItem
  rcases Option.isSome_iff_exists.mp (hComplete c hListed).key
    with ⟨text, hText⟩
  refine ⟨c, hListed, ?_⟩
  cases hForm
  unfold FunctionDecl.literals SetterForm.function
  rw [flatMap_literals_chained, hText]
  simp [SetterForm.plain, Statement.literals, Statement.calls,
    Callback.Supplies, hText]

------------------------------------------------------------
-- Pages
------------------------------------------------------------

/-
  What the functions of an element are made from: each one
  quotes texts of one attribute, or of one callback.
-/
def Zig.Binding.IsSupplied
    (binding : Binding)
    (attributes : List Attribute)
    (callbacks : List Callback) : Prop :=
  ∀ function ∈ binding.initializer ++ binding.body,
    (∃ a ∈ attributes,
      ∀ source ∈ function.literals, a.Supplies source) ∨
    ∃ c ∈ callbacks,
      ∀ source ∈ function.literals, c.Supplies source

/- The functions of complete parts are supplied by these. -/
theorem Zig.Binding.isSupplied_of_blocks
    {binding : Binding}
    {merged : List Attribute}
    {callbacks : Option (List (Option Callback))}
    (hMerged : ∀ a ∈ merged, a.Complete)
    (hCallbacks : ∀ c ∈ present callbacks, c.Complete)
    (hInitializer :
      initializerBlock merged callbacks
        = .ok binding.initializer)
    (hBody : bodyBlock merged callbacks = .ok binding.body) :
    binding.IsSupplied merged (present callbacks) := by
  rcases Zig.exists_accessors hInitializer hBody with
    ⟨accessors, chained, live, hAccessors, hChained, hLive,
      hFirst, hSecond⟩
  have hAttribute :
      ∀ parts ∈ accessors,
        ∀ function ∈ parts.chained ++ parts.body,
          ∃ a ∈ merged,
            ∀ source ∈ function.literals, a.Supplies source := by
    intro parts hParts function hFunction
    rcases exists_of_mem_mapM hAccessors hParts with
      ⟨a, hCurrent, hHere⟩
    have hMember := List.mem_of_mem_filter hCurrent
    exact
      ⟨a, hMember,
        Attribute.supplies_of_accessors (hMerged a hMember)
          hHere function hFunction⟩
  intro function hFunction
  rw [hFirst, hSecond] at hFunction
  simp only [List.mem_append, List.mem_flatMap] at hFunction
  rcases hFunction with
    (⟨parts, hParts, hHere⟩ | hHere) |
    (⟨parts, hParts, hHere⟩ | hHere)
  · exact
      .inl
        (hAttribute parts hParts function
          (List.mem_append_left _ hHere))
  · exact
      .inr
        (Callback.supplies_of_callbackSetters hCallbacks
          hChained function hHere)
  · exact
      .inl
        (hAttribute parts hParts function
          (List.mem_append_right _ hHere))
  · exact
      .inr
        (Callback.supplies_of_callbackSetters hCallbacks hLive
          function hHere)

/-
  The page of an element of an accepted catalog quotes the
  class name, and then, in order, the source of every literal
  of its functions, which is the key or the string of a value
  of an attribute, or the key of a callback.  The literal of
  the class name denotes it unless it holds a quote, a
  backslash, a line feed or a barred character.  Any other
  literal denotes its source unless this holds one of these or
  another line boundary.
-/
theorem Catalog.literals_denote
    (catalog : Catalog)
    (element : Element)
    (isBarred : Char → Bool)
    {parents : List (Option Attribute)}
    {text : String}
    (hComplete : catalog.Complete)
    (hAccepted : catalog.validate = .ok ())
    (hElement : element ∈ catalog.elementList)
    (hParents : catalog.parentAttributes element = .ok parents)
    (hPage : element.render parents = .ok text) :
    ∃ merged binding className others,
      Attribute.merge element.attributes parents
        = .ok merged ∧
      element.binding parents = .ok binding ∧
      element.className = some className ∧
      binding.IsSupplied merged element.callbackList ∧
      Quotes (.verbatim className :: others) text.toList ∧
      others.map (·.value) =
        ((binding.initializer ++ binding.body).flatMap
          FunctionDecl.literals).map Source.text ∧
      (Quotation.verbatim className).DenotesUnless isBarred
        isBarred ∧
      ∀ quotation ∈ others,
        quotation.DenotesUnless isBarred
          (isRefusedInside isBarred) := by
  have hFormed : catalog.WellFormed :=
    (Catalog.validate_decides hComplete).ok_iff.mp hAccepted
  rcases Catalog.exists_merged hComplete hFormed hElement
    with ⟨inherited, hInherited, hMerge, hAttributes⟩
  rw [hParents, Except.ok.injEq] at hInherited
  rw [← hInherited] at hMerge
  have hOwn := hComplete.everyElement element hElement
  rcases Option.isSome_iff_exists.mp hOwn.className with
    ⟨className, hClass⟩
  rcases bind_eq_ok_iff.mp hPage with
    ⟨nativeType, _, hPage⟩
  rcases bind_eq_ok_iff.mp hPage with
    ⟨fragments, hFragments, hPage⟩
  rcases map_eq_ok_iff.mp hFragments with
    ⟨binding, hBinding, rfl⟩
  rcases Element.parts_of_binding hMerge hBinding with
    ⟨_, _, hInitializer, hBody, _⟩
  have hComplete :
      ∀ a ∈ firstOccurrences (·.name)
          (element.attributeList ++ inherited),
        a.Complete := fun a hMember =>
    (hAttributes a (mem_of_mem_firstOccurrences hMember)).1
  refine
    ⟨_, binding, className, binding.slotQuotations, hMerge,
      hBinding, hClass,
      Binding.isSupplied_of_blocks hComplete
        hOwn.everyCallback hInitializer hBody, ?_, ?_,
      denotes_verbatim isBarred className, ?_⟩
  · rw [← Except.ok.inj hPage, hClass]
    exact binding.quotes_page _ _ _
  · exact binding.map_value_slotQuotations
  · exact binding.denotes_slotQuotations isBarred

/- An element with a choice and a callback. -/
def selector : Element :=
  plainBox "Selector" [some (choice "POWER" "On")]
    [some pressCallback]

/- The catalog of this element. -/
def selectorCatalog : Catalog :=
  ⟨some [], some [some selector]⟩

/- What its functions quote, in order. -/
def selectorSources : List String :=
  [ "POWER", "On", "POWER", "PRESS",
    "POWER", "On", "POWER", "On", "POWER", "PRESS" ]

/- All literals of its page denote what they are made from. -/
theorem selector_literals_denote :
    ∃ text others,
      selector.render [] = .ok text ∧
      Quotes (.verbatim "box" :: others) text.toList ∧
      others.map (·.value) = selectorSources ∧
      (Quotation.verbatim "box").ReadsBack (fun _ => false) ∧
      ∀ quotation ∈ others,
        quotation.ReadsBack fun _ => false := by
  have hPage : ∃ text, selector.render [] = .ok text :=
    ⟨_, rfl⟩
  have hParents :
      selectorCatalog.parentAttributes selector = .ok [] := rfl
  have hSources :
      ∃ binding,
        selector.binding [] = .ok binding ∧
          ((binding.initializer ++ binding.body).flatMap
            FunctionDecl.literals).map Source.text =
              selectorSources := ⟨_, rfl, rfl⟩
  rcases hPage with ⟨text, hPage⟩
  rcases hSources with ⟨bound, hBound, hSources⟩
  rcases Catalog.literals_denote selectorCatalog selector
      (fun _ => false) (by decide) rfl (by decide) hParents
      hPage with
    ⟨merged, binding, className, others, _, hBinding, hClass,
      _, hQuotes, hValues, hName, hOthers⟩
  have hBox : "box" = className := Option.some.inj hClass
  subst hBox
  rw [hBound, Except.ok.injEq] at hBinding
  rw [← hBinding, hSources] at hValues
  refine
    ⟨text, others, hPage, hQuotes, hValues,
      hName.readsBack (by decide), ?_⟩
  have hQuotable :
      ∀ value ∈ selectorSources,
        IsQuotable (isRefusedInside fun _ => false)
          value.toList := by
    decide
  intro quotation hQuotation
  apply (hOthers quotation hQuotation).readsBack
  apply hQuotable
  rw [← hValues]
  exact List.mem_map_of_mem hQuotation

/- The line of the class name stands on every page. -/
theorem Zig.infix_page
    (name className nativeType : String)
    (fragments : Fragments) :
    ("    pub const CLASS_NAME = " ++ stringLiteral className
        ++ ";" ++ "\n").toList <:+:
      (page name className nativeType fragments).toList := by
  have hLine :
      ("    pub const CLASS_NAME = " ++ stringLiteral className
          ++ ";" ++ "\n").toList <:+:
        (Piece.frame
          (opening name className nativeType)).render.toList :=
    Text.infix_joinWith (by simp [opening])
  refine hLine.trans (Text.infix_joinWith ?_)
  exact List.mem_map_of_mem (by simp [pieces])

/- An element whose class name holds a quote. -/
def riddle : Element :=
  { plainBox "Riddle" [] [] with className := some "a\"b" }

/- The text of a catalog with this element. -/
def riddleText : String :=
  elementsText
    [ recordText
        [ fieldText "name" (quotedText "Riddle"),
          fieldText "class_name" (quotedText "a\\\"b"),
          fieldText "native_type" (quotedText "Void") ] ]

/- The catalog of this element. -/
def riddleCatalog : Catalog :=
  ⟨some [], some [some riddle]⟩

set_option maxRecDepth 4000 in
/-
  The catalog is accepted, but the literal of the class name
  on its page denotes only what is in front of the quote.
-/
theorem riddle_is_misread :
    Catalog.load riddleText = .ok riddleCatalog ∧
      riddleCatalog.Complete ∧
      riddleCatalog.elementList = [riddle] ∧
      riddleCatalog.parentAttributes riddle = .ok [] ∧
      riddle.className = some "a\"b" ∧
      ∃ text before after,
        riddle.render [] = .ok text ∧
        text.toList =
          before ++ "CLASS_NAME = ".toList
            ++ '"' :: ("a\"b".toList ++ '"' :: after) ∧
        readLiteral (fun _ => false)
            ("a\"b".toList ++ '"' :: after) =
          some (octets "a".toList, "b".toList ++ '"' :: after) ∧
        octets "a".toList ≠ octets "a\"b".toList := by
  refine ⟨?_, by decide, rfl, rfl, rfl, ?_⟩
  · rw [Catalog.load_eq_ok_iff]
    simp only [riddleText, elementsText, recordText, listText,
      fieldText, quotedText, Text.joinWith,
      String.toList_append, List.cons_append,
      String.reduceToList, List.nil_append]
    exact ⟨_, rfl, by decide, by decide⟩
  · have hPage :
        ∃ fragments,
          riddle.render [] =
            .ok (page "Riddle" "a\"b" "Void" fragments) :=
      ⟨_, rfl⟩
    rcases hPage with ⟨fragments, hPage⟩
    rcases Zig.infix_page "Riddle" "a\"b" "Void" fragments with
      ⟨front, back, hText⟩
    have hQuotable :
        IsQuotable (fun _ => false) "a".toList := by
      decide
    refine
      ⟨_, front ++ "    pub const ".toList, ";\n".toList ++ back,
        hPage, ?_,
        readLiteral_of_quotable hQuotable
          ("b".toList ++ '"' :: _), by decide⟩
    rw [← hText]
    simp [stringLiteral]

end ElementBindings
