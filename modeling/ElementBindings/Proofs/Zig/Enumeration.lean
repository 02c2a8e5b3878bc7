import ElementBindings.Proofs.Catalog.Acceptance
import ElementBindings.Proofs.Zig.RoundTrip

/-
  The members of an enumerated attribute.

  The values of an attribute may repeat a name.  Wherever its
  members are written they are the distinct names in order of
  their first values: in the type that is declared for it, in
  the switch of a setter that stores strings and in the
  comparisons of its getter, which both have the string of
  the first value of each name.  A test chooses the first
  member.

  Key definitions include:
    * `EnumValue.entry`, `Attribute.choices`
    * `Attribute.Members`, `Attribute.firstText?`
    * `Zig.FunctionDecl.Stores`, `Zig.FunctionDecl.Compares`
    * `Zig.Accessors.Offer`

  Key theorems include:
    * `Attribute.members_choices`
    * `Attribute.exists_stores`, `Attribute.exists_compares`
    * `Zig.count_enumTypes`
    * `Catalog.members_agree`
-/

namespace ElementBindings

open Zig

------------------------------------------------------------
-- Names
------------------------------------------------------------

/- A name that is not null is shown as it is. -/
@[simp] theorem shownName_some
    (name : String) :
    shownName (some name) = name :=
  rfl

/- Names of which none is null are shown as they are. -/
theorem map_some_shownName
    {names : List (Option String)}
    (hNames : ∀ name ∈ names, name.isSome) :
    (names.map shownName).map some = names := by
  rw [eq_map_some_of_forall hNames, List.map_map,
    List.map_map]
  rfl

/- If such names are distinct, they are shown distinct. -/
theorem nodup_map_shownName
    {names : List (Option String)}
    (hNames : ∀ name ∈ names, name.isSome)
    (hDistinct : names.Nodup) :
    (names.map shownName).Nodup := by
  apply List.Nodup.of_map some
  rw [map_some_shownName hNames]
  exact hDistinct

------------------------------------------------------------
-- Choices
------------------------------------------------------------

/- The member that stands for a value, and its string. -/
def EnumValue.entry
    (value : EnumValue) : String × String :=
  (shownName value.name, shownName value.text)

/- The members of an attribute, with their strings. -/
def Attribute.choices
    (a : Attribute) : List (String × String) :=
  (firstOccurrences (·.name) (present a.enumValues)).map
    (·.entry)

/- The string of the first value of a name. -/
def Attribute.firstText?
    (a : Attribute)
    (name : String) : Option String :=
  ((present a.enumValues).find?
    (·.name = some name)).bind (·.text)

/-
  The members of an attribute: the distinct names of its
  values, in order of their first occurrence.
-/
structure Attribute.Members
    (a : Attribute)
    (members : List String) : Prop where
  listed :
    members.map some =
      ((present a.enumValues).map (·.name)).eraseDups
  distinct : members.Nodup

namespace Attribute

variable {a : Attribute}

/- The values that are told apart are the first of each name. -/
theorem eq_of_distinctValues
    {values : List EnumValue}
    (hValues : a.distinctValues = .ok values) :
    values =
      firstOccurrences (·.name) (present a.enumValues) := by
  rcases bind_eq_ok_iff.mp hValues with
    ⟨listed, hListed, hFirst⟩
  have hPresent : present a.enumValues = listed := by
    unfold present
    rw [mapM_needed_eq_ok_iff.mp hListed]
    simp
  rw [hPresent]
  exact (Except.ok.inj hFirst).symm

/- Forms tell apart only values that the attribute lists. -/
theorem mem_present_of_formValues
    {rule : Rule}
    {values : List EnumValue}
    {value : EnumValue}
    (hValues : a.formValues rule = .ok values)
    (hValue : value ∈ values) :
    value ∈ present a.enumValues := by
  unfold formValues at hValues
  split at hValues
  · rw [eq_of_distinctValues hValues] at hValue
    exact mem_of_mem_firstOccurrences hValue
  · cases hValues
    cases hValue

/- They stand for the members of choices. -/
theorem map_entry_of_distinctValues
    {values : List EnumValue}
    (hValues : a.distinctValues = .ok values) :
    values.map (·.entry) = a.choices := by
  rw [eq_of_distinctValues hValues]
  rfl

/- Those of a complete attribute can all be told apart. -/
theorem distinctValues_eq
    (hComplete : a.Complete) :
    a.distinctValues =
      .ok (firstOccurrences (·.name)
        (present a.enumValues)) := by
  rcases fault?_eq_none_iff.mp
      (fault?_distinctValues hComplete.none_not_mem) with
    ⟨values, hValues⟩
  rw [hValues, eq_of_distinctValues hValues]

/- The members of choices are the names of distinct values. -/
theorem map_fst_choices
    (a : Attribute) :
    a.choices.map (·.1) =
      ((firstOccurrences (·.name)
        (present a.enumValues)).map (·.name)).map
          shownName := by
  unfold choices
  rw [List.map_map, List.map_map]
  rfl

/- Without null, the members of choices are all the members. -/
theorem members_choices
    (hNames :
      ∀ value ∈ present a.enumValues, value.name.isSome) :
    a.Members (a.choices.map (·.1)) := by
  have hKept :
      ∀ name ∈
          (firstOccurrences (·.name)
            (present a.enumValues)).map (·.name),
        name.isSome := by
    intro name hName
    rcases List.mem_map.mp hName with ⟨value, hValue, rfl⟩
    exact hNames value (mem_of_mem_firstOccurrences hValue)
  rw [map_fst_choices]
  constructor
  · rw [map_some_shownName hKept, map_firstOccurrences]
  · exact
      nodup_map_shownName hKept (nodup_firstOccurrences _ _)

/- The string of a choice is that of the first value. -/
theorem firstText?_of_mem_choices
    {choice : String × String}
    (hComplete : a.Complete)
    (hChoice : choice ∈ a.choices) :
    a.firstText? choice.1 = some choice.2 := by
  rcases List.mem_map.mp hChoice with ⟨value, hKept, rfl⟩
  have hListed := mem_of_mem_firstOccurrences hKept
  have hValue := hComplete.everyValue value hListed
  rcases Option.isSome_iff_exists.mp hValue.name with
    ⟨name, hName⟩
  rcases Option.isSome_iff_exists.mp hValue.text with
    ⟨text, hText⟩
  have hFirst := find?_of_mem_firstOccurrences hKept
  rw [hName] at hFirst
  simp [firstText?, EnumValue.entry, hName, hText, hFirst]

/- The first choice is the one that a test makes. -/
theorem exists_choices_cons
    (hComplete : a.Complete)
    (hListed : a.enumValues.getD [] ≠ []) :
    ∃ choice others,
      a.choices = choice :: others ∧
        a.firstMember = .ok choice.1 := by
  have hPresent := hComplete.none_not_mem
  cases hValues : a.enumValues with
  | none => simp [hValues] at hListed
  | some items =>
      cases items with
      | nil => simp [hValues] at hListed
      | cons item rest =>
          cases item with
          | none => simp [hValues] at hPresent
          | some value =>
              have hChoices :
                  ∃ others,
                    a.choices = value.entry :: others := by
                unfold choices
                rw [hValues]
                exact ⟨_, rfl⟩
              rcases hChoices with ⟨others, hChoices⟩
              refine ⟨value.entry, others, hChoices, ?_⟩
              unfold firstMember
              rw [hValues]
              rfl

end Attribute

------------------------------------------------------------
-- Setters and Getters
------------------------------------------------------------

/- The branches of a statement that switches. -/
def Zig.Statement.branches? :
    Statement →
    Option (List (String × Call))
  | .switchValueElse branches _ => some branches
  | _ => none

/- The branch that stores the string of a choice. -/
def Zig.storeBranch
    (context : Context)
    (key : Key)
    (choice : String × String) : String × Call :=
  (choice.1,
    storeCall context key "setStrAttribute"
      [stringLiteral choice.2])

/-
  A function has one switch, with one branch for each of some
  choices, in order: it stores the string of the choice.
-/
def Zig.FunctionDecl.Stores
    (function : FunctionDecl)
    (context : Context)
    (key : Key)
    (choices : List (String × String)) : Prop :=
  function.body.filterMap Statement.branches? =
    [choices.map (storeBranch context key)]

/-
  A function reads a string and compares it with those of
  some choices, in order.  It returns the member of a choice
  with an equal string, and else null.
-/
def Zig.FunctionDecl.Compares
    (function : FunctionDecl)
    (key : Key)
    (choices : List (String × String)) : Prop :=
  function.body =
    .bindCall "ret" (fetchCall key "getStrAttribute")
      :: choices.map (fun choice =>
          .returnIfEqual choice.2 choice.1)
      ++ [.returnNull]

/- All accessors offer the same choices under a key. -/
structure Zig.Accessors.Offer
    (accessors : Accessors)
    (key : Key)
    (choices : List (String × String)) : Prop where
  chained :
    ∀ setter ∈ accessors.chained,
      setter.Stores .initializer key choices
  getter :
    ∀ getter ∈ accessors.getter, getter.Compares key choices
  live :
    ∀ setter ∈ accessors.live,
      setter.Stores .live key choices

namespace Attribute

variable {a : Attribute}
variable {context : Context}

/- A setter of members with strings stores those strings. -/
theorem exists_stores
    {setters : List FunctionDecl}
    {setter : FunctionDecl}
    (hRule : a.rule = .ok .enumString)
    (hSetters : a.setters context = .ok setters)
    (hMember : setter ∈ setters) :
    ∃ values key,
      a.distinctValues = .ok values ∧
        a.boundKey = .ok key ∧
        setter.Stores context key a.choices := by
  rcases setters_cases hSetters with
    ⟨_, rfl⟩ |
    ⟨_, rule, forms, numbering, name, hFound, _, hForms, _,
      rfl⟩
  · simp at hMember
  · rw [hRule, Except.ok.injEq] at hFound
    rw [← hFound] at hForms
    rcases exists_parts_of_setterForms hForms with
      ⟨values, _, key, hValues, _, hKey⟩
    have hValues : a.distinctValues = .ok values := hValues
    unfold setterForms at hForms
    rw [hValues, hKey] at hForms
    have hOnly :
        [enumStringForm context key (shownName a.name)
          values] = forms := Except.ok.inj hForms
    rw [← hOnly] at hMember
    have hSetter := List.mem_singleton.mp hMember
    refine ⟨values, key, hValues, hKey, ?_⟩
    rw [hSetter, ← map_entry_of_distinctValues hValues]
    unfold FunctionDecl.Stores
    rw [List.map_map]
    cases context with
    | initializer => rfl
    | live => rfl

/- A getter of members with strings compares those strings. -/
theorem exists_compares
    {getter : FunctionDecl}
    (hRule : a.rule = .ok .enumString)
    (hGetter : a.getter? = .ok (some getter)) :
    ∃ key,
      a.boundKey = .ok key ∧
        getter.Compares key a.choices := by
  rcases getter?_cases hGetter with
    ⟨_, hNothing⟩ |
    ⟨_, rule, form?, numbering, hFound, _, hForm, hSome⟩
  · simp at hNothing
  · rw [hRule, Except.ok.injEq] at hFound
    rw [← hFound] at hForm
    rcases exists_parts_of_getterForm? hForm with
      ⟨values, _, key, hValues, _, hKey⟩
    have hValues : a.distinctValues = .ok values := hValues
    unfold getterForm? at hForm
    rw [hValues, hKey] at hForm
    have hOnly :
        some (fetchEnumStringForm key (shownName a.name)
          values) = form? := Except.ok.inj hForm
    rw [← hOnly, Option.map_some, Option.some.injEq] at hSome
    refine ⟨key, hKey, ?_⟩
    rw [hSome, ← map_entry_of_distinctValues hValues]
    unfold FunctionDecl.Compares
    rw [List.map_map]
    rfl

end Attribute

------------------------------------------------------------
-- Types
------------------------------------------------------------

namespace Attribute

variable {a : Attribute}

/- A type has the name of its attribute. -/
theorem name_of_enumType?
    {type : EnumType}
    (hType : a.enumType? = .ok (some type)) :
    type.name = shownName a.name := by
  unfold enumType? at hType
  split at hType
  · simp at hType
  · simp at hType
  · rcases bind_eq_ok_iff.mp hType with ⟨values, _, hRest⟩
    rw [← Option.some.inj (Except.ok.inj hRest)]

/- A type is only declared where values are listed. -/
theorem listed_of_enumType?
    {type : EnumType}
    (hType : a.enumType? = .ok (some type)) :
    a.enumValues.getD [] ≠ [] := by
  unfold enumType? at hType
  split at hType
  · simp at hType
  · simp at hType
  · next items hOther hValues =>
      rw [hValues, Option.getD_some]
      exact hOther

/- A type has the members of the choices. -/
theorem exists_enumType
    {values : List EnumValue}
    (hListed : a.enumValues.getD [] ≠ [])
    (hValues : a.distinctValues = .ok values) :
    ∃ type,
      a.enumType? = .ok (some type) ∧
        type.members.map (·.1) = a.choices.map (·.1) := by
  rw [← map_entry_of_distinctValues hValues]
  unfold enumType?
  split
  · next hNone => simp [hNone] at hListed
  · next hNone => simp [hNone] at hListed
  · rw [hValues]
    refine ⟨_, rfl, ?_⟩
    rw [List.map_map, List.map_map]
    rfl

end Attribute

namespace Zig

variable {attributes : List Attribute}
variable {types : List EnumType}

/- The types of attributes are among those that are declared. -/
theorem mem_enumTypes
    {a : Attribute}
    {type : EnumType}
    (hTypes : enumTypes attributes = .ok types)
    (hMember : a ∈ attributes)
    (hType : a.enumType? = .ok (some type)) :
    type ∈ types := by
  rcases bind_eq_ok_iff.mp hTypes with
    ⟨results, hResults, hList⟩
  rw [← Except.ok.inj hList]
  exact
    List.mem_filterMap.mpr
      ⟨some type, mem_of_mapM hResults hMember hType, rfl⟩

/- No other type is declared. -/
theorem exists_of_mem_enumTypes
    {type : EnumType}
    (hTypes : enumTypes attributes = .ok types)
    (hType : type ∈ types) :
    ∃ a ∈ attributes, a.enumType? = .ok (some type) := by
  rcases bind_eq_ok_iff.mp hTypes with
    ⟨results, hResults, hList⟩
  rw [← Except.ok.inj hList] at hType
  rcases List.mem_filterMap.mp hType with
    ⟨result, hResult, hSame⟩
  have hSame : result = some type := hSame
  rw [hSame] at hResult
  exact exists_of_mem_mapM hResults hResult

/-
  The names of the types are names of attributes, in order.
  By induction on the attributes, of which each has one type
  or none.
-/
theorem names_enumTypes_sublist
    (hTypes : enumTypes attributes = .ok types) :
    (types.map (·.name)).Sublist
      (attributes.map fun a => shownName a.name) := by
  rcases bind_eq_ok_iff.mp hTypes with
    ⟨results, hResults, hList⟩
  have hEach := mapM_eq_ok_iff.mp hResults
  rw [← Except.ok.inj hList]
  clear hTypes hResults hList
  induction hEach with
  | nil => exact List.Sublist.refl _
  | @cons a result rest others hFirst hRest ih =>
      cases result with
      | none => exact ih.cons _
      | some type =>
          have hKeep :
              (some type :: others).filterMap id =
                type :: others.filterMap id := rfl
          rw [hKeep, List.map_cons, List.map_cons,
            Attribute.name_of_enumType? hFirst]
          exact ih.cons_cons _

/- No two attributes without null in their names share a type. -/
theorem count_enumTypes
    {type : EnumType}
    (hDistinct : (attributes.map (·.name)).Nodup)
    (hNames : ∀ a ∈ attributes, a.name.isSome)
    (hTypes : enumTypes attributes = .ok types)
    (hType : type ∈ types) :
    (types.map (·.name)).count type.name = 1 := by
  have hShown :
      (attributes.map fun a => shownName a.name).Nodup := by
    have hSome :
        ∀ name ∈ attributes.map (·.name), name.isSome := by
      intro name hName
      rcases List.mem_map.mp hName with ⟨a, hMember, rfl⟩
      exact hNames a hMember
    have hAll := nodup_map_shownName hSome hDistinct
    rw [List.map_map] at hAll
    exact hAll
  exact
    List.count_eq_one_of_mem
      (hShown.sublist (names_enumTypes_sublist hTypes))
      (List.mem_map_of_mem hType)

end Zig

------------------------------------------------------------
-- Samples
------------------------------------------------------------

/- The condition that what is read back is a member. -/
def Rule.memberCheck
    (rule : Rule)
    (member : String) : String :=
  if rule = .enumString then
    "ret != null and ret.? == ." ++ member
  else
    "ret == ." ++ member

namespace Attribute

variable {a : Attribute}
variable {rule : Rule}

/- Under a rule for members the first one is the sample. -/
theorem sample?_eq
    {first : String}
    (hRule : a.rule = .ok rule)
    (hKind : rule = .enumInt ∨ rule = .enumString)
    (hFirst : a.firstMember = .ok first) :
    a.sample? =
      .ok (some ⟨["." ++ first], rule.memberCheck first⟩)
    := by
  unfold sample?
  rw [hRule, hFirst]
  rcases hKind with rfl | rfl
  · rfl
  · have hBoth :
        allOf ["ret != null", "ret.? == ." ++ first] =
          "ret != null and ret.? == ." ++ first := by
      have hJoined :
          allOf ["ret != null", "ret.? == ." ++ first] =
            "ret != null" ++ " and "
              ++ ("ret.? == ." ++ first) := rfl
      rw [hJoined, ← String.append_assoc]
      rfl
    rw [Rule.memberCheck, if_pos rfl, ← hBoth]
    rfl

/- The accessors of members with strings offer the choices. -/
theorem accessors_offer
    {accessors : Accessors}
    {key : Key}
    (hRule : a.rule = .ok .enumString)
    (hKey : a.boundKey = .ok key)
    (hAccessors : a.accessors = .ok accessors) :
    accessors.Offer key a.choices := by
  rcases accessors_eq_ok_iff.mp hAccessors with
    ⟨hChained, hGetter, hLive⟩
  have hStores :
      ∀ {context : Context} {setters : List FunctionDecl},
        a.setters context = .ok setters →
        ∀ setter ∈ setters,
          setter.Stores context key a.choices := by
    intro context setters hSetters setter hMember
    rcases exists_stores hRule hSetters hMember with
      ⟨_, other, _, hOther, hStores⟩
    rw [hKey, Except.ok.injEq] at hOther
    rw [hOther]
    exact hStores
  constructor
  · exact hStores hChained
  · intro getter hMember
    rw [Option.mem_def.mp hMember] at hGetter
    rcases exists_compares hRule hGetter with
      ⟨other, hOther, hCompares⟩
    rw [hKey, Except.ok.injEq] at hOther
    rw [hOther]
    exact hCompares
  · exact hStores hLive

end Attribute

------------------------------------------------------------
-- Agreement
------------------------------------------------------------

/-
  For a current attribute of an accepted catalog that is under
  a rule for members, one type is declared.  It lists the
  distinct names of the values.  If members are stored as
  strings, each setter has one branch for each of them, and
  the getter one comparison, in order, with the string of the
  first value of that name.  A test sets and expects the first
  member.
-/
theorem Catalog.members_agree
    (catalog : Catalog)
    (element : Element)
    {parents : List (Option Attribute)}
    {merged : List Attribute}
    {a : Attribute}
    {rule : Rule}
    (hAccepted : catalog.validate = .ok ())
    (hElement : element ∈ catalog.elementList)
    (hParents : catalog.parentAttributes element = .ok parents)
    (hMerge :
      Attribute.merge element.attributes parents = .ok merged)
    (hComplete : ∀ b ∈ merged, b.Complete)
    (hMember : a ∈ merged)
    (hCurrent : ¬ isSet a.deprecated)
    (hRule : a.rule = .ok rule)
    (hKind : rule = .enumInt ∨ rule = .enumString) :
    ∃ types type first others accessors numbering,
      enumTypes merged = .ok types ∧
      type ∈ types ∧
      type.name = shownName a.name ∧
      (types.map (·.name)).count type.name = 1 ∧
      type.members.map (·.1) = first :: others ∧
      a.Members (first :: others) ∧
      a.accessors = .ok accessors ∧
      a.initializerFunctions = .ok accessors.chained ∧
      a.bodyFunctions = .ok accessors.body ∧
      (rule = .enumString →
        ∃ key choices,
          a.boundKey = .ok key ∧
          choices.map (·.1) = first :: others ∧
          (∀ choice ∈ choices,
            a.firstText? choice.1 = some choice.2) ∧
          accessors.Offer key choices) ∧
      a.sample? =
        .ok (some ⟨["." ++ first], rule.memberCheck first⟩) ∧
      a.numbering = some numbering ∧
      element.roundTrip? a =
        .ok (some
          { element := shownName element.name
            subject := shownName a.name
            setterArguments :=
              testIds numbering ++ ["." ++ first]
            getterArguments := testIds numbering
            check := rule.memberCheck first }) := by
  have hConsistent :=
    Catalog.consistent_of_merge hAccepted hElement hParents
      hMerge a hMember
  have hOwn := hComplete a hMember
  have hListed : a.enumValues.getD [] ≠ [] :=
    hConsistent.listed.mp (Attribute.format_of_rule hRule hKind)
  rcases Attribute.exists_choices_cons hOwn hListed with
    ⟨choice, others, hChoices, hFirst⟩
  have hMembers :=
    Attribute.members_choices fun value hValue =>
      (hOwn.everyValue value hValue).name
  rcases Attribute.exists_enumType hListed
      (Attribute.distinctValues_eq hOwn) with
    ⟨type, hType, hTags⟩
  rcases fault?_eq_none_iff.mp (fault?_enumTypes hComplete)
    with ⟨types, hTypes⟩
  have hDeclared := mem_enumTypes hTypes hMember hType
  have hOnce :=
    count_enumTypes (Attribute.nodup_of_merge hMerge)
      (fun b hOther => (hComplete b hOther).name) hTypes
      hDeclared
  rcases Attribute.exists_accessors_of_rule hOwn hRule with
    ⟨accessors, hAccessors⟩
  rcases Attribute.functions_of_accessors hCurrent hAccessors
    with ⟨hChained, hBody⟩
  have hSample := Attribute.sample?_eq hRule hKind hFirst
  rcases Option.isSome_iff_exists.mp hOwn.numbering with
    ⟨numbering, hNumbering⟩
  rw [hChoices, List.map_cons] at hTags hMembers
  refine
    ⟨types, type, choice.1, others.map (·.1), accessors,
      numbering, hTypes, hDeclared,
      Attribute.name_of_enumType? hType, hOnce, hTags,
      hMembers, hAccessors, hChained, hBody, ?_, hSample,
      hNumbering, ?_⟩
  · rintro rfl
    rcases fault?_eq_none_iff.mp
        (Attribute.fault?_boundKey hOwn) with
      ⟨key, hKey⟩
    refine ⟨key, a.choices, hKey, ?_, ?_, ?_⟩
    · rw [hChoices, List.map_cons]
    · intro other hOther
      exact Attribute.firstText?_of_mem_choices hOwn hOther
    · exact
        Attribute.accessors_offer hRule hKey hAccessors
  · unfold Element.roundTrip?
    rw [hSample, hNumbering]
    rfl

/- A light of two colors, one of which is listed twice. -/
def light : Attribute :=
  { choice "LIGHT" "Red" with
    enumValues :=
      some
        [ some ⟨some "Red", some "RED", none⟩,
          some ⟨some "Green", some "GREEN", none⟩,
          some ⟨some "Red", some "STOP", none⟩ ] }

/- An element that has this attribute. -/
def lamp : Element :=
  plainBox "Lamp" [some light] []

/- The catalog of this element. -/
def lampCatalog : Catalog :=
  ⟨some [], some [some lamp]⟩

/- The color that is listed twice is one member, the first. -/
theorem lamp_members_agree :
    ∃ (type : EnumType) (accessors : Accessors) (key : Key)
        (choices : List (String × String)),
      type.name = "LIGHT" ∧
      type.members.map (·.1) = ["Red", "Green"] ∧
      light.accessors = .ok accessors ∧
      choices.map (·.1) = ["Red", "Green"] ∧
      accessors.Offer key choices ∧
      light.sample? =
        .ok (some
          ⟨[".Red"], "ret != null and ret.? == .Red"⟩) := by
  rcases Catalog.members_agree lampCatalog lamp rfl (by decide)
      rfl rfl (by decide) (by decide : light ∈ [light])
      (by decide) rfl (.inr rfl) with
    ⟨types, type, first, others, accessors, numbering, _, _,
      hName, _, hTags, hMembers, hAccessors, _, _, hOffers,
      hSample, _⟩
  rcases hOffers rfl with
    ⟨key, choices, _, hChoices, _, hOffer⟩
  have hListed :
      (first :: others).map some =
        ["Red", "Green"].map some :=
    hMembers.listed.trans (by decide)
  have hTwo : first :: others = ["Red", "Green"] :=
    List.map_injective_iff.mpr
      (fun _ _ hSame => Option.some.inj hSame) hListed
  rw [hTwo] at hTags hChoices
  rw [(List.cons.inj hTwo).1] at hSample
  exact
    ⟨type, accessors, key, choices, hName, hTags, hAccessors,
      hChoices, hOffer, hSample⟩

end ElementBindings
