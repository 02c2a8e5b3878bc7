import ElementBindings.Catalog.Inheritance
import ElementBindings.Proofs.Result

/-
  Catalogs in which nothing that is needed is null.

  A record is complete when no field is null that is not
  optional, and no item of its lists is null.  Optional are
  the enumeration values of an attribute, the number of such
  a value, the target of a handle and what describes it, and
  documentation.  Lists of a complete record can be read as
  plain lists.

  Key definitions include:
    * `Filled`, `present`
    * `Attribute.Complete`, `Callback.Complete`
    * `AttributeGroup.Complete`, `Element.Complete`
    * `Catalog.Complete`
    * `Catalog.groupList`, `Catalog.elementList`

  Key theorems include:
    * `filled_iff`
    * `Catalog.Complete.namedGroups_eq`
-/

namespace ElementBindings

variable {α : Type}

------------------------------------------------------------
-- Lists
------------------------------------------------------------

/- The items of a list that are not null. -/
def present
    (values : Option (List (Option α))) : List α :=
  (values.getD []).filterMap id

/- Neither a list nor any item of it is null. -/
def Filled
    (values : Option (List (Option α))) : Prop :=
  values = some ((present values).map some)

instance
    [DecidableEq α]
    (values : Option (List (Option α))) :
    Decidable (Filled values) := by
  unfold Filled
  infer_instance

/- All items of a list that has no null are present. -/
@[simp] theorem present_some
    (items : List α) :
    present (some (items.map some)) = items := by
  simp [present]

/- Values that are all present form a list of such values. -/
theorem eq_map_some_of_forall
    {items : List (Option α)}
    (hItems : ∀ item ∈ items, item.isSome) :
    items = (items.filterMap id).map some := by
  induction items with
  | nil => rfl
  | cons item rest ih =>
      have hHead := hItems item (by simp)
      have hTail : rest = (rest.filterMap id).map some := by
        apply ih
        intro other hMember
        exact hItems other (by simp [hMember])
      rcases Option.isSome_iff_exists.mp hHead with ⟨a, rfl⟩
      have hKeep :
          (some a :: rest).filterMap id =
            a :: rest.filterMap id := rfl
      rw [hKeep, List.map_cons, ← hTail]

/- So do values of which none is null. -/
theorem eq_map_some_of_not_mem
    {items : List (Option α)}
    (hPresent : none ∉ items) :
    items = (items.filterMap id).map some := by
  apply eq_map_some_of_forall
  intro item hItem
  rw [Option.isSome_iff_ne_none]
  intro hNull
  rw [hNull] at hItem
  exact hPresent hItem

/- A list is filled when it is a list of values. -/
theorem filled_iff
    {values : Option (List (Option α))} :
    Filled values ↔
      ∃ items : List α, values = some (items.map some) := by
  constructor
  · intro hFilled
    exact ⟨present values, hFilled⟩
  · intro hItems
    rcases hItems with ⟨items, rfl⟩
    simp [Filled]

/- A list is filled when no item of it is null. -/
theorem filled_some_iff
    {items : List (Option α)} :
    Filled (some items) ↔ none ∉ items := by
  constructor
  · intro hFilled
    rcases filled_iff.mp hFilled with ⟨values, hValues⟩
    rw [Option.some.inj hValues]
    simp
  · intro hPresent
    rw [eq_map_some_of_not_mem hPresent]
    exact filled_iff.mpr ⟨_, rfl⟩

/- The items that are present are those that are not null. -/
@[simp] theorem mem_present_some
    {items : List (Option α)}
    {a : α} :
    a ∈ present (some items) ↔ some a ∈ items := by
  simp [present]

------------------------------------------------------------
-- Attributes
------------------------------------------------------------

/- An enumeration value without null. -/
structure EnumValue.Complete
    (value : EnumValue) : Prop where
  name : value.name.isSome
  text : value.text.isSome

/- An attribute without null where a value is needed. -/
structure Attribute.Complete
    (a : Attribute) : Prop where
  name : a.name.isSome
  key : a.key.isSome
  type : a.type.isSome
  format : a.format.isSome
  numbering : a.numbering.isSome
  readOnly : a.readOnly.isSome
  writeOnly : a.writeOnly.isSome
  creationOnly : a.creationOnly.isSome
  deprecated : a.deprecated.isSome
  enumValues : a.enumValues = none ∨ Filled a.enumValues
  everyValue : ∀ value ∈ present a.enumValues, value.Complete

/- No value that a complete attribute lists is null. -/
theorem Attribute.Complete.none_not_mem
    {a : Attribute}
    (hComplete : a.Complete) :
    none ∉ a.enumValues.getD [] := by
  rcases hComplete.enumValues with hNone | hFilled
  · simp [hNone]
  · rw [hFilled]
    simp

------------------------------------------------------------
-- Callbacks
------------------------------------------------------------

/- A callback without null. -/
structure Callback.Complete
    (callback : Callback) : Prop where
  name : callback.name.isSome
  key : callback.key.isSome
  arguments : Filled callback.arguments
  returnType : callback.returnType.isSome

------------------------------------------------------------
-- Groups and Elements
------------------------------------------------------------

/- The attributes that a group declares. -/
def AttributeGroup.attributeList
    (group : AttributeGroup) : List Attribute :=
  present group.attributes

/- The names of the groups that a group inherits from. -/
def AttributeGroup.baseNames
    (group : AttributeGroup) : List String :=
  group.bases.getD []

/- A group without null. -/
structure AttributeGroup.Complete
    (group : AttributeGroup) : Prop where
  name : group.name.isSome
  attributes : Filled group.attributes
  everyAttribute : ∀ a ∈ group.attributeList, a.Complete
  bases : group.bases = some group.baseNames

/- The attributes that an element declares. -/
def Element.attributeList
    (element : Element) : List Attribute :=
  present element.attributes

/- The callbacks that an element declares. -/
def Element.callbackList
    (element : Element) : List Callback :=
  present element.callbacks

/- The names of the groups that an element inherits from. -/
def Element.baseNames
    (element : Element) : List String :=
  element.bases.getD []

/- An element without null where a value is needed. -/
structure Element.Complete
    (element : Element) : Prop where
  name : element.name.isSome
  className : element.className.isSome
  nativeType : element.nativeType.isSome
  attributes : Filled element.attributes
  everyAttribute : ∀ a ∈ element.attributeList, a.Complete
  callbacks : Filled element.callbacks
  everyCallback : ∀ c ∈ element.callbackList, c.Complete
  childrenCount : element.childrenCount.isSome
  bases : element.bases = some element.baseNames

------------------------------------------------------------
-- Catalogs
------------------------------------------------------------

/- The groups of a catalog. -/
def Catalog.groupList
    (catalog : Catalog) : List AttributeGroup :=
  present catalog.groups

/- The elements of a catalog. -/
def Catalog.elementList
    (catalog : Catalog) : List Element :=
  present catalog.elements

/- A catalog without null where a value is needed. -/
structure Catalog.Complete
    (catalog : Catalog) : Prop where
  groups : Filled catalog.groups
  everyGroup : ∀ g ∈ catalog.groupList, g.Complete
  elements : Filled catalog.elements
  everyElement : ∀ e ∈ catalog.elementList, e.Complete

/- The groups of a catalog can be named if none is null. -/
theorem Catalog.namedGroups_eq_ok_iff
    {catalog : Catalog}
    {groups : List AttributeGroup} :
    catalog.namedGroups = .ok groups ↔
      catalog.groups = some (groups.map some) := by
  unfold Catalog.namedGroups
  rw [bind_eq_ok_iff]
  simp only [needed_eq_ok_iff, mapM_needed_eq_ok_iff]
  constructor
  · intro hGroups
    rcases hGroups with ⟨items, hItems, rfl⟩
    exact hItems
  · intro hGroups
    exact ⟨_, hGroups, rfl⟩

/- The groups of a complete catalog can all be named. -/
theorem Catalog.Complete.namedGroups_eq
    {catalog : Catalog}
    (hComplete : catalog.Complete) :
    catalog.namedGroups = .ok catalog.groupList :=
  Catalog.namedGroups_eq_ok_iff.mpr hComplete.groups

------------------------------------------------------------
-- Decisions
------------------------------------------------------------

instance (value : EnumValue) : Decidable value.Complete :=
  decidable_of_iff
    (value.name.isSome ∧ value.text.isSome)
    ⟨fun ⟨hName, hText⟩ => ⟨hName, hText⟩,
      fun ⟨hName, hText⟩ => ⟨hName, hText⟩⟩

instance (a : Attribute) : Decidable a.Complete :=
  decidable_of_iff
    (a.name.isSome ∧ a.key.isSome ∧ a.type.isSome ∧
      a.format.isSome ∧ a.numbering.isSome ∧
      a.readOnly.isSome ∧ a.writeOnly.isSome ∧
      a.creationOnly.isSome ∧ a.deprecated.isSome ∧
      (a.enumValues = none ∨ Filled a.enumValues) ∧
      ∀ value ∈ present a.enumValues, value.Complete)
    ⟨fun ⟨hName, hKey, hType, hFormat, hNumbering, hRead,
        hWrite, hCreation, hDeprecated, hList, hValues⟩ =>
      ⟨hName, hKey, hType, hFormat, hNumbering, hRead,
        hWrite, hCreation, hDeprecated, hList, hValues⟩,
    fun ⟨hName, hKey, hType, hFormat, hNumbering, hRead,
        hWrite, hCreation, hDeprecated, hList, hValues⟩ =>
      ⟨hName, hKey, hType, hFormat, hNumbering, hRead,
        hWrite, hCreation, hDeprecated, hList, hValues⟩⟩

instance (callback : Callback) :
    Decidable callback.Complete :=
  decidable_of_iff
    (callback.name.isSome ∧ callback.key.isSome ∧
      Filled callback.arguments ∧
      callback.returnType.isSome)
    ⟨fun ⟨hName, hKey, hArguments, hReturn⟩ =>
      ⟨hName, hKey, hArguments, hReturn⟩,
    fun ⟨hName, hKey, hArguments, hReturn⟩ =>
      ⟨hName, hKey, hArguments, hReturn⟩⟩

instance (group : AttributeGroup) :
    Decidable group.Complete :=
  decidable_of_iff
    (group.name.isSome ∧ Filled group.attributes ∧
      (∀ a ∈ group.attributeList, a.Complete) ∧
      group.bases = some group.baseNames)
    ⟨fun ⟨hName, hList, hAttributes, hBases⟩ =>
      ⟨hName, hList, hAttributes, hBases⟩,
    fun ⟨hName, hList, hAttributes, hBases⟩ =>
      ⟨hName, hList, hAttributes, hBases⟩⟩

instance (element : Element) :
    Decidable element.Complete :=
  decidable_of_iff
    (element.name.isSome ∧ element.className.isSome ∧
      element.nativeType.isSome ∧
      Filled element.attributes ∧
      (∀ a ∈ element.attributeList, a.Complete) ∧
      Filled element.callbacks ∧
      (∀ c ∈ element.callbackList, c.Complete) ∧
      element.childrenCount.isSome ∧
      element.bases = some element.baseNames)
    ⟨fun ⟨hName, hClass, hNative, hList, hAttributes,
        hCalls, hCallbacks, hCount, hBases⟩ =>
      ⟨hName, hClass, hNative, hList, hAttributes,
        hCalls, hCallbacks, hCount, hBases⟩,
    fun ⟨hName, hClass, hNative, hList, hAttributes,
        hCalls, hCallbacks, hCount, hBases⟩ =>
      ⟨hName, hClass, hNative, hList, hAttributes,
        hCalls, hCallbacks, hCount, hBases⟩⟩

instance (catalog : Catalog) :
    Decidable catalog.Complete :=
  decidable_of_iff
    (Filled catalog.groups ∧
      (∀ g ∈ catalog.groupList, g.Complete) ∧
      Filled catalog.elements ∧
      ∀ e ∈ catalog.elementList, e.Complete)
    ⟨fun ⟨hList, hGroups, hOthers, hElements⟩ =>
      ⟨hList, hGroups, hOthers, hElements⟩,
    fun ⟨hList, hGroups, hOthers, hElements⟩ =>
      ⟨hList, hGroups, hOthers, hElements⟩⟩

end ElementBindings
