import ElementBindings.Proofs.Catalog.Visit

/-
  What is known of a catalog that is accepted.

  Checking looks at every group and every element, at all
  their attributes, and at their bases.  So none of these is
  null in a catalog that is accepted, and every element has
  its own and its inherited attributes.  Nothing is known of
  the fields that no check looks at.

  Key definitions include:
    * `Catalog.Passes`

  Key theorems include:
    * `Catalog.passes_of_validate`
    * `Catalog.Passes.exists_walks`
    * `Catalog.exists_consistent_of_validate`
-/

namespace ElementBindings

------------------------------------------------------------
-- Attributes
------------------------------------------------------------

/- An attribute that passes is not null, and is consistent. -/
theorem Attribute.exists_of_validate
    {owner : Option String}
    {item : Option Attribute}
    (hPass : Attribute.validate owner item = .ok ()) :
    ∃ a, item = some a ∧ a.Consistent := by
  cases item with
  | none =>
      have hNull :
          Attribute.validate owner none =
            .error (.null (.readField "name")) := rfl
      simp [hNull] at hPass
  | some a =>
      exact
        ⟨a, rfl, (Attribute.validate_decides owner a).ok_iff.mp
          hPass⟩

/- So are all attributes of a list that passes. -/
theorem Attribute.filled_of_validateAll
    {owner : Option String}
    {attributes : Option (List (Option Attribute))}
    (hPass : Attribute.validateAll owner attributes = .ok ()) :
    Filled attributes ∧
      ∀ a ∈ present attributes, a.Consistent := by
  rcases bind_eq_ok_iff.mp hPass with ⟨items, hItems, hEach⟩
  have hEach :
      ∀ item ∈ items,
        Attribute.validate owner item = .ok () :=
    forM_eq_ok_iff.mp hEach
  have hPresent : ∀ item ∈ items, item.isSome := by
    intro item hMember
    rcases Attribute.exists_of_validate (hEach item hMember)
      with ⟨a, rfl, _⟩
    rfl
  have hList := needed_eq_ok_iff.mp hItems
  rw [hList]
  refine
    ⟨filled_iff.mpr
      ⟨_, congrArg some (eq_map_some_of_forall hPresent)⟩, ?_⟩
  intro a hMember
  have hMember : some a ∈ items := by
    simpa [present] using hMember
  rcases Attribute.exists_of_validate (hEach _ hMember) with
    ⟨b, hSame, hConsistent⟩
  rw [Option.some.inj hSame]
  exact hConsistent

------------------------------------------------------------
-- Catalogs
------------------------------------------------------------

/- What checking has seen of a catalog. -/
structure Catalog.Passes
    (catalog : Catalog) : Prop where
  groups : Filled catalog.groups
  elements : Filled catalog.elements
  everyGroup :
    ∀ g ∈ catalog.groupList,
      AttributeGroup.validate catalog.groupList g = .ok ()
  everyElement :
    ∀ e ∈ catalog.elementList,
      Element.validate catalog.groupList e = .ok ()
  inherited :
    ∀ e ∈ catalog.elementList,
      ∃ parents, catalog.parentAttributes e = .ok parents

/- An accepted catalog has passed every check. -/
theorem Catalog.passes_of_validate
    {catalog : Catalog}
    (hAccepted : catalog.validate = .ok ()) :
    catalog.Passes := by
  rcases bind_eq_ok_iff.mp hAccepted with
    ⟨groups, hGroups, hAccepted⟩
  rcases bind_eq_ok_iff.mp hAccepted with
    ⟨_, _, hAccepted⟩
  rcases bind_eq_ok_iff.mp hAccepted with
    ⟨items, hItems, hAccepted⟩
  rcases bind_eq_ok_iff.mp hAccepted with
    ⟨elements, hElements, hAccepted⟩
  rcases bind_eq_ok_iff.mp hAccepted with
    ⟨_, hEveryGroup, hAccepted⟩
  rcases bind_eq_ok_iff.mp hAccepted with
    ⟨_, hEveryElement, hAccepted⟩
  rcases bind_eq_ok_iff.mp hAccepted with
    ⟨_, _, hInherited⟩
  have hGroups := Catalog.namedGroups_eq_ok_iff.mp hGroups
  have hElements :
      catalog.elements = some (elements.map some) := by
    rw [needed_eq_ok_iff.mp hItems,
      Element.eq_of_checkNames hElements]
  have hGroupList : catalog.groupList = groups := by
    rw [Catalog.groupList, hGroups, present_some]
  have hElementList : catalog.elementList = elements := by
    rw [Catalog.elementList, hElements, present_some]
  constructor
  · exact filled_iff.mpr ⟨groups, hGroups⟩
  · exact filled_iff.mpr ⟨elements, hElements⟩
  · rw [hGroupList]
    exact forM_eq_ok_iff.mp hEveryGroup
  · rw [hGroupList, hElementList]
    exact forM_eq_ok_iff.mp hEveryElement
  · rw [hElementList]
    intro e hElement
    have hEach := forM_eq_ok_iff.mp hInherited e hElement
    rcases bind_eq_ok_iff.mp hEach with ⟨parents, hParents, _⟩
    exact ⟨parents, hParents⟩

/- No check has seen a null among the attributes of an element. -/
theorem Catalog.Passes.own
    {catalog : Catalog}
    {element : Element}
    (hPasses : catalog.Passes)
    (hElement : element ∈ catalog.elementList) :
    Filled element.attributes ∧
      ∀ a ∈ element.attributeList, a.Consistent := by
  rcases bind_eq_ok_iff.mp
      (hPasses.everyElement element hElement) with
    ⟨_, hAttributes, _⟩
  exact Attribute.filled_of_validateAll hAttributes

/- Nor among the attributes that some groups declare. -/
theorem Catalog.Passes.none_not_mem_declared
    {catalog : Catalog}
    {met : List AttributeGroup}
    (hPasses : catalog.Passes)
    (hMet : ∀ g ∈ met, g ∈ catalog.groupList) :
    none ∉ AttributeGroup.declared met := by
  intro hNull
  rcases List.mem_flatMap.mp hNull with ⟨g, hGroup, hItem⟩
  rcases bind_eq_ok_iff.mp
      (hPasses.everyGroup g (hMet g hGroup)) with
    ⟨_, hAttributes, _⟩
  have hFilled :=
    (Attribute.filled_of_validateAll hAttributes).1
  rw [hFilled] at hItem
  simp at hItem

/- The attributes that groups declare are consistent. -/
theorem Catalog.Passes.consistent_of_declared
    {catalog : Catalog}
    {met : List AttributeGroup}
    (hPasses : catalog.Passes)
    (hMet : ∀ g ∈ met, g ∈ catalog.groupList) :
    ∀ a ∈ met.flatMap AttributeGroup.attributeList,
      a.Consistent := by
  intro a hMember
  rcases List.mem_flatMap.mp hMember with ⟨g, hGroup, hListed⟩
  rcases bind_eq_ok_iff.mp
      (hPasses.everyGroup g (hMet g hGroup)) with
    ⟨_, hAttributes, _⟩
  exact
    (Attribute.filled_of_validateAll hAttributes).2 a hListed

/- What an element inherits is declared along a walk. -/
theorem Catalog.Passes.exists_walks
    {catalog : Catalog}
    {element : Element}
    (hPasses : catalog.Passes)
    (hElement : element ∈ catalog.elementList) :
    ∃ met,
      AttributeGroup.Walks catalog.groupList []
          element.baseNames met ∧
        catalog.parentAttributes element =
          .ok (AttributeGroup.declared met) ∧
        ∀ g ∈ met, g ∈ catalog.groupList := by
  rcases hPasses.inherited element hElement with
    ⟨parents, hParents⟩
  rcases Catalog.exists_walks hParents with
    ⟨met, hWalks, rfl⟩
  exact
    ⟨met, hWalks, hParents, fun g hMember =>
      hWalks.subset hMember⟩

/-
  An element of an accepted catalog has its own and inherited
  attributes, without any null among them, and all of them
  are consistent.
-/
theorem Catalog.exists_consistent_of_validate
    {catalog : Catalog}
    {element : Element}
    (hAccepted : catalog.validate = .ok ())
    (hElement : element ∈ catalog.elementList) :
    ∃ parents : List Attribute,
      catalog.parentAttributes element =
          .ok (parents.map some) ∧
        Filled element.attributes ∧
        ∀ a ∈ element.attributeList ++ parents,
          a.Consistent := by
  have hPasses := Catalog.passes_of_validate hAccepted
  rcases hPasses.exists_walks hElement with
    ⟨met, _, hParents, hMet⟩
  rcases hPasses.own hElement with ⟨hFilled, hOwn⟩
  refine
    ⟨met.flatMap AttributeGroup.attributeList, ?_, hFilled,
      ?_⟩
  · rw [← AttributeGroup.declared_eq
      (hPasses.none_not_mem_declared hMet)]
    exact hParents
  · intro a hMember
    rcases List.mem_append.mp hMember with hHere | hThere
    · exact hOwn a hHere
    · exact hPasses.consistent_of_declared hMet a hThere

/- So are all of them when they are merged. -/
theorem Catalog.consistent_of_merge
    {catalog : Catalog}
    {element : Element}
    {parents : List (Option Attribute)}
    {merged : List Attribute}
    (hAccepted : catalog.validate = .ok ())
    (hElement : element ∈ catalog.elementList)
    (hParents : catalog.parentAttributes element = .ok parents)
    (hMerge :
      Attribute.merge element.attributes parents
        = .ok merged) :
    ∀ a ∈ merged, a.Consistent := by
  rcases Catalog.exists_consistent_of_validate hAccepted
      hElement with
    ⟨inherited, hInherited, _, hConsistent⟩
  rw [hParents, Except.ok.injEq] at hInherited
  intro a hMember
  apply hConsistent
  rw [List.mem_append]
  refine (Attribute.mem_of_merge hMerge hMember).imp_right ?_
  intro hThere
  rw [hInherited] at hThere
  simpa using hThere

/- Its own ones, in particular. -/
theorem Catalog.exists_merged_of_validate
    {catalog : Catalog}
    {element : Element}
    (hAccepted : catalog.validate = .ok ())
    (hElement : element ∈ catalog.elementList) :
    ∃ parents : List Attribute,
      catalog.parentAttributes element =
          .ok (parents.map some) ∧
        Filled element.attributes ∧
        ∀ a ∈ element.attributeList, a.Consistent := by
  rcases Catalog.exists_consistent_of_validate hAccepted
      hElement with
    ⟨parents, hParents, hFilled, hConsistent⟩
  exact
    ⟨parents, hParents, hFilled, fun a hOwn =>
      hConsistent a (List.mem_append_left _ hOwn)⟩

end ElementBindings
