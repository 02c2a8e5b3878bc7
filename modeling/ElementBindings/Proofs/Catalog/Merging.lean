import ElementBindings.Proofs.Catalog.Validity

/-
  The attributes of an element of an accepted catalog.

  Own and inherited attributes can always be merged, and all
  of them are complete and consistent, since each is declared
  by the element itself or by a group of the catalog.  In which
  order lists are merged does not matter, as long as the
  attributes stand in one order.

  Key definitions include:
    * `Attribute.Merges`
    * `Attribute.AreFirst`

  Key theorems include:
    * `Attribute.merge_eq`, `Attribute.mem_of_merge`
    * `Attribute.merging_laws`
    * `Catalog.exists_merged`
-/

namespace ElementBindings

------------------------------------------------------------
-- Merging
------------------------------------------------------------

/- Merging keeps the first attribute of every name. -/
theorem Attribute.merge_eq
    (own parents : List Attribute) :
    Attribute.merge (some (own.map some))
        (parents.map some) =
      .ok (firstOccurrences (·.name) (own ++ parents)) := by
  have hGather :
      Attribute.gather (some (own.map some))
        (parents.map some) = .ok (own ++ parents) := by
    unfold Attribute.gather
    rw [needed_some, ok_bind, ← List.map_append]
    exact mapM_needed_some _ (own ++ parents)
  unfold Attribute.merge
  rw [hGather]
  rfl

section Merged

variable {own : Option (List (Option Attribute))}
variable {parents : List (Option Attribute)}
variable {merged : List Attribute}
variable (hMerge : Attribute.merge own parents = .ok merged)

include hMerge

/- Merged attributes have distinct names. -/
theorem Attribute.nodup_of_merge :
    (merged.map (·.name)).Nodup := by
  rcases bind_eq_ok_iff.mp hMerge with ⟨gathered, _, hFirst⟩
  rw [← Except.ok.inj hFirst]
  exact nodup_firstOccurrences _ _

/- They are some of the own or of the inherited ones. -/
theorem Attribute.mem_of_merge
    {a : Attribute}
    (hMember : a ∈ merged) :
    a ∈ present own ∨ some a ∈ parents := by
  rcases bind_eq_ok_iff.mp hMerge with
    ⟨gathered, hGathered, hFirst⟩
  rcases bind_eq_ok_iff.mp hGathered with
    ⟨listed, hListed, hAll⟩
  rw [← Except.ok.inj hFirst] at hMember
  have hSome : some a ∈ listed ++ parents := by
    rw [mapM_needed_eq_ok_iff.mp hAll]
    exact
      List.mem_map_of_mem (mem_of_mem_firstOccurrences hMember)
  rw [needed_eq_ok_iff.mp hListed, mem_present_some]
  exact List.mem_append.mp hSome

end Merged

------------------------------------------------------------
-- Laws of Merging
------------------------------------------------------------

/- Two lists of attributes are merged into a third one. -/
def Attribute.Merges
    (own parents merged : List Attribute) : Prop :=
  Attribute.merge (some (own.map some)) (parents.map some) =
    .ok merged

/- What is kept of both lists is what they are merged into. -/
theorem Attribute.merges_iff
    {own parents merged : List Attribute} :
    Attribute.Merges own parents merged ↔
      firstOccurrences (·.name) (own ++ parents) = merged := by
  rw [Attribute.Merges, Attribute.merge_eq, Except.ok.injEq]

/-
  Some attributes are the first ones of their names: they
  stand in the order of all attributes, no two have one name,
  and of each name there is the first attribute.
-/
structure Attribute.AreFirst
    (all kept : List Attribute) : Prop where
  order : kept.Sublist all
  names : (kept.map (·.name)).Nodup
  first :
    ∀ name ∈ all.map (·.name),
      ∃ a, all.find? (·.name = name) = some a ∧
        kept.filter (·.name = name) = [a]

/- What is kept of some attributes are their first ones. -/
theorem Attribute.areFirst_firstOccurrences
    (all : List Attribute) :
    Attribute.AreFirst all (firstOccurrences (·.name) all) := by
  constructor
  · exact firstOccurrences_sublist (·.name) all
  · exact nodup_firstOccurrences (·.name) all
  · intro name hName
    rcases List.mem_map.mp hName with ⟨b, hMember, hSame⟩
    have hFound : (all.find? (·.name = name)).isSome := by
      rw [List.find?_isSome]
      exact ⟨b, hMember, by simpa using hSame⟩
    rcases Option.isSome_iff_exists.mp hFound with ⟨a, hFirst⟩
    refine ⟨a, hFirst, ?_⟩
    rw [filter_firstOccurrences, hFirst, Option.toList_some]

/-
  Lists of attributes are always merged: into the first
  attributes of their names, of which those of the first list
  come first.  Merging is associative, and what was merged is
  not changed by merging it with itself.  Attributes that are
  inherited once more change nothing.
-/
theorem Attribute.merging_laws
    (a b c : List Attribute) :
    ∃ alone first last whole,
      Attribute.Merges a [] alone ∧
        Attribute.Merges a b first ∧
        Attribute.Merges b c last ∧
        Attribute.Merges a (b ++ c) whole ∧
        Attribute.AreFirst (a ++ b) first ∧
        alone <+: first ∧
        Attribute.Merges first c whole ∧
        Attribute.Merges a last whole ∧
        Attribute.Merges first first first ∧
        ∀ again : List Attribute,
          (∀ d ∈ again, d.name ∈ (a ++ b).map (·.name)) →
            Attribute.Merges a (b ++ again) first := by
  simp only [Attribute.merges_iff]
  refine
    ⟨_, _, _, _, rfl, rfl, rfl, rfl,
      Attribute.areFirst_firstOccurrences (a ++ b),
      ?_, ?_, ?_, ?_, ?_⟩
  · rw [List.append_nil]
    exact prefix_firstOccurrences (·.name) a b
  · rw [firstOccurrences_kept_append, List.append_assoc]
  · rw [firstOccurrences_append_kept]
  · rw [firstOccurrences_kept_append,
      firstOccurrences_append_kept]
    apply firstOccurrences_append_of_seen
    intro d hMember
    exact List.mem_map_of_mem hMember
  · intro again hSeen
    rw [← List.append_assoc]
    exact firstOccurrences_append_of_seen hSeen

------------------------------------------------------------
-- Own Attributes
------------------------------------------------------------

/- Attributes of an element can be merged if none is null. -/
theorem Element.merge_of_filled
    {element : Element}
    (hFilled : Filled element.attributes)
    (parents : List Attribute) :
    Attribute.merge element.attributes (parents.map some) =
      .ok (firstOccurrences (·.name)
        (element.attributeList ++ parents)) := by
  have hOwn :
      element.attributes =
        some (element.attributeList.map some) :=
    hFilled
  rw [hOwn]
  exact Attribute.merge_eq element.attributeList parents

/- The own attributes of a complete element can be merged. -/
theorem Element.merge_own_eq
    {element : Element}
    (hComplete : element.Complete)
    (parents : List Attribute) :
    Attribute.merge element.attributes (parents.map some) =
      .ok (firstOccurrences (·.name)
        (element.attributeList ++ parents)) :=
  Element.merge_of_filled hComplete.attributes parents

/- Without parents, the own attributes are merged alone. -/
theorem Element.merge_own_nil
    {element : Element}
    (hFilled : Filled element.attributes) :
    Attribute.merge element.attributes [] =
      .ok (firstOccurrences (·.name)
        element.attributeList) := by
  have hMerge := Element.merge_of_filled hFilled []
  rw [List.append_nil] at hMerge
  exact hMerge

------------------------------------------------------------
-- Inherited Attributes
------------------------------------------------------------

/-
  An element of a well-formed catalog has its attributes, and
  those that it inherits are declared by groups.
-/
theorem Catalog.exists_inherited
    {catalog : Catalog}
    {element : Element}
    (hComplete : catalog.Complete)
    (hFormed : catalog.WellFormed)
    (hElement : element ∈ catalog.elementList) :
    ∃ parents : List Attribute,
      catalog.parentAttributes element =
          .ok (parents.map some) ∧
        ∀ a ∈ parents, ∃ g ∈ catalog.groupList,
          a ∈ g.attributeList := by
  rcases catalog.exists_parentAttributes hComplete hFormed
      hElement with ⟨parents, hParents⟩
  have hWalk :
      AttributeGroup.inherited catalog.groupList
        (catalog.groupList.length + 1) []
        element.baseNames = .ok parents := by
    have hSame := hParents
    unfold Catalog.parentAttributes at hSame
    rw [hComplete.namedGroups_eq, ok_bind,
      (hComplete.everyElement element hElement).bases]
      at hSame
    exact hSame
  have hOwned :
      ∀ item ∈ parents, ∃ g ∈ catalog.groupList,
        ∃ own ∈ g.attributeList, item = some own :=
    fun item hMember =>
      AttributeGroup.mem_inherited hComplete.everyGroup
        hFormed.groupNames hWalk hMember
  have hPresent : ∀ item ∈ parents, item.isSome := by
    intro item hMember
    rcases hOwned item hMember with ⟨_, _, own, _, rfl⟩
    rfl
  refine ⟨parents.filterMap id, ?_, ?_⟩
  · rw [← eq_map_some_of_forall hPresent]
    exact hParents
  · intro a hMember
    have hItem : some a ∈ parents := by
      simpa using hMember
    rcases hOwned (some a) hItem with
      ⟨g, hGroup, own, hOwn, hSame⟩
    rw [Option.some.injEq] at hSame
    rw [hSame]
    exact ⟨g, hGroup, hOwn⟩

/-
  An element of a well-formed catalog has merged attributes,
  made of complete and consistent ones.
-/
theorem Catalog.exists_merged
    {catalog : Catalog}
    {element : Element}
    (hComplete : catalog.Complete)
    (hFormed : catalog.WellFormed)
    (hElement : element ∈ catalog.elementList) :
    ∃ parents : List Attribute,
      catalog.parentAttributes element =
          .ok (parents.map some) ∧
        Attribute.merge element.attributes
            (parents.map some) =
          .ok (firstOccurrences (·.name)
            (element.attributeList ++ parents)) ∧
        ∀ a ∈ element.attributeList ++ parents,
          a.Complete ∧ a.Consistent := by
  have hOwn := hComplete.everyElement element hElement
  rcases Catalog.exists_inherited hComplete hFormed hElement
    with ⟨parents, hParents, hGroups⟩
  refine ⟨parents, hParents, ?_, ?_⟩
  · exact Element.merge_own_eq hOwn parents
  · intro a hMember
    rcases List.mem_append.mp hMember with hHere | hThere
    · have hFits := hFormed.everyElement element hElement
      exact
        ⟨hOwn.everyAttribute a hHere,
          hFits.consistent a hHere⟩
    · rcases hGroups a hThere with ⟨g, hGroup, hListed⟩
      have hFits := hFormed.everyGroup g hGroup
      exact
        ⟨(hComplete.everyGroup g hGroup).everyAttribute a
            hListed,
          hFits.consistent a hListed⟩

end ElementBindings
