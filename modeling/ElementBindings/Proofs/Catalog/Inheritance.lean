import Mathlib.Logic.Relation
import Mathlib.Data.List.Nodup
import Mathlib.Data.List.Perm.Subperm
import ElementBindings.Proofs.Catalog.Complete

/-
  Walking the groups that are inherited from.

  A walk ends at a cycle, and at nothing else.  The path of a
  walk names distinct groups, so it is never longer than the
  list of groups, and the bound on its length is never met.
  From a group the walk succeeds when no group that it can
  come to is on its path or is an ancestor of itself.

  Key definitions include:
    * `AttributeGroup.Known`
    * `AttributeGroup.Lists`
    * `AttributeGroup.Clear`

  Key theorems include:
    * `AttributeGroup.find?_eq_some_iff`
    * `AttributeGroup.inherited_decides`
    * `AttributeGroup.mem_inherited`
-/

namespace ElementBindings

namespace AttributeGroup

variable {groups : List AttributeGroup}
variable {group base : AttributeGroup}
variable {path : List (Option String)}

------------------------------------------------------------
-- Groups by Name
------------------------------------------------------------

/- A name is the name of some group. -/
def Known
    (groups : List AttributeGroup)
    (name : String) : Prop :=
  ∃ group ∈ groups, group.name = some name

/- Groups with one name are one group. -/
theorem eq_of_name_eq
    (hDistinct : (groups.map (·.name)).Nodup)
    (hGroup : group ∈ groups)
    (hBase : base ∈ groups)
    (hName : group.name = base.name) :
    group = base :=
  List.inj_on_of_nodup_map hDistinct hGroup hBase hName

/- What holds of all groups of a name holds of the only one. -/
theorem forall_named_iff
    {property : AttributeGroup → Prop}
    {name : String}
    (hDistinct : (groups.map (·.name)).Nodup)
    (hGroup : group ∈ groups)
    (hName : group.name = some name) :
    (∀ g ∈ groups, g.name = some name → property g) ↔
      property group := by
  constructor
  · intro hAll
    exact hAll group hGroup hName
  · intro hOnly g hMember hSame
    have hEqual : g = group :=
      eq_of_name_eq hDistinct hMember hGroup
        (hSame.trans hName.symm)
    rw [hEqual]
    exact hOnly

/- Where names are distinct, a name finds its only group. -/
theorem find?_eq_some_iff
    {name : String}
    (hDistinct : (groups.map (·.name)).Nodup) :
    find? groups name = some group ↔
      group ∈ groups ∧ group.name = some name := by
  unfold find?
  constructor
  · intro hFound
    have hMember := List.mem_of_find?_eq_some hFound
    have hName := List.find?_some hFound
    exact ⟨by simpa using hMember, by simpa using hName⟩
  · intro hGroup
    rcases hGroup with ⟨hMember, hName⟩
    cases hFound :
        groups.reverse.find? fun g => g.name = some name with
    | none =>
        have hNone := List.find?_eq_none.mp hFound
        have hOther := hNone group (by simpa using hMember)
        simp [hName] at hOther
    | some other =>
        have hOther := List.mem_of_find?_eq_some hFound
        have hSame := List.find?_some hFound
        have hEqual : other = group := by
          apply eq_of_name_eq hDistinct
          · simpa using hOther
          · exact hMember
          · simpa [hName] using hSame
        rw [hEqual]

------------------------------------------------------------
-- Ancestors
------------------------------------------------------------

/- A group lists another one of the groups in its bases. -/
def Lists
    (groups : List AttributeGroup)
    (group base : AttributeGroup) : Prop :=
  base ∈ groups ∧ ∃ name ∈ group.baseNames,
    base.name = some name

/- What holds of all groups of the names that a group lists. -/
theorem forall_lists_iff
    {property : AttributeGroup → Prop} :
    (∀ name ∈ group.baseNames,
        ∀ g ∈ groups, g.name = some name → property g) ↔
      ∀ g, Lists groups group g → property g := by
  constructor
  · intro hAll g hLists
    rcases hLists with ⟨hMember, name, hListed, hNamed⟩
    exact hAll name hListed g hMember hNamed
  · intro hAll name hListed g hMember hNamed
    exact hAll g ⟨hMember, name, hListed, hNamed⟩

/-
  No way from a group comes to the path that led to it, or to
  a group that is an ancestor of itself.
-/
def Clear
    (groups : List AttributeGroup)
    (path : List (Option String))
    (group : AttributeGroup) : Prop :=
  ∀ ancestor,
    Relation.ReflTransGen (Lists groups) group ancestor →
    ancestor.name ∉ path ∧
      ¬ Relation.TransGen (Lists groups) ancestor ancestor

/- All groups that are reached from a group are groups. -/
theorem mem_of_reflTransGen
    (hGroup : group ∈ groups)
    (hReach :
      Relation.ReflTransGen (Lists groups) group base) :
    base ∈ groups := by
  rcases Relation.ReflTransGen.cases_tail hReach with
    hSame | hStep
  · rw [hSame]
    exact hGroup
  · rcases hStep with ⟨_, _, hLast⟩
    exact hLast.1

/-
  A group is clear when it is not on the path and its bases
  are clear of the path that goes on with it.
-/
theorem clear_iff
    (hDistinct : (groups.map (·.name)).Nodup)
    (hGroup : group ∈ groups) :
    Clear groups path group ↔
      group.name ∉ path ∧
        ∀ base, Lists groups group base →
          Clear groups (path ++ [group.name]) base := by
  constructor
  · intro hClear
    have hFirst := hClear group .refl
    refine ⟨hFirst.1, ?_⟩
    intro base hBase ancestor hReach
    have hLater :=
      hClear ancestor (Relation.ReflTransGen.head hBase hReach)
    refine ⟨?_, hLater.2⟩
    intro hPath
    rcases List.mem_append.mp hPath with hOld | hNew
    · exact hLater.1 hOld
    · have hBack : ancestor = group := by
        apply eq_of_name_eq hDistinct
        · exact mem_of_reflTransGen hBase.1 hReach
        · exact hGroup
        · simpa using hNew
      rw [hBack] at hReach
      exact hFirst.2 (Relation.TransGen.head' hBase hReach)
  · intro hBoth ancestor hReach
    rcases hBoth with ⟨hFirst, hBases⟩
    rcases Relation.ReflTransGen.cases_head hReach with
      hSame | hStep
    · rw [← hSame]
      refine ⟨hFirst, ?_⟩
      intro hCycle
      rcases Relation.TransGen.head'_iff.mp hCycle with
        ⟨base, hBase, hBack⟩
      have hAgain := (hBases base hBase group hBack).1
      simp at hAgain
    · rcases hStep with ⟨base, hBase, hRest⟩
      have hLater := hBases base hBase ancestor hRest
      refine ⟨?_, hLater.2⟩
      intro hOld
      exact hLater.1 (List.mem_append_left _ hOld)

------------------------------------------------------------
-- Paths
------------------------------------------------------------

/- A path of distinct groups. -/
structure IsPath
    (groups : List AttributeGroup)
    (path : List (Option String)) : Prop where
  distinct : path.Nodup
  named : path ⊆ groups.map (·.name)

namespace IsPath

/- A path is no longer than the list of groups. -/
theorem length_le
    (hPath : IsPath groups path) :
    path.length ≤ groups.length := by
  have hShort := (hPath.distinct.subperm hPath.named).length_le
  rw [List.length_map] at hShort
  exact hShort

/- A path goes on with a group that is not on it. -/
theorem extend
    (hPath : IsPath groups path)
    (hGroup : group ∈ groups)
    (hFresh : group.name ∉ path) :
    IsPath groups (path ++ [group.name]) := by
  constructor
  · rw [← List.concat_eq_append]
    exact List.Nodup.concat hFresh hPath.distinct
  · intro name hMember
    rcases List.mem_append.mp hMember with hOld | hNew
    · exact hPath.named hOld
    · rw [List.mem_singleton.mp hNew]
      exact List.mem_map_of_mem hGroup

end IsPath

/- A path that comes back to a group is reported as a cycle. -/
theorem cycleFault_eq
    (hComplete : ∀ g ∈ groups, g.Complete)
    (hNames : path ⊆ groups.map (·.name)) :
    cycleFault path =
      .catalog (.cycle (path.map shownName)) := by
  have hNone : path.findIdx? (·.isNone) = none := by
    rw [List.findIdx?_eq_none_iff]
    intro name hMember
    rcases List.mem_map.mp (hNames hMember) with
      ⟨g, hGroup, rfl⟩
    simp [Option.isNone_eq_false_iff,
      (hComplete g hGroup).name]
  unfold cycleFault
  rw [hNone]

------------------------------------------------------------
-- The Walk
------------------------------------------------------------

/- What is inherited by way of a base not on the path yet. -/
def inheritedFrom
    (groups : List AttributeGroup)
    (depth : Nat)
    (path : List (Option String))
    (base : String) :
    Except Fault (List (Option Attribute)) :=
  match find? groups base with
  | none => .error (.catalog (.unknownGroup base))
  | some group => do
      let own ← needed .iterate group.attributes
      let next ← needed .iterate group.bases
      let rest ← inherited groups depth
        (path ++ [some base]) next
      return own ++ rest

/- The walk goes by way of one base after the other. -/
theorem inherited_succ
    (groups : List AttributeGroup)
    (depth : Nat)
    (path : List (Option String))
    (bases : List String) :
    inherited groups (depth + 1) path bases = do
      let parts ← bases.mapM fun base =>
        if some base ∈ path then
          .error (cycleFault (path ++ [some base]))
        else
          inheritedFrom groups depth path base
      return parts.flatten := rfl

/- The walk from a base that is a complete group. -/
theorem inheritedFrom_eq
    (hDistinct : (groups.map (·.name)).Nodup)
    (hGroup : group ∈ groups)
    (hComplete : group.Complete)
    {name : String}
    (hName : group.name = some name)
    (depth : Nat) :
    inheritedFrom groups depth path name = do
      let rest ← inherited groups depth
        (path ++ [some name]) group.baseNames
      return group.attributeList.map some ++ rest := by
  have hFound : find? groups name = some group :=
    (find?_eq_some_iff hDistinct).mpr ⟨hGroup, hName⟩
  have hOwn :
      needed .iterate group.attributes =
        .ok (group.attributeList.map some) := by
    rw [hComplete.attributes]
    simp [attributeList]
  have hNext :
      needed .iterate group.bases = .ok group.baseNames := by
    rw [hComplete.bases]
    rfl
  unfold inheritedFrom
  rw [hFound]
  simp only [hOwn, hNext]
  rfl

/-
  The walk from some bases succeeds when all of them are
  clear, and reports a cycle otherwise.  By induction on the
  length that is left for the path, which is some at every
  group, since the path is never longer than the groups.
-/
theorem inherited_decides
    (hComplete : ∀ g ∈ groups, g.Complete)
    (hDistinct : (groups.map (·.name)).Nodup)
    (hKnown :
      ∀ g ∈ groups, ∀ name ∈ g.baseNames, Known groups name)
    (depth : Nat)
    {bases : List String}
    (hBases : ∀ name ∈ bases, Known groups name)
    (hPath : IsPath groups path)
    (hDepth : groups.length < depth + path.length) :
    Decides (inherited groups depth path bases)
      (∀ name ∈ bases, ∀ g ∈ groups, g.name = some name →
        Clear groups path g) := by
  induction depth generalizing path bases with
  | zero =>
      have hShort := hPath.length_le
      omega
  | succ depth ih =>
      rw [inherited_succ]
      refine
        ((Decides.mapM ?_).andThen fun parts _ _ =>
          Decides.pass parts.flatten).congr
          (and_iff_left trivial)
      intro name hMember
      rcases hBases name hMember with ⟨g, hGroup, hName⟩
      rw [forall_named_iff hDistinct hGroup hName,
        clear_iff hDistinct hGroup, hName]
      by_cases hBack : some name ∈ path
      · have hNames :
            path ++ [some name] ⊆ groups.map (·.name) := by
          apply List.append_subset_of_subset_of_subset
          · exact hPath.named
          · rw [← hName]
            simpa using ⟨g, hGroup, rfl⟩
        rw [if_pos hBack, cycleFault_eq hComplete hNames]
        exact Decides.reject _ fun hBoth => hBoth.1 hBack
      · have hLonger :
            IsPath groups (path ++ [some name]) := by
          rw [← hName] at hBack ⊢
          exact hPath.extend hGroup hBack
        have hRest :=
          ih (hKnown g hGroup) hLonger (by
            rw [List.length_append, List.length_singleton]
            omega)
        rw [if_neg hBack, inheritedFrom_eq hDistinct hGroup
          (hComplete g hGroup) hName]
        refine
          (hRest.andThen fun rest _ _ =>
            Decides.pass _).congr ?_
        rw [forall_lists_iff]
        simp only [hBack, not_false_eq_true, and_true,
          true_and]

/- Attributes that are inherited belong to known groups. -/
theorem mem_inherited
    (hComplete : ∀ g ∈ groups, g.Complete)
    (hDistinct : (groups.map (·.name)).Nodup)
    {depth : Nat}
    {bases : List String}
    {attributes : List (Option Attribute)}
    {a : Option Attribute}
    (hWalk :
      inherited groups depth path bases = .ok attributes)
    (hMember : a ∈ attributes) :
    ∃ g ∈ groups, ∃ own ∈ g.attributeList, a = some own := by
  induction depth generalizing path bases attributes with
  | zero => simp [inherited] at hWalk
  | succ depth ih =>
      rw [inherited_succ] at hWalk
      rcases bind_eq_ok_iff.mp hWalk with
        ⟨parts, hParts, hFlat⟩
      have hFlat : parts.flatten = attributes := by
        simpa [pure, Except.pure] using hFlat
      rw [← hFlat] at hMember
      rcases List.mem_flatten.mp hMember with
        ⟨part, hPart, hMember⟩
      rcases exists_of_mem_mapM hParts hPart with
        ⟨base, _, hFrom⟩
      by_cases hBack : some base ∈ path
      · simp [hBack] at hFrom
      · rw [if_neg hBack] at hFrom
        cases hFound : find? groups base with
        | none => simp [inheritedFrom, hFound] at hFrom
        | some g =>
            rcases (find?_eq_some_iff hDistinct).mp hFound with
              ⟨hGroup, hName⟩
            rw [inheritedFrom_eq hDistinct hGroup
              (hComplete g hGroup) hName] at hFrom
            rcases bind_eq_ok_iff.mp hFrom with
              ⟨rest, hRest, hSum⟩
            have hSum :
                g.attributeList.map some ++ rest = part := by
              simpa [pure, Except.pure] using hSum
            rw [← hSum] at hMember
            rcases List.mem_append.mp hMember with
              hOwn | hLater
            · rcases List.mem_map.mp hOwn with
                ⟨own, hListed, rfl⟩
              exact ⟨g, hGroup, own, hListed, rfl⟩
            · exact ih hRest hLater

end AttributeGroup

end ElementBindings
