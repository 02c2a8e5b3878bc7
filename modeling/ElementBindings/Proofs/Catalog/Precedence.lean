import ElementBindings.Proofs.Catalog.Acceptance
import ElementBindings.Proofs.Catalog.Locality

/-
  Which declaration of an inherited name counts.

  The bases of an element are visited depth first, and of all
  groups that declare a name the first one on that way counts.
  So a group hides what another one declares exactly if it is
  visited before it.  That is sure if every way to the other
  group leads through it.  If there is a way around it, the
  ancestor of a group may come before the group.

  Key definitions include:
    * `AttributeGroup.WayAround`
    * `AttributeGroup.before`
    * `AttributeGroup.declaration?`
    * `Catalog.Inherits`

  Key theorems include:
    * `AttributeGroup.mem_before_or_wayAround`
    * `AttributeGroup.Walks.mem_visit_iff_reached`
    * `Catalog.exists_firstDeclared`
    * `Catalog.override_counts`
-/

namespace ElementBindings

namespace AttributeGroup

variable {groups order : List AttributeGroup}
variable {group nearer farther : AttributeGroup}
variable {bases : List String}
variable {name target : String}

------------------------------------------------------------
-- Ways Around a Group
------------------------------------------------------------

/- The groups but for those of the name of a group. -/
def without
    (groups : List AttributeGroup)
    (group : AttributeGroup) : List AttributeGroup :=
  groups.filter fun other => other.name ≠ group.name

/- A way from some bases to a group, but not through another. -/
def WayAround
    (groups : List AttributeGroup)
    (group : AttributeGroup)
    (bases : List String)
    (other : AttributeGroup) : Prop :=
  ∃ name, other.name = some name ∧
    Reached (without groups group) bases name

/- A group of another name is still found without it. -/
theorem find?_without
    {other : AttributeGroup}
    (hFound : find? groups name = some other)
    (hOther : other.name ≠ group.name) :
    find? (without groups group) name = some other := by
  have hName := (find?_some hFound).2
  have hSame :
      (fun g : AttributeGroup =>
        decide (decide (g.name ≠ group.name) = true ∧
          decide (g.name = some name) = true)) =
        fun g => decide (g.name = some name) := by
    funext g
    by_cases hHere : g.name = some name
    · simp [hHere, ← hName, hOther]
    · simp [hHere]
  unfold find? without at *
  rw [← List.filter_reverse, List.find?_filter, hSame]
  exact hFound

/- More bases lead to more names. -/
theorem Reached.mono
    {more : List String}
    (hReached : Reached groups bases target)
    (hMore : bases ⊆ more) :
    Reached groups more target := by
  induction hReached with
  | base hBase => exact .base (hMore hBase)
  | next _ hFound hNext ih => exact .next ih hFound hNext

/- Where the bases of a group lead, its name leads, too. -/
theorem Reached.through
    (hFound : find? groups name = some group)
    (hReached :
      Reached groups (group.baseNames ++ bases) target) :
    Reached groups (name :: bases) target := by
  induction hReached with
  | base hBase =>
      rcases List.mem_append.mp hBase with hHere | hThere
      · exact .next (.base List.mem_cons_self) hFound hHere
      · exact .base (List.mem_cons_of_mem name hThere)
  | next _ hAgain hNext ih => exact .next ih hAgain hNext

/- A way around a group stays one with more bases. -/
theorem WayAround.cons
    (hWay : WayAround groups group bases farther) :
    WayAround groups group (name :: bases) farther := by
  rcases hWay with ⟨target, hName, hReached⟩
  exact
    ⟨target, hName,
      hReached.mono (List.subset_cons_self name bases)⟩

/- It may start with the name of a group other than that. -/
theorem WayAround.through
    (hFound : find? groups name = some group)
    (hOther : group.name ≠ nearer.name)
    (hWay :
      WayAround groups nearer (group.baseNames ++ bases)
        farther) :
    WayAround groups nearer (name :: bases) farther := by
  rcases hWay with ⟨target, hName, hReached⟩
  exact
    ⟨target, hName,
      hReached.through (find?_without hFound hOther)⟩

------------------------------------------------------------
-- Order of Visits
------------------------------------------------------------

/- The groups that are visited before another one. -/
def before
    (order : List AttributeGroup)
    (group : AttributeGroup) : List AttributeGroup :=
  order.takeWhile fun other => other ≠ group

/- What comes before a group starts with every other group. -/
theorem before_cons
    (hOther : group ≠ farther) :
    before (group :: order) farther =
      group :: before order farther := by
  unfold before
  rw [List.takeWhile_cons_of_pos (by simpa using hOther)]

/- A name that finds no group is passed over. -/
theorem visit_of_unknown
    {visited : List (Option String)}
    (pending : List String)
    (hFresh : some name ∉ visited)
    (hNone : find? groups name = none) :
    visit groups visited (name :: pending) =
      visit groups visited pending := by
  rw [visit, if_neg hFresh]
  split
  · rfl
  · next other hOther => simp [hNone] at hOther

/-
  A group is visited before another one, unless it was visited
  already, or there is a way around it.  The induction follows
  the visit: a way from the bases of a group that is visited is
  a way from its name, as long as it is not the group itself.
-/
theorem mem_before_or_wayAround
    {visited : List (Option String)}
    (hNearer : find? groups target = some nearer)
    (hFarther : farther ∈ visit groups visited bases) :
    nearer ∈ before (visit groups visited bases) farther ∨
      some target ∈ visited ∨
      WayAround groups nearer bases farther := by
  induction visited, bases using visit.induct groups with
  | case1 visited => simp [visit] at hFarther
  | case2 visited name pending hVisited ih =>
      rw [visit_of_visited pending hVisited] at hFarther ⊢
      exact (ih hFarther).imp id (Or.imp id WayAround.cons)
  | case3 visited name pending hFresh hNone ih =>
      rw [visit_of_unknown pending hFresh hNone]
        at hFarther ⊢
      exact (ih hFarther).imp id (Or.imp id WayAround.cons)
  | case4 visited name pending hFresh group hFound ih =>
      have hName := (find?_some hFound).2
      rw [visit_of_fresh pending hFresh hFound] at hFarther ⊢
      by_cases hHere : group = farther
      · rw [← hHere]
        exact
          .inr (.inr ⟨name, hName, .base List.mem_cons_self⟩)
      have hLater :=
        (List.mem_cons.mp hFarther).resolve_left (Ne.symm hHere)
      rw [before_cons hHere]
      by_cases hSame : name = target
      · rw [hSame, hNearer, Option.some.injEq] at hFound
        rw [hFound]
        exact .inl List.mem_cons_self
      have hOther : group.name ≠ nearer.name := by
        rw [hName, (find?_some hNearer).2]
        simpa using hSame
      rcases ih hLater with hBefore | hVisited | hWay
      · exact .inl (List.mem_cons_of_mem group hBefore)
      · have hOld : some target ∈ visited := by
          simpa [Ne.symm hSame] using hVisited
        exact .inr (.inl hOld)
      · exact .inr (.inr (hWay.through hFound hOther))

------------------------------------------------------------
-- Groups That Are Visited
------------------------------------------------------------

namespace Walks

variable {path : List (Option String)}
variable {met : List AttributeGroup}

/- A group that is met is reached. -/
theorem reached_of_mem
    (hWalks : Walks groups path bases met)
    (hMet : group ∈ met) :
    ∃ name, Reached groups bases name ∧
      find? groups name = some group := by
  induction hWalks with
  | done path => simp at hMet
  | @byWayOf path name rest first below others hFresh hFound
      hBelow hOthers ihBelow ihOthers =>
      rcases List.mem_cons.mp hMet with rfl | hLater
      · exact ⟨name, .base List.mem_cons_self, hFound⟩
      · rcases List.mem_append.mp hLater with hHere | hThere
        · rcases ihBelow hHere with ⟨target, hReached, hAgain⟩
          have hMore :=
            hReached.mono
              (List.subset_append_left first.baseNames rest)
          exact ⟨target, hMore.through hFound, hAgain⟩
        · rcases ihOthers hThere with
            ⟨target, hReached, hAgain⟩
          exact
            ⟨target,
              hReached.mono (List.subset_cons_self name rest),
              hAgain⟩

/- A group whose name is met is met. -/
theorem mem_of_name_mem
    (hWalks : Walks groups path bases met)
    (hFound : find? groups name = some group)
    (hName : some name ∈ met.map (·.name)) :
    group ∈ met := by
  rcases List.mem_map.mp hName with ⟨other, hMet, hSame⟩
  rcases hWalks.find?_of_mem hMet with ⟨name', hOther, hAgain⟩
  rw [hOther, Option.some.injEq] at hSame
  rw [hSame, hFound, Option.some.injEq] at hAgain
  rw [hAgain]
  exact hMet

/- A name that is reached is met. -/
theorem name_mem_of_reached
    (hWalks : Walks groups path bases met)
    (hReached : Reached groups bases name) :
    some name ∈ met.map (·.name) := by
  induction hReached with
  | base hBase => exact hWalks.base_mem hBase
  | next _ hFound hNext ih =>
      exact
        hWalks.baseName_mem (hWalks.mem_of_name_mem hFound ih)
          hNext

/- A visit comes to the groups that are reached, and no other. -/
theorem mem_visit_iff_reached
    (hWalks : Walks groups path bases met) :
    group ∈ visit groups [] bases ↔
      ∃ name, Reached groups bases name ∧
        find? groups name = some group := by
  rw [hWalks.mem_visit_iff]
  constructor
  · exact hWalks.reached_of_mem
  · intro hReached
    rcases hReached with ⟨name, hReached, hFound⟩
    exact
      hWalks.mem_of_name_mem hFound
        (hWalks.name_mem_of_reached hReached)

end Walks

------------------------------------------------------------
-- Declarations
------------------------------------------------------------

/- What a group declares under a name, the first of several. -/
def declaration?
    (name : Option String)
    (group : AttributeGroup) : Option Attribute :=
  group.attributeList.find? fun a => a.name = name

/- A group declares what it has under a name. -/
theorem mem_of_declaration?
    {name : Option String}
    {a : Attribute}
    (hDeclared : group.declaration? name = some a) :
    a ∈ group.attributeList :=
  List.mem_of_find?_eq_some hDeclared

/-
  What the first group declares that declares a name is what a
  given one declares exactly if none before that does, provided
  that it is declared by no other.
-/
theorem firstDeclared_iff
    {name : Option String}
    {a hidden : Attribute}
    (hFirst : order.findSome? (declaration? name) = some a)
    (hFarther : farther ∈ order)
    (hHidden : farther.declaration? name = some hidden)
    (hUnique :
      ∀ g ∈ order, hidden ∈ g.attributeList → g = farther) :
    a = hidden ↔
      ∀ g ∈ before order farther, g.declaration? name = none := by
  induction order with
  | nil => simp at hFarther
  | cons g rest ih =>
      by_cases hHere : g = farther
      · have hNone : before (g :: rest) farther = [] := by
          unfold before
          rw [List.takeWhile_cons_of_neg (by simpa using hHere)]
        rw [List.findSome?_cons, hHere, hHidden] at hFirst
        rw [hNone]
        simpa [eq_comm] using hFirst
      · have hLater :=
          (List.mem_cons.mp hFarther).resolve_left
            (Ne.symm hHere)
        rw [before_cons hHere, List.forall_mem_cons]
        rw [List.forall_mem_cons] at hUnique
        cases hOwn : g.declaration? name with
        | none =>
            rw [List.findSome?_cons, hOwn] at hFirst
            simpa using ih hFirst hLater hUnique.2
        | some own =>
            rw [List.findSome?_cons, hOwn] at hFirst
            have hSame : own = a := Option.some.inj hFirst
            refine iff_of_false ?_ (by simp)
            rintro rfl
            rw [← hSame] at hUnique
            exact hHere (hUnique.1 (mem_of_declaration? hOwn))

end AttributeGroup

------------------------------------------------------------
-- Merged Attributes
------------------------------------------------------------

namespace Catalog

variable {catalog : Catalog}
variable {element : Element}

/- An element inherits a group that its bases lead to. -/
def Inherits
    (catalog : Catalog)
    (element : Element)
    (group : AttributeGroup) : Prop :=
  ∃ name,
    AttributeGroup.Reached catalog.groupList element.baseNames
        name ∧
      AttributeGroup.find? catalog.groupList name = some group

/- The groups that an element inherits, as they are visited. -/
def ancestors
    (catalog : Catalog)
    (element : Element) : List AttributeGroup :=
  AttributeGroup.visit catalog.groupList [] element.baseNames

/-
  An element of an accepted catalog has one attribute of each
  name that it does not declare but inherits: the one that the
  first group declares that declares any.
-/
theorem exists_firstDeclared
    (hAccepted : catalog.validate = .ok ())
    (hElement : element ∈ catalog.elementList) :
    ∃ parents merged,
      catalog.parentAttributes element = .ok parents ∧
        Attribute.merge element.attributes parents =
          .ok merged ∧
        (∀ group,
          group ∈ catalog.ancestors element ↔
            catalog.Inherits element group) ∧
        ∀ name,
          (∀ a ∈ element.attributeList, a.name ≠ name) →
            merged.filter (·.name = name) =
              ((catalog.ancestors element).findSome?
                (AttributeGroup.declaration? name)).toList := by
  have hPasses := passes_of_validate hAccepted
  rcases hPasses.exists_walks hElement with
    ⟨met, hWalks, hParents, hMet⟩
  have hDeclared :=
    AttributeGroup.declared_eq
      (hPasses.none_not_mem_declared hMet)
  have hMerged :=
    Element.merge_of_filled (hPasses.own hElement).1
      (met.flatMap AttributeGroup.attributeList)
  rw [← hDeclared] at hMerged
  refine
    ⟨_, _, hParents, hMerged,
      fun _ => hWalks.mem_visit_iff_reached, ?_⟩
  intro name hOwn
  have hNone :
      element.attributeList.find? (·.name = name) = none := by
    rw [List.find?_eq_none]
    intro a hMember
    simpa using hOwn a hMember
  rw [hWalks.firstOccurrences_visit, filter_firstOccurrences,
    List.find?_append, hNone, Option.none_or,
    List.find?_flatMap]
  rfl

/-
  Of two groups that declare a name, the nearer one is meant to
  count.  The attribute that an element gets is the one of the
  farther group exactly if no group that is visited before it
  declares the name.  So it is not that one if the nearer group
  is visited first, as it is if there is no way around it.
-/
theorem override_counts
    {nearer farther : AttributeGroup}
    {name : Option String}
    {override hidden : Attribute}
    (hAccepted : catalog.validate = .ok ())
    (hElement : element ∈ catalog.elementList)
    (hNearer : catalog.Inherits element nearer)
    (hFarther : catalog.Inherits element farther)
    (hOwn : ∀ a ∈ element.attributeList, a.name ≠ name)
    (hOverride : nearer.declaration? name = some override)
    (hHidden : farther.declaration? name = some hidden)
    (hUnique :
      ∀ g ∈ catalog.groupList,
        hidden ∈ g.attributeList → g = farther) :
    ∃ parents merged a,
      catalog.parentAttributes element = .ok parents ∧
        Attribute.merge element.attributes parents =
          .ok merged ∧
        merged.filter (·.name = name) = [a] ∧
        (catalog.ancestors element).findSome?
            (AttributeGroup.declaration? name) = some a ∧
        (a = hidden ↔
          ∀ g ∈ AttributeGroup.before
              (catalog.ancestors element) farther,
            g.declaration? name = none) ∧
        (nearer ∈ AttributeGroup.before
              (catalog.ancestors element) farther →
            a ≠ hidden) ∧
        (¬ AttributeGroup.WayAround catalog.groupList nearer
              element.baseNames farther →
            nearer ∈ AttributeGroup.before
              (catalog.ancestors element) farther) := by
  rcases exists_firstDeclared hAccepted hElement with
    ⟨parents, merged, hParents, hMerged, hVisited, hFirst⟩
  have hThere : farther ∈ catalog.ancestors element :=
    (hVisited farther).mpr hFarther
  have hSome :
      ∃ a, (catalog.ancestors element).findSome?
        (AttributeGroup.declaration? name) = some a := by
    rw [← Option.isSome_iff_exists, List.findSome?_isSome_iff]
    exact ⟨farther, hThere, by simp [hHidden]⟩
  rcases hSome with ⟨a, hDeclared⟩
  have hOnly :
      ∀ g ∈ catalog.ancestors element,
        hidden ∈ g.attributeList → g = farther := by
    intro g hMember hListed
    rcases (hVisited g).mp hMember with ⟨_, _, hFound⟩
    exact
      hUnique g (AttributeGroup.find?_some hFound).1 hListed
  have hHides :=
    AttributeGroup.firstDeclared_iff hDeclared hThere hHidden
      hOnly
  refine
    ⟨parents, merged, a, hParents, hMerged, ?_, hDeclared,
      hHides, ?_, ?_⟩
  · rw [hFirst name hOwn, hDeclared]
    rfl
  · intro hBefore hSame
    have hNone := hHides.mp hSame nearer hBefore
    simp [hOverride] at hNone
  · intro hAround
    rcases hNearer with ⟨target, _, hFound⟩
    rcases AttributeGroup.mem_before_or_wayAround hFound hThere
      with hBefore | hVisitedFirst | hWay
    · exact hBefore
    · simp at hVisitedFirst
    · exact absurd hWay hAround

end Catalog

/- A group that declares N. -/
def commonGroup : AttributeGroup :=
  ⟨some "common", some [some (keyedNumber "N" "COMMON_N")],
    some []⟩

/- A group that inherits from it, and declares nothing. -/
def plainGroup : AttributeGroup :=
  ⟨some "plain", some [], some ["common"]⟩

/- A group that inherits from it, and declares N again. -/
def specialGroup : AttributeGroup :=
  ⟨some "special", some [some (keyedNumber "N" "SPECIAL_N")],
    some ["common"]⟩

/- An element with some bases, and nothing of its own. -/
def descendant
    (name : String)
    (bases : List String) : Element :=
  { heir with name := some name, bases := some bases }

/- Elements that come to the groups in different orders. -/
def earlyHeir : Element :=
  descendant "Early" ["special", "plain"]

def lateHeir : Element :=
  descendant "Late" ["plain", "special"]

def onlyHeir : Element :=
  descendant "Only" ["special"]

/- A catalog of these groups and elements. -/
def lineage : Catalog :=
  ⟨some [some commonGroup, some plainGroup, some specialGroup],
    some [some earlyHeir, some lateHeir, some onlyHeir]⟩

/- Elements with the special group inherit from two groups. -/
theorem lineage_inherits
    (element : Element)
    (hSpecial : "special" ∈ element.baseNames) :
    lineage.Inherits element specialGroup ∧
      lineage.Inherits element commonGroup :=
  ⟨⟨"special", .base hSpecial, rfl⟩,
    "common", .next (.base hSpecial) rfl (by decide), rfl⟩

/- The special group comes first if it is the first base. -/
theorem ancestors_earlyHeir :
    lineage.ancestors earlyHeir =
      [specialGroup, commonGroup, plainGroup] := by
  show
    AttributeGroup.visit lineage.groupList []
      ["special", "plain"] = _
  rw [AttributeGroup.visit_of_fresh _ (by decide) rfl]
  show
    specialGroup :: AttributeGroup.visit lineage.groupList
      [some "special"] ["common", "plain"] = _
  rw [AttributeGroup.visit_of_fresh _ (by decide) rfl]
  show
    specialGroup :: commonGroup ::
      AttributeGroup.visit lineage.groupList
        [some "special", some "common"] ["plain"] = _
  rw [AttributeGroup.visit_of_fresh _ (by decide) rfl]
  show
    specialGroup :: commonGroup :: plainGroup ::
      AttributeGroup.visit lineage.groupList
        [some "special", some "common", some "plain"]
        ["common"] = _
  rw [AttributeGroup.visit_of_visited _ (by decide),
    AttributeGroup.visit]

/- If it is the only base, there is no way around it. -/
theorem onlyHeir_has_no_way_around :
    ¬ AttributeGroup.WayAround lineage.groupList specialGroup
      onlyHeir.baseNames commonGroup := by
  intro hWay
  rcases hWay with ⟨name, hName, hReached⟩
  have hNone :
      AttributeGroup.find?
        (AttributeGroup.without lineage.groupList specialGroup)
        "special" = none := rfl
  have hSpecial : name = "special" := by
    clear hName
    induction hReached with
    | base hBase => exact List.mem_singleton.mp hBase
    | next _ hFound _ ih =>
        rw [ih, hNone] at hFound
        simp at hFound
  rw [hSpecial] at hName
  exact absurd hName (by decide)

/- The special group counts for both of these elements. -/
theorem special_counts :
    (∃ parents merged a,
      lineage.parentAttributes earlyHeir = .ok parents ∧
        Attribute.merge earlyHeir.attributes parents =
          .ok merged ∧
        merged.filter (·.name = some "N") = [a] ∧
        a ≠ keyedNumber "N" "COMMON_N") ∧
    ∃ parents merged a,
      lineage.parentAttributes onlyHeir = .ok parents ∧
        Attribute.merge onlyHeir.attributes parents =
          .ok merged ∧
        merged.filter (·.name = some "N") = [a] ∧
        a ≠ keyedNumber "N" "COMMON_N" := by
  have hAccepted : lineage.validate = .ok () := rfl
  have hUnique :
      ∀ g ∈ lineage.groupList,
        keyedNumber "N" "COMMON_N" ∈ g.attributeList →
          g = commonGroup := by
    decide
  have hEarly : earlyHeir ∈ lineage.elementList := by decide
  have hOnly : onlyHeir ∈ lineage.elementList := by decide
  have hBefore :
      specialGroup ∈
        AttributeGroup.before (lineage.ancestors earlyHeir)
          commonGroup := by
    rw [ancestors_earlyHeir]
    decide
  constructor
  · have hBoth := lineage_inherits earlyHeir (by decide)
    have hOwn :
        ∀ a ∈ earlyHeir.attributeList, a.name ≠ some "N" := by
      decide
    rcases Catalog.override_counts hAccepted hEarly hBoth.1
        hBoth.2 hOwn rfl rfl hUnique with
      ⟨parents, merged, a, hParents, hMerged, hOne, _, _,
        hCounts, _⟩
    exact
      ⟨parents, merged, a, hParents, hMerged, hOne,
        hCounts hBefore⟩
  · have hBoth := lineage_inherits onlyHeir (by decide)
    have hOwn :
        ∀ a ∈ onlyHeir.attributeList, a.name ≠ some "N" := by
      decide
    rcases Catalog.override_counts hAccepted hOnly hBoth.1
        hBoth.2 hOwn rfl rfl hUnique with
      ⟨parents, merged, a, hParents, hMerged, hOne, _, _,
        hCounts, hThrough⟩
    exact
      ⟨parents, merged, a, hParents, hMerged, hOne,
        hCounts (hThrough onlyHeir_has_no_way_around)⟩

/-
  Where the plain group comes first, the common ancestor is
  visited before the special group, and hides what it declares.
-/
theorem common_hides_special :
    lineage.validate = .ok () ∧
      lateHeir ∈ lineage.elementList ∧
      lineage.Inherits lateHeir specialGroup ∧
      lineage.Inherits lateHeir commonGroup ∧
      AttributeGroup.Reached lineage.groupList
        specialGroup.baseNames "common" ∧
      specialGroup.attributeList = [keyedNumber "N" "SPECIAL_N"] ∧
      commonGroup.attributeList = [keyedNumber "N" "COMMON_N"] ∧
      lateHeir.attributeList = [] ∧
      plainGroup.attributeList = [] ∧
      (do
        let parents ← lineage.parentAttributes lateHeir
        Attribute.merge lateHeir.attributes parents) =
          .ok [keyedNumber "N" "COMMON_N"] := by
  refine ⟨rfl, by decide, ?_, ?_, ?_, rfl, rfl, rfl, rfl, rfl⟩
  · exact ⟨"special", .base (by decide), rfl⟩
  · exact
      ⟨"common",
        .next (.base List.mem_cons_self) rfl (by decide), rfl⟩
  · exact .base (by decide)

end ElementBindings
