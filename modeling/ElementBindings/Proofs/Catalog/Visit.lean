import ElementBindings.Proofs.Catalog.Merging

/-
  Walking along every path, and visiting every group once.

  A walk that comes to an end meets a group again for every
  path that leads to it.  In a depth-first visit a group that
  was met before is passed over with all that lies below it.
  Since nothing that is reached from a group is on the path
  to it, all that lies below a group was met when the group
  is met again.  So the visit keeps of the walk exactly the
  first occurrence of every group, and merging keeps the same
  attributes of both.

  Key definitions include:
    * `AttributeGroup.visit`
    * `AttributeGroup.Walks`
    * `Catalog.visitedAttributes`

  Key theorems include:
    * `AttributeGroup.exists_walks`
    * `AttributeGroup.Walks.visit_append`
    * `Catalog.merge_visitedAttributes`
-/

namespace ElementBindings

namespace AttributeGroup

variable {groups : List AttributeGroup}
variable {group : AttributeGroup}
variable {name : String}

------------------------------------------------------------
-- Visits
------------------------------------------------------------

/- A name finds a group of that name. -/
theorem find?_some
    (hFound : find? groups name = some group) :
    group ∈ groups ∧ group.name = some name := by
  unfold find? at hFound
  have hMember := List.mem_of_find?_eq_some hFound
  have hName := List.find?_some hFound
  exact ⟨by simpa using hMember, by simpa using hName⟩

/- The groups that were not visited yet. -/
def unvisited
    (groups : List AttributeGroup)
    (visited : List (Option String)) :
    List AttributeGroup :=
  groups.filter fun group => !visited.contains group.name

/- A group that is visited leaves fewer ones to visit. -/
theorem length_unvisited_lt
    {visited : List (Option String)}
    (hFound : find? groups name = some group)
    (hFresh : some name ∉ visited) :
    (unvisited groups (visited ++ [some name])).length
      < (unvisited groups visited).length := by
  rcases find?_some hFound with ⟨hGroup, hName⟩
  have hSame :
      unvisited groups (visited ++ [some name]) =
        (unvisited groups visited).filter fun other =>
          other.name ≠ some name := by
    unfold unvisited
    rw [List.filter_filter]
    apply List.filter_congr
    intro other _
    simp [Bool.and_comm]
  have hThere : group ∈ unvisited groups visited := by
    simp [unvisited, hGroup, hName, hFresh]
  rw [hSame]
  apply List.length_filter_lt_length_iff_exists.mpr
  exact ⟨group, hThere, by simp [hName]⟩

/-
  The groups of some names and all that they inherit from,
  depth first, each of them once: a name that was visited is
  passed over, as is one without a group, and otherwise the
  bases of its group come before the other names.
-/
def visit
    (groups : List AttributeGroup)
    (visited : List (Option String)) :
    List String →
    List AttributeGroup
  | [] => []
  | name :: pending =>
      if some name ∈ visited then
        visit groups visited pending
      else
        match _hFound : find? groups name with
        | none => visit groups visited pending
        | some group =>
            group :: visit groups (visited ++ [some name])
              (group.baseNames ++ pending)
termination_by pending =>
  ((unvisited groups visited).length, pending.length)
decreasing_by
  · apply Prod.Lex.right
    simp
  · apply Prod.Lex.right
    simp
  · apply Prod.Lex.left
    exact length_unvisited_lt _hFound (by assumption)

/- A name that was visited is passed over. -/
theorem visit_of_visited
    {visited : List (Option String)}
    (pending : List String)
    (hVisited : some name ∈ visited) :
    visit groups visited (name :: pending) =
      visit groups visited pending := by
  rw [visit, if_pos hVisited]

/- A group that is met first has its bases visited next. -/
theorem visit_of_fresh
    {visited : List (Option String)}
    (pending : List String)
    (hFresh : some name ∉ visited)
    (hFound : find? groups name = some group) :
    visit groups visited (name :: pending) =
      group :: visit groups (visited ++ [some name])
        (group.baseNames ++ pending) := by
  rw [visit, if_neg hFresh]
  split
  · next hNone => simp [hNone] at hFound
  · next other hOther =>
      rw [hOther, Option.some.injEq] at hFound
      rw [hFound]

------------------------------------------------------------
-- Walks
------------------------------------------------------------

/-
  A walk from some bases that comes to an end, with all groups
  that it meets, in order: every base is the name of a group
  and is not on the path that led to it.
-/
inductive Walks
    (groups : List AttributeGroup) :
    List (Option String) →
    List String →
    List AttributeGroup →
    Prop
  | done (path : List (Option String)) :
      Walks groups path [] []
  | byWayOf
      {path : List (Option String)}
      {name : String}
      {rest : List String}
      {group : AttributeGroup}
      {below others : List AttributeGroup}
      (hFresh : some name ∉ path)
      (hFound : find? groups name = some group)
      (hBelow :
        Walks groups (path ++ [some name]) group.baseNames
          below)
      (hOthers : Walks groups path rest others) :
      Walks groups path (name :: rest)
        (group :: (below ++ others))

/- The attributes of some groups, one group after the other. -/
def declared
    (groups : List AttributeGroup) :
    List (Option Attribute) :=
  groups.flatMap fun group => group.attributes.getD []

/- What is inherited by way of a group, if it can be read. -/
theorem exists_of_inheritedFrom
    {depth : Nat}
    {path : List (Option String)}
    {part : List (Option Attribute)}
    (hFrom : inheritedFrom groups depth path name = .ok part) :
    ∃ group later,
      find? groups name = some group ∧
        inherited groups depth (path ++ [some name])
            group.baseNames = .ok later ∧
          part = group.attributes.getD [] ++ later := by
  unfold inheritedFrom at hFrom
  cases hFound : find? groups name with
  | none => simp [hFound] at hFrom
  | some group =>
      rw [hFound] at hFrom
      rcases bind_eq_ok_iff.mp hFrom with
        ⟨own, hOwn, hFrom⟩
      rcases bind_eq_ok_iff.mp hFrom with
        ⟨next, hNext, hFrom⟩
      rcases bind_eq_ok_iff.mp hFrom with
        ⟨later, hLater, hSum⟩
      refine ⟨group, later, rfl, ?_, ?_⟩
      · rw [baseNames, needed_eq_ok_iff.mp hNext]
        exact hLater
      · rw [needed_eq_ok_iff.mp hOwn]
        exact (Except.ok.inj hSum).symm

/-
  What is inherited is declared by the groups of a walk.  The
  induction is on the length that is left for the path, and
  within one length on the bases.
-/
theorem exists_walks
    {depth : Nat}
    {path : List (Option String)}
    {bases : List String}
    {attributes : List (Option Attribute)}
    (hWalk :
      inherited groups depth path bases = .ok attributes) :
    ∃ met,
      Walks groups path bases met ∧
        attributes = declared met := by
  induction depth generalizing path bases attributes with
  | zero => simp [inherited] at hWalk
  | succ depth ih =>
      rw [inherited_succ] at hWalk
      rcases bind_eq_ok_iff.mp hWalk with
        ⟨parts, hParts, hFlat⟩
      rw [← Except.ok.inj hFlat]
      have hPairs := mapM_eq_ok_iff.mp hParts
      clear hWalk hParts hFlat
      induction hPairs with
      | nil => exact ⟨[], .done path, rfl⟩
      | @cons name part rest parts hFrom _ ihRest =>
          rcases ihRest with ⟨others, hOthers, hRest⟩
          by_cases hBack : some name ∈ path
          · simp [hBack] at hFrom
          · rw [if_neg hBack] at hFrom
            rcases exists_of_inheritedFrom hFrom with
              ⟨group, later, hFound, hLater, hPart⟩
            rcases ih hLater with ⟨below, hBelow, hNext⟩
            refine
              ⟨group :: (below ++ others),
                .byWayOf hBack hFound hBelow hOthers, ?_⟩
            rw [List.flatten_cons, hPart, hNext, hRest]
            simp [declared]

namespace Walks

variable {path : List (Option String)}
variable {bases : List String}
variable {met : List AttributeGroup}

/- A group that is met is the one that its name finds. -/
theorem find?_of_mem
    (hWalks : Walks groups path bases met)
    (hMet : group ∈ met) :
    ∃ name,
      group.name = some name ∧
        find? groups name = some group := by
  induction hWalks with
  | done path => simp at hMet
  | byWayOf hFresh hFound hBelow hOthers ihBelow ihOthers =>
      rcases List.mem_cons.mp hMet with rfl | hLater
      · exact ⟨_, (find?_some hFound).2, hFound⟩
      · rcases List.mem_append.mp hLater with hHere | hThere
        · exact ihBelow hHere
        · exact ihOthers hThere

/- So only groups are met. -/
theorem subset
    (hWalks : Walks groups path bases met) :
    met ⊆ groups := by
  intro group hMet
  rcases hWalks.find?_of_mem hMet with ⟨_, _, hFound⟩
  exact (find?_some hFound).1

/- Groups of one name that are met are one group. -/
theorem eq_of_name_eq
    {other : AttributeGroup}
    {path' : List (Option String)}
    {bases' : List String}
    {met' : List AttributeGroup}
    (hWalks : Walks groups path bases met)
    (hOthers : Walks groups path' bases' met')
    (hMet : group ∈ met)
    (hOther : other ∈ met')
    (hName : group.name = other.name) :
    group = other := by
  rcases hWalks.find?_of_mem hMet with ⟨name, hFirst, hFound⟩
  rcases hOthers.find?_of_mem hOther with
    ⟨name', hSecond, hAgain⟩
  have hSame : name = name' := by
    rw [hFirst, hSecond, Option.some.injEq] at hName
    exact hName
  rw [← hSame, hFound, Option.some.injEq] at hAgain
  exact hAgain

/- No group that is met is on the path. -/
theorem name_not_mem_path
    (hWalks : Walks groups path bases met)
    (hMet : group ∈ met) :
    group.name ∉ path := by
  induction hWalks with
  | done path => simp at hMet
  | byWayOf hFresh hFound hBelow hOthers ihBelow ihOthers =>
      rcases List.mem_cons.mp hMet with rfl | hLater
      · rw [(find?_some hFound).2]
        exact hFresh
      · rcases List.mem_append.mp hLater with hHere | hThere
        · intro hPath
          exact
            ihBelow hHere (List.mem_append_left _ hPath)
        · exact ihOthers hThere

/- All bases of a walk are met. -/
theorem base_mem
    (hWalks : Walks groups path bases met)
    {base : String}
    (hBase : base ∈ bases) :
    some base ∈ met.map (·.name) := by
  induction hWalks with
  | done path => simp at hBase
  | byWayOf hFresh hFound hBelow hOthers ihBelow ihOthers =>
      rw [List.map_cons, List.map_append,
        (find?_some hFound).2]
      rcases List.mem_cons.mp hBase with rfl | hLater
      · exact List.mem_cons_self
      · exact
          List.mem_cons_of_mem _
            (List.mem_append_right _ (ihOthers hLater))

/- All bases of the groups that are met are met, too. -/
theorem baseName_mem
    (hWalks : Walks groups path bases met)
    (hMet : group ∈ met)
    {base : String}
    (hBase : base ∈ group.baseNames) :
    some base ∈ met.map (·.name) := by
  induction hWalks with
  | done path => simp at hMet
  | byWayOf hFresh hFound hBelow hOthers ihBelow ihOthers =>
      rw [List.map_cons, List.map_append]
      apply List.mem_cons_of_mem
      rcases List.mem_cons.mp hMet with rfl | hLater
      · exact
          List.mem_append_left _ (hBelow.base_mem hBase)
      · rcases List.mem_append.mp hLater with hHere | hThere
        · exact List.mem_append_left _ (ihBelow hHere)
        · exact List.mem_append_right _ (ihOthers hThere)

------------------------------------------------------------
-- Visits of Walks
------------------------------------------------------------

/-
  Of the groups that a walk meets, those that were visited
  had all their bases visited.
-/
def Closed
    (visited : List (Option String))
    (met : List AttributeGroup) : Prop :=
  ∀ group ∈ met, group.name ∈ visited →
    ∀ base ∈ group.baseNames, some base ∈ visited

/- If all bases of a walk were visited, all of it was. -/
theorem name_mem_visited
    {visited : List (Option String)}
    (hWalks : Walks groups path bases met)
    (hClosed : Closed visited met)
    (hBases : ∀ base ∈ bases, some base ∈ visited)
    (hMet : group ∈ met) :
    group.name ∈ visited := by
  induction hWalks with
  | done path => simp at hMet
  | @byWayOf path name rest first below others hFresh hFound
      hBelow hOthers ihBelow ihOthers =>
      have hFirst : first.name ∈ visited := by
        rw [(find?_some hFound).2]
        exact hBases name List.mem_cons_self
      rcases List.mem_cons.mp hMet with rfl | hLater
      · exact hFirst
      · rcases List.mem_append.mp hLater with hHere | hThere
        · apply ihBelow
          · intro g hMember
            exact hClosed g (by simp [hMember])
          · exact hClosed first List.mem_cons_self hFirst
          · exact hHere
        · apply ihOthers
          · intro g hMember
            exact hClosed g (by simp [hMember])
          · intro base hBase
            exact hBases base (List.mem_cons_of_mem _ hBase)
          · exact hThere

/- What a visit keeps of a walk: groups not visited yet, once. -/
def kept
    (visited : List (Option String))
    (met : List AttributeGroup) : List AttributeGroup :=
  firstOccurrencesAfter (·.name) visited met

/- The names that were visited when a walk was. -/
def visitedAfter
    (visited : List (Option String))
    (met : List AttributeGroup) : List (Option String) :=
  visited ++ (kept visited met).map (·.name)

/- These are the names that were visited, and those of the walk. -/
theorem mem_visitedAfter_iff
    {visited : List (Option String)}
    {met : List AttributeGroup}
    {name : Option String} :
    name ∈ visitedAfter visited met ↔
      name ∈ visited ∨ name ∈ met.map (·.name) :=
  mem_seen_after_iff _ visited met

/- Where all below a group was visited, only the others count. -/
theorem kept_of_visited
    {visited : List (Option String)}
    {below : List AttributeGroup}
    (others : List AttributeGroup)
    (hGroup : group.name ∈ visited)
    (hBelow : ∀ g ∈ below, g.name ∈ visited) :
    kept visited (group :: (below ++ others)) =
      kept visited others := by
  unfold kept
  rw [firstOccurrencesAfter_cons, if_pos hGroup,
    firstOccurrencesAfter_append,
    firstOccurrencesAfter_eq_nil hBelow]
  simp

/- A group that is met first is kept, and visited from then on. -/
theorem kept_of_fresh
    {visited : List (Option String)}
    (below others : List AttributeGroup)
    (hGroup : group.name ∉ visited) :
    kept visited (group :: (below ++ others)) =
      group ::
        (kept (visited ++ [group.name]) below
          ++ kept
            (visitedAfter (visited ++ [group.name]) below)
            others) := by
  unfold kept
  rw [firstOccurrencesAfter_cons, if_neg hGroup,
    firstOccurrencesAfter_append]
  rfl

/- Visiting a walk leaves what was visited closed. -/
theorem closed_visitedAfter
    {visited : List (Option String)}
    {path' : List (Option String)}
    {bases' : List String}
    {others : List AttributeGroup}
    (hWalks : Walks groups path bases met)
    (hOthers : Walks groups path' bases' others)
    (hClosed :
      ∀ g ∈ others, g.name ∈ visited →
        ∀ base ∈ g.baseNames,
          some base ∈ visitedAfter visited met) :
    Closed (visitedAfter visited met) others := by
  intro g hMember hName base hBase
  rcases mem_visitedAfter_iff.mp hName with hOld | hMet
  · exact hClosed g hMember hOld base hBase
  · rcases List.mem_map.mp hMet with ⟨h, hMet, hSame⟩
    have hEqual : h = g :=
      hWalks.eq_of_name_eq hOthers hMet hMember hSame
    rw [hEqual] at hMet
    exact
      mem_visitedAfter_iff.mpr
        (.inr (hWalks.baseName_mem hMet hBase))

/- Then what was visited is what the walk and the others leave. -/
theorem visitedAfter_of_fresh
    {visited : List (Option String)}
    (below others : List AttributeGroup)
    (hGroup : group.name ∉ visited) :
    visitedAfter visited (group :: (below ++ others)) =
      visitedAfter
        (visitedAfter (visited ++ [group.name]) below)
        others := by
  rw [visitedAfter, kept_of_fresh below others hGroup]
  simp [visitedAfter]

/- No group is below itself, so visiting it keeps that closed. -/
theorem closed_below
    {visited : List (Option String)}
    {name : String}
    (hWalks : Walks groups (path ++ [some name]) bases met)
    (hClosed : Closed visited met) :
    Closed (visited ++ [some name]) met := by
  intro g hMember hSeen base hBase
  rcases List.mem_append.mp hSeen with hOld | hNow
  · exact
      List.mem_append_left _
        (hClosed g hMember hOld base hBase)
  · have hAway := hWalks.name_not_mem_path hMember
    exact absurd (List.mem_append_right path hNow) hAway

/- Behind a group and all below it, what was visited is closed. -/
theorem closed_behind
    {visited : List (Option String)}
    {name : String}
    {path' : List (Option String)}
    {rest : List String}
    {below others : List AttributeGroup}
    (hFound : find? groups name = some group)
    (hBelow :
      Walks groups (path ++ [some name]) group.baseNames below)
    (hOthers : Walks groups path' rest others)
    (hClosed : Closed visited others) :
    Closed (visitedAfter (visited ++ [some name]) below)
      others := by
  apply hBelow.closed_visitedAfter hOthers
  intro g hMember hSeen base hBase
  rw [mem_visitedAfter_iff]
  rcases List.mem_append.mp hSeen with hOld | hNow
  · exact
      .inl (List.mem_append_left _
        (hClosed g hMember hOld base hBase))
  · rcases hOthers.find?_of_mem hMember with
      ⟨name', hOther, hAgain⟩
    have hSame : name' = name := by
      rw [hOther] at hNow
      simpa using hNow
    rw [hSame, hFound, Option.some.injEq] at hAgain
    rw [← hAgain] at hBase
    exact .inr (hBelow.base_mem hBase)

/-
  A visit keeps of a walk the first occurrence of every group
  that was not visited, and goes on with what else is pending.
-/
theorem visit_append
    {visited : List (Option String)}
    (hWalks : Walks groups path bases met)
    (hClosed : Closed visited met)
    (more : List String) :
    visit groups visited (bases ++ more) =
      kept visited met
        ++ visit groups (visitedAfter visited met) more := by
  induction hWalks generalizing visited more with
  | done path =>
      simp [visitedAfter, kept, firstOccurrencesAfter,
        firstOccurrences]
  | @byWayOf path name rest group below others hFresh hFound
      hBelow hOthers ihBelow ihOthers =>
      have hName := (find?_some hFound).2
      have hBelowClosed : Closed visited below := by
        intro g hMember
        exact hClosed g (by simp [hMember])
      have hOthersClosed : Closed visited others := by
        intro g hMember
        exact hClosed g (by simp [hMember])
      by_cases hVisited : group.name ∈ visited
      · have hAllBelow : ∀ g ∈ below, g.name ∈ visited := by
          intro g hMember
          refine
            hBelow.name_mem_visited hBelowClosed ?_ hMember
          exact hClosed group List.mem_cons_self hVisited
        have hKept :=
          kept_of_visited others hVisited hAllBelow
        have hAfter :
            visitedAfter visited (group :: (below ++ others)) =
              visitedAfter visited others := by
          rw [visitedAfter, hKept, visitedAfter]
        rw [hName] at hVisited
        rw [List.cons_append, visit_of_visited _ hVisited,
          hKept, hAfter]
        exact ihOthers hOthersClosed more
      · rw [kept_of_fresh below others hVisited,
          visitedAfter_of_fresh below others hVisited]
        rw [hName] at hVisited ⊢
        rw [List.cons_append, visit_of_fresh _ hVisited hFound,
          ihBelow (hBelow.closed_below hBelowClosed),
          ihOthers
            (closed_behind hFound hBelow hOthers hOthersClosed)]
        simp

/- From the start, a visit keeps every group of a walk once. -/
theorem visit_eq
    (hWalks : Walks groups path bases met) :
    visit groups [] bases =
      firstOccurrences (·.name) met := by
  have hClosed : Closed [] met := by
    intro g _ hNone
    simp at hNone
  have hVisit := hWalks.visit_append hClosed []
  rw [List.append_nil, kept, firstOccurrencesAfter_nil,
    visit, List.append_nil] at hVisit
  exact hVisit

end Walks

end AttributeGroup

------------------------------------------------------------
-- Merging
------------------------------------------------------------

/-
  The attributes that an element inherits when each group is
  visited once.
-/
def Catalog.visitedAttributes
    (catalog : Catalog)
    (element : Element) : List (Option Attribute) :=
  AttributeGroup.declared
    (AttributeGroup.visit catalog.groupList []
      element.baseNames)

namespace AttributeGroup.Walks

variable {groups met : List AttributeGroup}
variable {path : List (Option String)}
variable {bases : List String}

/- A visit comes to the groups that a walk meets. -/
theorem mem_visit_iff
    (hWalks : Walks groups path bases met)
    {group : AttributeGroup} :
    group ∈ visit groups [] bases ↔ group ∈ met := by
  rw [hWalks.visit_eq]
  constructor
  · exact mem_of_mem_firstOccurrences
  · intro hMet
    have hName :
        group.name ∈
          (firstOccurrences (·.name) met).map (·.name) := by
      rw [← firstOccurrencesAfter_nil]
      have hSeen :=
        (mem_seen_after_iff (·.name) [] met).mpr
          (.inr (List.mem_map_of_mem hMet))
      simpa using hSeen
    rcases List.mem_map.mp hName with ⟨other, hKept, hSame⟩
    have hOther := mem_of_mem_firstOccurrences hKept
    rw [← hWalks.eq_of_name_eq hWalks hOther hMet hSame]
    exact hKept

/- The same attributes are declared by a walk and its visit. -/
theorem mem_declared_visit_iff
    (hWalks : Walks groups path bases met)
    {a : Option Attribute} :
    a ∈ declared (visit groups [] bases) ↔
      a ∈ declared met := by
  simp [declared, hWalks.mem_visit_iff]

/- Groups that are met again change nothing when merged. -/
theorem firstOccurrences_visit
    (hWalks : Walks groups path bases met)
    (own : List Attribute) :
    firstOccurrences (·.name)
        (own ++ met.flatMap attributeList) =
      firstOccurrences (·.name)
        (own
          ++ (visit groups [] bases).flatMap
            attributeList) := by
  rw [hWalks.visit_eq, ← firstOccurrencesAfter_nil,
    ← firstOccurrencesAfter_nil,
    ← firstOccurrencesAfter_nil AttributeGroup.name met,
    firstOccurrencesAfter_append,
    firstOccurrencesAfter_append]
  congr 1
  apply firstOccurrencesAfter_flatMap
  · intro g hMet h hOther hName
    rw [hWalks.eq_of_name_eq hWalks hMet hOther hName]
  · intro g _ hNone
    simp at hNone

end AttributeGroup.Walks

/- Groups without null among their attributes declare these. -/
theorem AttributeGroup.declared_eq
    {groups : List AttributeGroup}
    (hPresent : none ∉ AttributeGroup.declared groups) :
    AttributeGroup.declared groups =
      (groups.flatMap AttributeGroup.attributeList).map
        some := by
  unfold AttributeGroup.declared
  rw [List.map_flatMap]
  apply List.flatMap_congr
  intro group hGroup
  apply eq_map_some_of_not_mem
  intro hNull
  exact
    hPresent (List.mem_flatMap.mpr ⟨group, hGroup, hNull⟩)

/- Complete groups declare no null. -/
theorem AttributeGroup.none_not_mem_declared
    {groups : List AttributeGroup}
    (hComplete : ∀ g ∈ groups, g.Complete) :
    none ∉ AttributeGroup.declared groups := by
  intro hNull
  rcases List.mem_flatMap.mp hNull with ⟨g, hGroup, hItem⟩
  rw [(hComplete g hGroup).attributes] at hItem
  simp at hItem

/- Merging fails if own or inherited attributes hold a null. -/
theorem Attribute.merge_of_none
    {own parents : List (Option Attribute)}
    (hNull : none ∈ own ++ parents) :
    Attribute.merge (some own) parents =
      .error (.null (.readField "name")) := by
  unfold Attribute.merge Attribute.gather
  rw [needed_some, ok_bind, mapM_needed_of_none _ hNull]
  rfl

/- Groups that are met again change no merged attribute. -/
theorem AttributeGroup.Walks.merge_declared
    {groups met : List AttributeGroup}
    {path : List (Option String)}
    {bases : List String}
    (hWalks : AttributeGroup.Walks groups path bases met)
    (own : Option (List (Option Attribute))) :
    Attribute.merge own (AttributeGroup.declared met) =
      Attribute.merge own
        (AttributeGroup.declared
          (AttributeGroup.visit groups [] bases)) := by
  cases own with
  | none => rfl
  | some own =>
      have hSame :
          none ∈ own
                ++ AttributeGroup.declared
                  (AttributeGroup.visit groups [] bases) ↔
            none ∈ own ++ AttributeGroup.declared met := by
        rw [List.mem_append, List.mem_append,
          hWalks.mem_declared_visit_iff]
      by_cases hNull :
          none ∈ own ++ AttributeGroup.declared met
      · rw [Attribute.merge_of_none hNull,
          Attribute.merge_of_none (hSame.mpr hNull)]
      · have hVisited := (not_congr hSame).mpr hNull
        simp only [List.mem_append, not_or] at hNull hVisited
        rw [AttributeGroup.declared_eq hNull.2,
          AttributeGroup.declared_eq hVisited.2,
          eq_map_some_of_not_mem hNull.1,
          Attribute.merge_eq, Attribute.merge_eq,
          hWalks.firstOccurrences_visit]

/- What an element inherits is declared along a walk. -/
theorem Catalog.exists_walks
    {catalog : Catalog}
    {element : Element}
    {parents : List (Option Attribute)}
    (hParents : catalog.parentAttributes element = .ok parents) :
    ∃ met,
      AttributeGroup.Walks catalog.groupList []
          element.baseNames met ∧
        parents = AttributeGroup.declared met := by
  rcases bind_eq_ok_iff.mp hParents with
    ⟨groups, hNamed, hWalk⟩
  rcases bind_eq_ok_iff.mp hWalk with ⟨bases, hBases, hWalk⟩
  have hGroups : catalog.groupList = groups := by
    rw [Catalog.groupList,
      Catalog.namedGroups_eq_ok_iff.mp hNamed, present_some]
  have hNames : element.baseNames = bases := by
    rw [Element.baseNames, needed_eq_ok_iff.mp hBases]
    rfl
  rw [hGroups, hNames]
  exact AttributeGroup.exists_walks hWalk

/-
  Merging what an element inherits along all paths gives the
  attributes, in the order, that merging gives when every
  group is visited once; and the visit comes to no name twice.
-/
theorem Catalog.merge_visitedAttributes
    (catalog : Catalog)
    (element : Element)
    {parents : List (Option Attribute)}
    (hParents : catalog.parentAttributes element = .ok parents) :
    Attribute.merge element.attributes parents =
        Attribute.merge element.attributes
          (catalog.visitedAttributes element) ∧
      ((AttributeGroup.visit catalog.groupList []
        element.baseNames).map (·.name)).Nodup ∧
      (catalog.Complete → element.Complete →
        ∃ merged,
          Attribute.merge element.attributes parents
            = .ok merged) := by
  rcases Catalog.exists_walks hParents with
    ⟨met, hWalks, hDeclared⟩
  rw [Catalog.visitedAttributes, hDeclared]
  refine ⟨hWalks.merge_declared _, ?_, ?_⟩
  · rw [hWalks.visit_eq]
    exact nodup_firstOccurrences _ met
  · intro hComplete hElement
    have hMet : ∀ g ∈ met, g.Complete :=
      fun g hMember =>
        hComplete.everyGroup g (hWalks.subset hMember)
    rw [AttributeGroup.declared_eq
      (AttributeGroup.none_not_mem_declared hMet)]
    exact ⟨_, Element.merge_own_eq hElement _⟩

/- A number that is set and read under a key. -/
def keyedNumber
    (name key : String) : Attribute :=
  { name := some name
    key := some key
    type := some .int
    format := some .binary
    numbering := some .no
    readOnly := some false
    writeOnly := some false
    creationOnly := some false
    deprecated := some false
    enumValues := none
    handle := none
    documentation := none }

/- Groups that share an ancestor, and declare names again. -/
def family : Catalog :=
  ⟨some
    [ some ⟨some "top",
        some
          [ some (keyedNumber "A" "TOP_A"),
            some (keyedNumber "B" "TOP_B") ],
        some []⟩,
      some ⟨some "left",
        some [some (keyedNumber "A" "LEFT_A")],
        some ["top"]⟩,
      some ⟨some "right",
        some
          [ some (keyedNumber "B" "RIGHT_B"),
            some (keyedNumber "C" "RIGHT_C") ],
        some ["top", "left"]⟩ ],
    some []⟩

/- An element that inherits from them along several paths. -/
def heir : Element :=
  { name := some "Heir"
    className := some "heir"
    nativeType := some .void
    attributes := some []
    callbacks := some []
    childrenCount := some (.int 0)
    bases := some ["left", "right"]
    documentation := none }

/- The shared ancestor is met three times and visited once. -/
theorem family_merge :
    family.Complete ∧ heir.Complete ∧
      (∃ parents,
        family.parentAttributes heir = .ok parents ∧
          parents.length = 10) ∧
      Attribute.merge heir.attributes
          (family.visitedAttributes heir) =
        .ok
          [ keyedNumber "A" "LEFT_A",
            keyedNumber "B" "TOP_B",
            keyedNumber "C" "RIGHT_C" ] := by
  have hComplete : family.Complete := by decide
  have hHeir : heir.Complete := by decide
  have hParents :
      family.parentAttributes heir =
        .ok
          [ some (keyedNumber "A" "LEFT_A"),
            some (keyedNumber "A" "TOP_A"),
            some (keyedNumber "B" "TOP_B"),
            some (keyedNumber "B" "RIGHT_B"),
            some (keyedNumber "C" "RIGHT_C"),
            some (keyedNumber "A" "TOP_A"),
            some (keyedNumber "B" "TOP_B"),
            some (keyedNumber "A" "LEFT_A"),
            some (keyedNumber "A" "TOP_A"),
            some (keyedNumber "B" "TOP_B") ] := rfl
  have hMerge :=
    (Catalog.merge_visitedAttributes family heir hParents).1
  refine ⟨hComplete, hHeir, ⟨_, hParents, rfl⟩, ?_⟩
  rw [← hMerge]
  rfl

end ElementBindings
