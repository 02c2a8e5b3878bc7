import ElementBindings.Proofs.Catalog.Precedence

/-
  How deep the walk along bases goes.

  The walk calls itself for the bases of every group that it
  comes to.  No path names a group twice, so these calls are
  nested no deeper than there are names of groups, and come
  to an end in every catalog.  The walk gives attributes if
  all names that it can come to are names of groups, and none
  of these is an ancestor of itself.  Otherwise it rejects the
  catalog, on whatever path it finds the trouble.

  Key definitions include:
    * `AttributeGroup.Runs`
    * `AttributeGroup.distinctNames`
    * `AttributeGroup.LeadsAstray`

  Key theorems include:
    * `AttributeGroup.Runs.unique`
    * `AttributeGroup.Runs.inherited_eq`
    * `AttributeGroup.exists_runs`
    * `Catalog.parentAttributes_recursion`
-/

namespace ElementBindings

namespace AttributeGroup

variable {groups : List AttributeGroup}
variable {group : AttributeGroup}
variable {path : List (Option String)}
variable {bases : List String}
variable {name : String}

------------------------------------------------------------
-- Calls
------------------------------------------------------------

/-
  The walk from some bases without any bound on its calls: how
  deep they are nested, and what comes of them.  A call looks
  at one base after the other, and ends at the first fault.
  The call for the bases of a group ends before the next base
  is looked at.  No lists of the groups are null.
-/
inductive Runs
    (groups : List AttributeGroup) :
    List (Option String) →
    List String →
    Nat →
    Except Fault (List (Option Attribute)) →
    Prop
  | done (path : List (Option String)) :
      Runs groups path [] 1 (.ok [])
  | comesBack
      {path : List (Option String)}
      {name : String}
      (rest : List String)
      (hBack : some name ∈ path) :
      Runs groups path (name :: rest) 1
        (.error (cycleFault (path ++ [some name])))
  | unknown
      {path : List (Option String)}
      {name : String}
      (rest : List String)
      (hFresh : some name ∉ path)
      (hNone : find? groups name = none) :
      Runs groups path (name :: rest) 1
        (.error (.catalog (.unknownGroup name)))
  | failsBelow
      {path : List (Option String)}
      {name : String}
      (rest : List String)
      {group : AttributeGroup}
      {own : List (Option Attribute)}
      {next : List String}
      {depth : Nat}
      {fault : Fault}
      (hFresh : some name ∉ path)
      (hFound : find? groups name = some group)
      (hOwn : group.attributes = some own)
      (hNext : group.bases = some next)
      (hBelow :
        Runs groups (path ++ [some name]) next depth
          (.error fault)) :
      Runs groups path (name :: rest) (depth + 1)
        (.error fault)
  | goesOn
      {path : List (Option String)}
      {name : String}
      {rest : List String}
      {group : AttributeGroup}
      {own below : List (Option Attribute)}
      {next : List String}
      {depth other : Nat}
      {result : Except Fault (List (Option Attribute))}
      (hFresh : some name ∉ path)
      (hFound : find? groups name = some group)
      (hOwn : group.attributes = some own)
      (hNext : group.bases = some next)
      (hBelow :
        Runs groups (path ++ [some name]) next depth
          (.ok below))
      (hRest : Runs groups path rest other result) :
      Runs groups path (name :: rest) (max (depth + 1) other)
        (result.map (own ++ below ++ ·))

namespace Runs

variable {depth : Nat}
variable {result : Except Fault (List (Option Attribute))}

/- A name stands for one group, so it has one list of a kind. -/
theorem list_unique
    {α : Type}
    {other : AttributeGroup}
    {list list' : α}
    (field : AttributeGroup → Option α)
    (hFound : find? groups name = some group)
    (hList : field group = some list)
    (hOther : find? groups name = some other)
    (hList' : field other = some list') :
    list' = list := by
  rw [hFound, Option.some.injEq] at hOther
  rw [← hOther, hList, Option.some.injEq] at hList'
  exact hList'.symm

/- There is only one way for the calls to go. -/
theorem unique
    {other : Nat}
    {result' : Except Fault (List (Option Attribute))}
    (hRuns : Runs groups path bases depth result)
    (hOther : Runs groups path bases other result') :
    other = depth ∧ result' = result := by
  induction hRuns generalizing other result' with
  | done path =>
      cases hOther with
      | done => exact ⟨rfl, rfl⟩
  | comesBack rest hBack =>
      cases hOther with
      | comesBack => exact ⟨rfl, rfl⟩
      | unknown _ hFresh => exact absurd hBack hFresh
      | failsBelow _ hFresh => exact absurd hBack hFresh
      | goesOn hFresh => exact absurd hBack hFresh
  | unknown rest hFresh hNone =>
      cases hOther with
      | comesBack _ hBack => exact absurd hBack hFresh
      | unknown => exact ⟨rfl, rfl⟩
      | failsBelow _ _ hFound => simp [hNone] at hFound
      | goesOn _ hFound => simp [hNone] at hFound
  | failsBelow rest hFresh hFound hOwn hNext hBelow ih =>
      cases hOther with
      | comesBack _ hBack => exact absurd hBack hFresh
      | unknown _ _ hNone => simp [hNone] at hFound
      | failsBelow _ _ hFound' _ hNext' hBelow' =>
          rw [list_unique AttributeGroup.bases hFound hNext
            hFound' hNext'] at hBelow'
          rcases ih hBelow' with ⟨hDepth, hSame⟩
          exact ⟨congrArg (· + 1) hDepth, by simpa using hSame⟩
      | goesOn _ hFound' _ hNext' hBelow' _ =>
          rw [list_unique AttributeGroup.bases hFound hNext
            hFound' hNext'] at hBelow'
          exact nomatch (ih hBelow').2
  | goesOn hFresh hFound hOwn hNext hBelow hRest ih ihRest =>
      cases hOther with
      | comesBack _ hBack => exact absurd hBack hFresh
      | unknown _ _ hNone => simp [hNone] at hFound
      | failsBelow _ _ hFound' _ hNext' hBelow' =>
          rw [list_unique AttributeGroup.bases hFound hNext
            hFound' hNext'] at hBelow'
          exact nomatch (ih hBelow').2
      | goesOn _ hFound' hOwn' hNext' hBelow' hRest' =>
          rw [list_unique AttributeGroup.bases hFound hNext
            hFound' hNext'] at hBelow'
          have hSameOwn :=
            list_unique AttributeGroup.attributes hFound hOwn
              hFound' hOwn'
          rcases ih hBelow' with ⟨hDepth, hSame⟩
          rcases ihRest hRest' with ⟨hOthers, hResult⟩
          rw [hDepth, hOthers, hResult, hSameOwn,
            Except.ok.inj hSame]
          exact ⟨rfl, rfl⟩

end Runs

------------------------------------------------------------
-- Bounds
------------------------------------------------------------

/- The bound on the calls that the walk is given is no limit. -/
theorem inherited_cons
    (groups : List AttributeGroup)
    (depth : Nat)
    (path : List (Option String))
    (name : String)
    (rest : List String) :
    inherited groups (depth + 1) path (name :: rest) = do
      let part ←
        (if some name ∈ path then
          .error (cycleFault (path ++ [some name]))
        else
          inheritedFrom groups depth path name)
      let others ← inherited groups (depth + 1) path rest
      return part ++ others := by
  rw [inherited_succ, inherited_succ, List.mapM_cons]
  simp only [bind_assoc, pure_bind, List.flatten_cons]

/- What is inherited by way of a group without null lists. -/
theorem inheritedFrom_of_found
    {own : List (Option Attribute)}
    {next : List String}
    (hFound : find? groups name = some group)
    (hOwn : group.attributes = some own)
    (hNext : group.bases = some next)
    (depth : Nat)
    (path : List (Option String)) :
    inheritedFrom groups depth path name =
      (inherited groups depth (path ++ [some name]) next).map
        (own ++ ·) := by
  unfold inheritedFrom
  rw [hFound]
  simp only [hOwn, hNext, needed_some, ok_bind]
  rfl

/-
  A walk that may go as deep as its calls are nested gives what
  comes of them.
-/
theorem Runs.inherited_eq
    {depth bound : Nat}
    {result : Except Fault (List (Option Attribute))}
    (hRuns : Runs groups path bases depth result)
    (hBound : depth ≤ bound) :
    inherited groups bound path bases = result := by
  induction hRuns generalizing bound with
  | done path =>
      rcases Nat.exists_eq_add_of_le' hBound with ⟨left, rfl⟩
      rfl
  | @comesBack path name rest hBack =>
      rcases Nat.exists_eq_add_of_le' hBound with ⟨left, rfl⟩
      rw [inherited_cons, if_pos hBack]
      rfl
  | @unknown path name rest hFresh hNone =>
      rcases Nat.exists_eq_add_of_le' hBound with ⟨left, rfl⟩
      rw [inherited_cons, if_neg hFresh, inheritedFrom, hNone]
      rfl
  | @failsBelow path name rest group own next depth fault hFresh
      hFound hOwn hNext hBelow ih =>
      rcases Nat.exists_eq_add_of_le'
          (Nat.le_of_add_left_le hBound) with ⟨left, rfl⟩
      rw [inherited_cons, if_neg hFresh,
        inheritedFrom_of_found hFound hOwn hNext,
        ih (by omega)]
      rfl
  | @goesOn path name rest group own below next depth other
      result hFresh hFound hOwn hNext hBelow hRest ih ihRest =>
      have hLater := ihRest (le_trans (le_max_right _ _) hBound)
      have hHere : depth + 1 ≤ bound :=
        le_trans (le_max_left _ _) hBound
      rcases Nat.exists_eq_add_of_le'
          (Nat.le_of_add_left_le hHere) with ⟨left, rfl⟩
      rw [inherited_cons, if_neg hFresh,
        inheritedFrom_of_found hFound hOwn hNext,
        ih (by omega), hLater]
      cases result with
      | ok others => rfl
      | error fault => rfl

/- The number of different names that groups have. -/
def distinctNames
    (groups : List AttributeGroup) : Nat :=
  (firstOccurrences (·.name) groups).length

/- Groups have no more names than there are groups. -/
theorem distinctNames_le
    (groups : List AttributeGroup) :
    distinctNames groups ≤ groups.length := by
  unfold distinctNames
  exact (firstOccurrences_sublist _ groups).length_le

/- A path is no longer than there are names of groups. -/
theorem IsPath.length_le_distinctNames
    (hPath : IsPath groups path) :
    path.length ≤ distinctNames groups := by
  have hNamed :
      path ⊆ (firstOccurrences (·.name) groups).map (·.name) := by
    intro name hMember
    rw [map_firstOccurrences, List.mem_eraseDups]
    exact hPath.named hMember
  have hShort := (hPath.distinct.subperm hNamed).length_le
  rw [List.length_map] at hShort
  exact hShort

/-
  The calls come to an end, nested no deeper than names are
  left for the path.  By induction on how many these are, and
  for one path on the bases.
-/
theorem exists_runs
    (hComplete : ∀ g ∈ groups, g.Complete)
    (left : Nat)
    (hPath : IsPath groups path)
    (hLeft : distinctNames groups ≤ left + path.length) :
    ∃ depth result,
      Runs groups path bases depth result ∧
        depth ≤ left + 1 := by
  induction left using Nat.strong_induction_on
    generalizing path bases with
  | _ left ih =>
      induction bases with
      | nil => exact ⟨1, _, .done path, by omega⟩
      | cons name rest ihRest =>
          by_cases hBack : some name ∈ path
          · exact ⟨1, _, .comesBack rest hBack, by omega⟩
          cases hFound : find? groups name with
          | none =>
              exact
                ⟨1, _, .unknown rest hBack hFound, by omega⟩
          | some group =>
              have hGroup :=
                hComplete group (find?_some hFound).1
              have hLonger := hPath.found hBack hFound
              have hShort := hLonger.length_le_distinctNames
              have hLength :
                  (path ++ [some name]).length =
                    path.length + 1 := by
                simp
              have hBelow :
                  ∃ depth result,
                    Runs groups (path ++ [some name])
                        group.baseNames depth result ∧
                      depth ≤ left - 1 + 1 := by
                apply ih (left - 1) (by omega) hLonger
                omega
              rcases hBelow with ⟨depth, result, hRuns, hDepth⟩
              cases result with
              | error fault =>
                  exact
                    ⟨depth + 1, _,
                      .failsBelow rest hBack hFound
                        hGroup.attributes hGroup.bases hRuns,
                      by omega⟩
              | ok below =>
                  rcases ihRest with
                    ⟨other, later, hOthers, hOther⟩
                  exact
                    ⟨max (depth + 1) other, _,
                      .goesOn hBack hFound hGroup.attributes
                        hGroup.bases hRuns hOthers,
                      by omega⟩

------------------------------------------------------------
-- Trouble
------------------------------------------------------------

/- A name of a group that its own bases lead to. -/
def IsOwnAncestor
    (groups : List AttributeGroup)
    (name : String) : Prop :=
  ∃ group,
    find? groups name = some group ∧
      Reached groups group.baseNames name

/-
  Some bases lead to a name that no group has, or to one that
  is its own ancestor.
-/
def LeadsAstray
    (groups : List AttributeGroup)
    (bases : List String) : Prop :=
  ∃ name,
    Reached groups bases name ∧
      (find? groups name = none ∨ IsOwnAncestor groups name)

/- More bases lead astray as well. -/
theorem LeadsAstray.mono
    {more : List String}
    (hAstray : LeadsAstray groups bases)
    (hMore : bases ⊆ more) :
    LeadsAstray groups more := by
  rcases hAstray with ⟨target, hReached, hTrouble⟩
  exact ⟨target, hReached.mono hMore, hTrouble⟩

/- Where the bases of a group lead astray, its name does, too. -/
theorem LeadsAstray.through
    (hFound : find? groups name = some group)
    (hAstray : LeadsAstray groups group.baseNames) :
    LeadsAstray groups (name :: bases) := by
  rcases hAstray with ⟨target, hReached, hTrouble⟩
  have hMore :=
    hReached.mono
      (List.subset_append_left group.baseNames bases)
  exact ⟨target, hMore.through hFound, hTrouble⟩

/-
  Every name on a path is the name of a group, and the bases of
  that group lead to all bases that are to be walked from.
-/
def LeadsTo
    (groups : List AttributeGroup)
    (path : List (Option String))
    (bases : List String) : Prop :=
  ∀ name, some name ∈ path →
    ∃ group,
      find? groups name = some group ∧
        ∀ base ∈ bases, Reached groups group.baseNames base

/- The path goes on with a base, and leads to the next bases. -/
theorem LeadsTo.extend
    {rest : List String}
    (hLeads : LeadsTo groups path (name :: rest))
    (hFound : find? groups name = some group) :
    LeadsTo groups (path ++ [some name]) group.baseNames := by
  intro target hMember
  rcases List.mem_append.mp hMember with hOld | hNew
  · rcases hLeads target hOld with ⟨first, hFirst, hReaches⟩
    refine ⟨first, hFirst, ?_⟩
    intro base hBase
    exact .next (hReaches name List.mem_cons_self) hFound hBase
  · have hSame : target = name := by simpa using hNew
    rw [hSame]
    exact ⟨group, hFound, fun _ hBase => .base hBase⟩

/-
  Calls that end with a fault lead astray.  By induction on the
  calls, along a path that leads to all that they look at.
-/
theorem Runs.leadsAstray
    {depth : Nat}
    {result : Except Fault (List (Option Attribute))}
    {fault : Fault}
    (hRuns : Runs groups path bases depth result)
    (hLeads : LeadsTo groups path bases)
    (hFault : result = .error fault) :
    LeadsAstray groups bases := by
  induction hRuns generalizing fault with
  | done path => cases hFault
  | @comesBack path name rest hBack =>
      rcases hLeads name hBack with ⟨group, hFound, hReaches⟩
      exact
        ⟨name, .base List.mem_cons_self,
          .inr ⟨group, hFound, hReaches name List.mem_cons_self⟩⟩
  | @unknown path name rest hFresh hNone =>
      exact ⟨name, .base List.mem_cons_self, .inl hNone⟩
  | @failsBelow path name rest group own next depth fault hFresh
      hFound hOwn hNext hBelow ih =>
      have hNames : group.baseNames = next := by
        rw [baseNames, hNext]
        rfl
      have hLater := hLeads.extend hFound
      rw [hNames] at hLater
      have hAstray := ih hLater rfl
      rw [← hNames] at hAstray
      exact hAstray.through hFound
  | @goesOn path name rest group own below next depth other
      result hFresh hFound hOwn hNext hBelow hRest ih ihRest =>
      cases result with
      | ok others => cases hFault
      | error first =>
          have hRestLeads : LeadsTo groups path rest := by
            intro target hMember
            rcases hLeads target hMember with
              ⟨group, hFound, hReaches⟩
            exact
              ⟨group, hFound, fun base hBase =>
                hReaches base (List.mem_cons_of_mem _ hBase)⟩
          exact
            (ihRest hRestLeads rfl).mono
              (List.subset_cons_self name rest)

namespace Walks

variable {met : List AttributeGroup}

/- From every group that is met, a walk goes on past it. -/
theorem exists_below
    (hWalks : Walks groups path bases met)
    (hMet : group ∈ met) :
    ∃ path' below,
      group.name ∈ path' ∧
        Walks groups path' group.baseNames below := by
  induction hWalks with
  | done path => simp at hMet
  | @byWayOf path name rest first below others hFresh hFound
      hBelow hOthers ihBelow ihOthers =>
      rcases List.mem_cons.mp hMet with rfl | hLater
      · refine ⟨path ++ [some name], below, ?_, hBelow⟩
        rw [(find?_some hFound).2]
        simp
      · rcases List.mem_append.mp hLater with hHere | hThere
        · exact ihBelow hHere
        · exact ihOthers hThere

/- A walk that comes to its end leads not astray. -/
theorem not_leadsAstray
    (hWalks : Walks groups path bases met) :
    ¬ LeadsAstray groups bases := by
  intro hAstray
  rcases hAstray with ⟨name, hReached, hTrouble⟩
  have hMet := hWalks.name_mem_of_reached hReached
  rcases List.mem_map.mp hMet with ⟨group, hGroup, hName⟩
  rcases hWalks.find?_of_mem hGroup with
    ⟨name', hSame, hFound⟩
  rw [hName, Option.some.injEq] at hSame
  rw [← hSame] at hFound
  rcases hTrouble with hNone | hOwn
  · simp [hNone] at hFound
  · rcases hOwn with ⟨again, hAgain, hBack⟩
    rw [hFound, Option.some.injEq] at hAgain
    rw [← hAgain] at hBack
    rcases hWalks.exists_below hGroup with
      ⟨path', below, hPath, hBelow⟩
    have hBelowMet := hBelow.name_mem_of_reached hBack
    rcases List.mem_map.mp hBelowMet with
      ⟨other, hOther, hOtherName⟩
    have hAway := hBelow.name_not_mem_path hOther
    rw [hOtherName, ← hName] at hAway
    exact hAway hPath

end Walks

end AttributeGroup

------------------------------------------------------------
-- Elements
------------------------------------------------------------

namespace Catalog

variable {catalog : Catalog}
variable {element : Element}

/- A walk meets the groups that an element inherits. -/
theorem inherits_iff_of_walks
    {met : List AttributeGroup}
    {group : AttributeGroup}
    (hWalks :
      AttributeGroup.Walks catalog.groupList []
        element.baseNames met) :
    catalog.Inherits element group ↔ group ∈ met := by
  rw [← hWalks.mem_visit_iff, hWalks.mem_visit_iff_reached]
  rfl

/-
  An element is given the attributes of the groups that it
  inherits, and no others.
-/
def GivesInherited
    (catalog : Catalog)
    (element : Element) : Prop :=
  ∃ parents : List Attribute,
    catalog.parentAttributes element = .ok (parents.map some) ∧
      ∀ a, a ∈ parents ↔
        ∃ group,
          catalog.Inherits element group ∧
            a ∈ group.attributeList

/- The calls for an element end, and give what it inherits. -/
theorem Complete.exists_runs
    (hComplete : catalog.Complete)
    (hBases : element.bases = some element.baseNames) :
    ∃ depth,
      depth ≤
          AttributeGroup.distinctNames catalog.groupList + 1 ∧
        AttributeGroup.Runs catalog.groupList []
          element.baseNames depth
          (catalog.parentAttributes element) := by
  have hExists :
      ∃ depth result,
        AttributeGroup.Runs catalog.groupList []
            element.baseNames depth result ∧
          depth ≤
            AttributeGroup.distinctNames catalog.groupList
              + 1 := by
    apply AttributeGroup.exists_runs hComplete.everyGroup
    · exact ⟨List.nodup_nil, List.nil_subset _⟩
    · simp
  rcases hExists with ⟨depth, result, hRuns, hDepth⟩
  have hBound : depth ≤ catalog.groupList.length + 1 :=
    le_trans hDepth
      (Nat.succ_le_succ
        (AttributeGroup.distinctNames_le catalog.groupList))
  have hResult : catalog.parentAttributes element = result := by
    rw [hComplete.parentAttributes_eq hBases]
    exact hRuns.inherited_eq hBound
  rw [hResult]
  exact ⟨depth, hDepth, hRuns⟩

/- Bases that lead astray are what a catalog is rejected for. -/
theorem Complete.rejects_iff
    (hComplete : catalog.Complete)
    (hBases : element.bases = some element.baseNames) :
    Rejects (catalog.parentAttributes element) ↔
      AttributeGroup.LeadsAstray catalog.groupList
        element.baseNames := by
  constructor
  · intro hRejects
    rcases hRejects with ⟨fault, hFault⟩
    rcases hComplete.exists_runs hBases with ⟨_, _, hRuns⟩
    exact
      hRuns.leadsAstray (fun _ hNone => by simp at hNone) hFault
  · intro hAstray
    apply
      (parentAttributes_returnsOrRejects hComplete
        hBases).resolve_left
    intro hValue
    rcases hValue with ⟨attributes, hParents⟩
    rcases exists_walks hParents with
      ⟨met, hWalks, _⟩
    exact hWalks.not_leadsAstray hAstray

/- Otherwise the groups that are inherited give what they have. -/
theorem Complete.givesInherited
    (hComplete : catalog.Complete)
    (hBases : element.bases = some element.baseNames)
    (hNotAstray :
      ¬ AttributeGroup.LeadsAstray catalog.groupList
        element.baseNames) :
    catalog.GivesInherited element := by
  have hReturns :=
    (parentAttributes_returnsOrRejects hComplete
      hBases).resolve_right
      (mt (hComplete.rejects_iff hBases).mp hNotAstray)
  rcases hReturns with ⟨attributes, hParents⟩
  rcases exists_walks hParents with
    ⟨met, hWalks, hDeclared⟩
  have hMet : ∀ g ∈ met, g.Complete :=
    fun g hMember =>
      hComplete.everyGroup g (hWalks.subset hMember)
  refine ⟨met.flatMap AttributeGroup.attributeList, ?_, ?_⟩
  · rw [hParents, hDeclared,
      AttributeGroup.declared_eq
        (AttributeGroup.none_not_mem_declared hMet)]
  · intro a
    rw [List.mem_flatMap]
    simp only [inherits_iff_of_walks hWalks]

/-
  The walk for an element ends in every complete catalog, with
  calls nested no deeper than there are names of groups, and
  one more.  It rejects the catalog exactly if the bases lead
  to an unknown name or to a group that is its own ancestor.
  Otherwise it gives the attributes of all groups that they
  lead to, and no others.  So it does for all elements of a
  catalog that is accepted.
-/
theorem parentAttributes_recursion
    (hComplete : catalog.Complete)
    (hBases : element.bases = some element.baseNames) :
    (∃ depth,
      depth ≤
          AttributeGroup.distinctNames catalog.groupList + 1 ∧
        AttributeGroup.Runs catalog.groupList []
          element.baseNames depth
          (catalog.parentAttributes element) ∧
        ∀ other result,
          AttributeGroup.Runs catalog.groupList []
              element.baseNames other result →
            other = depth ∧
              result = catalog.parentAttributes element) ∧
      (Rejects (catalog.parentAttributes element) ↔
        AttributeGroup.LeadsAstray catalog.groupList
          element.baseNames) ∧
      (¬ AttributeGroup.LeadsAstray catalog.groupList
          element.baseNames →
        catalog.GivesInherited element) ∧
      (catalog.validate = .ok () →
        element ∈ catalog.elementList →
        catalog.GivesInherited element) := by
  rcases hComplete.exists_runs hBases with
    ⟨depth, hDepth, hRuns⟩
  have hRejects := hComplete.rejects_iff hBases
  refine
    ⟨⟨depth, hDepth, hRuns, fun _ _ => hRuns.unique⟩, hRejects,
      hComplete.givesInherited hBases, ?_⟩
  intro hAccepted hElement
  apply hComplete.givesInherited hBases
  intro hAstray
  rcases hRejects.mpr hAstray with ⟨fault, hFault⟩
  rcases (passes_of_validate hAccepted).inherited element
      hElement with
    ⟨parents, hParents⟩
  rw [hParents] at hFault
  cases hFault

end Catalog

/- A group that another one of its name takes the place of. -/
def replacedGroup : AttributeGroup :=
  ⟨some "common", some [some (keyedNumber "N" "OLD_N")],
    some ["missing"]⟩

/- A catalog with two groups of one name. -/
def replacement : Catalog :=
  ⟨some
      [some replacedGroup, some commonGroup, some specialGroup],
    some []⟩

/-
  In a ring the calls are nested as deep as they can be.  Of two
  groups of one name the last counts, even if the first would
  lead astray; so the catalog gives attributes, though it would
  not be accepted.
-/
theorem ring_and_replacement_recursion :
    (Rejects (ring.parentAttributes (descendant "Any" ["top"])) ∧
      AttributeGroup.distinctNames ring.groupList = 4 ∧
      AttributeGroup.Runs ring.groupList [] ["top"] (4 + 1)
        (ring.parentAttributes (descendant "Any" ["top"]))) ∧
    Rejects replacement.validate ∧
      ∃ parents : List Attribute,
        replacement.parentAttributes onlyHeir =
            .ok (parents.map some) ∧
          keyedNumber "N" "COMMON_N" ∈ parents ∧
          keyedNumber "N" "OLD_N" ∉ parents := by
  have hRing : ring.Complete := by decide
  have hReplacement : replacement.Complete := by decide
  have hCalls :
      AttributeGroup.Runs ring.groupList [] ["top"] (4 + 1)
        (.error (cycleFault
          [some "top", some "left", some "right", some "next",
            some "left"])) :=
    .failsBelow [] (by decide) rfl rfl rfl
      (.failsBelow [] (by decide) rfl rfl rfl
        (.failsBelow [] (by decide) rfl rfl rfl
          (.failsBelow [] (by decide) rfl rfl rfl
            (.comesBack [] (by decide)))))
  have hAround :
      AttributeGroup.Reached ring.groupList ["right"] "left" :=
    .next
      (.next (.base List.mem_cons_self) rfl List.mem_cons_self)
      rfl List.mem_cons_self
  have hOfRing :=
    Catalog.parentAttributes_recursion hRing
      (rfl :
        (descendant "Any" ["top"]).bases =
          some (descendant "Any" ["top"]).baseNames)
  have hOfReplacement :=
    Catalog.parentAttributes_recursion hReplacement
      (rfl : onlyHeir.bases = some onlyHeir.baseNames)
  rcases hOfRing with ⟨hRuns, hRejects, _, _⟩
  rcases hRuns with ⟨depth, _, _, hUnique⟩
  have hGiven :
      replacement.parentAttributes onlyHeir =
        .ok
          ([keyedNumber "N" "SPECIAL_N",
            keyedNumber "N" "COMMON_N"].map some) := rfl
  have hNotAstray :
      ¬ AttributeGroup.LeadsAstray replacement.groupList
        onlyHeir.baseNames := by
    intro hAstray
    rcases hOfReplacement.2.1.mpr hAstray with ⟨fault, hFault⟩
    rw [hGiven] at hFault
    cases hFault
  rcases hOfReplacement.2.2.1 hNotAstray with
    ⟨parents, hParents, hMember⟩
  refine
    ⟨⟨hRejects.mpr ?_, by decide, ?_⟩, ⟨_, rfl⟩, parents,
      hParents, (hMember _).mpr ?_, ?_⟩
  · exact
      ⟨"left",
        .next (.base List.mem_cons_self) rfl
          List.mem_cons_self,
        .inr ⟨_, rfl, hAround⟩⟩
  · rw [← (hUnique _ _ hCalls).2]
    exact hCalls
  · exact
      ⟨commonGroup,
        ⟨"common",
          .next (.base List.mem_cons_self) rfl (by decide), rfl⟩,
        by decide⟩
  · intro hOld
    have hItem := List.mem_map_of_mem (f := some) hOld
    rw [hGiven, Except.ok.injEq] at hParents
    rw [← hParents] at hItem
    exact absurd hItem (by decide)

end ElementBindings
