import ElementBindings.Proofs.Catalog.Recursion

/-
  Which cycle a catalog is rejected for.

  Where everything but the inheritance of groups is right, the
  walks from the groups find a cycle if there is one.  What is
  reported starts at the first group that leads to a cycle and
  goes from each group to one of its bases, until it comes to
  a name for the second time.  Of the bases of a group it takes
  the first that leads to a cycle: a walk that leaves a base
  behind has found that it leads to none.

  Key definitions include:
    * `AttributeGroup.LeadsToCycle`
    * `AttributeGroup.ComesBack`
    * `AttributeGroup.FirstCycle`
    * `Catalog.PassesChecks`

  Key theorems include:
    * `AttributeGroup.exists_comesBack`
    * `AttributeGroup.ComesBack.follows`
    * `Catalog.validate_eq_first_cycle`
-/

namespace ElementBindings

namespace AttributeGroup

variable {groups : List AttributeGroup}
variable {group : AttributeGroup}
variable {path : List (Option String)}
variable {bases names : List String}
variable {name : String}

------------------------------------------------------------
-- Groups That Lead to a Cycle
------------------------------------------------------------

/- A group that is its own ancestor can be reached from it. -/
def LeadsToCycle
    (groups : List AttributeGroup)
    (group : AttributeGroup) : Prop :=
  ∃ ancestor,
    Relation.ReflTransGen (Lists groups) group ancestor ∧
      Relation.TransGen (Lists groups) ancestor ancestor

/- A group leads to no cycle if it is clear of the empty path. -/
theorem clear_nil_iff :
    Clear groups [] group ↔ ¬ LeadsToCycle groups group := by
  unfold Clear LeadsToCycle
  constructor
  · intro hClear hCycle
    rcases hCycle with ⟨ancestor, hReach, hCycle⟩
    exact (hClear ancestor hReach).2 hCycle
  · intro hNone ancestor hReach
    exact
      ⟨List.not_mem_nil, fun hCycle =>
        hNone ⟨ancestor, hReach, hCycle⟩⟩

/-
  A name of groups that are clear: they lead neither to the
  path nor to a cycle.
-/
def ClearName
    (groups : List AttributeGroup)
    (path : List (Option String))
    (name : String) : Prop :=
  ∀ g ∈ groups, g.name = some name → Clear groups path g

/-
  A name is clear if it is not on the path, and the bases of
  its group are clear of the path that goes on with it.
-/
theorem clearName_iff
    (hDistinct : (groups.map (·.name)).Nodup)
    (hGroup : group ∈ groups)
    (hName : group.name = some name) :
    ClearName groups path name ↔
      some name ∉ path ∧
        ∀ base ∈ group.baseNames,
          ClearName groups (path ++ [some name]) base := by
  unfold ClearName
  rw [forall_named_iff hDistinct hGroup hName,
    clear_iff hDistinct hGroup, hName, forall_lists_iff]

------------------------------------------------------------
-- Ways Back
------------------------------------------------------------

/-
  The names on the way from some bases back to the path or to
  themselves.  Before a name that is taken, all bases are those
  of clear groups.
-/
inductive ComesBack
    (groups : List AttributeGroup) :
    List (Option String) →
    List String →
    List String →
    Prop
  | closes
      {path : List (Option String)}
      {before : List String}
      {name : String}
      (after : List String)
      (hBefore : ∀ b ∈ before, ClearName groups path b)
      (hBack : some name ∈ path) :
      ComesBack groups path (before ++ name :: after) [name]
  | goesOn
      {path : List (Option String)}
      {before : List String}
      {name : String}
      (after : List String)
      {group : AttributeGroup}
      {names : List String}
      (hBefore : ∀ b ∈ before, ClearName groups path b)
      (hFresh : some name ∉ path)
      (hGroup : group ∈ groups)
      (hName : group.name = some name)
      (hBelow :
        ComesBack groups (path ++ [some name]) group.baseNames
          names) :
      ComesBack groups path (before ++ name :: after)
        (name :: names)

namespace ComesBack

/- The first base may be on the path. -/
theorem atOnce
    (rest : List String)
    (hBack : some name ∈ path) :
    ComesBack groups path (name :: rest) [name] := by
  have hNone : ∀ b ∈ [], ClearName groups path b :=
    List.forall_mem_nil _
  exact closes rest hNone hBack

/- The way may go by way of the first base. -/
theorem byFirst
    (rest : List String)
    (hFresh : some name ∉ path)
    (hGroup : group ∈ groups)
    (hName : group.name = some name)
    (hBelow :
      ComesBack groups (path ++ [some name]) group.baseNames
        names) :
    ComesBack groups path (name :: rest) (name :: names) := by
  have hNone : ∀ b ∈ [], ClearName groups path b :=
    List.forall_mem_nil _
  exact goesOn rest hNone hFresh hGroup hName hBelow

/- A way back may start behind another clear base. -/
theorem cons
    (hClear : ClearName groups path name)
    (hBack : ComesBack groups path bases names) :
    ComesBack groups path (name :: bases) names := by
  cases hBack with
  | closes after hBefore hBack =>
      exact
        .closes after
          (List.forall_mem_cons.mpr ⟨hClear, hBefore⟩) hBack
  | goesOn after hBefore hFresh hGroup hName hBelow =>
      exact
        .goesOn after
          (List.forall_mem_cons.mpr ⟨hClear, hBefore⟩) hFresh
          hGroup hName hBelow

end ComesBack

section Walks

variable
  (hComplete : ∀ g ∈ groups, g.Complete)
  (hDistinct : (groups.map (·.name)).Nodup)
  (hKnown :
    ∀ g ∈ groups, ∀ name ∈ g.baseNames, Known groups name)

include hComplete hDistinct hKnown

/- A base that is clear of the path gives attributes. -/
theorem exists_inheritedFrom
    {depth : Nat}
    (hName : Known groups name)
    (hPath : IsPath groups path)
    (hDepth : groups.length < depth + 1 + path.length)
    (hClear : ClearName groups path name) :
    some name ∉ path ∧
      ∃ part, inheritedFrom groups depth path name = .ok part := by
  rcases hName with ⟨g, hGroup, hName⟩
  have hFound : find? groups name = some g :=
    (find?_eq_some_iff hDistinct).mpr ⟨hGroup, hName⟩
  rcases (clearName_iff hDistinct hGroup hName).mp hClear with
    ⟨hFresh, hBelow⟩
  have hLength :
      groups.length < depth + (path ++ [some name]).length := by
    rw [List.length_append, List.length_singleton]
    omega
  have hWalk :=
    (inherited_decides hComplete hDistinct hKnown depth
      (hKnown g hGroup) (hPath.found hFresh hFound)
      hLength).passes hBelow
  rcases hWalk with ⟨rest, hRest⟩
  rw [inheritedFrom_of_found hFound
    (hComplete g hGroup).attributes (hComplete g hGroup).bases,
    hRest]
  exact ⟨hFresh, _, rfl⟩

/-
  A walk from bases that are not all clear finds the way back,
  and reports the path with it.  By induction on the length
  that is left for the path, and for one path on the bases.
-/
theorem exists_comesBack
    (depth : Nat)
    (hBases : ∀ name ∈ bases, Known groups name)
    (hPath : IsPath groups path)
    (hDepth : groups.length < depth + path.length)
    (hCyclic : ¬ ∀ name ∈ bases, ClearName groups path name) :
    ∃ names,
      ComesBack groups path bases names ∧
        inherited groups depth path bases =
          .error (.catalog
            (.cycle (path.map shownName ++ names))) := by
  induction depth generalizing path bases with
  | zero =>
      have hShort := hPath.length_le
      omega
  | succ depth ih =>
      induction bases with
      | nil => simp at hCyclic
      | cons name rest ihRest =>
          rw [List.forall_mem_cons] at hBases hCyclic
          rcases hBases with ⟨hName, hOthers⟩
          by_cases hClear : ClearName groups path name
          · have hLater : ¬ ∀ b ∈ rest, ClearName groups path b :=
              fun hAll => hCyclic ⟨hClear, hAll⟩
            rcases exists_inheritedFrom hComplete hDistinct hKnown
                hName hPath hDepth hClear with
              ⟨hFresh, part, hPart⟩
            rcases ihRest hOthers hLater with
              ⟨names, hBack, hFault⟩
            refine ⟨names, hBack.cons hClear, ?_⟩
            rw [inherited_cons, if_neg hFresh, hPart, hFault]
            rfl
          rcases hName with ⟨g, hGroup, hName⟩
          have hFound : find? groups name = some g :=
            (find?_eq_some_iff hDistinct).mpr ⟨hGroup, hName⟩
          by_cases hBack : some name ∈ path
          · have hNames :
                path ++ [some name] ⊆ groups.map (·.name) := by
              apply List.append_subset_of_subset_of_subset
              · exact hPath.named
              · simpa using hPath.named hBack
            refine ⟨[name], .atOnce rest hBack, ?_⟩
            rw [inherited_cons, if_pos hBack,
              cycleFault_eq hComplete hNames, List.map_append]
            rfl
          · have hLength :
                groups.length
                  < depth + (path ++ [some name]).length := by
              rw [List.length_append, List.length_singleton]
              omega
            have hBelow :
                ¬ ∀ b ∈ g.baseNames,
                  ClearName groups (path ++ [some name]) b := by
              intro hAll
              exact
                hClear
                  ((clearName_iff hDistinct hGroup hName).mpr
                    ⟨hBack, hAll⟩)
            rcases ih (hKnown g hGroup)
                (hPath.found hBack hFound) hLength hBelow with
              ⟨names, hNext, hFault⟩
            refine
              ⟨name :: names,
                .byFirst rest hBack hGroup hName hNext, ?_⟩
            rw [inherited_cons, if_neg hBack,
              inheritedFrom_of_found hFound
                (hComplete g hGroup).attributes
                (hComplete g hGroup).bases, hFault,
              List.map_append, List.append_assoc]
            rfl

end Walks

------------------------------------------------------------
-- Cycles
------------------------------------------------------------

namespace ComesBack

/-
  A way back starts with a base, behind bases that are clear,
  and ends there or goes on from its group.
-/
theorem exists_first
    (hBack : ComesBack groups path bases names) :
    ∃ before next after,
      bases = before ++ next :: after ∧
        (∀ b ∈ before, ClearName groups path b) ∧
        (names = [next] ∨
          ∃ group ∈ groups,
            group.name = some next ∧
              ∃ later,
                names = next :: later ∧
                  ComesBack groups (path ++ [some next])
                    group.baseNames later) := by
  cases hBack with
  | @closes path before name after hBefore hBack =>
      exact ⟨before, name, after, rfl, hBefore, .inl rfl⟩
  | @goesOn path before name after group later hBefore hFresh
      hGroup hName hBelow =>
      exact
        ⟨before, name, after, rfl, hBefore,
          .inr ⟨group, hGroup, hName, later, rfl, hBelow⟩⟩

/-
  All names but the last are different and not on the path, and
  the last is one of them or on the path.
-/
theorem exists_last
    (hBack : ComesBack groups path bases names)
    (hPath : path.Nodup) :
    ∃ initial last,
      names = initial ++ [last] ∧
        (path ++ initial.map some).Nodup ∧
        some last ∈ path ++ initial.map some := by
  induction hBack with
  | @closes path before name after hBefore hBack =>
      exact ⟨[], name, rfl, by simpa using hPath,
        by simpa using hBack⟩
  | @goesOn path before name after group names hBefore hFresh
      hGroup hName hBelow ih =>
      have hLonger : (path ++ [some name]).Nodup := by
        rw [← List.concat_eq_append]
        exact List.Nodup.concat hFresh hPath
      rcases ih hLonger with
        ⟨initial, last, rfl, hDistinct, hLast⟩
      refine ⟨name :: initial, last, rfl, ?_, ?_⟩
      · simpa using hDistinct
      · simpa using hLast

end ComesBack

/-
  A base of a group that is not preceded by one that leads to a
  cycle, or back to the names that were walked.
-/
def Follows
    (groups : List AttributeGroup)
    (walked : List String)
    (name next : String) : Prop :=
  ∃ group ∈ groups,
    group.name = some name ∧
      ∃ before after,
        group.baseNames = before ++ next :: after ∧
          ∀ b ∈ before,
            ClearName groups ((walked ++ [name]).map some) b

/-
  On the way back every name follows the one before it.  By
  induction on the names, with the path that leads to them.
-/
theorem ComesBack.follows
    {walked front back : List String}
    {u v : String}
    (hGroup : group ∈ groups)
    (hName : group.name = some name)
    (hBack :
      ComesBack groups ((walked ++ [name]).map some)
        group.baseNames names)
    (hSplit : name :: names = front ++ u :: v :: back) :
    Follows groups (walked ++ front) u v := by
  induction names generalizing walked name group front with
  | nil =>
      have hLength := congrArg List.length hSplit
      simp at hLength
      omega
  | cons first later ih =>
      rcases hBack.exists_first with
        ⟨before, next, after, hBases, hBefore, hEnds⟩
      have hFirst : first = next := by
        rcases hEnds with hLast | ⟨_, _, _, _, hMore, _⟩
        · exact (List.cons.inj hLast).1
        · exact (List.cons.inj hMore).1
      cases front with
      | nil =>
          rcases List.cons.inj hSplit with ⟨rfl, hRest⟩
          rcases List.cons.inj hRest with ⟨rfl, _⟩
          rw [← hFirst] at hBases
          rw [List.append_nil]
          exact
            ⟨group, hGroup, hName, before, after, hBases,
              hBefore⟩
      | cons other front =>
          rcases List.cons.inj hSplit with ⟨rfl, hRest⟩
          rcases hEnds with
            hLast | ⟨g, hNext, hNextName, more, hMore, hBelow⟩
          · have hLength := congrArg List.length hRest
            rw [hLast] at hLength
            simp at hLength
            omega
          · rcases List.cons.inj hMore with ⟨_, rfl⟩
            rw [← hFirst] at hNextName hBelow
            have hPath :
                (walked ++ [name]).map some ++ [some first] =
                  ((walked ++ [name]) ++ [first]).map some := by
              simp
            rw [hPath] at hBelow
            have hLater := ih hNext hNextName hBelow hRest
            rw [List.append_assoc] at hLater
            exact hLater

/-
  The names that are reported: they start at the first group
  that leads to a cycle, each is followed by a base of its
  group, and only the last was there before.
-/
structure FirstCycle
    (groups : List AttributeGroup)
    (names : List String) : Prop where
  long : 2 ≤ names.length
  start :
    ∃ earlier group later,
      groups = earlier ++ group :: later ∧
        group.name = names.head? ∧
        LeadsToCycle groups group ∧
        ∀ g ∈ earlier, ¬ LeadsToCycle groups g
  follows :
    ∀ front u v back,
      names = front ++ u :: v :: back →
      Follows groups front u v
  closes :
    ∃ initial last,
      names = initial ++ [last] ∧
        initial.Nodup ∧
        last ∈ initial

/- A way back from the first group that leads to a cycle. -/
theorem ComesBack.firstCycle
    {earlier later : List AttributeGroup}
    (hSplit : groups = earlier ++ group :: later)
    (hName : group.name = some name)
    (hCycle : LeadsToCycle groups group)
    (hEarlier : ∀ g ∈ earlier, ¬ LeadsToCycle groups g)
    (hBack :
      ComesBack groups [some name] group.baseNames names) :
    FirstCycle groups (name :: names) := by
  have hGroup : group ∈ groups := by simp [hSplit]
  rcases hBack.exists_last (List.nodup_singleton _) with
    ⟨initial, last, hNames, hDistinct, hLast⟩
  have hSome :
      [some name] ++ initial.map some =
        (name :: initial).map some := rfl
  rw [hSome] at hDistinct hLast
  constructor
  · rw [hNames]
    simp
  · exact
      ⟨earlier, group, later, hSplit, hName, hCycle, hEarlier⟩
  · intro front u v back hNamesSplit
    have hStart :
        ComesBack groups (([] ++ [name]).map some)
          group.baseNames names := hBack
    exact hStart.follows hGroup hName hNamesSplit
  · refine ⟨name :: initial, last, ?_, hDistinct.of_map, ?_⟩
    · rw [hNames]
      rfl
    · simpa using hLast

------------------------------------------------------------
-- Checks
------------------------------------------------------------

section Checks

variable
  (hComplete : ∀ g ∈ groups, g.Complete)
  (hDistinct : (groups.map (·.name)).Nodup)
  (hKnown :
    ∀ g ∈ groups, ∀ name ∈ g.baseNames, Known groups name)

/- A group leads to no cycle if its bases are clear of it. -/
theorem not_leadsToCycle_iff
    (hDistinct : (groups.map (·.name)).Nodup)
    (hGroup : group ∈ groups)
    (hName : group.name = some name) :
    ¬ LeadsToCycle groups group ↔
      ∀ base ∈ group.baseNames,
        ClearName groups [some name] base := by
  have hOnly :
      ClearName groups [] name ↔ Clear groups [] group :=
    forall_named_iff hDistinct hGroup hName
  rw [← clear_nil_iff, ← hOnly,
    clearName_iff hDistinct hGroup hName]
  simp

include hComplete hDistinct hKnown

/- A group that leads to no cycle passes. -/
theorem checkAcyclic_eq_ok
    (hGroup : group ∈ groups)
    (hNone : ¬ LeadsToCycle groups group) :
    checkAcyclic groups group = .ok () := by
  rw [← clear_nil_iff, clear_iff hDistinct hGroup] at hNone
  rcases (checkAcyclic_decides hComplete hDistinct hKnown
      hGroup).passes hNone.2 with
    ⟨_, hPass⟩
  exact hPass

/- A group that leads to one is rejected with a way back. -/
theorem exists_checkAcyclic_eq
    (hGroup : group ∈ groups)
    (hName : group.name = some name)
    (hCycle : LeadsToCycle groups group) :
    ∃ names,
      ComesBack groups [some name] group.baseNames names ∧
        checkAcyclic groups group =
          .error (.catalog (.cycle (name :: names))) := by
  have hPath : IsPath groups [some name] := by
    constructor
    · exact List.nodup_singleton _
    · rw [← hName]
      simpa using ⟨group, hGroup, rfl⟩
  have hNot :
      ¬ ∀ base ∈ group.baseNames,
        ClearName groups [some name] base := by
    rw [← not_leadsToCycle_iff hDistinct hGroup hName]
    exact not_not_intro hCycle
  rcases exists_comesBack hComplete hDistinct hKnown
      (groups.length + 1) (hKnown group hGroup) hPath (by omega)
      hNot with
    ⟨names, hBack, hFault⟩
  refine ⟨names, hBack, ?_⟩
  unfold checkAcyclic
  rw [(hComplete group hGroup).bases, needed_some, ok_bind,
    hName, hFault]
  rfl

end Checks

/- Where some group leads to a cycle, there is a first one. -/
theorem exists_first_leadsToCycle
    (hCycle : ∃ g ∈ groups, LeadsToCycle groups g) :
    ∃ earlier group later,
      groups = earlier ++ group :: later ∧
        LeadsToCycle groups group ∧
        ∀ g ∈ earlier, ¬ LeadsToCycle groups g := by
  classical
  rcases hCycle with ⟨g, hGroup, hLeads⟩
  cases hFirst :
      groups.find? fun g => decide (LeadsToCycle groups g) with
  | none =>
      have hNone := List.find?_eq_none.mp hFirst g hGroup
      simp [hLeads] at hNone
  | some group =>
      rcases List.find?_eq_some_iff_append.mp hFirst with
        ⟨hHolds, earlier, later, hSplit, hEarlier⟩
      refine
        ⟨earlier, group, later, hSplit, by simpa using hHolds,
          ?_⟩
      intro other hMember
      simpa using hEarlier other hMember

end AttributeGroup

------------------------------------------------------------
-- Catalogs
------------------------------------------------------------

namespace Catalog

variable {catalog : Catalog}

/- All that is checked before the walks along bases passes. -/
structure PassesChecks
    (catalog : Catalog) : Prop where
  groupNames :
    AttributeGroup.checkNames catalog.groupList = .ok ()
  elementNames :
    ∃ listed,
      Element.checkNames [] (catalog.elementList.map some) =
        .ok listed
  everyGroup :
    catalog.groupList.forM
      (AttributeGroup.validate catalog.groupList) = .ok ()
  everyElement :
    catalog.elementList.forM
      (Element.validate catalog.groupList) = .ok ()

/- What remains to be checked then are the walks. -/
theorem PassesChecks.validate_eq
    (hComplete : catalog.Complete)
    (hChecks : catalog.PassesChecks) :
    catalog.validate =
      (do
        catalog.groupList.forM
          (AttributeGroup.checkAcyclic catalog.groupList)
        catalog.elementList.forM fun element =>
          discard (catalog.parentAttributes element)) := by
  rcases hChecks.elementNames with ⟨listed, hListed⟩
  rw [Element.checkNames_eq hListed] at hListed
  have hItems :
      needed .iterate catalog.elements =
        .ok (catalog.elementList.map some) := by
    rw [needed_eq_ok_iff]
    exact hComplete.elements
  unfold Catalog.validate
  rw [hComplete.namedGroups_eq, ok_bind, hChecks.groupNames,
    ok_bind, hItems, ok_bind, hListed, ok_bind,
    hChecks.everyGroup, ok_bind, hChecks.everyElement, ok_bind]

/- The bases of groups that pass are names of groups. -/
theorem PassesChecks.known
    (hComplete : catalog.Complete)
    (hChecks : catalog.PassesChecks) :
    ∀ g ∈ catalog.groupList, ∀ name ∈ g.baseNames,
      AttributeGroup.Known catalog.groupList name := by
  intro g hGroup
  have hPass := forM_eq_ok_iff.mp hChecks.everyGroup g hGroup
  exact
    ((AttributeGroup.validate_decides _
      (hComplete.everyGroup g hGroup)).ok_iff.mp hPass).known

/-
  A catalog in which only the inheritance of groups is wrong is
  rejected for a cycle.  The names that are reported are those
  on the way from the first group that leads to a cycle, base
  by base, up to the first name that is there for the second
  time.
-/
theorem validate_eq_first_cycle
    (hComplete : catalog.Complete)
    (hChecks : catalog.PassesChecks)
    (hCyclic :
      ∃ g ∈ catalog.groupList,
        Relation.TransGen
          (AttributeGroup.Lists catalog.groupList) g g) :
    ∃ names,
      catalog.validate = .error (.catalog (.cycle names)) ∧
        (Fault.catalog (.cycle names)).message =
          "Inheritance cycle: " ++ Text.joinWith " -> " names ∧
        AttributeGroup.FirstCycle catalog.groupList names := by
  have hDistinct : (catalog.groupList.map (·.name)).Nodup :=
    (AttributeGroup.checkNames_decides _).ok_iff.mp
      hChecks.groupNames
  have hKnown := hChecks.known hComplete
  have hLeads :
      ∃ g ∈ catalog.groupList,
        AttributeGroup.LeadsToCycle catalog.groupList g := by
    rcases hCyclic with ⟨g, hGroup, hCycle⟩
    exact ⟨g, hGroup, g, .refl, hCycle⟩
  rcases AttributeGroup.exists_first_leadsToCycle hLeads with
    ⟨earlier, group, later, hSplit, hCycle, hEarlier⟩
  have hGroup : group ∈ catalog.groupList := by simp [hSplit]
  rcases Option.isSome_iff_exists.mp
      (hComplete.everyGroup group hGroup).name with
    ⟨name, hName⟩
  rcases AttributeGroup.exists_checkAcyclic_eq
      hComplete.everyGroup hDistinct hKnown hGroup hName hCycle
    with ⟨names, hBack, hFault⟩
  have hPass :
      ∀ g ∈ earlier,
        AttributeGroup.checkAcyclic catalog.groupList g =
          .ok () := by
    intro g hMember
    exact
      AttributeGroup.checkAcyclic_eq_ok hComplete.everyGroup
        hDistinct hKnown (by simp [hSplit, hMember])
        (hEarlier g hMember)
  have hWalks := forM_eq_error later hPass hFault
  rw [← hSplit] at hWalks
  refine ⟨name :: names, ?_, rfl, ?_⟩
  · rw [hChecks.validate_eq hComplete, hWalks]
    rfl
  · exact hBack.firstCycle hSplit hName hCycle hEarlier

end Catalog

/-
  Groups of which two are their own ancestors.  The first one
  leads to no cycle, so the way that is reported leaves it out
  wherever it is a base.
-/
def sideGroup : AttributeGroup :=
  ⟨some "side", some [], some []⟩

def entryGroup : AttributeGroup :=
  ⟨some "entry", some [], some ["side", "loop", "entry"]⟩

def loopGroup : AttributeGroup :=
  ⟨some "loop", some [], some ["side", "back"]⟩

def backGroup : AttributeGroup :=
  ⟨some "back", some [], some ["loop", "entry"]⟩

def detour : Catalog :=
  ⟨some
      [some sideGroup, some entryGroup, some loopGroup,
        some backGroup],
    some [some (descendant "Any" ["back"])]⟩

/- The way that is reported leaves these bases out. -/
theorem detour_eq_first_cycle :
    detour.validate =
        .error (.catalog
          (.cycle ["entry", "loop", "back", "loop"])) ∧
      AttributeGroup.FirstCycle detour.groupList
        ["entry", "loop", "back", "loop"] := by
  have hComplete : detour.Complete := by decide
  have hChecks : detour.PassesChecks :=
    ⟨rfl, ⟨detour.elementList, rfl⟩, rfl, rfl⟩
  have hThere :
      AttributeGroup.Lists detour.groupList loopGroup
        backGroup :=
    ⟨by decide, "back", by decide, rfl⟩
  have hBack :
      AttributeGroup.Lists detour.groupList backGroup
        loopGroup :=
    ⟨by decide, "loop", by decide, rfl⟩
  rcases Catalog.validate_eq_first_cycle hComplete hChecks
      ⟨loopGroup, by decide, .tail (.single hThere) hBack⟩ with
    ⟨names, hFault, _, hFirst⟩
  have hReported :
      detour.validate =
        .error (.catalog
          (.cycle ["entry", "loop", "back", "loop"])) := rfl
  rw [hReported] at hFault
  have hNames : ["entry", "loop", "back", "loop"] = names := by
    simpa using hFault
  rw [← hNames] at hFirst
  exact ⟨hReported, hFirst⟩

end ElementBindings
