import ElementBindings.Command.Report
import ElementBindings.Proofs.Catalog.Visit
import ElementBindings.Proofs.Command.Rendering

/-
  An element depends on the groups that it reaches, only.

  Two catalogs may differ in their elements and in all groups
  that no way along bases leads to from an element.  If they
  find the same under every name that is reached, known or
  not, the element inherits the same from both, or is rejected
  for the same reason.  So it is reported and rendered alike.

  Key definitions include:
    * `AttributeGroup.Reached`
    * `AttributeGroup.FoundAlike`
    * `Catalog.AgreeOn`, `Catalog.TreatAlike`

  Key theorems include:
    * `AttributeGroup.inherited_congr`
    * `AttributeGroup.inherited_returnsOrRejects`
    * `Catalog.treatAlike_of_agreeOn`
-/

namespace ElementBindings

namespace AttributeGroup

variable {groups first second : List AttributeGroup}
variable {path : List (Option String)}
variable {bases : List String}

------------------------------------------------------------
-- Names That Are Reached
------------------------------------------------------------

/-
  The names that some bases lead to: the bases themselves, and
  the bases of every group that is found under such a name.
-/
inductive Reached
    (groups : List AttributeGroup)
    (bases : List String) : String → Prop
  | base
      {name : String}
      (hBase : name ∈ bases) :
      Reached groups bases name
  | next
      {name next : String}
      {group : AttributeGroup}
      (hReached : Reached groups bases name)
      (hFound : find? groups name = some group)
      (hNext : next ∈ group.baseNames) :
      Reached groups bases next

/-
  A name finds groups with the same attributes and the same
  bases among two lists of groups, or no group in either.
-/
def FoundAlike
    (first second : List AttributeGroup)
    (name : String) : Prop :=
  (find? first name).map (fun g => (g.attributes, g.bases)) =
    (find? second name).map fun g => (g.attributes, g.bases)

/- Groups that are found alike differ in nothing but a name. -/
theorem FoundAlike.cases
    {name : String}
    (hAlike : FoundAlike first second name) :
    (find? first name = none ∧ find? second name = none) ∨
      ∃ group other,
        find? first name = some group ∧
          find? second name = some other ∧
          group.attributes = other.attributes ∧
          group.bases = other.bases := by
  unfold FoundAlike at hAlike
  cases hFirst : find? first name with
  | none =>
      rw [hFirst, Option.map_none, eq_comm,
        Option.map_eq_none_iff] at hAlike
      exact .inl ⟨rfl, hAlike⟩
  | some group =>
      rw [hFirst, Option.map_some, eq_comm,
        Option.map_eq_some_iff] at hAlike
      rcases hAlike with ⟨other, hSecond, hSame⟩
      rcases Prod.mk.inj hSame with ⟨hAttributes, hBases⟩
      exact
        .inr ⟨group, other, rfl, hSecond, hAttributes.symm,
          hBases.symm⟩

------------------------------------------------------------
-- Two Walks
------------------------------------------------------------

/- A path goes on with a group that is found. -/
theorem IsPath.found
    {name : String}
    {group : AttributeGroup}
    (hPath : IsPath groups path)
    (hFresh : some name ∉ path)
    (hFound : find? groups name = some group) :
    IsPath groups (path ++ [some name]) := by
  rcases find?_some hFound with ⟨hGroup, hName⟩
  rw [← hName] at hFresh ⊢
  exact hPath.extend hGroup hFresh

/-
  Two walks along the same path give the same, if all names
  that they can come to are found alike.  The induction is on
  the length that is left for the path of the first walk; the
  second one has some left, too, since the path consists of
  its groups as well.
-/
theorem inherited_congr
    {roots : List String}
    (hAlike :
      ∀ name, Reached first roots name →
        FoundAlike first second name)
    (depth other : Nat)
    (hBases : ∀ name ∈ bases, Reached first roots name)
    (hFirst : IsPath first path)
    (hSecond : IsPath second path)
    (hDepth : first.length < depth + path.length)
    (hOther : second.length < other + path.length) :
    inherited first depth path bases =
      inherited second other path bases := by
  induction depth generalizing other path bases with
  | zero =>
      have hShort := hFirst.length_le
      omega
  | succ depth ih =>
      cases other with
      | zero =>
          have hShort := hSecond.length_le
          omega
      | succ other =>
          rw [inherited_succ, inherited_succ]
          congr 1
          apply mapM_congr
          intro name hMember
          have hReached := hBases name hMember
          by_cases hBack : some name ∈ path
          · rw [if_pos hBack, if_pos hBack]
          · rw [if_neg hBack, if_neg hBack]
            unfold inheritedFrom
            rcases (hAlike name hReached).cases with
              ⟨hNone, hNeither⟩ |
              ⟨group, twin, hFound, hTwin, hOwn, hNext⟩
            · rw [hNone, hNeither]
            · rw [hFound, hTwin]
              dsimp only
              rw [hOwn, ← hNext]
              cases hBelow : group.bases with
              | none => rfl
              | some next =>
                  have hSame :
                      inherited first depth
                          (path ++ [some name]) next =
                        inherited second other
                          (path ++ [some name]) next := by
                    apply ih
                    · intro base hBase
                      refine .next hReached hFound ?_
                      rw [baseNames, hBelow]
                      exact hBase
                    · exact hFirst.found hBack hFound
                    · exact hSecond.found hBack hTwin
                    · rw [List.length_append,
                        List.length_singleton]
                      omega
                    · rw [List.length_append,
                        List.length_singleton]
                      omega
                  simp only [needed_some, ok_bind, hSame]

/- What is inherited by way of a base depends on what follows. -/
theorem inheritedFrom_returnsOrRejects
    (hComplete : ∀ g ∈ groups, g.Complete)
    {depth : Nat}
    {name : String}
    (hBelow :
      ∀ group, find? groups name = some group →
        ReturnsOrRejects
          (inherited groups depth (path ++ [some name])
            group.baseNames)) :
    ReturnsOrRejects
      (inheritedFrom groups depth path name) := by
  unfold inheritedFrom
  cases hFound : find? groups name with
  | none => exact .inr ⟨_, rfl⟩
  | some group =>
      have hGroup := hComplete group (find?_some hFound).1
      dsimp only
      rw [hGroup.attributes, hGroup.bases]
      simp only [needed_some, ok_bind]
      rcases hBelow group hFound with
        ⟨rest, hRest⟩ | ⟨fault, hRest⟩
      · rw [hRest]
        exact .inl ⟨_, rfl⟩
      · rw [hRest]
        exact .inr ⟨fault, rfl⟩

/-
  A walk through complete groups gives attributes or rejects
  the catalog, whether names are repeated, unknown or on a
  cycle.
-/
theorem inherited_returnsOrRejects
    (hComplete : ∀ g ∈ groups, g.Complete)
    (depth : Nat)
    (hPath : IsPath groups path)
    (hDepth : groups.length < depth + path.length) :
    ReturnsOrRejects (inherited groups depth path bases) := by
  induction depth generalizing path bases with
  | zero =>
      have hShort := hPath.length_le
      omega
  | succ depth ih =>
      rw [inherited_succ]
      have hEach :
          ∀ name,
            ReturnsOrRejects
              (if some name ∈ path then
                .error (cycleFault (path ++ [some name]))
              else
                inheritedFrom groups depth path name) := by
        intro name
        by_cases hBack : some name ∈ path
        · have hNames :
              path ++ [some name] ⊆ groups.map (·.name) := by
            apply List.append_subset_of_subset_of_subset
            · exact hPath.named
            · simpa using hPath.named hBack
          rw [if_pos hBack, cycleFault_eq hComplete hNames]
          exact .inr ⟨_, rfl⟩
        · rw [if_neg hBack]
          apply inheritedFrom_returnsOrRejects hComplete
          intro group hFound
          apply ih (hPath.found hBack hFound)
          rw [List.length_append, List.length_singleton]
          omega
      exact
        ((Decides.mapM fun name _ =>
          (hEach name).decides).andThen fun parts _ _ =>
            Decides.pass parts.flatten).returnsOrRejects

end AttributeGroup

------------------------------------------------------------
-- Two Catalogs
------------------------------------------------------------

namespace Catalog

variable {first second : Catalog}
variable {element : Element}

/-
  Two catalogs agree on an element when every name that its
  bases lead to is found alike in them.
-/
def AgreeOn
    (first second : Catalog)
    (element : Element) : Prop :=
  ∀ name,
    AttributeGroup.Reached first.groupList element.baseNames
      name →
    AttributeGroup.FoundAlike first.groupList second.groupList
      name

/- What an element inherits is found by a walk from its bases. -/
theorem Complete.parentAttributes_eq
    {catalog : Catalog}
    (hComplete : catalog.Complete)
    (hBases : element.bases = some element.baseNames) :
    catalog.parentAttributes element =
      AttributeGroup.inherited catalog.groupList
        (catalog.groupList.length + 1) []
        element.baseNames := by
  unfold Catalog.parentAttributes
  rw [hComplete.namedGroups_eq, ok_bind, hBases]
  rfl

/- Catalogs that agree on an element let it inherit the same. -/
theorem parentAttributes_congr
    (hFirst : first.Complete)
    (hSecond : second.Complete)
    (hBases : element.bases = some element.baseNames)
    (hAgree : first.AgreeOn second element) :
    first.parentAttributes element =
      second.parentAttributes element := by
  have hStart :
      ∀ groups, AttributeGroup.IsPath groups [] :=
    fun _ => ⟨List.nodup_nil, List.nil_subset _⟩
  rw [hFirst.parentAttributes_eq hBases,
    hSecond.parentAttributes_eq hBases]
  apply AttributeGroup.inherited_congr hAgree
  · intro name hBase
    exact .base hBase
  · exact hStart _
  · exact hStart _
  · simp
  · simp

/- An element inherits attributes, or the catalog is rejected. -/
theorem parentAttributes_returnsOrRejects
    (hFirst : first.Complete)
    (hBases : element.bases = some element.baseNames) :
    ReturnsOrRejects (first.parentAttributes element) := by
  rw [hFirst.parentAttributes_eq hBases]
  apply
    AttributeGroup.inherited_returnsOrRejects hFirst.everyGroup
  · exact ⟨List.nodup_nil, List.nil_subset _⟩
  · simp

/- A report is about the element that it was made for. -/
theorem element_of_coverageOf
    {catalog : Catalog}
    {report : Coverage}
    (hReport : catalog.coverageOf element = .ok report) :
    report.element = element := by
  unfold Catalog.coverageOf at hReport
  rcases bind_eq_ok_iff.mp hReport with ⟨parents, _, hSummary⟩
  split at hSummary
  · rw [← Except.ok.inj hSummary]
  · rw [← Except.ok.inj hSummary]
  · cases hSummary

/-
  Whatever else two catalogs hold, all reports on an element
  are one, and all jobs that render it are one.
-/
structure TreatAlike
    (first second : Catalog)
    (element : Element) : Prop where
  reports :
    ∀ elements others reports otherReports,
      first.coverage elements = .ok reports →
      second.coverage others = .ok otherReports →
      ∀ report ∈ reports, ∀ other ∈ otherReports,
        report.element = element → other.element = element →
        report = other
  jobs :
    ∀ elements others only otherOnly jobs otherJobs,
      first.selected elements only = .ok jobs →
      second.selected others otherOnly = .ok otherJobs →
      ∀ job ∈ jobs, ∀ other ∈ otherJobs,
        job.element = element → other.element = element →
        job = other

/- It is the inherited attributes that both are made from. -/
theorem treatAlike_of_parentAttributes_eq
    (hParents :
      first.parentAttributes element =
        second.parentAttributes element) :
    first.TreatAlike second element := by
  constructor
  · intro elements others reports otherReports hFirst hSecond
      report hReport other hOther hElement hSame
    rcases exists_of_mem_mapM hFirst hReport with
      ⟨source, _, hSource⟩
    rcases exists_of_mem_mapM hSecond hOther with
      ⟨otherSource, _, hOtherSource⟩
    rw [← element_of_coverageOf hSource, hElement] at hSource
    rw [← element_of_coverageOf hOtherSource, hSame]
      at hOtherSource
    unfold Catalog.coverageOf at hSource hOtherSource
    rw [hParents, hOtherSource] at hSource
    exact (Except.ok.inj hSource).symm
  · intro elements others only otherOnly jobs otherJobs hFirst
      hSecond job hJob other hOther hElement hSame
    rcases exists_of_mem_mapM hFirst hJob with
      ⟨source, _, hSource⟩
    rcases exists_of_mem_mapM hSecond hOther with
      ⟨otherSource, _, hOtherSource⟩
    rcases bind_eq_ok_iff.mp hSource with
      ⟨parents, hOwn, hMade⟩
    rcases bind_eq_ok_iff.mp hOtherSource with
      ⟨otherParents, hOtherOwn, hOtherMade⟩
    rw [← Except.ok.inj hMade] at hElement ⊢
    rw [← Except.ok.inj hOtherMade] at hSame ⊢
    dsimp only at hElement hSame
    rw [hElement, hParents] at hOwn
    rw [hSame, hOwn, Except.ok.injEq] at hOtherOwn
    rw [hElement, hSame, hOtherOwn]

/-
  If two catalogs find the same groups wherever an element
  leads to, it inherits the same attributes from both, or both
  are rejected for the same reason; and they report on it and
  render it alike.
-/
theorem treatAlike_of_agreeOn
    (hFirst : first.Complete)
    (hSecond : second.Complete)
    (hElement : element.Complete)
    (hAgree : first.AgreeOn second element) :
    first.parentAttributes element =
        second.parentAttributes element ∧
      ReturnsOrRejects (first.parentAttributes element) ∧
      first.textOf element = second.textOf element ∧
      first.coverageOf element = second.coverageOf element ∧
      first.TreatAlike second element := by
  have hParents :=
    parentAttributes_congr hFirst hSecond hElement.bases hAgree
  refine
    ⟨hParents,
      parentAttributes_returnsOrRejects hFirst hElement.bases,
      ?_, ?_, treatAlike_of_parentAttributes_eq hParents⟩
  · unfold Catalog.textOf
    rw [hParents]
  · unfold Catalog.coverageOf
    rw [hParents]

end Catalog

/- A group that inherits from itself. -/
def ownAncestor : AttributeGroup :=
  ⟨some "loop", some [], some ["loop", "top"]⟩

/-
  The groups of a family in another order, behind one that no
  heir reaches, and with an element that is no heir.
-/
def relatives : Catalog :=
  ⟨some
      (some ownAncestor :: family.groupList.reverse.map some),
    some [some { heir with name := some "Stranger" }]⟩

/- The heir inherits the same from the relatives. -/
theorem relatives_treat_alike :
    family.Complete ∧ relatives.Complete ∧ heir.Complete ∧
      family.AgreeOn relatives heir ∧
      family.parentAttributes heir =
        relatives.parentAttributes heir ∧
      family.TreatAlike relatives heir := by
  have hFamily : family.Complete := by decide
  have hRelatives : relatives.Complete := by decide
  have hHeir : heir.Complete := by decide
  have hReached :
      ∀ name,
        AttributeGroup.Reached family.groupList heir.baseNames
          name →
        name ∈ ["left", "right", "top"] := by
    intro name hReached
    induction hReached with
    | base hBase =>
        exact List.mem_append_left ["top"] hBase
    | @next name next group _ hFound hNext ih =>
        have hClosed :
            ∀ name ∈ ["left", "right", "top"],
              ∀ g ∈ AttributeGroup.find? family.groupList name,
                ∀ next ∈ g.baseNames,
                  next ∈ ["left", "right", "top"] := by
          decide
        exact hClosed name ih group hFound next hNext
  have hAgree : family.AgreeOn relatives heir := by
    intro name hName
    have hEach :
        ∀ name ∈ ["left", "right", "top"],
          AttributeGroup.FoundAlike family.groupList
            relatives.groupList name := by
      unfold AttributeGroup.FoundAlike
      decide
    exact hEach name (hReached name hName)
  have hAlike :=
    Catalog.treatAlike_of_agreeOn hFamily hRelatives hHeir hAgree
  exact
    ⟨hFamily, hRelatives, hHeir, hAgree, hAlike.1,
      hAlike.2.2.2.2⟩

end ElementBindings
