import ElementBindings.Proofs.Command.Generate
import ElementBindings.Proofs.Json.Printer
import ElementBindings.Proofs.Zig.Counting

/-
  Reports about the elements of a catalog.

  A report has one entry for each element, in catalog order.
  It holds the counts of the element, or the fault of the
  first attribute without rule that counting asks for.  The
  records in JSON and the rows of the table are written from
  the same entries, so they fail for the same elements.

  Key definitions include:
    * `Element.scan`
    * `Coverage.Reports`, `Catalog.Covers`
    * `Coverage.entry`
    * `Coverage.cells`, `Coverage.markedCells`

  Key theorems include:
    * `Element.summaryFault?_eq`
    * `Catalog.exists_coverage`, `Catalog.rightUnique_covers`
    * `Coverage.jsonPlan_eq`, `Coverage.isWhole_jsonText`
    * `Coverage.row_eq`
-/

namespace ElementBindings

------------------------------------------------------------
-- Scans
------------------------------------------------------------

/- The merged attributes of an element, given inherited ones. -/
def Element.mergedWith
    (element : Element)
    (parents : List Attribute) : List Attribute :=
  firstOccurrences (·.name) (element.attributeList ++ parents)

/-
  The attributes of an element in the order in which counting
  asks for their rules: for tests, for setters, for getters,
  and at last for all of them.
-/
def Element.scan
    (element : Element)
    (merged : List Attribute) : List Attribute :=
  element.testCandidates.filter Attribute.mayTest
    ++ (merged.filter Attribute.maySet
      ++ (merged.filter Attribute.mayGet ++ merged))

/- A missed attribute that is asked is the first one of those. -/
theorem missedFault?_eq
    (asked : Attribute → Bool)
    (attributes : List Attribute) :
    missedFault? asked attributes =
      ((attributes.filter asked).find?
        (·.Missed)).map Attribute.ruleFault := by
  unfold missedFault?
  rw [List.find?_filter]
  congr 2
  funext a
  simp

/- A summary has the fault of the first missed one of a scan. -/
theorem Element.summaryFault?_eq
    (element : Element)
    (merged : List Attribute) :
    summaryFault? element.testCandidates merged =
      ((element.scan merged).find?
        (·.Missed)).map Attribute.ruleFault := by
  unfold summaryFault? scan
  simp only [missedFault?_eq, List.find?_append, Option.map_or,
    List.filter_true]

------------------------------------------------------------
-- Entries
------------------------------------------------------------

/-
  What a report holds about an element with some inherited
  attributes.
-/
structure Coverage.Reports
    (element : Element)
    (parents : List Attribute)
    (coverage : Coverage) : Prop where
  subject : coverage.element = element
  fails_iff :
    (∃ fault, coverage.summary = .error fault) ↔
      ∃ a ∈ element.mergedWith parents, a.Missed
  fault :
    ∀ fault, coverage.summary = .error fault →
      ∃ a,
        (element.scan (element.mergedWith parents)).find?
            (·.Missed) = some a ∧
          fault = a.ruleFault
  counts :
    ∀ summary, coverage.summary = .ok summary →
      element.summary (parents.map some) = .ok summary

/- What a report holds about an element of a catalog. -/
def Catalog.Covers
    (catalog : Catalog)
    (element : Element)
    (coverage : Coverage) : Prop :=
  ∃ parents : List Attribute,
    catalog.parentAttributes element =
        .ok (parents.map some) ∧
      coverage.Reports element parents

namespace Catalog

variable {catalog : Catalog}
variable {element : Element}

/- Every element of a well-formed catalog can be reported on. -/
theorem exists_coverageOf
    (hComplete : catalog.Complete)
    (hFormed : catalog.WellFormed)
    (hElement : element ∈ catalog.elementList) :
    ∃ coverage,
      catalog.coverageOf element = .ok coverage ∧
        catalog.Covers element coverage := by
  have hWhole := hComplete.everyElement element hElement
  rcases Catalog.exists_merged hComplete hFormed hElement
    with ⟨parents, hParents, hMerge, hAttributes⟩
  have hKept :
      ∀ a ∈ element.mergedWith parents, a.Complete := by
    intro a hMember
    exact
      (hAttributes a (mem_of_mem_firstOccurrences hMember)).1
  have hFault :=
    Element.fault?_summary hWhole hKept hMerge
  have hSome :
      (summaryFault? element.testCandidates
          (element.mergedWith parents)).isSome ↔
        ∃ a ∈ element.mergedWith parents, a.Missed :=
    summaryFault?_isSome_iff fun a hTested =>
      Element.mem_merged_of_mem_testCandidates parents hTested
  rw [element.summaryFault?_eq] at hFault hSome
  unfold coverageOf
  rw [hParents, ok_bind]
  cases hFound :
      (element.scan (element.mergedWith parents)).find?
        (·.Missed) with
  | none =>
      rw [hFound] at hFault hSome
      rcases fault?_eq_none_iff.mp hFault with
        ⟨summary, hSummary⟩
      rw [hSummary]
      refine ⟨_, rfl, parents, hParents, rfl, ?_, ?_, ?_⟩
      · simpa using hSome
      · intro fault hError
        simp at hError
      · intro other hOther
        rw [hSummary]
        simpa using hOther
  | some a =>
      rw [hFound] at hFault hSome
      have hSummary := fault?_eq_some_iff.mp hFault
      rw [hSummary]
      refine ⟨_, rfl, parents, hParents, rfl, ?_, ?_, ?_⟩
      · simpa using hSome
      · intro fault hError
        refine ⟨a, hFound, ?_⟩
        simpa using hError.symm
      · intro summary hOther
        simp at hOther

/- So a report has an entry for each of them, in their order. -/
theorem exists_coverage
    (hComplete : catalog.Complete)
    (hFormed : catalog.WellFormed) :
    ∃ coverage,
      catalog.coverage catalog.elementList = .ok coverage ∧
        List.Forall₂ catalog.Covers catalog.elementList
          coverage := by
  have hEach :
      ∀ element ∈ catalog.elementList, ∃ coverage,
        catalog.coverageOf element = .ok coverage := by
    intro element hElement
    rcases exists_coverageOf hComplete hFormed hElement with
      ⟨coverage, hCoverage, _⟩
    exact ⟨coverage, hCoverage⟩
  rcases exists_mapM hEach with ⟨coverage, hCoverage⟩
  refine ⟨coverage, hCoverage, ?_⟩
  have hPairs :=
    (List.forall₂_and_left catalog.elementList coverage).mpr
      ⟨fun element (hElement : element ∈ catalog.elementList) =>
          hElement,
        mapM_eq_ok_iff.mp hCoverage⟩
  refine hPairs.imp ?_
  intro element entry hBoth
  rcases exists_coverageOf hComplete hFormed hBoth.1 with
    ⟨other, hOther, hCovers⟩
  have hSame : other = entry :=
    Except.ok.inj (hOther.symm.trans hBoth.2)
  rw [← hSame]
  exact hCovers

/- An element is reported on in one way only. -/
theorem rightUnique_covers
    (catalog : Catalog) :
    Relator.RightUnique catalog.Covers := by
  intro element first second hFirst hSecond
  rcases hFirst with ⟨parents, hParents, hHere⟩
  rcases hSecond with ⟨others, hOthers, hThere⟩
  have hSame : others.map some = parents.map some :=
    Except.ok.inj (hOthers.symm.trans hParents)
  rw [(List.map_inj_right fun _ _ => Option.some.inj).mp hSame]
    at hThere
  have hFails := hHere.fails_iff.trans hThere.fails_iff.symm
  have hSummary : first.summary = second.summary := by
    cases hCounted : first.summary with
    | ok summary =>
        cases hOther : second.summary with
        | ok other =>
            have hCounts :=
              (hHere.counts summary hCounted).symm.trans
                (hThere.counts other hOther)
            rw [Except.ok.inj hCounts]
        | error fault => simp [hCounted, hOther] at hFails
    | error fault =>
        cases hOther : second.summary with
        | ok other => simp [hCounted, hOther] at hFails
        | error other =>
            rcases hHere.fault fault hCounted with
              ⟨a, hFound, rfl⟩
            rcases hThere.fault other hOther with
              ⟨b, hAgain, rfl⟩
            rw [Option.some.inj (hFound.symm.trans hAgain)]
  have hElement : first.element = second.element :=
    hHere.subject.trans hThere.subject.symm
  cases first
  cases second
  simp_all

/- Names that counting does not know are names of attributes. -/
theorem isSome_of_mem_unsupported
    {parents : List Attribute}
    {summary : Summary}
    {name : Option String}
    (hMerge :
      Attribute.merge element.attributes (parents.map some) =
        .ok (element.mergedWith parents))
    (hComplete :
      ∀ a ∈ element.mergedWith parents, a.Complete)
    (hSummary :
      element.summary (parents.map some) = .ok summary)
    (hMember : name ∈ summary.unsupported) :
    name.isSome := by
  rcases Element.exists_counted hMerge hSummary with
    ⟨_, _, _, _, unsupported, _, _, _, _, hUnsupported, rfl⟩
  rcases List.mem_map.mp hMember with ⟨a, hListed, rfl⟩
  have hCounted := mem_of_mem_filterChecked hUnsupported hListed
  exact (hComplete a (List.mem_of_mem_filter hCounted)).name

end Catalog

------------------------------------------------------------
-- JSON
------------------------------------------------------------

/- The native kind of an element, if it has one. -/
def Element.kindLabel
    (element : Element) : String :=
  (element.nativeType.map NativeType.text).getD ""

/- The class name of an element, if it has one. -/
def Element.classLabel
    (element : Element) : String :=
  element.className.getD ""

/- The kind of a complete element is known. -/
theorem Element.Complete.kindText_eq
    {element : Element}
    (hComplete : element.Complete) :
    element.kindText = .ok element.kindLabel := by
  rcases Option.isSome_iff_exists.mp hComplete.nativeType with
    ⟨kind, hKind⟩
  unfold Element.kindText Element.kindLabel
  rw [hKind]
  rfl

/- Its class name is known, too. -/
theorem Element.Complete.className_eq
    {element : Element}
    (hComplete : element.Complete) :
    element.className = some element.classLabel := by
  rcases Option.isSome_iff_exists.mp hComplete.className with
    ⟨className, hClass⟩
  simp [Element.classLabel, hClass]

namespace Coverage

/- What JSON tells about an element, under its name. -/
def entry
    (coverage : Coverage) : String × Json :=
  let element := coverage.element
  (element.label,
    .object
      ([ ("class_name", .text element.classLabel),
         ("native_type", .text element.kindLabel) ]
        ++ match coverage.summary with
          | .ok summary => summary.fields
          | .error fault => [("error", .text fault.message)]))

/- The JSON text of all entries. -/
def jsonText
    (coverage : List Coverage) : String :=
  let entries : Json := .object (coverage.map entry)
  (Json.object [("elements", entries)]).pretty ++ "\n"

/- It can be encoded, whatever the entries tell. -/
theorem isWhole_jsonText
    (coverage : List Coverage) :
    Text.isWhole (jsonText coverage) :=
  ((Json.isAscii_pretty _).append (by decide)).isWhole

/- A complete element has an entry in JSON. -/
theorem toJson_eq
    {coverage : Coverage}
    (hComplete : coverage.element.Complete) :
    coverage.toJson = .ok coverage.entry := by
  unfold toJson
  rw [hComplete.kindText_eq, ok_bind, hComplete.name_eq,
    hComplete.className_eq]
  unfold entry
  cases coverage.summary with
  | ok summary => rfl
  | error fault => rfl

/- So the plan for JSON prints the entries and nothing else. -/
theorem jsonPlan_eq
    {coverage : List Coverage}
    (hComplete : ∀ item ∈ coverage, item.element.Complete) :
    jsonPlan coverage =
      (Plan.stop (.exit 0)).before
        [.print (jsonText coverage)] := by
  have hEntries :
      coverage.mapM toJson = .ok (coverage.map entry) :=
    mapM_eq_map fun item hItem => toJson_eq (hComplete item hItem)
  unfold jsonPlan
  rw [hEntries]
  rfl

------------------------------------------------------------
-- Rows
------------------------------------------------------------

/- The counts in a row; one without a summary has none. -/
def countCells
    (coverage : Coverage) : List String :=
  match coverage.summary with
  | .ok summary =>
      [ toString summary.setters,
        toString summary.getters,
        toString summary.callbacks,
        toString summary.tests ]
  | .error _ => ["-", "-", "-", "-"]

/- The last cell: names that are left out, or that all is. -/
def lastCell
    (coverage : Coverage) : String :=
  match coverage.summary with
  | .ok summary =>
      Text.joinWith ", " (summary.unsupported.map shownName)
  | .error _ => "error"

/- The cells of a row before the last one. -/
def firstCells
    (coverage : Coverage) : List String :=
  let element := coverage.element
  [element.label, element.classLabel, element.kindLabel]
    ++ coverage.countCells

/- What the cells of a row tell. -/
def cells
    (coverage : Coverage) : List String :=
  coverage.firstCells ++ [coverage.lastCell]

/- The cells of a row, of which the last one is escaped. -/
def markedCells
    (coverage : Coverage) : List String :=
  coverage.firstCells ++ [Markup.escape coverage.lastCell]

/- All names that a summary leaves out are known. -/
def HasNames
    (coverage : Coverage) : Prop :=
  ∀ summary, coverage.summary = .ok summary →
    ∀ name ∈ summary.unsupported, name.isSome

/- Names of which none is null can be joined. -/
theorem joinNames_eq
    {names : List (Option String)}
    (hNames : ∀ name ∈ names, name.isSome) :
    joinNames names =
      .ok (Text.joinWith ", " (names.map shownName)) := by
  have hNone : names.findIdx? (·.isNone) = none := by
    rw [List.findIdx?_eq_none_iff]
    intro name hMember
    simpa [Option.isSome_iff_ne_none] using hNames name hMember
  unfold joinNames
  rw [hNone]

/- A complete element has a row in the table. -/
theorem row_eq
    {coverage : Coverage}
    (hComplete : coverage.element.Complete)
    (hNames : coverage.HasNames) :
    coverage.row = .ok coverage.markedCells := by
  unfold row
  rw [hComplete.kindText_eq, ok_bind, hComplete.name_eq,
    hComplete.className_eq]
  unfold markedCells firstCells countCells lastCell
  cases hSummary : coverage.summary with
  | ok summary =>
      dsimp only
      rw [joinNames_eq (hNames summary hSummary)]
      rfl
  | error fault =>
      have hError : Markup.escape "error" = "error" := rfl
      rw [hError]
      rfl

end Coverage

end ElementBindings
