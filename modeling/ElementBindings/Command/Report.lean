import ElementBindings.Command.Generate
import ElementBindings.Console.Table
import ElementBindings.Json.Printer

/-
  The reporting command: how much would be generated for each
  element of a catalog, as a table or as JSON.

  Key definitions include:
    * `Coverage`, `Catalog.coverage`
    * `Coverage.toJson`
    * `Coverage.row`
    * `InfoOptions.plan`
-/

namespace ElementBindings

------------------------------------------------------------
-- Coverage
------------------------------------------------------------

/- An element with its summary, or the fault that concerns it. -/
structure Coverage where
  element : Element
  summary : Except DispatchFault Summary

/- Summarise one element. -/
def Catalog.coverageOf
    (catalog : Catalog)
    (element : Element) : Except Fault Coverage := do
  let parents ← catalog.parentAttributes element
  match element.summary parents with
  | .ok summary => return ⟨element, .ok summary⟩
  | .error (.dispatch fault) => return ⟨element, .error fault⟩
  | .error fault => throw fault

/- Summarise every element, in catalog order. -/
def Catalog.coverage
    (catalog : Catalog)
    (elements : List Element) :
    Except Fault (List Coverage) :=
  elements.mapM catalog.coverageOf

/- The debug messages of summaries up to the first fault. -/
def Catalog.coverageLog
    (catalog : Catalog) :
    List Element →
    List String
  | [] => []
  | element :: rest =>
      match catalog.parentAttributes element with
      | .error _ => []
      | .ok parents =>
          let messages := element.summaryTrace parents
          match catalog.coverageOf element with
          | .ok _ => messages ++ coverageLog catalog rest
          | .error _ => messages

/- The native kind of an element, which has to be known. -/
def Element.kindText
    (element : Element) : Except Fault String :=
  (needed (.readField "value") element.nativeType).map
    NativeType.text

/- A text that may be null. -/
def textOrNull : Option String → Json
  | none => .null
  | some s => .text s

------------------------------------------------------------
-- JSON
------------------------------------------------------------

/- The counts of a summary. -/
def Summary.fields
    (summary : Summary) : List (String × Json) :=
  [ ("attributes", .int summary.attributes),
    ("setters", .int summary.setters),
    ("getters", .int summary.getters),
    ("callbacks", .int summary.callbacks),
    ("tests", .int summary.tests),
    ("unsupported",
      .array (summary.unsupported.map textOrNull)) ]

/- The entry of an element, under its name. -/
def Coverage.toJson
    (coverage : Coverage) :
    Except Fault (String × Json) := do
  let kind ← coverage.element.kindText
  let head :=
    [ ("class_name", textOrNull coverage.element.className),
      ("native_type", .text kind) ]
  let tail :=
    match coverage.summary with
    | .ok summary => summary.fields
    | .error fault => [("error", .text fault.message)]
  return (coverage.element.name.getD "null",
    .object (head ++ tail))

/- The plan that prints coverage as JSON. -/
def Coverage.jsonPlan
    (coverage : List Coverage) : Plan :=
  .withValue (coverage.mapM toJson) fun entries =>
    let json : Json := .object [("elements", .object entries)]
    (Plan.stop (.exit 0)).before
      [.print (json.pretty ++ "\n")]

------------------------------------------------------------
-- Table
------------------------------------------------------------

/- The first null of some names makes joining them fail. -/
def joinNames
    (names : List (Option String)) : Except Fault String :=
  match names.findIdx? (·.isNone) with
  | some position => .error (.null (.join position))
  | none => .ok (Text.joinWith ", " (names.map shownName))

/- The cells of an element; one without a summary has no counts. -/
def Coverage.row
    (coverage : Coverage) : Except Fault (List String) := do
  let kind ← coverage.element.kindText
  let head :=
    [ coverage.element.name.getD "",
      coverage.element.className.getD "",
      kind ]
  match coverage.summary with
  | .error _ => return head ++ ["-", "-", "-", "-", "error"]
  | .ok summary =>
      let unsupported ← joinNames summary.unsupported
      return head ++
        [ toString summary.setters,
          toString summary.getters,
          toString summary.callbacks,
          toString summary.tests,
          Markup.escape unsupported ]

/- The headings of the table, with their alignment. -/
def Coverage.headings : List (String × Bool) :=
  [ ("Name", false), ("Class", false), ("Kind", false),
    ("Setters", true), ("Getters", true), ("Callbacks", true),
    ("Tests", true), ("Unsupported", false) ]

/- The table of some rows. -/
def Coverage.table
    (console : Console)
    (rows : List (List String)) : Except Fault String :=
  Table.render console rows.length
    (headings.zipIdx.map fun ((heading, alignedRight), i) =>
      { heading := heading
        alignedRight := alignedRight
        cells := rows.filterMap (·[i]?) })

/- The elements without a summary, and why. -/
def Coverage.failures
    (coverage : List Coverage) :
    List (Option String × DispatchFault) :=
  coverage.filterMap fun entry =>
    match entry.summary with
    | .ok _ => none
    | .error fault => some (entry.element.name, fault)

/- The plan that lists failures. -/
def Coverage.failurePlan
    (console : Console) :
    List (Option String × DispatchFault) →
    Plan
  | [] => .stop (.exit 0)
  | (name, fault) :: rest =>
      .withValue (needed .search name) fun name =>
        (failurePlan console rest).printing
          (Markup.renderFolded console
            ("  " ++ Markup.escape name ++ ": "
              ++ Markup.escape fault.message))

/- The plan that prints coverage as a table. -/
def Coverage.tablePlan
    (console : Console)
    (coverage : List Coverage) : Plan :=
  let title (text : String) := Markup.renderFolded console text
  let body :=
    Plan.withValue (coverage.mapM row) fun rows =>
      .withValue (table console rows) fun text =>
        let failures := Coverage.failures coverage
        let rest :=
          if failures.isEmpty then
            Plan.stop (.exit 0)
          else
            ((failurePlan console failures).printing
              (title "[bold red]Errors[/bold red]")).before
                [.print "\n"]
        rest.before [.print text]
  body.printing (title "[bold cyan]Elements[/bold cyan]")

------------------------------------------------------------
-- Plan
------------------------------------------------------------

/- The plan for a catalog that was loaded or not. -/
def InfoOptions.plan
    (options : InfoOptions)
    (console : Console)
    (verbose : Bool)
    (catalog : Except Fault Catalog) : Plan :=
  .withCatalog console verbose catalog fun catalog =>
    .withValue catalog.namedElements fun elements =>
      let plan :=
        Plan.withValue (catalog.coverage elements) fun coverage =>
          if options.json then
            Coverage.jsonPlan coverage
          else
            Coverage.tablePlan console coverage
      plan.debugging verbose (catalog.coverageLog elements)

end ElementBindings
