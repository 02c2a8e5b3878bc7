import ElementBindings.Catalog.Validity
import ElementBindings.Command.Arguments
import ElementBindings.Command.Plan
import ElementBindings.Command.Trace

/-
  The generating command.

  All selected elements are rendered before the first file is
  written.  A dispatch fault costs only its own element; any
  other fault ends the run with nothing written.  With several
  jobs, elements are rendered in a pool, in whatever order
  they finish; the results are taken in the order of the jobs.

  Key definitions include:
    * `Job`, `Rendering`
    * `renderInTurn`, `renderInPool`
    * `Catalog.selected`
    * `GenerateOptions.plan`
-/

namespace ElementBindings

------------------------------------------------------------
-- Rendering
------------------------------------------------------------

/- An element and the attributes that it inherits. -/
structure Job where
  element : Element
  parents : List (Option Attribute)
deriving DecidableEq, Repr

/- The text of an element, or the fault that concerns only it. -/
abbrev Rendering :=
  Except DispatchFault String

/- Keep a dispatch fault as a result. -/
def settle
    (result : Except Fault String) :
    Except Fault Rendering :=
  match result with
  | .ok text => .ok (.ok text)
  | .error (.dispatch fault) => .ok (.error fault)
  | .error fault => .error fault

/- Render the element of a job. -/
def Job.render
    (job : Job) : Except Fault String :=
  job.element.render job.parents

/- Render one job after the other. -/
def renderInTurn
    (jobs : List Job) :
    Except Fault (List Rendering) :=
  jobs.mapM fun job => settle job.render

/- What a pool has finished, in an order of job numbers. -/
def finished
    (order : List Nat)
    (jobs : List Job) :
    List (Nat × Except Fault String) :=
  order.filterMap fun i =>
    jobs[i]?.map fun job => (i, job.render)

/-
  Render jobs in a pool that finishes them in some order, and
  collect the results job by job, waiting where one is late.
-/
def renderInPool
    (order : List Nat)
    (jobs : List Job) :
    Except Fault (List Rendering) :=
  let results := finished order jobs
  jobs.zipIdx.mapM fun (job, i) =>
    settle ((results.lookup i).getD job.render)

/-
  The most workers that a pool can have: with one place more
  for a waiting job, their number fits in 31 bits.
-/
def maxWorkers : Int := 2147483646

/- Render jobs with a number of workers. -/
def renderAll
    (workers : Int)
    (jobs : List Job) :
    Except Fault (List Rendering) :=
  if workers ≤ 1 then
    renderInTurn jobs
  else if workers ≤ maxWorkers then
    renderInPool (List.range jobs.length) jobs
  else
    .error .tooManyWorkers

/- The debug messages of rendering up to the first fault. -/
def renderLog : List Job → List String
  | [] => []
  | job :: rest =>
      let messages := job.element.renderTrace job.parents
      match settle job.render with
      | .ok _ => messages ++ renderLog rest
      | .error _ => messages

------------------------------------------------------------
-- Selection
------------------------------------------------------------

/- The elements of a catalog, none of them null. -/
def Catalog.namedElements
    (catalog : Catalog) : Except Fault (List Element) := do
  let elements ← needed .iterate catalog.elements
  elements.mapM (needed (.readField "name"))

/- The wanted names that no element has, sorted. -/
def unknownNames
    (elements : List Element)
    (only : List String) : List String :=
  let unknown := only.eraseDups.filter fun name =>
    !elements.any fun element => element.name = some name
  unknown.mergeSort fun a b => a ≤ b

/- An element is wanted; no names at all want every element. -/
def Element.isWanted
    (only : List String)
    (element : Element) : Bool :=
  only.isEmpty || element.name.any (only.contains ·)

/- The jobs of the wanted elements, in catalog order. -/
def Catalog.selected
    (catalog : Catalog)
    (elements : List Element)
    (only : List String) : Except Fault (List Job) :=
  (elements.filter (Element.isWanted only)).mapM
    fun element => do
      let parents ← catalog.parentAttributes element
      return ⟨element, parents⟩

------------------------------------------------------------
-- Messages
------------------------------------------------------------

/- The line about a catalog that is rejected. -/
def rejectedLine
    (fault : CatalogFault) : String :=
  "[red]Invalid catalog:[/red] " ++ Markup.escape fault.message

/- The line about names that are not known. -/
def unknownLine
    (names : List String) : String :=
  "Unknown element: "
    ++ Markup.escape (Text.joinWith ", " names)

/- The line about an element that is not written. -/
def failureLine
    (name : String)
    (fault : DispatchFault) : String :=
  "[red]" ++ Markup.escape name ++ ":[/red] "
    ++ Markup.escape fault.message

/- The line about how much was written. -/
def generatedLine
    (count : Nat)
    (output : Path) : String :=
  "Generated " ++ toString count ++ " element"
    ++ (if count = 1 then "" else "s") ++ " in " ++ output.text

------------------------------------------------------------
-- Plan
------------------------------------------------------------

/- Continue with a catalog, or report that it is rejected. -/
def Plan.withCatalog
    (console : Console)
    (verbose : Bool)
    (catalog : Except Fault Catalog)
    (next : Catalog → Plan) : Plan :=
  match catalog with
  | .ok catalog =>
      (next catalog).debugging verbose [catalog.loadedMessage]
  | .error (.catalog fault) =>
      (Plan.stop (.exit 1)).printing
        (Markup.render console (rejectedLine fault))
  | .error fault => .stop (.failure fault)

/- Write renderings in order, counting the failures. -/
def GenerateOptions.writePlan
    (options : GenerateOptions)
    (console : Console)
    (total : Nat) :
    Nat →
    List (Job × Rendering) →
    Plan
  | failures, [] =>
      let ending := Ending.exit (if failures = 0 then 0 else 1)
      let line := generatedLine (total - failures) options.output
      (Plan.stop ending).printing (Markup.render console line)
  | failures, (job, .error fault) :: rest =>
      .withValue (needed .search job.element.name) fun name =>
        (options.writePlan console total (failures + 1)
          rest).printing
            (Markup.render console (failureLine name fault))
  | failures, (job, .ok text) :: rest =>
      .withValue (job.element.path options.output) fun path =>
        let formatting :=
          if options.format then
            [Step.format path options.formatter]
          else
            []
        (options.writePlan console total failures rest).before
          (.write path text :: formatting)

/- Render jobs and write what they give. -/
def GenerateOptions.jobsPlan
    (options : GenerateOptions)
    (console : Console)
    (verbose : Bool)
    (jobs : List Job) : Plan :=
  let plan := Plan.withValue (renderAll options.jobs jobs)
    fun renderings =>
      options.writePlan console jobs.length 0
        (jobs.zip renderings)
  if options.jobs ≤ 1 then
    plan.debugging verbose (renderLog jobs)
  else
    plan

/- The plan for a catalog that was loaded or not. -/
def GenerateOptions.plan
    (options : GenerateOptions)
    (console : Console)
    (verbose : Bool)
    (catalog : Except Fault Catalog) : Plan :=
  .withCatalog console verbose catalog fun catalog =>
    .withValue catalog.namedElements fun elements =>
      let unknown := unknownNames elements options.only
      if unknown.isEmpty then
        .withValue (catalog.selected elements options.only)
          (options.jobsPlan console verbose)
      else
        (Plan.stop (.exit 1)).printing
          (Markup.renderFolded console (unknownLine unknown))

end ElementBindings
