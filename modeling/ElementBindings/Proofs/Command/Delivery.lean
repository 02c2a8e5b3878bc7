import ElementBindings.Proofs.Command.Plan
import ElementBindings.Proofs.Command.Rendering
import ElementBindings.Proofs.Console.Print
import ElementBindings.Proofs.Files.Path

/-
  Plans that write texts and report failures.

  The plan for elements that were rendered has a step for each
  of them, in their order: a text is written to the file of
  the element, a failure is printed as a line.  The last line
  says how many elements have a text.

  Key definitions include:
    * `Catalog.writes`, `Catalog.failures`
    * `Catalog.reportLines`
    * `Catalog.Delivers`

  Key theorems include:
    * `render_generatedLine`, `countLine_of_keeps`
    * `Catalog.delivers_writePlan`
    * `Catalog.length_writes_add_failures`
-/

namespace ElementBindings

------------------------------------------------------------
-- Messages
------------------------------------------------------------

/-
  Only the output directory can open a tag in the line about
  what was written.
-/
theorem mem_generatedLine
    {count : Nat}
    {output : Path}
    (hMember : '[' ∈ (generatedLine count output).toList) :
    '[' ∈ output.text.toList := by
  have hCount :
      (toString count).toList = Nat.toDigits 10 count :=
    Nat.toList_repr
  have hDigit : '[' ∉ Nat.toDigits 10 count := by
    intro hThere
    have hDigit : ('[').isDigit :=
      Nat.isDigit_of_mem_toDigits (by decide) (by decide) hThere
    exact absurd hDigit (by decide)
  have hPlural :
      '[' ∉ (if count = 1 then "" else "s").toList := by
    split
    · decide
    · decide
  unfold generatedLine at hMember
  simpa [hCount, hDigit, hPlural] using hMember

/- The line about what was written, as it appears. -/
def countLine
    (console : Console)
    (count : Nat)
    (output : Path) : String :=
  String.ofList
    (Markup.displayed console.width
      (console.decode (generatedLine count output).toList))

/- It can be printed if the output directory opens no tag. -/
theorem render_generatedLine
    (console : Console)
    (count : Nat)
    {output : Path}
    (hOutput : '[' ∉ output.text.toList) :
    Markup.render console (generatedLine count output) =
      .ok (countLine console count output) := by
  apply Markup.render_of_no_bracket
  intro hMember
  exact hOutput (mem_generatedLine hMember)

/- It appears as it is if the console keeps it. -/
theorem countLine_of_keeps
    {console : Console}
    {count : Nat}
    {output : Path}
    (hKeeps :
      console.Keeps (generatedLine count output).toList) :
    countLine console count output =
      generatedLine count output := by
  unfold countLine
  rw [Console.decode_of_spares hKeeps.spares,
    Markup.displayed_of_ordinary hKeeps.ordinary hKeeps.fits,
    String.ofList_toList]

------------------------------------------------------------
-- Effects of Renderings
------------------------------------------------------------

namespace Catalog

variable {catalog : Catalog}
variable {console : Console}
variable {options : GenerateOptions}
variable {elements : List Element}

/- What is written for elements that have a text, and where. -/
def writes
    (catalog : Catalog)
    (base : Path)
    (elements : List Element) : List (Path × String) :=
  elements.filterMap fun element =>
    match catalog.textOf element with
    | .ok text => some (Element.target base element.label, text)
    | .error _ => none

/- The names of elements that have no text, and why. -/
def failures
    (catalog : Catalog)
    (elements : List Element) : List (String × DispatchFault) :=
  elements.filterMap fun element =>
    match catalog.textOf element with
    | .error (.dispatch fault) => some (element.label, fault)
    | _ => none

section Cons

variable {element : Element}
variable {text : String}
variable {fault : DispatchFault}

/- An element with a text adds it to what is written. -/
theorem writes_cons_of_text
    (base : Path)
    (elements : List Element)
    (hText : catalog.textOf element = .ok text) :
    catalog.writes base (element :: elements) =
      (Element.target base element.label, text) ::
        catalog.writes base elements := by
  simp [writes, hText]

/- It adds no failure. -/
theorem failures_cons_of_text
    (elements : List Element)
    (hText : catalog.textOf element = .ok text) :
    catalog.failures (element :: elements) =
      catalog.failures elements := by
  simp [failures, hText]

/- An element without text adds nothing to what is written. -/
theorem writes_cons_of_fault
    (base : Path)
    (elements : List Element)
    (hFault :
      catalog.textOf element = .error (.dispatch fault)) :
    catalog.writes base (element :: elements) =
      catalog.writes base elements := by
  simp [writes, hFault]

/- It adds a failure. -/
theorem failures_cons_of_fault
    (elements : List Element)
    (hFault :
      catalog.textOf element = .error (.dispatch fault)) :
    catalog.failures (element :: elements) =
      (element.label, fault) :: catalog.failures elements := by
  simp [failures, hFault]

end Cons

/- Something is written exactly for elements that have a text. -/
theorem mem_writes_iff
    {base : Path}
    {write : Path × String} :
    write ∈ catalog.writes base elements ↔
      ∃ element ∈ elements, ∃ text,
        catalog.textOf element = .ok text ∧
          write = (Element.target base element.label, text) := by
  unfold writes
  rw [List.mem_filterMap]
  constructor
  · intro hMember
    rcases hMember with ⟨element, hElement, hWrite⟩
    cases hText : catalog.textOf element with
    | ok text =>
        rw [hText] at hWrite
        exact
          ⟨element, hElement, text, hText,
            by simpa using hWrite.symm⟩
    | error fault => simp [hText] at hWrite
  · intro hMember
    rcases hMember with ⟨element, hElement, text, hText, hWrite⟩
    exact ⟨element, hElement, by simp [hText, hWrite]⟩

/- What holds of all that is written, element by element. -/
theorem forall_mem_writes_iff
    {base : Path}
    {P : Path × String → Prop} :
    (∀ write ∈ catalog.writes base elements, P write) ↔
      ∀ element ∈ elements,
        ∀ text, catalog.textOf element = .ok text →
          P (Element.target base element.label, text) := by
  constructor
  · intro hAll element hElement text hText
    exact
      hAll _ (mem_writes_iff.mpr
        ⟨element, hElement, text, hText, rfl⟩)
  · intro hAll write hMember
    rcases mem_writes_iff.mp hMember with
      ⟨element, hElement, text, hText, rfl⟩
    exact hAll element hElement text hText

/- The lines about failures and about what was written. -/
def reportLines
    (console : Console)
    (failures : List (String × DispatchFault))
    (count : Nat)
    (output : Path) : List String :=
  failures.map (fun failure =>
      Markup.appearance console failure.1 failure.2.message
        ++ "\n")
    ++ [countLine console count output ++ "\n"]

/- The exit code of a run with a number of failures. -/
def exitCode
    (failures : Nat) : Nat :=
  if failures = 0 then 0 else 1

/- The last line says how many elements have a text. -/
theorem writePlan_nil
    (total failed : Nat)
    (hOutput : '[' ∉ options.output.text.toList) :
    options.writePlan console total failed [] =
      ⟨[.print
          (countLine console (total - failed) options.output
            ++ "\n")],
        .exit (exitCode failed)⟩ := by
  simp [GenerateOptions.writePlan, Plan.printing,
    Plan.withValue, Plan.before, Plan.stop,
    render_generatedLine console _ hOutput]
  rfl

section Settles

variable {element : Element}
variable {settled : Job × Rendering}
variable {fault : DispatchFault}
variable {text : String}

/- An element without text costs one line, and one failure. -/
theorem Settles.writePlan_failure
    (hSettles : catalog.Settles element settled)
    (total failed : Nat)
    (rest : List (Job × Rendering))
    (hName : element.name = some element.label)
    (hFault :
      catalog.textOf element = .error (.dispatch fault)) :
    options.writePlan console total failed (settled :: rest) =
      (options.writePlan console total (failed + 1)
        rest).before
        [.print
          (Markup.appearance console element.label
              fault.message
            ++ "\n")] := by
  rcases settled with ⟨job, rendering⟩
  rcases hSettles with ⟨rfl, hSettle⟩
  rw [settle_eq_ok_error_iff.mpr hFault] at hSettle
  have hRendering : rendering = .error fault :=
    (Except.ok.inj hSettle).symm
  have hLine :
      Markup.render console
          (failureLine job.element.label fault) =
        .ok (Markup.appearance console job.element.label
          fault.message) :=
    Markup.render_red_line console job.element.label
      fault.message
  rw [hRendering, GenerateOptions.writePlan, hName]
  simp [Plan.withValue, Plan.printing, hLine]

/- The steps that write a text, and format it where asked to. -/
def writeSteps
    (options : GenerateOptions)
    (path : Path)
    (text : String) : List Step :=
  .write path text ::
    if options.format then
      [.format path options.formatter]
    else
      []

/- An element with a text is written. -/
theorem Settles.writePlan_text
    {path : Path}
    (hSettles : catalog.Settles element settled)
    (total failed : Nat)
    (rest : List (Job × Rendering))
    (hPath : element.path options.output = .ok path)
    (hText : catalog.textOf element = .ok text) :
    options.writePlan console total failed (settled :: rest) =
      (options.writePlan console total failed rest).before
        (writeSteps options path text) := by
  rcases settled with ⟨job, rendering⟩
  rcases hSettles with ⟨rfl, hSettle⟩
  rw [settle_eq_ok_text_iff.mpr hText] at hSettle
  have hRendering : rendering = .ok text :=
    (Except.ok.inj hSettle).symm
  rw [hRendering, GenerateOptions.writePlan, hPath]
  rfl

end Settles

/-
  A plan that writes the texts of elements and reports their
  failures, given how many elements there are in total, and
  how many of those before failed.
-/
structure Delivers
    (catalog : Catalog)
    (console : Console)
    (base : Path)
    (elements : List Element)
    (total failed : Nat)
    (plan : Plan) : Prop where
  effects : ∀ step ∈ plan.steps, Plan.isEffect step
  written :
    Plan.written plan.steps = catalog.writes base elements
  printed :
    Plan.printed plan.steps =
      reportLines console (catalog.failures elements)
        (total - (failed + (catalog.failures elements).length))
        base
  ending :
    plan.ending =
      .exit (exitCode
        (failed + (catalog.failures elements).length))

/- Without elements, only the last line is to be printed. -/
theorem delivers_nil
    (catalog : Catalog)
    (console : Console)
    (total failed : Nat)
    (hOutput : '[' ∉ options.output.text.toList) :
    catalog.Delivers console options.output [] total failed
      (options.writePlan console total failed []) := by
  rw [writePlan_nil total failed hOutput]
  constructor
  · simp [Plan.isEffect]
  · rfl
  · simp [Plan.printed, reportLines, failures]
  · rfl

/- A failure is reported first, and counts as one. -/
theorem Delivers.failure
    {element : Element}
    {fault : DispatchFault}
    {base : Path}
    {total failed : Nat}
    {plan : Plan}
    (hFault :
      catalog.textOf element = .error (.dispatch fault))
    (hRest :
      catalog.Delivers console base elements total (failed + 1)
        plan) :
    catalog.Delivers console base (element :: elements) total
      failed
      (plan.before
        [.print
          (Markup.appearance console element.label fault.message
            ++ "\n")]) := by
  have hFailures := failures_cons_of_fault elements hFault
  have hCount :
      failed + (catalog.failures (element :: elements)).length =
        failed + 1 + (catalog.failures elements).length := by
    rw [hFailures, List.length_cons]
    omega
  constructor
  · intro step hStep
    rcases List.mem_cons.mp hStep with rfl | hLater
    · rfl
    · exact hRest.effects step hLater
  · rw [writes_cons_of_fault base elements hFault]
    exact hRest.written
  · have hPrinted := hRest.printed
    rw [← hCount] at hPrinted
    simp [Plan.before, Plan.printed, hPrinted, reportLines,
      hFailures]
  · rw [hCount]
    exact hRest.ending

/- A text is written first. -/
theorem Delivers.text
    {element : Element}
    {text : String}
    {base : Path}
    {total failed : Nat}
    {plan : Plan}
    (hText : catalog.textOf element = .ok text)
    (hRest :
      catalog.Delivers console base elements total failed
        plan) :
    catalog.Delivers console base (element :: elements) total
      failed
      (plan.before
        [.write (Element.target base element.label) text]) := by
  have hFailures := failures_cons_of_text elements hText
  constructor
  · intro step hStep
    rcases List.mem_cons.mp hStep with rfl | hLater
    · rfl
    · exact hRest.effects step hLater
  · rw [writes_cons_of_text base elements hText,
      ← hRest.written]
    rfl
  · rw [hFailures]
    exact hRest.printed
  · rw [hFailures]
    exact hRest.ending

/-
  The plan for settled elements prints what is said about the
  failures and writes the texts, in the order of the elements.
  By induction on the elements, with the failures so far.
-/
theorem delivers_writePlan
    {settled : List (Job × Rendering)}
    (console : Console)
    (total failed : Nat)
    (hFormat : options.format = false)
    (hOutput : '[' ∉ options.output.text.toList)
    (hSettled : List.Forall₂ catalog.Settles elements settled)
    (hNames :
      ∀ element ∈ elements,
        element.name = some element.label ∧
          '/' ∉ element.label.toList) :
    catalog.Delivers console options.output elements total
      failed
      (options.writePlan console total failed settled) := by
  induction hSettled generalizing failed with
  | nil =>
      exact delivers_nil catalog console total failed hOutput
  | @cons element first elements rest hFirst hRest ih =>
      have hOthers :
          ∀ element ∈ elements,
            element.name = some element.label ∧
              '/' ∉ element.label.toList := by
        intro other hMember
        exact hNames other (List.mem_cons_of_mem _ hMember)
      have hName := hNames element List.mem_cons_self
      rcases first with ⟨job, rendering⟩
      cases rendering with
      | error fault =>
          have hFault := settle_eq_ok_error_iff.mp hFirst.2
          rw [hFirst.writePlan_failure total failed rest hName.1
            hFault]
          exact (ih (failed + 1) hOthers).failure hFault
      | ok text =>
          have hText := settle_eq_ok_text_iff.mp hFirst.2
          have hPath :=
            Element.path_eq options.output hName.1 hName.2
          rw [hFirst.writePlan_text total failed rest hPath
            hText]
          unfold writeSteps
          rw [hFormat]
          exact (ih failed hOthers).text hText

/- Every element is written, or else it fails. -/
theorem length_writes_add_failures
    (base : Path)
    (hCases :
      ∀ element ∈ elements,
        (∃ text, catalog.textOf element = .ok text) ∨
          ∃ fault,
            catalog.textOf element = .error (.dispatch fault)) :
    (catalog.writes base elements).length
        + (catalog.failures elements).length =
      elements.length := by
  induction elements with
  | nil => rfl
  | cons element rest ih =>
      have hRest := ih fun other hMember =>
        hCases other (List.mem_cons_of_mem element hMember)
      rcases hCases element (by simp) with
        ⟨text, hText⟩ | ⟨fault, hFault⟩
      · rw [writes_cons_of_text base rest hText,
          failures_cons_of_text rest hText,
          List.length_cons, List.length_cons]
        omega
      · rw [writes_cons_of_fault base rest hFault,
          failures_cons_of_fault rest hFault,
          List.length_cons, List.length_cons]
        omega

/- Lines that the console keeps are reported as they are. -/
theorem join_reportLines_of_keeps
    {failures : List (String × DispatchFault)}
    {count : Nat}
    {output : Path}
    (hFailures :
      ∀ failure ∈ failures,
        '\\' ∉ failure.1.toList ∧
          '\\' ∉ failure.2.message.toList ∧
          console.Keeps
            (failure.1 ++ ": " ++ failure.2.message).toList)
    (hCount :
      console.Keeps (generatedLine count output).toList) :
    String.join (reportLines console failures count output) =
      String.join
          (failures.map fun failure =>
            failure.1 ++ ": " ++ failure.2.message ++ "\n")
        ++ (generatedLine count output ++ "\n") := by
  have hLines :
      (failures.map fun failure =>
          Markup.appearance console failure.1
              failure.2.message
            ++ "\n") =
        failures.map fun failure =>
          failure.1 ++ ": " ++ failure.2.message ++ "\n" := by
    apply List.map_congr_left
    intro failure hMember
    rcases hFailures failure hMember with
      ⟨hName, hMessage, hKeeps⟩
    rw [Markup.appearance_of_keeps hName hMessage hKeeps]
  unfold reportLines
  rw [hLines, countLine_of_keeps hCount]
  simp

end Catalog

end ElementBindings
