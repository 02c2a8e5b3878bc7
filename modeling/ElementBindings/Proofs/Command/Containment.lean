import ElementBindings.Proofs.Command.Formatting
import ElementBindings.Proofs.Text.Code

/-
  Which files a run touches.

  A run that generates writes the files of the elements that
  it has texts for, and no others, whether it comes to its end
  or is stopped.  A formatter that keeps to the file that it is
  called for does not change this.  The file of an element is
  below the directory for elements if the name of the file
  neither starts with a slash nor goes up by double dots.  No
  check keeps names from doing so, and then the file is written
  to wherever its name leads.

  Key definitions include:
    * `FileTree.Touches`
    * `Programs.FormatsInPlace`
    * `Step.StaysWithin`
    * `FileTree.Under`, `Element.IsFiledUnder`

  Key theorems include:
    * `FileTree.writeText_touches`
    * `Plan.runSteps_touches`, `Plan.runSteps_written`
    * `GenerateOptions.plan_staysWithin`
    * `Element.isFiledUnder_of_forward`
    * `runCommand_touches_rendered`
-/

namespace ElementBindings

------------------------------------------------------------
-- Touched Files
------------------------------------------------------------

namespace FileTree

variable {tree between made : FileTree}
variable {touched : Location → Prop}
variable {path : Path}

/-
  A tree turns into one with new directories, and with other
  files at some locations.
-/
structure Touches
    (touched : Location → Prop)
    (tree made : FileTree) : Prop where
  workingDirectory :
    made.workingDirectory = tree.workingDirectory
  entry :
    ∀ location,
      made.entry? location = tree.entry? location ∨
        tree.entry? location = none ∧
          made.entry? location = some .directory ∨
        touched location ∧
          tree.entry? location ≠ some .directory ∧
          ∃ text, made.entry? location = some (.file text)

namespace Touches

/- A tree may stay as it is. -/
theorem refl
    (tree : FileTree) :
    Touches touched tree tree :=
  ⟨rfl, fun _ => .inl rfl⟩

/- It may be touched twice. -/
theorem trans
    (hFirst : Touches touched tree between)
    (hSecond : Touches touched between made) :
    Touches touched tree made := by
  constructor
  · rw [hSecond.workingDirectory, hFirst.workingDirectory]
  · intro location
    rcases hSecond.entry location with
      hSame | ⟨hFree, hMade⟩ | ⟨hTouched, hOther, hFile⟩
    · rw [hSame]
      exact hFirst.entry location
    · rcases hFirst.entry location with
        hOld | ⟨_, hDirectory⟩ | ⟨_, _, _, hFile⟩
      · rw [hOld] at hFree
        exact .inr (.inl ⟨hFree, hMade⟩)
      · simp [hFree] at hDirectory
      · simp [hFree] at hFile
    · rcases hFirst.entry location with
        hOld | ⟨_, hDirectory⟩ | ⟨_, hNone, _⟩
      · rw [hOld] at hOther
        exact .inr (.inr ⟨hTouched, hOther, hFile⟩)
      · exact absurd hDirectory hOther
      · exact .inr (.inr ⟨hTouched, hNone, hFile⟩)

/- More locations may be said to be touched. -/
theorem mono
    {wider : Location → Prop}
    (hWider : ∀ location, touched location → wider location)
    (hTouches : Touches touched tree made) :
    Touches wider tree made := by
  constructor
  · exact hTouches.workingDirectory
  · intro location
    exact
      (hTouches.entry location).imp id
        (Or.imp id (And.imp (hWider location) id))

/- Where a file is, a file stays. -/
theorem file
    {location : Location}
    {text : String}
    (hTouches : Touches touched tree made)
    (hFile : tree.entry? location = some (.file text)) :
    ∃ later, made.entry? location = some (.file later) := by
  rcases hTouches.entry location with
    hSame | ⟨hFree, _⟩ | ⟨_, _, hLater⟩
  · exact ⟨text, hSame.trans hFile⟩
  · simp [hFree] at hFile
  · exact hLater

/- A file that is new or other than before was touched. -/
theorem of_changed
    {location : Location}
    {entry : Entry}
    (hTouches : Touches touched tree made)
    (hEntry : made.entry? location = some entry)
    (hFile : entry ≠ .directory)
    (hChanged : tree.entry? location ≠ some entry) :
    touched location := by
  rcases hTouches.entry location with
    hSame | ⟨_, hDirectory⟩ | ⟨hTouched, _⟩
  · exact absurd (hSame.symm.trans hEntry) hChanged
  · rw [hEntry] at hDirectory
    exact absurd (Option.some.inj hDirectory) hFile
  · exact hTouched

/- Paths name the same locations afterwards. -/
theorem locate_eq
    (hTouches : Touches touched tree made)
    (path : Path) :
    made.locate path = tree.locate path := by
  unfold locate start
  rw [hTouches.workingDirectory]

/- The file of a path is the one of some path. -/
theorem ofPath
    {paths : Path → Prop}
    (hPath : paths path)
    (hTouches : Touches (· = tree.locate path) tree made) :
    Touches
      (fun location =>
        ∃ other, paths other ∧ location = tree.locate other)
      tree made := by
  apply hTouches.mono
  intro location hSame
  exact ⟨path, hPath, hSame⟩

/- Paths name the files that are touched later as before. -/
theorem thenPaths
    {paths : Path → Prop}
    (hPath : paths path)
    (hFirst : Touches (· = tree.locate path) tree between)
    (hLater :
      Touches
        (fun location =>
          ∃ other, paths other ∧
            location = between.locate other)
        between made) :
    Touches
      (fun location =>
        ∃ other, paths other ∧ location = tree.locate other)
      tree made := by
  simp only [hFirst.locate_eq] at hLater
  exact (hFirst.ofPath hPath).trans hLater

end Touches

/- New directories touch no file. -/
theorem Grows.touches
    {new : Location → Prop}
    (hGrows : Grows new tree made) :
    Touches touched tree made := by
  constructor
  · exact hGrows.workingDirectory
  · intro location
    rcases hGrows.entry location with hSame | ⟨hFree, hNew, _⟩
    · exact .inl hSame
    · exact .inr (.inl ⟨hFree, hNew⟩)

/- A text that is put somewhere touches that file only. -/
theorem putText_touches
    {text : String}
    (hPut : tree.putText path text = .ok made) :
    Touches (· = tree.locate path) tree made ∧
      made.entry? (tree.locate path) = some (.file text) := by
  rcases (putText_eq_ok_iff text).mp hPut with
    ⟨location, hResolve, hFree, rfl⟩
  have hLocation := resolve_eq_locate hResolve
  rw [hLocation] at hFree ⊢
  have hBelow : tree.locate path ≠ [] := by
    intro hRoot
    rw [hRoot] at hFree
    simp at hFree
  have hHere := entry?_put_self tree hBelow (.file text)
  refine ⟨⟨rfl, ?_⟩, hHere⟩
  intro other
  by_cases hOther : other = tree.locate path
  · rw [hOther]
    exact .inr (.inr ⟨rfl, hFree, text, hHere⟩)
  · exact .inl (entry?_put_of_ne tree _ hOther)

/-
  Writing a text touches the file of its path only, even if it
  fails halfway; if it does not, a file stands there.
-/
theorem writeText_touches
    (tree : FileTree)
    (path : Path)
    (text : String) :
    Touches (· = tree.locate path) tree
        (tree.writeText path text).1 ∧
      ((tree.writeText path text).2 = .ok () →
        FileTree.entry? (tree.writeText path text).1
            (tree.locate path) =
          some (.file text)) := by
  have hChain :
      Touches (· = tree.locate path) tree
        (tree.makeDirectories path.parent).1 :=
    (tree.makeChain_grows _ _).touches
  unfold writeText
  rcases hMake : tree.makeDirectories path.parent with
    ⟨between, result⟩
  rw [hMake] at hChain
  cases result with
  | error fault => exact ⟨hChain, fun hOk => by cases hOk⟩
  | ok done =>
      have hSame := hChain.locate_eq path
      cases hPut : between.putText path (encoded text) with
      | error cause =>
          simp only [hPut]
          exact ⟨hChain, fun hOk => by cases hOk⟩
      | ok written =>
          have hWritten := putText_touches hPut
          rw [hSame] at hWritten
          have hTouches := hChain.trans hWritten.1
          simp only [hPut]
          by_cases hWhole : Text.isWhole text
          · have hText : encoded text = text := by
              unfold encoded
              rw [if_pos hWhole]
            rw [if_pos hWhole]
            exact ⟨hTouches, fun _ => hText ▸ hWritten.2⟩
          · rw [if_neg hWhole]
            exact ⟨hTouches, fun hOk => by cases hOk⟩

end FileTree

------------------------------------------------------------
-- Steps
------------------------------------------------------------

/-
  A program of a name touches no file but the one that it is
  called for.
-/
def Programs.FormatsInPlace
    (programs : Programs)
    (name : String) : Prop :=
  ∀ tree formatter path,
    programs tree name = some formatter →
      FileTree.Touches (· = tree.locate path) tree
        (formatter tree path).tree

/-
  A step writes and formats only files of some paths, with one
  of some formatters.
-/
def Step.StaysWithin
    (paths : Path → Prop)
    (formatters : String → Prop) : Step → Prop
  | .print _ => True
  | .log _ => True
  | .write path _ => paths path
  | .format path formatter =>
      paths path ∧ formatters formatter

/- More may be said to be allowed. -/
theorem Step.StaysWithin.mono
    {paths wider : Path → Prop}
    {formatters : String → Prop}
    {step : Step}
    (hStep : step.StaysWithin paths formatters)
    (hWider : ∀ path, paths path → wider path) :
    step.StaysWithin wider formatters := by
  cases step with
  | print text => trivial
  | log record => trivial
  | write path text => exact hWider path hStep
  | format path formatter => exact hStep.imp (hWider path) id

namespace Plan

variable {programs : Programs}
variable {ending : Ending}
variable {paths : Path → Prop}
variable {formatters : String → Prop}

/- Formatting touches the file of its path only. -/
theorem format_touches
    {tree : FileTree}
    {path : Path}
    {formatter : String}
    {formatting : Formatting}
    (hPlace : programs.FormatsInPlace formatter)
    (hFormat :
      tree.format programs formatter path = .ok formatting) :
    FileTree.Touches (· = tree.locate path) tree
      formatting.tree := by
  unfold FileTree.format at hFormat
  cases hFound : programs tree formatter with
  | none =>
      rw [hFound] at hFormat
      rw [← Except.ok.inj hFormat]
      exact .refl tree
  | some program =>
      have hRun := hPlace tree program path hFound
      simp only [hFound] at hFormat
      split at hFormat
      · cases hFormat
      · split at hFormat
        · rw [← Except.ok.inj hFormat]
          exact hRun
        · rw [← Except.ok.inj hFormat]
          exact hRun

/-
  Steps touch the files of their paths only, whether all of
  them are carried out or the last ones are not.
-/
theorem runSteps_touches
    {steps : List Step}
    (outcome : Outcome)
    (hPlace :
      ∀ name, formatters name → programs.FormatsInPlace name)
    (hSteps :
      ∀ step ∈ steps, step.StaysWithin paths formatters) :
    FileTree.Touches
      (fun location =>
        ∃ path, paths path ∧
          location = outcome.tree.locate path)
      outcome.tree
      (runSteps programs ending outcome steps).tree := by
  induction steps generalizing outcome with
  | nil => exact .refl outcome.tree
  | cons step rest ih =>
      rw [List.forall_mem_cons] at hSteps
      rcases hSteps with ⟨hStep, hRest⟩
      cases step with
      | print text =>
          rw [runSteps]
          split
          · exact
              ih
                { outcome with
                  output := outcome.output ++ text }
                hRest
          · exact .refl outcome.tree
      | log record =>
          exact
            ih { outcome with log := outcome.log ++ [record] }
              hRest
      | write path text =>
          have hWrite :=
            (outcome.tree.writeText_touches path text).1
          rw [runSteps]
          rcases hMade : outcome.tree.writeText path text with
            ⟨made, result⟩
          rw [hMade] at hWrite
          cases result with
          | error fault => exact hWrite.ofPath hStep
          | ok done =>
              exact
                hWrite.thenPaths hStep
                  (ih { outcome with tree := made } hRest)
      | format path formatter =>
          rw [runSteps]
          cases hFormat :
              outcome.tree.format programs formatter path with
          | error fault => exact .refl outcome.tree
          | ok formatting =>
              have hFormatted :=
                format_touches (hPlace _ hStep.2) hFormat
              exact
                hFormatted.thenPaths hStep.1
                  (ih
                    { outcome with
                      tree := formatting.tree
                      log := outcome.log
                        ++ formatting.warnings.map
                          (⟨.warning, ·⟩) }
                    hRest)

/- Only steps that are all carried out end with an exit code. -/
theorem runSteps_written
    {steps : List Step}
    {code : Nat}
    (outcome : Outcome)
    (hPlace :
      ∀ name, formatters name → programs.FormatsInPlace name)
    (hSteps :
      ∀ step ∈ steps, step.StaysWithin paths formatters)
    (hEnding :
      (runSteps programs ending outcome steps).ending =
        .exit code) :
    ending = .exit code ∧
      ∀ write ∈ written steps,
        ∃ text,
          FileTree.entry?
              (runSteps programs ending outcome steps).tree
              (outcome.tree.locate write.1) =
            some (.file text) := by
  induction steps generalizing outcome with
  | nil => exact ⟨hEnding, by simp [written]⟩
  | cons step rest ih =>
      rw [List.forall_mem_cons] at hSteps
      rcases hSteps with ⟨hStep, hRest⟩
      cases step with
      | print text =>
          rw [runSteps] at hEnding ⊢
          by_cases hWhole : Text.isWhole text
          · rw [if_pos hWhole] at hEnding ⊢
            exact
              ih
                { outcome with
                  output := outcome.output ++ text }
                hRest hEnding
          · rw [if_neg hWhole] at hEnding
            cases hEnding
      | log record =>
          exact
            ih { outcome with log := outcome.log ++ [record] }
              hRest hEnding
      | write path text =>
          have hWrite := outcome.tree.writeText_touches path text
          rw [runSteps] at hEnding ⊢
          rcases hMade : outcome.tree.writeText path text with
            ⟨made, result⟩
          rw [hMade] at hWrite hEnding
          cases result with
          | error fault => cases hEnding
          | ok done =>
              rcases hWrite with ⟨hTouches, hFile⟩
              have hLater :
                  FileTree.Touches _ made
                    (runSteps programs ending
                      { outcome with tree := made } rest).tree :=
                runSteps_touches { outcome with tree := made }
                  hPlace hRest
              rcases ih { outcome with tree := made } hRest hEnding
                with ⟨hExit, hWritten⟩
              refine ⟨hExit, ?_⟩
              simp only [hTouches.locate_eq] at hWritten
              rw [written, List.forall_mem_cons]
              exact ⟨hLater.file (hFile rfl), hWritten⟩
      | format path formatter =>
          rw [runSteps] at hEnding ⊢
          cases hFormat :
              outcome.tree.format programs formatter path with
          | error fault =>
              rw [hFormat] at hEnding
              cases hEnding
          | ok formatting =>
              rw [hFormat] at hEnding
              have hTouches :=
                format_touches (hPlace _ hStep.2) hFormat
              have hLater :=
                ih
                  { outcome with
                    tree := formatting.tree
                    log := outcome.log
                      ++ formatting.warnings.map
                        (⟨.warning, ·⟩) }
                  hRest hEnding
              simp only [hTouches.locate_eq] at hLater
              exact hLater

end Plan

------------------------------------------------------------
-- Plans
------------------------------------------------------------

/- A path is the one of some element. -/
def Element.IsFileOf
    (output : Path)
    (elements : List Element)
    (path : Path) : Prop :=
  ∃ element ∈ elements, element.path output = .ok path

/-
  A plan that touches the files of some elements only.  If it
  can end with an exit code, it writes all of them.
-/
structure Plan.Files
    (output : Path)
    (formatters : String → Prop)
    (elements : List Element)
    (plan : Plan) : Prop where
  within :
    ∀ step ∈ plan.steps,
      step.StaysWithin (Element.IsFileOf output elements)
        formatters
  complete :
    ∀ code, plan.ending = .exit code →
      ∀ element ∈ elements,
        ∃ write ∈ written plan.steps,
          element.path output = .ok write.1

namespace Plan

variable {α : Type}
variable {plan : Plan}
variable {programs : Programs}
variable {output : Path}
variable {formatters : String → Prop}
variable {elements : List Element}

/- What two lists of steps write, one after the other. -/
theorem written_append
    (first second : List Step) :
    written (first ++ second) =
      written first ++ written second := by
  induction first with
  | nil => rfl
  | cons step rest ih =>
      cases step with
      | write path text =>
          exact congrArg ((path, text) :: ·) ih
      | print text => exact ih
      | log record => exact ih
      | format path formatter => exact ih

/- A fault in the place of a plan touches nothing. -/
theorem files_failure
    (output : Path)
    (formatters : String → Prop)
    (elements : List Element)
    (fault : Fault) :
    (stop (.failure fault)).Files output formatters elements :=
  ⟨by simp [stop], nofun⟩

/- Nor does stopping where nothing is to be written. -/
theorem files_stop
    (output : Path)
    (formatters : String → Prop)
    (ending : Ending) :
    (stop ending).Files output formatters [] :=
  ⟨by simp [stop], by simp⟩

/- A plan touches the same with each value, or it ends. -/
theorem files_withValue
    {value : Except Fault α}
    {next : α → Plan}
    (hNext :
      ∀ a, value = .ok a →
        (next a).Files output formatters elements) :
    (withValue value next).Files output formatters
      elements := by
  cases value with
  | ok a => exact hNext a rfl
  | error fault =>
      exact files_failure output formatters elements fault

/- Quiet steps touch nothing more. -/
theorem Files.before
    {steps : List Step}
    (hPlan : plan.Files output formatters elements)
    (hQuiet : ∀ step ∈ steps, step.IsQuiet) :
    (plan.before steps).Files output formatters elements := by
  constructor
  · intro step hMember
    rcases List.mem_append.mp hMember with hFirst | hRest
    · have hStep := hQuiet step hFirst
      cases step with
      | print text => trivial
      | log record => trivial
      | write path text => exact hStep.elim
      | format path formatter => exact hStep.elim
    · exact hPlan.within step hRest
  · intro code hEnding element hElement
    rcases hPlan.complete code hEnding element hElement with
      ⟨write, hWritten, hPath⟩
    refine ⟨write, ?_, hPath⟩
    unfold Plan.before
    rw [written_append]
    exact List.mem_append_right _ hWritten

/- Printing touches nothing. -/
theorem Files.printing
    (hPlan : plan.Files output formatters elements)
    (line : Except Fault String) :
    (plan.printing line).Files output formatters elements := by
  refine files_withValue fun shown _ => ?_
  exact hPlan.before (by simp [Step.IsQuiet])

/- Nor does logging. -/
theorem Files.debugging
    (hPlan : plan.Files output formatters elements)
    (verbose : Bool)
    (messages : List String) :
    (plan.debugging verbose messages).Files output formatters
      elements := by
  rcases exists_debugging verbose messages plan with
    ⟨logged, hLogged⟩
  rw [hLogged]
  exact hPlan.before (by simp [Step.IsQuiet])

/- Steps on the file of an element are for one element more. -/
theorem Files.onFile
    {element : Element}
    {path : Path}
    {steps : List Step}
    (hPlan : plan.Files output formatters elements)
    (hPath : element.path output = .ok path)
    (hSteps :
      ∀ step ∈ steps, step.StaysWithin (· = path) formatters)
    (hWrites : ∃ write ∈ written steps, write.1 = path) :
    (plan.before steps).Files output formatters
      (element :: elements) := by
  have hFirst :
      ∀ other, other = path →
        Element.IsFileOf output (element :: elements) other := by
    rintro other rfl
    exact ⟨element, List.mem_cons_self, hPath⟩
  have hLater :
      ∀ other, Element.IsFileOf output elements other →
        Element.IsFileOf output (element :: elements) other := by
    rintro other ⟨later, hMember, hOther⟩
    exact ⟨later, List.mem_cons_of_mem element hMember, hOther⟩
  constructor
  · intro step hMember
    rcases List.mem_append.mp hMember with hHere | hThere
    · exact (hSteps step hHere).mono hFirst
    · exact (hPlan.within step hThere).mono hLater
  · intro code hEnding other hOther
    unfold Plan.before
    rw [written_append]
    rcases List.mem_cons.mp hOther with rfl | hRest
    · rcases hWrites with ⟨write, hWritten, rfl⟩
      exact ⟨write, List.mem_append_left _ hWritten, hPath⟩
    · rcases hPlan.complete code hEnding other hRest with
        ⟨write, hWritten, hSame⟩
      exact ⟨write, List.mem_append_right _ hWritten, hSame⟩

/- Carrying out such a plan touches these files only. -/
theorem Files.run_touches
    (hPlan : plan.Files output formatters elements)
    (hPlace :
      ∀ name, formatters name → programs.FormatsInPlace name)
    (tree : FileTree) :
    FileTree.Touches
      (fun location =>
        ∃ path, Element.IsFileOf output elements path ∧
          location = tree.locate path)
      tree (plan.run programs tree).tree :=
  runSteps_touches ⟨tree, "", [], plan.ending⟩ hPlace
    hPlan.within

/- If it ends with an exit code, all of them are there. -/
theorem Files.run_writes
    {tree : FileTree}
    {code : Nat}
    {element : Element}
    (hPlan : plan.Files output formatters elements)
    (hPlace :
      ∀ name, formatters name → programs.FormatsInPlace name)
    (hEnding : (plan.run programs tree).ending = .exit code)
    (hElement : element ∈ elements) :
    ∃ path text,
      element.path output = .ok path ∧
        FileTree.entry? (plan.run programs tree).tree
            (tree.locate path) =
          some (.file text) := by
  rcases runSteps_written ⟨tree, "", [], plan.ending⟩ hPlace
      hPlan.within hEnding with
    ⟨hExit, hWritten⟩
  rcases hPlan.complete code hExit element hElement with
    ⟨write, hWrite, hPath⟩
  rcases hWritten write hWrite with ⟨text, hFile⟩
  exact ⟨write.1, text, hPath, hFile⟩

end Plan

namespace GenerateOptions

variable {options : GenerateOptions}
variable {catalog : Catalog}

/- The formatters that options ask for: one, or none. -/
def AsksFor
    (options : GenerateOptions)
    (name : String) : Prop :=
  options.format = true ∧ name = options.formatter

/- Only elements that have a text have their files touched. -/
theorem files_writePlan
    {elements : List Element}
    {settled : List (Job × Rendering)}
    (console : Console)
    (total failures : Nat)
    (hSettled : List.Forall₂ catalog.Settles elements settled) :
    (options.writePlan console total failures settled).Files
      options.output options.AsksFor
      (elements.filter fun element =>
        (catalog.textOf element).isOk) := by
  induction hSettled generalizing failures with
  | nil =>
      exact (Plan.files_stop options.output _ _).printing _
  | @cons element first elements rest hFirst hRest ih =>
      rcases first with ⟨job, rendering⟩
      rw [List.filter_cons, hFirst.isOk_textOf]
      rcases hFirst with ⟨rfl, _⟩
      cases rendering with
      | error fault =>
          exact
            Plan.files_withValue fun name _ =>
              (ih (failures + 1)).printing _
      | ok text =>
          refine Plan.files_withValue fun path hPath => ?_
          refine (ih failures).onFile hPath ?_ ?_
          · cases hFormat : options.format with
            | false => simp [Step.StaysWithin]
            | true =>
                simp [Step.StaysWithin, AsksFor, hFormat]
          · exact ⟨(path, text), by simp [Plan.written], rfl⟩

/- So it is when they are rendered first. -/
theorem files_jobsPlan
    {jobs : List Job}
    (console : Console)
    (verbose : Bool)
    (hSelected :
      catalog.selected catalog.elementList options.only
        = .ok jobs) :
    (options.jobsPlan console verbose jobs).Files options.output
      options.AsksFor (catalog.rendered options.only) := by
  have hFiles :
      (Plan.withValue (renderAll options.jobs jobs)
        fun renderings =>
          options.writePlan console jobs.length 0
            (jobs.zip renderings)).Files options.output
        options.AsksFor (catalog.rendered options.only) := by
    refine Plan.files_withValue fun renderings hAll => ?_
    exact
      files_writePlan console jobs.length 0
        (Catalog.settles_of_renderInTurn
          (Catalog.forall₂_of_selected hSelected)
          (renderInTurn_of_renderAll hAll))
  unfold jobsPlan
  split
  · exact hFiles.debugging verbose _
  · exact hFiles

/-
  The plan for a catalog that is loaded touches the files of
  the elements that have a text, and no others.
-/
theorem files_plan
    (options : GenerateOptions)
    (console : Console)
    (verbose : Bool)
    (catalog : Catalog) :
    (options.plan console verbose (.ok catalog)).Files options.output
      options.AsksFor (options.rendered (.ok catalog)) := by
  refine Plan.Files.debugging ?_ verbose _
  refine Plan.files_withValue fun elements hNamed => ?_
  rw [Catalog.eq_elementList_of_namedElements hNamed]
  simp only [rendered, List.isEmpty_iff]
  split
  · refine Plan.files_withValue fun jobs hSelected => ?_
    exact files_jobsPlan console verbose hSelected
  · exact (Plan.files_stop options.output _ _).printing _

end GenerateOptions

------------------------------------------------------------
-- Locations
------------------------------------------------------------

/- A location is below the one of a path. -/
def FileTree.Under
    (tree : FileTree)
    (above : Path)
    (location : Location) : Prop :=
  ∃ below, below ≠ [] ∧ location = tree.locate above ++ below

/- The file of an element is below the directory for elements. -/
def Element.IsFiledUnder
    (tree : FileTree)
    (output : Path)
    (element : Element) : Prop :=
  ∃ path,
    element.path output = .ok path ∧
      tree.Under output.elements (tree.locate path)

/-
  The name of a file goes forward only: it starts with no
  slash, and no component of it goes up.
-/
def Element.GoesForward
    (name : String) : Prop :=
  (Path.ofString (Element.fileName name)).root = 0 ∧
    ".." ∉ (Path.ofString (Element.fileName name)).parts

/- Names without slashes do. -/
theorem Element.goesForward_of_no_slash
    {name : String}
    (hSlash : '/' ∉ name.toList) :
    Element.GoesForward name := by
  have hFile : '/' ∉ (Element.fileName name).toList := by
    intro hMember
    exact hSlash (Element.slash_mem_fileName hMember)
  rcases Element.fileName_is_component name with
    ⟨hEmpty, hDot, hUp⟩
  unfold Element.GoesForward
  rw [Path.ofString_of_no_slash hFile hEmpty hDot]
  exact ⟨rfl, by simpa using Ne.symm hUp⟩

/- Components that go nowhere else lead down one by one. -/
theorem FileTree.foldl_step_of_forward
    {parts : List String}
    (start : Location)
    (hParts :
      ∀ part ∈ parts, part ≠ "" ∧ part ≠ "." ∧ part ≠ "..") :
    parts.foldl step start = start ++ parts := by
  induction parts generalizing start with
  | nil => simp
  | cons part rest ih =>
      rw [List.forall_mem_cons] at hParts
      rcases hParts with ⟨⟨hEmpty, hDot, hUp⟩, hRest⟩
      have hStep : step start part = start ++ [part] := by
        simp [step, hEmpty, hDot, hUp]
      rw [List.foldl_cons, hStep, ih _ hRest]
      simp

/- What is joined leads on from a path, or replaces it. -/
theorem FileTree.locate_join
    (tree : FileTree)
    (path : Path)
    (s : String) :
    tree.locate (path.join s) =
      (Path.ofString s).parts.foldl step
        (if (Path.ofString s).root = 0 then
          tree.locate path
        else
          []) := by
  unfold locate Path.join
  by_cases hRelative : (Path.ofString s).root = 0
  · simp [hRelative]
  · simp [start, hRelative]

/- Components of a path are the parts that say something. -/
theorem Path.mem_parts_ofString_iff
    {s part : String} :
    part ∈ (Path.ofString s).parts ↔
      part ∈ (splitSlashes s.toList).map String.ofList ∧
        part ≠ "" ∧ part ≠ "." := by
  unfold Path.ofString
  rw [List.mem_filter]
  simp only [Bool.and_eq_true, decide_eq_true_eq]

/- The name of a file has a component that says something. -/
theorem Element.parts_fileName_ne_nil
    (name : String) :
    (Path.ofString (Element.fileName name)).parts ≠ [] := by
  have hLetter : 'z' ∈ (Element.fileName name).toList := by
    unfold Element.fileName
    rw [String.toList_append]
    exact List.mem_append_right _ (by decide)
  have hSlash : 'z' ≠ '/' := by decide
  rcases (Text.eq_or_mem_splitAtEach hLetter).resolve_left
      hSlash with
    ⟨part, hPart, hInside⟩
  have hSays :
      ∀ other : String, 'z' ∉ other.toList →
        String.ofList part ≠ other := by
    rintro other hNone rfl
    rw [String.toList_ofList] at hNone
    exact hNone hInside
  have hComponent :
      String.ofList part ∈
        (Path.ofString (Element.fileName name)).parts :=
    Path.mem_parts_ofString_iff.mpr
      ⟨List.mem_map_of_mem hPart, hSays "" (by decide),
        hSays "." (by decide)⟩
  exact List.ne_nil_of_mem hComponent

/-
  An element is filed under the directory for elements if the
  name of its file goes forward.
-/
theorem Element.isFiledUnder_of_forward
    (tree : FileTree)
    (output : Path)
    {element : Element}
    {name : String}
    (hName : element.name = some name)
    (hForward : Element.GoesForward name) :
    element.IsFiledUnder tree output := by
  rcases hForward with ⟨hRelative, hUp⟩
  have hParts :
      ∀ part ∈ (Path.ofString (Element.fileName name)).parts,
        part ≠ "" ∧ part ≠ "." ∧ part ≠ ".." := by
    intro part hPart
    rcases Path.mem_parts_ofString_iff.mp hPart with
      ⟨_, hEmpty, hDot⟩
    refine ⟨hEmpty, hDot, ?_⟩
    rintro rfl
    exact hUp hPart
  refine ⟨_, Element.path_eq_join output hName, _,
    Element.parts_fileName_ne_nil name, ?_⟩
  rw [tree.locate_join, if_pos hRelative]
  exact FileTree.foldl_step_of_forward _ hParts

------------------------------------------------------------
-- Runs
------------------------------------------------------------

/-
  A run for a catalog that is accepted touches the files of the
  elements that have a text, whatever their names are, and no
  others; if it ends with an exit code, all these files are
  there.  So all that it creates or overwrites is below the
  directory for elements if all these elements are filed there,
  and otherwise a file is written elsewhere.  An element is
  filed there if the name of its file goes forward, as it does
  if there is no slash in the name of the element.
-/
theorem runCommand_touches_rendered
    {programs : Programs}
    {environment : Environment}
    {tree : FileTree}
    {args : List String}
    {verbose : Bool}
    {options : GenerateOptions}
    {catalog : Catalog}
    (hParse :
      Invocation.parse tree.kind? environment.formatter args =
        .ok ⟨verbose, .generate options⟩)
    (hLoad : tree.loadCatalog options.input = .ok catalog)
    (hPlace :
      options.format = true →
        programs.FormatsInPlace options.formatter) :
    ∃ outcome,
      runCommand programs environment tree args =
          .ran outcome ∧
        (∀ step ∈
            (options.plan environment.console verbose
              (.ok catalog)).steps,
          step.StaysWithin
            (Element.IsFileOf options.output
              (options.rendered (.ok catalog)))
            options.AsksFor) ∧
        (∀ location entry,
          outcome.tree.entry? location = some entry →
            entry ≠ .directory →
              tree.entry? location ≠ some entry →
                ∃ element ∈ options.rendered (.ok catalog),
                  ∃ path,
                    element.path options.output = .ok path ∧
                      location = tree.locate path) ∧
        ((∀ element ∈ options.rendered (.ok catalog),
            element.IsFiledUnder tree options.output) →
          ∀ location entry,
            outcome.tree.entry? location = some entry →
              entry ≠ .directory →
                tree.entry? location ≠ some entry →
                  tree.Under options.output.elements
                    location) ∧
        (∀ code, outcome.ending = .exit code →
          ∀ element ∈ options.rendered (.ok catalog),
            ∃ path text,
              element.path options.output = .ok path ∧
                outcome.tree.entry? (tree.locate path) =
                  some (.file text)) ∧
        ∀ (element : Element) name, element.name = some name →
          (Element.GoesForward name →
            element.IsFiledUnder tree options.output) ∧
          ('/' ∉ name.toList → Element.GoesForward name) := by
  have hFiles :=
    options.files_plan environment.console verbose catalog
  have hPrograms :
      ∀ name, options.AsksFor name →
        programs.FormatsInPlace name := by
    rintro name ⟨hFormat, rfl⟩
    exact hPlace hFormat
  have hTouches := hFiles.run_touches hPrograms tree
  refine
    ⟨(options.plan environment.console verbose
        (.ok catalog)).run programs tree,
      ?_, hFiles.within, ?_, ?_, ?_, ?_⟩
  · unfold runCommand
    rw [hParse]
    unfold Command.plan
    simp only [hLoad]
  · intro location entry hEntry hFile hChanged
    rcases hTouches.of_changed hEntry hFile hChanged with
      ⟨path, ⟨element, hElement, hPath⟩, hLocation⟩
    exact ⟨element, hElement, path, hPath, hLocation⟩
  · intro hFiled location entry hEntry hFile hChanged
    rcases hTouches.of_changed hEntry hFile hChanged with
      ⟨path, ⟨element, hElement, hPath⟩, hLocation⟩
    rcases hFiled element hElement with ⟨filed, hSame, hUnder⟩
    rw [hPath, Except.ok.injEq] at hSame
    rw [← hSame] at hUnder
    rw [hLocation]
    exact hUnder
  · intro code hEnding element hElement
    exact hFiles.run_writes hPrograms hEnding hElement
  · intro element name hName
    exact
      ⟨Element.isFiledUnder_of_forward tree options.output
          hName,
        Element.goesForward_of_no_slash⟩

/- An element that is filed where it should be, and another. -/
def stray : Catalog :=
  ⟨some [],
    some
      [ some (sampleElement "Fine" []),
        some (sampleElement "../../Evil" []) ]⟩

/- The text of these elements. -/
def strayText : String :=
  catalogText
    [elementRecord "Fine" "", elementRecord "../../Evil" ""]

set_option maxRecDepth 4000 in
/- The text is that of the catalog. -/
theorem strayText_loads :
    Catalog.loadText strayText = .ok stray := by
  have hRead :
      Json.readChars (Text.unifyLineFeeds strayText.toList) =
        .ok (.object
          [ ("classes",
              .array
                [ elementValue "Fine" [],
                  elementValue "../../Evil" [] ]) ]) := by
    simp only [strayText, catalogText, elementRecord,
      sampleRecord, Text.joinWith, String.toList_append,
      String.reduceToList, List.cons_append, List.nil_append]
    rfl
  exact
    Catalog.loadText_eq_ok_iff.mpr
      ⟨_, hRead, by decide, by decide⟩

/- A run for both of them gets to what it generates. -/
theorem stray_plans
    {options : GenerateOptions}
    (hInput : options.input = "c.json")
    (hOnly : options.only = [])
    (hJobs : options.jobs = 1) :
    stray.Plans options (workplace strayText) := by
  refine ⟨?_, ?_, by decide, ?_⟩
  · rw [hJobs]
    decide
  · rw [hInput]
    exact workplace_loads strayText_loads
  · rw [hOnly]
    simp

/- Where the first one is written, -/
def finePath : Path :=
  ⟨0, ["out", "elements", "fine.zig"]⟩

/- and where the second one is. -/
def evilPath : Path :=
  ⟨0, ["out", "elements", "..", "..", "evil.zig"]⟩

/- Both have a text that can be encoded. -/
theorem exists_strayText
    {element : Element}
    (hElement : element ∈ stray.elementList) :
    ∃ text,
      stray.textOf element = .ok text ∧ Text.isWhole text := by
  have hNone :
      ∀ element ∈ stray.elementList,
        fault? (stray.textOf element) = none := by
    decide
  have hAscii :
      ∀ element ∈ stray.elementList,
        stray.IsAsciiAt element := by
    decide +kernel
  rcases fault?_eq_none_iff.mp (hNone element hElement) with
    ⟨text, hText⟩
  exact ⟨text, hText, (hAscii element hElement).isWhole hText⟩

/- Such a run writes both, and prints one line. -/
theorem stray_run
    (programs : Programs)
    {options : GenerateOptions}
    {args : List String}
    (hParse :
      Invocation.parse (workplace strayText).kind?
          Environment.plain.formatter args =
        .ok ⟨false, .generate options⟩)
    (hInput : options.input = "c.json")
    (hOutput : options.output = ⟨0, ["out"]⟩)
    (hOnly : options.only = [])
    (hJobs : options.jobs = 1) :
    ∃ log fine evil,
      Text.isWhole fine ∧ Text.isWhole evil ∧
        runCommand programs .plain (workplace strayText) args =
          .ran (Plan.runSteps programs (.exit 0)
            ⟨workplace strayText, "", log, .exit 0⟩
            (Catalog.writeSteps options finePath fine
              ++ (Catalog.writeSteps options evilPath evil
                ++ [.print "Generated 2 elements in out\n"]))) := by
  rcases (stray_plans hInput hOnly hJobs).exists_run programs
      hParse with
    ⟨log, settled, hRan, hSettled⟩
  have hWanted :
      stray.wanted [] =
        [ sampleElement "Fine" [],
          sampleElement "../../Evil" [] ] := by
    decide
  rcases exists_strayText
      (by decide : sampleElement "Fine" [] ∈ stray.elementList)
    with ⟨fine, hFine, hFirst⟩
  rcases exists_strayText
      (by decide :
        sampleElement "../../Evil" [] ∈ stray.elementList)
    with ⟨evil, hEvil, hSecond⟩
  have hFinePath :
      (sampleElement "Fine" []).path options.output =
        .ok finePath := by
    rw [hOutput]
    decide
  have hEvilPath :
      (sampleElement "../../Evil" []).path options.output =
        .ok evilPath := by
    rw [hOutput]
    decide
  have hLine :
      countLine Environment.plain.console 2 ⟨0, ["out"]⟩
          ++ "\n" =
        "Generated 2 elements in out\n" := by
    decide
  refine ⟨log, fine, evil, hFirst, hSecond, ?_⟩
  rw [hOnly, hWanted] at hSettled
  cases hSettled with
  | cons hFirst hRest =>
  cases hRest with
  | cons hSecond hRest =>
  cases hRest
  rw [hRan, hOnly, hWanted,
    hFirst.writePlan_text _ 0 _ hFinePath hFine,
    hSecond.writePlan_text _ 0 _ hEvilPath hEvil,
    Catalog.writePlan_nil _ _ (by rw [hOutput]; decide),
    hOutput, ← hLine]
  rfl

/- The system with a program that always fails stays in place. -/
theorem formatsInPlace_brokenPrograms :
    brokenPrograms.FormatsInPlace "broken" := by
  intro tree formatter path hFound
  rw [← Option.some.inj hFound]
  exact .refl tree

/- It leaves the tree as it is, and complains. -/
theorem format_brokenPrograms
    (tree : FileTree)
    {path : Path}
    (hFlaw : FileTree.flaw? path = none) :
    tree.format brokenPrograms "broken" path =
      .ok ⟨tree, false,
        [failedFormatter path " expected a brace\n"]⟩ := by
  unfold FileTree.format
  simp [brokenPrograms, hFlaw]

/- The workplace with the files of both elements. -/
def strewn
    (fine : String)
    (evil : List (Location × Entry)) : FileTree :=
  { workingDirectory := ["work"]
    entries :=
      evil
        ++ [ (["work", "out", "elements", "fine.zig"],
              .file fine),
             (["work", "out", "elements"], .directory),
             (["work", "out"], .directory),
             (["work"], .directory),
             (["work", "c.json"], .file strayText) ] }

/- The first file is made with its directory. -/
theorem workplace_strewn
    {fine : String}
    (hWhole : Text.isWhole fine) :
    (workplace strayText).writeText finePath fine =
      (strewn fine [], .ok ()) := by
  unfold FileTree.writeText FileTree.encoded
  simp only [if_pos hWhole]
  rfl

/- The second one is made outside of it. -/
theorem strewn_strewn
    {fine evil : String}
    (hWhole : Text.isWhole evil) :
    (strewn fine []).writeText evilPath evil =
      (strewn fine [(["work", "evil.zig"], .file evil)],
        .ok ()) := by
  unfold FileTree.writeText FileTree.encoded
  simp only [if_pos hWhole]
  rfl

/- Both files are there, and no other file is touched. -/
theorem stray_touches_two_files :
    ∃ outcome,
      runCommand brokenPrograms .plain (workplace strayText)
          (sampleArguments ["--fmt", "--zig", "broken"]) =
        .ran outcome ∧
      outcome.ending = .exit 0 ∧
      (∃ text,
        outcome.tree.entry? ["work", "evil.zig"] =
          some (.file text)) ∧
      ∀ location entry,
        outcome.tree.entry? location = some entry →
          entry ≠ .directory →
            FileTree.entry? (workplace strayText) location
                ≠ some entry →
              location ∈
                [ ["work", "out", "elements", "fine.zig"],
                  ["work", "evil.zig"] ] := by
  have hParse :
      Invocation.parse (workplace strayText).kind?
          Environment.plain.formatter
          (sampleArguments ["--fmt", "--zig", "broken"]) =
        .ok ⟨false,
          .generate ((sampleOptions [] 1).formattingWith
            "broken")⟩ := rfl
  have hRendered :
      ((sampleOptions [] 1).formattingWith "broken").rendered
          (.ok stray) = stray.elementList := by
    decide +kernel
  have hLocated :
      ∀ element ∈ stray.elementList,
        ∀ path ∈ (element.path ⟨0, ["out"]⟩).toOption,
          (workplace strayText).locate path ∈
            [ ["work", "out", "elements", "fine.zig"],
              ["work", "evil.zig"] ] := by
    decide
  have hEvil :
      (sampleElement "../../Evil" []).path ⟨0, ["out"]⟩ =
        .ok evilPath := by
    decide
  rcases runCommand_touches_rendered hParse
      (workplace_loads strayText_loads)
      (fun _ => formatsInPlace_brokenPrograms) with
    ⟨outcome, hRun, _, hTouched, _, hWritten, _⟩
  rw [hRendered] at hTouched hWritten
  have hEnding : outcome.ending = .exit 0 := by
    rcases stray_run brokenPrograms hParse rfl rfl rfl rfl with
      ⟨log, fine, evil, hFirst, hSecond, hRan⟩
    rw [hRan] at hRun
    have hFine : FileTree.flaw? finePath = none := by
      decide
    have hEvil : FileTree.flaw? evilPath = none := by
      decide
    have hLine :
        Text.isWhole "Generated 2 elements in out\n" := by
      decide
    rw [← RunResult.ran.inj hRun]
    simp only [Catalog.writeSteps,
      GenerateOptions.format_formattingWith,
      GenerateOptions.formatter_formattingWith, if_true,
      List.cons_append, List.nil_append, Plan.runSteps,
      workplace_strewn hFirst, strewn_strewn hSecond,
      format_brokenPrograms _ hFine,
      format_brokenPrograms _ hEvil, hLine]
  refine ⟨outcome, hRun, hEnding, ?_, ?_⟩
  · rcases hWritten 0 hEnding (sampleElement "../../Evil" [])
        (by decide) with
      ⟨path, text, hPath, hFile⟩
    rw [show path = _ from
      Except.ok.inj (hPath.symm.trans hEvil)] at hFile
    exact ⟨text, hFile⟩
  · intro location entry hEntry hFile hChanged
    rcases hTouched location entry hEntry hFile hChanged with
      ⟨element, hElement, path, hPath, rfl⟩
    exact hLocated element hElement path (by
      rw [show element.path ⟨0, ["out"]⟩ = .ok path from hPath]
      rfl)

/-
  The name of an accepted element leads out of the directory
  for elements, and out of the output directory.
-/
theorem stray_leaves_its_directory :
    Catalog.loadText strayText = .ok stray ∧
      FileTree.entry? (workplace strayText)
        ["work", "evil.zig"] = none ∧
      ((runCommand Programs.none .plain (workplace strayText)
            (sampleArguments [])).tree
          (workplace strayText)).entries.map (·.1) =
        [ ["work", "evil.zig"],
          ["work", "out", "elements", "fine.zig"],
          ["work", "out", "elements"], ["work", "out"],
          ["work"], ["work", "c.json"] ] ∧
      ¬ (workplace strayText).Under
        (Path.elements ⟨0, ["out"]⟩) ["work", "evil.zig"] := by
  refine ⟨strayText_loads, rfl, ?_, ?_⟩
  · have hParse :
        Invocation.parse (workplace strayText).kind?
            Environment.plain.formatter (sampleArguments []) =
          .ok ⟨false, .generate (sampleOptions [] 1)⟩ := rfl
    rcases stray_run Programs.none hParse rfl rfl rfl rfl with
      ⟨log, fine, evil, hFirst, hSecond, hRan⟩
    rw [hRan]
    simp only [RunResult.tree, Catalog.writeSteps, sampleOptions,
      Bool.false_eq_true, if_false, List.cons_append,
      List.nil_append, Plan.runSteps, workplace_strewn hFirst,
      strewn_strewn hSecond]
    split
    · rfl
    · rfl
  · rintro ⟨below, _, hSplit⟩
    have hPrefix :
        (workplace strayText).locate
            (Path.elements ⟨0, ["out"]⟩)
          <+: ["work", "evil.zig"] :=
      ⟨below, hSplit.symm⟩
    revert hPrefix
    decide

end ElementBindings
