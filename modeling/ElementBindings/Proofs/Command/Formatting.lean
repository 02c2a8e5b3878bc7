import ElementBindings.Proofs.Command.Refusal

/-
  Formatting that does nothing.

  A run that formats takes the steps of a run that does not,
  with one step more behind every file that it writes.  If the
  formatter is missing, or if it fails and leaves all files
  alone, such a step only warns about the file.  So the files,
  the output and the ending stay the same, and the log gets
  one warning for every element that has a text.

  Key definitions include:
    * `Programs.FormatsNothing`, `Programs.Warns`
    * `Step.formatted`, `Plan.formatted`
    * `GenerateOptions.formattingWith`
    * `GenerateOptions.rendered`

  Key theorems include:
    * `GenerateOptions.plan_formattingWith`
    * `Plan.runSteps_formatted`, `Plan.LogsFirst.run_formatted`
    * `GenerateOptions.logsFirst_plan`
    * `runCommand_formattingWith`
-/

namespace ElementBindings

------------------------------------------------------------
-- Formatters That Do Nothing
------------------------------------------------------------

/- Writing a text turns one tree into another. -/
def FileTree.Writes
    (before after : FileTree) : Prop :=
  ∃ path text, after = (before.writeText path text).1

/-
  While texts are written to a tree, a program of a name fails
  wherever it is found, and leaves all files as they are.
-/
def Programs.FormatsNothing
    (programs : Programs)
    (name : String)
    (tree : FileTree) : Prop :=
  ∀ made formatter,
    Relation.ReflTransGen FileTree.Writes tree made →
      programs made name = some formatter →
        ∀ path,
          (formatter made path).succeeded = false ∧
            (formatter made path).tree = made

/-
  A record warns that the file at a path is not formatted: no
  program of the name was found, or the program failed.
-/
inductive Programs.Warns
    (programs : Programs)
    (name : String)
    (path : Path) :
    LogRecord →
    Prop where
  | missing
      (tree : FileTree)
      (hMissing : programs tree name = Option.none) :
      Warns programs name path
        ⟨.warning, missingFormatter name path⟩
  | failed
      (tree : FileTree)
      (formatter : Formatter)
      (hFound : programs tree name = some formatter)
      (hFailed : (formatter tree path).succeeded = false) :
      Warns programs name path
        ⟨.warning,
          failedFormatter path (formatter tree path).complaint⟩

variable {programs : Programs}
variable {name : String}

/- Such a warning names the file. -/
theorem Programs.Warns.names_file
    {path : Path}
    {record : LogRecord}
    (hWarns : Programs.Warns programs name path record) :
    path.text.toList <:+: record.message.toList := by
  cases hWarns with
  | missing tree hMissing =>
      unfold missingFormatter
      rw [String.toList_append]
      exact (List.suffix_append _ _).isInfix
  | failed tree formatter hFound hFailed =>
      unfold failedFormatter
      rw [String.toList_append, String.toList_append,
        String.toList_append, List.append_assoc,
        List.append_assoc]
      exact List.infix_append' _ _ _

/- A formatter that does nothing costs one warning. -/
theorem Programs.FormatsNothing.exists_warning
    {tree made : FileTree}
    {path : Path}
    (hNothing : Programs.FormatsNothing programs name tree)
    (hMade : Relation.ReflTransGen FileTree.Writes tree made)
    (hFlaw : FileTree.flaw? path = Option.none) :
    ∃ message,
      made.format programs name path =
          .ok ⟨made, false, [message]⟩ ∧
        Programs.Warns programs name path ⟨.warning, message⟩ := by
  unfold FileTree.format
  cases hFound : programs made name with
  | none => exact ⟨_, rfl, .missing made hFound⟩
  | some formatter =>
      rcases hNothing made formatter hMade hFound path with
        ⟨hFailed, hTree⟩
      exact
        ⟨failedFormatter path (formatter made path).complaint,
          by simp [hFlaw, hFailed, hTree],
          .failed made formatter hFound hFailed⟩

/- A path that was written to can be handed to a program. -/
theorem FileTree.flaw?_of_writeText
    {tree : FileTree}
    {path : Path}
    {text : String}
    (hWrite : (tree.writeText path text).2 = .ok ()) :
    flaw? path = none := by
  rcases writeText_ok hWrite with
    ⟨between, _, location, hResolve, _⟩
  exact (resolve_eq_ok_iff.mp hResolve).1.sound

------------------------------------------------------------
-- Formatting Steps
------------------------------------------------------------

/- A step, followed by formatting if it writes a file. -/
def Step.formatted
    (name : String) :
    Step →
    List Step
  | .write path text => [.write path text, .format path name]
  | step => [step]

/- A plan that formats every file that it writes. -/
def Plan.formatted
    (name : String)
    (plan : Plan) : Plan :=
  { plan with
    steps := plan.steps.flatMap (Step.formatted name) }

/- Options that ask for formatting, with a program of a name. -/
def GenerateOptions.formattingWith
    (options : GenerateOptions)
    (name : String) : GenerateOptions :=
  { options with
    format := true
    formatter := name }

namespace Plan

/- Formatting steps are put where they belong. -/
@[simp]
theorem formatted_before
    (steps : List Step)
    (plan : Plan) :
    (plan.before steps).formatted name =
      (plan.formatted name).before
        (steps.flatMap (Step.formatted name)) := by
  simp [formatted, before]

/- Nothing is formatted where nothing is done. -/
@[simp]
theorem formatted_stop
    (ending : Ending) :
    (stop ending).formatted name = stop ending :=
  rfl

/- Formatting does not concern values. -/
@[simp]
theorem formatted_withValue
    {α : Type}
    (value : Except Fault α)
    (next : α → Plan) :
    (withValue value next).formatted name =
      withValue value fun a => (next a).formatted name := by
  cases value <;> rfl

/- Lines are not formatted. -/
@[simp]
theorem formatted_printing
    (line : Except Fault String)
    (plan : Plan) :
    (plan.printing line).formatted name =
      (plan.formatted name).printing line := by
  unfold printing
  simp [Step.formatted]

/- Messages are not formatted. -/
theorem flatMap_formatted_messages
    (messages : List String) :
    (messages.map (Step.log ⟨.debug, ·⟩)).flatMap
        (Step.formatted name) =
      messages.map (Step.log ⟨.debug, ·⟩) := by
  rw [List.flatMap_map, List.map_eq_flatMap]
  rfl

/- Nor are they in front of a plan. -/
@[simp]
theorem formatted_debugging
    (verbose : Bool)
    (messages : List String)
    (plan : Plan) :
    (plan.debugging verbose messages).formatted name =
      (plan.formatted name).debugging verbose messages := by
  cases verbose with
  | false => rfl
  | true =>
      simp [debugging, flatMap_formatted_messages]

/- A catalog that is rejected makes nothing to format. -/
@[simp]
theorem formatted_withCatalog
    (console : Console)
    (verbose : Bool)
    (catalog : Except Fault Catalog)
    (next : Catalog → Plan) :
    (withCatalog console verbose catalog next).formatted name =
      withCatalog console verbose catalog
        fun loaded => (next loaded).formatted name := by
  cases catalog with
  | ok loaded => simp [withCatalog]
  | error fault => cases fault <;> simp [withCatalog]

end Plan

namespace GenerateOptions

variable {options : GenerateOptions}

/- Formatting is asked for, -/
@[simp]
theorem format_formattingWith :
    (options.formattingWith name).format = true :=
  rfl

/- with this program; -/
@[simp]
theorem formatter_formattingWith :
    (options.formattingWith name).formatter = name :=
  rfl

/- the output directory, -/
@[simp]
theorem output_formattingWith :
    (options.formattingWith name).output = options.output :=
  rfl

/- the names that are wanted -/
@[simp]
theorem only_formattingWith :
    (options.formattingWith name).only = options.only :=
  rfl

/- and the number of jobs stay what they are. -/
@[simp]
theorem jobs_formattingWith :
    (options.formattingWith name).jobs = options.jobs :=
  rfl

/- Writing is followed by formatting, if it is asked for. -/
theorem writePlan_formattingWith
    (console : Console)
    (total failures : Nat)
    (settled : List (Job × Rendering))
    (hFormat : options.format = false) :
    (options.formattingWith name).writePlan console total
        failures settled =
      (options.writePlan console total failures
        settled).formatted name := by
  induction settled generalizing failures with
  | nil => simp [writePlan]
  | cons first rest ih =>
      rcases first with ⟨job, rendering⟩
      cases rendering with
      | error fault => simp [writePlan, ih]
      | ok text =>
          simp [writePlan, ih, hFormat, Step.formatted]

/-
  The plan of a run that formats is the one of the run that
  does not, formatting every file that is written.
-/
theorem plan_formattingWith
    (console : Console)
    (verbose : Bool)
    (loaded : Except Fault Catalog)
    (hFormat : options.format = false) :
    (options.formattingWith name).plan console verbose loaded =
      (options.plan console verbose loaded).formatted
        name := by
  have hJobs :
      (options.formattingWith name).jobsPlan console verbose =
        fun jobs =>
          (options.jobsPlan console verbose jobs).formatted
            name := by
    funext jobs
    simp only [jobsPlan, jobs_formattingWith,
      writePlan_formattingWith _ _ _ _ hFormat]
    split <;> simp
  unfold plan
  simp only [hJobs, only_formattingWith,
    Plan.formatted_withCatalog, Plan.formatted_withValue]
  congr 1
  funext catalog
  congr 1
  funext elements
  split <;> simp

end GenerateOptions

------------------------------------------------------------
-- Formatted Runs
------------------------------------------------------------

/-
  Printing and writing leave the log as it is.  They end as
  they should, or with the fault of a file or of a text.
-/
theorem Plan.runSteps_effects
    (programs : Programs)
    (ending : Ending)
    (outcome : Outcome)
    {steps : List Step}
    (hSteps : ∀ step ∈ steps, isEffect step) :
    (runSteps programs ending outcome steps).log
        = outcome.log ∧
      ∀ code,
        (runSteps programs ending outcome steps).ending
            = .exit code →
          ending = .exit code := by
  induction steps generalizing outcome with
  | nil => exact ⟨rfl, fun code hEnding => hEnding⟩
  | cons step rest ih =>
      rw [List.forall_mem_cons] at hSteps
      rcases hSteps with ⟨hStep, hRest⟩
      cases step with
      | print text =>
          rw [runSteps]
          split
          · exact ih _ hRest
          · refine ⟨rfl, fun code hEnding => ?_⟩
            cases hEnding
      | log record => simp [isEffect] at hStep
      | format path formatter => simp [isEffect] at hStep
      | write path text =>
          rw [runSteps]
          rcases outcome.tree.writeText path text with
            ⟨made, result⟩
          cases result with
          | error fault =>
              refine ⟨rfl, fun code hEnding => ?_⟩
              cases hEnding
          | ok done => exact ih _ hRest

/-
  If printing and writing succeed, they do the same when each
  file is formatted by a program that does nothing; the log
  then has one warning more for every file.
-/
theorem Plan.runSteps_formatted
    {ending : Ending}
    {code : Nat}
    {steps : List Step}
    {tree : FileTree}
    (outcome : Outcome)
    (logged : List LogRecord)
    (hNothing : Programs.FormatsNothing programs name tree)
    (hMade :
      Relation.ReflTransGen FileTree.Writes tree outcome.tree)
    (hSteps : ∀ step ∈ steps, isEffect step)
    (hEnding :
      (runSteps programs ending outcome steps).ending =
        .exit code) :
    ∃ warnings,
      runSteps programs ending { outcome with log := logged }
          (steps.flatMap (Step.formatted name)) =
        { runSteps programs ending outcome steps with
          log := logged ++ warnings } ∧
      List.Forall₂
        (fun write record =>
          Programs.Warns programs name write.1 record)
        (written steps) warnings := by
  induction steps generalizing outcome logged with
  | nil => exact ⟨[], by simp [runSteps], .nil⟩
  | cons step rest ih =>
      have hStep : isEffect step := hSteps step (by simp)
      have hRest : ∀ step ∈ rest, isEffect step := by
        intro later hLater
        exact hSteps later (List.mem_cons_of_mem step hLater)
      cases step with
      | print text =>
          by_cases hWhole : Text.isWhole text
          · rw [runSteps, if_pos hWhole] at hEnding ⊢
            rw [List.flatMap_cons]
            simp only [Step.formatted, List.cons_append,
              List.nil_append, runSteps, if_pos hWhole]
            exact
              ih
                { outcome with
                  output := outcome.output ++ text }
                logged hMade hRest hEnding
          · rw [runSteps, if_neg hWhole] at hEnding
            cases hEnding
      | log record => simp [isEffect] at hStep
      | format path formatter => simp [isEffect] at hStep
      | write path text =>
          rcases hWrite : outcome.tree.writeText path text with
            ⟨made, result⟩
          rw [runSteps, hWrite] at hEnding
          cases result with
          | error fault => cases hEnding
          | ok done =>
              have hFlaw : FileTree.flaw? path = none :=
                FileTree.flaw?_of_writeText
                  (congrArg Prod.snd hWrite)
              have hNext :
                  Relation.ReflTransGen FileTree.Writes tree
                    made :=
                hMade.tail
                  ⟨path, text, (congrArg Prod.fst hWrite).symm⟩
              rcases hNothing.exists_warning hNext hFlaw with
                ⟨message, hFormat, hWarns⟩
              rcases ih { outcome with tree := made }
                  (logged ++ [⟨.warning, message⟩]) hNext
                  hRest hEnding with
                ⟨warnings, hRun, hEach⟩
              refine
                ⟨⟨.warning, message⟩ :: warnings, ?_,
                  .cons hWarns hEach⟩
              rw [List.flatMap_cons]
              simp only [Step.formatted, List.cons_append,
                List.nil_append, runSteps, hWrite, hFormat,
                List.map_cons, List.map_nil]
              rw [hRun]
              simp

------------------------------------------------------------
-- Plans Without Formatting
------------------------------------------------------------

/-
  A plan that prints and writes.  If it can end with an exit
  code, it writes one file for each of some elements.
-/
structure Plan.Places
    (output : Path)
    (elements : List Element)
    (plan : Plan) : Prop where
  effects : ∀ step ∈ plan.steps, isEffect step
  files :
    ∀ code, plan.ending = .exit code →
      List.Forall₂
        (fun element write =>
          element.path output = .ok write.1)
        elements (written plan.steps)

/- A plan that has a property, behind some debug messages. -/
def Plan.LogsFirst
    (property : Plan → Prop)
    (plan : Plan) : Prop :=
  ∃ (messages : List String) (inner : Plan),
    plan = inner.before (messages.map (.log ⟨.debug, ·⟩)) ∧
      property inner

namespace Plan

variable {α : Type}
variable {plan : Plan}
variable {property : Plan → Prop}
variable {output : Path}
variable {elements : List Element}

/- A fault in the place of a plan places what is asked for. -/
theorem places_failure
    (output : Path)
    (elements : List Element)
    (fault : Fault) :
    (stop (.failure fault)).Places output elements :=
  ⟨by simp [stop], nofun⟩

/- Stopping places nothing. -/
theorem places_stop
    (output : Path)
    (ending : Ending) :
    (stop ending).Places output [] :=
  ⟨by simp [stop], fun _ _ => .nil⟩

/- A plan places the same with each value, or it ends. -/
theorem places_withValue
    {value : Except Fault α}
    {next : α → Plan}
    (hNext :
      ∀ a, value = .ok a → (next a).Places output elements) :
    (withValue value next).Places output elements := by
  cases value with
  | ok a => exact hNext a rfl
  | error fault => exact places_failure output elements fault

/- Printing places nothing. -/
theorem Places.printing
    (hPlan : plan.Places output elements)
    (line : Except Fault String) :
    (plan.printing line).Places output elements := by
  refine places_withValue fun shown _ => ?_
  constructor
  · intro step hMember
    rcases List.mem_cons.mp hMember with rfl | hRest
    · rfl
    · exact hPlan.effects step hRest
  · exact hPlan.files

/- A text is placed in the file of its element. -/
theorem Places.write
    {element : Element}
    {path : Path}
    (hPlan : plan.Places output elements)
    (hPath : element.path output = .ok path)
    (text : String) :
    (plan.before [.write path text]).Places output
      (element :: elements) := by
  constructor
  · intro step hMember
    rcases List.mem_cons.mp hMember with rfl | hRest
    · rfl
    · exact hPlan.effects step hRest
  · intro code hEnding
    exact .cons hPath (hPlan.files code hEnding)

/- There may be no messages at all. -/
theorem logsFirst_of
    (hPlan : property plan) :
    plan.LogsFirst property :=
  ⟨[], plan, rfl, hPlan⟩

/- There may be more messages. -/
theorem LogsFirst.debugging
    (hPlan : plan.LogsFirst property)
    (verbose : Bool)
    (messages : List String) :
    (plan.debugging verbose messages).LogsFirst property := by
  rcases hPlan with ⟨logged, inner, rfl, hInner⟩
  rcases exists_debugging verbose messages
      (inner.before (logged.map (.log ⟨.debug, ·⟩))) with
    ⟨first, hFirst⟩
  refine ⟨first ++ logged, inner, ?_, hInner⟩
  rw [hFirst]
  simp [before]

/- Where a value is a fault, there is nothing more to log. -/
theorem logsFirst_withValue
    {value : Except Fault α}
    {next : α → Plan}
    (hNext :
      ∀ a, value = .ok a →
        (next a).LogsFirst (Places output elements)) :
    (withValue value next).LogsFirst
      (Places output elements) := by
  cases value with
  | ok a => exact hNext a rfl
  | error fault =>
      exact logsFirst_of (places_failure output elements fault)

/- Without a catalog there is a line to print, or nothing. -/
theorem logsFirst_withCatalog
    {loaded : Except Fault Catalog}
    {next : Catalog → Plan}
    (console : Console)
    (verbose : Bool)
    (hRejected :
      ∀ fault, loaded = .error fault → elements = [])
    (hNext :
      ∀ catalog, loaded = .ok catalog →
        (next catalog).LogsFirst (Places output elements)) :
    (withCatalog console verbose loaded next).LogsFirst
      (Places output elements) := by
  cases loaded with
  | ok catalog => exact (hNext catalog rfl).debugging verbose _
  | error fault =>
      rw [hRejected fault rfl]
      apply logsFirst_of
      cases fault with
      | catalog reason =>
          exact (places_stop output _).printing _
      | _ => exact places_failure output [] _

end Plan

/- The wanted elements that have a text, in catalog order. -/
def Catalog.rendered
    (catalog : Catalog)
    (only : List String) : List Element :=
  (catalog.wanted only).filter fun element =>
    (catalog.textOf element).isOk

namespace GenerateOptions

variable {options : GenerateOptions}
variable {catalog : Catalog}

/-
  The elements whose texts a run gets to, in catalog order.
  Without a catalog there are none, and a name that nothing
  has ends a run before the first of them.
-/
def rendered
    (options : GenerateOptions)
    (loaded : Except Fault Catalog) : List Element :=
  match loaded with
  | .error _ => []
  | .ok catalog =>
      if unknownNames catalog.elementList options.only = [] then
        catalog.rendered options.only
      else
        []

/- The texts of the elements that have one are placed. -/
theorem places_writePlan
    {elements : List Element}
    {settled : List (Job × Rendering)}
    (console : Console)
    (total failures : Nat)
    (hFormat : options.format = false)
    (hSettled : List.Forall₂ catalog.Settles elements settled) :
    (options.writePlan console total failures settled).Places
      options.output
      (elements.filter fun element =>
        (catalog.textOf element).isOk) := by
  induction hSettled generalizing failures with
  | nil =>
      exact (Plan.places_stop options.output _).printing _
  | @cons element first elements rest hFirst hRest ih =>
      rcases first with ⟨job, rendering⟩
      rw [List.filter_cons, hFirst.isOk_textOf]
      rcases hFirst with ⟨rfl, _⟩
      cases rendering with
      | error fault =>
          exact
            Plan.places_withValue fun name _ =>
              (ih (failures + 1)).printing _
      | ok text =>
          refine Plan.places_withValue fun path hPath => ?_
          simp only [hFormat]
          exact (ih failures).write hPath text

/- So they are when they have been rendered. -/
theorem logsFirst_jobsPlan
    {jobs : List Job}
    (console : Console)
    (verbose : Bool)
    (hFormat : options.format = false)
    (hSelected :
      catalog.selected catalog.elementList options.only
        = .ok jobs) :
    (options.jobsPlan console verbose jobs).LogsFirst
      (Plan.Places options.output
        (catalog.rendered options.only)) := by
  have hPlaces :
      (Plan.withValue (renderAll options.jobs jobs)
        fun renderings =>
          options.writePlan console jobs.length 0
            (jobs.zip renderings)).Places options.output
        (catalog.rendered options.only) := by
    refine Plan.places_withValue fun renderings hAll => ?_
    exact
      places_writePlan console jobs.length 0 hFormat
        (Catalog.settles_of_renderInTurn
          (Catalog.forall₂_of_selected hSelected)
          (renderInTurn_of_renderAll hAll))
  unfold jobsPlan
  split
  · exact (Plan.logsFirst_of hPlaces).debugging verbose _
  · exact Plan.logsFirst_of hPlaces

/-
  Without formatting, a plan logs, and then prints and writes:
  one file for every element that has a text.
-/
theorem logsFirst_plan
    (console : Console)
    (verbose : Bool)
    (loaded : Except Fault Catalog)
    (hFormat : options.format = false) :
    (options.plan console verbose loaded).LogsFirst
      (Plan.Places options.output
        (options.rendered loaded)) := by
  unfold plan
  refine Plan.logsFirst_withCatalog console verbose ?_ ?_
  · rintro fault rfl
    rfl
  · rintro catalog rfl
    refine Plan.logsFirst_withValue fun elements hNamed => ?_
    rw [Catalog.eq_elementList_of_namedElements hNamed]
    simp only [rendered, List.isEmpty_iff]
    split
    · refine Plan.logsFirst_withValue fun jobs hSelected => ?_
      exact logsFirst_jobsPlan console verbose hFormat hSelected
    · exact
        Plan.logsFirst_of
          ((Plan.places_stop options.output _).printing _)

end GenerateOptions

------------------------------------------------------------
-- Runs
------------------------------------------------------------

/- Two lists that match a third one match each other. -/
theorem forall₂_comp
    {α β γ : Type}
    {first : α → β → Prop}
    {second : β → γ → Prop}
    {as : List α}
    {bs : List β}
    {cs : List γ}
    (hFirst : List.Forall₂ first as bs)
    (hSecond : List.Forall₂ second bs cs) :
    List.Forall₂
      (fun a c => ∃ b, first a b ∧ second b c) as cs := by
  induction hFirst generalizing cs with
  | nil =>
      cases hSecond
      exact .nil
  | cons hHead hTail ih =>
      cases hSecond with
      | cons hNext hRest => exact .cons ⟨_, hHead, hNext⟩ (ih hRest)

/-
  A plan that writes the files of some elements, and formats
  them with a program that does nothing, does what it does
  without formatting.  It only adds a warning for each of the
  elements, which names its file.
-/
theorem Plan.LogsFirst.run_formatted
    {plan : Plan}
    {output : Path}
    {elements : List Element}
    {tree : FileTree}
    {code : Nat}
    (hPlan : plan.LogsFirst (Places output elements))
    (hNothing : Programs.FormatsNothing programs name tree)
    (hEnding : (plan.run programs tree).ending = .exit code) :
    ∃ warnings,
      (plan.formatted name).run programs tree =
          { plan.run programs tree with
            log := (plan.run programs tree).log ++ warnings } ∧
        List.Forall₂
          (fun element record =>
            ∃ path, element.path output = .ok path ∧
              Programs.Warns programs name path record ∧
              path.text.toList <:+: record.message.toList)
          elements warnings := by
  rcases hPlan with ⟨messages, inner, rfl, hPlaces⟩
  rw [run_before_messages] at hEnding ⊢
  rcases runSteps_formatted _ (messages.map (⟨.debug, ·⟩))
      hNothing .refl hPlaces.effects hEnding with
    ⟨warnings, hWarned, hEach⟩
  rcases runSteps_effects programs inner.ending
      ⟨tree, "", messages.map (⟨.debug, ·⟩), inner.ending⟩
      hPlaces.effects with
    ⟨hLog, hExit⟩
  refine ⟨warnings, ?_, ?_⟩
  · rw [formatted_before, flatMap_formatted_messages,
      run_before_messages, hLog]
    exact hWarned
  · have hFiles := hPlaces.files code (hExit code hEnding)
    refine (forall₂_comp hFiles hEach).imp ?_
    rintro element record ⟨write, hPath, hWarns⟩
    exact ⟨write.1, hPath, hWarns, hWarns.names_file⟩

/-
  A run that formats with a program that does nothing leaves
  the files, the output and the ending of the run that does
  not format, if that one ends with an exit code.  It also
  logs one warning for each element that has a text, in
  catalog order, and the warning names the file.
-/
theorem runCommand_formattingWith
    {environment : Environment}
    {tree : FileTree}
    {plainArgs args : List String}
    {verbose : Bool}
    {options : GenerateOptions}
    {outcome : Outcome}
    {code : Nat}
    (hNothing : Programs.FormatsNothing programs name tree)
    (hFormat : options.format = false)
    (hPlain :
      Invocation.parse tree.kind? environment.formatter
          plainArgs =
        .ok ⟨verbose, .generate options⟩)
    (hParse :
      Invocation.parse tree.kind? environment.formatter args =
        .ok ⟨verbose,
          .generate (options.formattingWith name)⟩)
    (hRun :
      runCommand programs environment tree plainArgs =
        .ran outcome)
    (hEnding : outcome.ending = .exit code) :
    ∃ warnings,
      runCommand programs environment tree args =
          .ran
            { outcome with log := outcome.log ++ warnings } ∧
        List.Forall₂
          (fun element record =>
            ∃ path, element.path options.output = .ok path ∧
              Programs.Warns programs name path record ∧
              path.text.toList <:+: record.message.toList)
          (options.rendered (tree.loadCatalog options.input))
          warnings := by
  have hOutcome :
      (options.plan environment.console verbose
          (tree.loadCatalog options.input)).run programs tree =
        outcome := by
    unfold runCommand at hRun
    rw [hPlain] at hRun
    exact RunResult.ran.inj hRun
  have hFormatted :
      runCommand programs environment tree args =
        .ran (((options.plan environment.console verbose
          (tree.loadCatalog options.input)).formatted
            name).run programs tree) := by
    unfold runCommand
    rw [hParse,
      ← GenerateOptions.plan_formattingWith _ _ _ hFormat]
    rfl
  rw [← hOutcome] at hEnding
  rcases (GenerateOptions.logsFirst_plan environment.console
      verbose (tree.loadCatalog options.input)
        hFormat).run_formatted hNothing hEnding with
    ⟨warnings, hWarned, hEach⟩
  refine ⟨warnings, ?_, hEach⟩
  rw [hFormatted, hWarned, hOutcome]

/- A system with one program, which always fails. -/
def brokenPrograms : Programs :=
  fun _ called =>
    if called = "broken" then
      some fun tree _ => ⟨tree, false, " expected a brace\n"⟩
    else
      none

/- It formats nothing, -/
theorem formatsNothing_brokenPrograms
    (tree : FileTree) :
    Programs.FormatsNothing brokenPrograms "broken" tree := by
  intro made formatter _ hFound path
  rw [← Option.some.inj hFound]
  exact ⟨rfl, rfl⟩

/- and always complains about the same. -/
theorem message_of_warns_brokenPrograms
    {path : Path}
    {record : LogRecord}
    (hWarns :
      Programs.Warns brokenPrograms "broken" path record) :
    record.message =
      failedFormatter path " expected a brace\n" := by
  cases hWarns with
  | missing tree hMissing => cases hMissing
  | failed tree formatter hFound hFailed =>
      rw [← Option.some.inj hFound]

/- The one file that is written is the one that is warned of. -/
theorem trio_with_broken_formatter :
    ∃ outcome record,
      runCommand brokenPrograms .plain (workplace trioText)
          (sampleArguments
            ["--only", "Foo", "--only", "A\tB"]) =
        .ran outcome ∧
      outcome.ending = .exit 1 ∧
      runCommand brokenPrograms .plain (workplace trioText)
          (sampleArguments
            ["--only", "Foo", "--only", "A\tB", "--fmt",
              "--zig", "broken"]) =
        .ran { outcome with log := outcome.log ++ [record] } ∧
      record.message =
        "zig fmt failed for out/elements/foo.zig: "
          ++ "expected a brace" := by
  have hGenerates :
      trio.Generates (sampleOptions ["Foo", "A\tB"] 1)
        Environment.plain.console (workplace trioText) :=
    trio_generates (by decide) (by decide)
  have hPlain :
      Invocation.parse (workplace trioText).kind?
          Environment.plain.formatter
          (sampleArguments ["--only", "Foo", "--only", "A\tB"]) =
        .ok ⟨false,
          .generate (sampleOptions ["Foo", "A\tB"] 1)⟩ := rfl
  have hParse :
      Invocation.parse (workplace trioText).kind?
          Environment.plain.formatter
          (sampleArguments
            ["--only", "Foo", "--only", "A\tB", "--fmt",
              "--zig", "broken"]) =
        .ok ⟨false,
          .generate ((sampleOptions ["Foo", "A\tB"]
            1).formattingWith "broken")⟩ := rfl
  rcases hGenerates.run brokenPrograms hPlain with
    ⟨outcome, hRun, _, _, hEnding⟩
  have hExit : outcome.ending = .exit 1 := by
    rw [hEnding]
    decide
  have hRendered :
      (sampleOptions ["Foo", "A\tB"] 1).rendered
          ((workplace trioText).loadCatalog
            (sampleOptions ["Foo", "A\tB"] 1).input) =
        [sampleElement "Foo" []] := by
    rw [hGenerates.loads]
    decide +kernel
  rcases runCommand_formattingWith
      (formatsNothing_brokenPrograms _) rfl hPlain hParse
      hRun hExit with
    ⟨warnings, hFormatted, hEach⟩
  rw [hRendered] at hEach
  rcases List.forall₂_cons_left_iff.mp hEach with
    ⟨record, rest, ⟨path, hPath, hWarns, _⟩, hRest, rfl⟩
  cases hRest
  have hFoo :
      Element.path ⟨0, ["out"]⟩ (sampleElement "Foo" []) =
        .ok fooPath := by
    decide
  have hSame : path = fooPath :=
    Except.ok.inj (hPath.symm.trans hFoo)
  refine ⟨outcome, record, hRun, hExit, hFormatted, ?_⟩
  rw [message_of_warns_brokenPrograms hWarns, hSame]
  decide

end ElementBindings
