import ElementBindings.Proofs.Command.Generate

/-
  Runs that end before anything is written.

  A run writes only after its arguments are read, its catalog
  is loaded, all names are found and all wanted elements are
  rendered.  A run that one of these ends has failed, and all
  it did was to print and to log: no file and no directory is
  made or changed, whatever was rendered before, and by
  however many jobs.

  Key definitions include:
    * `Step.IsQuiet`, `Plan.Refuses`
    * `RunResult.Succeeds`
    * `EndsEarly`

  Key theorems include:
    * `Plan.Refuses.run`
    * `renderAll_ne_ok`
    * `runCommand_of_endsEarly`
-/

namespace ElementBindings

------------------------------------------------------------
-- Plans That Refuse
------------------------------------------------------------

/- A step that touches no file. -/
def Step.IsQuiet : Step → Prop
  | .print _ => True
  | .log _ => True
  | .write _ _ => False
  | .format _ _ => False

namespace Plan

variable {α : Type}
variable {plan : Plan}

/- A plan that touches no file and does not succeed. -/
structure Refuses
    (plan : Plan) : Prop where
  quiet : ∀ step ∈ plan.steps, step.IsQuiet
  fails : plan.ending ≠ .exit 0

/- Stopping at once refuses, unless it is a success. -/
theorem refuses_stop
    {ending : Ending}
    (hFails : ending ≠ .exit 0) :
    (stop ending).Refuses :=
  ⟨by simp [stop], hFails⟩

/- A plan refuses if it does so with each value it may get. -/
theorem refuses_withValue
    {value : Except Fault α}
    {next : α → Plan}
    (hNext : ∀ a, value = .ok a → (next a).Refuses) :
    (withValue value next).Refuses := by
  cases value with
  | ok a => exact hNext a rfl
  | error fault => exact refuses_stop (by simp)

/- Quiet steps may be put before a plan that refuses. -/
theorem Refuses.before
    {steps : List Step}
    (hPlan : plan.Refuses)
    (hQuiet : ∀ step ∈ steps, step.IsQuiet) :
    (plan.before steps).Refuses := by
  refine ⟨?_, hPlan.fails⟩
  intro step hMember
  rcases List.mem_append.mp hMember with hFirst | hRest
  · exact hQuiet step hFirst
  · exact hPlan.quiet step hRest

/- A plan that refuses may print first. -/
theorem Refuses.printing
    (hPlan : plan.Refuses)
    (line : Except Fault String) :
    (plan.printing line).Refuses := by
  refine refuses_withValue fun shown _ => ?_
  exact hPlan.before (by simp [Step.IsQuiet])

/- A plan that refuses may log first. -/
theorem Refuses.debugging
    (hPlan : plan.Refuses)
    (verbose : Bool)
    (messages : List String) :
    (plan.debugging verbose messages).Refuses := by
  rcases exists_debugging verbose messages plan with
    ⟨logged, hLogged⟩
  rw [hLogged]
  exact hPlan.before (by simp [Step.IsQuiet])

/-
  Without a catalog nothing is done, and with one it is as if
  it had been given.
-/
theorem refuses_withCatalog
    {console : Console}
    {verbose : Bool}
    {catalog : Except Fault Catalog}
    {next : Catalog → Plan}
    (hNext :
      ∀ loaded, catalog = .ok loaded → (next loaded).Refuses) :
    (withCatalog console verbose catalog next).Refuses := by
  cases catalog with
  | ok loaded => exact (hNext loaded rfl).debugging verbose _
  | error fault =>
      cases fault with
      | catalog reason =>
          exact (refuses_stop (by simp)).printing _
      | _ => exact refuses_stop (by simp)

/-
  Quiet steps leave the tree, and do not turn a failure into a
  success: they end as they should, or with a line that cannot
  be encoded.
-/
theorem runSteps_of_quiet
    (programs : Programs)
    {ending : Ending}
    (outcome : Outcome)
    {steps : List Step}
    (hQuiet : ∀ step ∈ steps, step.IsQuiet)
    (hFails : ending ≠ .exit 0) :
    (runSteps programs ending outcome steps).tree
        = outcome.tree ∧
      (runSteps programs ending outcome steps).ending
        ≠ .exit 0 := by
  induction steps generalizing outcome with
  | nil => exact ⟨rfl, hFails⟩
  | cons step rest ih =>
      rw [List.forall_mem_cons] at hQuiet
      rcases hQuiet with ⟨hStep, hRest⟩
      cases step with
      | print text =>
          rw [runSteps]
          split
          · exact ih _ hRest
          · exact ⟨rfl, by simp⟩
      | log record => exact ih _ hRest
      | write path text => exact hStep.elim
      | format path formatter => exact hStep.elim

/- A plan that refuses leaves the tree, and does not succeed. -/
theorem Refuses.run
    (hPlan : plan.Refuses)
    (programs : Programs)
    (tree : FileTree) :
    (plan.run programs tree).tree = tree ∧
      (plan.run programs tree).ending ≠ .exit 0 :=
  runSteps_of_quiet programs ⟨tree, "", [], plan.ending⟩
    hPlan.quiet hPlan.fails

end Plan

------------------------------------------------------------
-- Elements That Cannot Be Rendered
------------------------------------------------------------

/- Only a dispatch fault is kept as a result. -/
theorem settle_eq_error
    {result : Except Fault String}
    {fault : Fault}
    (hFault : result = .error fault)
    (hOther : ∀ reason, fault ≠ .dispatch reason) :
    settle result = .error fault := by
  rw [hFault]
  cases fault with
  | dispatch reason => exact absurd rfl (hOther reason)
  | _ => rfl

/-
  A job with another fault leaves all jobs without result, with
  any number of workers, and whatever the other jobs give.
-/
theorem renderAll_ne_ok
    {jobs : List Job}
    {job : Job}
    {fault : Fault}
    (workers : Int)
    (hMember : job ∈ jobs)
    (hFault : job.render = .error fault)
    (hOther : ∀ reason, fault ≠ .dispatch reason)
    (renderings : List Rendering) :
    renderAll workers jobs ≠ .ok renderings := by
  intro hAll
  have hTurn := renderInTurn_of_renderAll hAll
  unfold renderInTurn at hTurn
  rcases exists_value_of_mapM hTurn hMember with
    ⟨rendering, hSettled⟩
  rw [settle_eq_error hFault hOther] at hSettled
  simp at hSettled

namespace GenerateOptions

variable {options : GenerateOptions}
variable {catalog : Catalog}

/- Jobs one of which has another fault are refused. -/
theorem refuses_jobsPlan
    {jobs : List Job}
    {job : Job}
    {fault : Fault}
    (console : Console)
    (verbose : Bool)
    (hMember : job ∈ jobs)
    (hFault : job.render = .error fault)
    (hOther : ∀ reason, fault ≠ .dispatch reason) :
    (options.jobsPlan console verbose jobs).Refuses := by
  have hPlan :
      (Plan.withValue (renderAll options.jobs jobs)
        fun renderings =>
          options.writePlan console jobs.length 0
            (jobs.zip renderings)).Refuses := by
    refine Plan.refuses_withValue fun renderings hAll => ?_
    exact
      absurd hAll
        (renderAll_ne_ok options.jobs hMember hFault hOther
          renderings)
  unfold jobsPlan
  split
  · exact hPlan.debugging verbose (renderLog jobs)
  · exact hPlan

end GenerateOptions

------------------------------------------------------------
-- Catalogs
------------------------------------------------------------

namespace Catalog

variable {catalog : Catalog}
variable {elements : List Element}

/- The elements that can be named are those of the catalog. -/
theorem eq_elementList_of_namedElements
    (hNamed : catalog.namedElements = .ok elements) :
    elements = catalog.elementList := by
  unfold namedElements at hNamed
  rcases bind_eq_ok_iff.mp hNamed with
    ⟨items, hItems, hElements⟩
  rw [needed_eq_ok_iff] at hItems
  rw [mapM_needed_eq_ok_iff] at hElements
  simp [elementList, hItems, hElements, present]

/- Every wanted element is rendered by one of the jobs. -/
theorem exists_job_of_selected
    {only : List String}
    {jobs : List Job}
    {element : Element}
    (hSelected : catalog.selected elements only = .ok jobs)
    (hMember :
      element ∈ elements.filter (Element.isWanted only)) :
    ∃ job ∈ jobs, job.render = catalog.textOf element := by
  unfold selected at hSelected
  rcases exists_value_of_mapM hSelected hMember with
    ⟨job, hJob⟩
  refine ⟨job, mem_of_mapM hSelected hMember hJob, ?_⟩
  rcases bind_eq_ok_iff.mp hJob with ⟨parents, hParents, hPair⟩
  have hSame : (⟨element, parents⟩ : Job) = job :=
    Except.ok.inj hPair
  unfold textOf
  rw [hParents, ok_bind, ← hSame]
  rfl

end Catalog

/- The unknown names are the wanted ones that nothing has. -/
theorem mem_unknownNames_iff
    {elements : List Element}
    {only : List String}
    {name : String} :
    name ∈ unknownNames elements only ↔
      name ∈ only ∧
        ∀ element ∈ elements, element.name ≠ some name := by
  simp [unknownNames]

------------------------------------------------------------
-- Runs
------------------------------------------------------------

/- A run that ends with the exit code of a success. -/
def RunResult.Succeeds : RunResult → Prop
  | .misused _ => False
  | .ran outcome => outcome.ending = .exit 0

/-
  What ends a run before it writes: arguments that cannot be
  read, a catalog that cannot be loaded, the name of no
  element, or a wanted element with a fault that is more than
  a dispatch fault of its own.
-/
inductive EndsEarly
    (environment : Environment)
    (tree : FileTree)
    (args : List String) : Prop where
  | misused
      (fault : InvocationFault)
      (hParse :
        Invocation.parse tree.kind? environment.formatter args =
          .error fault)
  | rejected
      (verbose : Bool)
      (options : GenerateOptions)
      (fault : Fault)
      (hParse :
        Invocation.parse tree.kind? environment.formatter args =
          .ok ⟨verbose, .generate options⟩)
      (hLoad : tree.loadCatalog options.input = .error fault)
  | unknown
      (verbose : Bool)
      (options : GenerateOptions)
      (catalog : Catalog)
      (name : String)
      (hParse :
        Invocation.parse tree.kind? environment.formatter args =
          .ok ⟨verbose, .generate options⟩)
      (hLoad : tree.loadCatalog options.input = .ok catalog)
      (hName : name ∈ options.only)
      (hUnknown :
        ∀ element ∈ catalog.elementList,
          element.name ≠ some name)
  | unrendered
      (verbose : Bool)
      (options : GenerateOptions)
      (catalog : Catalog)
      (element : Element)
      (fault : Fault)
      (hParse :
        Invocation.parse tree.kind? environment.formatter args =
          .ok ⟨verbose, .generate options⟩)
      (hLoad : tree.loadCatalog options.input = .ok catalog)
      (hWanted : element ∈ catalog.wanted options.only)
      (hFault : catalog.textOf element = .error fault)
      (hOther : ∀ reason, fault ≠ .dispatch reason)

namespace GenerateOptions

variable {options : GenerateOptions}
variable {catalog : Catalog}

/- The name of no element is refused. -/
theorem refuses_plan_of_unknown
    {name : String}
    (console : Console)
    (verbose : Bool)
    (hName : name ∈ options.only)
    (hUnknown :
      ∀ element ∈ catalog.elementList,
        element.name ≠ some name) :
    (options.plan console verbose (.ok catalog)).Refuses := by
  refine Plan.refuses_withCatalog fun loaded hLoaded => ?_
  rw [← Except.ok.inj hLoaded]
  refine Plan.refuses_withValue fun elements hNamed => ?_
  have hMember :
      name ∈ unknownNames elements options.only := by
    rw [Catalog.eq_elementList_of_namedElements hNamed,
      mem_unknownNames_iff]
    exact ⟨hName, hUnknown⟩
  have hSome :
      ¬ (unknownNames elements options.only).isEmpty := by
    rw [List.isEmpty_iff]
    exact List.ne_nil_of_mem hMember
  simp only [if_neg hSome]
  exact (Plan.refuses_stop (by simp)).printing _

/- A wanted element with another fault is refused. -/
theorem refuses_plan_of_unrendered
    {element : Element}
    {fault : Fault}
    (console : Console)
    (verbose : Bool)
    (hWanted : element ∈ catalog.wanted options.only)
    (hFault : catalog.textOf element = .error fault)
    (hOther : ∀ reason, fault ≠ .dispatch reason) :
    (options.plan console verbose (.ok catalog)).Refuses := by
  refine Plan.refuses_withCatalog fun loaded hLoaded => ?_
  rw [← Except.ok.inj hLoaded]
  refine Plan.refuses_withValue fun elements hNamed => ?_
  simp only
  split
  · refine Plan.refuses_withValue fun jobs hSelected => ?_
    rw [Catalog.eq_elementList_of_namedElements hNamed]
      at hSelected
    rcases Catalog.exists_job_of_selected hSelected hWanted with
      ⟨job, hMember, hRender⟩
    rw [← hRender] at hFault
    exact
      refuses_jobsPlan console verbose hMember hFault hOther
  · exact (Plan.refuses_stop (by simp)).printing _

end GenerateOptions

/- A run whose plan refuses leaves the tree, and fails. -/
theorem runCommand_of_refuses
    (programs : Programs)
    {environment : Environment}
    {tree : FileTree}
    {args : List String}
    {verbose : Bool}
    {options : GenerateOptions}
    (hParse :
      Invocation.parse tree.kind? environment.formatter args =
        .ok ⟨verbose, .generate options⟩)
    (hPlan :
      (options.plan environment.console verbose
        (tree.loadCatalog options.input)).Refuses) :
    (runCommand programs environment tree args).tree tree
        = tree ∧
      ¬ (runCommand programs environment tree args).Succeeds := by
  have hRan :
      runCommand programs environment tree args =
        .ran ((options.plan environment.console verbose
          (tree.loadCatalog options.input)).run
            programs tree) := by
    unfold runCommand
    rw [hParse]
    rfl
  rw [hRan]
  exact hPlan.run programs tree

/-
  A run that is ended before it writes fails, and leaves every
  file and every directory as it was.
-/
theorem runCommand_of_endsEarly
    (programs : Programs)
    (environment : Environment)
    (tree : FileTree)
    (args : List String)
    (hEnds : EndsEarly environment tree args) :
    (runCommand programs environment tree args).tree tree
        = tree ∧
      ¬ (runCommand programs environment tree args).Succeeds := by
  cases hEnds with
  | misused fault hParse =>
      unfold runCommand
      rw [hParse]
      cases fault with
      | misuse fault => exact ⟨rfl, id⟩
      | path fault =>
          exact
            (Plan.refuses_stop (by simp)).run programs tree
  | rejected verbose options fault hParse hLoad =>
      refine runCommand_of_refuses programs hParse ?_
      rw [hLoad]
      exact Plan.refuses_withCatalog (by simp)
  | unknown verbose options catalog name hParse hLoad hName
      hUnknown =>
      refine runCommand_of_refuses programs hParse ?_
      rw [hLoad]
      exact
        GenerateOptions.refuses_plan_of_unknown _ verbose hName
          hUnknown
  | unrendered verbose options catalog element fault hParse
      hLoad hWanted hFault hOther =>
      refine runCommand_of_refuses programs hParse ?_
      rw [hLoad]
      exact
        GenerateOptions.refuses_plan_of_unrendered _ verbose
          hWanted hFault hOther

/- An element with text, one without, and one with null. -/
def mixed : Catalog :=
  ⟨some [],
    some
      [ some (sampleElement "Good" []),
        some (sampleElement "Unmapped" [some unmappedCallback]),
        some (sampleElement "Null" [none]) ]⟩

/- The text of these elements. -/
def mixedText : String :=
  catalogText
    [ elementRecord "Good" "",
      elementRecord "Unmapped"
        (sampleRecord
          ("\"name\":\"f\",\"attribute_name\":\"F\","
            ++ "\"return_type\":\"Unknown\"")),
      elementRecord "Null" "null" ]

set_option maxRecDepth 4000 in
/- The text is that of the catalog. -/
theorem mixedText_loads :
    Catalog.loadText mixedText = .ok mixed := by
  have hRead :
      Json.readChars (Text.unifyLineFeeds mixedText.toList) =
        .ok (.object
          [ ("classes",
              .array
                [ elementValue "Good" [],
                  elementValue "Unmapped"
                    [ .object
                        [ ("name", .text "f"),
                          ("attribute_name", .text "F"),
                          ("return_type",
                            .text "Unknown") ] ],
                  elementValue "Null" [.null] ]) ]) := by
    simp only [mixedText, catalogText, elementRecord,
      sampleRecord, Text.joinWith, String.toList_append,
      String.reduceToList, List.cons_append, List.nil_append]
    rfl
  exact
    Catalog.loadText_eq_ok_iff.mpr
      ⟨_, hRead, by decide, by decide⟩

/- A working directory with a catalog that is no text. -/
def spoiled : FileTree :=
  { workplace "" with
    entries :=
      [ (["work"], .directory),
        (["work", "c.json"], .binary [0x7B, 0xFF]) ] }

/-
  Two jobs render an element with text, one with a dispatch
  fault and one with null, and nothing is written; nor is it
  for an unknown name, a text that is no catalog, octets that
  are no text or a missing option.
-/
theorem runs_that_write_nothing :
    (∃ text,
      mixed.textOf (sampleElement "Good" []) = .ok text) ∧
    ((runCommand Programs.none .plain (workplace mixedText)
          (sampleArguments ["-j", "2"])).tree
        (workplace mixedText) = workplace mixedText ∧
      ¬ (runCommand Programs.none .plain (workplace mixedText)
          (sampleArguments ["-j", "2"])).Succeeds) ∧
    (runCommand Programs.none .plain (workplace mixedText)
          (sampleArguments ["--only", "Bad"])).tree
        (workplace mixedText) = workplace mixedText ∧
    (runCommand Programs.none .plain (workplace "[")
        (sampleArguments [])).tree (workplace "[") =
      workplace "[" ∧
    ((runCommand Programs.none .plain spoiled
          (sampleArguments [])).tree spoiled = spoiled ∧
      ¬ (runCommand Programs.none .plain spoiled
          (sampleArguments [])).Succeeds) ∧
    (runCommand Programs.none .plain (workplace "[")
        ["gen"]).tree (workplace "[") =
      workplace "[" := by
  have hGood :
      fault? (mixed.textOf (sampleElement "Good" [])) = none := by
    decide
  have hUnrendered :
      EndsEarly .plain (workplace mixedText)
        (sampleArguments ["-j", "2"]) :=
    .unrendered false (sampleOptions [] 2) mixed
      (sampleElement "Null" [none])
      (.null (.readField "arguments")) rfl
      (workplace_loads mixedText_loads) (by decide) rfl
      (by simp)
  have hUnknown :
      EndsEarly .plain (workplace mixedText)
        (sampleArguments ["--only", "Bad"]) :=
    .unknown false (sampleOptions ["Bad"] 1) mixed "Bad" rfl
      (workplace_loads mixedText_loads) (by decide) (by decide)
  have hRejected :
      EndsEarly .plain (workplace "[") (sampleArguments []) :=
    .rejected false (sampleOptions [] 1)
      (.catalog (.malformed (.decode
        (.text (.misplaced .value 1 2 1))))) rfl rfl
  have hSpoiled :
      ∃ fault, spoiled.loadCatalog "c.json" = .error fault :=
    ⟨_, rfl⟩
  have hMisused :
      EndsEarly .plain (workplace "[") ["gen"] :=
    .misused
      (.misuse ⟨.generate, .missingOption "'--input' / '-i'"⟩)
      rfl
  rcases hSpoiled with ⟨fault, hSpoiled⟩
  have hUndecodable :
      EndsEarly .plain spoiled (sampleArguments []) :=
    .rejected false (sampleOptions [] 1) fault rfl hSpoiled
  exact
    ⟨fault?_eq_none_iff.mp hGood,
      runCommand_of_endsEarly Programs.none .plain _ _
        hUnrendered,
      (runCommand_of_endsEarly Programs.none .plain _ _
        hUnknown).1,
      (runCommand_of_endsEarly Programs.none .plain _ _
        hRejected).1,
      runCommand_of_endsEarly Programs.none .plain _ _
        hUndecodable,
      (runCommand_of_endsEarly Programs.none .plain _ _
        hMisused).1⟩

end ElementBindings
