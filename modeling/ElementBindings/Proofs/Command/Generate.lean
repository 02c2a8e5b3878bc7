import ElementBindings.Command.Run
import ElementBindings.Proofs.Command.Delivery
import ElementBindings.Proofs.Files.Writing
import ElementBindings.Proofs.Zig.Ascii

/-
  Generating sources from the command line.

  A run that generates without formatting prints a line for
  each wanted element that has no text, in catalog order, and
  then how many elements have one.  Those are written, each to
  the file of its snake case name; a later one with the same
  file replaces an earlier one.  All else stays as it is, but
  for directories that have to be made.

  Key definitions include:
    * `Catalog.Plans`, `Catalog.Generates`

  Key theorems include:
    * `Catalog.Plans.exists_run`
    * `Catalog.Generates.run`
    * `Catalog.runCommand_generates`
-/

namespace ElementBindings

namespace Catalog

variable {catalog : Catalog}
variable {options : GenerateOptions}
variable {elements : List Element}

------------------------------------------------------------
-- Loaded Catalogs
------------------------------------------------------------

/- A catalog that is loaded from octets is well-formed. -/
theorem wellFormed_of_loadOctets
    {octets : List UInt8}
    (hComplete : catalog.Complete)
    (hLoad : Catalog.loadOctets octets = .ok catalog) :
    catalog.WellFormed := by
  unfold Catalog.loadOctets at hLoad
  cases hText : Text.decodeUtf8 octets with
  | error fault => simp [hText] at hLoad
  | ok text =>
      rw [hText] at hLoad
      exact Catalog.wellFormed_of_loadText hComplete hLoad

/- A catalog that is loaded from a file is well-formed. -/
theorem wellFormed_of_loadCatalog
    {tree : FileTree}
    {input : String}
    (hComplete : catalog.Complete)
    (hLoad : tree.loadCatalog input = .ok catalog) :
    catalog.WellFormed := by
  unfold FileTree.loadCatalog at hLoad
  cases hFile : tree.stat? input with
  | none => simp [hFile] at hLoad
  | some entry =>
      rw [hFile] at hLoad
      cases entry with
      | directory => simp at hLoad
      | file text =>
          exact Catalog.wellFormed_of_loadText hComplete hLoad
      | binary octets => exact wellFormed_of_loadOctets hComplete hLoad

/- All elements of a complete catalog can be named. -/
theorem Complete.namedElements_eq
    (hComplete : catalog.Complete) :
    catalog.namedElements = .ok catalog.elementList := by
  have hElements :
      catalog.elements =
        some (catalog.elementList.map some) :=
    hComplete.elements
  unfold Catalog.namedElements
  rw [hElements, needed_some]
  exact mapM_needed_some _ catalog.elementList

------------------------------------------------------------
-- Plans
------------------------------------------------------------

/-
  What is asked of a run that gets to what it generates from a
  catalog: it loads the catalog, all names that it is given are
  known, and it has not more jobs than a pool can have.
-/
structure Plans
    (catalog : Catalog)
    (options : GenerateOptions)
    (tree : FileTree) : Prop where
  workers : options.jobs ≤ maxWorkers
  loads : tree.loadCatalog options.input = .ok catalog
  complete : catalog.Complete
  known :
    ∀ name ∈ options.only,
      ∃ element ∈ catalog.elementList, element.name = some name

/-
  What is asked of one that writes and prints all of it without
  formatting: every text and every line can be encoded and goes
  where it should.
-/
structure Generates
    (catalog : Catalog)
    (options : GenerateOptions)
    (console : Console)
    (tree : FileTree) : Prop
    extends catalog.Plans options tree where
  unformatted : options.format = false
  noBracket : '[' ∉ options.output.text.toList
  noSlash :
    ∀ element ∈ catalog.wanted options.only,
      '/' ∉ element.label.toList
  writable :
    ∀ element ∈ catalog.wanted options.only,
      ∀ text, catalog.textOf element = .ok text →
        Text.isWhole text ∧
          tree.CanWrite
            (Element.target options.output element.label)
  printable :
    ∀ line ∈
        reportLines console
          (catalog.failures (catalog.wanted options.only))
          (catalog.writes options.output
            (catalog.wanted options.only)).length
          options.output,
      Text.isWhole line

namespace Plans

variable {tree : FileTree}

/- The catalog of such a run is well-formed. -/
theorem wellFormed
    (hRun : catalog.Plans options tree) :
    catalog.WellFormed :=
  wellFormed_of_loadCatalog hRun.complete hRun.loads

/- No name is unknown in such a run. -/
theorem unknownNames_eq
    (hRun : catalog.Plans options tree) :
    unknownNames catalog.elementList options.only = [] := by
  have hNone :
      options.only.eraseDups.filter (fun name =>
        !catalog.elementList.any fun element =>
          element.name = some name) = [] := by
    rw [List.filter_eq_nil_iff]
    intro name hMember
    have hOnly : name ∈ options.only := by
      simpa using hMember
    rcases hRun.known name hOnly with
      ⟨element, hElement, hName⟩
    simp only [Bool.not_eq_true', Bool.not_eq_false,
      List.any_eq_true, decide_eq_true_eq]
    exact ⟨element, hElement, hName⟩
  unfold unknownNames
  rw [hNone]
  exact List.mergeSort_nil

/-
  Behind its debug messages, the plan writes what the wanted
  elements settle as.
-/
theorem exists_settled
    (hRun : catalog.Plans options tree)
    (console : Console)
    (verbose : Bool) :
    ∃ (messages : List String) (settled : List (Job × Rendering)),
      options.plan console verbose
            (tree.loadCatalog options.input) =
          (options.writePlan console
            (catalog.wanted options.only).length 0
            settled).before
              (messages.map (Step.log ⟨.debug, ·⟩)) ∧
        List.Forall₂ catalog.Settles
          (catalog.wanted options.only) settled := by
  rcases Catalog.exists_renderings options.only hRun.complete
      hRun.wellFormed hRun.workers with
    ⟨jobs, renderings, hSelected, hLength, hRender, hSettled⟩
  let plan :=
    options.writePlan console jobs.length 0
      (jobs.zip renderings)
  have hJobs :
      ∃ logged : List String,
        options.jobsPlan console verbose jobs =
          plan.before (logged.map (Step.log ⟨.debug, ·⟩)) := by
    unfold GenerateOptions.jobsPlan
    rw [hRender]
    split
    · exact Plan.exists_debugging verbose (renderLog jobs) plan
    · exact ⟨[], rfl⟩
  rcases hJobs with ⟨logged, hLogged⟩
  rcases Plan.exists_debugging verbose [catalog.loadedMessage]
      (options.jobsPlan console verbose jobs) with
    ⟨first, hFirst⟩
  refine
    ⟨first ++ logged, jobs.zip renderings, ?_, hSettled⟩
  have hPlan :
      options.plan console verbose
          (tree.loadCatalog options.input) =
        (options.jobsPlan console verbose jobs).debugging
          verbose [catalog.loadedMessage] := by
    unfold GenerateOptions.plan
    rw [hRun.loads]
    simp [Plan.withCatalog, Plan.withValue,
      hRun.complete.namedElements_eq, hRun.unknownNames_eq,
      hSelected]
  rw [hPlan, hFirst, hLogged, ← hLength]
  simp [Plan.before, plan]

/- Such a run carries the steps of that plan out. -/
theorem exists_run
    (hRun : catalog.Plans options tree)
    (programs : Programs)
    {environment : Environment}
    {args : List String}
    {verbose : Bool}
    (hParse :
      Invocation.parse tree.kind? environment.formatter args =
        .ok ⟨verbose, .generate options⟩) :
    ∃ (log : List LogRecord) (settled : List (Job × Rendering)),
      let plan :=
        options.writePlan environment.console
          (catalog.wanted options.only).length 0 settled
      runCommand programs environment tree args =
          .ran (Plan.runSteps programs plan.ending
            ⟨tree, "", log, plan.ending⟩ plan.steps) ∧
        List.Forall₂ catalog.Settles
          (catalog.wanted options.only) settled := by
  rcases hRun.exists_settled environment.console verbose with
    ⟨messages, settled, hPlan, hSettled⟩
  refine
    ⟨messages.map (⟨.debug, ·⟩), settled, ?_, hSettled⟩
  rw [← Plan.run_before_messages, ← hPlan]
  unfold runCommand
  rw [hParse]
  rfl

/- Every wanted element has a text, or a dispatch fault. -/
theorem textOf_cases
    (hRun : catalog.Plans options tree) :
    ∀ element ∈ catalog.wanted options.only,
      (∃ text, catalog.textOf element = .ok text) ∨
        ∃ fault,
          catalog.textOf element =
            .error (.dispatch fault) := by
  intro element hWanted
  exact
    Catalog.textOf_cases hRun.complete hRun.wellFormed
      (Catalog.mem_of_mem_wanted hWanted)

/-
  If the first text cannot be encoded, the run ends there, and
  leaves an empty file.
-/
theorem run_of_half
    (hRun : catalog.Plans options tree)
    (programs : Programs)
    {environment : Environment}
    {args : List String}
    {verbose : Bool}
    {first : Element}
    {others : List Element}
    {path : Path}
    {text : String}
    (hParse :
      Invocation.parse tree.kind? environment.formatter args =
        .ok ⟨verbose, .generate options⟩)
    (hWanted : catalog.wanted options.only = first :: others)
    (hPath : first.path options.output = .ok path)
    (hText : catalog.textOf first = .ok text)
    (hHalf : ¬ Text.isWhole text)
    (hCan : tree.CanWrite path) :
    ∃ log,
      runCommand programs environment tree args =
        .ran
          ⟨(tree.writeText path "").1, "", log,
            .failure (.file ⟨.unencodableText, text⟩)⟩ := by
  rcases hRun.exists_run programs hParse with
    ⟨log, settled, hRan, hSettled⟩
  rw [hWanted] at hSettled
  rcases List.forall₂_cons_left_iff.mp hSettled with
    ⟨settled, rest, hFirst, _, rfl⟩
  refine ⟨log, ?_⟩
  rw [hRan, hFirst.writePlan_text _ 0 rest hPath hText]
  simp only [Plan.before, writeSteps, List.cons_append,
    Plan.runSteps, hCan.writeText_of_half hHalf]

end Plans

/- Wanted elements have names without slash. -/
theorem Generates.names
    {console : Console}
    {tree : FileTree}
    (hRun : catalog.Generates options console tree) :
    ∀ element ∈ catalog.wanted options.only,
      element.name = some element.label ∧
        '/' ∉ element.label.toList := by
  intro element hWanted
  have hElement := Catalog.mem_of_mem_wanted hWanted
  exact
    ⟨(hRun.complete.everyElement element hElement).name_eq,
      hRun.noSlash element hWanted⟩

/-
  A run that generates reports the failures, writes the texts,
  and fails at the end if there are failures.
-/
theorem Generates.run
    {tree : FileTree}
    (programs : Programs)
    {environment : Environment}
    {args : List String}
    {verbose : Bool}
    (hRun :
      catalog.Generates options environment.console tree)
    (hParse :
      Invocation.parse tree.kind? environment.formatter args =
        .ok ⟨verbose, .generate options⟩) :
    ∃ outcome,
      runCommand programs environment tree args =
          .ran outcome ∧
        FileTree.Holds options.output.elements
          (catalog.writes options.output
            (catalog.wanted options.only))
          tree outcome.tree ∧
        outcome.output =
          String.join
            (reportLines environment.console
              (catalog.failures (catalog.wanted options.only))
              (catalog.writes options.output
                (catalog.wanted options.only)).length
              options.output) ∧
        outcome.ending =
          .exit (exitCode
            (catalog.failures
              (catalog.wanted options.only)).length) := by
  rcases hRun.exists_run programs hParse with
    ⟨log, settled, hRan, hSettled⟩
  let plan :=
    options.writePlan environment.console
      (catalog.wanted options.only).length 0 settled
  have hDelivers :
      catalog.Delivers environment.console options.output
        (catalog.wanted options.only)
        (catalog.wanted options.only).length 0 plan :=
    delivers_writePlan environment.console _ 0
      hRun.unformatted hRun.noBracket hSettled hRun.names
  have hCount :=
    length_writes_add_failures options.output hRun.textOf_cases
  have hGenerated :
      (catalog.wanted options.only).length
          - (0 + (catalog.failures
            (catalog.wanted options.only)).length) =
        (catalog.writes options.output
          (catalog.wanted options.only)).length := by
    omega
  have hPrinted := hDelivers.printed
  rw [hGenerated] at hPrinted
  have hSafe : ∀ step ∈ plan.steps, Plan.isSafe step := by
    refine Plan.isSafe_of_effects hDelivers.effects ?_ ?_
    · rw [hPrinted]
      exact hRun.printable
    · rw [hDelivers.written, forall_mem_writes_iff]
      intro element hElement text hText
      exact (hRun.writable element hElement text hText).1
  have hParent :
      ∀ write ∈ Plan.written plan.steps,
        write.1.parent = options.output.elements := by
    rw [hDelivers.written, forall_mem_writes_iff]
    intro element _ text _
    exact Element.target_parent options.output element.label
  have hWrite :
      ∀ write ∈ Plan.written plan.steps,
        tree.CanWrite write.1 := by
    rw [hDelivers.written, forall_mem_writes_iff]
    intro element hElement text hText
    exact (hRun.writable element hElement text hText).2
  rcases Plan.runSteps_writes programs plan.ending
      ⟨tree, "", log, plan.ending⟩ hSafe hParent hWrite with
    ⟨final, hSteps, hHolds⟩
  rw [hDelivers.written] at hHolds
  rw [hSteps] at hRan
  refine ⟨_, hRan, hHolds, ?_, ?_⟩
  · rw [← hPrinted]
    simp
  · have hEnding := hDelivers.ending
    rw [Nat.zero_add] at hEnding
    exact hEnding

/-
  If no two elements share a file, what is written to one
  place comes from one element.
-/
theorem eq_of_locate_target_eq
    {tree : FileTree}
    {base : Path}
    {first second : Element}
    (hDistinct :
      (elements.map fun element =>
        Naming.snakeCase element.label).Nodup)
    (hFirst : first ∈ elements)
    (hSecond : second ∈ elements)
    (hSame :
      tree.locate (Element.target base first.label) =
        tree.locate (Element.target base second.label)) :
    first = second :=
  List.inj_on_of_nodup_map hDistinct hFirst hSecond
    ((tree.locate_target_inj base).mp hSame)

/-
  A run that generates from a catalog without formatting, and
  with a file of its own for every wanted element, leaves each
  text in its file and spares all else, also the files of the
  elements that have no text.  It reports those in catalog
  order, then how many have one, and fails if some have none.
  The lines are as the console shows them: unchanged if they
  hold no code that it knows, and end within its width or not
  in a blank.
-/
theorem runCommand_generates
    (programs : Programs)
    {tree : FileTree}
    {environment : Environment}
    {args : List String}
    {verbose : Bool}
    (hParse :
      Invocation.parse tree.kind? environment.formatter args =
        .ok ⟨verbose, .generate options⟩)
    (hRun :
      catalog.Generates options environment.console tree)
    (hDistinct :
      ((catalog.wanted options.only).map fun element =>
        Naming.snakeCase element.label).Nodup) :
    ∃ outcome,
      runCommand programs environment tree args =
          .ran outcome ∧
        (∀ element ∈ catalog.wanted options.only,
          ∀ text, catalog.textOf element = .ok text →
            outcome.tree.read?
                (Element.target options.output element.label)
              = some (.file text)) ∧
        (∀ element ∈ catalog.wanted options.only,
          ∀ fault, catalog.textOf element = .error fault →
            FileTree.Spares options.output.elements tree
              outcome.tree
              (tree.locate
                (Element.target options.output
                  element.label))) ∧
        (∀ location,
          (∀ element ∈ catalog.wanted options.only,
            ∀ text, catalog.textOf element = .ok text →
              tree.locate
                  (Element.target options.output element.label)
                ≠ location) →
            FileTree.Spares options.output.elements tree
              outcome.tree location) ∧
        ((∀ element ∈ catalog.wanted options.only,
            ∀ text, catalog.textOf element ≠ .ok text) →
          outcome.tree = tree) ∧
        outcome.output =
          String.join
            (reportLines environment.console
              (catalog.failures (catalog.wanted options.only))
              (catalog.writes options.output
                (catalog.wanted options.only)).length
              options.output) ∧
        ((∀ failure ∈
              catalog.failures (catalog.wanted options.only),
            '\\' ∉ failure.1.toList ∧
              '\\' ∉ failure.2.message.toList ∧
              environment.console.Keeps
                (failure.1 ++ ": "
                  ++ failure.2.message).toList) →
          environment.console.Keeps
              (generatedLine
                (catalog.writes options.output
                  (catalog.wanted options.only)).length
                options.output).toList →
            outcome.output =
              String.join
                  ((catalog.failures
                    (catalog.wanted options.only)).map
                      fun failure =>
                        failure.1 ++ ": " ++ failure.2.message
                          ++ "\n")
                ++ (generatedLine
                    (catalog.writes options.output
                      (catalog.wanted options.only)).length
                    options.output
                  ++ "\n")) ∧
        outcome.ending =
          .exit (exitCode
            (catalog.failures
              (catalog.wanted options.only)).length) := by
  rcases Generates.run programs hRun hParse with
    ⟨outcome, hOutcome, hHolds, hOutput, hEnding⟩
  have hReads :
      ∀ write ∈ catalog.writes options.output
          (catalog.wanted options.only),
        outcome.tree.read? write.1 = some (.file write.2) := by
    rw [hHolds.reads_iff]
    simp only [forall_mem_writes_iff]
    intro element hElement text hText other hOther more hMore
      hSame
    have hOne :=
      eq_of_locate_target_eq hDistinct hElement hOther hSame
    rw [hOne, hMore] at hText
    exact (Except.ok.inj hText).symm
  have hElsewhere :
      ∀ location,
        (∀ element ∈ catalog.wanted options.only,
          ∀ text, catalog.textOf element = .ok text →
            tree.locate
                (Element.target options.output element.label)
              ≠ location) →
          FileTree.Spares options.output.elements tree
            outcome.tree location := by
    intro location hAway
    exact
      hHolds.other location (forall_mem_writes_iff.mpr hAway)
  refine
    ⟨outcome, hOutcome, ?_, ?_, hElsewhere, ?_, hOutput, ?_,
      hEnding⟩
  · exact forall_mem_writes_iff.mp hReads
  · intro element hElement fault hFault
    apply hElsewhere
    intro other hOther text hText hSame
    have hOne :=
      eq_of_locate_target_eq hDistinct hOther hElement hSame
    rw [hOne, hFault] at hText
    simp at hText
  · intro hNoText
    apply hHolds.unchanged
    rw [List.eq_nil_iff_forall_not_mem]
    intro write hMember
    rcases mem_writes_iff.mp hMember with
      ⟨element, hElement, text, hText, _⟩
    exact hNoText element hElement text hText
  · intro hFailures hCount
    rw [hOutput]
    exact join_reportLines_of_keeps hFailures hCount

end Catalog

------------------------------------------------------------
-- Some Runs
------------------------------------------------------------

/- All that an element of a catalog declares is ASCII. -/
def Catalog.IsAsciiAt
    (catalog : Catalog)
    (element : Element) : Prop :=
  (∀ kind ∈ element.nativeType,
      ∀ s ∈ Zig.opening (shownName element.name)
          (shownName element.className) kind.text,
        Text.IsAscii s) ∧
    (catalog.parentAttributes element >>=
      element.binding).toOption.all (·.IsAscii)

instance
    (catalog : Catalog)
    (element : Element) :
    Decidable (catalog.IsAsciiAt element) :=
  inferInstanceAs (Decidable (_ ∧ _))

/- Its text can be encoded then. -/
theorem Catalog.IsAsciiAt.isWhole
    {catalog : Catalog}
    {element : Element}
    {text : String}
    (hAscii : catalog.IsAsciiAt element)
    (hText : catalog.textOf element = .ok text) :
    Text.isWhole text := by
  rcases hAscii with ⟨hOpening, hDeclared⟩
  rcases bind_eq_ok_iff.mp hText with
    ⟨parents, hParents, hRender⟩
  have hBinding :
      ∀ binding, element.binding parents = .ok binding →
        binding.IsAscii := by
    intro binding hSome
    rw [hParents, ok_bind, hSome] at hDeclared
    exact of_decide_eq_true hDeclared
  exact
    (Element.isAscii_render hOpening hBinding hRender).isWhole

/- An element of a name, with some callbacks. -/
def sampleElement
    (name : String)
    (callbacks : List (Option Callback)) : Element :=
  { name := some name
    className := some "box"
    nativeType := some .void
    attributes := some []
    callbacks := some callbacks
    childrenCount := some (.int 0)
    bases := some []
    documentation := none }

/- A callback that no type is known for. -/
def unmappedCallback : Callback :=
  { name := some "f"
    key := some "F"
    arguments := some []
    returnType := some .unknown
    documentation := none }

/- A record of JSON with some fields. -/
def sampleRecord
    (fields : String) : String :=
  "\x7b" ++ fields ++ "\x7d"

/- The record of an element, given those of its callbacks. -/
def elementRecord
    (name callbacks : String) : String :=
  sampleRecord
    ("\"name\":\"" ++ name ++ "\",\"class_name\":\"box\","
      ++ "\"native_type\":\"Void\",\"callbacks\":["
      ++ callbacks ++ "]")

/- A catalog of elements with these records. -/
def catalogText
    (records : List String) : String :=
  sampleRecord
    ("\"classes\":[" ++ Text.joinWith "," records ++ "]")

/- A working directory with a catalog of some text. -/
def workplace
    (text : String) : FileTree :=
  { workingDirectory := ["work"]
    entries :=
      [ (["work"], .directory),
        (["work", "c.json"], .file text) ] }

/- The arguments of a run there, with some more. -/
def sampleArguments
    (more : List String) : List String :=
  ["gen", "-i", "c.json", "-o", "out", "--no-fmt"] ++ more

/- The options that are read from them. -/
def sampleOptions
    (only : List String)
    (jobs : Int) : GenerateOptions :=
  { input := "c.json"
    output := ⟨0, ["out"]⟩
    only := only
    jobs := jobs
    format := false
    formatter := "zig" }

/- The catalog of a text is loaded from there. -/
theorem workplace_loads
    {text : String}
    {catalog : Catalog}
    (hLoad : Catalog.loadText text = .ok catalog) :
    (workplace text).loadCatalog "c.json" = .ok catalog := by
  rw [← hLoad]
  rfl

/- A run works out its plan with the catalog that is loaded. -/
theorem runCommand_workplace
    {text : String}
    {catalog : Catalog}
    {environment : Environment}
    {more : List String}
    (options : GenerateOptions)
    (hParse :
      Invocation.parse (workplace text).kind?
          environment.formatter (sampleArguments more) =
        .ok ⟨false, .generate options⟩)
    (hInput : options.input = "c.json")
    (hLoad : Catalog.loadText text = .ok catalog) :
    runCommand Programs.none environment (workplace text)
        (sampleArguments more) =
      .ran ((options.plan environment.console false
        (.ok catalog)).run Programs.none (workplace text)) := by
  unfold runCommand
  rw [hParse]
  unfold Command.plan
  simp only [hInput, workplace_loads hLoad]

/- Two elements of one snake case name, and one without text. -/
def trio : Catalog :=
  ⟨some [],
    some
      [ some (sampleElement "Foo" []),
        some (sampleElement "foo" []),
        some (sampleElement "A\tB" [some unmappedCallback]) ]⟩

/- The text of these elements. -/
def trioText : String :=
  catalogText
    [ elementRecord "Foo" "",
      elementRecord "foo" "",
      elementRecord "A\\tB"
        (sampleRecord
          ("\"name\":\"f\",\"attribute_name\":\"F\","
            ++ "\"return_type\":\"Unknown\"")) ]

/- The JSON value of an element, given those of its callbacks. -/
def elementValue
    (name : String)
    (callbacks : List Json) : Json :=
  .object
    [ ("name", .text name),
      ("class_name", .text "box"),
      ("native_type", .text "Void"),
      ("callbacks", .array callbacks) ]

set_option maxRecDepth 4000 in
/- The text is that of the catalog. -/
theorem trioText_loads :
    Catalog.loadText trioText = .ok trio := by
  have hRead :
      Json.readChars (Text.unifyLineFeeds trioText.toList) =
        .ok (.object
          [ ("classes",
              .array
                [ elementValue "Foo" [],
                  elementValue "foo" [],
                  elementValue "A\tB"
                    [ .object
                        [ ("name", .text "f"),
                          ("attribute_name", .text "F"),
                          ("return_type",
                            .text "Unknown") ] ] ]) ]) := by
    simp only [trioText, catalogText, elementRecord,
      sampleRecord, Text.joinWith, String.toList_append,
      String.reduceToList, List.cons_append, List.nil_append]
    rfl
  exact
    Catalog.loadText_eq_ok_iff.mpr
      ⟨_, hRead, by decide, by decide⟩

/- Runs for any of these elements meet what is asked of them. -/
theorem trio_generates
    {only : List String}
    {jobs : Int}
    (hKnown :
      ∀ name ∈ only,
        ∃ element ∈ trio.elementList, element.name = some name)
    (hJobs : jobs ≤ maxWorkers) :
    trio.Generates (sampleOptions only jobs) .wide
      (workplace trioText) := by
  have hWrite :
      ∀ element ∈ trio.elementList,
        ((workplace trioText).writeText
          (Element.target ⟨0, ["out"]⟩ element.label)
          "").2 = .ok () := by
    decide
  have hAscii :
      ∀ element ∈ trio.elementList,
        trio.IsAsciiAt element := by
    decide +kernel
  have hSlash :
      ∀ element ∈ trio.elementList,
        '/' ∉ element.label.toList := by
    decide
  have hFailures :
      ∀ failure ∈ trio.failures trio.elementList,
        Text.isWhole
          (Markup.appearance .wide failure.1 failure.2.message
            ++ "\n") := by
    decide
  have hCounts :
      ∀ count < trio.elementList.length + 1,
        Text.isWhole
          (countLine .wide count ⟨0, ["out"]⟩ ++ "\n") := by
    decide
  have hSublist :
      (trio.wanted only).Sublist trio.elementList :=
    List.filter_sublist
  refine
    ⟨⟨hJobs, workplace_loads trioText_loads, ?_, hKnown⟩, rfl,
      ?_, ?_, ?_, ?_⟩
  · decide
  · show '[' ∉ (Path.text ⟨0, ["out"]⟩).toList
    decide
  · intro element hWanted
    exact hSlash element (Catalog.mem_of_mem_wanted hWanted)
  · intro element hWanted text hText
    have hElement := Catalog.mem_of_mem_wanted hWanted
    have hWhole := (hAscii element hElement).isWhole hText
    exact ⟨hWhole, hWrite element hElement⟩
  · intro line hLine
    rcases List.mem_append.mp hLine with hFailed | hLast
    · rcases List.mem_map.mp hFailed with
        ⟨failure, hFailure, rfl⟩
      exact
        hFailures failure
          ((hSublist.filterMap _).subset hFailure)
    · rw [List.mem_singleton] at hLast
      rw [hLast]
      have hLength :
          (trio.writes ⟨0, ["out"]⟩ (trio.wanted only)).length
            ≤ trio.elementList.length :=
        (List.length_filterMap_le _ _).trans
          hSublist.length_le
      exact hCounts _ (Nat.lt_succ_of_le hLength)

/- The file of the elements whose snake case name is foo. -/
def fooPath : Path :=
  ⟨0, ["out", "elements", "foo.zig"]⟩

/- It is where the first one is written. -/
theorem target_foo :
    Element.target ⟨0, ["out"]⟩ (sampleElement "Foo" []).label =
      fooPath := by
  decide

/- That element has a text. -/
theorem exists_fooText :
    ∃ text,
      trio.textOf (sampleElement "Foo" []) = .ok text := by
  apply fault?_eq_none_iff.mp
  decide

/- One element is written, and the other one is reported. -/
theorem trio_run :
    ∃ outcome text,
      runCommand Programs.none .plain (workplace trioText)
          (sampleArguments
            ["--only", "Foo", "--only", "A\tB", "-j", "2"]) =
        .ran outcome ∧
      trio.textOf (sampleElement "Foo" []) = .ok text ∧
      outcome.tree.read? fooPath = some (.file text) ∧
      outcome.output =
        "A       B: No Zig type for Unknown in callback f\n"
          ++ "Generated 1 element in out\n" ∧
      outcome.ending = .exit 1 := by
  have hParse :
      Invocation.parse (workplace trioText).kind?
          Environment.plain.formatter
          (sampleArguments
            ["--only", "Foo", "--only", "A\tB", "-j", "2"]) =
        .ok ⟨false,
          .generate (sampleOptions ["Foo", "A\tB"] 2)⟩ := rfl
  have hRun :
      trio.Generates (sampleOptions ["Foo", "A\tB"] 2)
        Environment.plain.console (workplace trioText) :=
    trio_generates (by decide) (by decide)
  rcases exists_fooText with ⟨text, hText⟩
  rcases Catalog.runCommand_generates Programs.none hParse hRun
      (by decide) with
    ⟨outcome, hOutcome, hWritten, _, _, _, hOutput, _, hEnding⟩
  have hRead :
      outcome.tree.read? fooPath = some (.file text) := by
    rw [← target_foo]
    exact
      hWritten (sampleElement "Foo" []) (by decide) text hText
  refine ⟨outcome, text, hOutcome, hText, hRead, ?_, ?_⟩
  · rw [hOutput]
    decide
  · rw [hEnding]
    decide

/- A run for the first element writes the file of the second. -/
theorem trio_fills_foo :
    (((runCommand Programs.none .plain (workplace trioText)
        (sampleArguments ["--only", "Foo"])).tree
      (workplace trioText)).read? fooPath).isSome := by
  have hParse :
      Invocation.parse (workplace trioText).kind?
          Environment.plain.formatter
          (sampleArguments ["--only", "Foo"]) =
        .ok ⟨false, .generate (sampleOptions ["Foo"] 1)⟩ := rfl
  have hRun :
      trio.Generates (sampleOptions ["Foo"] 1)
        Environment.plain.console (workplace trioText) :=
    trio_generates (by decide) (by decide)
  rcases exists_fooText with ⟨text, hText⟩
  have hMember :
      (fooPath, text) ∈
        trio.writes ⟨0, ["out"]⟩ (trio.wanted ["Foo"]) := by
    rw [← target_foo]
    exact
      Catalog.mem_writes_iff.mpr
        ⟨sampleElement "Foo" [], by decide, text, hText, rfl⟩
  rcases hRun.run Programs.none hParse with
    ⟨outcome, hOutcome, hHolds, _⟩
  rcases hHolds.exists_read? hMember with ⟨last, _, _, hRead⟩
  rw [hOutcome]
  exact Option.isSome_of_eq_some hRead

/- A narrow console that shows one character by its name. -/
def crossConsole : Console :=
  { width := 20
    positive := by decide
    named? := fun name =>
      if name = "x" then some "\u274C" else none }

/- Half of a pair. -/
def half : String :=
  String.singleton (Text.halfChar 0xD800)

/- An element that has it in its documentation. -/
def halfDocumented : Element :=
  { sampleElement "Foo" [] with documentation := some half }

/- A catalog with it, and with an element of such a name. -/
def halves : Catalog :=
  ⟨some [],
    some
      [ some (sampleElement half [some unmappedCallback]),
        some halfDocumented ]⟩

/- The text of these elements. -/
def halvesText : String :=
  catalogText
    [ elementRecord "\\ud800"
        (sampleRecord
          ("\"name\":\"f\",\"attribute_name\":\"F\","
            ++ "\"return_type\":\"Unknown\"")),
      sampleRecord
        ("\"name\":\"Foo\",\"class_name\":\"box\","
          ++ "\"native_type\":\"Void\","
          ++ "\"documentation\":\"\\ud800\"") ]

set_option maxRecDepth 4000 in
/- The text is that of the catalog. -/
theorem halvesText_loads :
    Catalog.loadText halvesText = .ok halves := by
  have hRead :
      Json.readChars (Text.unifyLineFeeds halvesText.toList) =
        .ok (.object
          [ ("classes",
              .array
                [ elementValue half
                    [ .object
                        [ ("name", .text "f"),
                          ("attribute_name", .text "F"),
                          ("return_type",
                            .text "Unknown") ] ],
                  .object
                    [ ("name", .text "Foo"),
                      ("class_name", .text "box"),
                      ("native_type", .text "Void"),
                      ("documentation", .text half) ] ]) ]) := by
    simp only [halvesText, catalogText, elementRecord,
      sampleRecord, Text.joinWith, String.toList_append,
      String.reduceToList, List.cons_append, List.nil_append]
    rfl
  exact
    Catalog.loadText_eq_ok_iff.mpr
      ⟨_, hRead, by decide, by decide⟩

/- A run for the second one writes what cannot be written. -/
theorem halves_plans :
    halves.Plans (sampleOptions ["Foo"] 1)
      (workplace halvesText) :=
  ⟨by decide, workplace_loads halvesText_loads, by decide,
    by decide⟩

/- Its text holds half of a pair. -/
theorem exists_halfText :
    ∃ text,
      halves.textOf halfDocumented = .ok text ∧
        ¬ Text.isWhole text := by
  have hNone : fault? (halves.textOf halfDocumented) = none := by
    decide
  rcases fault?_eq_none_iff.mp hNone with ⟨text, hText⟩
  refine ⟨text, hText, ?_⟩
  intro hWhole
  rcases bind_eq_ok_iff.mp hText with ⟨parents, _, hRender⟩
  have hComment :=
    Element.isWhole_docComment_of_render hRender hWhole
  revert hComment
  decide

/- So its file is left empty. -/
theorem halves_run :
    ∃ outcome fault,
      runCommand Programs.none .plain (workplace halvesText)
          (sampleArguments ["--only", "Foo"]) =
        .ran outcome ∧
      outcome.tree.read? fooPath = some (.file "") ∧
      outcome.ending = .failure fault := by
  have hParse :
      Invocation.parse (workplace halvesText).kind?
          Environment.plain.formatter
          (sampleArguments ["--only", "Foo"]) =
        .ok ⟨false, .generate (sampleOptions ["Foo"] 1)⟩ := rfl
  have hWanted : halves.wanted ["Foo"] = [halfDocumented] := by
    decide
  have hPath :
      halfDocumented.path ⟨0, ["out"]⟩ = .ok fooPath := by
    decide
  have hCan : (workplace halvesText).CanWrite fooPath := by
    decide
  have hRead :
      ((workplace halvesText).writeText fooPath "").1.read?
          fooPath = some (.file "") := by
    decide
  rcases exists_halfText with ⟨text, hText, hHalf⟩
  rcases halves_plans.run_of_half Programs.none hParse hWanted
      hPath hText hHalf hCan with
    ⟨log, hRan⟩
  exact ⟨_, _, hRan, hRead, rfl⟩

/-
  More jobs than a pool can have end a run, and so does null in
  the place of a callback.  A file that another element would
  have is written.  Messages appear as the console shows them,
  with blanks for tabs, with the characters that it knows, and
  without blanks beyond its width.  Half of a pair ends a run,
  in a line that nothing is printed of, or in a text that an
  empty file is left of.
-/
theorem runs_that_do_otherwise :
    runCommand Programs.none .plain (workplace trioText)
        (sampleArguments
          ["--only", "Foo", "-j", "99999999999999999999"]) =
      .ran ⟨workplace trioText, "", [],
        .failure .tooManyWorkers⟩ ∧
    runCommand Programs.none .plain
        (workplace (catalogText [elementRecord "Foo" "null"]))
        (sampleArguments []) =
      .ran
        ⟨workplace (catalogText [elementRecord "Foo" "null"]),
          "", [], .failure (.null (.readField "arguments"))⟩ ∧
    (Element.path ⟨0, ["out"]⟩ (sampleElement "foo" []) =
        .ok fooPath ∧
      (workplace trioText).read? fooPath = none ∧
      (((runCommand Programs.none .plain (workplace trioText)
          (sampleArguments ["--only", "Foo"])).tree
        (workplace trioText)).read? fooPath).isSome) ∧
    (∀ console output line,
      (console, output, line) ∈
          [ (Console.wide, "out", "out"),
            (crossConsole, ":x:", "\u274C"),
            (crossConsole, "out ", "out") ] →
        runCommand Programs.none ⟨none, console⟩
            (workplace trioText)
            (sampleArguments ["--only", "A\tB", "-o", output]) =
          .ran
            ⟨workplace trioText,
              "A       B: No Zig type for Unknown in callback f\n"
                ++ "Generated 0 elements in " ++ line ++ "\n",
              [], .exit 1⟩) ∧
    runCommand Programs.none .plain (workplace halvesText)
        (sampleArguments []) =
      .ran
        ⟨workplace halvesText, "", [],
          .failure (.file
            ⟨.unencodableOutput,
              half ++ ": No Zig type for Unknown in callback f"
                ++ "\n"⟩)⟩ ∧
    ∃ outcome fault,
      runCommand Programs.none .plain (workplace halvesText)
          (sampleArguments ["--only", "Foo"]) =
        .ran outcome ∧
      outcome.tree.read? fooPath = some (.file "") ∧
      outcome.ending = .failure fault := by
  refine
    ⟨?_, ?_, ⟨?_, ?_, trio_fills_foo⟩, ?_, ?_, halves_run⟩
  · rw [runCommand_workplace
      (sampleOptions ["Foo"] 99999999999999999999) rfl rfl
      trioText_loads]
    decide +kernel
  · decide +kernel
  · decide +kernel
  · decide +kernel
  · intro console output line hMember
    simp only [List.mem_cons, Prod.mk.injEq, List.not_mem_nil,
      or_false] at hMember
    rcases hMember with
      ⟨rfl, rfl, rfl⟩ | ⟨rfl, rfl, rfl⟩ | ⟨rfl, rfl, rfl⟩
    · rw [runCommand_workplace (sampleOptions ["A\tB"] 1) rfl
        rfl trioText_loads]
      decide +kernel
    · rw [runCommand_workplace
        { sampleOptions ["A\tB"] 1 with output := ⟨0, [":x:"]⟩ }
        rfl rfl trioText_loads]
      decide +kernel
    · rw [runCommand_workplace
        { sampleOptions ["A\tB"] 1 with output := ⟨0, ["out "]⟩ }
        rfl rfl trioText_loads]
      decide +kernel
  · rw [runCommand_workplace (sampleOptions [] 1) rfl rfl
      halvesText_loads]
    decide +kernel

end ElementBindings
