import ElementBindings.Proofs.Command.Generate
import ElementBindings.Proofs.Zig.Page

/-
  Elements that share a file.

  Names are told apart as they are, files by snake case names.
  When two elements with texts have one snake case name, the
  later one replaces the text of the earlier one, although
  both are counted.  The texts differ, since a text tells the
  name, so the earlier one is lost.

  Key theorems include:
    * `Catalog.eq_of_textOf_eq`
    * `Catalog.runCommand_keeps_iff`
-/

namespace ElementBindings

namespace Catalog

variable {catalog : Catalog}
variable {options : GenerateOptions}
variable {first second : Element}

------------------------------------------------------------
-- Texts
------------------------------------------------------------

/- Elements of one snake case name differ in their texts. -/
theorem eq_of_textOf_eq
    {text : String}
    (hComplete : catalog.Complete)
    (hFormed : catalog.WellFormed)
    (hFirst : first ∈ catalog.elementList)
    (hSecond : second ∈ catalog.elementList)
    (hSnake :
      Naming.snakeCase first.label =
        Naming.snakeCase second.label)
    (hText : catalog.textOf first = .ok text)
    (hSame : catalog.textOf second = .ok text) :
    first = second := by
  have hName := (hComplete.everyElement first hFirst).name_eq
  have hOther := (hComplete.everyElement second hSecond).name_eq
  rcases bind_eq_ok_iff.mp hText with ⟨_, _, hRender⟩
  rcases bind_eq_ok_iff.mp hSame with ⟨_, _, hAgain⟩
  have hLabel : first.label = second.label :=
    Element.name_eq_of_render_eq hName hOther hSnake hRender
      hAgain
  rw [← hLabel, ← hName] at hOther
  exact
    List.inj_on_of_nodup_map hFormed.elementNames hFirst hSecond
      hOther.symm

------------------------------------------------------------
-- Paths
------------------------------------------------------------

/-
  When two elements have one path.  The names of their files
  tell: they are one path if both lead on from the output
  directory or both replace it; otherwise the one that does
  has to name the other place in full.  Names without slashes
  need to have one snake case name.
-/
structure PathsMeet
    (first second : Element)
    (base : Path) : Prop where
  alike :
    ((Path.ofString (Element.fileName first.label)).root = 0 ↔
        (Path.ofString
          (Element.fileName second.label)).root = 0) →
      (first.path base = second.path base ↔
        Path.ofString (Element.fileName first.label) =
          Path.ofString (Element.fileName second.label))
  replaced :
    (Path.ofString (Element.fileName first.label)).root = 0 →
      (Path.ofString
          (Element.fileName second.label)).root ≠ 0 →
        (first.path base = second.path base ↔
          Path.ofString (Element.fileName second.label) =
            ⟨base.root,
              base.elements.parts
                ++ (Path.ofString
                  (Element.fileName first.label)).parts⟩)
  plain :
    '/' ∉ first.label.toList →
      '/' ∉ second.label.toList →
        (first.path base = second.path base ↔
          Naming.snakeCase first.label =
            Naming.snakeCase second.label)

/- That is so for all elements of a complete catalog. -/
theorem pathsMeet
    (hComplete : catalog.Complete)
    (hFirst : first ∈ catalog.elementList)
    (hSecond : second ∈ catalog.elementList)
    (base : Path) :
    PathsMeet first second base := by
  have hName := (hComplete.everyElement first hFirst).name_eq
  have hOther := (hComplete.everyElement second hSecond).name_eq
  have hPath :
      first.path base = second.path base ↔
        base.elements.join (Element.fileName first.label) =
          base.elements.join
            (Element.fileName second.label) := by
    rw [Element.path_eq_join base hName,
      Element.path_eq_join base hOther, Except.ok.injEq]
  constructor
  · intro hRoot
    rw [hPath]
    exact base.elements.join_eq_join_iff hRoot
  · intro hRelative hReplaced
    rw [hPath]
    exact
      base.elements.join_eq_join_iff_of_replaced hRelative
        hReplaced
  · intro hSlash hNone
    rw [Element.path_eq base hName hSlash,
      Element.path_eq base hOther hNone, Except.ok.injEq]
    exact Element.target_inj base

------------------------------------------------------------
-- Runs
------------------------------------------------------------

/-
  A run that generates from a catalog counts all elements that
  have a text.  They are all there afterwards, each with its
  own text, exactly if no two of them have one snake case name.
-/
theorem runCommand_keeps_iff
    (programs : Programs)
    {tree : FileTree}
    {environment : Environment}
    {args : List String}
    {verbose : Bool}
    (hParse :
      Invocation.parse tree.kind? environment.formatter args =
        .ok ⟨verbose, .generate options⟩)
    (hRun :
      catalog.Generates options environment.console tree) :
    (∀ base,
      ∀ first ∈ catalog.elementList,
        ∀ second ∈ catalog.elementList,
          PathsMeet first second base) ∧
      ∃ outcome,
        runCommand programs environment tree args =
            .ran outcome ∧
          outcome.output =
            String.join
              (reportLines environment.console
                (catalog.failures (catalog.wanted options.only))
                (catalog.writes options.output
                  (catalog.wanted options.only)).length
                options.output) ∧
          ((∀ element ∈ catalog.wanted options.only,
              ∀ text, catalog.textOf element = .ok text →
                outcome.tree.read?
                    (Element.target options.output
                      element.label) =
                  some (.file text)) ↔
            ∀ first ∈ catalog.wanted options.only,
              ∀ second ∈ catalog.wanted options.only,
                ∀ text other,
                  catalog.textOf first = .ok text →
                    catalog.textOf second = .ok other →
                      Naming.snakeCase first.label =
                          Naming.snakeCase second.label →
                        first = second) := by
  refine ⟨?_, ?_⟩
  · intro base first hFirst second hSecond
    exact pathsMeet hRun.complete hFirst hSecond base
  rcases hRun.run programs hParse with
    ⟨outcome, hOutcome, hHolds, hOutput, _⟩
  have hReads :=
    (forall_mem_writes_iff
      (P := fun write =>
        outcome.tree.read? write.1 = some (.file write.2))).symm
      |>.trans hHolds.reads_iff
  refine ⟨outcome, hOutcome, hOutput, hReads.trans ?_⟩
  simp only [forall_mem_writes_iff, tree.locate_target_inj]
  constructor
  · intro hTexts first hFirst second hSecond text other hText
      hOther hSnake
    have hSame :=
      hTexts first hFirst text hText second hSecond other hOther
        hSnake
    rw [← hSame] at hOther
    exact
      eq_of_textOf_eq hRun.complete hRun.wellFormed
        (mem_of_mem_wanted hFirst) (mem_of_mem_wanted hSecond)
        hSnake hText hOther
  · intro hApart first hFirst text hText second hSecond other
      hOther hSnake
    have hOne :=
      hApart first hFirst second hSecond text other hText hOther
        hSnake
    rw [hOne, hOther] at hText
    exact (Except.ok.inj hText).symm

end Catalog

/- Both elements of one snake case name have a text. -/
theorem exists_trioTexts :
    ∃ text other,
      trio.textOf (sampleElement "Foo" []) = .ok text ∧
        trio.textOf (sampleElement "foo" []) = .ok other := by
  have hOther :
      fault? (trio.textOf (sampleElement "foo" [])) = none := by
    decide
  rcases exists_fooText with ⟨text, hText⟩
  rcases fault?_eq_none_iff.mp hOther with ⟨other, hOther⟩
  exact ⟨text, other, hText, hOther⟩

/- Two elements are counted, but not both are there. -/
theorem trio_is_not_kept :
    ∃ outcome,
      runCommand Programs.none .plain (workplace trioText)
          (sampleArguments []) = .ran outcome ∧
        outcome.output =
          "A       B: No Zig type for Unknown in callback f\n"
            ++ "Generated 2 elements in out\n" ∧
        ¬ ∀ element ∈ trio.wanted [],
          ∀ text, trio.textOf element = .ok text →
            outcome.tree.read?
                (Element.target ⟨0, ["out"]⟩ element.label) =
              some (.file text) := by
  have hParse :
      Invocation.parse (workplace trioText).kind?
          Environment.plain.formatter (sampleArguments []) =
        .ok ⟨false, .generate (sampleOptions [] 1)⟩ := rfl
  have hRun :
      trio.Generates (sampleOptions [] 1)
        Environment.plain.console (workplace trioText) :=
    trio_generates (by simp) (by decide)
  rcases exists_trioTexts with ⟨text, other, hText, hOther⟩
  rcases Catalog.runCommand_keeps_iff Programs.none hParse hRun
      with ⟨_, outcome, hOutcome, hOutput, hKeeps⟩
  refine ⟨outcome, hOutcome, ?_, ?_⟩
  · rw [hOutput]
    decide
  · intro hReads
    have hOne :=
      hKeeps.mp hReads (sampleElement "Foo" []) (by decide)
        (sampleElement "foo" []) (by decide) text other hText
        hOther (by decide)
    exact absurd hOne (by decide)

/- The workplace with a file of the elements called foo. -/
def filled
    (text : String) : FileTree :=
  { workingDirectory := ["work"]
    entries :=
      [ (["work", "out", "elements", "foo.zig"], .file text),
        (["work", "out", "elements"], .directory),
        (["work", "out"], .directory),
        (["work"], .directory),
        (["work", "c.json"], .file trioText) ] }

/- The first text makes the file. -/
theorem workplace_filled
    {text : String}
    (hWhole : Text.isWhole text) :
    (workplace trioText).writeText fooPath text =
      (filled text, .ok ()) := by
  unfold FileTree.writeText FileTree.encoded
  simp only [if_pos hWhole]
  rfl

/- The second one replaces it. -/
theorem filled_filled
    {text other : String}
    (hWhole : Text.isWhole other) :
    (filled text).writeText fooPath other =
      (filled other, .ok ()) := by
  unfold FileTree.writeText FileTree.encoded
  simp only [if_pos hWhole]
  rfl

/- A run that counts both leaves one file. -/
theorem trio_fills_one_file :
    ∃ text,
      (runCommand Programs.none .plain (workplace trioText)
          (sampleArguments [])).tree (workplace trioText) =
        filled text := by
  have hParse :
      Invocation.parse (workplace trioText).kind?
          Environment.plain.formatter (sampleArguments []) =
        .ok ⟨false, .generate (sampleOptions [] 1)⟩ := rfl
  have hRun :
      trio.Generates (sampleOptions [] 1)
        Environment.plain.console (workplace trioText) :=
    trio_generates (by simp) (by decide)
  have hWanted :
      trio.wanted (sampleOptions [] 1).only =
        [ sampleElement "Foo" [], sampleElement "foo" [],
          sampleElement "A\tB" [some unmappedCallback] ] := by
    decide
  have hThird :
      fault? (trio.textOf
          (sampleElement "A\tB" [some unmappedCallback])) =
        some (.dispatch (.noTypeName "f" "Unknown")) := by
    decide
  have hFault := fault?_eq_some_iff.mp hThird
  rcases exists_trioTexts with ⟨text, other, hText, hOther⟩
  rcases hRun.exists_run Programs.none hParse with
    ⟨log, settled, hRan, hSettled⟩
  have hNames := hRun.names
  have hWritable := hRun.writable
  rw [hWanted] at hSettled hWritable hNames
  simp only [List.forall_mem_cons] at hWritable hNames
  have hWhole := (hWritable.1 text hText).1
  have hAlso := (hWritable.2.1 other hOther).1
  cases hSettled with
  | cons hFirst hRest =>
  cases hRest with
  | cons hSecond hRest =>
  cases hRest with
  | cons hThird hRest =>
  cases hRest
  refine ⟨other, ?_⟩
  have hFoo :
      (sampleElement "Foo" []).path
          (sampleOptions [] 1).output = .ok fooPath := by
    decide
  have hAgain :
      (sampleElement "foo" []).path
          (sampleOptions [] 1).output = .ok fooPath := by
    decide
  rw [hRan, hFirst.writePlan_text _ 0 _ hFoo hText,
    hSecond.writePlan_text _ 0 _ hAgain hOther,
    hThird.writePlan_failure _ 0 _ hNames.2.2.1.1 hFault,
    Catalog.writePlan_nil _ _ hRun.noBracket]
  simp only [RunResult.tree, Plan.before, Catalog.writeSteps,
    sampleOptions, Bool.false_eq_true, if_false,
    List.cons_append, List.nil_append, Plan.runSteps,
    workplace_filled hWhole, filled_filled hAlso]
  -- What is printed then makes no difference to the tree.
  split
  · split
    · rfl
    · rfl
  · rfl

/-
  Two elements of an accepted catalog have one path, and a run
  that counts both leaves one file.
-/
theorem trio_shares_a_file :
    Catalog.loadText trioText = .ok trio ∧
      sampleElement "Foo" [] ∈ trio.elementList ∧
      sampleElement "foo" [] ∈ trio.elementList ∧
      (sampleElement "Foo" []).name
        ≠ (sampleElement "foo" []).name ∧
      Element.path ⟨0, ["out"]⟩ (sampleElement "Foo" []) =
        Element.path ⟨0, ["out"]⟩ (sampleElement "foo" []) ∧
      ((runCommand Programs.none .plain (workplace trioText)
            (sampleArguments [])).tree
          (workplace trioText)).entries.map (·.1) =
        [ ["work", "out", "elements", "foo.zig"],
          ["work", "out", "elements"], ["work", "out"],
          ["work"], ["work", "c.json"] ] := by
  refine ⟨trioText_loads, ?_, ?_, ?_, ?_, ?_⟩
  · decide
  · decide
  · decide
  · decide +kernel
  · rcases trio_fills_one_file with ⟨text, hTree⟩
    rw [hTree]
    rfl

end ElementBindings
