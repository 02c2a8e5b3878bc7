import ElementBindings.Command.Plan
import ElementBindings.Proofs.Files.Tree

/-
  Carrying out plans that print and write.

  Such a plan has two independent effects: what its steps
  print is printed in their order, and what they write ends up
  in the tree.  If all files are in one directory and can be
  written, and all texts can be encoded, no step fails.  The
  last text that is written to a location stays there; all
  other entries are as before, apart from directories that had
  to be made.  Steps that only print end at the first text that
  cannot be encoded.

  Key definitions include:
    * `Plan.isEffect`, `Plan.isSafe`
    * `Plan.printed`, `Plan.written`
    * `Plan.endingAfter`
    * `FileTree.Holds`

  Key theorems include:
    * `Plan.runSteps_log_append`, `Plan.run_before_messages`
    * `Plan.runSteps_prints`
    * `Plan.runSteps_prepared`
    * `FileTree.Holds.reads_iff`
    * `Plan.runSteps_writes`
-/

namespace ElementBindings

------------------------------------------------------------
-- Effects of Steps
------------------------------------------------------------

namespace Plan

/- A step that prints or writes. -/
def isEffect : Step → Bool
  | .print _ => true
  | .write _ _ => true
  | .log _ => false
  | .format _ _ => false

/- Such a step whose text can be encoded. -/
def isSafe : Step → Bool
  | .print text => Text.isWhole text
  | .write _ text => Text.isWhole text
  | .log _ => false
  | .format _ _ => false

/- The texts that steps print. -/
def printed : List Step → List String
  | [] => []
  | .print text :: rest => text :: printed rest
  | _ :: rest => printed rest

/- What steps write, and where. -/
def written : List Step → List (Path × String)
  | [] => []
  | .write path text :: rest => (path, text) :: written rest
  | _ :: rest => written rest

/- Debugging puts some messages before a plan, or none. -/
theorem exists_debugging
    (verbose : Bool)
    (messages : List String)
    (plan : Plan) :
    ∃ logged : List String,
      plan.debugging verbose messages =
        plan.before (logged.map (.log ⟨.debug, ·⟩)) := by
  cases verbose with
  | true => exact ⟨messages, rfl⟩
  | false => exact ⟨[], rfl⟩

------------------------------------------------------------
-- Running
------------------------------------------------------------

variable {programs : Programs}
variable {ending : Ending}
variable {above : Path}
variable {paths : List Path}

/- Debug messages only go to the log. -/
theorem runSteps_log_append
    (messages : List String)
    (outcome : Outcome)
    (rest : List Step) :
    runSteps programs ending outcome
        (messages.map (.log ⟨.debug, ·⟩) ++ rest) =
      runSteps programs ending
        { outcome with
          log := outcome.log ++ messages.map (⟨.debug, ·⟩) }
        rest := by
  induction messages generalizing outcome with
  | nil => simp
  | cons message messages ih =>
      rw [List.map_cons, List.cons_append, runSteps, ih]
      simp

/- A plan behind messages is run with a log that holds them. -/
theorem run_before_messages
    (tree : FileTree)
    (messages : List String)
    (plan : Plan) :
    (plan.before (messages.map (.log ⟨.debug, ·⟩))).run
        programs tree =
      runSteps programs plan.ending
        ⟨tree, "", messages.map (⟨.debug, ·⟩), plan.ending⟩
        plan.steps :=
  runSteps_log_append messages _ plan.steps

/- How steps end that print some texts. -/
def endingAfter
    (ending : Ending)
    (texts : List String) : Ending :=
  match texts.find? (!Text.isWhole ·) with
  | some text => .failure (.file ⟨.unencodableOutput, text⟩)
  | none => ending

/- They end as they should if all texts can be encoded. -/
theorem endingAfter_of_whole
    {texts : List String}
    (ending : Ending)
    (hWhole : ∀ text ∈ texts, Text.isWhole text) :
    endingAfter ending texts = ending := by
  have hNone : texts.find? (!Text.isWhole ·) = none := by
    rw [List.find?_eq_none]
    intro text hMember
    simp [hWhole text hMember]
  unfold endingAfter
  rw [hNone]

/-
  Steps that print leave the tree and the log as they are, and
  stop at the first text that cannot be encoded.
-/
theorem runSteps_prints
    (texts : List String)
    (outcome : Outcome) :
    runSteps programs ending outcome (texts.map .print) =
      { outcome with
        output := outcome.output
          ++ String.join (texts.takeWhile Text.isWhole)
        ending := endingAfter ending texts } := by
  induction texts generalizing outcome with
  | nil => simp [runSteps, endingAfter]
  | cons text texts ih =>
      rw [List.map_cons, runSteps]
      by_cases hWhole : Text.isWhole text
      · rw [if_pos hWhole, ih]
        simp [endingAfter, hWhole, String.append_assoc]
      · rw [if_neg hWhole]
        simp [endingAfter, hWhole]

/- Steps are safe if all their texts can be encoded. -/
theorem isSafe_of_effects
    {steps : List Step}
    (hSteps : ∀ step ∈ steps, isEffect step)
    (hPrinted : ∀ text ∈ printed steps, Text.isWhole text)
    (hWritten :
      ∀ write ∈ written steps, Text.isWhole write.2) :
    ∀ step ∈ steps, isSafe step := by
  induction steps with
  | nil => simp
  | cons step rest ih =>
      rw [List.forall_mem_cons] at hSteps ⊢
      rcases hSteps with ⟨hStep, hRest⟩
      cases step with
      | print text =>
          rw [printed, List.forall_mem_cons] at hPrinted
          exact ⟨hPrinted.1, ih hRest hPrinted.2 hWritten⟩
      | write path text =>
          rw [written, List.forall_mem_cons] at hWritten
          exact ⟨hWritten.1, ih hRest hPrinted hWritten.2⟩
      | log record => simp [isEffect] at hStep
      | format path formatter => simp [isEffect] at hStep

/- Safe steps write texts that can be encoded. -/
theorem isWhole_of_mem_written
    {steps : List Step}
    {write : Path × String}
    (hSteps : ∀ step ∈ steps, isSafe step)
    (hMember : write ∈ written steps) :
    Text.isWhole write.2 := by
  induction steps with
  | nil => simp [written] at hMember
  | cons step rest ih =>
      rw [List.forall_mem_cons] at hSteps
      rcases hSteps with ⟨hStep, hRest⟩
      cases step with
      | write path text =>
          rcases List.mem_cons.mp hMember with rfl | hLater
          · exact hStep
          · exact ih hRest hLater
      | print text => exact ih hRest hMember
      | log record => exact ih hRest hMember
      | format path formatter => exact ih hRest hMember

/-
  In a tree where the directory of all files is there, if
  there are any, steps print their texts and put their files.
-/
theorem runSteps_prepared
    (outcome : Outcome)
    {steps : List Step}
    (hPrepared :
      written steps ≠ [] →
        outcome.tree.Prepared above paths)
    (hSteps : ∀ step ∈ steps, isSafe step)
    (hPaths : ∀ write ∈ written steps, write.1 ∈ paths) :
    runSteps programs ending outcome steps =
        { outcome with
          tree := outcome.tree.putAll (written steps)
          output := outcome.output ++ String.join (printed steps)
          ending := ending } := by
  induction steps generalizing outcome with
  | nil => simp [runSteps, written, printed, FileTree.putAll]
  | cons step rest ih =>
      have hStep : isSafe step := hSteps step (by simp)
      have hRest : ∀ step ∈ rest, isSafe step := by
        intro later hLater
        exact hSteps later (List.mem_cons_of_mem step hLater)
      cases step with
      | print text =>
          have hWhole : Text.isWhole text := hStep
          have hRun :=
            ih { outcome with output := outcome.output ++ text }
              hPrepared hRest hPaths
          rw [runSteps, if_pos hWhole, hRun]
          simp [printed, written, String.append_assoc]
      | log record => simp [isSafe] at hStep
      | format path formatter => simp [isSafe] at hStep
      | write path text =>
          have hWhole : Text.isWhole text := hStep
          have hPath : path ∈ paths :=
            hPaths (path, text) (by simp [written])
          have hReady : outcome.tree.Prepared above paths :=
            hPrepared (by simp [written])
          rcases hReady.write hPath hWhole with
            ⟨hWrite, hStill⟩
          have hRun :=
            ih
              { outcome with
                tree :=
                  outcome.tree.put (outcome.tree.locate path)
                    (.file text) }
              (fun _ => hStill) hRest
              (by
                intro write hLater
                exact hPaths write (by simp [written, hLater]))
          rw [runSteps, hWrite]
          exact hRun

/-
  Making the directory of the files before the first step
  changes nothing, as the first file makes it.
-/
theorem runSteps_makeDirectories
    {outcome : Outcome}
    {made : FileTree}
    {steps : List Step}
    (hMake :
      outcome.tree.makeDirectories above = (made, .ok ()))
    (hSteps : ∀ step ∈ steps, isSafe step)
    (hParent :
      ∀ write ∈ written steps, write.1.parent = above)
    (hSome : written steps ≠ []) :
    runSteps programs ending outcome steps =
      runSteps programs ending { outcome with tree := made }
        steps := by
  induction steps generalizing outcome with
  | nil => exact absurd rfl hSome
  | cons step rest ih =>
      have hStep : isSafe step := hSteps step (by simp)
      cases step with
      | print text =>
          have hWhole : Text.isWhole text := hStep
          have hRest : ∀ step ∈ rest, isSafe step := by
            intro later hLater
            exact
              hSteps later (List.mem_cons_of_mem _ hLater)
          rw [runSteps, runSteps, if_pos hWhole, if_pos hWhole]
          exact ih hMake hRest hParent hSome
      | log record => simp [isSafe] at hStep
      | format path formatter => simp [isSafe] at hStep
      | write path text =>
          have hAbove : path.parent = above :=
            hParent (path, text) (by simp [written])
          rw [← hAbove] at hMake
          rw [runSteps, runSteps,
            FileTree.writeText_of_makeDirectories hMake]

end Plan

------------------------------------------------------------
-- Written Files
------------------------------------------------------------

namespace FileTree

/-
  What a tree is after some files in a directory were written.
  A location holds the last text that was written to it, and
  all other ones are spared.
-/
structure Holds
    (above : Path)
    (writes : List (Path × String))
    (tree final : FileTree) : Prop where
  resolve :
    ∀ write ∈ writes,
      final.resolve write.1 = .ok (tree.locate write.1)
  file :
    ∀ location write,
      writes.reverse.find?
          (fun write => tree.locate write.1 = location)
        = some write →
      final.entry? location = some (.file write.2)
  other :
    ∀ location,
      (∀ write ∈ writes, tree.locate write.1 ≠ location) →
        Spares above tree final location
  unchanged : writes = [] → final = tree

/- A tree where nothing was written holds what it held. -/
theorem Holds.nothing
    (above : Path)
    (tree : FileTree) :
    Holds above [] tree tree := by
  constructor
  · simp
  · simp
  · intro location _
    exact .inl rfl
  · intro _
    rfl

/- What a path to a file reads is what was last written there. -/
theorem Holds.exists_read?
    {above : Path}
    {writes : List (Path × String)}
    {tree final : FileTree}
    {write : Path × String}
    (hHolds : Holds above writes tree final)
    (hMember : write ∈ writes) :
    ∃ last ∈ writes,
      tree.locate last.1 = tree.locate write.1 ∧
        final.read? write.1 = some (.file last.2) := by
  have hRead :
      final.read? write.1 =
        final.entry? (tree.locate write.1) := by
    unfold read?
    rw [hHolds.resolve write hMember]
  cases hFound :
      writes.reverse.find?
        (fun other =>
          tree.locate other.1 = tree.locate write.1) with
  | none =>
      rw [List.find?_eq_none] at hFound
      exact
        absurd (decide_eq_true rfl)
          (hFound write (List.mem_reverse.mpr hMember))
  | some last =>
      have hLast := hHolds.file _ last hFound
      have hSame := List.find?_some hFound
      have hListed := List.mem_of_find?_eq_some hFound
      refine
        ⟨last, List.mem_reverse.mp hListed, by simpa using hSame,
          ?_⟩
      rw [hRead, hLast]

/-
  All files can be read as they were written exactly if no two
  texts were written to one location.
-/
theorem Holds.reads_iff
    {above : Path}
    {writes : List (Path × String)}
    {tree final : FileTree}
    (hHolds : Holds above writes tree final) :
    (∀ write ∈ writes,
        final.read? write.1 = some (.file write.2)) ↔
      ∀ first ∈ writes, ∀ second ∈ writes,
        tree.locate first.1 = tree.locate second.1 →
          first.2 = second.2 := by
  constructor
  · intro hReads first hFirst second hSecond hSame
    have hBoth :
        final.read? first.1 = final.read? second.1 := by
      unfold read?
      rw [hHolds.resolve first hFirst,
        hHolds.resolve second hSecond, hSame]
    rw [hReads first hFirst, hReads second hSecond] at hBoth
    simpa using hBoth
  · intro hOne write hMember
    rcases hHolds.exists_read? hMember with
      ⟨last, hLast, hSame, hRead⟩
    rw [hRead, hOne last hLast write hMember hSame]

/-
  Putting files into a tree with their directory made leaves
  them in the tree from which the directory was made.
-/
theorem holds_putAll
    {tree base : FileTree}
    {above : Path}
    {writes : List (Path × String)}
    (hSome : writes ≠ [])
    (hWhole : ∀ write ∈ writes, Text.isWhole write.2)
    (hPrepared : base.Prepared above (writes.map (·.1)))
    (hGrows : Grows (OnTheWay tree above) tree base) :
    Holds above writes tree (base.putAll writes) := by
  have hLocate :
      ∀ path, base.locate path = tree.locate path :=
    locate_eq hGrows.keeps
  have hBelow :
      ∀ write ∈ writes, base.locate write.1 ≠ [] := by
    intro write hMember hRoot
    have hFree :=
      hPrepared.free write.1 (List.mem_map_of_mem hMember)
    rw [hRoot] at hFree
    simp at hFree
  constructor
  · intro write hMember
    have hPaths :
        ∀ write ∈ writes, write.1 ∈ writes.map (·.1) :=
      fun write hMember => List.mem_map_of_mem hMember
    have hResolve :=
      (hPrepared.putAll hPaths hWhole).resolve write.1
        (hPaths write hMember)
    rw [locate_putAll, hLocate] at hResolve
    exact hResolve
  · intro location write hFound
    rw [entry?_putAll base hBelow]
    simp only [hLocate]
    rw [hFound]
  · intro location hAway
    have hNone :
        writes.reverse.find?
          (fun write => tree.locate write.1 = location) =
          none := by
      rw [List.find?_eq_none]
      intro write hMember
      simpa using hAway write (List.mem_reverse.mp hMember)
    unfold Spares
    rw [entry?_putAll base hBelow]
    simp only [hLocate]
    rw [hNone]
    exact hGrows.entry location
  · intro hNothing
    exact absurd hNothing hSome

end FileTree

/-
  Safe steps, with files in one directory that can all be
  written, print their texts and leave their files.
-/
theorem Plan.runSteps_writes
    (programs : Programs)
    (ending : Ending)
    (outcome : Outcome)
    {above : Path}
    {steps : List Step}
    (hSteps : ∀ step ∈ steps, isSafe step)
    (hParent :
      ∀ write ∈ written steps, write.1.parent = above)
    (hWrite :
      ∀ write ∈ written steps,
        outcome.tree.CanWrite write.1) :
    ∃ final,
      runSteps programs ending outcome steps =
          { outcome with
            tree := final
            output := outcome.output ++ String.join (printed steps)
            ending := ending } ∧
        FileTree.Holds above (written steps) outcome.tree
          final := by
  have hRun :
      ∀ base : FileTree,
        (written steps ≠ [] →
          base.Prepared above ((written steps).map (·.1))) →
        runSteps programs ending { outcome with tree := base }
            steps =
          { outcome with
            tree := base.putAll (written steps)
            output := outcome.output ++ String.join (printed steps)
            ending := ending } := by
    intro base hPrepared
    exact
      runSteps_prepared { outcome with tree := base }
        hPrepared hSteps
        fun write hMember => List.mem_map_of_mem hMember
  by_cases hSome : written steps = []
  · refine ⟨outcome.tree, ?_, ?_⟩
    · have hNothing :=
        hRun outcome.tree fun hWritten => absurd hSome hWritten
      rw [hSome] at hNothing
      exact hNothing
    · rw [hSome]
      exact FileTree.Holds.nothing above outcome.tree
  · have hPaths : (written steps).map (·.1) ≠ [] := by
      simpa using hSome
    have hParents :
        ∀ path ∈ (written steps).map (·.1),
          path.parent = above := by
      intro path hPath
      rcases List.mem_map.mp hPath with ⟨write, hMember, rfl⟩
      exact hParent write hMember
    have hAll :
        ∀ path ∈ (written steps).map (·.1),
          outcome.tree.CanWrite path := by
      intro path hPath
      rcases List.mem_map.mp hPath with ⟨write, hMember, rfl⟩
      exact hWrite write hMember
    rcases FileTree.exists_prepared hPaths hParents hAll with
      ⟨base, hMake, hPrepared, hGrows⟩
    refine ⟨base.putAll (written steps), ?_, ?_⟩
    · rw [runSteps_makeDirectories hMake hSteps hParent hSome]
      exact hRun base fun _ => hPrepared
    · exact
        FileTree.holds_putAll hSome
          (fun write => isWhole_of_mem_written hSteps)
          hPrepared hGrows

end ElementBindings
