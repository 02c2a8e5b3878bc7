import ElementBindings.Proofs.Files.Tree

/-
  Writing texts to files, one after the other.

  In a tree where everything stands in a directory, a text is
  either written to the place that its path names, or no file
  is changed at all.  In both cases missing directories on the
  way may be made, and nothing else.  Nothing is written exactly
  where a path is barred: it is unfit by itself, a file stands
  above it, or it leads to a directory.  Of a text that cannot
  be encoded an empty file is left, and the write fails.  After
  many writes a path therefore holds what was written there by
  the last one that was not barred.

  Key definitions include:
    * `FileTree.Rooted`
    * `FileTree.Blocked`, `FileTree.Barred`
    * `FileTree.writeEach`, `FileTree.reaching`

  Key theorems include:
    * `FileTree.makeChain_error`
    * `FileTree.CanWrite.exists_writeText`
    * `FileTree.exists_writeText_of_not`
    * `FileTree.Rooted.writeText`, `FileTree.Rooted.canWrite_iff`
    * `FileTree.holdsLast_writeEach`
    * `FileTree.Rooted.writes_reach_or_spare`
-/

namespace ElementBindings

namespace FileTree

variable {tree made : FileTree}
variable {location : Location}
variable {path : Path}

------------------------------------------------------------
-- Rooted Trees
------------------------------------------------------------

/-
  Everything in a tree stands in a directory, and its working
  directory is there.
-/
structure Rooted
    (tree : FileTree) : Prop where
  workingDirectory :
    tree.entry? tree.workingDirectory = some .directory
  above :
    ∀ location entry,
      tree.entry? location = some entry →
        tree.entry? location.dropLast = some .directory

/- Paths start at a directory. -/
theorem Rooted.start
    (hRooted : tree.Rooted)
    (root : Nat) :
    tree.entry? (tree.locate ⟨root, []⟩) = some .directory := by
  unfold locate FileTree.start
  by_cases hRelative : root = 0
  · simp [hRelative, hRooted.workingDirectory]
  · simp [hRelative]

/-
  A free place that names lead to stands in a directory.  By
  induction on the names, each of which is followed from a
  directory.
-/
theorem Rooted.above_of_follow
    (hRooted : tree.Rooted)
    {start : Location}
    {names : List String}
    (hStart :
      tree.entry? start = none →
        tree.entry? start.dropLast = some .directory)
    (hFollow : tree.follow start names = .ok location)
    (hFree : tree.entry? location = none) :
    tree.entry? location.dropLast = some .directory := by
  induction names generalizing start with
  | nil =>
      have hHere : start = location := Except.ok.inj hFollow
      rw [← hHere] at hFree ⊢
      exact hStart hFree
  | cons name rest ih =>
      unfold follow at hFollow
      split at hFollow
      · simp at hFollow
      · next hDirectory =>
          apply ih _ hFollow
          intro hNext
          unfold step at hNext ⊢
          split
          · next hSame =>
              rw [if_pos hSame, hDirectory] at hNext
              simp at hNext
          · next hOther =>
              rw [if_neg hOther] at hNext
              split
              · next hUp =>
                  have hAbove :=
                    hRooted.above start _ hDirectory
                  rw [if_pos hUp, hAbove] at hNext
                  simp at hNext
              · rw [List.dropLast_concat]
                exact hDirectory
      · simp at hFollow

/- So does everything that a path leads to. -/
theorem Rooted.above_of_resolve
    (hRooted : tree.Rooted)
    (hResolve : tree.resolve path = .ok location) :
    tree.entry? location.dropLast = some .directory := by
  cases hEntry : tree.entry? location with
  | some entry => exact hRooted.above location entry hEntry
  | none =>
      have hFollow := (resolve_eq_ok_iff.mp hResolve).2
      refine hRooted.above_of_follow ?_ hFollow hEntry
      intro hNone
      have hStart := hRooted.start path.root
      unfold locate at hStart
      rw [List.foldl_nil, hNone] at hStart
      simp at hStart

/- A tree stays rooted with more in one of its directories. -/
theorem Rooted.put
    (hRooted : tree.Rooted)
    (hAbove : tree.entry? location.dropLast = some .directory)
    (hEntry : tree.entry? location ≠ some .directory)
    (entry : Entry) :
    (tree.put location entry).Rooted := by
  have hKeeps := keeps_put hEntry entry
  constructor
  · exact hKeeps.directory _ hRooted.workingDirectory
  · intro other found hFound
    apply hKeeps.directory
    by_cases hSame : other = location
    · rw [hSame]
      exact hAbove
    · rw [entry?_put_of_ne tree entry hSame] at hFound
      exact hRooted.above other found hFound

/- A rooted tree stays so when a directory is attempted. -/
theorem Rooted.attempt
    (hRooted : tree.Rooted)
    (path : Path) :
    (tree.attempt path).1.Rooted := by
  rcases tree.attempt_cases path with hMake | hSame
  · rcases makeDirectory_eq_ok_iff.mp hMake with
      ⟨location, hResolve, hFree, hMade⟩
    rw [hMade]
    exact
      hRooted.put (hRooted.above_of_resolve hResolve)
        (by simp [hFree]) .directory
  · rw [hSame]
    exact hRooted

/- And when directories are made, also if one cannot be made. -/
theorem Rooted.makeChain
    (hRooted : tree.Rooted)
    (root : Nat)
    (names : List String) :
    (tree.makeChain root names).1.Rooted :=
  makeChain_induction
    (fun _ parts _ hBetween => hBetween.attempt ⟨root, parts⟩)
    hRooted

------------------------------------------------------------
-- Barred Paths
------------------------------------------------------------

/- A file stands somewhere on the way to a path. -/
def Blocked
    (tree : FileTree)
    (path : Path) : Prop :=
  ∃ location entry,
    OnTheWay tree path location ∧
      tree.entry? location = some entry ∧
      entry ≠ .directory

/- What blocks the way above also blocks the way further down. -/
theorem Blocked.below
    {root : Nat}
    {parts : List String}
    (hBlocked : tree.Blocked ⟨root, parts⟩)
    (name : String) :
    tree.Blocked ⟨root, parts ++ [name]⟩ := by
  rcases hBlocked with ⟨location, entry, hWay, hFile⟩
  exact ⟨location, entry, hWay.below name, hFile⟩

/- Files do not come to stand on the way when a tree grows. -/
theorem Blocked.before
    {new : Location → Prop}
    (hGrows : Grows new tree made)
    (hBlocked : made.Blocked path) :
    tree.Blocked path := by
  rcases hBlocked with
    ⟨location, entry, ⟨parts, hPrefix, hLocation⟩, hEntry,
      hFile⟩
  refine
    ⟨location, entry, ⟨parts, hPrefix, ?_⟩, ?_, hFile⟩
  · rw [hLocation, locate_eq hGrows.keeps]
  · rcases hGrows.entry location with hSame | ⟨_, hNew, _⟩
    · rw [← hSame]
      exact hEntry
    · rw [hNew, Option.some.injEq] at hEntry
      exact absurd hEntry.symm hFile

/- Names that cannot be followed miss something, or meet a file. -/
theorem follow_error
    {start : Location}
    {names : List String}
    {error : FileError}
    (hFollow : tree.follow start names = .error error) :
    error = .notFound ∨
      ∃ parts entry,
        parts <+: names ∧
          tree.entry? (parts.foldl step start) = some entry ∧
          entry ≠ .directory := by
  induction names generalizing start with
  | nil => simp [follow] at hFollow
  | cons name rest ih =>
      unfold follow at hFollow
      split at hFollow
      · exact .inl (Except.error.inj hFollow).symm
      · rcases ih hFollow with hMissing | hMet
        · exact .inl hMissing
        · rcases hMet with ⟨parts, entry, hPrefix, hFile⟩
          exact
            .inr
              ⟨name :: parts, entry,
                (List.prefix_cons_inj name).mpr hPrefix,
                hFile⟩
      · next entry hOther hEntry =>
          refine .inr ⟨[], entry, List.nil_prefix, hEntry, ?_⟩
          rintro rfl
          exact hOther rfl

/- A path that leads nowhere misses something, or is barred. -/
theorem resolve_error
    {cause : FileCause}
    (hResolve : tree.resolve path = .error cause) :
    cause = .refused .notFound ∨ ¬ IsFit path ∨
      tree.Blocked path := by
  by_cases hFit : IsFit path
  · cases hFollow :
        tree.follow (tree.start path.root) path.parts with
    | ok location =>
        have hFound := resolve_eq_ok_iff.mpr ⟨hFit, hFollow⟩
        rw [hFound] at hResolve
        simp at hResolve
    | error error =>
        have hRefused := resolve_of_follow_error hFit hFollow
        rw [hRefused, Except.error.injEq] at hResolve
        rcases follow_error hFollow with rfl | hMet
        · exact .inl hResolve.symm
        · rcases hMet with ⟨parts, entry, hPrefix, hFile⟩
          exact
            .inr
              (.inr ⟨_, entry, ⟨parts, hPrefix, rfl⟩, hFile⟩)
  · exact .inr (.inl hFit)

/-
  Where a directory cannot be made and is not there, something
  above is missing, or the path is barred.
-/
theorem attempt_error
    {fault : FileFault}
    (hAttempt : (tree.attempt path).2 = .error fault) :
    tree.makeDirectory path = .error (.refused .notFound) ∨
      ¬ IsFit path ∨ tree.Blocked path := by
  cases hResolve : tree.resolve path with
  | error cause =>
      rcases resolve_error hResolve with rfl | hBarred
      · left
        simp [makeDirectory, hResolve, bind, Except.bind]
      · exact .inr hBarred
  | ok location =>
      cases hEntry : tree.entry? location with
      | none =>
          have hMake :
              tree.makeDirectory path =
                .ok (tree.put location .directory) :=
            makeDirectory_eq_ok_iff.mpr
              ⟨location, hResolve, hEntry, rfl⟩
          simp [attempt, hMake] at hAttempt
      | some entry =>
          have hMake :
              tree.makeDirectory path
                = .error (.refused .alreadyExists) := by
            simp [makeDirectory, hResolve, hEntry, bind,
              Except.bind]
          by_cases hHere : entry = .directory
          · rw [hHere] at hEntry
            have hDirectory : tree.isDirectory path :=
              (isDirectory_iff tree path).mpr
                ⟨location, hResolve, hEntry⟩
            simp [attempt, hMake, unlessDirectory,
              hDirectory] at hAttempt
          · have hLocation := resolve_eq_locate hResolve
            exact
              .inr
                (.inr
                  ⟨location, entry,
                    ⟨path.parts, List.prefix_rfl, hLocation⟩,
                    hEntry, hHere⟩)

/- Names can be followed further from where others lead. -/
theorem follow_append
    {start : Location}
    {names : List String}
    (hFollow : tree.follow start names = .ok location)
    (more : List String) :
    tree.follow start (names ++ more) =
      tree.follow location more := by
  induction names generalizing start with
  | nil =>
      have hHere : start = location := Except.ok.inj hFollow
      rw [hHere, List.nil_append]
  | cons name rest ih =>
      unfold follow at hFollow
      split at hFollow
      · simp at hFollow
      · next hDirectory =>
          rw [List.cons_append, follow, hDirectory]
          exact ih hFollow
      · simp at hFollow

/- From a directory a path leads one name further. -/
theorem resolve_in_directory
    {root : Nat}
    {parts : List String}
    {name : String}
    (hDirectory : tree.isDirectory ⟨root, parts⟩)
    (hFit : IsFit ⟨root, parts ++ [name]⟩) :
    tree.resolve ⟨root, parts ++ [name]⟩ =
      .ok (tree.locate ⟨root, parts ++ [name]⟩) := by
  rcases (isDirectory_iff tree _).mp hDirectory with
    ⟨location, hResolve, hEntry⟩
  have hLocation := resolve_eq_locate hResolve
  have hFollow :=
    follow_append (resolve_eq_ok_iff.mp hResolve).2 [name]
  rw [resolve_eq_ok_iff]
  refine ⟨hFit, ?_⟩
  rw [hFollow]
  unfold follow follow
  rw [hEntry, hLocation]
  simp [locate]

/-
  A chain of directories of a rooted tree can be made unless
  the path is barred.  By induction on the names, last one
  first: once those above are there, nothing is missing.
-/
theorem makeChain_error
    (hRooted : tree.Rooted)
    {root : Nat}
    {names : List String}
    {fault : FileFault}
    (hChain : (tree.makeChain root names).2 = .error fault) :
    ¬ IsFit ⟨root, names.reverse⟩ ∨
      tree.Blocked ⟨root, names.reverse⟩ := by
  induction names generalizing fault with
  | nil =>
      refine .inl fun hFit => ?_
      have hResolve :
          tree.resolve ⟨root, []⟩ = .ok (tree.start root) :=
        resolve_eq_ok_iff.mpr ⟨hFit, rfl⟩
      have hMade :=
        makeDirectories_of_isDirectory
          ((isDirectory_iff tree _).mpr
            ⟨_, hResolve, hRooted.start root⟩)
      have hChain' :
          (tree.makeDirectories ⟨root, []⟩).2 = .error fault :=
        hChain
      rw [hMade] at hChain'
      simp at hChain'
  | cons name above ih =>
      rw [List.reverse_cons]
      by_cases hMissing :
          tree.makeDirectory ⟨root, (name :: above).reverse⟩
            = .error (.refused .notFound)
      · rw [makeChain_of_notFound hMissing] at hChain
        have hGrows := makeChain_grows tree root above
        rcases hAbove : tree.makeChain root above with
          ⟨between, result⟩
        rw [hAbove] at hChain hGrows ih
        cases result with
        | error other =>
            rcases ih rfl with hUnfit | hBlocked
            · exact .inl fun hFit => hUnfit hFit.above
            · exact .inr (hBlocked.below name)
        | ok done =>
            rw [List.reverse_cons] at hChain
            rcases attempt_error hChain with
              hAgain | hUnfit | hBlocked
            · left
              intro hFit
              have hResolve :=
                resolve_in_directory
                  (isDirectory_of_makeChain hAbove) hFit
              simp only [makeDirectory, hResolve, bind,
                Except.bind] at hAgain
              split at hAgain
              · simp at hAgain
              · simp at hAgain
            · exact .inl hUnfit
            · exact .inr (hBlocked.before hGrows)
      · rw [makeChain_of_found hMissing] at hChain
        rw [List.reverse_cons] at hChain hMissing
        exact (attempt_error hChain).resolve_left hMissing

------------------------------------------------------------
-- Directories Above a Path
------------------------------------------------------------

/- Names that can be followed lead through directories. -/
theorem directory_of_follow
    {start : Location}
    {names parts : List String}
    (hFollow : tree.follow start names = .ok location)
    (hDirectory : tree.entry? location = some .directory)
    (hPrefix : parts <+: names) :
    tree.entry? (parts.foldl step start) =
      some .directory := by
  rcases hPrefix with ⟨more, rfl⟩
  induction parts generalizing start with
  | nil =>
      cases more with
      | nil =>
          have hHere : start = location :=
            Except.ok.inj hFollow
          rw [List.foldl_nil, hHere]
          exact hDirectory
      | cons name rest =>
          rw [List.nil_append, follow] at hFollow
          split at hFollow
          · simp at hFollow
          · next hStart => exact hStart
          · simp at hFollow
  | cons name rest ih =>
      rw [List.cons_append, follow] at hFollow
      split at hFollow
      · simp at hFollow
      · exact ih hFollow
      · simp at hFollow

/- Only directories stand on the way to a directory. -/
theorem directory_of_onTheWay
    (hDirectory : tree.isDirectory path)
    (hWay : OnTheWay tree path location) :
    tree.entry? location = some .directory := by
  rcases (isDirectory_iff tree path).mp hDirectory with
    ⟨reached, hResolve, hEntry⟩
  rcases hWay with ⟨parts, hPrefix, rfl⟩
  exact
    directory_of_follow (resolve_eq_ok_iff.mp hResolve).2 hEntry
      hPrefix

/- A path with such a directory above leads to its place. -/
theorem resolve_below_directory
    (hDirectory : tree.isDirectory path.parent)
    (hFit : IsFit path) :
    tree.resolve path = .ok (tree.locate path) := by
  rcases path with ⟨root, parts⟩
  rcases List.eq_nil_or_concat parts with rfl | ⟨above, name, rfl⟩
  · exact resolve_eq_ok_iff.mpr ⟨hFit, rfl⟩
  · rw [List.concat_eq_append] at hDirectory hFit ⊢
    rw [Path.parent, List.dropLast_concat] at hDirectory
    exact resolve_in_directory hDirectory hFit

------------------------------------------------------------
-- Writing Once
------------------------------------------------------------

/-
  Something keeps a text from being written: the path is unfit,
  a file stands on the way, or what is left has a directory at
  its place.
-/
inductive Barred
    (tree left : FileTree)
    (path : Path) : Prop where
  | unfit (hUnfit : ¬ IsFit path)
  | file (hBlocked : tree.Blocked path.parent)
  | directory
      (hDirectory :
        left.entry? (tree.locate path) = some .directory)

/- How a write ends that reaches its file. -/
def written
    (text : String) : Except FileFault Unit :=
  if Text.isWhole text then
    .ok ()
  else
    .error ⟨.unencodableText, text⟩

/-
  A write that can be carried out puts what can be encoded in
  a tree with the directory, and fails only for the text.
-/
theorem CanWrite.exists_writeText
    (hCan : tree.CanWrite path)
    (text : String) :
    ∃ between,
      tree.makeDirectories path.parent = (between, .ok ()) ∧
        between.resolve path = .ok (tree.locate path) ∧
        between.entry? (tree.locate path)
          ≠ some .directory ∧
        tree.writeText path text =
          (between.put (tree.locate path)
              (.file (encoded text)),
            written text) := by
  rcases writeText_ok hCan with
    ⟨between, hMake, location, hResolve, hFree⟩
  have hGrows := makeDirectories_grows hMake
  have hLocation := resolve_eq_locate hResolve
  rw [locate_eq hGrows.keeps] at hLocation
  rw [hLocation] at hResolve hFree
  refine ⟨between, hMake, hResolve, hFree, ?_⟩
  have hPut :=
    (putText_eq_ok_iff (encoded text)).mpr
      ⟨_, hResolve, hFree, rfl⟩
  unfold writeText written
  rw [hMake]
  simp only [hPut]
  split
  · rfl
  · rfl

/- A text with half of a pair leaves what the empty one leaves. -/
theorem CanWrite.writeText_of_half
    {text : String}
    (hCan : tree.CanWrite path)
    (hHalf : ¬ Text.isWhole text) :
    tree.writeText path text =
      ((tree.writeText path "").1,
        .error ⟨.unencodableText, text⟩) := by
  rcases hCan.exists_writeText text with
    ⟨between, hMake, _, _, hWrite⟩
  rcases hCan.exists_writeText "" with
    ⟨other, hOther, _, _, hEmpty⟩
  rw [hMake] at hOther
  have hSame : between = other := (Prod.mk.inj hOther).1
  have hNothing : encoded text = encoded "" := by
    unfold encoded
    rw [if_neg hHalf]
    rfl
  rw [hWrite, hEmpty, hSame, hNothing]
  unfold written
  rw [if_neg hHalf]

/-
  One that cannot leaves the tree with directories that were
  made on the way, whatever its text is.
-/
theorem exists_writeText_of_not
    (hCannot : ¬ tree.CanWrite path)
    (text : String) :
    ∃ left fault,
      tree.writeText path text = (left, .error fault) ∧
        (tree.makeDirectories path.parent =
            (left, .error fault) ∨
          tree.makeDirectories path.parent = (left, .ok ()) ∧
            ∀ more, ∃ cause,
              left.putText path more = .error cause) := by
  unfold CanWrite at hCannot
  unfold writeText at hCannot ⊢
  rcases hMake : tree.makeDirectories path.parent with
    ⟨left, result⟩
  rw [hMake] at hCannot
  cases result with
  | error fault => exact ⟨left, fault, rfl, .inl rfl⟩
  | ok done =>
      have hPut :
          ∀ more, ∃ cause,
            left.putText path more = .error cause := by
        intro more
        cases hMore : left.putText path more with
        | error cause => exact ⟨cause, rfl⟩
        | ok filled =>
            exfalso
            apply hCannot
            rcases (putText_eq_ok_iff more).mp hMore with
              ⟨location, hResolve, hFree, _⟩
            have hEmpty :=
              (putText_eq_ok_iff (encoded "")).mpr
                ⟨location, hResolve, hFree, rfl⟩
            dsimp only
            rw [hEmpty]
            rfl
      rcases hPut (encoded text) with ⟨cause, hCause⟩
      refine
        ⟨left, ⟨cause, path.text⟩, ?_, .inr ⟨rfl, hPut⟩⟩
      simp only [hCause]
      rfl

/- Directories that are made spare all that was there. -/
theorem Grows.spares
    {above : Path}
    (hGrows : Grows (OnTheWay tree above) tree made)
    (location : Location) :
    Spares above tree made location :=
  hGrows.entry location

/- What is written stands at its path, and all else stays. -/
theorem CanWrite.spares
    (hCan : tree.CanWrite path)
    (text : String) :
    (tree.writeText path text).1.read? path =
        some (.file (encoded text)) ∧
      ∀ location,
        location ≠ tree.locate path →
          Spares path.parent tree
            (tree.writeText path text).1 location := by
  rcases hCan.exists_writeText text with
    ⟨between, hMake, hResolve, hFree, hWrite⟩
  have hKeeps := keeps_put hFree (.file (encoded text))
  have hBelow : tree.locate path ≠ [] := by
    intro hRoot
    rw [hRoot] at hFree
    simp at hFree
  rw [hWrite]
  constructor
  · unfold read?
    rw [resolve_mono hKeeps hResolve]
    exact entry?_put_self between hBelow _
  · intro location hOther
    have hSpares :=
      (makeDirectories_grows hMake).spares location
    unfold Spares at hSpares ⊢
    rw [entry?_put_of_ne between _ hOther]
    exact hSpares

/- A text that is not written changes no file. -/
theorem spares_of_cannotWrite
    (hCannot : ¬ tree.CanWrite path)
    (text : String)
    (location : Location) :
    Spares path.parent tree (tree.writeText path text).1
      location := by
  rcases exists_writeText_of_not hCannot text with
    ⟨left, fault, hWrite, hMake | ⟨hMake, _⟩⟩
  · rw [hWrite]
    exact (makeDirectories_grows hMake).spares location
  · rw [hWrite]
    exact (makeDirectories_grows hMake).spares location

/- Directories that are kept twice are kept. -/
theorem Keeps.trans
    {between : FileTree}
    (hFirst : tree.Keeps between)
    (hSecond : between.Keeps made) :
    tree.Keeps made := by
  constructor
  · rw [hSecond.workingDirectory, hFirst.workingDirectory]
  · intro location hDirectory
    exact
      hSecond.directory location
        (hFirst.directory location hDirectory)

/- In any case a tree keeps its directories. -/
theorem keeps_writeText
    (tree : FileTree)
    (path : Path)
    (text : String) :
    tree.Keeps (tree.writeText path text).1 := by
  by_cases hCan : tree.CanWrite path
  · rcases hCan.exists_writeText text with
      ⟨between, hMake, _, hFree, hWrite⟩
    rw [hWrite]
    exact
      (makeDirectories_grows hMake).keeps.trans
        (keeps_put hFree _)
  · rcases exists_writeText_of_not hCan text with
      ⟨left, fault, hWrite, hMake | ⟨hMake, _⟩⟩
    · rw [hWrite]
      exact (makeDirectories_grows hMake).keeps
    · rw [hWrite]
      exact (makeDirectories_grows hMake).keeps

/- A rooted tree stays so when a text is written, or is not. -/
theorem Rooted.writeText
    (hRooted : tree.Rooted)
    (path : Path)
    (text : String) :
    (tree.writeText path text).1.Rooted := by
  have hBetween :
      (tree.makeDirectories path.parent).1.Rooted :=
    hRooted.makeChain path.parent.root
      path.parent.parts.reverse
  by_cases hCan : tree.CanWrite path
  · rcases hCan.exists_writeText text with
      ⟨between, hMake, hResolve, hFree, hWrite⟩
    rw [hMake] at hBetween
    rw [hWrite]
    exact
      hBetween.put (hBetween.above_of_resolve hResolve) hFree _
  · rcases exists_writeText_of_not hCan text with
      ⟨left, fault, hWrite, hMake | ⟨hMake, _⟩⟩
    · rw [hMake] at hBetween
      rw [hWrite]
      exact hBetween
    · rw [hMake] at hBetween
      rw [hWrite]
      exact hBetween

/- In a rooted tree a write that cannot be done is barred. -/
theorem Rooted.barred_of_cannotWrite
    (hRooted : tree.Rooted)
    (hCannot : ¬ tree.CanWrite path)
    (text : String) :
    Barred tree (tree.writeText path text).1 path := by
  rcases exists_writeText_of_not hCannot text with
    ⟨left, fault, hWrite, hMake | ⟨hMake, hPut⟩⟩
  · have hChain :
        (tree.makeChain path.parent.root
          path.parent.parts.reverse).2 = .error fault :=
      congrArg Prod.snd hMake
    have hReason := makeChain_error hRooted hChain
    rw [List.reverse_reverse] at hReason
    rcases hReason with hUnfit | hBlocked
    · exact .unfit fun hFit => hUnfit hFit.parent
    · exact .file hBlocked
  · have hGrows := makeDirectories_grows hMake
    have hDirectory := isDirectory_of_makeDirectories hMake
    rw [hWrite]
    by_cases hFit : IsFit path
    · have hResolve := resolve_below_directory hDirectory hFit
      rw [locate_eq hGrows.keeps] at hResolve
      apply Barred.directory
      by_contra hFree
      rcases hPut text with ⟨cause, hCause⟩
      have hFilled :=
        (putText_eq_ok_iff text).mpr ⟨_, hResolve, hFree, rfl⟩
      rw [hCause] at hFilled
      simp at hFilled
    · exact .unfit hFit

/- One that can be done is not barred. -/
theorem CanWrite.not_barred
    (hCan : tree.CanWrite path)
    (text : String) :
    ¬ Barred tree (tree.writeText path text).1 path := by
  rcases hCan.exists_writeText text with
    ⟨between, hMake, hResolve, hFree, hWrite⟩
  have hGrows := makeDirectories_grows hMake
  have hDirectory := isDirectory_of_makeDirectories hMake
  rw [hWrite]
  rintro (hUnfit | ⟨location, entry, hWay, hEntry, hFile⟩ | hHere)
  · exact hUnfit (resolve_eq_ok_iff.mp hResolve).1
  · -- What is on the way has become a directory, unlike a file.
    have hWay' : OnTheWay between path.parent location := by
      rcases hWay with ⟨parts, hPrefix, hLocation⟩
      exact
        ⟨parts, hPrefix,
          hLocation.trans (locate_eq hGrows.keeps _).symm⟩
    have hThere := directory_of_onTheWay hDirectory hWay'
    rcases hGrows.entry location with
      hSame | ⟨hNone, _, _⟩
    · rw [hThere, hEntry, Option.some.injEq] at hSame
      exact hFile hSame.symm
    · simp [hEntry] at hNone
  · have hBelow : tree.locate path ≠ [] := by
      intro hRoot
      rw [hRoot] at hFree
      simp at hFree
    rw [entry?_put_self between hBelow] at hHere
    simp at hHere

/- So a text can be written exactly where nothing bars it. -/
theorem Rooted.canWrite_iff
    (hRooted : tree.Rooted)
    (text : String) :
    tree.CanWrite path ↔
      ¬ Barred tree (tree.writeText path text).1 path := by
  constructor
  · intro hCan
    exact hCan.not_barred text
  · intro hFree
    by_contra hCannot
    exact hFree (hRooted.barred_of_cannotWrite hCannot text)

------------------------------------------------------------
-- Writing Again and Again
------------------------------------------------------------

/- Write texts in turn; one that fails does not stop the rest. -/
def writeEach : FileTree → List (Path × String) → FileTree
  | tree, [] => tree
  | tree, (path, text) :: rest =>
      writeEach (tree.writeText path text).1 rest

/- Those of some writes that reach their files, in order. -/
def reaching :
    FileTree →
    List (Path × String) →
    List (Path × String)
  | _, [] => []
  | tree, (path, text) :: rest =>
      let later := reaching (tree.writeText path text).1 rest
      if tree.CanWrite path then
        (path, text) :: later
      else
        later

/- The last of some writes to a location. -/
def lastAt?
    (tree : FileTree)
    (location : Location)
    (writes : List (Path × String)) : Option (Path × String) :=
  writes.reverse.find? fun write =>
    tree.locate write.1 = location

/-
  A location holds what the last write to it has left; without
  one it holds what it held, or a directory that is new.
-/
def HoldsLast
    (tree made : FileTree)
    (location : Location) :
    Option (Path × String) →
    Prop
  | some write =>
      made.entry? location = some (.file (encoded write.2))
  | none =>
      made.entry? location = tree.entry? location ∨
        tree.entry? location = none ∧
          made.entry? location = some .directory

/- Of writes to a location the last one counts. -/
theorem lastAt?_cons
    (tree : FileTree)
    (location : Location)
    (write : Path × String)
    (rest : List (Path × String)) :
    tree.lastAt? location (write :: rest) =
      (tree.lastAt? location rest).or
        (if tree.locate write.1 = location then some write
         else none) := by
  unfold lastAt?
  rw [List.reverse_cons, List.find?_append]
  congr 1
  by_cases hHere : tree.locate write.1 = location
  · simp [hHere]
  · simp [hHere]

/- Where directories are kept, it is the same write. -/
theorem lastAt?_of_keeps
    (hKeeps : tree.Keeps made)
    (location : Location)
    (writes : List (Path × String)) :
    made.lastAt? location writes =
      tree.lastAt? location writes := by
  unfold lastAt?
  simp only [locate_eq hKeeps]

/- What is held after a tree was spared is held after all. -/
theorem HoldsLast.after
    {between : FileTree}
    {above : Path}
    {last : Option (Path × String)}
    (hSpares : Spares above tree between location)
    (hHolds : HoldsLast between made location last) :
    HoldsLast tree made location last := by
  cases last with
  | some write => exact hHolds
  | none =>
      rcases hHolds with hSame | ⟨hFree, hNew⟩
      · rcases hSpares with hOld | ⟨hNone, hDirectory, _⟩
        · exact .inl (hSame.trans hOld)
        · exact .inr ⟨hNone, hSame.trans hDirectory⟩
      · rcases hSpares with hOld | ⟨_, hDirectory, _⟩
        · exact .inr ⟨hOld.symm.trans hFree, hNew⟩
        · simp [hFree] at hDirectory

/- A tree stays rooted whatever is written. -/
theorem Rooted.writeEach
    (hRooted : tree.Rooted)
    (writes : List (Path × String)) :
    (tree.writeEach writes).Rooted := by
  induction writes generalizing tree with
  | nil => exact hRooted
  | cons write rest ih =>
      exact ih (hRooted.writeText write.1 write.2)

/- And it keeps its directories. -/
theorem keeps_writeEach
    (tree : FileTree)
    (writes : List (Path × String)) :
    tree.Keeps (tree.writeEach writes) := by
  induction writes generalizing tree with
  | nil => exact ⟨rfl, fun _ hDirectory => hDirectory⟩
  | cons write rest ih =>
      exact (tree.keeps_writeText write.1 write.2).trans (ih _)

/- A path that leads to a text leads to the place it names. -/
theorem entry?_of_read?
    {entry : Entry}
    (hRead : tree.read? path = some entry) :
    tree.resolve path = .ok (tree.locate path) ∧
      tree.entry? (tree.locate path) = some entry := by
  unfold read? at hRead
  cases hResolve : tree.resolve path with
  | error error => simp [hResolve] at hRead
  | ok location =>
      rw [hResolve] at hRead
      rw [← resolve_eq_locate hResolve]
      exact ⟨rfl, hRead⟩

/-
  After some writes a location holds what the last one left
  that reached it.  By induction on the writes: one that cannot
  be done spares the location, and so does one elsewhere.
-/
theorem holdsLast_writeEach
    (tree : FileTree)
    (writes : List (Path × String))
    (location : Location) :
    HoldsLast tree (tree.writeEach writes) location
      (tree.lastAt? location (tree.reaching writes)) := by
  induction writes generalizing tree with
  | nil => exact .inl rfl
  | cons write rest ih =>
      rcases write with ⟨path, text⟩
      have hKeeps := tree.keeps_writeText path text
      have hRest := ih (tree.writeText path text).1
      rw [lastAt?_of_keeps hKeeps] at hRest
      rw [writeEach, reaching]
      by_cases hCan : tree.CanWrite path
      · rcases hCan.spares text with ⟨hRead, hSpares⟩
        have hHere := (entry?_of_read? hRead).2
        rw [locate_eq hKeeps] at hHere
        simp only [hCan, if_true, lastAt?_cons]
        cases hLast :
            tree.lastAt? location
              ((tree.writeText path text).1.reaching rest) with
        | some last =>
            rw [hLast] at hRest
            exact hRest
        | none =>
            rw [hLast] at hRest
            by_cases hSame : tree.locate path = location
            · rw [hSame] at hHere
              rw [if_pos hSame, Option.none_or]
              rcases hRest with hKept | ⟨hNone, _⟩
              · exact hKept.trans hHere
              · simp [hHere] at hNone
            · rw [if_neg hSame, Option.none_or]
              exact
                hRest.after (hSpares location (Ne.symm hSame))
      · simp only [hCan, if_false]
        exact
          hRest.after (spares_of_cannotWrite hCan text location)

/- The path of a write that reaches its file leads there after. -/
theorem resolve_of_reaching
    {writes : List (Path × String)}
    {write : Path × String}
    (hMember : write ∈ tree.reaching writes) :
    (tree.writeEach writes).resolve write.1 =
      .ok (tree.locate write.1) := by
  induction writes generalizing tree with
  | nil => cases hMember
  | cons first rest ih =>
      rcases first with ⟨path, text⟩
      have hKeeps := tree.keeps_writeText path text
      rw [writeEach]
      rw [reaching] at hMember
      by_cases hCan : tree.CanWrite path
      · simp only [hCan, if_true] at hMember
        rcases List.mem_cons.mp hMember with rfl | hLater
        · have hHere :=
            (entry?_of_read? (hCan.spares text).1).1
          rw [locate_eq hKeeps] at hHere
          exact resolve_mono (keeps_writeEach _ rest) hHere
        · rw [← locate_eq hKeeps]
          exact ih hLater
      · simp only [hCan, if_false] at hMember
        rw [← locate_eq hKeeps]
        exact ih hMember

/- There is a last write to a place that was written to. -/
theorem exists_lastAt?
    (tree : FileTree)
    {writes : List (Path × String)}
    {write : Path × String}
    (hMember : write ∈ writes) :
    ∃ last,
      tree.lastAt? (tree.locate write.1) writes = some last := by
  apply Option.isSome_iff_exists.mp
  unfold lastAt?
  rw [List.find?_isSome]
  exact ⟨write, List.mem_reverse.mpr hMember, by simp⟩

/- There is none to a place that was not. -/
theorem lastAt?_eq_none
    {writes : List (Path × String)}
    (hAway :
      ∀ write ∈ writes, tree.locate write.1 ≠ location) :
    tree.lastAt? location writes = none := by
  unfold lastAt?
  rw [List.find?_eq_none]
  intro write hMember
  simpa using hAway write (List.mem_reverse.mp hMember)

/-
  In a rooted tree a text is written to the place that a path
  names unless the path is barred.  If it cannot be encoded,
  the write fails and leaves an empty file there; what else is
  there is spared.  A barred write fails and spares all places.
  After any number of writes, a place that some of them reached
  holds what the last one left, and all other places are as
  before, but for new directories.
-/
theorem Rooted.writes_reach_or_spare
    (hRooted : tree.Rooted) :
    (∀ path text, ∃ left result,
        tree.writeText path text = (left, result) ∧
          left.Rooted ∧
          (result = .ok () ↔
            ¬ Barred tree left path ∧ Text.isWhole text) ∧
          (result = .ok () →
            left.read? path = some (.file text)) ∧
          (¬ Barred tree left path →
            (¬ Text.isWhole text →
              result = .error ⟨.unencodableText, text⟩ ∧
                left.read? path = some (.file "")) ∧
              ∀ location,
                location ≠ tree.locate path →
                  Spares path.parent tree left location) ∧
          (Barred tree left path →
            ∀ location,
              Spares path.parent tree left location)) ∧
      ∀ writes,
        (tree.writeEach writes).Rooted ∧
          (∀ write ∈ tree.reaching writes, ∃ last,
            tree.lastAt? (tree.locate write.1)
                (tree.reaching writes) = some last ∧
              (tree.writeEach writes).read? write.1 =
                some (.file
                  (if Text.isWhole last.2 then last.2
                   else ""))) ∧
          ∀ location,
            (∀ write ∈ tree.reaching writes,
              tree.locate write.1 ≠ location) →
            entry? (tree.writeEach writes) location =
                tree.entry? location ∨
              tree.entry? location = none ∧
                entry? (tree.writeEach writes) location =
                  some .directory := by
  constructor
  · intro path text
    have hLeft := hRooted.writeText path text
    have hBarred :
        tree.CanWrite path ↔
          ¬ Barred tree (tree.writeText path text).1 path :=
      hRooted.canWrite_iff text
    refine
      ⟨(tree.writeText path text).1,
        (tree.writeText path text).2, rfl, hLeft, ?_⟩
    by_cases hCan : tree.CanWrite path
    · have hFree := hBarred.mp hCan
      rcases hCan.spares text with ⟨hRead, hSpares⟩
      rcases hCan.exists_writeText text with
        ⟨between, _, _, _, hWrite⟩
      have hResult := congrArg Prod.snd hWrite
      unfold written at hResult
      unfold encoded at hRead
      refine ⟨?_, ?_, ?_, fun hBar => absurd hBar hFree⟩
      · rw [hResult]
        cases hWhole : Text.isWhole text with
        | true => simp [hFree]
        | false => simp
      · rw [hResult]
        cases hWhole : Text.isWhole text with
        | true => simpa [hWhole] using hRead
        | false => simp
      · intro _
        refine ⟨?_, hSpares⟩
        intro hPart
        simp only [hPart, Bool.false_eq_true, if_false]
          at hResult hRead
        exact ⟨hResult, hRead⟩
    · have hBar := hRooted.barred_of_cannotWrite hCan text
      rcases exists_writeText_of_not hCan text with
        ⟨left, fault, hWrite, _⟩
      have hResult := congrArg Prod.snd hWrite
      refine
        ⟨?_, ?_, fun hFree => absurd hBar hFree,
          fun _ => spares_of_cannotWrite hCan text⟩
      · simp [hResult, hBar]
      · simp [hResult]
  · intro writes
    refine ⟨hRooted.writeEach writes, ?_, ?_⟩
    · intro write hMember
      rcases tree.exists_lastAt? hMember with ⟨last, hLast⟩
      have hHolds :=
        holdsLast_writeEach tree writes (tree.locate write.1)
      rw [hLast] at hHolds
      refine ⟨last, hLast, ?_⟩
      unfold read?
      rw [resolve_of_reaching hMember]
      exact hHolds
    · intro location hAway
      have hHolds := holdsLast_writeEach tree writes location
      rw [lastAt?_eq_none hAway] at hHolds
      exact hHolds

------------------------------------------------------------
-- Some Writes
------------------------------------------------------------

/- A desk with a file on it. -/
def desk : FileTree :=
  { workingDirectory := ["desk"]
    entries :=
      [ (["desk"], .directory),
        (["desk", "log"], .file "old") ] }

/- A text that is half of a pair. -/
def halfText : String :=
  String.singleton (Text.halfChar 0xD800)

/- Six texts, of which two pairs are for the same file. -/
def deskWrites : List (Path × String) :=
  [ (⟨0, ["a", "b"]⟩, "first"),
    (⟨0, ["log", "b"]⟩, "stray"),
    (⟨0, ["a", "b"]⟩, "second"),
    (⟨0, ["a"]⟩, "late"),
    (⟨0, ["note"]⟩, "whole"),
    (⟨0, ["note"]⟩, halfText) ]

/- Everything there stands in a directory. -/
theorem rooted_desk :
    desk.Rooted := by
  constructor
  · rfl
  · intro location entry hEntry
    unfold entry? desk at hEntry
    simp only [List.lookup_cons, List.lookup_nil] at hEntry
    split at hEntry
    · next hRoot =>
        rw [hRoot]
        rfl
    · split at hEntry
      · next hDesk =>
          rw [eq_of_beq hDesk]
          rfl
      · split at hEntry
        · next hLog =>
            rw [eq_of_beq hLog]
            rfl
        · simp at hEntry

/-
  A file bars the second text, and a directory that was made
  for the first one bars the fourth; the third one stays.  The
  last one empties the file of the one before.
-/
theorem desk_keeps_second :
    (∃ left, desk.writeText ⟨0, ["log", "b"]⟩ "stray" =
        (left,
          faultAt ⟨0, ["log"]⟩ (.refused .alreadyExists)) ∧
      Barred desk left ⟨0, ["log", "b"]⟩ ∧
      left.read? ⟨0, ["log"]⟩ = some (.file "old")) ∧
    desk.reaching deskWrites =
      [ (⟨0, ["a", "b"]⟩, "first"),
        (⟨0, ["a", "b"]⟩, "second"),
        (⟨0, ["note"]⟩, "whole"),
        (⟨0, ["note"]⟩, halfText) ] ∧
    (desk.writeEach deskWrites).read? ⟨0, ["a", "b"]⟩ =
      some (.file "second") ∧
    (desk.writeEach deskWrites).read? ⟨0, ["note"]⟩ =
      some (.file "") := by
  rcases rooted_desk.writes_reach_or_spare with
    ⟨hOnce, hEach⟩
  have hFour :
      desk.reaching deskWrites =
        [ (⟨0, ["a", "b"]⟩, "first"),
          (⟨0, ["a", "b"]⟩, "second"),
          (⟨0, ["note"]⟩, "whole"),
          (⟨0, ["note"]⟩, halfText) ] := rfl
  rcases hEach deskWrites with ⟨_, hLast, _⟩
  rw [hFour] at hLast
  refine ⟨?_, hFour, ?_, ?_⟩
  · rcases hOnce ⟨0, ["log", "b"]⟩ "stray" with
      ⟨left, result, hWrite, _, hIff, _⟩
    have hFault :
        result =
          faultAt ⟨0, ["log"]⟩ (.refused .alreadyExists) :=
      (congrArg Prod.snd hWrite).symm
    rw [hFault] at hWrite hIff
    have hLeft :
        (desk.writeText ⟨0, ["log", "b"]⟩ "stray").1 = left :=
      congrArg Prod.fst hWrite
    refine ⟨left, hWrite, ?_, ?_⟩
    · by_contra hFree
      have hDone := hIff.mpr ⟨hFree, by decide⟩
      simp [faultAt] at hDone
    · rw [← hLeft]
      rfl
  · rcases hLast (⟨0, ["a", "b"]⟩, "first") (by simp) with
      ⟨last, hFound, hRead⟩
    have hSecond :
        (⟨0, ["a", "b"]⟩, "second") = last :=
      Option.some.inj hFound
    rw [← hSecond] at hRead
    exact hRead
  · rcases hLast (⟨0, ["note"]⟩, "whole") (by simp) with
      ⟨last, hFound, hRead⟩
    have hHalf : (⟨0, ["note"]⟩, halfText) = last :=
      Option.some.inj hFound
    rw [← hHalf] at hRead
    exact hRead

/- A name that is too long by one octet is not looked up. -/
theorem desk_refuses_long
    {name : String}
    (hSize : Text.nameSize name = 256)
    (hNameable : Text.isNameable name)
    (hNul : '\x00' ∉ name.toList) :
    desk.writeText ⟨0, [name]⟩ "text" =
        (desk, faultAt ⟨0, [name]⟩ .tooLong) ∧
      desk.entry? (desk.locate ⟨0, [name]⟩) = none := by
  have hLong : isTooLong name = true := by
    simp [isTooLong, hSize, maxNameSize]
  have hOther :
      ∀ other, Text.nameSize other ≠ 256 → name ≠ other := by
    rintro other hDifferent rfl
    exact hDifferent hSize
  have hText : Path.text ⟨0, [name]⟩ = name := by
    have hSome : name ≠ "" := hOther "" (by decide)
    simp [Path.text, Text.joinWith, hSome]
  have hSound : flaw? ⟨0, [name]⟩ = none := by
    rw [flaw?_eq_none_iff, hText, hSize]
    simp [hNameable, hasNul, hNul, maxPathSize]
  have hResolve :
      desk.resolve ⟨0, [name]⟩ = .error .tooLong := by
    unfold resolve
    rw [hSound]
    simp [hLong, follow, desk, entry?]
  have hPut :
      desk.putText ⟨0, [name]⟩ (encoded "text") =
        .error .tooLong := by
    unfold putText
    rw [hResolve]
    rfl
  constructor
  · have hParent :
        desk.makeDirectories ⟨0, []⟩ = (desk, .ok ()) := rfl
    unfold writeText
    rw [Path.parent, List.dropLast_singleton, hParent]
    simp only [hPut]
  · simp [locate, step, FileTree.start, desk, entry?,
      hOther "" (by decide), hOther "." (by decide),
      hOther ".." (by decide), hOther "log" (by decide)]

/- Such a name. -/
def longName : String :=
  String.ofList (List.replicate 256 'a')

/- It is as long as that, and fit in all other ways. -/
theorem longName_is_long :
    Text.nameSize longName = 256 ∧
      Text.isNameable longName ∧
      '\x00' ∉ longName.toList := by
  have hList :
      longName.toList = List.replicate 256 'a' :=
    String.toList_ofList
  have hChars : ∀ c ∈ longName.toList, c = 'a' := by
    intro c hMember
    rw [hList] at hMember
    exact List.eq_of_mem_replicate hMember
  refine ⟨?_, ?_, ?_⟩
  · exact Text.nameSize_replicate (by decide) 256
  · apply List.all_eq_true.mpr
    intro c hMember
    rw [hChars c hMember]
    decide
  · intro hMember
    exact absurd (hChars _ hMember) (by decide)

/-
  A text is not written to a path with the character that no
  path may hold, or with a name that is too long, though no
  file stands on the way and no directory at its place.  Of one
  that cannot be encoded an empty file is left, and what was
  there is lost.
-/
theorem desk_loses_log :
    desk.Rooted ∧
      (∀ name ∈ ["a\x00b", longName],
        (∃ cause,
          desk.writeText ⟨0, [name]⟩ "text" =
            (desk, faultAt ⟨0, [name]⟩ cause)) ∧
          desk.entry? (desk.locate ⟨0, [name]⟩) = none ∧
          ¬ desk.Blocked (Path.parent ⟨0, [name]⟩)) ∧
      desk.read? ⟨0, ["log"]⟩ = some (.file "old") ∧
      ∃ left fault,
        desk.writeText ⟨0, ["log"]⟩ halfText =
            (left, .error fault) ∧
          left.read? ⟨0, ["log"]⟩ = some (.file "") := by
  rcases longName_is_long with ⟨hSize, hNameable, hNul⟩
  rcases desk_refuses_long hSize hNameable hNul with
    ⟨hWrite, hEntry⟩
  refine
    ⟨rooted_desk, ?_, rfl,
      desk.put ["desk", "log"] (.file ""),
      ⟨.unencodableText, halfText⟩, rfl, rfl⟩
  intro name hName
  refine ⟨?_, ?_, ?_⟩
  · rcases List.mem_pair.mp hName with rfl | rfl
    · exact ⟨.refused .nulCharacter, rfl⟩
    · exact ⟨.tooLong, hWrite⟩
  · rcases List.mem_pair.mp hName with rfl | rfl
    · rfl
    · exact hEntry
  · rintro ⟨location, entry, ⟨parts, hPrefix, rfl⟩, hHere,
      hFile⟩
    have hNone : parts = [] := List.prefix_nil.mp hPrefix
    rw [hNone, rooted_desk.start, Option.some.injEq] at hHere
    exact hFile hHere.symm

end FileTree

end ElementBindings
