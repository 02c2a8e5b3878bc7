import ElementBindings.Proofs.Files.Fit
import ElementBindings.Proofs.Result

/-
  Writing files into a tree.

  Making a directory leaves every entry as it is and adds
  directories on the way.  Once the directory is there, texts
  can be written to files in it one after the other: each
  write changes one location, and takes nothing away that a
  later write relies on.

  Key definitions include:
    * `FileTree.locate`, `FileTree.read?`
    * `FileTree.Keeps`, `FileTree.Grows`, `FileTree.Spares`
    * `FileTree.CanWrite`, `FileTree.Prepared`

  Key theorems include:
    * `FileTree.follow_eq_foldl`, `FileTree.follow_mono`
    * `FileTree.makeChain_induction`, `FileTree.makeChain_grows`
    * `FileTree.makeDirectories_grows`
    * `FileTree.Prepared.write`
    * `FileTree.exists_prepared`
-/

namespace ElementBindings

namespace FileTree

variable {tree made : FileTree}
variable {location other : Location}
variable {entry : Entry}
variable {path : Path}

------------------------------------------------------------
-- Entries
------------------------------------------------------------

/- The root is a directory. -/
@[simp] theorem entry?_root
    (tree : FileTree) :
    tree.entry? [] = some .directory := rfl

/- Looking up is not changed by what is left out elsewhere. -/
theorem lookup_filter_ne
    (entries : List (Location × Entry))
    (hOther : other ≠ location) :
    (entries.filter (·.1 ≠ location)).lookup other =
      entries.lookup other := by
  induction entries with
  | nil => rfl
  | cons first rest ih =>
      by_cases hFirst : first.1 = location
      · have hSkip : (other == first.1) = false := by
          simp [hFirst, hOther]
        rw [List.filter_cons_of_neg (by simp [hFirst]), ih]
        rw [List.lookup_cons, hSkip]
      · rw [List.filter_cons_of_pos (by simp [hFirst])]
        rw [List.lookup_cons, List.lookup_cons, ih]

/- What was put at a location stands there. -/
theorem entry?_put_self
    (tree : FileTree)
    (hBelow : location ≠ [])
    (entry : Entry) :
    FileTree.entry? (tree.put location entry) location =
      some entry := by
  unfold entry? put
  rw [if_neg hBelow]
  exact List.lookup_cons_self

/- What was put at a location changes no other one. -/
theorem entry?_put_of_ne
    (tree : FileTree)
    (entry : Entry)
    (hOther : other ≠ location) :
    FileTree.entry? (tree.put location entry) other =
      tree.entry? other := by
  unfold entry? put
  have hSkip : (other == location) = false := by
    simp [hOther]
  rw [List.lookup_cons, hSkip]
  simp only
  rw [lookup_filter_ne tree.entries hOther]

------------------------------------------------------------
-- Looking Up
------------------------------------------------------------

/- The location that a path names, whatever stands there. -/
def locate
    (tree : FileTree)
    (path : Path) : Location :=
  path.parts.foldl step (tree.start path.root)

/- The entry that a path leads to. -/
def read?
    (tree : FileTree)
    (path : Path) : Option Entry :=
  match tree.resolve path with
  | .ok location => tree.entry? location
  | .error _ => none

/- Names that can be followed lead to the location they name. -/
theorem follow_eq_foldl
    {start : Location}
    {names : List String}
    (hFollow : tree.follow start names = .ok location) :
    location = names.foldl step start := by
  induction names generalizing start with
  | nil =>
      simp [follow] at hFollow
      simp [hFollow]
  | cons name rest ih =>
      unfold follow at hFollow
      split at hFollow
      · simp at hFollow
      · exact ih hFollow
      · simp at hFollow

/- A path that leads somewhere leads to the location it names. -/
theorem resolve_eq_locate
    (hResolve : tree.resolve path = .ok location) :
    location = tree.locate path :=
  follow_eq_foldl (resolve_eq_ok_iff.mp hResolve).2

------------------------------------------------------------
-- Larger Trees
------------------------------------------------------------

/- Every directory of a tree is one of another tree, too. -/
structure Keeps
    (tree made : FileTree) : Prop where
  workingDirectory :
    made.workingDirectory = tree.workingDirectory
  directory :
    ∀ location,
      tree.entry? location = some .directory →
        made.entry? location = some .directory

/- Names that can be followed still can in a larger tree. -/
theorem follow_mono
    (hKeeps : tree.Keeps made)
    {start : Location}
    {names : List String}
    (hFollow : tree.follow start names = .ok location) :
    made.follow start names = .ok location := by
  induction names generalizing start with
  | nil => exact hFollow
  | cons name rest ih =>
      unfold follow at hFollow ⊢
      split at hFollow
      · simp at hFollow
      · next hDirectory =>
          rw [hKeeps.directory start hDirectory]
          exact ih hFollow
      · simp at hFollow

/- A path that leads somewhere still does in a larger tree. -/
theorem resolve_mono
    (hKeeps : tree.Keeps made)
    (hResolve : tree.resolve path = .ok location) :
    made.resolve path = .ok location := by
  rw [resolve_eq_ok_iff] at hResolve ⊢
  rcases hResolve with ⟨hFit, hFollow⟩
  unfold start at hFollow ⊢
  rw [hKeeps.workingDirectory]
  exact ⟨hFit, follow_mono hKeeps hFollow⟩

/- Paths name the same locations in a larger tree. -/
theorem locate_eq
    (hKeeps : tree.Keeps made)
    (path : Path) :
    made.locate path = tree.locate path := by
  unfold locate start
  rw [hKeeps.workingDirectory]

/- Putting something where no directory is keeps directories. -/
theorem keeps_put
    (hEntry : tree.entry? location ≠ some .directory)
    (entry : Entry) :
    tree.Keeps (tree.put location entry) := by
  constructor
  · rfl
  · intro other hDirectory
    have hOther : other ≠ location := by
      intro hSame
      rw [hSame] at hDirectory
      exact hEntry hDirectory
    rw [entry?_put_of_ne tree entry hOther]
    exact hDirectory

/-
  A tree grows when it keeps its entries and gets directories
  at some of the locations that are free.
-/
structure Grows
    (new : Location → Prop)
    (tree made : FileTree) : Prop where
  workingDirectory :
    made.workingDirectory = tree.workingDirectory
  entry :
    ∀ location,
      made.entry? location = tree.entry? location ∨
        tree.entry? location = none ∧
          made.entry? location = some .directory ∧
          new location

namespace Grows

variable {new : Location → Prop}

/- A tree that stays as it is grows. -/
theorem refl
    (tree : FileTree) :
    Grows new tree tree :=
  ⟨rfl, fun _ => .inl rfl⟩

/- A tree may grow again. -/
theorem trans
    {between : FileTree}
    (hFirst : Grows new tree between)
    (hSecond : Grows new between made) :
    Grows new tree made := by
  constructor
  · rw [hSecond.workingDirectory, hFirst.workingDirectory]
  · intro location
    rcases hSecond.entry location with
      hSame | ⟨hFree, hMade, hNew⟩
    · rw [hSame]
      exact hFirst.entry location
    · rcases hFirst.entry location with
        hOld | ⟨_, hDirectory, _⟩
      · rw [hFree] at hOld
        exact .inr ⟨hOld.symm, hMade, hNew⟩
      · rw [hFree] at hDirectory
        simp at hDirectory

/- A tree that grows keeps its directories. -/
theorem keeps
    (hGrows : Grows new tree made) :
    tree.Keeps made := by
  constructor
  · exact hGrows.workingDirectory
  · intro location hDirectory
    rcases hGrows.entry location with hSame | ⟨hFree, _, _⟩
    · rw [hSame]
      exact hDirectory
    · rw [hFree] at hDirectory
      simp at hDirectory

/- More may be said about where directories are new. -/
theorem mono
    {wider : Location → Prop}
    (hWider : ∀ location, new location → wider location)
    (hGrows : Grows new tree made) :
    Grows wider tree made := by
  constructor
  · exact hGrows.workingDirectory
  · intro location
    rcases hGrows.entry location with
      hSame | ⟨hFree, hMade, hNew⟩
    · exact .inl hSame
    · exact .inr ⟨hFree, hMade, hWider location hNew⟩

end Grows

------------------------------------------------------------
-- Directories
------------------------------------------------------------

/- The locations that a path passes through. -/
def OnTheWay
    (tree : FileTree)
    (path : Path)
    (location : Location) : Prop :=
  ∃ parts,
    parts <+: path.parts ∧
      location = tree.locate ⟨path.root, parts⟩

/-
  A location holds what it held before, or a directory that
  had to be made on the way to a path.
-/
def Spares
    (above : Path)
    (tree final : FileTree)
    (location : Location) : Prop :=
  final.entry? location = tree.entry? location ∨
    tree.entry? location = none ∧
      final.entry? location = some .directory ∧
      OnTheWay tree above location

/- The way to a path passes through all that the way above does. -/
theorem OnTheWay.below
    {root : Nat}
    {parts : List String}
    (hWay : OnTheWay tree ⟨root, parts⟩ location)
    (name : String) :
    OnTheWay tree ⟨root, parts ++ [name]⟩ location := by
  rcases hWay with ⟨first, hPrefix, hLocation⟩
  refine ⟨first, ?_, hLocation⟩
  exact hPrefix.trans (List.prefix_append parts [name])

/- A path leads to a directory when it leads to some location. -/
theorem isDirectory_iff
    (tree : FileTree)
    (path : Path) :
    tree.isDirectory path ↔
      ∃ location,
        tree.resolve path = .ok location ∧
          tree.entry? location = some .directory := by
  unfold isDirectory
  cases tree.resolve path with
  | ok location => simp
  | error error => simp

/- A directory stays one in a larger tree. -/
theorem isDirectory_mono
    (hKeeps : tree.Keeps made)
    (hDirectory : tree.isDirectory path) :
    made.isDirectory path := by
  rcases (isDirectory_iff tree path).mp hDirectory with
    ⟨location, hResolve, hEntry⟩
  exact
    (isDirectory_iff made path).mpr
      ⟨location, resolve_mono hKeeps hResolve,
        hKeeps.directory location hEntry⟩

/- A directory is made where a path leads to a free place. -/
theorem makeDirectory_eq_ok_iff :
    tree.makeDirectory path = .ok made ↔
      ∃ location,
        tree.resolve path = .ok location ∧
          tree.entry? location = none ∧
          made = tree.put location .directory := by
  unfold makeDirectory
  cases hResolve : tree.resolve path with
  | error error => simp [bind, Except.bind]
  | ok location =>
      cases hEntry : tree.entry? location with
      | some entry => simp [hEntry, bind, Except.bind]
      | none => simp [hEntry, bind, Except.bind, eq_comm]

/- A directory that is made is the only thing that is new. -/
theorem makeDirectory_ok
    (hMake : tree.makeDirectory path = .ok made) :
    Grows (OnTheWay tree path) tree made ∧
      made.isDirectory path := by
  rcases makeDirectory_eq_ok_iff.mp hMake with
    ⟨location, hResolve, hFree, rfl⟩
  have hBelow : location ≠ [] := by
    intro hRoot
    rw [hRoot] at hFree
    simp at hFree
  have hNew := entry?_put_self tree hBelow .directory
  have hGrows :
      Grows (OnTheWay tree path) tree
        (tree.put location .directory) := by
    refine ⟨rfl, ?_⟩
    intro other
    by_cases hOther : other = location
    · rw [hOther]
      exact
        .inr
          ⟨hFree, hNew, path.parts, List.prefix_rfl,
            resolve_eq_locate hResolve⟩
    · exact .inl (entry?_put_of_ne tree _ hOther)
  refine ⟨hGrows, ?_⟩
  exact
    (isDirectory_iff _ path).mpr
      ⟨location, resolve_mono hGrows.keeps hResolve, hNew⟩

/- What is forgiven is that a directory is there already. -/
theorem unlessDirectory_ok
    {cause : FileCause}
    (hForgiven :
      tree.unlessDirectory path cause = (made, .ok ())) :
    made.isDirectory path := by
  unfold unlessDirectory at hForgiven
  split at hForgiven
  · next hDirectory =>
      have hSame : tree = made := by
        simpa using hForgiven
      rw [← hSame]
      exact hDirectory
  · simp [faultAt] at hForgiven

/- An attempt at one directory, forgiven if it is there. -/
def attempt
    (tree : FileTree)
    (path : Path) : Attempt :=
  match tree.makeDirectory path with
  | .ok made => (made, .ok ())
  | .error error => tree.unlessDirectory path error

/- An attempt makes a directory, or leaves a tree as it is. -/
theorem attempt_cases
    (tree : FileTree)
    (path : Path) :
    tree.makeDirectory path = .ok (tree.attempt path).1 ∨
      (tree.attempt path).1 = tree := by
  unfold attempt
  cases hMake : tree.makeDirectory path with
  | ok made => exact .inl rfl
  | error error =>
      right
      simp only [unlessDirectory]
      split
      · rfl
      · rfl

/- An attempt makes nothing but a directory. -/
theorem attempt_grows
    (tree : FileTree)
    (path : Path) :
    Grows (OnTheWay tree path) tree (tree.attempt path).1 := by
  rcases tree.attempt_cases path with hMake | hSame
  · exact (makeDirectory_ok hMake).1
  · rw [hSame]
    exact Grows.refl tree

/- An attempt that succeeds leaves a directory. -/
theorem isDirectory_of_attempt
    (hAttempt : tree.attempt path = (made, .ok ())) :
    made.isDirectory path := by
  unfold attempt at hAttempt
  cases hMake : tree.makeDirectory path with
  | ok result =>
      have hSame : result = made := by
        simpa [hMake] using hAttempt
      rw [hSame] at hMake
      exact (makeDirectory_ok hMake).2
  | error error =>
      rw [hMake] at hAttempt
      exact unlessDirectory_ok hAttempt

/- Nothing is made above a directory that can be attempted. -/
theorem makeChain_of_found
    {root : Nat}
    {name : String}
    {above : List String}
    (hFound :
      tree.makeDirectory ⟨root, (name :: above).reverse⟩
        ≠ .error (.refused .notFound)) :
    tree.makeChain root (name :: above) =
      tree.attempt ⟨root, (name :: above).reverse⟩ := by
  unfold makeChain attempt
  cases hMake :
      tree.makeDirectory ⟨root, (name :: above).reverse⟩ with
  | ok result => simp only [hMake]
  | error cause =>
      rw [hMake] at hFound
      simp only [hMake]
      split
      · next hOk => simp at hOk
      · next hMissing => exact absurd hMissing hFound
      · next hOther => rw [Except.error.inj hOther]

/- Where the way is missing, it is made before. -/
theorem makeChain_of_notFound
    {root : Nat}
    {name : String}
    {above : List String}
    (hMissing :
      tree.makeDirectory ⟨root, (name :: above).reverse⟩
        = .error (.refused .notFound)) :
    tree.makeChain root (name :: above) =
      match tree.makeChain root above with
      | (between, .error fault) => (between, .error fault)
      | (between, .ok ()) =>
          between.attempt
            ⟨root, (name :: above).reverse⟩ := by
  rw [makeChain]
  simp only [hMissing]
  rfl

/-
  What attempts at the directories on a way preserve, making a
  chain of these preserves, also if one of them cannot be made.
  By induction on the components, last one first.
-/
theorem makeChain_induction
    {Reached : FileTree → Prop}
    {root : Nat}
    {names : List String}
    (hAttempt :
      ∀ between parts,
        parts <+: names.reverse →
          Reached between →
            Reached (between.attempt ⟨root, parts⟩).1)
    (hStart : Reached tree) :
    Reached (tree.makeChain root names).1 := by
  induction names with
  | nil => exact hAttempt tree [] List.prefix_rfl hStart
  | cons name above ih =>
      have hLast :=
        fun between =>
          hAttempt between (name :: above).reverse
            List.prefix_rfl
      have hFirst :
          Reached (tree.makeChain root above).1 := by
        apply ih
        intro between parts hPrefix
        apply hAttempt between parts
        rw [List.reverse_cons]
        exact hPrefix.trans (List.prefix_append _ _)
      by_cases hMissing :
          tree.makeDirectory ⟨root, (name :: above).reverse⟩
            = .error (.refused .notFound)
      · rw [makeChain_of_notFound hMissing]
        rcases hAbove : tree.makeChain root above with
          ⟨between, result⟩
        rw [hAbove] at hFirst
        cases result with
        | error fault => exact hFirst
        | ok done => exact hLast between hFirst
      · rw [makeChain_of_found hMissing]
        exact hLast tree hStart

/- Such attempts make nothing but directories on the way. -/
theorem makeChain_grows
    (tree : FileTree)
    (root : Nat)
    (names : List String) :
    Grows (OnTheWay tree ⟨root, names.reverse⟩) tree
      (tree.makeChain root names).1 := by
  refine makeChain_induction ?_ (Grows.refl tree)
  intro between parts hPrefix hGrows
  apply hGrows.trans
  apply (between.attempt_grows ⟨root, parts⟩).mono
  rintro location ⟨first, hFirst, hLocation⟩
  rw [locate_eq hGrows.keeps] at hLocation
  exact ⟨first, hFirst.trans hPrefix, hLocation⟩

/- If all of them can be made, there is the last directory. -/
theorem isDirectory_of_makeChain
    {root : Nat}
    {names : List String}
    (hChain : tree.makeChain root names = (made, .ok ())) :
    made.isDirectory ⟨root, names.reverse⟩ := by
  cases names with
  | nil => exact isDirectory_of_attempt hChain
  | cons name above =>
      by_cases hMissing :
          tree.makeDirectory ⟨root, (name :: above).reverse⟩
            = .error (.refused .notFound)
      · rw [makeChain_of_notFound hMissing] at hChain
        rcases hAbove : tree.makeChain root above with
          ⟨between, result⟩
        rw [hAbove] at hChain
        cases result with
        | error fault => simp at hChain
        | ok done => exact isDirectory_of_attempt hChain
      · rw [makeChain_of_found hMissing] at hChain
        exact isDirectory_of_attempt hChain

/- Making directories grows a tree, even if one is not made. -/
theorem makeDirectories_grows
    {attempt : Attempt}
    (hMake : tree.makeDirectories path = attempt) :
    Grows (OnTheWay tree path) tree attempt.1 := by
  have hGrows := makeChain_grows tree path.root path.parts.reverse
  rw [List.reverse_reverse] at hGrows
  rw [← hMake]
  exact hGrows

/- If all of them are made, a directory is left. -/
theorem isDirectory_of_makeDirectories
    (hMake : tree.makeDirectories path = (made, .ok ())) :
    made.isDirectory path := by
  have hDirectory := isDirectory_of_makeChain hMake
  rw [List.reverse_reverse] at hDirectory
  exact hDirectory

/- Where a directory is, none has to be made. -/
theorem makeDirectories_of_isDirectory
    (hDirectory : tree.isDirectory path) :
    tree.makeDirectories path = (tree, .ok ()) := by
  rcases (isDirectory_iff tree path).mp hDirectory with
    ⟨location, hResolve, hEntry⟩
  have hMake :
      tree.makeDirectory path =
        .error (.refused .alreadyExists) := by
    simp [makeDirectory, hResolve, hEntry, bind, Except.bind]
  have hForgiven :
      tree.unlessDirectory path (.refused .alreadyExists) =
        (tree, .ok ()) := by
    simp [unlessDirectory, hDirectory]
  have hAttempt : tree.attempt path = (tree, .ok ()) := by
    unfold attempt
    rw [hMake]
    exact hForgiven
  unfold makeDirectories
  have hPath :
      (⟨path.root, path.parts.reverse.reverse⟩ : Path) =
        path := by
    rw [List.reverse_reverse]
  cases hNames : path.parts.reverse with
  | nil =>
      rw [hNames] at hPath
      rw [← hPath] at hAttempt
      exact hAttempt
  | cons name above =>
      rw [hNames] at hPath
      have hFound :
          tree.makeDirectory ⟨path.root, (name :: above).reverse⟩
            ≠ .error (.refused .notFound) := by
        rw [hPath, hMake]
        simp
      rw [makeChain_of_found hFound, hPath]
      exact hAttempt

------------------------------------------------------------
-- Files
------------------------------------------------------------

/- A text can be written to a path. -/
def CanWrite
    (tree : FileTree)
    (path : Path) : Prop :=
  (tree.writeText path "").2 = .ok ()

/- This is found out by writing. -/
instance
    (tree : FileTree)
    (path : Path) : Decidable (tree.CanWrite path) :=
  inferInstanceAs
    (Decidable ((tree.writeText path "").2 = .ok ()))

/-
  A directory is there, and paths lead to files in it, or to
  places in it where nothing stands.
-/
structure Prepared
    (above : Path)
    (paths : List Path)
    (tree : FileTree) : Prop where
  directory : tree.isDirectory above
  parent : ∀ path ∈ paths, path.parent = above
  resolve :
    ∀ path ∈ paths,
      tree.resolve path = .ok (tree.locate path)
  free :
    ∀ path ∈ paths,
      tree.entry? (tree.locate path) ≠ some .directory

/- A text is put where a path leads, unless to a directory. -/
theorem putText_eq_ok_iff
    (text : String) :
    tree.putText path text = .ok made ↔
      ∃ location,
        tree.resolve path = .ok location ∧
          tree.entry? location ≠ some .directory ∧
          made = tree.put location (.file text) := by
  unfold putText
  cases hResolve : tree.resolve path with
  | error error => simp [bind, Except.bind]
  | ok location =>
      simp only [bind, Except.bind, Except.ok.injEq,
        exists_eq_left']
      split
      · next hDirectory => simp [hDirectory]
      · next hOther =>
          simp only [Except.ok.injEq]
          constructor
          · intro hMade
            refine ⟨?_, hMade.symm⟩
            intro hDirectory
            exact hOther hDirectory
          · intro hMade
            exact hMade.2.symm

namespace Prepared

variable {above : Path}
variable {paths : List Path}

/- A write changes the entry of its path and keeps the rest ready. -/
theorem write
    {text : String}
    (hPrepared : Prepared above paths tree)
    (hPath : path ∈ paths)
    (hWhole : Text.isWhole text) :
    tree.writeText path text =
        (tree.put (tree.locate path) (.file text), .ok ()) ∧
      Prepared above paths
        (tree.put (tree.locate path) (.file text)) := by
  have hFree := hPrepared.free path hPath
  have hKeeps := keeps_put hFree (.file text)
  have hPut :
      tree.putText path text =
        .ok (tree.put (tree.locate path) (.file text)) :=
    (putText_eq_ok_iff text).mpr
      ⟨tree.locate path, hPrepared.resolve path hPath, hFree,
        rfl⟩
  constructor
  · unfold writeText
    rw [hPrepared.parent path hPath,
      makeDirectories_of_isDirectory hPrepared.directory]
    simp only [encoded, hWhole, if_true, hPut]
  · constructor
    · exact isDirectory_mono hKeeps hPrepared.directory
    · exact hPrepared.parent
    · intro other hOther
      rw [locate_eq hKeeps]
      exact resolve_mono hKeeps (hPrepared.resolve other hOther)
    · intro other hOther
      rw [locate_eq hKeeps]
      by_cases hSame : tree.locate other = tree.locate path
      · rw [hSame]
        have hBelow : tree.locate path ≠ [] := by
          intro hRoot
          rw [hRoot] at hFree
          simp at hFree
        rw [entry?_put_self tree hBelow]
        simp
      · rw [entry?_put_of_ne tree _ hSame]
        exact hPrepared.free other hOther

end Prepared

/- Writing makes the directory, and then puts the text. -/
theorem writeText_ok
    {text : String}
    (hWrite : (tree.writeText path text).2 = .ok ()) :
    ∃ between,
      tree.makeDirectories path.parent = (between, .ok ()) ∧
        ∃ location,
          between.resolve path = .ok location ∧
            between.entry? location ≠ some .directory := by
  unfold writeText at hWrite
  cases hMake : tree.makeDirectories path.parent with
  | mk between result =>
      rw [hMake] at hWrite
      cases result with
      | error fault => simp at hWrite
      | ok done =>
          refine ⟨between, rfl, ?_⟩
          cases hPut : between.putText path (encoded text) with
          | error error => simp [hPut, faultAt] at hWrite
          | ok written =>
              rcases (putText_eq_ok_iff _).mp hPut with
                ⟨location, hResolve, hFree, _⟩
              exact ⟨location, hResolve, hFree⟩

/-
  Paths of one directory that can all be written can be
  written in a tree where the directory is made.
-/
theorem exists_prepared
    {above : Path}
    {paths : List Path}
    (hSome : paths ≠ [])
    (hParent : ∀ path ∈ paths, path.parent = above)
    (hWrite : ∀ path ∈ paths, tree.CanWrite path) :
    ∃ between,
      tree.makeDirectories above = (between, .ok ()) ∧
        Prepared above paths between ∧
        Grows (OnTheWay tree above) tree between := by
  rcases List.exists_mem_of_ne_nil paths hSome with
    ⟨first, hFirst⟩
  rcases writeText_ok (hWrite first hFirst) with
    ⟨between, hMake, _⟩
  rw [hParent first hFirst] at hMake
  have hTargets :
      ∀ path ∈ paths,
        between.resolve path = .ok (between.locate path) ∧
          between.entry? (between.locate path)
            ≠ some .directory := by
    intro path hPath
    rcases writeText_ok (hWrite path hPath) with
      ⟨same, hAgain, location, hResolve, hFree⟩
    have hSame : between = same := by
      rw [hParent path hPath, hMake] at hAgain
      exact congrArg Prod.fst hAgain
    rw [← hSame] at hResolve hFree
    have hLocation := resolve_eq_locate hResolve
    rw [hLocation] at hResolve hFree
    exact ⟨hResolve, hFree⟩
  refine ⟨between, hMake, ?_, makeDirectories_grows hMake⟩
  constructor
  · exact isDirectory_of_makeDirectories hMake
  · exact hParent
  · intro path hPath
    exact (hTargets path hPath).1
  · intro path hPath
    exact (hTargets path hPath).2

/- Put texts where paths lead, one after the other. -/
def putAll
    (tree : FileTree)
    (writes : List (Path × String)) : FileTree :=
  writes.foldl
    (fun tree write =>
      tree.put (tree.locate write.1) (.file write.2))
    tree

/- Putting texts somewhere does not change what paths name. -/
theorem locate_putAll
    (tree : FileTree)
    (writes : List (Path × String))
    (path : Path) :
    (tree.putAll writes).locate path = tree.locate path := by
  induction writes generalizing tree with
  | nil => rfl
  | cons write rest ih =>
      exact ih (tree.put (tree.locate write.1) (.file write.2))

/- Nor does it take away that more can be put there. -/
theorem Prepared.putAll
    {above : Path}
    {paths : List Path}
    {writes : List (Path × String)}
    (hPrepared : Prepared above paths tree)
    (hPaths : ∀ write ∈ writes, write.1 ∈ paths)
    (hWhole : ∀ write ∈ writes, Text.isWhole write.2) :
    Prepared above paths (tree.putAll writes) := by
  induction writes generalizing tree with
  | nil => exact hPrepared
  | cons write rest ih =>
      have hFirst : write.1 ∈ paths := hPaths write (by simp)
      have hText : Text.isWhole write.2 :=
        hWhole write (by simp)
      apply ih (hPrepared.write hFirst hText).2
      · intro other hOther
        exact hPaths other (List.mem_cons_of_mem write hOther)
      · intro other hOther
        exact hWhole other (List.mem_cons_of_mem write hOther)

/- The last text that is put at a location stays there. -/
theorem entry?_putAll
    (tree : FileTree)
    {writes : List (Path × String)}
    (hBelow : ∀ write ∈ writes, tree.locate write.1 ≠ [])
    (location : Location) :
    FileTree.entry? (tree.putAll writes) location =
      match writes.reverse.find? fun write =>
          tree.locate write.1 = location with
      | some write => some (.file write.2)
      | none => tree.entry? location := by
  induction writes generalizing tree with
  | nil => rfl
  | cons write rest ih =>
      have hFirst : tree.locate write.1 ≠ [] :=
        hBelow write (by simp)
      have hRest :=
        ih (tree.put (tree.locate write.1) (.file write.2))
          fun other hOther =>
            hBelow other (List.mem_cons_of_mem write hOther)
      have hLocate :
          ∀ path,
            (tree.put (tree.locate write.1)
              (.file write.2)).locate path =
              tree.locate path := fun _ => rfl
      simp only [hLocate] at hRest
      unfold putAll at hRest ⊢
      rw [List.foldl_cons, hRest, List.reverse_cons,
        List.find?_append]
      cases hFound :
          rest.reverse.find? fun write =>
            tree.locate write.1 = location with
      | some other => rfl
      | none =>
          by_cases hHere : tree.locate write.1 = location
          · rw [hHere] at hFirst ⊢
            simp [hHere, entry?_put_self tree hFirst]
          · have hOther : location ≠ tree.locate write.1 :=
              Ne.symm hHere
            simp [hHere, entry?_put_of_ne tree _ hOther]

/- Writing is the same with the directory made before. -/
theorem writeText_of_makeDirectories
    {text : String}
    (hMake :
      tree.makeDirectories path.parent = (made, .ok ())) :
    tree.writeText path text = made.writeText path text := by
  have hAgain : made.makeDirectories path.parent = (made, .ok ()) :=
    makeDirectories_of_isDirectory
      (isDirectory_of_makeDirectories hMake)
  unfold writeText
  rw [hMake, hAgain]

end FileTree

end ElementBindings
