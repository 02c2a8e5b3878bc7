import Mathlib.Data.List.Basic
import ElementBindings.Proofs.Naming

/-
  Lower case is final.

  No character of a lower case text has another lower case, so
  a text in lower case stays as it is.  Capitals have one, so
  none of them is left; and a character that no lower case
  leads to is there only if it was there before.

  Key definitions include:
    * `Text.CaseRun.misses`
    * `Text.IsLower`, `Text.LowerTables`

  Key theorems include:
    * `Text.isLower_of_mem_lowerAfter`
    * `Text.lower_of_isLower`
    * `Text.IsUnreached.mem_of_mem_lowerAfter`
-/

namespace ElementBindings

namespace Text

variable {c d : Char}
variable {s : List Char}
variable {run other : CaseRun}

------------------------------------------------------------
-- Letters
------------------------------------------------------------

/- Capitals are a range of code points. -/
theorem isCapital_iff :
    isCapital c ↔ 65 ≤ c.toNat ∧ c.toNat ≤ 90 := by
  simp [isCapital, Char.le_def, UInt32.le_iff_toNat_le]

/- So are small letters. -/
theorem isSmall_iff :
    isSmall c ↔ 97 ≤ c.toNat ∧ c.toNat ≤ 122 := by
  simp [isSmall, Char.le_def, UInt32.le_iff_toNat_le]

------------------------------------------------------------
-- Runs
------------------------------------------------------------

/- The least image of a run. -/
def CaseRun.low
    (run : CaseRun) : Nat :=
  ((run.first : Int) + run.offset).toNat

/- No image of a run is larger. -/
def CaseRun.high
    (run : CaseRun) : Nat :=
  ((run.last : Int) + run.offset).toNat

/-
  No image of a run is covered by another one: they lie apart,
  or the images fall between the code points that it covers.
-/
def CaseRun.misses
    (run other : CaseRun) : Bool :=
  Nat.blt run.high other.first || Nat.blt other.last run.low
    || (run.first == run.last || run.step % other.step == 0)
      && (run.low - other.first) % other.step != 0

/- The code points that a run covers. -/
theorem CaseRun.covered_of_image?
    {n m : Nat}
    (hImage : run.image? n = some m) :
    run.first ≤ n ∧ n ≤ run.last ∧ run.step ∣ n - run.first ∧
      m = ((n : Int) + run.offset).toNat := by
  unfold image? at hImage
  split at hImage
  · next hCovered =>
      rcases hCovered with ⟨hFirst, hLast, hStep⟩
      exact
        ⟨hFirst, hLast, Nat.dvd_of_mod_eq_zero hStep,
          (Option.some.inj hImage).symm⟩
  · cases hImage

/- A run that is missed maps no image any further. -/
theorem CaseRun.image?_of_misses
    {n m : Nat}
    (hMisses : run.misses other)
    (hImage : run.image? n = some m) :
    other.image? m = none := by
  rcases covered_of_image? hImage with
    ⟨hFirst, hLast, hStep, hEq⟩
  by_contra hCovered
  rcases Option.ne_none_iff_exists'.mp hCovered with
    ⟨next, hNext⟩
  rcases covered_of_image? hNext with ⟨hAbove, hBelow, hOther, _⟩
  simp only [misses, Bool.or_eq_true, Bool.and_eq_true,
    Nat.blt_eq, beq_iff_eq, bne_iff_ne, low, high] at hMisses
  rcases hMisses with (hApart | hApart) | ⟨hSteps, hBetween⟩
  · omega
  · omega
  · have hLow : other.first < run.low := by
      by_contra hNot
      apply hBetween
      have hZero : run.low - other.first = 0 := by omega
      unfold low at hZero
      rw [hZero, Nat.zero_mod]
    unfold low at hLow
    apply hBetween
    apply Nat.mod_eq_zero_of_dvd
    rcases hSteps with hSingle | hSteps
    · have hSame :
          ((run.first : Int) + run.offset).toNat = m := by
        omega
      rw [hSame]
      exact hOther
    · have hFurther : other.step ∣ n - run.first :=
        Nat.dvd_trans (Nat.dvd_of_mod_eq_zero hSteps) hStep
      have hSum :
          m - other.first =
            ((run.first : Int) + run.offset).toNat
                - other.first
              + (n - run.first) := by
        omega
      rw [hSum] at hOther
      exact (Nat.dvd_add_iff_left hFurther).mpr hOther

------------------------------------------------------------
-- Lower Case of Characters
------------------------------------------------------------

/- A character that is its own lower case. -/
def IsLower
    (c : Char) : Prop :=
  lowerChar c = [c]

instance (c : Char) : Decidable (IsLower c) :=
  inferInstanceAs (Decidable (lowerChar c = [c]))

/- What is asked of the tables of lower cases. -/
structure LowerTables : Prop where
  range :
    ∀ run ∈ lowerRuns,
      192 ≤ run.first ∨ 65 ≤ run.first ∧ run.last ≤ 90
  misses :
    lowerRuns.all fun run => lowerRuns.all run.misses
  avoids :
    lowerRuns.all fun run =>
      run.avoids (lowerExpansions.map fun e => (e.1, e.1))
  expansions :
    ∀ entry ∈ lowerExpansions, ∀ n ∈ entry.2,
      IsLower (Char.ofNat n)
  capital :
    ∀ n ∈ List.range 26, ¬ IsLower (Char.ofNat (65 + n))
  sigma : IsLower 'σ' ∧ IsLower 'ς' ∧ ¬ IsLower 'Σ'

/- The tables are so; the long check is that of pairs of runs. -/
theorem lowerTables : LowerTables := by
  constructor
  · decide +kernel
  · decide +kernel
  · decide +kernel
  · decide +kernel
  · decide +kernel
  · decide +kernel

/- A character is its own lower case if no table maps it. -/
theorem isLower_of_unmapped
    (hExpansions : lowerExpansions.lookup c.toNat = none)
    (hRuns : ∀ run ∈ lowerRuns, run.image? c.toNat = none) :
    IsLower c := by
  unfold IsLower lowerChar mapCase
  rw [hExpansions, List.findSome?_eq_none_iff.mpr hRuns]

/- So is every character before the accented ones, but capitals. -/
theorem isLower_of_basic
    (hBasic : c.toNat < 192)
    (hCapital : ¬ isCapital c) :
    IsLower c := by
  have hTables := lowerTables
  rw [isCapital_iff] at hCapital
  apply isLower_of_unmapped
  · rw [List.lookup_eq_none_iff]
    intro entry hEntry
    rw [List.mem_singleton.mp hEntry, bne_iff_ne]
    omega
  · intro run hRun
    have hRange := hTables.range run hRun
    rw [Option.eq_none_iff_forall_ne_some]
    intro m hImage
    rcases CaseRun.covered_of_image? hImage with
      ⟨hFirst, hLast, _, _⟩
    omega

/- The lower case of a capital is another character. -/
theorem IsLower.not_isCapital
    (hLower : IsLower c) :
    ¬ isCapital c := by
  intro hCapital
  rw [isCapital_iff] at hCapital
  have hTables := lowerTables
  apply
    hTables.capital (c.toNat - 65)
      (List.mem_range.mpr (by omega))
  have hCode : 65 + (c.toNat - 65) = c.toNat := by omega
  rw [hCode, Char.ofNat_toNat]
  exact hLower

/- No table maps what a run leads to. -/
theorem isLower_of_image?
    {n m : Nat}
    (hRun : run ∈ lowerRuns)
    (hImage : run.image? n = some m) :
    IsLower (Char.ofNat m) := by
  have hTables := lowerTables
  by_cases hZero : (Char.ofNat m).toNat = 0
  · apply isLower_of_basic
    · omega
    · rw [isCapital_iff]
      omega
  · have hCode := eq_toNat_of_ofNat_eq hZero rfl
    apply isLower_of_unmapped
    · rw [← hCode, List.lookup_eq_none_iff]
      intro entry hEntry
      have hApart :=
        List.all_eq_true.mp
          (List.all_eq_true.mp hTables.avoids run hRun)
          (entry.1, entry.1) (List.mem_map_of_mem hEntry)
      rcases CaseRun.covered_of_image? hImage with
        ⟨hFirst, hLast, _, hEq⟩
      simp only [Bool.or_eq_true, decide_eq_true_eq] at hApart
      rw [bne_iff_ne]
      omega
    · intro other hOther
      rw [← hCode]
      exact
        CaseRun.image?_of_misses
          (List.all_eq_true.mp
            (List.all_eq_true.mp hTables.misses run hRun)
            other hOther)
          hImage

/- The lower case of a character is made of such ones. -/
theorem isLower_of_mem_lowerChar
    (hMember : d ∈ lowerChar c) :
    IsLower d := by
  have hTables := lowerTables
  unfold lowerChar mapCase at hMember
  split at hMember
  · next image hFound =>
      rcases List.mem_map.mp hMember with ⟨n, hImage, rfl⟩
      rcases List.lookup_eq_some_iff.mp hFound with
        ⟨before, after, hSplit, _⟩
      exact
        hTables.expansions (c.toNat, image)
          (by simp [hSplit]) n hImage
  · next hNone =>
      split at hMember
      · next m hFound =>
          rcases List.exists_of_findSome?_eq_some hFound with
            ⟨run, hRun, hImage⟩
          rw [List.mem_singleton.mp hMember]
          exact isLower_of_image? hRun hImage
      · next hNothing =>
          rw [List.mem_singleton.mp hMember]
          exact
            isLower_of_unmapped hNone
              (List.findSome?_eq_none_iff.mp hNothing)

------------------------------------------------------------
-- Lower Case of Texts
------------------------------------------------------------

/- Each character of a text is replaced by its image. -/
theorem exists_lowerAfter_cons
    (before : List Char)
    (c : Char)
    (rest : List Char) :
    ∃ image,
      lowerAfter before (c :: rest) =
          image ++ lowerAfter (c :: before) rest ∧
        (c ≠ 'Σ' ∧ image = lowerChar c ∨
          c = 'Σ' ∧ (image = ['σ'] ∨ image = ['ς'])) := by
  rw [lowerAfter]
  refine ⟨_, rfl, ?_⟩
  split
  · next hSigma =>
      refine .inr ⟨hSigma, ?_⟩
      split
      · exact .inr rfl
      · exact .inl rfl
  · next hOther => exact .inl ⟨hOther, rfl⟩

/- Whatever stands before a text, its lower case is final. -/
theorem isLower_of_mem_lowerAfter
    {before : List Char}
    (hMember : d ∈ lowerAfter before s) :
    IsLower d := by
  have hTables := lowerTables
  induction s generalizing before with
  | nil => cases hMember
  | cons c rest ih =>
      rcases exists_lowerAfter_cons before c rest with
        ⟨image, hLower, hImage⟩
      rw [hLower] at hMember
      rcases List.mem_append.mp hMember with hHere | hLater
      · rcases hImage with ⟨_, rfl⟩ | ⟨_, rfl | rfl⟩
        · exact isLower_of_mem_lowerChar hHere
        · rw [List.mem_singleton.mp hHere]
          exact hTables.sigma.1
        · rw [List.mem_singleton.mp hHere]
          exact hTables.sigma.2.1
      · exact ih hLater

/- Without capital sigmas, each character stands for itself. -/
theorem lowerAfter_eq_flatMap
    (before : List Char)
    (hSigma : 'Σ' ∉ s) :
    lowerAfter before s = s.flatMap lowerChar := by
  induction s generalizing before with
  | nil => rfl
  | cons c rest ih =>
      rw [List.mem_cons, not_or] at hSigma
      rcases exists_lowerAfter_cons before c rest with
        ⟨image, hLower, ⟨_, rfl⟩ | ⟨hHere, _⟩⟩
      · rw [hLower, ih (c :: before) hSigma.2, List.flatMap_cons]
      · exact absurd hHere.symm hSigma.1

/- A text of such characters stays as it is. -/
theorem lower_of_isLower
    (hLower : ∀ c ∈ s, IsLower c) :
    lower s = s := by
  have hTables := lowerTables
  have hSigma : 'Σ' ∉ s := fun hMember =>
    hTables.sigma.2.2 (hLower 'Σ' hMember)
  calc
    lower s = s.flatMap lowerChar :=
      lowerAfter_eq_flatMap [] hSigma
    _ = s.flatMap fun c => [c] := List.flatMap_congr hLower
    _ = s := List.flatMap_singleton' s

/- What no lower case leads to is there from the start. -/
theorem IsUnreached.mem_of_mem_lowerAfter
    {k : Char}
    (hUnreached : IsUnreached lowerExpansions lowerRuns k)
    (hSigma : k ≠ 'σ' ∧ k ≠ 'ς')
    {before : List Char}
    (hMember : k ∈ lowerAfter before s) :
    k ∈ s := by
  induction s generalizing before with
  | nil => exact hMember
  | cons c rest ih =>
      rcases exists_lowerAfter_cons before c rest with
        ⟨image, hLower, hImage⟩
      rw [hLower] at hMember
      rcases List.mem_append.mp hMember with hHere | hLater
      · rcases hImage with ⟨_, rfl⟩ | ⟨_, rfl | rfl⟩
        · rw [hUnreached.eq_of_mem_mapCase hHere]
          exact List.mem_cons_self
        · exact absurd (List.mem_singleton.mp hHere) hSigma.1
        · exact absurd (List.mem_singleton.mp hHere) hSigma.2
      · exact List.mem_cons_of_mem c (ih hLater)

end Text

end ElementBindings
