import ElementBindings.Naming

/-
  Characters that generated names keep, or do not add.

  In snake case words are parted by underscores, and letters
  become small ones.  Characters that are no letters and part
  no words are neither lost nor added: a snake case name has
  each of them as often as the name.  Slashes and equals signs
  are some.  Camel case may drop characters, but adds only
  letters, apart from the separators that it reads.

  Key definitions include:
    * `Text.IsUnreached`
    * `Text.IsCaseless`, `Naming.IsKept`
    * `Naming.IsForeign`

  Key theorems include:
    * `Text.IsCaseless.count_lower`
    * `Naming.IsKept.count_snakeCase`
    * `Naming.slash_mem_snakeCase`
    * `Naming.IsForeign.mem_of_mem_camelCase`
-/

namespace ElementBindings

------------------------------------------------------------
-- Tables of Cases
------------------------------------------------------------

namespace Text

variable {expansions : List (Nat × List Nat)}
variable {runs : List CaseRun}

/- A character has one code point. -/
theorem eq_toNat_of_ofNat_eq
    {k : Char}
    {n : Nat}
    (hNonzero : k.toNat ≠ 0)
    (hChar : Char.ofNat n = k) :
    n = k.toNat := by
  by_cases hValid : n.isValidChar
  · have hMade :
        Char.ofNat n = Char.ofNatAux n hValid :=
      dif_pos hValid
    rw [← hChar, hMade]
    rfl
  · have hZero : Char.ofNat n = '\x00' := dif_neg hValid
    rw [← hChar, hZero] at hNonzero
    exact absurd rfl hNonzero

/- A character that no other one is mapped to by some tables. -/
structure IsUnreached
    (expansions : List (Nat × List Nat))
    (runs : List CaseRun)
    (k : Char) : Prop where
  nonzero : k.toNat ≠ 0
  expansions : ∀ entry ∈ expansions, k.toNat ∉ entry.2
  runs :
    ∀ run ∈ runs,
      ¬ ((run.first : Int) ≤ k.toNat - run.offset ∧
        k.toNat - run.offset ≤ (run.last : Int))

/- No run maps a code point to it. -/
theorem IsUnreached.image?_ne
    {k : Char}
    (hUnreached : IsUnreached expansions runs k)
    {run : CaseRun}
    (hRun : run ∈ runs)
    (n : Nat) :
    run.image? n ≠ some k.toNat := by
  have hAway := hUnreached.runs run hRun
  have hNonzero := hUnreached.nonzero
  intro hImage
  unfold CaseRun.image? at hImage
  split at hImage
  · rw [Option.some.injEq] at hImage
    omega
  · simp at hImage

/- So only the character itself is mapped to it. -/
theorem IsUnreached.eq_of_mem_mapCase
    {k c : Char}
    (hUnreached : IsUnreached expansions runs k)
    (hMember : k ∈ mapCase expansions runs c) :
    c = k := by
  unfold mapCase at hMember
  split at hMember
  · next image hFound =>
      rcases List.mem_map.mp hMember with ⟨n, hImage, hChar⟩
      rcases List.lookup_eq_some_iff.mp hFound with
        ⟨before, after, hSplit, _⟩
      have hAbsent :=
        hUnreached.expansions (c.toNat, image)
          (by simp [hSplit])
      rw [eq_toNat_of_ofNat_eq hUnreached.nonzero hChar]
        at hImage
      exact absurd hImage hAbsent
  · split at hMember
    · next image hFound =>
        rcases List.exists_of_findSome?_eq_some hFound with
          ⟨run, hRun, hImage⟩
        have hChar := (List.mem_singleton.mp hMember).symm
        rw [eq_toNat_of_ofNat_eq hUnreached.nonzero hChar]
          at hImage
        exact absurd hImage (hUnreached.image?_ne hRun _)
    · exact (List.mem_singleton.mp hMember).symm

/- The images of a run lie apart from some ranges. -/
def CaseRun.avoids
    (run : CaseRun)
    (ranges : List (Nat × Nat)) : Bool :=
  let low := ((run.first : Int) + run.offset).toNat
  let high := ((run.last : Int) + run.offset).toNat
  ranges.all fun range => high < range.1 || range.2 < low

/- Tables map no code point into some ranges, without zero. -/
def avoid
    (expansions : List (Nat × List Nat))
    (runs : List CaseRun)
    (ranges : List (Nat × Nat)) : Bool :=
  ranges.all (0 < ·.1)
    && (expansions.all fun entry =>
      entry.2.all fun n => !inRanges ranges n)
    && runs.all (·.avoids ranges)

/- Then no character of the ranges is reached. -/
theorem isUnreached_of_avoid
    {ranges : List (Nat × Nat)}
    {k : Char}
    (hAvoid : avoid expansions runs ranges)
    (hInside : inRanges ranges k.toNat) :
    IsUnreached expansions runs k := by
  simp only [avoid, Bool.and_eq_true, List.all_eq_true]
    at hAvoid
  rcases hAvoid with ⟨⟨hPositive, hExpansions⟩, hRuns⟩
  rcases List.any_eq_true.mp hInside with
    ⟨range, hRange, hCovered⟩
  simp only [Bool.and_eq_true, decide_eq_true_eq] at hCovered
  have hLow := hPositive range hRange
  rw [decide_eq_true_eq] at hLow
  constructor
  · omega
  · intro entry hEntry hMember
    have hOutside := hExpansions entry hEntry k.toNat hMember
    simp [hInside] at hOutside
  · intro run hRun hBetween
    have hApart :=
      List.all_eq_true.mp (hRuns run hRun) range hRange
    simp only [Bool.or_eq_true, decide_eq_true_eq] at hApart
    omega

------------------------------------------------------------
-- Lower Case
------------------------------------------------------------

/-
  A character that is in no table of lower cases: it stays as
  it is, and no other character becomes it.
-/
structure IsCaseless
    (k : Char) : Prop where
  nonzero : k.toNat ≠ 0
  sigma : k ≠ 'Σ' ∧ k ≠ 'σ' ∧ k ≠ 'ς'
  expansions :
    ∀ entry ∈ lowerExpansions,
      entry.1 ≠ k.toNat ∧ k.toNat ∉ entry.2
  runs :
    ∀ run ∈ lowerRuns,
      ¬ (run.first ≤ k.toNat ∧ k.toNat ≤ run.last) ∧
        ¬ ((run.first : Int) ≤ k.toNat - run.offset ∧
          k.toNat - run.offset ≤ (run.last : Int))

instance (k : Char) : Decidable (IsCaseless k) :=
  decidable_of_iff
    (k.toNat ≠ 0 ∧ (k ≠ 'Σ' ∧ k ≠ 'σ' ∧ k ≠ 'ς') ∧
      (∀ entry ∈ lowerExpansions,
        entry.1 ≠ k.toNat ∧ k.toNat ∉ entry.2) ∧
      ∀ run ∈ lowerRuns,
        ¬ (run.first ≤ k.toNat ∧ k.toNat ≤ run.last) ∧
          ¬ ((run.first : Int) ≤ k.toNat - run.offset ∧
            k.toNat - run.offset ≤ (run.last : Int)))
    ⟨fun ⟨hNonzero, hSigma, hExpansions, hRuns⟩ =>
      ⟨hNonzero, hSigma, hExpansions, hRuns⟩,
    fun ⟨hNonzero, hSigma, hExpansions, hRuns⟩ =>
      ⟨hNonzero, hSigma, hExpansions, hRuns⟩⟩

variable {k : Char}

/- A run does not map a caseless character. -/
theorem IsCaseless.image?_eq
    (hCaseless : IsCaseless k)
    {run : CaseRun}
    (hRun : run ∈ lowerRuns) :
    run.image? k.toNat = none := by
  have hAway := (hCaseless.runs run hRun).1
  unfold CaseRun.image?
  rw [if_neg]
  intro hCovered
  exact hAway ⟨hCovered.1, hCovered.2.1⟩

/- A caseless character is its own lower case. -/
theorem IsCaseless.lowerChar_self
    (hCaseless : IsCaseless k) :
    lowerChar k = [k] := by
  have hExpansions :
      lowerExpansions.lookup k.toNat = none := by
    rw [List.lookup_eq_none_iff]
    intro entry hEntry
    simpa using (hCaseless.expansions entry hEntry).1.symm
  have hRuns :
      lowerRuns.findSome? (·.image? k.toNat) = none := by
    rw [List.findSome?_eq_none_iff]
    intro run hRun
    exact hCaseless.image?_eq hRun
  unfold lowerChar mapCase
  rw [hExpansions, hRuns]

/- It is in the lower case of no other character. -/
theorem IsCaseless.eq_of_mem_lowerChar
    (hCaseless : IsCaseless k)
    {c : Char}
    (hMember : k ∈ lowerChar c) :
    c = k := by
  have hUnreached : IsUnreached lowerExpansions lowerRuns k :=
    { nonzero := hCaseless.nonzero
      expansions := fun entry hEntry =>
        (hCaseless.expansions entry hEntry).2
      runs := fun run hRun => (hCaseless.runs run hRun).2 }
  exact hUnreached.eq_of_mem_mapCase hMember

/- So lower case has it as often. -/
theorem IsCaseless.count_lowerChar
    (hCaseless : IsCaseless k)
    (c : Char) :
    (lowerChar c).count k = [c].count k := by
  by_cases hSame : c = k
  · rw [hSame, hCaseless.lowerChar_self]
  · have hNone : k ∉ lowerChar c := by
      intro hMember
      exact hSame (hCaseless.eq_of_mem_lowerChar hMember)
    rw [List.count_eq_zero.mpr hNone,
      List.count_eq_zero.mpr (by simpa using Ne.symm hSame)]

/- Whatever stands before a text, that holds for the text. -/
theorem IsCaseless.count_lowerAfter
    (hCaseless : IsCaseless k)
    (before s : List Char) :
    (lowerAfter before s).count k = s.count k := by
  induction s generalizing before with
  | nil => rfl
  | cons c rest ih =>
      rcases hCaseless.sigma with ⟨hCapital, hSmall, hFinal⟩
      have hImage :
          (if c = 'Σ' then
              if startsCased before && !startsCased rest then
                ['ς']
              else
                ['σ']
            else
              lowerChar c).count k = [c].count k := by
        split
        · next hSigma =>
            rw [hSigma]
            split
            · simp [hCapital.symm, hFinal.symm]
            · simp [hCapital.symm, hSmall.symm]
        · exact hCaseless.count_lowerChar c
      unfold lowerAfter
      rw [List.count_append, hImage, ih, ← List.count_append]
      rfl

/- The lower case of a text has caseless characters as often. -/
theorem IsCaseless.count_lower
    (hCaseless : IsCaseless k)
    (s : List Char) :
    (lower s).count k = s.count k :=
  hCaseless.count_lowerAfter [] s

end Text

------------------------------------------------------------
-- Snake Case
------------------------------------------------------------

namespace Naming

variable {k : Char}

/- Parting acronyms only adds underscores. -/
theorem count_splitAcronyms
    (hOther : k ≠ '_')
    (s : List Char) :
    (splitAcronyms s).count k = s.count k := by
  have hUnderscore : ('_' == k) = false := by
    simp [hOther.symm]
  fun_induction splitAcronyms s with
  | case1 first second third rest hParted ih =>
      simp only [List.count_cons, ih, hUnderscore]
      rfl
  | case2 first second third rest hWhole ih =>
      rw [List.count_cons, List.count_cons, ih]
  | case3 s hShort => rfl

/- Parting words only adds underscores. -/
theorem count_splitWords
    (hOther : k ≠ '_')
    (s : List Char) :
    (splitWords s).count k = s.count k := by
  have hUnderscore : ('_' == k) = false := by
    simp [hOther.symm]
  fun_induction splitWords s with
  | case1 first second rest hParted ih =>
      simp only [List.count_cons, ih, hUnderscore]
      rfl
  | case2 first second rest hWhole ih =>
      rw [List.count_cons, List.count_cons, ih]
  | case3 s hShort => rfl

/- A character that snake case neither changes nor adds. -/
structure IsKept
    (k : Char) : Prop where
  caseless : Text.IsCaseless k
  underscore : k ≠ '_'
  separator : separatorToUnderscore k = k

/- Only a character that is kept becomes one. -/
theorem IsKept.count_separators
    (hKept : IsKept k)
    (s : List Char) :
    (s.map separatorToUnderscore).count k = s.count k := by
  induction s with
  | nil => rfl
  | cons c rest ih =>
      have hSame : separatorToUnderscore c = k ↔ c = k := by
        constructor
        · intro hChar
          unfold separatorToUnderscore at hChar
          split at hChar
          · exact absurd hChar.symm hKept.underscore
          · exact hChar
        · intro hChar
          rw [hChar]
          exact hKept.separator
      rw [List.map_cons, List.count_cons, List.count_cons, ih]
      simp only [beq_iff_eq, hSame]

/- A snake case name has such characters as often as the name. -/
theorem IsKept.count_snakeCase
    (hKept : IsKept k)
    (name : String) :
    (snakeCase name).toList.count k = name.toList.count k := by
  unfold snakeCase snakeChars
  rw [String.toList_ofList, hKept.caseless.count_lower,
    hKept.count_separators, count_splitWords hKept.underscore,
    count_splitAcronyms hKept.underscore]

/- Slashes and equals signs are kept. -/
theorem isKept_slash_equals : IsKept '/' ∧ IsKept '=' := by
  have hCaseless :
      Text.IsCaseless '/' ∧ Text.IsCaseless '=' := by
    decide +kernel
  exact
    ⟨⟨hCaseless.1, by decide, by decide⟩,
      ⟨hCaseless.2, by decide, by decide⟩⟩

/- A slash in a snake case name stands in the name. -/
theorem slash_mem_snakeCase
    {name : String}
    (hSlash : '/' ∈ (snakeCase name).toList) :
    '/' ∈ name.toList := by
  rw [← List.count_pos_iff] at hSlash ⊢
  rw [isKept_slash_equals.1.count_snakeCase] at hSlash
  exact hSlash

------------------------------------------------------------
-- Camel Case
------------------------------------------------------------

/-
  A character that camel case does not add: no case leads to
  it, and it is none of the separators that may stay.
-/
structure IsForeign
    (k : Char) : Prop where
  upper :
    Text.IsUnreached Text.upperExpansions Text.upperRuns k
  lower :
    Text.IsUnreached Text.lowerExpansions Text.lowerRuns k
  underscore : k ≠ '_'
  space : k ≠ ' '

/- It stands in joined words only if it stood there before. -/
theorem IsForeign.mem_of_mem_joinWords
    (hForeign : IsForeign k)
    {pending : Pending}
    {s : List Char}
    (hMember : k ∈ joinWords pending s) :
    k ∈ s := by
  have hUpper :
      ∀ {c : Char}, k ∈ Text.upperChar c → k = c :=
    fun hImage => (hForeign.upper.eq_of_mem_mapCase hImage).symm
  have hUnderscore := hForeign.underscore
  have hSpace := hForeign.space
  fun_induction joinWords pending s with
  | case1 pending =>
      cases pending with
      | nothing => exact hMember
      | underscore => simp [Pending.kept, hUnderscore] at hMember
      | spaces => simp [Pending.kept, hSpace] at hMember
  | case2 rest ih => exact List.mem_cons_of_mem _ (ih hMember)
  | case3 rest hOther ih =>
      exact List.mem_cons_of_mem _ (ih hMember)
  | case4 c rest hOther hInside ih =>
      rcases List.mem_cons.mp hMember with rfl | hLater
      · exact List.mem_cons_self
      · exact List.mem_cons_of_mem _ (ih hLater)
  | case5 rest ih =>
      simp only [List.mem_cons, hUnderscore, false_or] at hMember
      rcases hMember with rfl | hLater
      · exact List.mem_cons_self
      · exact List.mem_cons_of_mem _ (ih hLater)
  | case6 c rest hOther ih =>
      rcases List.mem_append.mp hMember with hImage | hLater
      · rw [hUpper hImage]
        exact List.mem_cons_self
      · exact List.mem_cons_of_mem _ (ih hLater)
  | case7 rest ih => exact List.mem_cons_of_mem _ (ih hMember)
  | case8 rest hOther ih =>
      simp only [List.mem_cons, hSpace, false_or] at hMember
      rcases hMember with rfl | hLater
      · exact List.mem_cons_self
      · exact List.mem_cons_of_mem _ (ih hLater)
  | case9 c rest hOther hInside ih =>
      rcases List.mem_append.mp hMember with hImage | hLater
      · rw [hUpper hImage]
        exact List.mem_cons_self
      · exact List.mem_cons_of_mem _ (ih hLater)

/- In the Pascal case of a name it stands in the name. -/
theorem IsForeign.mem_of_mem_pascalChars
    (hForeign : IsForeign k)
    {s : List Char}
    (hMember : k ∈ pascalChars s) :
    k ∈ s := by
  cases s with
  | nil => exact hMember
  | cons c rest =>
      rw [pascalChars] at hMember
      by_cases hFeed : c = '\n'
      · rw [if_pos hFeed] at hMember
        rcases List.mem_cons.mp hMember with hHere | hLater
        · rw [hHere, hFeed]
          exact List.mem_cons_self
        · exact
            List.mem_cons_of_mem _
              (hForeign.mem_of_mem_joinWords hLater)
      · rw [if_neg hFeed] at hMember
        rcases List.mem_append.mp hMember with hImage | hLater
        · rw [hForeign.upper.eq_of_mem_mapCase hImage]
          exact List.mem_cons_self
        · exact
            List.mem_cons_of_mem _
              (hForeign.mem_of_mem_joinWords hLater)

/- And so it does in the camel case. -/
theorem IsForeign.mem_of_mem_camelCase
    (hForeign : IsForeign k)
    {name : String}
    (hMember : k ∈ (camelCase name).toList) :
    k ∈ name.toList := by
  unfold camelCase camelChars at hMember
  rw [String.toList_ofList] at hMember
  apply hForeign.mem_of_mem_pascalChars
  cases hPascal : pascalChars name.toList with
  | nil =>
      rw [hPascal] at hMember
      exact hMember
  | cons c rest =>
      rw [hPascal] at hMember
      rcases List.mem_append.mp hMember with hImage | hLater
      · rw [hForeign.lower.eq_of_mem_mapCase hImage]
        exact List.mem_cons_self
      · exact List.mem_cons_of_mem c hLater

end Naming

end ElementBindings
