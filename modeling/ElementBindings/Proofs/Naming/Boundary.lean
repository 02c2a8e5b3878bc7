import ElementBindings.Proofs.Text.Case

/-
  Snake case, place by place.

  Whether a word ends at a place of a name depends on the
  character there and on the next two.  Acronyms and words are
  parted one after the other, and each time what was parted is
  left behind, yet no place is missed and none is parted twice.
  A name in snake case has no place where a word ends, so its
  snake case is the name itself.

  Key definitions include:
    * `Naming.endsWordAt`
    * `Naming.parted`

  Key theorems include:
    * `Naming.splitWords_splitAcronyms`
    * `Naming.snakeCase_placewise`
-/

namespace ElementBindings

namespace Naming

variable {c : Char}
variable {s : List Char}

------------------------------------------------------------
-- Places
------------------------------------------------------------

/-
  A word ends at a place: at a small letter or a digit before
  a capital, or at a capital before another one that a small
  letter follows.
-/
def endsWordAt
    (s : List Char)
    (i : Nat) : Bool :=
  s[i]?.any endsWord && s[i + 1]?.any Text.isCapital
    || s[i]?.any Text.isCapital && s[i + 1]?.any Text.isCapital
      && s[i + 2]?.any Text.isSmall

/- A name with an underscore wherever a word ends. -/
def parted
    (s : List Char) : List Char :=
  (s.mapIdx fun i c =>
    if endsWordAt s i then [c, '_'] else [c]).flatten

/- The first character is parted from the others, or not. -/
theorem parted_cons
    (c : Char)
    (s : List Char) :
    parted (c :: s) =
      (if endsWordAt (c :: s) 0 then [c, '_'] else [c])
        ++ parted s := by
  unfold parted
  rw [List.mapIdx_cons, List.flatten_cons]
  rfl

/- A name without capitals has no place where a word ends. -/
theorem parted_of_no_capital
    (hNone : ∀ c ∈ s, ¬ Text.isCapital c) :
    parted s = s := by
  induction s with
  | nil => rfl
  | cons c s ih =>
      have hNext : s[0]?.any Text.isCapital = false := by
        cases s with
        | nil => rfl
        | cons d s => simpa using hNone d (by simp)
      have hInside : endsWordAt (c :: s) 0 = false := by
        simp [endsWordAt, hNext]
      rw [parted_cons, hInside,
        ih fun d hMember =>
          hNone d (List.mem_cons_of_mem c hMember)]
      rfl

------------------------------------------------------------
-- Words
------------------------------------------------------------

/- No capital is a small letter or a digit of any script. -/
theorem not_endsWord_of_isCapital
    (hCapital : Text.isCapital c) :
    endsWord c = false := by
  rw [Text.isCapital_iff] at hCapital
  have hDigits :
      ∀ first ∈ Text.zeroDigits, first + 9 < 65 ∨ 90 < first := by
    decide
  have hNone :
      (Text.zeroDigits.find? fun first =>
        first ≤ c.toNat && c.toNat ≤ first + 9) = none := by
    rw [List.find?_eq_none]
    intro first hFirst
    have hRange := hDigits first hFirst
    simp only [Bool.and_eq_true, decide_eq_true_eq]
    omega
  have hSmall : Text.isSmall c = false := by
    rw [Bool.eq_false_iff, ne_eq, Text.isSmall_iff]
    omega
  simp [endsWord, hSmall, Text.isDecimalDigit,
    Text.decimalDigit?, hNone]

/- Nothing is parted behind a character that ends no word. -/
theorem splitWords_cons_inside
    (hInside : endsWord c = false)
    (s : List Char) :
    splitWords (c :: s) = c :: splitWords s := by
  cases s with
  | nil => rfl
  | cons d s =>
      rw [splitWords, hInside]
      rfl

/-
  Words are parted behind the first character, or not.  The
  capital behind it, which is passed over then, ends no word.
-/
theorem splitWords_cons
    (c : Char)
    (s : List Char) :
    splitWords (c :: s) =
      (if endsWord c && s[0]?.any Text.isCapital then
          [c, '_']
        else
          [c])
        ++ splitWords s := by
  cases s with
  | nil =>
      rw [List.getElem?_nil, Option.any_none, Bool.and_false]
      rfl
  | cons d s =>
      rw [List.getElem?_cons_zero, Option.any_some, splitWords]
      split
      · next hParted =>
          rw [Bool.and_eq_true] at hParted
          rw [splitWords_cons_inside
            (not_endsWord_of_isCapital hParted.2)]
          rfl
      · rfl

------------------------------------------------------------
-- Acronyms
------------------------------------------------------------

/- No capital is a small letter. -/
theorem not_isCapital_of_isSmall
    (hSmall : Text.isSmall c) :
    Text.isCapital c = false := by
  rw [Text.isSmall_iff] at hSmall
  rw [Bool.eq_false_iff, ne_eq, Text.isCapital_iff]
  omega

/- Nothing is parted behind a character that is no capital. -/
theorem splitAcronyms_cons_other
    (hOther : Text.isCapital c = false)
    (s : List Char) :
    splitAcronyms (c :: s) = c :: splitAcronyms s := by
  match s with
  | [] => rfl
  | [d] => rfl
  | d :: e :: s =>
      rw [splitAcronyms, hOther]
      rfl

/- Nor is anything behind a capital before such a character. -/
theorem splitAcronyms_cons_before
    {d : Char}
    (hOther : Text.isCapital d = false)
    (c : Char)
    (s : List Char) :
    splitAcronyms (c :: d :: s) =
      c :: splitAcronyms (d :: s) := by
  cases s with
  | nil => rfl
  | cons e s =>
      rw [splitAcronyms, hOther, Bool.and_false]
      rfl

/-
  Acronyms are parted behind the first character, or not.  No
  acronym ends at one of the two characters that are passed
  over then, as the second is a small letter.
-/
theorem splitAcronyms_cons
    (c : Char)
    (s : List Char) :
    splitAcronyms (c :: s) =
      (if Text.isCapital c && s[0]?.any Text.isCapital
            && s[1]?.any Text.isSmall then
          [c, '_']
        else
          [c])
        ++ splitAcronyms s := by
  match s with
  | [] => simp [splitAcronyms]
  | [d] => simp [splitAcronyms]
  | d :: e :: s =>
      rw [splitAcronyms]
      simp only [List.getElem?_cons_zero, List.getElem?_cons_succ,
        Option.any_some]
      split
      · next hParted =>
          rw [Bool.and_eq_true] at hParted
          have hSmall := not_isCapital_of_isSmall hParted.2
          rw [splitAcronyms_cons_before hSmall,
            splitAcronyms_cons_other hSmall]
          rfl
      · rfl

/- Parting acronyms leaves the first character the first. -/
theorem getElem?_zero_splitAcronyms
    (s : List Char) :
    (splitAcronyms s)[0]? = s[0]? := by
  cases s with
  | nil => rfl
  | cons c s =>
      rw [splitAcronyms_cons]
      split
      · rfl
      · rfl

------------------------------------------------------------
-- Snake Case
------------------------------------------------------------

/-
  Both together part a name wherever a word ends.  By induction
  on the name, where acronyms are parted between capitals and
  words are not.
-/
theorem splitWords_splitAcronyms
    (s : List Char) :
    splitWords (splitAcronyms s) = parted s := by
  induction s with
  | nil => rfl
  | cons c s ih =>
      rw [splitAcronyms_cons, parted_cons, ← ih]
      cases hAcronym :
          Text.isCapital c && s[0]?.any Text.isCapital
            && s[1]?.any Text.isSmall with
      | false =>
          have hEnds :
              endsWordAt (c :: s) 0 =
                (endsWord c && s[0]?.any Text.isCapital) := by
            simp [endsWordAt, hAcronym]
          rw [if_neg Bool.false_ne_true, List.singleton_append,
            splitWords_cons, getElem?_zero_splitAcronyms, hEnds]
      | true =>
          have hEnds : endsWordAt (c :: s) 0 = true := by
            simp [endsWordAt, hAcronym]
          have hMark : endsWord '_' = false := by decide
          have hPlain : Text.isCapital '_' = false := by decide
          rw [if_pos rfl, hEnds, if_pos rfl, List.cons_append,
            splitWords_cons, List.singleton_append,
            splitWords_cons_inside hMark,
            List.getElem?_cons_zero, Option.any_some, hPlain,
            Bool.and_false, if_neg Bool.false_ne_true]
          rfl

example : parted "ImageRGBAView2D".toList =
    "Image_RGBA_View2_D".toList := by
  decide

/- Snake case parts a name so, before it changes characters. -/
theorem snakeChars_eq
    (s : List Char) :
    snakeChars s =
      Text.lower ((parted s).map separatorToUnderscore) := by
  rw [snakeChars, splitWords_splitAcronyms]

/- A separator that becomes an underscore is none any more. -/
theorem separatorToUnderscore_shown
    (c : Char) :
    separatorToUnderscore c ≠ '-' ∧
      ¬ Text.isBlank (separatorToUnderscore c) := by
  unfold separatorToUnderscore
  split
  · exact ⟨by decide, by decide⟩
  · next hOther =>
      rw [Bool.or_eq_true, not_or, decide_eq_true_eq] at hOther
      exact hOther

/- Other characters stay as they are. -/
theorem separatorToUnderscore_self
    (hHyphen : c ≠ '-')
    (hBlank : ¬ Text.isBlank c) :
    separatorToUnderscore c = c := by
  unfold separatorToUnderscore
  rw [if_neg]
  rw [Bool.or_eq_true, not_or, decide_eq_true_eq]
  exact ⟨hHyphen, hBlank⟩

/- No lower case leads to a hyphen or to a blank. -/
theorem isUnreached_separator
    (hSeparator : c = '-' ∨ Text.isBlank c) :
    Text.IsUnreached Text.lowerExpansions Text.lowerRuns c := by
  have hAvoid :
      Text.avoid Text.lowerExpansions Text.lowerRuns
        ((0x002D, 0x002D) :: Text.blankRanges) := by
    decide
  apply Text.isUnreached_of_avoid hAvoid
  rcases hSeparator with rfl | hBlank
  · decide
  · unfold Text.inRanges
    rw [List.any_cons, Bool.or_eq_true]
    exact .inr hBlank

/- So there is no separator in a snake case name. -/
theorem shown_of_mem_snakeChars
    (hMember : c ∈ snakeChars s) :
    c ≠ '-' ∧ ¬ Text.isBlank c := by
  rw [snakeChars_eq] at hMember
  rw [ne_eq, ← not_or]
  intro hSeparator
  have hSigma : c ≠ 'σ' ∧ c ≠ 'ς' := by
    constructor
    · rintro rfl
      exact absurd hSeparator (by decide)
    · rintro rfl
      exact absurd hSeparator (by decide)
  have hMapped :=
    (isUnreached_separator hSeparator).mem_of_mem_lowerAfter
      hSigma hMember
  rcases List.mem_map.mp hMapped with ⟨d, _, rfl⟩
  rcases separatorToUnderscore_shown d with ⟨hHyphen, hBlank⟩
  exact hSeparator.elim hHyphen hBlank

/- A snake case name consists of small and caseless characters. -/
theorem isLower_of_mem_snakeChars
    (hMember : c ∈ snakeChars s) :
    Text.IsLower c := by
  rw [snakeChars_eq] at hMember
  exact Text.isLower_of_mem_lowerAfter hMember

/- The snake case of a snake case name is the name itself. -/
theorem snakeChars_snakeChars
    (s : List Char) :
    snakeChars (snakeChars s) = snakeChars s := by
  have hParted : parted (snakeChars s) = snakeChars s :=
    parted_of_no_capital fun _ hMember =>
      (isLower_of_mem_snakeChars hMember).not_isCapital
  have hSeparators :
      (snakeChars s).map separatorToUnderscore =
        snakeChars s := by
    apply (List.map_congr_left _).trans (List.map_id _)
    intro c hMember
    rcases shown_of_mem_snakeChars hMember with
      ⟨hHyphen, hBlank⟩
    exact separatorToUnderscore_self hHyphen hBlank
  calc
    snakeChars (snakeChars s) =
        Text.lower
          ((parted (snakeChars s)).map separatorToUnderscore) :=
      snakeChars_eq _
    _ = Text.lower (snakeChars s) := by
      rw [hParted, hSeparators]
    _ = snakeChars s :=
      Text.lower_of_isLower fun _ hMember =>
        isLower_of_mem_snakeChars hMember

/-
  The snake case of a name is the name with an underscore at
  each place where a word ends, underscores for hyphens and
  blanks, and small letters.  It has no capitals, hyphens and
  blanks, and it is its own snake case.
-/
theorem snakeCase_placewise
    (name : String) :
    snakeCase name =
        String.ofList
          (Text.lower
            ((parted name.toList).map separatorToUnderscore)) ∧
      (∀ c ∈ (snakeCase name).toList,
        ¬ Text.isCapital c ∧ c ≠ '-' ∧ ¬ Text.isBlank c) ∧
      snakeCase (snakeCase name) = snakeCase name := by
  refine ⟨?_, ?_, ?_⟩
  · rw [snakeCase, snakeChars_eq]
  · intro c hMember
    rw [snakeCase, String.toList_ofList] at hMember
    exact
      ⟨(isLower_of_mem_snakeChars hMember).not_isCapital,
        shown_of_mem_snakeChars hMember⟩
  · unfold snakeCase
    rw [String.toList_ofList, snakeChars_snakeChars]

end Naming

end ElementBindings
