import ElementBindings.Proofs.Naming.Boundary
import ElementBindings.Proofs.Files.Path
import ElementBindings.Proofs.Text.Indentation

/-
  Words of a name, written in Pascal case and read back.

  A word starts with a small letter and goes on with small
  letters and digits.  Pascal case joins words by capitals, and
  snake case finds where they met, except behind a word of one
  letter: that is taken for a part of an acronym, unless the
  second character of the next word is a letter.  So exactly
  the names without such a place come back, and these have
  files of their own.

  Key definitions include:
    * `Naming.Word`
    * `Naming.joinedName`, `Naming.pascalName`
    * `Naming.IsParted`

  Key theorems include:
    * `Naming.pascalChars_joined`
    * `Naming.snakeChars_capitalised`
    * `Naming.refound_eq_joined_iff`
    * `Naming.pascalCase_comes_back_iff`
-/

namespace ElementBindings

namespace Naming

variable {c : Char}
variable {s : List Char}

------------------------------------------------------------
-- Characters of Words
------------------------------------------------------------

/- A character that a word may hold behind its first one. -/
def IsWordChar
    (c : Char) : Prop :=
  Text.isSmall c ∨ c.isDigit

instance (c : Char) : Decidable (IsWordChar c) :=
  inferInstanceAs (Decidable (_ ∨ _))

/- Such characters are two ranges of code points. -/
theorem isWordChar_iff :
    IsWordChar c ↔
      48 ≤ c.toNat ∧ c.toNat ≤ 57 ∨
        97 ≤ c.toNat ∧ c.toNat ≤ 122 := by
  have hDigit : c.isDigit ↔ 48 ≤ c.toNat ∧ c.toNat ≤ 57 := by
    simp [Char.isDigit, UInt32.le_iff_toNat_le]
  rw [IsWordChar, Text.isSmall_iff, hDigit, or_comm]

/- What holds of all small letters can be computed. -/
theorem of_isSmall
    {P : Char → Prop}
    (hAll : ∀ n ∈ List.range 26, P (Char.ofNat (97 + n)))
    (hSmall : Text.isSmall c) :
    P c := by
  rw [Text.isSmall_iff] at hSmall
  have hCode : 97 + (c.toNat - 97) = c.toNat := by omega
  have hThis := hAll (c.toNat - 97) (List.mem_range.mpr (by omega))
  rw [hCode, Char.ofNat_toNat] at hThis
  exact hThis

/- The upper case of a small letter is a capital, and leads back. -/
theorem toUpper_of_isSmall
    (hSmall : Text.isSmall c) :
    Text.upperChar c = [c.toUpper] ∧
      Text.isCapital c.toUpper ∧
      Text.lowerChar c.toUpper = [c] := by
  apply of_isSmall _ hSmall
  decide

/- What the characters behind the first one are is computed. -/
theorem isWordChar_of_all
    {rest : List Char}
    (hAll : rest.all fun c => decide (IsWordChar c)) :
    ∀ c ∈ rest, IsWordChar c := by
  intro c hMember
  exact of_decide_eq_true (List.all_eq_true.mp hAll c hMember)

/- A character of a word is no capital, and may end a word. -/
theorem IsWordChar.ends
    (hWord : IsWordChar c) :
    Text.isCapital c = false ∧ endsWord c = true := by
  constructor
  · rw [isWordChar_iff] at hWord
    rw [Bool.eq_false_iff, ne_eq, Text.isCapital_iff]
    omega
  · rcases hWord with hSmall | hDigit
    · rw [endsWord, hSmall, Bool.true_or]
    · have hFound :
          (Text.zeroDigits.find? fun first =>
            first ≤ c.toNat && c.toNat ≤ first + 9).isSome := by
        rw [List.find?_isSome]
        refine ⟨48, by decide, ?_⟩
        simpa [Char.isDigit, UInt32.le_iff_toNat_le] using hDigit
      rw [endsWord, Text.isDecimalDigit, Text.decimalDigit?,
        Option.isSome_map, hFound, Bool.or_true]

/- No character between the blanks of ASCII and others is blank. -/
theorem not_isBlank_of_between
    (hAbove : 33 ≤ c.toNat)
    (hBelow : c.toNat ≤ 132) :
    ¬ Text.isBlank c := by
  have hRanges :
      ∀ range ∈ Text.blankRanges, range.2 < 33 ∨ 132 < range.1 := by
    decide
  intro hBlank
  rcases List.any_eq_true.mp hBlank with ⟨range, hRange, hInside⟩
  have hApart := hRanges range hRange
  simp only [Bool.and_eq_true, decide_eq_true_eq] at hInside
  omega

/- Behind the hyphen no such character is a separator. -/
theorem separatorToUnderscore_of_between
    (hAbove : 46 ≤ c.toNat)
    (hBelow : c.toNat ≤ 132) :
    separatorToUnderscore c = c := by
  apply separatorToUnderscore_self
  · rintro rfl
    exact absurd hAbove (by decide)
  · exact not_isBlank_of_between (by omega) hBelow

------------------------------------------------------------
-- Words
------------------------------------------------------------

/- A word of a name. -/
structure Word where
  first : Char
  rest : List Char
  isSmall_first : Text.isSmall first
  isWordChar_rest : ∀ c ∈ rest, IsWordChar c

namespace Word

/- The characters of a word. -/
def chars
    (word : Word) : List Char :=
  word.first :: word.rest

/- A word with a capital as its first letter. -/
def capitalised
    (word : Word) : List Char :=
  word.first.toUpper :: word.rest

end Word

/- Words with an underscore between neighbours. -/
def joined
    (words : List Word) : List Char :=
  ['_'].intercalate (words.map Word.chars)

/- The name that words make in snake case. -/
def joinedName
    (words : List Word) : String :=
  String.ofList (joined words)

/- The name that words make in Pascal case. -/
def pascalName
    (words : List Word) : String :=
  String.ofList (words.flatMap Word.capitalised)

/-
  Two neighbours can be told apart in Pascal case: the first
  one has a second character, or that of the other one is a
  letter.
-/
def IsParted
    (word next : Word) : Prop :=
  2 ≤ word.chars.length ∨
    ∃ c, next.chars[1]? = some c ∧ Text.isSmall c

/- That can be computed. -/
theorem isParted_iff
    {word next : Word} :
    IsParted word next ↔
      word.rest ≠ [] ∨ next.rest[0]?.any Text.isSmall := by
  have hLong : 2 ≤ word.chars.length ↔ word.rest ≠ [] := by
    rw [Word.chars, List.length_cons, ← List.length_pos_iff]
    omega
  rw [IsParted, hLong, Option.any_eq_true]
  rfl

instance (word next : Word) : Decidable (IsParted word next) :=
  decidable_of_iff _ isParted_iff.symm

------------------------------------------------------------
-- Pascal Case
------------------------------------------------------------

/- Characters of words are left as they are. -/
theorem joinWords_wordChars
    {rest : List Char}
    (hRest : ∀ c ∈ rest, IsWordChar c)
    (s : List Char) :
    joinWords .nothing (rest ++ s) =
      rest ++ joinWords .nothing s := by
  induction rest with
  | nil => rfl
  | cons c rest ih =>
      rcases List.forall_mem_cons.mp hRest with ⟨hWord, hMore⟩
      rw [isWordChar_iff] at hWord
      have hUnderscore : c ≠ '_' := by
        rintro rfl
        exact absurd hWord (by decide)
      have hSpace : c ≠ ' ' := by
        rintro rfl
        exact absurd hWord (by decide)
      rw [List.cons_append, joinWords, if_neg hUnderscore,
        if_neg hSpace, ih hMore]
      rfl

/- A small letter is no line feed. -/
theorem Word.first_ne_feed
    (word : Word) :
    word.first ≠ '\n' := by
  intro hFeed
  have hSmall := word.isSmall_first
  rw [hFeed] at hSmall
  exact absurd hSmall (by decide)

/- A word behind an underscore is capitalised. -/
theorem joinWords_word
    (word : Word)
    (s : List Char) :
    joinWords .nothing ('_' :: word.chars ++ s) =
      word.capitalised ++ joinWords .nothing s := by
  rw [List.cons_append, joinWords, if_pos rfl, Word.chars,
    List.cons_append, joinWords, if_neg word.first_ne_feed,
    joinWords_wordChars word.isWordChar_rest,
    (toUpper_of_isSmall word.isSmall_first).1]
  rfl

/- So are all words that stand behind underscores. -/
theorem joinWords_words
    (words : List Word) :
    joinWords .nothing
        ((words.map Word.chars).flatMap ('_' :: ·)) =
      words.flatMap Word.capitalised := by
  induction words with
  | nil => rfl
  | cons word words ih =>
      rw [List.map_cons, List.flatMap_cons, joinWords_word, ih,
        List.flatMap_cons]

/- The Pascal case of joined words are the capitalised words. -/
theorem pascalChars_joined
    (words : List Word) :
    pascalChars (joined words) =
      words.flatMap Word.capitalised := by
  cases words with
  | nil => rfl
  | cons word words =>
      rw [joined, List.map_cons, Text.intercalate_cons_eq_flatMap,
        Word.chars, List.cons_append, pascalChars,
        if_neg word.first_ne_feed,
        joinWords_wordChars word.isWordChar_rest,
        joinWords_words, List.flatMap_cons,
        (toUpper_of_isSmall word.isSmall_first).1]
      rfl

------------------------------------------------------------
-- Places Between Words
------------------------------------------------------------

/- A capitalised word starts with a capital. -/
theorem Word.isCapital_first
    (word : Word) :
    Text.isCapital word.first.toUpper :=
  (toUpper_of_isSmall word.isSmall_first).2.1

/- Characters of a word are parted only from a capital. -/
theorem parted_wordChars
    {rest : List Char}
    (hSome : rest ≠ [])
    (hRest : ∀ c ∈ rest, IsWordChar c)
    (s : List Char) :
    parted (rest ++ s) =
      rest
        ++ ((if s[0]?.any Text.isCapital then ['_'] else [])
          ++ parted s) := by
  induction rest with
  | nil => exact absurd rfl hSome
  | cons c rest ih =>
      rcases List.forall_mem_cons.mp hRest with ⟨hWord, hMore⟩
      rcases hWord.ends with ⟨hPlain, hEnds⟩
      rw [List.cons_append, parted_cons]
      cases rest with
      | nil =>
          have hPlace :
              endsWordAt (c :: s) 0 =
                s[0]?.any Text.isCapital := by
            simp [endsWordAt, hPlain, hEnds]
          rw [List.nil_append, hPlace]
          split
          · rfl
          · rfl
      | cons d rest =>
          have hNext : Text.isCapital d = false :=
            (hMore d List.mem_cons_self).ends.1
          have hPlace :
              endsWordAt (c :: (d :: rest ++ s)) 0 = false := by
            simp [endsWordAt, hNext]
          rw [hPlace, ih (List.cons_ne_nil d rest) hMore]
          rfl

/-
  A capitalised word is parted from a capital behind it, unless
  the word is one capital with no small letter two places on.
-/
theorem parted_capitalised
    (word : Word)
    (s : List Char) :
    parted (word.capitalised ++ s) =
      word.capitalised
        ++ ((if s[0]?.any Text.isCapital ∧
                (word.rest ≠ [] ∨ s[1]?.any Text.isSmall) then
              ['_']
            else
              [])
          ++ parted s) := by
  have hCapital := word.isCapital_first
  rw [Word.capitalised, List.cons_append, parted_cons]
  cases hRest : word.rest with
  | nil =>
      have hEnds := not_endsWord_of_isCapital hCapital
      have hPlace :
          endsWordAt (word.first.toUpper :: s) 0 ↔
            s[0]?.any Text.isCapital ∧
              s[1]?.any Text.isSmall := by
        simp [endsWordAt, hCapital, hEnds]
      simp only [List.nil_append, hPlace, ne_eq, not_true_eq_false,
        false_or]
      split
      · rfl
      · rfl
  | cons c rest =>
      have hSome : c :: rest ≠ [] := List.cons_ne_nil c rest
      have hChars := word.isWordChar_rest
      rw [hRest] at hChars
      have hNext : Text.isCapital c = false :=
        (hChars c List.mem_cons_self).ends.1
      have hPlace :
          endsWordAt (word.first.toUpper :: (c :: rest ++ s)) 0 =
            false := by
        simp [endsWordAt, hNext]
      rw [hPlace, parted_wordChars hSome hChars]
      simp only [hSome, ne_eq, not_false_eq_true, true_or,
        and_true]
      rfl

/- Capitalised words start with a capital, if there are any. -/
theorem not_small_of_capitalised
    (words : List Word) :
    (words.flatMap Word.capitalised)[0]?.any Text.isSmall =
      false := by
  cases words with
  | nil => rfl
  | cons word words =>
      have hCapital := word.isCapital_first
      rw [List.flatMap_cons, Word.capitalised, List.cons_append,
        List.getElem?_cons_zero, Option.any_some,
        Bool.eq_false_iff]
      intro hSmall
      rw [not_isCapital_of_isSmall hSmall] at hCapital
      exact Bool.false_ne_true hCapital

/- So a word is parted from the next one exactly if that shows. -/
theorem parted_word_iff
    (word next : Word)
    (words : List Word) :
    let s := (next :: words).flatMap Word.capitalised
    (s[0]?.any Text.isCapital ∧
        (word.rest ≠ [] ∨ s[1]?.any Text.isSmall)) ↔
      IsParted word next := by
  have hCapital := next.isCapital_first
  have hSecond :
      ((next :: words).flatMap Word.capitalised)[1]?.any
          Text.isSmall =
        next.rest[0]?.any Text.isSmall := by
    rw [List.flatMap_cons, Word.capitalised, List.cons_append,
      List.getElem?_cons_succ]
    cases next.rest with
    | nil => exact not_small_of_capitalised words
    | cons c rest => rfl
  dsimp only
  rw [hSecond, isParted_iff, List.flatMap_cons, Word.capitalised,
    List.cons_append, List.getElem?_cons_zero, Option.any_some]
  exact and_iff_right hCapital

------------------------------------------------------------
-- Snake Case
------------------------------------------------------------

/- What is parted has only underscores more. -/
theorem mem_of_mem_parted
    (hMember : c ∈ parted s) :
    c ∈ s ∨ c = '_' := by
  induction s with
  | nil => exact .inl hMember
  | cons d s ih =>
      rw [parted_cons] at hMember
      rcases List.mem_append.mp hMember with hHere | hLater
      · split at hHere
        · simp only [List.mem_cons, List.not_mem_nil, or_false]
            at hHere
          exact hHere.imp_left fun hSame => by simp [hSame]
        · rw [List.mem_singleton.mp hHere]
          exact .inl List.mem_cons_self
      · exact (ih hLater).imp_left (List.mem_cons_of_mem d)

/- What becomes of a character in snake case, sigmas apart. -/
def snakeChar
    (c : Char) : List Char :=
  Text.lowerChar (separatorToUnderscore c)

/- Without sigmas each character has its own image. -/
theorem snakeChars_eq_flatMap
    (hSigma : 'Σ' ∉ s) :
    snakeChars s = (parted s).flatMap snakeChar := by
  have hNone : 'Σ' ∉ (parted s).map separatorToUnderscore := by
    intro hMember
    rcases List.mem_map.mp hMember with ⟨c, hParted, hImage⟩
    unfold separatorToUnderscore at hImage
    split at hImage
    · exact absurd hImage (by decide)
    · rw [hImage] at hParted
      rcases mem_of_mem_parted hParted with hHere | hMark
      · exact hSigma hHere
      · exact absurd hMark (by decide)
  rw [snakeChars_eq, Text.lower,
    Text.lowerAfter_eq_flatMap [] hNone, List.flatMap_map]
  rfl

/- The image of a capitalised word is the word. -/
theorem flatMap_snakeChar_capitalised
    (word : Word) :
    word.capitalised.flatMap snakeChar = word.chars := by
  rcases toUpper_of_isSmall word.isSmall_first with
    ⟨_, hCapital, hBack⟩
  have hFirst : snakeChar word.first.toUpper = [word.first] := by
    rw [Text.isCapital_iff] at hCapital
    rw [snakeChar, separatorToUnderscore_of_between (by omega)
      (by omega), hBack]
  have hRest : ∀ c ∈ word.rest, snakeChar c = [c] := by
    intro c hMember
    have hWord := word.isWordChar_rest c hMember
    have hPlain := hWord.ends.1
    rw [isWordChar_iff] at hWord
    rw [snakeChar, separatorToUnderscore_of_between (by omega)
      (by omega)]
    exact
      Text.isLower_of_basic (by omega)
        (Bool.eq_false_iff.mp hPlain)
  rw [Word.capitalised, List.flatMap_cons, hFirst,
    List.flatMap_congr hRest, List.flatMap_singleton']
  rfl

/- Capitalised words hold only letters and digits of ASCII. -/
theorem code_of_mem_capitalised
    {words : List Word}
    (hMember : c ∈ words.flatMap Word.capitalised) :
    48 ≤ c.toNat ∧ c.toNat ≤ 122 := by
  rcases List.mem_flatMap.mp hMember with ⟨word, _, hInside⟩
  rcases List.mem_cons.mp hInside with rfl | hRest
  · have hCapital := word.isCapital_first
    rw [Text.isCapital_iff] at hCapital
    omega
  · have hWord := word.isWordChar_rest c hRest
    rw [isWordChar_iff] at hWord
    omega

/- The words as they are found again in Pascal case. -/
def refound : List Word → List Char
  | [] => []
  | [word] => word.chars
  | word :: next :: words =>
      word.chars
        ++ ((if IsParted word next then ['_'] else [])
          ++ refound (next :: words))

/- They are what becomes of the parted characters. -/
theorem flatMap_snakeChar_parted
    (words : List Word) :
    (parted (words.flatMap Word.capitalised)).flatMap snakeChar =
      refound words := by
  induction words with
  | nil => rfl
  | cons word words ih =>
      rw [List.flatMap_cons, parted_capitalised,
        List.flatMap_append, List.flatMap_append, ih,
        flatMap_snakeChar_capitalised]
      cases words with
      | nil => exact List.append_nil word.chars
      | cons next words =>
          have hMark : snakeChar '_' = ['_'] := by
            decide
          simp only [parted_word_iff, refound]
          split
          · rw [List.flatMap_cons, hMark]
            rfl
          · rfl

/- Snake case finds the words that can be told apart. -/
theorem snakeChars_capitalised
    (words : List Word) :
    snakeChars (words.flatMap Word.capitalised) =
      refound words := by
  have hSigma : 'Σ' ∉ words.flatMap Word.capitalised :=
    fun hMember =>
      absurd (code_of_mem_capitalised hMember) (by decide)
  rw [snakeChars_eq_flatMap hSigma, flatMap_snakeChar_parted]

------------------------------------------------------------
-- The Way Back
------------------------------------------------------------

/- What is found starts with the first word. -/
theorem head?_refound
    (word : Word)
    (words : List Word) :
    (refound (word :: words)).head? = some word.first := by
  cases words with
  | nil => rfl
  | cons next words => rfl

/- The joined words are found exactly if all neighbours show. -/
theorem refound_eq_joined_iff
    (words : List Word) :
    refound words = joined words ↔ words.IsChain IsParted := by
  induction words with
  | nil => exact iff_of_true rfl .nil
  | cons word words ih =>
      cases words with
      | nil =>
          have hAlone : joined [word] = word.chars :=
            List.intercalate_singleton
          exact iff_of_true hAlone.symm (.singleton word)
      | cons next words =>
          have hJoined :
              joined (word :: next :: words) =
                word.chars ++ ('_' :: joined (next :: words)) := by
            unfold joined
            rw [List.map_cons, List.map_cons,
              List.intercalate_cons_cons, List.append_assoc]
            rfl
          rw [List.isChain_cons_cons, ← ih, hJoined, refound,
            List.append_cancel_left_eq]
          by_cases hParted : IsParted word next
          · rw [if_pos hParted, List.singleton_append,
              List.cons.injEq]
            simp [hParted]
          · rw [if_neg hParted, List.nil_append]
            refine iff_of_false ?_ (hParted ·.1)
            intro hSame
            have hHead := head?_refound next words
            rw [hSame, List.head?_cons, Option.some.injEq] at hHead
            have hSmall := next.isSmall_first
            rw [← hHead] at hSmall
            exact absurd hSmall (by decide)

/- A name in snake case comes back from Pascal case. -/
theorem pascalCase_joinedName
    (words : List Word) :
    pascalCase (joinedName words) = pascalName words := by
  rw [pascalCase, joinedName, String.toList_ofList,
    pascalChars_joined, pascalName]

/- What comes back is what is found of the words. -/
theorem snakeCase_pascalName
    (words : List Word) :
    snakeCase (pascalName words) =
      String.ofList (refound words) := by
  rw [snakeCase, pascalName, String.toList_ofList,
    snakeChars_capitalised]

/- So it is the name itself exactly if all neighbours show. -/
theorem snakeCase_pascalName_eq_iff
    (words : List Word) :
    snakeCase (pascalName words) = joinedName words ↔
      words.IsChain IsParted := by
  rw [snakeCase_pascalName, joinedName, String.ofList_inj,
    refound_eq_joined_iff]

example :
    snakeCase (pascalCase "a_bc_d") = "a_bc_d" ∧
      snakeCase (pascalCase "a_b_c1") = "abc1" := by
  decide

/- There is no slash in capitalised words. -/
theorem slash_not_mem_pascalName
    (words : List Word) :
    '/' ∉ (pascalName words).toList := by
  rw [pascalName, String.toList_ofList]
  intro hMember
  exact absurd (code_of_mem_capitalised hMember) (by decide)

/-
  Joined words become capitalised ones in Pascal case.  They
  come back in snake case exactly if each word can be told
  apart from the next one.  Two such names differ in snake
  case, too, and elements of these names have different paths.
-/
theorem pascalCase_comes_back_iff
    (words : List Word) :
    pascalCase (joinedName words) = pascalName words ∧
      (snakeCase (pascalCase (joinedName words)) =
          joinedName words ↔
        words.IsChain IsParted) ∧
      (words.IsChain IsParted →
        ∀ others : List Word, others.IsChain IsParted →
          pascalName words ≠ pascalName others →
            snakeCase (pascalName words)
                ≠ snakeCase (pascalName others) ∧
              ∀ (base : Path) (first second : Element),
                first.name = some (pascalName words) →
                  second.name = some (pascalName others) →
                    ∃ path other,
                      first.path base = .ok path ∧
                        second.path base = .ok other ∧
                        path ≠ other) := by
  refine ⟨pascalCase_joinedName words, ?_, ?_⟩
  · rw [pascalCase_joinedName]
    exact snakeCase_pascalName_eq_iff words
  · intro hWords others hOthers hDiffer
    have hSnake :
        snakeCase (pascalName words)
          ≠ snakeCase (pascalName others) := by
      rw [(snakeCase_pascalName_eq_iff words).mpr hWords,
        (snakeCase_pascalName_eq_iff others).mpr hOthers]
      intro hSame
      apply hDiffer
      rw [← pascalCase_joinedName, hSame, pascalCase_joinedName]
    refine ⟨hSnake, ?_⟩
    intro base first second hFirst hSecond
    refine
      ⟨_, _,
        Element.path_eq base hFirst (slash_not_mem_pascalName _),
        Element.path_eq base hSecond
          (slash_not_mem_pascalName _), ?_⟩
    rw [ne_eq, Element.target_inj]
    exact hSnake

/- A word of one letter. -/
def wordX : Word :=
  { first := 'x'
    rest := []
    isSmall_first := by decide
    isWordChar_rest := isWordChar_of_all (by decide) }

/- A word of letters. -/
def wordAxis : Word :=
  { first := 'a'
    rest := ['x', 'i', 's']
    isSmall_first := by decide
    isWordChar_rest := isWordChar_of_all (by decide) }

/- A word with a digit. -/
def wordY2 : Word :=
  { first := 'y'
    rest := ['2']
    isSmall_first := by decide
    isWordChar_rest := isWordChar_of_all (by decide) }

/-
  Behind one letter, a word of letters is found again, and one
  whose second character is a digit is not.
-/
theorem axis_comes_back :
    (pascalCase "x_axis" = "XAxis" ∧
        snakeCase (pascalCase "x_axis") = "x_axis") ∧
      (pascalCase "x_y2" = "XY2" ∧
        snakeCase (pascalCase "x_y2") ≠ "x_y2") ∧
      snakeCase "XAxis" ≠ snakeCase "Y2X" := by
  have hAxis := pascalCase_comes_back_iff [wordX, wordAxis]
  have hDigit := pascalCase_comes_back_iff [wordX, wordY2]
  have hChain : [wordX, wordAxis].IsChain IsParted := by
    decide
  have hOther : [wordY2, wordX].IsChain IsParted := by
    decide
  have hBroken : ¬ [wordX, wordY2].IsChain IsParted := by
    decide
  have hNames :
      pascalName [wordX, wordAxis] ≠
        pascalName [wordY2, wordX] := by
    decide
  refine
    ⟨⟨hAxis.1, hAxis.2.1.mpr hChain⟩,
      ⟨hDigit.1, mt hDigit.2.1.mp hBroken⟩, ?_⟩
  exact (hAxis.2.2 hChain [wordY2, wordX] hOther hNames).1

end Naming

end ElementBindings
