import Mathlib.Data.List.Basic
import ElementBindings.Json.Printer
import ElementBindings.Proofs.Text.Ascii

/-
  JSON text can always be encoded.

  All characters of a printed value are ASCII, whatever texts
  are in the value, so that none of them is half of a pair.

  Key theorems include:
    * `Json.isAscii_escaped`
    * `Json.isAscii_compact`, `Json.isAscii_prettyAt`
    * `Json.isAscii_pretty`
-/

namespace ElementBindings

------------------------------------------------------------
-- Digits
------------------------------------------------------------

namespace Text

/- Digits are ASCII. -/
theorem isAsciiChar_of_mem_toDigits
    {n : Nat}
    {c : Char}
    (hMember : c ∈ Nat.toDigits 10 n) :
    isAsciiChar c := by
  have hDigit : c.isDigit :=
    Nat.isDigit_of_mem_toDigits (by decide) (by decide) hMember
  have hRange : 0x30 ≤ c.toNat ∧ c.toNat ≤ 0x39 :=
    Char.isDigit_iff_toNat.mp hDigit
  unfold isAsciiChar
  rw [decide_eq_true_eq]
  omega

/- So is a digit in hexadecimal. -/
theorem isAsciiChar_of_mem_hexDigits
    {width n : Nat}
    {c : Char}
    (hMember : c ∈ hexDigits width n) :
    isAsciiChar c := by
  rcases List.mem_map.mp hMember with ⟨place, _, rfl⟩
  have hDigits : ∀ digit < 16, isAsciiChar (hexDigit digit) := by
    decide
  exact hDigits _ (Nat.mod_lt _ (by decide))

end Text

open Text

------------------------------------------------------------
-- Numbers
------------------------------------------------------------

namespace Binary64

/- Digits with a point among them, or with an exponent. -/
theorem isAsciiChar_layout
    {digits : List Char}
    (hDigits : ∀ c ∈ digits, isAsciiChar c)
    (point : Int) :
    ∀ c ∈ layout digits point, isAsciiChar c := by
  have hZeros :
      ∀ count, ∀ c ∈ List.replicate count '0', isAsciiChar c := by
    intro count c hZero
    rw [List.eq_of_mem_replicate hZero]
    decide
  have hPlaces :
      ∀ n, ∀ c ∈ Nat.toDigits 10 n, isAsciiChar c :=
    fun n c hPlace => isAsciiChar_of_mem_toDigits hPlace
  unfold layout
  split
  · split
    · simp only [List.forall_mem_append, List.forall_mem_cons,
        List.cons_append]
      exact ⟨by decide, by decide, hZeros _, hDigits⟩
    · split
      · simp only [List.forall_mem_append, List.forall_mem_cons]
        exact
          ⟨fun c hTaken => hDigits c (List.mem_of_mem_take hTaken),
            by decide,
            fun c hLeft => hDigits c (List.mem_of_mem_drop hLeft)⟩
      · simp only [List.forall_mem_append]
        exact
          ⟨⟨hDigits, hZeros _⟩, List.all_eq_true.mp (by decide)⟩
  · dsimp only
    simp only [List.forall_mem_append, List.forall_mem_cons]
    refine ⟨?_, by decide, ?_, ?_⟩
    · split
      · exact hDigits
      · exact hDigits
      · simp only [List.forall_mem_cons] at hDigits ⊢
        exact ⟨hDigits.1, by decide, hDigits.2⟩
    · split
      · decide
      · decide
    · split
      · exact List.forall_mem_cons.mpr ⟨by decide, hPlaces _⟩
      · exact hPlaces _

/- The text of a number is plain. -/
theorem isAscii_text
    (x : Binary64) :
    IsAscii x.text := by
  cases x with
  | nan => decide
  | infinity negative => cases negative <;> decide
  | finite negative significand exponent =>
      have hSign : IsAscii (if negative then "-" else "") := by
        cases negative <;> decide
      unfold text
      dsimp only
      split
      · exact hSign.append (by decide)
      · apply hSign.append
        apply isAscii_ofList
        apply isAsciiChar_layout
        intro d hDigit
        have hKept :
            d ∈ (Nat.toDigits 10
              (shortestDigits significand exponent).1) := by
          have hReverse := List.mem_reverse.mp hDigit
          exact
            List.mem_reverse.mp
              ((List.dropWhile_suffix _).subset hReverse)
        exact isAsciiChar_of_mem_toDigits hKept

end Binary64

namespace Json

------------------------------------------------------------
-- Values
------------------------------------------------------------

/- The number of a code unit is plain. -/
theorem isAsciiChar_escapeUnit
    (unit : Nat) :
    ∀ d ∈ escapeUnit unit, isAsciiChar d := by
  unfold escapeUnit
  simp only [List.forall_mem_cons]
  exact
    ⟨by decide, by decide,
      fun d hDigit => isAsciiChar_of_mem_hexDigits hDigit⟩

/- Every character is escaped by plain ones. -/
theorem isAsciiChar_escapeChar
    (c : Char) :
    ∀ d ∈ escapeChar c, isAsciiChar d := by
  have hPair :
      ∀ second, isAsciiChar second →
        ∀ d ∈ ['\\', second], isAsciiChar d := by
    intro second hSecond
    rw [List.forall_mem_cons, List.forall_mem_singleton]
    exact ⟨by decide, hSecond⟩
  unfold escapeChar
  split
  · exact hPair '"' (by decide)
  split
  · exact hPair '\\' (by decide)
  split
  · exact hPair 'n' (by decide)
  split
  · exact hPair 'r' (by decide)
  split
  · exact hPair 't' (by decide)
  split
  · exact hPair 'f' (by decide)
  split
  · exact hPair 'b' (by decide)
  split
  · next hPlain =>
      rw [Bool.and_eq_true, decide_eq_true_eq,
        decide_eq_true_eq] at hPlain
      have hUpper : c.toNat ≤ '~'.toNat := hPlain.2
      have hTilde : '~'.toNat = 0x7E := by decide
      rw [List.forall_mem_singleton]
      unfold isAsciiChar
      rw [decide_eq_true_eq]
      omega
  split
  · exact isAsciiChar_escapeUnit _
  · exact
      List.forall_mem_append.mpr
        ⟨isAsciiChar_escapeUnit _, isAsciiChar_escapeUnit _⟩

/- A text between quotes is plain, whatever is in it. -/
theorem isAscii_escaped
    (s : String) :
    IsAscii (escaped s) := by
  apply isAscii_ofList
  rw [List.cons_append, List.forall_mem_cons,
    List.forall_mem_append, List.forall_mem_singleton]
  refine ⟨by decide, ?_, by decide⟩
  intro d hMember
  rcases List.mem_flatMap.mp hMember with ⟨c, _, hEscape⟩
  exact isAsciiChar_escapeChar c d hEscape

/- So is the text of a whole number. -/
theorem isAscii_int
    (n : Int) :
    IsAscii (toString n) := by
  have hDigits : ∀ m : Nat, IsAscii (toString m) := by
    intro m c hMember
    have hCount : (toString m).toList = Nat.toDigits 10 m :=
      Nat.toList_repr
    rw [hCount] at hMember
    exact isAsciiChar_of_mem_toDigits hMember
  cases n with
  | ofNat m => exact hDigits m
  | negSucc m =>
      have hMinus : IsAscii "-" := by
        decide
      exact hMinus.append (hDigits (m + 1))

/- So is that of any other number. -/
theorem isAscii_numberText
    (x : Binary64) :
    IsAscii (numberText x) := by
  cases x with
  | nan => decide
  | infinity negative => cases negative <;> decide
  | finite negative significand exponent =>
      exact Binary64.isAscii_text _

mutual

/- A value on one line is plain. -/
theorem isAscii_compact :
    ∀ v : Json, IsAscii (compact v)
  | .null => by decide
  | .bool true => by decide
  | .bool false => by decide
  | .int n => isAscii_int n
  | .number x => isAscii_numberText x
  | .text s => isAscii_escaped s
  | .array items => by
      have hItems := isAscii_compactItems items
      have hComma : IsAscii "," := by decide
      unfold compact
      exact
        (IsAscii.append (by decide)
          (hComma.joinWith hItems)).append
            (by decide)
  | .object fields => by
      have hFields := isAscii_compactFields fields
      have hComma : IsAscii "," := by decide
      unfold compact
      exact
        (IsAscii.append (by decide)
          (hComma.joinWith hFields)).append
            (by decide)

/- So are the items of an array. -/
theorem isAscii_compactItems :
    ∀ items : List Json, ∀ s ∈ compactItems items, IsAscii s
  | [] => by simp [compactItems]
  | item :: rest => by
      intro s hMember
      rw [compactItems] at hMember
      rcases List.mem_cons.mp hMember with rfl | hRest
      · exact isAscii_compact item
      · exact isAscii_compactItems rest s hRest

/- So are the fields of an object. -/
theorem isAscii_compactFields :
    ∀ fields : List (String × Json),
      ∀ s ∈ compactFields fields, IsAscii s
  | [] => by simp [compactFields]
  | (key, value) :: rest => by
      intro s hMember
      rw [compactFields] at hMember
      rcases List.mem_cons.mp hMember with rfl | hRest
      · exact
          ((isAscii_escaped key).append
            (by decide)).append
              (isAscii_compact value)
      · exact isAscii_compactFields rest s hRest

end

/- A line feed and blanks are plain. -/
theorem isAscii_lineBreak
    (level : Nat) :
    IsAscii (lineBreak level) := by
  apply IsAscii.append (by decide)
  apply isAscii_ofList
  intro c hMember
  rw [List.eq_of_mem_replicate hMember]
  decide

/- Plain entries can be spread over lines. -/
theorem isAscii_spread
    {opening closing : String}
    {entries : List String}
    (level : Nat)
    (hOpening : IsAscii opening)
    (hClosing : IsAscii closing)
    (hEntries : ∀ entry ∈ entries, IsAscii entry) :
    IsAscii (spread opening closing level entries) := by
  have hComma : IsAscii "," := by decide
  have hBetween :=
    hComma.append (isAscii_lineBreak (level + 1))
  unfold spread
  split
  · exact hOpening.append hClosing
  · exact
      (((hOpening.append (isAscii_lineBreak _)).append
        (hBetween.joinWith hEntries)).append
          (isAscii_lineBreak _)).append hClosing

mutual

/- A value on several lines is plain. -/
theorem isAscii_prettyAt :
    ∀ (v : Json) (level : Nat), IsAscii (prettyAt level v)
  | .array items, level => by
      unfold prettyAt
      exact
        isAscii_spread level (by decide)
          (by decide)
          (isAscii_prettyItems items (level + 1))
  | .object fields, level => by
      unfold prettyAt
      exact
        isAscii_spread level (by decide)
          (by decide)
          (isAscii_prettyFields fields (level + 1))
  | .null, level => isAscii_compact .null
  | .bool b, level => isAscii_compact (.bool b)
  | .int n, level => isAscii_compact (.int n)
  | .number x, level => isAscii_compact (.number x)
  | .text s, level => isAscii_compact (.text s)

/- So are the items of an array. -/
theorem isAscii_prettyItems :
    ∀ (items : List Json) (level : Nat),
      ∀ s ∈ prettyItems level items, IsAscii s
  | [], level => by simp [prettyItems]
  | item :: rest, level => by
      intro s hMember
      rw [prettyItems] at hMember
      rcases List.mem_cons.mp hMember with rfl | hRest
      · exact isAscii_prettyAt item level
      · exact isAscii_prettyItems rest level s hRest

/- So are the fields of an object. -/
theorem isAscii_prettyFields :
    ∀ (fields : List (String × Json)) (level : Nat),
      ∀ s ∈ prettyFields level fields, IsAscii s
  | [], level => by simp [prettyFields]
  | (key, value) :: rest, level => by
      intro s hMember
      rw [prettyFields] at hMember
      rcases List.mem_cons.mp hMember with rfl | hRest
      · exact
          ((isAscii_escaped key).append
            (by decide)).append
              (isAscii_prettyAt value level)
      · exact isAscii_prettyFields rest level s hRest

end

/- So every value is printed as a text of ASCII. -/
theorem isAscii_pretty
    (v : Json) :
    IsAscii v.pretty :=
  isAscii_prettyAt v 0

end Json

end ElementBindings
