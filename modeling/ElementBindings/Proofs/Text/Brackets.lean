import Mathlib.Data.List.Basic

/-
  Brackets of a text.

  A text is nested if its brackets, of all three kinds, come
  in pairs with nested texts inside.  Read from left to right,
  a text leaves closing brackets awaited, nearest first; the
  nested texts are those that leave none.

  Key definitions include:
    * `Text.Nested`
    * `Text.awaited`

  Key theorems include:
    * `Text.awaited_outer`
    * `Text.nested_iff`
-/

namespace ElementBindings

namespace Text

------------------------------------------------------------
-- Nested Texts
------------------------------------------------------------

/- The bracket that closes an opening one. -/
def closing? : Char → Option Char
  | '(' => some ')'
  | '[' => some ']'
  | '\x7b' => some '\x7d'
  | _ => none

/- A bracket that closes another one. -/
def isClosing
    (c : Char) : Bool :=
  c = ')' || c = ']' || c = '\x7d'

/- A bracket of one of the three kinds. -/
def isBracket
    (c : Char) : Bool :=
  (closing? c).isSome || isClosing c

/- There are six brackets. -/
theorem mem_of_isBracket
    {c : Char}
    (hBracket : isBracket c) :
    c ∈ ['(', '[', '\x7b', ')', ']', '\x7d'] := by
  unfold isBracket closing? isClosing at hBracket
  split at hBracket
  · decide
  · decide
  · decide
  · simp at hBracket
    rcases hBracket with (rfl | rfl) | rfl
    · decide
    · decide
    · decide

/-
  A text is nested: each opening bracket has its closing one,
  with nested texts between and after them.
-/
inductive Nested : List Char → Prop where
  | nil : Nested []
  | other
      {c : Char}
      {rest : List Char}
      (hOther : isBracket c = false)
      (hRest : Nested rest) :
      Nested (c :: rest)
  | pair
      {left right : Char}
      {inner rest : List Char}
      (hPair : closing? left = some right)
      (hInner : Nested inner)
      (hRest : Nested rest) :
      Nested (left :: inner ++ right :: rest)

------------------------------------------------------------
-- Awaited Brackets
------------------------------------------------------------

/- A character opens a pair, closes the nearest, or does neither. -/
def awaitNext
    (pending : List Char)
    (c : Char) : Option (List Char) :=
  match closing? c with
  | some right => some (right :: pending)
  | none =>
      if isClosing c then
        match pending with
        | [] => none
        | nearest :: outer =>
            if c = nearest then some outer else none
      else
        some pending

/-
  The closing brackets that are awaited after a text, nearest
  first, given those that are awaited before it.
-/
def awaited
    (pending : List Char)
    (s : List Char) : Option (List Char) :=
  s.foldlM awaitNext pending

/- A text in two parts is read one after the other. -/
theorem awaited_append
    (pending s t : List Char) :
    awaited pending (s ++ t) =
      (awaited pending s).bind (awaited · t) := by
  unfold awaited
  rw [List.foldlM_append]
  rfl

/- The first character is read before the others. -/
theorem awaited_cons
    (pending : List Char)
    (c : Char)
    (rest : List Char) :
    awaited pending (c :: rest) =
      (awaitNext pending c).bind (awaited · rest) := rfl

/- A character that is no bracket changes nothing. -/
theorem awaitNext_other
    {c : Char}
    (hOther : isBracket c = false)
    (pending : List Char) :
    awaitNext pending c = some pending := by
  unfold isBracket at hOther
  rw [Bool.or_eq_false_iff, Option.isSome_eq_false_iff,
    Option.isNone_iff_eq_none] at hOther
  unfold awaitNext
  rw [hOther.1, hOther.2]
  rfl

/-
  What is awaited after a character, there is one more pair
  open, or one less, or the character is no bracket.
-/
theorem awaitNext_cases
    {pending next : List Char}
    {c : Char}
    (hNext : awaitNext pending c = some next) :
    (∃ right,
      closing? c = some right ∧ next = right :: pending) ∨
      (isClosing c ∧ pending = c :: next) ∨
      (isBracket c = false ∧ next = pending) := by
  unfold awaitNext at hNext
  cases hOpen : closing? c with
  | some right =>
      rw [hOpen] at hNext
      exact .inl ⟨right, rfl, (Option.some.inj hNext).symm⟩
  | none =>
      rw [hOpen] at hNext
      by_cases hClosing : isClosing c
      · cases pending with
        | nil => simp [hClosing] at hNext
        | cons nearest outer =>
            simp only [hClosing, if_true] at hNext
            split at hNext
            · next hSame =>
                rw [← hSame, Option.some.inj hNext]
                exact .inr (.inl ⟨hClosing, rfl⟩)
            · cases hNext
      · simp only [hClosing] at hNext
        refine .inr (.inr ⟨?_, (Option.some.inj hNext).symm⟩)
        simp [isBracket, hOpen, hClosing]

/- No closing bracket opens a pair. -/
theorem closing?_of_isClosing
    {c : Char}
    (hClosing : isClosing c) :
    closing? c = none := by
  unfold isClosing at hClosing
  simp only [Bool.or_eq_true, decide_eq_true_eq] at hClosing
  rcases hClosing with (rfl | rfl) | rfl
  · rfl
  · rfl
  · rfl

/- What closes a pair is a closing bracket. -/
theorem isClosing_of_closing?
    {left right : Char}
    (hPair : closing? left = some right) :
    isClosing right := by
  unfold closing? at hPair
  split at hPair
  · cases hPair
    rfl
  · cases hPair
    rfl
  · cases hPair
    rfl
  · cases hPair

/- The nearest awaited bracket may be closed. -/
theorem awaitNext_closing
    {c : Char}
    (hClosing : isClosing c)
    (outer : List Char) :
    awaitNext (c :: outer) c = some outer := by
  unfold awaitNext
  rw [closing?_of_isClosing hClosing]
  simp [hClosing]

/- An opening bracket makes its closing one the nearest. -/
theorem awaitNext_opening
    {left right : Char}
    (hPair : closing? left = some right)
    (pending : List Char) :
    awaitNext pending left = some (right :: pending) := by
  unfold awaitNext
  rw [hPair]

/-
  What is awaited further out than a text reaches stays
  awaited.
-/
theorem awaited_outer
    {before after s : List Char}
    (hText : awaited before s = some after)
    (outer : List Char) :
    awaited (before ++ outer) s = some (after ++ outer) := by
  induction s generalizing before with
  | nil =>
      have hSame : before = after := Option.some.inj hText
      rw [hSame]
      rfl
  | cons c rest ih =>
      rw [awaited_cons, Option.bind_eq_some_iff] at hText
      rcases hText with ⟨next, hNext, hRest⟩
      have hStep :
          awaitNext (before ++ outer) c =
            some (next ++ outer) := by
        rcases awaitNext_cases hNext with
          ⟨right, hPair, rfl⟩ | ⟨hClosing, rfl⟩ |
            ⟨hOther, rfl⟩
        · exact awaitNext_opening hPair _
        · exact awaitNext_closing hClosing _
        · exact awaitNext_other hOther _
      rw [awaited_cons, hStep, Option.bind_some, ih hRest]

/- A nested text leaves awaited what was awaited before it. -/
theorem awaited_of_nested
    {s : List Char}
    (hNested : Nested s)
    (pending : List Char) :
    awaited pending s = some pending := by
  induction hNested generalizing pending with
  | nil => rfl
  | other hOther hRest ih =>
      rw [awaited_cons, awaitNext_other hOther,
        Option.bind_some, ih]
  | @pair left right inner rest hPair hInner hRest ihInner
      ihRest =>
      rw [List.cons_append, awaited_cons,
        awaitNext_opening hPair, Option.bind_some,
        awaited_append, ihInner, Option.bind_some, awaited_cons,
        awaitNext_closing (isClosing_of_closing? hPair),
        Option.bind_some, ihRest]

/-
  A text closes what is awaited: nested texts stand before and
  between the awaited brackets, and after the last of them.
-/
def Closes : List Char → List Char → Prop
  | [], s => Nested s
  | right :: outer, s =>
      ∃ inner rest,
        Nested inner ∧ Closes outer rest ∧
          s = inner ++ right :: rest

/- It still does so with an ordinary character before it. -/
theorem Closes.cons_other
    {pending s : List Char}
    {c : Char}
    (hOther : isBracket c = false)
    (hCloses : Closes pending s) :
    Closes pending (c :: s) := by
  cases pending with
  | nil => exact .other hOther hCloses
  | cons right outer =>
      rcases hCloses with ⟨inner, rest, hInner, hRest, rfl⟩
      exact ⟨c :: inner, rest, .other hOther hInner, hRest, rfl⟩

/- And if a pair is opened before it that it closes first. -/
theorem Closes.cons_opening
    {pending s : List Char}
    {left right : Char}
    (hPair : closing? left = some right)
    (hCloses : Closes (right :: pending) s) :
    Closes pending (left :: s) := by
  rcases hCloses with ⟨inner, rest, hInner, hRest, rfl⟩
  cases pending with
  | nil => exact .pair hPair hInner hRest
  | cons next outer =>
      rcases hRest with ⟨middle, last, hMiddle, hLast, rfl⟩
      refine
        ⟨left :: inner ++ right :: middle, last,
          .pair hPair hInner hMiddle, hLast, ?_⟩
      simp

/-
  A text that leaves nothing awaited closes what was awaited.
  By induction on the text; what is awaited before the rest of
  it differs by the first character.
-/
theorem closes_of_awaited
    {pending s : List Char}
    (hAwaited : awaited pending s = some []) :
    Closes pending s := by
  induction s generalizing pending with
  | nil =>
      have hNone : pending = [] := Option.some.inj hAwaited
      rw [hNone]
      exact .nil
  | cons c rest ih =>
      rw [awaited_cons, Option.bind_eq_some_iff] at hAwaited
      rcases hAwaited with ⟨next, hNext, hRest⟩
      have hCloses := ih hRest
      rcases awaitNext_cases hNext with
        ⟨right, hPair, rfl⟩ | ⟨_, rfl⟩ | ⟨hOther, rfl⟩
      · exact hCloses.cons_opening hPair
      · exact ⟨[], rest, .nil, hCloses, rfl⟩
      · exact hCloses.cons_other hOther

/- The nested texts are those that leave nothing awaited. -/
theorem nested_iff
    {s : List Char} :
    Nested s ↔ awaited [] s = some [] :=
  ⟨fun hNested => awaited_of_nested hNested [],
    closes_of_awaited⟩

instance (s : List Char) : Decidable (Nested s) :=
  decidable_of_iff (awaited [] s = some []) nested_iff.symm

/- Pairs must not overlap. -/
example : Nested "f(a[0], .\x7b \x7d)".toList := by decide

example : ¬ Nested "f(a[0)]".toList := by decide

end Text

end ElementBindings
