import Mathlib.Data.List.Basic
import ElementBindings.Json.Reader
import ElementBindings.Zig.Code

/-
  What string literals denote.

  A literal is read from its opening quote: a backslash starts
  an escape, the first quote that belongs to no escape closes
  the literal, and a line feed may not come before it.  What
  is read are octets, since an escape may stand for one that
  is no character.  Other characters than the line feed may be
  barred, too, such as control characters.

  A text that is put between quotes as it is denotes itself if
  it has no quote, no backslash and no barred character.  Any
  other text does not, whatever comes after it: where the
  literal is read at all, it is shorter than the text, or it
  has a quote too early.

  Key definitions include:
    * `Zig.octets`
    * `Zig.readEscape`, `Zig.readLiteral`
    * `Zig.IsQuotable`

  Key theorems include:
    * `Zig.readEscape_cases`
    * `Zig.readLiteral_stop`
    * `Zig.readLiteral_of_quotable`
    * `Zig.readLiteral_ne_of_not_quotable`
    * `Zig.readLiteral_ne_of_lineFeed`
-/

namespace ElementBindings

namespace Zig

------------------------------------------------------------
-- Octets
------------------------------------------------------------

/- The octets that a text is stored as. -/
def octets
    (s : List Char) : List UInt8 :=
  s.flatMap String.utf8EncodeChar

/- The octet of a double quote. -/
def quoteOctet : UInt8 := 0x22

/- Texts are stored one after the other. -/
theorem octets_append
    (s t : List Char) :
    octets (s ++ t) = octets s ++ octets t :=
  List.flatMap_append

/- A text is stored character by character. -/
theorem octets_cons
    (c : Char)
    (s : List Char) :
    octets (c :: s) = String.utf8EncodeChar c ++ octets s :=
  List.flatMap_cons

/- A text has at least as many octets as characters. -/
theorem length_le_octets
    (s : List Char) :
    s.length ≤ (octets s).length := by
  induction s with
  | nil => exact Nat.le_refl 0
  | cons c rest ih =>
      have hSome := Char.utf8Size_pos c
      rw [octets_cons, List.length_append, List.length_cons,
        String.length_utf8EncodeChar]
      omega

/- No other character has the octet of a quote. -/
theorem eq_quote_of_mem_utf8EncodeChar
    {c : Char}
    (hOctet : quoteOctet ∈ String.utf8EncodeChar c) :
    c = '"' := by
  have hNumber :=
    List.mem_map_of_mem (f := UInt8.toNat) hOctet
  have hQuote : quoteOctet.toNat = 34 := rfl
  have hValue : c.val.toNat = c.toNat := rfl
  rw [hQuote] at hNumber
  unfold String.utf8EncodeChar at hNumber
  dsimp only at hNumber
  rw [hValue] at hNumber
  -- a character has up to four octets; those of a longer one
  -- are all above the ASCII range
  have hThirtyFour : c.toNat = 34 := by
    split_ifs at hNumber
    · simp at hNumber
      omega
    · simp at hNumber
      omega
    · simp at hNumber
      omega
    · simp at hNumber
      omega
  exact Char.toNat_inj.mp hThirtyFour

/- So only a text with a quote has it. -/
theorem quote_mem_of_mem_octets
    {s : List Char}
    (hOctet : quoteOctet ∈ octets s) :
    '"' ∈ s := by
  rcases List.mem_flatMap.mp hOctet with ⟨c, hChar, hHere⟩
  rw [← eq_quote_of_mem_utf8EncodeChar hHere]
  exact hChar

------------------------------------------------------------
-- Escapes
------------------------------------------------------------

/- The escapes of one letter, with their characters. -/
def shortEscapes : List (Char × Char) :=
  [ ('n', '\n'), ('r', '\r'), ('t', '\t'), ('\\', '\\'),
    ('\'', '\''), ('"', '"') ]

/- An octet that is given by two digits. -/
def readOctet : List Char → Option (List UInt8 × List Char)
  | high :: low :: rest =>
      (Json.hexNumber? [high, low]).map fun n =>
        ([n.toUInt8], rest)
  | _ => none

/- The character with a number, if there is one. -/
def charOf?
    (n : Nat) : Option Char :=
  if (Char.ofNat n).toNat = n then
    some (Char.ofNat n)
  else
    none

/- A character that is given by its number between braces. -/
def readNumbered : List Char → Option (List UInt8 × List Char)
  | '\x7b' :: s =>
      match s.takeWhile (· ≠ '\x7d'),
        s.dropWhile (· ≠ '\x7d') with
      | d :: digits, _ :: rest =>
          ((Json.hexNumber? (d :: digits)).bind charOf?).map
            fun c => (octets [c], rest)
      | _, _ => none
  | _ => none

/-
  The octets of the escape whose backslash has been read, and
  the text behind it.
-/
def readEscape : List Char → Option (List UInt8 × List Char)
  | [] => none
  | 'x' :: rest => readOctet rest
  | 'u' :: rest => readNumbered rest
  | c :: rest =>
      (shortEscapes.lookup c).map fun image =>
        (octets [image], rest)

variable {s rest : List Char}
variable {bytes : List UInt8}

/-
  Octets were read from the front of a text: not more of them
  than it has characters there, among which there is neither a
  quote nor a line feed.
-/
def TakenFrom
    (s : List Char)
    (bytes : List UInt8)
    (rest : List Char) : Prop :=
  ∃ front,
    s = front ++ rest ∧
      bytes.length ≤ front.length ∧
      '"' ∉ front ∧
      '\n' ∉ front

/- More characters may stand in front of them. -/
theorem TakenFrom.cons
    {c : Char}
    (hTaken : TakenFrom s bytes rest)
    (hQuote : c ≠ '"')
    (hFeed : c ≠ '\n') :
    TakenFrom (c :: s) bytes rest := by
  rcases hTaken with ⟨front, hSplit, hLength, hNone, hLine⟩
  refine ⟨c :: front, by rw [hSplit, List.cons_append], ?_, ?_⟩
  · rw [List.length_cons]
    omega
  · simp [hQuote.symm, hFeed.symm, hNone, hLine]

/- All characters of a number are digits. -/
theorem isSome_hexValue?_of_hexNumber?
    {digits : List Char}
    {n : Nat}
    (hNumber : Json.hexNumber? digits = some n) :
    ∀ d ∈ digits, (Json.hexValue? d).isSome := by
  unfold Json.hexNumber? at hNumber
  generalize 0 = first at hNumber
  induction digits generalizing first with
  | nil => simp
  | cons d rest ih =>
      rw [List.foldlM_cons] at hNumber
      rcases Option.bind_eq_some_iff.mp hNumber with
        ⟨next, hNext, hRest⟩
      rcases Option.map_eq_some_iff.mp hNext with
        ⟨value, hValue, _⟩
      rw [List.forall_mem_cons]
      exact ⟨by rw [hValue]; rfl, ih next hRest⟩

/- So there is neither a quote nor a line feed among them. -/
theorem not_mem_of_hexNumber?
    {digits : List Char}
    {n : Nat}
    (hNumber : Json.hexNumber? digits = some n) :
    '"' ∉ digits ∧ '\n' ∉ digits := by
  have hDigits := isSome_hexValue?_of_hexNumber? hNumber
  constructor
  · intro hQuote
    exact absurd (hDigits _ hQuote) (by decide)
  · intro hFeed
    exact absurd (hDigits _ hFeed) (by decide)

/- An octet is taken from its two digits. -/
theorem takenFrom_of_readOctet
    (hRead : readOctet s = some (bytes, rest)) :
    TakenFrom s bytes rest := by
  unfold readOctet at hRead
  split at hRead
  · next high low more =>
      rcases Option.map_eq_some_iff.mp hRead with
        ⟨n, hNumber, hPair⟩
      cases hPair
      exact
        ⟨[high, low], rfl, by simp,
          not_mem_of_hexNumber? hNumber⟩
  · cases hRead

/- A character has four octets at most. -/
theorem length_octets_singleton
    (c : Char) :
    (octets [c]).length ≤ 4 := by
  have hFour := Char.utf8Size_le_four c
  rw [octets_cons, List.length_append,
    String.length_utf8EncodeChar]
  exact hFour

/-
  A character is taken from its number, the braces around it
  and the letter in front of them.
-/
theorem takenFrom_of_readNumbered
    (hRead : readNumbered s = some (bytes, rest)) :
    TakenFrom ('u' :: s) bytes rest := by
  unfold readNumbered at hRead
  split at hRead
  · next inner =>
      split at hRead
      · next d digits closing _ hDigits hRest =>
          rcases Option.map_eq_some_iff.mp hRead with
            ⟨c, hChar, hPair⟩
          cases hPair
          rcases Option.bind_eq_some_iff.mp hChar with
            ⟨n, hNumber, _⟩
          have hInner :
              inner = d :: digits ++ closing :: rest := by
            rw [← hDigits, ← hRest,
              List.takeWhile_append_dropWhile]
          have hBrace : closing = '\x7d' := by
            have hStop := List.head?_dropWhile_not
              (· ≠ '\x7d') inner
            rw [hRest] at hStop
            simpa using hStop
          have hNone := not_mem_of_hexNumber? hNumber
          have hFour := length_octets_singleton c
          refine
            ⟨'u' :: '\x7b' :: (d :: digits ++ [closing]), ?_, ?_,
              ?_⟩
          · rw [hInner]
            simp
          · simp only [List.length_cons, List.length_append,
              List.length_nil]
            omega
          · simp only [List.mem_cons, not_or] at hNone
            rw [hBrace]
            simp [hNone]
      · cases hRead
  · cases hRead

/- A character is taken from its letter, if this is no quote. -/
theorem takenFrom_of_shortEscapes
    {c image : Char}
    (hShort : shortEscapes.lookup c = some image)
    (hQuote : c ≠ '"') :
    TakenFrom (c :: rest) (octets [image]) rest := by
  have hAll :
      shortEscapes.all fun short =>
        short.1 != '\n' && (octets [short.2]).length == 1 := by
    decide
  rcases List.lookup_eq_some_iff.mp hShort with
    ⟨before, after, hSplit, _⟩
  have hListed : (c, image) ∈ shortEscapes := by
    rw [hSplit]
    simp
  have hHere := List.all_eq_true.mp hAll _ hListed
  simp only [Bool.and_eq_true, bne_iff_ne, beq_iff_eq]
    at hHere
  refine ⟨[c], rfl, ?_, ?_⟩
  · rw [hHere.2]
    exact Nat.le_refl 1
  · simp [hQuote.symm, hHere.1.symm]

/-
  An escape is that of a quote, or it is taken from a text in
  which there is no quote.
-/
theorem readEscape_cases
    (hRead : readEscape s = some (bytes, rest)) :
    (s = '"' :: rest ∧ bytes = [quoteOctet]) ∨
      TakenFrom s bytes rest := by
  unfold readEscape at hRead
  split at hRead
  · cases hRead
  · next more =>
      exact
        .inr
          ((takenFrom_of_readOctet hRead).cons (by decide)
            (by decide))
  · next more => exact .inr (takenFrom_of_readNumbered hRead)
  · next c more _ _ =>
      rcases Option.map_eq_some_iff.mp hRead with
        ⟨image, hImage, hPair⟩
      cases hPair
      by_cases hQuote : c = '"'
      · left
        subst hQuote
        have hSame : '"' = image := Option.some.inj hImage
        exact ⟨rfl, by rw [← hSame]; rfl⟩
      · exact .inr (takenFrom_of_shortEscapes hImage hQuote)

/- A character by its number has the octets of this character. -/
example :
    readEscape "u\x7be9\x7d!".toList =
      some ([0xC3, 0xA9], ['!']) := by
  decide

/- What follows an escape is no longer than the whole. -/
theorem length_le_of_readEscape
    (hRead : readEscape s = some (bytes, rest)) :
    rest.length ≤ s.length := by
  rcases readEscape_cases hRead with
    ⟨hSplit, _⟩ | ⟨front, hSplit, _⟩
  · rw [hSplit, List.length_cons]
    omega
  · rw [hSplit, List.length_append]
    omega

------------------------------------------------------------
-- Literals
------------------------------------------------------------

/-
  The octets of the literal whose opening quote has been read,
  and the text behind its closing quote.
-/
def readLiteral
    (isBarred : Char → Bool) :
    List Char →
    Option (List UInt8 × List Char)
  | [] => none
  | '"' :: rest => some ([], rest)
  | '\\' :: s =>
      match _ : readEscape s with
      | none => none
      | some (bytes, rest) =>
          (readLiteral isBarred rest).map
            fun (more, after) => (bytes ++ more, after)
  | c :: s =>
      if c = '\n' || isBarred c then
        none
      else
        (readLiteral isBarred s).map
          fun (more, after) =>
            (String.utf8EncodeChar c ++ more, after)
termination_by s => s.length
decreasing_by
  · have hShorter :=
      length_le_of_readEscape
        ‹readEscape s = some (bytes, rest)›
    rw [List.length_cons]
    omega
  · rw [List.length_cons]
    omega

/-
  A text that can stand between quotes as it is: there is
  nothing in it that would close the literal, start an escape
  or be refused.
-/
def IsQuotable
    (isBarred : Char → Bool)
    (s : List Char) : Prop :=
  ∀ c ∈ s,
    c ≠ '"' ∧ c ≠ '\\' ∧ c ≠ '\n' ∧ isBarred c = false

instance
    (isBarred : Char → Bool)
    (s : List Char) :
    Decidable (IsQuotable isBarred s) :=
  decidable_of_iff
    (s.all fun c =>
      c ≠ '"' && c ≠ '\\' && c ≠ '\n' && !isBarred c)
    (by simp [IsQuotable, and_assoc])

variable {isBarred : Char → Bool}
variable {p t after : List Char}
variable {c : Char}

/- Any other character than these stands for itself. -/
theorem readLiteral_cons
    (hQuote : c ≠ '"')
    (hEscape : c ≠ '\\')
    (s : List Char) :
    readLiteral isBarred (c :: s) =
      if c = '\n' || isBarred c then
        none
      else
        (readLiteral isBarred s).map
          fun (more, after) =>
            (String.utf8EncodeChar c ++ more, after) := by
  rw [readLiteral]
  · exact hQuote
  · exact hEscape

/- A literal that goes on with such a character. -/
theorem readLiteral_cons_cases
    (hQuote : c ≠ '"')
    (hEscape : c ≠ '\\')
    (hRead : readLiteral isBarred (c :: s) = some (bytes, after)) :
    c ≠ '\n' ∧ isBarred c = false ∧
      ∃ more,
        readLiteral isBarred s = some (more, after) ∧
          bytes = String.utf8EncodeChar c ++ more := by
  rw [readLiteral_cons hQuote hEscape] at hRead
  split at hRead
  · cases hRead
  · next hFree =>
      simp only [Bool.or_eq_true, decide_eq_true_eq, not_or,
        Bool.not_eq_true] at hFree
      rcases Option.map_eq_some_iff.mp hRead with
        ⟨⟨more, rest⟩, hMore, hPair⟩
      cases hPair
      exact ⟨hFree.1, hFree.2, more, hMore, rfl⟩

/- A literal that goes on with an escape. -/
theorem readLiteral_escape_cases
    (hRead :
      readLiteral isBarred ('\\' :: s) = some (bytes, after)) :
    ∃ escaped rest more,
      readEscape s = some (escaped, rest) ∧
        readLiteral isBarred rest = some (more, after) ∧
        bytes = escaped ++ more := by
  rw [readLiteral] at hRead
  split at hRead
  · cases hRead
  · next escaped rest hEscape =>
      rcases Option.map_eq_some_iff.mp hRead with
        ⟨⟨more, last⟩, hMore, hPair⟩
      cases hPair
      exact ⟨escaped, rest, more, hEscape, hMore, rfl⟩

/-
  What is in front of a character and does not hold it ends
  before it.
-/
theorem exists_between
    {front : List Char}
    (hSplit : p ++ c :: t = front ++ rest)
    (hNone : c ∉ front) :
    ∃ between,
      p = front ++ between ∧ rest = between ++ c :: t := by
  rcases List.append_eq_append_iff.mp hSplit with
    ⟨more, hFront, hRest⟩ | ⟨between, hFront, hRest⟩
  · cases more with
    | nil => exact ⟨[], by simpa using hFront.symm, hRest.symm⟩
    | cons d more =>
        have hHere : c = d := (List.cons.inj hRest).1
        rw [hFront, hHere] at hNone
        simp at hNone
  · exact ⟨between, hFront, hRest⟩

/-
  An escape in front of a quote or a line feed is that of the
  quote, or it ends before.
-/
theorem readEscape_stop
    {stop : Char}
    (hNone : '"' ∉ p)
    (hStop : stop = '"' ∨ stop = '\n')
    (hRead : readEscape (p ++ stop :: t) = some (bytes, rest)) :
    (stop = '"' ∧ bytes = [quoteOctet]) ∨
      ∃ front between,
        p = front ++ between ∧
          rest = between ++ stop :: t ∧
          bytes.length ≤ front.length := by
  rcases readEscape_cases hRead with
    ⟨hFirst, hBytes⟩ | ⟨front, hSplit, hFewer, hFree, hLine⟩
  · left
    cases p with
    | nil => exact ⟨(List.cons.inj hFirst).1, hBytes⟩
    | cons d inner =>
        have hHere : d = '"' := (List.cons.inj hFirst).1
        rw [hHere] at hNone
        simp at hNone
  · right
    have hOutside : stop ∉ front := by
      rcases hStop with rfl | rfl
      · exact hFree
      · exact hLine
    rcases exists_between hSplit hOutside with
      ⟨between, hHere, hRest⟩
    exact ⟨front, between, hHere, hRest, hFewer⟩

/-
  Octets fall short of a count: there are fewer of them, or
  one of the first is that of a quote.
-/
def FallsShort
    (bytes : List UInt8)
    (count : Nat) : Prop :=
  bytes.length < count ∨ quoteOctet ∈ bytes.take count

/- A quote at the front is enough. -/
theorem fallsShort_quote
    (more : List UInt8)
    {count : Nat}
    (hSome : 0 < count) :
    FallsShort (quoteOctet :: more) count := by
  right
  cases count with
  | zero => cases hSome
  | succ count =>
      rw [List.take_succ_cons]
      exact List.mem_cons_self

/- Octets fall short behind others that are few enough. -/
theorem FallsShort.append
    {more : List UInt8}
    {count bound : Nat}
    (hShort : FallsShort more count)
    (hBound : bytes.length + count ≤ bound) :
    FallsShort (bytes ++ more) bound := by
  rcases hShort with hFewer | hQuote
  · left
    rw [List.length_append]
    omega
  · right
    rw [List.take_append, List.mem_append]
    have hEarlier : count ≤ bound - bytes.length := by omega
    exact
      .inr
        ((List.take_prefix_take_left hEarlier).subset hQuote)

/- The octets of a text without quotes do not fall short. -/
theorem not_fallsShort_octets
    (hNone : '"' ∉ p)
    (more : List UInt8) :
    ¬ FallsShort (octets p ++ more) (octets p).length := by
  rintro (hFewer | hQuote)
  · rw [List.length_append] at hFewer
    omega
  · rw [List.take_left' rfl] at hQuote
    exact hNone (quote_mem_of_mem_octets hQuote)

/-
  A text without quotes is read, up to a quote or a line feed.
  It is the quote, and the literal is this text or falls short
  of it.  By induction on the length of the text, since an
  escape may take several characters.
-/
theorem readLiteral_stop
    {stop : Char}
    (hNone : '"' ∉ p)
    (hStop : stop = '"' ∨ stop = '\n')
    (hRead :
      readLiteral isBarred (p ++ stop :: t)
        = some (bytes, after)) :
    stop = '"' ∧
      ((IsQuotable isBarred p ∧ bytes = octets p ∧ after = t) ∨
        FallsShort bytes (octets p).length) := by
  induction hLength : p.length using Nat.strongRecOn
    generalizing p bytes with
  | ind length ih =>
    cases p with
    | nil =>
        rcases hStop with rfl | rfl
        · rw [List.nil_append, readLiteral] at hRead
          cases hRead
          exact ⟨rfl, .inl ⟨by simp [IsQuotable], rfl, rfl⟩⟩
        · rcases readLiteral_cons_cases (by decide) (by decide)
              hRead with
            ⟨hFeed, _⟩
          exact absurd rfl hFeed
    | cons c inner =>
        have hQuote : c ≠ '"' := by
          rintro rfl
          simp at hNone
        have hInner : '"' ∉ inner := fun hMember =>
          hNone (List.mem_cons_of_mem c hMember)
        have hSize := Char.utf8Size_pos c
        have hCount := congrArg List.length (octets_cons c inner)
        rw [List.length_append, String.length_utf8EncodeChar]
          at hCount
        rw [List.length_cons] at hLength
        by_cases hEscape : c = '\\'
        · subst hEscape
          rcases readLiteral_escape_cases hRead with
            ⟨escaped, rest, more, hEscaped, hMore, rfl⟩
          rcases readEscape_stop hInner hStop hEscaped with
            ⟨hSame, rfl⟩ | ⟨front, between, rfl, rfl, hFewer⟩
          · exact
              ⟨hSame, .inr (fallsShort_quote more (by omega))⟩
          · have hFront := length_le_octets front
            rw [octets_append, List.length_append] at hCount
            rw [List.length_append] at hLength
            have hBetween : '"' ∉ between := fun hMember =>
              hInner (List.mem_append_right front hMember)
            rcases ih between.length (by omega) hBetween hMore
                rfl with
              ⟨hSame, ⟨_, rfl, _⟩ | hShort⟩
            · refine ⟨hSame, .inr (.inl ?_)⟩
              rw [List.length_append]
              omega
            · exact ⟨hSame, .inr (hShort.append (by omega))⟩
        · rcases readLiteral_cons_cases hQuote hEscape hRead with
            ⟨hFeed, hFree, more, hMore, rfl⟩
          rcases ih inner.length (by omega) hInner hMore rfl with
            ⟨hSame, ⟨hQuotable, rfl, hAfter⟩ | hShort⟩
          · refine ⟨hSame, .inl ⟨?_, rfl, hAfter⟩⟩
            exact
              List.forall_mem_cons.mpr
                ⟨⟨hQuote, hEscape, hFeed, hFree⟩, hQuotable⟩
          · refine ⟨hSame, .inr (hShort.append ?_)⟩
            rw [String.length_utf8EncodeChar]
            omega

------------------------------------------------------------
-- Texts Between Quotes
------------------------------------------------------------

/- A text that can be quoted is read back as it is. -/
theorem readLiteral_of_quotable
    (hQuotable : IsQuotable isBarred s)
    (t : List Char) :
    readLiteral isBarred (s ++ '"' :: t) =
      some (octets s, t) := by
  induction s with
  | nil =>
      rw [List.nil_append, readLiteral]
      rfl
  | cons c rest ih =>
      rcases List.forall_mem_cons.mp hQuotable with
        ⟨⟨hQuote, hEscape, hFeed, hFree⟩, hRest⟩
      rw [List.cons_append, readLiteral_cons hQuote hEscape,
        if_neg (by simp [hFeed, hFree]), ih hRest]
      rfl

/-
  A text with a quote is not read back, whatever the text in
  front of its first quote is followed by.
-/
theorem readLiteral_ne_of_quote
    (hNone : '"' ∉ p)
    (inner : List Char) :
    readLiteral isBarred (p ++ '"' :: t)
      ≠ some (octets (p ++ '"' :: inner), after) := by
  intro hRead
  rw [octets_append] at hRead
  rcases (readLiteral_stop hNone (.inl rfl) hRead).2 with
    ⟨_, hSame, _⟩ | hShort
  · have hMore := congrArg List.length hSame
    have hQuote := length_le_octets ('"' :: inner)
    rw [List.length_append] at hMore
    rw [List.length_cons] at hQuote
    omega
  · exact not_fallsShort_octets hNone _ hShort

/- Nor is a text that a line feed breaks off. -/
theorem readLiteral_ne_of_lineFeed
    {c : Char}
    (inner : List Char) :
    readLiteral isBarred (p ++ '\n' :: t)
      ≠ some (octets (p ++ c :: inner), after) := by
  by_cases hQuote : '"' ∈ p
  · rcases List.eq_append_cons_of_mem hQuote with
      ⟨front, back, rfl, hNone⟩
    rw [List.append_assoc, List.append_assoc]
    exact readLiteral_ne_of_quote hNone _
  · intro hRead
    have hStop := readLiteral_stop hQuote (.inr rfl) hRead
    exact absurd hStop.1 (by decide)

/- A text that cannot be quoted as it is is not read back. -/
theorem readLiteral_ne_of_not_quotable
    (hNot : ¬ IsQuotable isBarred s) :
    readLiteral isBarred (s ++ '"' :: t)
      ≠ some (octets s, after) := by
  by_cases hQuote : '"' ∈ s
  · rcases List.eq_append_cons_of_mem hQuote with
      ⟨front, back, rfl, hNone⟩
    rw [List.append_assoc]
    exact readLiteral_ne_of_quote hNone back
  · intro hRead
    rcases (readLiteral_stop hQuote (.inl rfl) hRead).2 with
      ⟨hQuotable, _⟩ | hShort
    · exact hNot hQuotable
    · have hNever := not_fallsShort_octets hQuote []
      rw [List.append_nil] at hNever
      exact hNever hShort

end Zig

end ElementBindings
