import Mathlib.Data.List.TakeWhile
import ElementBindings.Console.Markup
import ElementBindings.Proofs.Console.Codes

/-
  Escaped texts hold no tags.

  Escaping guards every tag of a text by an odd number of
  backslashes, so that reading it again prints the tag.  What
  follows an escaped text may not complete a tag that the text
  has only begun.  A backslash before a bracket that opens no
  tag is lost, and a single one at the end is doubled.  What is
  left is shown run by run, since no code goes on behind a tag;
  a text without backslashes and known codes is shown as it is.

  Key definitions include:
    * `Markup.escapedChars`, `Markup.Follows`
    * `Markup.runs`, `Markup.shown`

  Key theorems include:
    * `Markup.pieces_induction`
    * `Markup.pieces_escapedChars_append`
    * `Markup.chunksFrom_escape_append`
    * `Markup.shown_of_spares`
-/

namespace ElementBindings

namespace Markup

------------------------------------------------------------
-- Tags
------------------------------------------------------------

/- A character that opens or closes tags. -/
def isBracket
    (c : Char) : Bool :=
  c = ']' || c = '['

/- The body of a tag: a start, and no brackets behind it. -/
structure IsBody
    (body : List Char) : Prop where
  start : ∃ c rest, body = c :: rest ∧ startsTag c
  plain : ∀ c ∈ body, isBracket c = false

/- No tag starts with a bracket. -/
theorem isBracket_of_startsTag
    {c : Char}
    (hStart : startsTag c) :
    isBracket c = false := by
  unfold isBracket
  by_cases hClose : c = ']'
  · rw [hClose] at hStart
    exact absurd hStart (by decide)
  · by_cases hOpen : c = '['
    · rw [hOpen] at hStart
      exact absurd hStart (by decide)
    · simp [hClose, hOpen]

/- A tag is its body in brackets. -/
theorem tag?_bracketed
    {body : List Char}
    (hBody : IsBody body)
    (after : List Char) :
    tag? (bracketed body ++ after) = some (body, after) := by
  rcases hBody.start with ⟨c, rest, rfl, hStart⟩
  have hPlain :
      ∀ x ∈ rest, (x ≠ ']' && x ≠ '[') = true := by
    intro x hMember
    have hOther :=
      hBody.plain x (List.mem_cons_of_mem c hMember)
    simpa [isBracket] using hOther
  have hTake :
      (rest ++ ']' :: after).takeWhile
        (fun c => c ≠ ']' && c ≠ '[') = rest := by
    rw [List.takeWhile_append_of_pos hPlain]
    simp
  simp only [bracketed, List.cons_append, List.append_assoc,
    List.nil_append, tag?, hStart, if_true, hTake,
    List.drop_left]

/- Nothing else is a tag. -/
theorem eq_bracketed_of_tag?
    {s body after : List Char}
    (hTag : tag? s = some (body, after)) :
    IsBody body ∧ s = bracketed body ++ after := by
  unfold tag? at hTag
  split at hTag
  · next c rest =>
      by_cases hStart : startsTag c
      · rw [if_pos hStart] at hTag
        dsimp only at hTag
        have hSplit :=
          List.prefix_iff_eq_append.mp
            (List.takeWhile_prefix
              (fun c => c ≠ ']' && c ≠ '[') (l := rest))
        split at hTag
        · next later hDrop =>
            simp only [Option.some.injEq, Prod.mk.injEq]
              at hTag
            rcases hTag with ⟨rfl, rfl⟩
            rw [hDrop] at hSplit
            refine ⟨⟨⟨c, _, rfl, hStart⟩, ?_⟩, ?_⟩
            · intro x hMember
              rcases List.mem_cons.mp hMember with
                rfl | hRest
              · exact isBracket_of_startsTag hStart
              · have hOther := List.mem_takeWhile_imp hRest
                simpa [isBracket] using hOther
            · simpa [bracketed] using hSplit.symm
        · simp at hTag
      · simp [hStart] at hTag
  · simp at hTag

------------------------------------------------------------
-- Pieces
------------------------------------------------------------

/- What stands behind the backslashes at the start of a text. -/
def behindSlashes
    (s : List Char) : List Char :=
  s.dropWhile (· = '\\')

/- The number of backslashes at the start of a text. -/
def slashCount
    (s : List Char) : Nat :=
  (s.takeWhile (· = '\\')).length

/- A text is its backslashes and what stands behind them. -/
theorem slashes_append
    (s : List Char) :
    List.replicate (slashCount s) '\\' ++ behindSlashes s =
      s := by
  have hSlashes :
      s.takeWhile (· = '\\') =
        List.replicate (slashCount s) '\\' := by
    rw [List.eq_replicate_iff]
    refine ⟨rfl, ?_⟩
    intro c hMember
    simpa using List.mem_takeWhile_imp hMember
  rw [← hSlashes]
  exact List.takeWhile_append_dropWhile

/- The first pieces of a text that starts with a character. -/
theorem firstPieces_cons
    (count : Nat)
    (c : Char)
    (rest : List Char) :
    firstPieces (count + 1) (c :: rest) =
      match tag? (behindSlashes (c :: rest)) with
      | some (body, after) =>
          .tag (slashCount (c :: rest)) body ::
            firstPieces count after
      | none => .plain c :: firstPieces count rest := by
  have hDrop :
      (c :: rest).drop (slashCount (c :: rest)) =
        behindSlashes (c :: rest) := by
    have hAppend := slashes_append (c :: rest)
    have hLeft :=
      congrArg (List.drop (slashCount (c :: rest))) hAppend
    rw [← hLeft, List.drop_left' (by simp)]
  rw [firstPieces]
  simp only [← hDrop]
  rfl

/- A tag is longer than what stands behind it. -/
theorem length_lt_of_tag?
    {s body after : List Char}
    (hTag : tag? (behindSlashes s) = some (body, after)) :
    after.length < s.length := by
  have hSplit := (eq_bracketed_of_tag? hTag).2
  have hWhole := congrArg List.length (slashes_append s)
  rw [hSplit] at hWhole
  simp [bracketed] at hWhole
  omega

/- Pieces beyond the length of a text are not missed. -/
theorem firstPieces_succ
    {count : Nat}
    {s : List Char}
    (hEnough : s.length ≤ count) :
    firstPieces (count + 1) s = firstPieces count s := by
  induction count generalizing s with
  | zero =>
      have hEmpty : s = [] := by
        simpa using hEnough
      rw [hEmpty]
      rfl
  | succ count ih =>
      cases s with
      | nil => rfl
      | cons c rest =>
          rw [firstPieces_cons, firstPieces_cons]
          cases hTag : tag? (behindSlashes (c :: rest)) with
          | none =>
              have hRest : rest.length ≤ count := by
                simpa using hEnough
              simp only [ih hRest]
          | some found =>
              rcases found with ⟨body, after⟩
              have hAfter := length_lt_of_tag? hTag
              have hEnough : after.length ≤ count := by
                omega
              simp only [ih hEnough]

/- Any number that is large enough gives all pieces. -/
theorem firstPieces_eq
    {count : Nat}
    {s : List Char}
    (hEnough : s.length ≤ count) :
    firstPieces count s = pieces s := by
  induction count, hEnough using Nat.le_induction with
  | base => rfl
  | succ count hEnough ih =>
      rw [firstPieces_succ hEnough]
      exact ih

/- A text that starts with a tag has it as its first piece. -/
theorem pieces_of_tag
    {s body after : List Char}
    (hTag : tag? (behindSlashes s) = some (body, after)) :
    pieces s = .tag (slashCount s) body :: pieces after := by
  cases s with
  | nil => simp [behindSlashes, tag?] at hTag
  | cons c rest =>
      have hAfter := length_lt_of_tag? hTag
      rw [List.length_cons] at hAfter
      unfold pieces
      rw [List.length_cons, firstPieces_cons, hTag]
      simp only
      rw [firstPieces_eq (by omega)]
      rfl

/- Any other text starts with a plain character. -/
theorem pieces_of_plain
    {c : Char}
    {rest : List Char}
    (hPlain : tag? (behindSlashes (c :: rest)) = none) :
    pieces (c :: rest) = .plain c :: pieces rest := by
  unfold pieces
  rw [List.length_cons, firstPieces_cons, hPlain]

/-
  What holds of the empty text, and with what stands behind
  the first piece also of the whole text, holds of all texts.
-/
@[elab_as_elim]
theorem pieces_induction
    {motive : List Char → Prop}
    (nil : motive [])
    (plain :
      ∀ c rest,
        tag? (behindSlashes (c :: rest)) = none →
          motive rest → motive (c :: rest))
    (tag :
      ∀ s body after,
        tag? (behindSlashes s) = some (body, after) →
          motive after → motive s)
    (s : List Char) :
    motive s := by
  induction hLength : s.length using Nat.strong_induction_on
    generalizing s with
  | h size ih =>
      cases s with
      | nil => exact nil
      | cons c rest =>
          cases hTag : tag? (behindSlashes (c :: rest)) with
          | none =>
              have hShorter : rest.length < size := by
                rw [← hLength, List.length_cons]
                omega
              exact plain c rest hTag (ih _ hShorter rest rfl)
          | some found =>
              rcases found with ⟨body, after⟩
              have hShorter : after.length < size := by
                rw [← hLength]
                exact length_lt_of_tag? hTag
              exact
                tag (c :: rest) body after hTag
                  (ih _ hShorter after rfl)

------------------------------------------------------------
-- Escaped Texts
------------------------------------------------------------

/- A text with every tag escaped. -/
def escapedChars
    (s : List Char) : List Char :=
  (pieces s).flatMap Piece.escaped

/- The backslash that doubles a single one at the end. -/
def lastSlash
    (s : List Char) : List Char :=
  if ((escapedChars s).reverse.takeWhile (· = '\\')).length
      = 1 then
    ['\\']
  else
    []

/- Escaping escapes tags, and doubles a last backslash. -/
theorem toList_escape
    (s : String) :
    (escape s).toList =
      escapedChars s.toList ++ lastSlash s.toList := by
  unfold escape lastSlash
  simp only [String.toList_ofList]
  unfold escapedChars
  split
  · rfl
  · simp

/-
  A text that may follow an escaped one: it opens no tag at
  its start, and closes none before it opens one.
-/
structure Follows
    (rest : List Char) : Prop where
  opening : tag? (behindSlashes rest) = none
  closing : rest.find? isBracket ≠ some ']'

/- Nothing may follow an escaped text. -/
theorem Follows.nil :
    Follows [] :=
  ⟨rfl, by simp⟩

/- A last backslash may come in between. -/
theorem Follows.lastSlash
    {rest : List Char}
    (hRest : Follows rest)
    (s : List Char) :
    Follows (Markup.lastSlash s ++ rest) := by
  unfold Markup.lastSlash
  split
  · constructor
    · exact hRest.opening
    · exact hRest.closing
  · exact hRest

/- An escaped text that starts with a plain character. -/
theorem escapedChars_of_plain
    {c : Char}
    {rest : List Char}
    (hPlain : tag? (behindSlashes (c :: rest)) = none) :
    escapedChars (c :: rest) = c :: escapedChars rest := by
  unfold escapedChars
  rw [pieces_of_plain hPlain]
  rfl

/- An escaped text that starts with a tag. -/
theorem escapedChars_of_tag
    {s body after : List Char}
    (hTag : tag? (behindSlashes s) = some (body, after)) :
    escapedChars s =
      List.replicate (2 * slashCount s + 1) '\\'
        ++ bracketed body ++ escapedChars after := by
  unfold escapedChars
  rw [pieces_of_tag hTag]
  rfl

/- Backslashes hold no bracket. -/
theorem find?_slashes_append
    (count : Nat)
    (s : List Char) :
    (List.replicate count '\\' ++ s).find? isBracket =
      s.find? isBracket := by
  induction count with
  | zero => rfl
  | succ count ih =>
      rw [List.replicate_succ, List.cons_append,
        List.find?_cons_of_neg (by decide)]
      exact ih

/-
  What closes a tag in an escaped text closed it before: an
  escaped tag has its opening bracket first.
-/
theorem closing_of_escapedChars
    {body s rest after : List Char}
    (hRest : Follows rest)
    (hBody : ∀ c ∈ body, isBracket c = false)
    (hText :
      escapedChars s ++ rest = body ++ ']' :: after) :
    ∃ later, s = body ++ ']' :: later := by
  have hFind :
      (body ++ ']' :: after).find? isBracket = some ']' := by
    rw [List.find?_append, List.find?_eq_none.mpr]
    · rfl
    · intro c hMember
      simp [hBody c hMember]
  induction s generalizing body with
  | nil =>
      have hNothing : escapedChars [] = [] := rfl
      rw [hNothing, List.nil_append] at hText
      rw [← hText] at hFind
      exact absurd hFind hRest.closing
  | cons d s ih =>
      cases hTag : tag? (behindSlashes (d :: s)) with
      | some found =>
          rcases found with ⟨inner, later⟩
          rw [escapedChars_of_tag hTag] at hText
          rw [← hText, List.append_assoc, List.append_assoc,
            find?_slashes_append] at hFind
          simp [bracketed, isBracket] at hFind
      | none =>
          rw [escapedChars_of_plain hTag, List.cons_append]
            at hText
          cases body with
          | nil =>
              have hFirst : d = ']' := (List.cons.inj hText).1
              exact ⟨s, by rw [hFirst]; rfl⟩
          | cons c body =>
              rcases List.cons.inj hText with ⟨hHead, hTail⟩
              rcases ih
                  (fun x hMember =>
                    hBody x (List.mem_cons_of_mem c hMember))
                  hTail
                  (by
                    rw [List.cons_append,
                      List.find?_cons_of_neg] at hFind
                    · exact hFind
                    · simp [hBody c List.mem_cons_self])
                with ⟨later, hLater⟩
              exact ⟨later, by rw [hHead, hLater]; rfl⟩

/- A text whose start is plain still is so when escaped. -/
theorem tag?_escapedChars_append
    {s rest : List Char}
    (hRest : Follows rest)
    (hPlain : tag? (behindSlashes s) = none) :
    tag? (behindSlashes (escapedChars s ++ rest)) = none := by
  induction s with
  | nil => exact hRest.opening
  | cons c s ih =>
      rw [escapedChars_of_plain hPlain, List.cons_append]
      by_cases hSlash : c = '\\'
      · rw [hSlash] at hPlain ⊢
        exact ih hPlain
      · have hHere :
            ∀ t, behindSlashes (c :: t) = c :: t := by
          intro t
          simp [behindSlashes, hSlash]
        rw [hHere] at hPlain ⊢
        cases hTag : tag? (c :: (escapedChars s ++ rest)) with
        | none => rfl
        | some found =>
            rcases found with ⟨body, after⟩
            rcases eq_bracketed_of_tag? hTag with
              ⟨hBody, hText⟩
            have hInner :
                c = '[' ∧
                  escapedChars s ++ rest =
                    body ++ ']' :: after := by
              simpa [bracketed] using hText
            rcases closing_of_escapedChars hRest hBody.plain
                hInner.2 with ⟨later, hLater⟩
            have hOld : c :: s = bracketed body ++ later := by
              rw [hInner.1, hLater]
              simp [bracketed]
            rw [hOld, tag?_bracketed hBody] at hPlain
            simp at hPlain

/- Backslashes before a tag are counted. -/
theorem slashes_before_tag
    (count : Nat)
    (body after : List Char) :
    slashCount
        (List.replicate count '\\' ++
          (bracketed body ++ after)) = count ∧
      behindSlashes
        (List.replicate count '\\' ++
          (bracketed body ++ after)) =
        bracketed body ++ after := by
  have hSlashes :
      ∀ c ∈ List.replicate count '\\',
        (decide (c = '\\')) = true := by
    intro c hMember
    simpa using List.eq_of_mem_replicate hMember
  constructor
  · unfold slashCount
    rw [List.takeWhile_append_of_pos hSlashes]
    simp [bracketed]
  · unfold behindSlashes
    rw [List.dropWhile_append_of_pos hSlashes]
    simp [bracketed]

/- A piece as it is read from an escaped text. -/
def Piece.guarded : Piece → Piece
  | .plain c => .plain c
  | .tag slashes body => .tag (2 * slashes + 1) body

/-
  Reading an escaped text gives the pieces of the text, with
  their tags guarded, and then those of what follows.
-/
theorem pieces_escapedChars_append
    {s rest : List Char}
    (hRest : Follows rest) :
    pieces (escapedChars s ++ rest) =
      (pieces s).map Piece.guarded ++ pieces rest := by
  induction s using pieces_induction with
  | nil => rfl
  | plain c s hPlain ih =>
      have hStill := tag?_escapedChars_append hRest hPlain
      rw [pieces_of_plain hPlain]
      rw [escapedChars_of_plain hPlain, List.cons_append]
        at hStill ⊢
      rw [pieces_of_plain hStill, ih]
      rfl
  | tag s body after hTag ih =>
      have hBody := (eq_bracketed_of_tag? hTag).1
      rcases slashes_before_tag (2 * slashCount s + 1) body
          (escapedChars after ++ rest) with
        ⟨hCount, hBehind⟩
      have hStill :=
        tag?_bracketed hBody (escapedChars after ++ rest)
      rw [← hBehind] at hStill
      rw [pieces_of_tag hTag, escapedChars_of_tag hTag,
        List.append_assoc, List.append_assoc,
        pieces_of_tag hStill, hCount, ih]
      rfl

------------------------------------------------------------
-- Runs
------------------------------------------------------------

/-
  The runs that are read from guarded pieces, given what stands
  behind the last run and before the first one.  They hold all
  characters, but for a backslash before a bracket that opens
  no tag.
-/
def runs
    (after : List Char) :
    List Char →
    List Piece →
    List (List Char)
  | before, [] => [before ++ after]
  | before, .plain '\\' :: .plain '[' :: rest =>
      runs after (before ++ ['[']) rest
  | before, .plain c :: rest =>
      runs after (before ++ [c]) rest
  | before, .tag slashes body :: rest =>
      before :: List.replicate slashes '\\' :: bracketed body
        :: runs after [] rest

/-
  What the console shows of a text that is escaped, given what
  stands in the same run before and behind it.
-/
def shown
    (console : Console)
    (before s after : List Char) : List Char :=
  (runs (lastSlash s ++ after) before (pieces s)).flatMap
    console.decode

/- The tokens of runs are what is shown of them. -/
theorem flatMap_tokens_runs
    (console : Console)
    (parts : List (List Char)) :
    (parts.map Chunk.run).flatMap (Chunk.tokens console) =
      (parts.flatMap console.decode).map Token.plain := by
  rw [List.flatMap_map, List.map_flatMap]
  rfl

/- A plain character goes on the run, unless a bracket swallows it. -/
theorem chunksFrom_plain
    {c : Char}
    {rest : List Piece}
    (position : Nat)
    (run : List Char)
    (hOther :
      ¬ (c = '\\' ∧ ∃ more, rest = .plain '[' :: more)) :
    chunksFrom position run (.plain c :: rest) =
      chunksFrom (position + 1) (run ++ [c]) rest := by
  rw [chunksFrom]
  intro more hRest hSlash
  exact hOther ⟨hSlash, more, hRest⟩

/- A guarded tag is a run behind one of the backslashes it had. -/
theorem chunksFrom_guarded
    (position slashes : Nat)
    (run body : List Char)
    (rest : List Piece) :
    chunksFrom position run
        (.tag (2 * slashes + 1) body :: rest) =
      .run run :: .run (List.replicate slashes '\\')
        :: .run (bracketed body)
        :: chunksFrom
          (position + (2 * slashes + 1)
            + (bracketed body).length) [] rest := by
  have hOdd : (2 * slashes + 1) % 2 = 1 := by omega
  have hHalf : (2 * slashes + 1) / 2 = slashes := by omega
  rw [chunksFrom]
  simp [hOdd, hHalf]

/-
  Guarded pieces give their runs, and the last one goes on with
  what stands behind them.
-/
theorem chunksFrom_guarded_append
    (ps : List Piece)
    {more : List Piece}
    (hMore : ∀ rest, more ≠ .plain '[' :: rest)
    (position : Nat)
    (run : List Char) :
    ∃ next closed last,
      chunksFrom position run (ps.map Piece.guarded ++ more) =
          closed.map Chunk.run ++ chunksFrom next last more ∧
        ∀ after, runs after run ps = closed ++ [last ++ after] := by
  fun_induction runs [] run ps generalizing position with
  | case1 run => exact ⟨position, [], run, rfl, fun _ => rfl⟩
  | case2 run rest ih =>
      rcases ih (position + 2) with
        ⟨next, closed, last, hChunks, hRuns⟩
      refine ⟨next, closed, last, ?_, ?_⟩
      · simpa [Piece.guarded, chunksFrom] using hChunks
      · simpa [runs] using hRuns
  | case3 run c rest hOther ih =>
      rcases ih (position + 1) with
        ⟨next, closed, last, hChunks, hRuns⟩
      refine ⟨next, closed, last, ?_, ?_⟩
      · -- No piece behind a backslash is a bracket after guarding.
        have hFree :
            ¬ (c = '\\' ∧
              ∃ others,
                rest.map Piece.guarded ++ more =
                  .plain '[' :: others) := by
          intro hBoth
          rcases hBoth with ⟨hSlash, others, hRest⟩
          cases rest with
          | nil => exact hMore others hRest
          | cons piece rest =>
              cases piece with
              | plain d =>
                  have hBracket : d = '[' := by
                    have hHead := (List.cons.inj hRest).1
                    simpa [Piece.guarded] using hHead
                  rw [hBracket] at hOther
                  exact hOther rest rfl hSlash
              | tag slashes body =>
                  have hHead := (List.cons.inj hRest).1
                  simp [Piece.guarded] at hHead
        rw [List.map_cons, List.cons_append, Piece.guarded,
          chunksFrom_plain position run hFree, hChunks]
      · intro after
        rw [runs, hRuns after]
        exact hOther
  | case4 run slashes body rest ih =>
      rcases ih
          (position + (2 * slashes + 1)
            + (bracketed body).length) with
        ⟨next, closed, last, hChunks, hRuns⟩
      refine
        ⟨next,
          run :: List.replicate slashes '\\'
            :: bracketed body :: closed,
          last, ?_, ?_⟩
      · rw [List.map_cons, List.cons_append, Piece.guarded,
          chunksFrom_guarded, hChunks]
        rfl
      · intro after
        rw [runs, hRuns after]
        rfl

/-
  Reading an escaped text gives its runs, and the last one goes
  on with what follows.
-/
theorem chunksFrom_escape_append
    (s : String)
    {rest : List Char}
    (hRest : Follows rest)
    (hPlain : ∀ more, pieces rest ≠ .plain '[' :: more)
    (position : Nat)
    (run : List Char) :
    ∃ next closed last,
      chunksFrom position run
          (pieces ((escape s).toList ++ rest)) =
        closed.map Chunk.run
          ++ chunksFrom next last (pieces rest) ∧
        ∀ after,
          runs (lastSlash s.toList ++ after) run
              (pieces s.toList) =
            closed ++ [last ++ after] := by
  have hAfter := hRest.lastSlash s.toList
  rw [toList_escape, List.append_assoc,
    pieces_escapedChars_append hAfter]
  unfold lastSlash at hAfter ⊢
  split
  · next hSingle =>
      rw [if_pos hSingle] at hAfter
      have hSlash :
          pieces (['\\'] ++ rest) =
            .plain '\\' :: pieces rest :=
        pieces_of_plain hAfter.opening
      have hOther :
          ∀ more,
            .plain '\\' :: pieces rest ≠ .plain '[' :: more := by
        simp
      rcases chunksFrom_guarded_append (pieces s.toList) hOther
          position run with
        ⟨next, closed, last, hChunks, hRuns⟩
      refine ⟨next + 1, closed, last ++ ['\\'], ?_, ?_⟩
      · rw [hSlash, hChunks, chunksFrom_plain]
        intro hBoth
        rcases hBoth.2 with ⟨more, hMore⟩
        exact hPlain more hMore
      · intro after
        rw [hRuns]
        simp
  · rw [List.nil_append]
    exact
      chunksFrom_guarded_append (pieces s.toList) hPlain
        position run

/- So an escaped text at the end is shown behind the last run. -/
theorem chunksFrom_escape
    (console : Console)
    (s : String)
    (position : Nat)
    (run : List Char) :
    (chunksFrom position run
        (pieces (escape s).toList)).flatMap
          (Chunk.tokens console) =
      (shown console run s.toList []).map Token.plain := by
  rcases chunksFrom_escape_append s Follows.nil
      (by simp [pieces, firstPieces]) position run with
    ⟨next, closed, last, hChunks, hRuns⟩
  have hNothing :
      chunksFrom next last (pieces []) = [last].map Chunk.run :=
    rfl
  rw [List.append_nil, hNothing, ← List.map_append] at hChunks
  unfold shown
  rw [hChunks, flatMap_tokens_runs, hRuns, List.append_nil]

------------------------------------------------------------
-- Texts Without Backslashes
------------------------------------------------------------

/- A text without brackets to open has plain pieces only. -/
theorem pieces_of_no_bracket
    {s : List Char}
    (hNone : '[' ∉ s) :
    pieces s = s.map Piece.plain := by
  induction s using pieces_induction with
  | nil => rfl
  | plain c rest hPlain ih =>
      rw [pieces_of_plain hPlain, ih]
      · rfl
      · intro hRest
        exact hNone (List.mem_cons_of_mem c hRest)
  | tag s body after hTag _ =>
      exfalso
      apply hNone
      rw [← slashes_append s, (eq_bracketed_of_tag? hTag).2]
      simp [bracketed]

/- What is the first piece of plain ones is in their text. -/
theorem mem_of_map_plain
    {s : List Char}
    {c : Char}
    {more : List Piece}
    (hFirst : s.map Piece.plain = .plain c :: more) :
    c ∈ s := by
  cases s with
  | nil => simp at hFirst
  | cons d s =>
      have hHead : d = c := by
        simpa using (List.cons.inj hFirst).1
      rw [hHead]
      exact List.mem_cons_self

/- Escaped, a text without brackets changes at its end only. -/
theorem toList_escape_of_no_bracket
    {s : String}
    (hNone : '[' ∉ s.toList) :
    (escape s).toList = s.toList ++ lastSlash s.toList := by
  have hSame : escapedChars s.toList = s.toList := by
    unfold escapedChars
    rw [pieces_of_no_bracket hNone, List.flatMap_map]
    exact List.flatMap_singleton' s.toList
  rw [toList_escape, hSame]

/- No tag stands at the start of a text that a blank ends. -/
theorem tag?_before_blank
    {s : List Char}
    (hNone : '[' ∉ s)
    (rest : List Char) :
    tag? (behindSlashes (s ++ ' ' :: rest)) = none := by
  induction s with
  | nil => rfl
  | cons c s ih =>
      have hRest := ih fun hMember =>
        hNone (List.mem_cons_of_mem c hMember)
      rw [List.cons_append]
      by_cases hSlash : c = '\\'
      · rw [hSlash]
        exact hRest
      · have hOther : c ≠ '[' := by
          rintro rfl
          exact hNone List.mem_cons_self
        have hHere :
            behindSlashes (c :: (s ++ ' ' :: rest)) =
              c :: (s ++ ' ' :: rest) := by
          simp [behindSlashes, hSlash]
        rw [hHere]
        unfold tag?
        split
        · next hText =>
            exact absurd (List.cons.inj hText).1 hOther
        · rfl

/-
  The pieces of a text without brackets to open and a blank
  are plain, whatever stands behind them.
-/
theorem pieces_before_blank
    {s : List Char}
    (hNone : '[' ∉ s)
    (rest : List Char) :
    pieces (s ++ ' ' :: rest) =
      (s ++ [' ']).map Piece.plain ++ pieces rest := by
  induction s with
  | nil => exact pieces_of_plain rfl
  | cons c s ih =>
      have hRest : '[' ∉ s := fun hMember =>
        hNone (List.mem_cons_of_mem c hMember)
      have hPlain := tag?_before_blank hNone rest
      rw [List.cons_append] at hPlain ⊢
      rw [pieces_of_plain hPlain, ih hRest]
      rfl

/- They all go on the run. -/
theorem chunksFrom_before_blank
    {s : List Char}
    (hNone : '[' ∉ s)
    (position : Nat)
    (run : List Char)
    (rest : List Piece) :
    chunksFrom position run
        ((s ++ [' ']).map Piece.plain ++ rest) =
      chunksFrom (position + (s ++ [' ']).length)
        (run ++ (s ++ [' '])) rest := by
  induction s generalizing position run with
  | nil => exact chunksFrom_plain position run (by simp)
  | cons c s ih =>
      have hRest : '[' ∉ s := fun hMember =>
        hNone (List.mem_cons_of_mem c hMember)
      have hFree :
          ¬ (c = '\\' ∧
            ∃ more,
              (s ++ [' ']).map Piece.plain ++ rest =
                .plain '[' :: more) := by
        intro hBoth
        rcases hBoth.2 with ⟨more, hMore⟩
        cases s with
        | nil => simp at hMore
        | cons d s =>
            have hHead :
                [d].map Piece.plain = [.plain '['] := by
              simpa using (List.cons.inj hMore).1
            exact
              hRest (List.mem_append_left s
                (mem_of_map_plain hHead))
      rw [List.cons_append, List.map_cons, List.cons_append,
        chunksFrom_plain position run hFree,
        ih hRest (position + 1) (run ++ [c])]
      congr 1
      · simp
        omega
      · simp

/- A text without brackets to open is one run. -/
theorem chunks_of_no_bracket
    {s : List Char}
    (hNone : '[' ∉ s) :
    chunks s = [.run s] := by
  have hFrom :
      ∀ position run,
        chunksFrom position run (s.map Piece.plain) =
          [.run (run ++ s)] := by
    induction s with
    | nil =>
        intro position run
        simp [chunksFrom]
    | cons c s ih =>
        intro position run
        have hRest : '[' ∉ s := fun hMember =>
          hNone (List.mem_cons_of_mem c hMember)
        rw [List.map_cons, chunksFrom_plain, ih hRest]
        · simp
        · intro hBoth
          rcases hBoth.2 with ⟨more, hMore⟩
          exact hRest (mem_of_map_plain hMore)
  unfold chunks
  rw [pieces_of_no_bracket hNone]
  exact hFrom 0 []

/- The characters of a piece. -/
def Piece.source : Piece → List Char
  | .plain c => [c]
  | .tag slashes body =>
      List.replicate slashes '\\' ++ bracketed body

/- The pieces of a text make up the text. -/
theorem flatMap_source_pieces
    (s : List Char) :
    (pieces s).flatMap Piece.source = s := by
  induction s using pieces_induction with
  | nil => rfl
  | plain c rest hPlain ih =>
      rw [pieces_of_plain hPlain, List.flatMap_cons, ih]
      rfl
  | tag s body after hTag ih =>
      have hWhole := slashes_append s
      rw [(eq_bracketed_of_tag? hTag).2] at hWhole
      rw [pieces_of_tag hTag, List.flatMap_cons, ih,
        Piece.source, List.append_assoc]
      exact hWhole

/- A backslash that is a piece stands in the text. -/
theorem slash_mem_of_pieces
    {s : List Char}
    (hPiece : .plain '\\' ∈ pieces s) :
    '\\' ∈ s := by
  rw [← flatMap_source_pieces s]
  exact
    List.mem_flatMap.mpr
      ⟨.plain '\\', hPiece, by simp [Piece.source]⟩

/- Without backslashes on their own, runs make up the text. -/
theorem flatten_runs
    {ps : List Piece}
    (hNone : .plain '\\' ∉ ps)
    (before after : List Char) :
    (runs after before ps).flatten =
      before ++ ps.flatMap Piece.source ++ after := by
  fun_induction runs after before ps with
  | case1 before => simp
  | case2 before rest ih => simp at hNone
  | case3 before c rest hOther ih =>
      rw [ih fun hRest =>
        hNone (List.mem_cons_of_mem _ hRest)]
      simp [Piece.source]
  | case4 before slashes body rest ih =>
      simp only [List.flatten_cons]
      rw [ih fun hRest =>
        hNone (List.mem_cons_of_mem _ hRest)]
      simp [Piece.source]

/- Nor do they end in a backslash when they are escaped. -/
theorem getLast?_flatMap_escaped
    {ps : List Piece}
    (hNone : .plain '\\' ∉ ps) :
    (ps.flatMap Piece.escaped).getLast? ≠ some '\\' := by
  induction ps with
  | nil => simp
  | cons piece rest ih =>
      have hRest := ih fun hRest =>
        hNone (List.mem_cons_of_mem _ hRest)
      have hPiece : piece.escaped.getLast? ≠ some '\\' := by
        cases piece with
        | plain c =>
            intro hLast
            apply hNone
            have hSlash : c = '\\' := by
              simpa [Piece.escaped] using hLast
            rw [hSlash]
            exact List.mem_cons_self
        | tag slashes body =>
            have hEnd :
                (bracketed body).getLast? = some ']' :=
              List.getLast?_concat
            simp [Piece.escaped, List.getLast?_append, hEnd]
      rw [List.flatMap_cons, List.getLast?_append]
      cases hLast : (rest.flatMap Piece.escaped).getLast? with
      | none => simpa [hLast] using hPiece
      | some c =>
          rw [hLast] at hRest
          simpa using hRest

/- Escaping adds no backslash to a text without any. -/
theorem lastSlash_of_no_slash
    {s : List Char}
    (hPieces : .plain '\\' ∉ pieces s) :
    lastSlash s = [] := by
  have hEnd := getLast?_flatMap_escaped hPieces
  unfold lastSlash escapedChars
  rw [List.getLast?_eq_head?_reverse] at hEnd
  cases hReverse :
      ((pieces s).flatMap Piece.escaped).reverse with
  | nil => rfl
  | cons c before =>
      have hOther : c ≠ '\\' := by
        simpa [hReverse] using hEnd
      simp [hOther]

/-
  A text without backslashes is shown as it is, together with
  what stands around it, if the console knows no code in it.
-/
theorem shown_of_spares
    {console : Console}
    {before s after : List Char}
    (hNone : '\\' ∉ s)
    (hSpares : console.Spares (before ++ s ++ after)) :
    shown console before s after = before ++ s ++ after := by
  have hPieces : .plain '\\' ∉ pieces s := by
    intro hPiece
    exact hNone (slash_mem_of_pieces hPiece)
  have hWhole := flatten_runs hPieces before after
  rw [flatMap_source_pieces] at hWhole
  unfold shown
  rw [lastSlash_of_no_slash hPieces, List.nil_append,
    List.flatMap_def, ← hWhole]
  congr 1
  apply (List.map_congr_left _).trans (List.map_id _)
  intro part hPart
  apply Console.decode_of_spares
  apply hSpares.of_infix
  rw [← hWhole]
  exact List.infix_of_mem_flatten hPart

end Markup

end ElementBindings
