import ElementBindings.Zig.Code
import ElementBindings.Proofs.Text.Line

/-
  Counting the arguments in the text of a call.

  The arguments of a call, or the parameters of a function,
  are separated by commas; those between brackets belong to
  one argument.  A list of pieces that are joined by commas
  has as many arguments as it has pieces, if no piece has a
  comma of its own outside brackets, and all but the last
  piece close the brackets that they open.

  Key definitions include:
    * `Zig.argumentCount`
    * `Zig.Countable`

  Key theorems include:
    * `Zig.argumentCount_joinWith`
-/

namespace ElementBindings

namespace Zig

------------------------------------------------------------
-- Brackets and Commas
------------------------------------------------------------

/- How deep in brackets a text is after one more character. -/
def nest
    (depth : Nat)
    (c : Char) : Nat :=
  if c ∈ ['(', '[', '\x7b'] then depth + 1
  else if c ∈ [')', ']', '\x7d'] then depth - 1
  else depth

/- The commas of a text that stand outside all brackets. -/
def commas
    (depth : Nat) :
    List Char →
    Nat
  | [] => 0
  | c :: rest =>
      (if depth = 0 ∧ c = ',' then 1 else 0)
        + commas (nest depth c) rest

/- The arguments in the text of an argument list. -/
def argumentCount
    (text : String) : Nat :=
  if text = "" then 0 else commas 0 text.toList + 1

/- Commas are counted from one part of a text to the next. -/
theorem commas_append
    (depth : Nat)
    (s t : List Char) :
    commas depth (s ++ t) =
      commas depth s + commas (s.foldl nest depth) t := by
  induction s generalizing depth with
  | nil => simp [commas]
  | cons c rest ih =>
      rw [List.cons_append, commas, ih, commas,
        List.foldl_cons, Nat.add_assoc]

/- A text without comma has none outside brackets. -/
theorem commas_of_not_mem
    {s : List Char}
    (depth : Nat)
    (hNone : ',' ∉ s) :
    commas depth s = 0 := by
  induction s generalizing depth with
  | nil => rfl
  | cons c rest ih =>
      rw [List.mem_cons, not_or] at hNone
      rw [commas, ih _ hNone.2, if_neg]
      intro hComma
      exact hNone.1 hComma.2.symm

------------------------------------------------------------
-- Pieces
------------------------------------------------------------

/- A piece of an argument list that is one argument. -/
structure Single
    (piece : String) : Prop where
  nonempty : piece ≠ ""
  commas : commas 0 piece.toList = 0

/- A piece that closes all brackets that it opens. -/
structure Closed
    (piece : String) : Prop extends Single piece where
  depth : piece.toList.foldl nest 0 = 0

instance (piece : String) : Decidable (Closed piece) :=
  decidable_of_iff
    (piece ≠ "" ∧ Zig.commas 0 piece.toList = 0 ∧
      piece.toList.foldl nest 0 = 0)
    ⟨fun ⟨hNonempty, hCommas, hDepth⟩ =>
      ⟨⟨hNonempty, hCommas⟩, hDepth⟩,
    fun ⟨⟨hNonempty, hCommas⟩, hDepth⟩ =>
      ⟨hNonempty, hCommas, hDepth⟩⟩

/- What follows without comma belongs to the same argument. -/
theorem Single.append
    {start : String}
    (hStart : Single start)
    {rest : String}
    (hRest : ',' ∉ rest.toList) :
    Single (start ++ rest) := by
  constructor
  · intro hEmpty
    apply hStart.nonempty
    have hParts := congrArg String.toList hEmpty
    simp at hParts
    exact hParts.1
  · rw [String.toList_append, commas_append, hStart.commas,
      commas_of_not_mem _ hRest]

/- Pieces that are arguments; all but the last are closed. -/
def Countable : List String → Prop
  | [] => True
  | [last] => Single last
  | piece :: next :: rest =>
      Closed piece ∧ Countable (next :: rest)

/- Closed pieces may stand before others that are counted. -/
theorem countable_append
    {pieces others : List String}
    (hClosed : ∀ piece ∈ pieces, Closed piece)
    (hOthers : Countable others) :
    Countable (pieces ++ others) := by
  induction pieces with
  | nil => exact hOthers
  | cons piece rest ih =>
      have hFirst : Closed piece := hClosed piece (by simp)
      have hRest : Countable (rest ++ others) := by
        apply ih
        intro other hMember
        exact hClosed other (by simp [hMember])
      rw [List.cons_append]
      cases hMore : rest ++ others with
      | nil => exact hFirst.toSingle
      | cons next later =>
          rw [hMore] at hRest
          exact ⟨hFirst, hRest⟩

/- Pieces that are all closed are counted. -/
theorem countable_of_closed
    {pieces : List String}
    (hClosed : ∀ piece ∈ pieces, Closed piece) :
    Countable pieces := by
  have hNone : Countable [] := trivial
  have hAppend := countable_append hClosed hNone
  rw [List.append_nil] at hAppend
  exact hAppend

/- There are as many arguments as pieces are joined. -/
theorem argumentCount_joinWith
    {pieces : List String}
    (hCountable : Countable pieces) :
    argumentCount (Text.joinWith ", " pieces) =
      pieces.length := by
  induction pieces with
  | nil => rfl
  | cons piece rest ih =>
      cases rest with
      | nil =>
          have hSingle : Single piece := hCountable
          unfold Text.joinWith argumentCount
          rw [if_neg hSingle.nonempty, hSingle.commas]
          rfl
      | cons next later =>
          rcases hCountable with ⟨hFirst, hRest⟩
          have hCount := ih hRest
          -- What follows the comma is not empty, so it is counted.
          have hMore :
              Text.joinWith ", " (next :: later) ≠ "" := by
            intro hEmpty
            rw [hEmpty] at hCount
            simp [argumentCount] at hCount
          have hText :
              (Text.joinWith ", "
                (piece :: next :: later)).toList =
                piece.toList ++ ',' :: ' ' ::
                  (Text.joinWith ", "
                    (next :: later)).toList := by
            simp [Text.joinWith]
          have hWhole :
              Text.joinWith ", " (piece :: next :: later)
                ≠ "" := by
            intro hEmpty
            rw [hEmpty] at hText
            simp at hText
          unfold argumentCount at hCount ⊢
          rw [if_neg hMore] at hCount
          rw [if_neg hWhole, hText, commas_append,
            hFirst.commas, hFirst.depth]
          have hComma :
              commas 0
                  (',' :: ' ' ::
                    (Text.joinWith ", "
                      (next :: later)).toList) =
                commas 0
                    (Text.joinWith ", "
                      (next :: later)).toList + 1 := by
            simp [commas, nest, Nat.add_comm]
          rw [hComma]
          simp only [List.length_cons] at hCount ⊢
          omega

end Zig

end ElementBindings
