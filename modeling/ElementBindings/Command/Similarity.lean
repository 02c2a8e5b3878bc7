/-
  Words that are close to a misspelt one.

  Two words are compared by the longest block that they share,
  then by the blocks left and right of it.  They are close
  when the shared characters make up three fifths of both.

  Key definitions include:
    * `Similarity.matching`
    * `Similarity.closest`
-/

namespace ElementBindings

namespace Similarity

------------------------------------------------------------
-- Shared Blocks
------------------------------------------------------------

/- The number of characters that two words share at the start. -/
def commonStart : List Char → List Char → Nat
  | a :: as, b :: bs =>
      if a = b then commonStart as bs + 1 else 0
  | _, _ => 0

/- A block of two words: where it starts in each, and its length. -/
structure Block where
  left : Nat
  right : Nat
  size : Nat
deriving DecidableEq, Repr

/- The longest block, the leftmost of several. -/
def longestBlock
    (a b : List Char) : Block :=
  (List.range a.length).foldl
    (fun best i =>
      (List.range b.length).foldl
        (fun best j =>
          let size := commonStart (a.drop i) (b.drop j)
          if size > best.size then ⟨i, j, size⟩ else best)
        best)
    ⟨0, 0, 0⟩

/-
  The number of characters in shared blocks.  The first
  argument bounds the number of nested blocks.
-/
def matchingWithin :
    Nat →
    List Char →
    List Char →
    Nat
  | 0, _, _ => 0
  | steps + 1, a, b =>
      let block := longestBlock a b
      if block.size = 0 then
        0
      else
        block.size
          + matchingWithin steps
              (a.take block.left) (b.take block.right)
          + matchingWithin steps
              (a.drop (block.left + block.size))
              (b.drop (block.right + block.size))

/- The number of characters that two words share. -/
def matching
    (a b : List Char) : Nat :=
  matchingWithin a.length a b

------------------------------------------------------------
-- Close Words
------------------------------------------------------------

/- How much of two words is shared, out of their length. -/
structure Score where
  shared : Nat
  length : Nat
  word : String
deriving DecidableEq, Repr

/- One word is closer than another, or comes later if equal. -/
def Score.beats
    (x y : Score) : Bool :=
  let left := x.shared * y.length
  let right := y.shared * x.length
  left > right || (left = right && x.word ≥ y.word)

/- At most three of the words that are close, closest first. -/
def closest
    (word : String)
    (candidates : List String) : List String :=
  let scores := candidates.map fun candidate =>
    { shared := matching candidate.toList word.toList
      length := candidate.length + word.length
      word := candidate : Score }
  let close := scores.filter fun score =>
    10 * score.shared ≥ 3 * score.length
  ((close.mergeSort Score.beats).take 3).map (·.word)

end Similarity

end ElementBindings
