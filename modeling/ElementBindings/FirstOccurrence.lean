/-
  Lists without repeated keys.

  Of several items with one key the first is kept.

  Key definitions include:
    * `firstOccurrences`
    * `repeats`
-/

namespace ElementBindings

variable {α κ : Type}
variable [DecidableEq κ]

/- Keep the first item of every key, in order. -/
def firstOccurrences
    (key : α → κ) :
    List α →
    List α
  | [] => []
  | a :: rest =>
      a :: (firstOccurrences key rest).filter
        fun b => key b ≠ key a

/- The items whose key was seen before, in order. -/
def repeatsAfter
    (key : α → κ)
    (seen : List κ) :
    List α →
    List α
  | [] => []
  | a :: rest =>
      if key a ∈ seen then
        a :: repeatsAfter key seen rest
      else
        repeatsAfter key (key a :: seen) rest

/- The items that are not the first of their key. -/
def repeats
    (key : α → κ)
    (items : List α) : List α :=
  repeatsAfter key [] items

end ElementBindings
