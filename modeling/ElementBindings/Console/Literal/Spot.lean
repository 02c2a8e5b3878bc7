/-
  Places in a text.

  Columns are counted in octets, from one on.

  Key definitions include:
    * `Literal.Spot`, `Literal.Start`
    * `Literal.columnAfter`
    * `Literal.consumed`
-/

namespace ElementBindings

namespace Literal

------------------------------------------------------------
-- Places
------------------------------------------------------------

/-
  Where something stands: the line on which it begins, and the
  columns of its first and of its last octet.
-/
structure Spot where
  line : Nat
  column : Nat
  last : Nat
deriving DecidableEq, Repr

/-
  Where a text starts: the number of its first line, and how
  many octets stand in front of it there.
-/
structure Start where
  line : Nat
  margin : Nat
deriving DecidableEq, Repr

/-
  How many octets of a line stand before the end of a text,
  given how many stand before its start.
-/
def columnAfter
    (column : Nat)
    (s : List Char) : Nat :=
  s.foldl
    (fun column c =>
      if c = '\n' then 0 else column + c.utf8Size)
    column

/- What has been taken from a text, given the rest of it. -/
def consumed
    (s rest : List Char) : List Char :=
  s.take (s.length - rest.length)

end Literal

end ElementBindings
