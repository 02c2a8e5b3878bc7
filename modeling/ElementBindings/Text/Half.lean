import ElementBindings.Text.Printable

/-
  Halves of pairs of code units.

  A text may hold half of a pair, which is no character.  In
  its place stands a code point of plane 13, where there are no
  characters, so that texts with different halves are different;
  texts that hold these code points themselves are left out.

  In the name of a file, some of the halves stand for octets
  that are no text; a name with these is taken for different
  from all other names.

  Key definitions include:
    * `Text.halfChar`, `Text.isHalf`, `Text.codePoint`
    * `Text.isOctet`, `Text.isStrayHalf`
-/

namespace ElementBindings

namespace Text

------------------------------------------------------------
-- Halves
------------------------------------------------------------

/- The first code point of plane 13. -/
def halfPlane : Nat := 0xD0000

/- The character that stands for half of a pair. -/
def halfChar
    (unit : Nat) : Char :=
  Char.ofNat (halfPlane + unit)

/- A character that stands for half of a pair. -/
def isHalf
    (c : Char) : Bool :=
  halfPlane + 0xD800 ≤ c.toNat && c.toNat ≤ halfPlane + 0xDFFF

/- The code point of a character, or of the half it stands for. -/
def codePoint
    (c : Char) : Nat :=
  if isHalf c then c.toNat - halfPlane else c.toNat

/- A half that stands for an octet in the name of a file. -/
def isOctet
    (c : Char) : Bool :=
  halfPlane + 0xDC80 ≤ c.toNat && c.toNat ≤ halfPlane + 0xDCFF

/- A half that not even the name of a file can have. -/
def isStrayHalf
    (c : Char) : Bool :=
  isHalf c && !isOctet c

end Text

end ElementBindings
