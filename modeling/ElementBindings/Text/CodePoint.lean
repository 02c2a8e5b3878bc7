/-
  Classes of characters given by ranges of code points.

  Key definitions include:
    * `Text.inRanges`
    * `Text.isBlank`
    * `Text.decimalDigit?`
    * `Text.isCapital`
    * `Text.isSmall`
-/

namespace ElementBindings

namespace Text

------------------------------------------------------------
-- Ranges
------------------------------------------------------------

/- A code point lies in one of some closed ranges. -/
def inRanges
    (ranges : List (Nat × Nat))
    (n : Nat) : Bool :=
  ranges.any fun range =>
    range.1 ≤ n && n ≤ range.2

------------------------------------------------------------
-- Blank Characters
------------------------------------------------------------

/- The white space of Unicode, with the four separators of ASCII. -/
def blankRanges : List (Nat × Nat) :=
  [ (0x0009, 0x000D), (0x001C, 0x0020), (0x0085, 0x0085),
    (0x00A0, 0x00A0), (0x1680, 0x1680), (0x2000, 0x200A),
    (0x2028, 0x2029), (0x202F, 0x202F), (0x205F, 0x205F),
    (0x3000, 0x3000) ]

/- A blank character leaves no mark on the page. -/
def isBlank
    (c : Char) : Bool :=
  inRanges blankRanges c.toNat

/- Drop the blank characters at the end. -/
def trimEnd
    (s : List Char) : List Char :=
  (s.reverse.dropWhile isBlank).reverse

/- Drop the blank characters at both ends. -/
def trim
    (s : List Char) : List Char :=
  trimEnd (s.dropWhile isBlank)

------------------------------------------------------------
-- Digits
------------------------------------------------------------

/-
  The zero of every script with decimal digits.  The other
  nine digits follow it.
-/
def zeroDigits : List Nat := [
    0x0030, 0x0660, 0x06F0, 0x07C0, 0x0966, 0x09E6, 0x0A66, 0x0AE6,
    0x0B66, 0x0BE6, 0x0C66, 0x0CE6, 0x0D66, 0x0DE6, 0x0E50, 0x0ED0,
    0x0F20, 0x1040, 0x1090, 0x17E0, 0x1810, 0x1946, 0x19D0, 0x1A80,
    0x1A90, 0x1B50, 0x1BB0, 0x1C40, 0x1C50, 0xA620, 0xA8D0, 0xA900,
    0xA9D0, 0xA9F0, 0xAA50, 0xABF0, 0xFF10, 0x104A0, 0x10D30, 0x11066,
    0x110F0, 0x11136, 0x111D0, 0x112F0, 0x11450, 0x114D0, 0x11650, 0x116C0,
    0x11730, 0x118E0, 0x11950, 0x11C50, 0x11D50, 0x11DA0, 0x16A60, 0x16AC0,
    0x16B50, 0x1D7CE, 0x1D7D8, 0x1D7E2, 0x1D7EC, 0x1D7F6, 0x1E140, 0x1E2F0,
    0x1E950, 0x1FBF0]

/- The value of a decimal digit of any script. -/
def decimalDigit?
    (c : Char) : Option Nat :=
  (zeroDigits.find? fun first =>
    first ≤ c.toNat && c.toNat ≤ first + 9).map
      fun first => c.toNat - first

/- A decimal digit of any script. -/
def isDecimalDigit
    (c : Char) : Bool :=
  (decimalDigit? c).isSome

------------------------------------------------------------
-- Letters
------------------------------------------------------------

/- A capital letter of the basic Latin alphabet. -/
def isCapital
    (c : Char) : Bool :=
  'A' ≤ c && c ≤ 'Z'

/- A small letter of the basic Latin alphabet. -/
def isSmall
    (c : Char) : Bool :=
  'a' ≤ c && c ≤ 'z'

end Text

end ElementBindings
