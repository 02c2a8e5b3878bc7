import ElementBindings.Text.CharacterName.FromA
import ElementBindings.Text.CharacterName.FromB
import ElementBindings.Text.CharacterName.FromC
import ElementBindings.Text.CharacterName.FromD
import ElementBindings.Text.CharacterName.FromH
import ElementBindings.Text.CharacterName.FromL
import ElementBindings.Text.CharacterName.FromM
import ElementBindings.Text.CharacterName.FromN
import ElementBindings.Text.CharacterName.FromS
import ElementBindings.Text.CharacterName.FromT
import ElementBindings.Text.CodePoint
import ElementBindings.Text.Line
import ElementBindings.Text.Quoted

/-
  The names of the characters of Unicode 14, with their
  aliases.

  Most names are listed, those of some families end in a
  number.  The names of Korean syllables are put together from
  three sounds.  Small letters count as capitals, but not in
  the names of syllables and of unified ideographs.

  Key definitions include:
    * `CharacterName.namesIn`, `CharacterName.isListed`
    * `CharacterName.Family`, `CharacterName.families`
    * `CharacterName.isSyllable`, `CharacterName.isIdeograph`
    * `Text.isCharacterName`
-/

namespace ElementBindings

namespace CharacterName

------------------------------------------------------------
-- Listed Names
------------------------------------------------------------

/-
  The names in a list as words, behind the words of the name
  before them.
-/
def namesIn
    (before : List (List Char)) :
    List (List Char) →
    List (List (List Char))
  | [] => []
  | [] :: rest => namesIn before rest
  | (shared :: own) :: rest =>
      let name := before.take (shared.toNat - 'a'.toNat)
        ++ Text.splitAtEach ' ' own
      name :: namesIn name rest

/- The list that names with a first letter stand in. -/
def listFor
    (first : Char) : List String :=
  if first < 'B' then fromA
  else if first < 'C' then fromB
  else if first < 'D' then fromC
  else if first < 'H' then fromD
  else if first < 'L' then fromH
  else if first < 'M' then fromL
  else if first < 'N' then fromM
  else if first < 'S' then fromN
  else if first < 'T' then fromS
  else fromT

/- A name in capitals is listed. -/
def isListed : List Char → Bool
  | [] => false
  | first :: rest =>
      let listed := (listFor first).flatMap String.toList
      let entries := listed.splitBy fun _ c => !Text.isSmall c
      (namesIn [] entries).contains
        (Text.splitAtEach ' ' (first :: rest))

------------------------------------------------------------
-- Numbered Names
------------------------------------------------------------

/- What stands behind a stem. -/
def behind?
    (stem : String)
    (s : List Char) : Option (List Char) :=
  stem.toList.isPrefixOf? s

/- The value of a digit, which may be a capital letter. -/
def digitValue?
    (base : Nat)
    (c : Char) : Option Nat :=
  let value :=
    if c.isDigit then
      c.toNat - '0'.toNat
    else if Text.isCapital c then
      c.toNat - 'A'.toNat + 10
    else
      base
  if value < base then some value else none

/- The number that digits stand for. -/
def numberIn?
    (base : Nat)
    (s : List Char) : Option Nat :=
  s.foldlM
    (fun n c => (digitValue? base c).map (base * n + ·)) 0

/-
  Names with a common stem that end in a number.  The number
  has a base and as many digits as it needs, but not fewer
  than a least count.
-/
structure Family where
  stem : String
  base : Nat
  least : Nat
  ranges : List (Nat × Nat)

/- The families of names. -/
def families : List Family :=
  [ ⟨"CJK COMPATIBILITY IDEOGRAPH-", 16, 4,
      [(0xF900, 0xFA6D), (0xFA70, 0xFAD9), (0x2F800, 0x2FA1D)]⟩,
    ⟨"KHITAN SMALL SCRIPT CHARACTER-", 16, 5,
      [(0x18B00, 0x18CD5)]⟩,
    ⟨"NUSHU CHARACTER-", 16, 5, [(0x1B170, 0x1B2FB)]⟩,
    ⟨"TANGUT COMPONENT-", 10, 3, [(1, 768)]⟩,
    ⟨"VARIATION SELECTOR-", 10, 1, [(1, 256)]⟩,
    ⟨"VS", 10, 1, [(1, 256)]⟩ ]

/- Digits of which none stands in front without need. -/
def Family.fits
    (family : Family)
    (digits : List Char) : Bool :=
  if family.least < digits.length then
    digits.head? ≠ some '0'
  else
    digits.length = family.least

/- A name in capitals belongs to a family. -/
def Family.holds
    (family : Family)
    (name : List Char) : Bool :=
  (behind? family.stem name).any fun digits =>
    family.fits digits
      && (numberIn? family.base digits).any
        (Text.inRanges family.ranges)

------------------------------------------------------------
-- Ideographs
------------------------------------------------------------

/- The unified ideographs. -/
def ideographRanges : List (Nat × Nat) :=
  [ (0x3400, 0x4DBF), (0x4E00, 0x9FFF), (0x20000, 0x2A6DF),
    (0x2A700, 0x2B738), (0x2B740, 0x2B81D), (0x2B820, 0x2CEA1),
    (0x2CEB0, 0x2EBE0), (0x30000, 0x3134A) ]

/- A unified ideograph, by a number of four or five digits. -/
def isIdeograph
    (name : List Char) : Bool :=
  (behind? "CJK UNIFIED IDEOGRAPH-" name).any fun digits =>
    (digits.length = 4 || digits.length = 5)
      && (numberIn? 16 digits).any (Text.inRanges ideographRanges)

------------------------------------------------------------
-- Syllables
------------------------------------------------------------

/- The sounds that Korean syllables begin with. -/
def initials : List String :=
  [ "", "G", "GG", "N", "D", "DD", "R", "M", "B", "BB", "S",
    "SS", "J", "JJ", "C", "K", "T", "P", "H" ]

/- The vowels of Korean syllables. -/
def vowels : List String :=
  [ "A", "AE", "YA", "YAE", "EO", "E", "YEO", "YE", "O", "WA",
    "WAE", "OE", "YO", "U", "WEO", "WE", "WI", "YU", "EU",
    "YI", "I" ]

/- The sounds that Korean syllables end with. -/
def finals : List String :=
  [ "", "G", "GG", "GS", "N", "NJ", "NH", "D", "L", "LG", "LM",
    "LB", "LS", "LT", "LP", "LH", "M", "B", "BS", "S", "SS",
    "NG", "J", "C", "K", "T", "P", "H" ]

/- A Korean syllable. -/
def isSyllable
    (name : List Char) : Bool :=
  (behind? "HANGUL SYLLABLE " name).any fun sounds =>
    initials.any fun initial =>
      (behind? initial sounds).any fun rest =>
        vowels.any fun vowel =>
          (behind? vowel rest).any fun final =>
            finals.contains (String.ofList final)

end CharacterName

namespace Text

------------------------------------------------------------
-- Names
------------------------------------------------------------

/- A name or an alias of a character. -/
def isCharacterName
    (name : List Char) : Bool :=
  let capitals := name.map Char.toUpper
  CharacterName.isSyllable name
    || CharacterName.isIdeograph name
    || CharacterName.families.any (·.holds capitals)
    || CharacterName.isListed capitals

end Text

end ElementBindings
