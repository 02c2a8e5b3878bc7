import ElementBindings.Proofs.Text.Line
import ElementBindings.Text.Utf8

/-
  Texts of ASCII characters.

  Such a text holds no half of a pair, so that it can always be
  encoded.  Its octets tell it from other texts.

  Key definitions include:
    * `Text.IsAscii`

  Key theorems include:
    * `Text.IsAscii.isWhole`
    * `Text.isAscii_iff_octets`, `Text.isWhole_of_octets`
-/

namespace ElementBindings

namespace Text

/- A character of the first 128. -/
def isAsciiChar
    (c : Char) : Bool :=
  c.toNat < 0x80

/- A text of such characters. -/
def IsAscii
    (s : String) : Prop :=
  ∀ c ∈ s.toList, isAsciiChar c

/- No character of the first plane is a half. -/
theorem isHalf_of_lt
    {c : Char}
    (hLow : c.toNat < 0x10000) :
    isHalf c = false := by
  have hBelow :
      decide (halfPlane + 0xD800 ≤ c.toNat) = false := by
    apply decide_eq_false
    unfold halfPlane
    omega
  unfold isHalf
  rw [hBelow]
  rfl

/- A text without a half can be encoded. -/
theorem IsAscii.isWhole
    {s : String}
    (hAscii : IsAscii s) :
    Text.isWhole s := by
  unfold Text.isWhole
  rw [List.all_eq_true]
  intro c hMember
  have hChar : c.toNat < 0x80 := by
    simpa [isAsciiChar] using hAscii c hMember
  rw [isHalf_of_lt (by omega)]
  rfl

/- What stands in a text that can be encoded can be, too. -/
theorem isWhole_of_infix
    {s t : String}
    (hInfix : s.toList <:+: t.toList)
    (hWhole : Text.isWhole t) :
    Text.isWhole s := by
  unfold Text.isWhole at hWhole ⊢
  rw [List.all_eq_true] at hWhole ⊢
  intro c hMember
  exact hWhole c (hInfix.subset hMember)

/- What stands behind such a text may be one, too. -/
theorem IsAscii.append
    {s t : String}
    (hFirst : IsAscii s)
    (hSecond : IsAscii t) :
    IsAscii (s ++ t) := by
  intro c hMember
  rw [String.toList_append] at hMember
  rcases List.mem_append.mp hMember with hHere | hThere
  · exact hFirst c hHere
  · exact hSecond c hThere

/- Such texts can be joined. -/
theorem IsAscii.joinWith
    {separator : String}
    {parts : List String}
    (hSeparator : IsAscii separator)
    (hParts : ∀ part ∈ parts, IsAscii part) :
    IsAscii (Text.joinWith separator parts) := by
  intro c hMember
  rcases mem_joinWith hMember with hBetween | ⟨part, hPart, hThere⟩
  · exact hSeparator c hBetween
  · exact hParts part hPart c hThere

/- The text of some characters. -/
theorem isAscii_ofList
    {s : List Char}
    (hChars : ∀ c ∈ s, isAsciiChar c) :
    IsAscii (String.ofList s) := by
  intro c hMember
  rw [String.toList_ofList] at hMember
  exact hChars c hMember

------------------------------------------------------------
-- Octets
------------------------------------------------------------

variable {c : Char}
variable {s : String}

/- The octets of a text are those of its characters. -/
theorem octets_eq
    (s : String) :
    s.toByteArray.data.toList =
      s.toList.flatMap String.utf8EncodeChar := by
  rw [← String.utf8Encode_toList]
  simp [List.utf8Encode]

/- The first octet of any other character is at least 128. -/
theorem exists_high_octet
    (hHigh : 0x80 ≤ c.toNat) :
    ∃ octet ∈ String.utf8EncodeChar c,
      0x80 ≤ octet.toNat := by
  have hVal : c.val.toNat = c.toNat := rfl
  unfold String.utf8EncodeChar
  simp only [hVal]
  split
  · omega
  · split
    · exact ⟨_, List.mem_cons_self, by simp; omega⟩
    · split
      · exact ⟨_, List.mem_cons_self, by simp; omega⟩
      · exact ⟨_, List.mem_cons_self, by simp; omega⟩

/- That of one behind the first plane is at least 240. -/
theorem exists_highest_octet
    (hHigh : 0x10000 ≤ c.toNat) :
    ∃ octet ∈ String.utf8EncodeChar c,
      0xF0 ≤ octet.toNat := by
  have hVal : c.val.toNat = c.toNat := rfl
  unfold String.utf8EncodeChar
  simp only [hVal]
  rw [if_neg (by omega), if_neg (by omega),
    if_neg (by omega)]
  exact ⟨_, List.mem_cons_self, by simp; omega⟩

/- What holds of all octets of a text does of a character's. -/
theorem octet_lt_of_all
    {bound : Nat}
    {octet : UInt8}
    (hOctets :
      s.toByteArray.data.toList.all (·.toNat < bound))
    (hMember : c ∈ s.toList)
    (hOctet : octet ∈ String.utf8EncodeChar c) :
    octet.toNat < bound := by
  rw [octets_eq, List.all_eq_true] at hOctets
  exact
    of_decide_eq_true
      (hOctets octet
        (List.mem_flatMap.mpr ⟨c, hMember, hOctet⟩))

/- A text is of such characters if its octets are below. -/
theorem isAscii_iff_octets :
    IsAscii s ↔
      s.toByteArray.data.toList.all (·.toNat < 0x80) := by
  constructor
  · intro hAscii
    rw [octets_eq, List.all_eq_true]
    intro octet hOctet
    rcases List.mem_flatMap.mp hOctet with ⟨c, hMember, hThere⟩
    have hLow : c.toNat < 0x80 :=
      of_decide_eq_true (hAscii c hMember)
    have hVal : c.val.toNat = c.toNat := rfl
    unfold String.utf8EncodeChar at hThere
    rw [hVal, if_pos (by omega), List.mem_singleton] at hThere
    rw [hThere]
    simp
    omega
  · intro hOctets c hMember
    rcases Nat.lt_or_ge c.toNat 0x80 with hLow | hHigh
    · exact decide_eq_true hLow
    · rcases exists_high_octet hHigh with
        ⟨octet, hOctet, hValue⟩
      have hBelow := octet_lt_of_all hOctets hMember hOctet
      omega

/- A text whose octets are less than 240 can be encoded. -/
theorem isWhole_of_octets
    (hOctets :
      s.toByteArray.data.toList.all (·.toNat < 0xF0)) :
    Text.isWhole s := by
  unfold Text.isWhole
  rw [List.all_eq_true]
  intro c hMember
  rcases Nat.lt_or_ge c.toNat 0x10000 with hLow | hHigh
  · rw [isHalf_of_lt hLow]
    rfl
  · rcases exists_highest_octet hHigh with
      ⟨octet, hOctet, hValue⟩
    have hBelow := octet_lt_of_all hOctets hMember hOctet
    omega

/- The octets are there already, and need not be read. -/
instance
    (s : String) : Decidable (IsAscii s) :=
  decidable_of_iff _ isAscii_iff_octets.symm

end Text

end ElementBindings
