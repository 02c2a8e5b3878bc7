import ElementBindings.Proofs.Zig.Enumeration

/-
  What a getter reads back of a string that a setter stored.

  A setter of an enumerated attribute maps members to strings,
  and its getter returns the first member whose string is like
  the one that it reads, whatever the case of its letters.  So
  a stored string always leads to a member, of which it is
  known when it is the one that was stored: when no member
  before it has a like string.

  Members are told apart by their places, since two of them
  are written alike if one name is null.

  Key definitions include:
    * `Zig.Alike`
    * `Zig.FunctionDecl.storedStrings`
    * `Zig.FunctionDecl.memberFor?`
    * `Zig.IsFirstAlike`

  Key theorems include:
    * `Zig.FunctionDecl.storedStrings_of_stores`
    * `Zig.FunctionDecl.memberFor?_of_compares`
    * `Attribute.stored_strings_read_back`
-/

namespace ElementBindings

open Zig

namespace Zig

------------------------------------------------------------
-- Strings
------------------------------------------------------------

/- Two strings are equal but for the case of ASCII letters. -/
def Alike
    (s t : String) : Prop :=
  s.toList.map Char.toLower = t.toList.map Char.toLower

instance (s t : String) : Decidable (Alike s t) := by
  unfold Alike
  infer_instance

/- The text between the quotes of a literal. -/
def unquoted
    (literal : String) : String :=
  String.ofList (literal.toList.tail.dropLast)

/- Quotes are put around a text and taken away again. -/
theorem unquoted_stringLiteral
    (s : String) :
    unquoted (stringLiteral s) = s := by
  unfold unquoted stringLiteral
  simp

------------------------------------------------------------
-- Storing and Reading
------------------------------------------------------------

/- The member of a branch with the string that it stores. -/
def storedString?
    (branch : String × Call) : Option (String × String) :=
  if branch.2.function = "setStrAttribute" then
    branch.2.arguments.head?.map fun literal =>
      (branch.1, unquoted literal)
  else
    none

/- The strings that a function stores for members, in order. -/
def FunctionDecl.storedStrings
    (function : FunctionDecl) : List (String × String) :=
  (function.body.filterMap Statement.branches?).flatten.filterMap
    storedString?

/-
  The member that statements return when a string was read:
  comparisons are made in turn, until one returns.
-/
def returnedMember?
    (read : String) :
    List Statement →
    Option String
  | .bindCall _ _ :: rest => returnedMember? read rest
  | .returnIfEqual text member :: rest =>
      if Alike text read then
        some member
      else
        returnedMember? read rest
  | _ => none

/- The member that a function returns for a string, or null. -/
def FunctionDecl.memberFor?
    (function : FunctionDecl)
    (read : String) : Option String :=
  returnedMember? read function.body

variable {function : FunctionDecl}
variable {context : Context}
variable {key : Key}
variable {choices : List (String × String)}

/- The strings of choices are stored as they are. -/
theorem FunctionDecl.storedStrings_of_stores
    (hStores : function.Stores context key choices) :
    function.storedStrings = choices := by
  have hBranch :
      ∀ choice : String × String,
        storedString? (storeBranch context key choice) =
          some choice := by
    intro choice
    simp [storedString?, storeBranch, storeCall,
      unquoted_stringLiteral]
  unfold storedStrings
  rw [hStores, List.flatten_singleton, List.filterMap_map]
  simp [hBranch]

/- Comparisons return the first choice with a like string. -/
theorem FunctionDecl.memberFor?_of_compares
    (hCompares : function.Compares key choices)
    (read : String) :
    function.memberFor? read =
      (choices.find? (Alike ·.2 read)).map (·.1) := by
  unfold memberFor?
  rw [hCompares, List.cons_append, returnedMember?]
  clear hCompares
  induction choices with
  | nil => rfl
  | cons choice rest ih =>
      rw [List.map_cons, List.cons_append, returnedMember?]
      by_cases hAlike : Alike choice.2 read
      · rw [if_pos hAlike,
          List.find?_cons_of_pos (by simpa using hAlike)]
        rfl
      · rw [if_neg hAlike,
          List.find?_cons_of_neg (by simpa using hAlike)]
        exact ih

------------------------------------------------------------
-- First Choices
------------------------------------------------------------

/- The first of some choices with a string like another one. -/
structure IsFirstAlike
    (choices : List (String × String))
    (read : String)
    (place : Nat)
    (choice : String × String) : Prop where
  there : choices[place]? = some choice
  alike : Alike choice.2 read
  first :
    ∀ earlier < place, ∀ other,
      choices[earlier]? = some other → ¬ Alike other.2 read

variable {place : Nat}
variable {choice : String × String}
variable {read : String}

/- The first one stands at no later place than any like it. -/
theorem IsFirstAlike.le
    {other : Nat}
    {entry : String × String}
    (hFirst : IsFirstAlike choices read place choice)
    (hEntry : choices[other]? = some entry)
    (hAlike : Alike entry.2 read) :
    place ≤ other := by
  by_contra hLater
  exact
    hFirst.first other (by omega) entry hEntry hAlike

/- It is the same for every string that is like this one. -/
theorem IsFirstAlike.congr
    {same : String}
    (hFirst : IsFirstAlike choices read place choice)
    (hSame : Alike read same) :
    IsFirstAlike choices same place choice := by
  refine ⟨hFirst.there, hFirst.alike.trans hSame, ?_⟩
  intro earlier hEarlier other hOther hLike
  exact
    hFirst.first earlier hEarlier other hOther
      (hLike.trans hSame.symm)

/- The first one is what a search finds. -/
theorem IsFirstAlike.find?_eq
    (hFirst : IsFirstAlike choices read place choice) :
    choices.find? (Alike ·.2 read) = some choice := by
  rw [List.find?_eq_some_iff_getElem]
  rcases List.getElem?_eq_some_iff.mp hFirst.there with
    ⟨hBound, hEntry⟩
  refine ⟨by simpa using hFirst.alike, place, hBound, hEntry, ?_⟩
  intro earlier hEarlier
  have hBefore : earlier < choices.length := by omega
  simpa using
    hFirst.first earlier hEarlier choices[earlier]
      (List.getElem?_eq_getElem hBefore)

/- Where some string is like it, there is a first one. -/
theorem exists_isFirstAlike
    (hChoice : choice ∈ choices)
    (hAlike : Alike choice.2 read) :
    ∃ place found,
      IsFirstAlike choices read place found := by
  have hSome :
      (choices.find? (Alike ·.2 read)).isSome := by
    rw [List.find?_isSome]
    exact ⟨choice, hChoice, by simpa using hAlike⟩
  rcases Option.isSome_iff_exists.mp hSome with
    ⟨found, hFound⟩
  rcases List.find?_eq_some_iff_getElem.mp hFound with
    ⟨hLike, place, hBound, hEntry, hBefore⟩
  refine
    ⟨place, found,
      List.getElem?_eq_some_iff.mpr ⟨hBound, hEntry⟩,
      by simpa using hLike, ?_⟩
  intro earlier hEarlier other hOther
  rcases List.getElem?_eq_some_iff.mp hOther with
    ⟨hThere, rfl⟩
  simpa using hBefore earlier hEarlier

section FirstPlace

variable {other : Nat}
variable {found : String × String}
variable (hStored : choices[other]? = some choice)
variable (hFirst : IsFirstAlike choices choice.2 place found)

include hStored hFirst

/-
  A choice is the first of its string exactly when no choice
  before it has a string like it.
-/
theorem IsFirstAlike.place_eq_iff :
    place = other ↔
      ∀ earlier < other, ∀ entry,
        choices[earlier]? = some entry →
          ¬ Alike entry.2 choice.2 := by
  constructor
  · rintro rfl
    exact hFirst.first
  · intro hNone
    have hUpTo : place ≤ other := hFirst.le hStored rfl
    by_contra hOther
    exact
      hNone place (by omega) found hFirst.there hFirst.alike

/- Where members differ, they tell what was found. -/
theorem IsFirstAlike.member_eq_iff
    (hDistinct : (choices.map (·.1)).Nodup) :
    found.1 = choice.1 ↔ place = other := by
  rcases List.getElem?_eq_some_iff.mp hFirst.there with
    ⟨hPlace, hFound⟩
  rcases List.getElem?_eq_some_iff.mp hStored with
    ⟨hOther, hChoice⟩
  have hPlace : place < (choices.map (·.1)).length := by
    simpa using hPlace
  have hOther : other < (choices.map (·.1)).length := by
    simpa using hOther
  have hMembers :
      (choices.map (·.1))[place] = (choices.map (·.1))[other] ↔
        place = other := hDistinct.getElem_inj_iff
  rw [List.getElem_map, List.getElem_map, hFound, hChoice]
    at hMembers
  exact hMembers

end FirstPlace

end Zig

------------------------------------------------------------
-- Reading Back
------------------------------------------------------------

/-
  The string that is stored for a member is read back as the
  first member with a string like it.  This is the member
  itself exactly when no member before it has such a string,
  as for the first one.  What is read back is read back again
  when it is stored.  Nothing is asked of the values: they may
  repeat names and strings, and both may be null.
-/
theorem Attribute.stored_strings_read_back
    (a : Attribute)
    (context : Context)
    {setters : List FunctionDecl}
    {setter getter : FunctionDecl}
    (hRule : a.rule = .ok .enumString)
    (hSetters : a.setters context = .ok setters)
    (hSetter : setter ∈ setters)
    (hGetter : a.getter? = .ok (some getter))
    {place : Nat}
    {member text : String}
    (hStored :
      setter.storedStrings[place]? = some (member, text)) :
    ∃ type back found again,
      a.enumType? = .ok (some type) ∧
      type.members.map (·.1) =
        setter.storedStrings.map (·.1) ∧
      IsFirstAlike setter.storedStrings text back
        (found, again) ∧
      getter.memberFor? text = some found ∧
      (back = place ↔
        ∀ earlier < place, ∀ other,
          setter.storedStrings[earlier]? = some other →
            ¬ Alike other.2 text) ∧
      ((∀ value ∈ present a.enumValues, value.name.isSome) →
        (found = member ↔ back = place)) ∧
      (place = 0 → back = 0 ∧ found = member) ∧
      getter.memberFor? again = some found := by
  rcases Attribute.exists_stores hRule hSetters hSetter with
    ⟨values, _, hValues, _, hStores⟩
  rcases Attribute.exists_compares hRule hGetter with
    ⟨_, _, hCompares⟩
  rw [FunctionDecl.storedStrings_of_stores hStores] at hStored ⊢
  have hListed : a.enumValues.getD [] ≠ [] := by
    intro hNone
    have hNothing : a.choices = [] := by
      unfold Attribute.choices present
      rw [hNone]
      rfl
    simp [hNothing] at hStored
  rcases Attribute.exists_enumType hListed hValues with
    ⟨type, hType, hTags⟩
  have hSelf : Alike text text := rfl
  rcases exists_isFirstAlike (List.mem_of_getElem? hStored)
      hSelf with
    ⟨back, ⟨found, again⟩, hFirst⟩
  have hAgain : IsFirstAlike a.choices again back
      (found, again) := hFirst.congr hFirst.alike.symm
  refine
    ⟨type, back, found, again, hType, hTags, hFirst, ?_,
      hFirst.place_eq_iff hStored, ?_, ?_, ?_⟩
  · rw [FunctionDecl.memberFor?_of_compares hCompares,
      hFirst.find?_eq]
    rfl
  · intro hNames
    exact
      hFirst.member_eq_iff hStored
        (Attribute.members_choices hNames).distinct
  · rintro rfl
    have hZero : back = 0 :=
      Nat.le_zero.mp (hFirst.le hStored hSelf)
    have hThere := hFirst.there
    rw [hZero, hStored] at hThere
    exact
      ⟨hZero, (Prod.mk.inj (Option.some.inj hThere)).1.symm⟩
  · rw [FunctionDecl.memberFor?_of_compares hCompares,
      hAgain.find?_eq]
    rfl

/- A switch whose second string is like the first one. -/
def switch : Attribute :=
  { choice "POWER" "On" with
    enumValues :=
      some
        [ some ⟨some "On", some "YES", none⟩,
          some ⟨some "Enabled", some "Yes", none⟩,
          some ⟨some "Off", some "NO", none⟩ ] }

/- The second member is stored, and another one is read back. -/
theorem switch_reads_back :
    ∃ setter getter found,
      switch.setters .live = .ok [setter] ∧
      switch.getter? = .ok (some getter) ∧
      setter.storedStrings =
        [("On", "YES"), ("Enabled", "Yes"), ("Off", "NO")] ∧
      getter.memberFor? "Yes" = some found ∧
      found ≠ "Enabled" := by
  have hSetter :
      ∃ setter,
        switch.setters .live = .ok [setter] ∧
          setter.storedStrings =
            [("On", "YES"), ("Enabled", "Yes"), ("Off", "NO")]
      := ⟨_, rfl, rfl⟩
  have hGetter :
      ∃ getter, switch.getter? = .ok (some getter) :=
    ⟨_, rfl⟩
  rcases hSetter with ⟨setter, hSetter, hStrings⟩
  rcases hGetter with ⟨getter, hGetter⟩
  have hStored :
      setter.storedStrings[1]? = some ("Enabled", "Yes") := by
    rw [hStrings]
    rfl
  have hFirst :
      setter.storedStrings[0]? = some ("On", "YES") := by
    rw [hStrings]
    rfl
  rcases switch.stored_strings_read_back .live rfl hSetter
      (List.mem_singleton_self setter) hGetter hStored with
    ⟨_, back, found, _, _, _, _, hFound, hPlace, hSame, _⟩
  refine
    ⟨setter, getter, found, hSetter, hGetter, hStrings, hFound,
      ?_⟩
  intro hMember
  have hBack := (hSame (by decide)).mp hMember
  exact hPlace.mp hBack 0 (by decide) _ hFirst (by decide)

end ElementBindings
