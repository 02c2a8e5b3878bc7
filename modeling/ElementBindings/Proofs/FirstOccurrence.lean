import Mathlib.Data.List.Basic
import Mathlib.Data.List.Induction
import ElementBindings.FirstOccurrence

/-
  What keeping the first item of every key keeps.

  The items that are kept stand in their old order.  All of
  them are kept exactly when no key repeats, which their
  number alone tells.  Further items behind a list take
  nothing away from what was kept of it.  The keys that are
  kept are all there are, in the order of their first items,
  which are the ones that are kept.  Of items that stand
  for lists, those whose key was seen before can be left out
  without a change to what is kept of all their lists.  A part
  of a list can be replaced by what is kept of it.

  Key definitions include:
    * `firstOccurrencesAfter`

  Key theorems include:
    * `firstOccurrences_sublist`
    * `length_firstOccurrences_eq_iff`
    * `firstOccurrencesAfter_append`
    * `firstOccurrencesAfter_flatMap`
    * `prefix_firstOccurrences`
    * `firstOccurrences_kept_append`
    * `firstOccurrences_append_kept`
    * `map_firstOccurrences`
-/

namespace ElementBindings

variable {α κ : Type}
variable [DecidableEq κ]
variable {key : α → κ}
variable {items more : List α}

------------------------------------------------------------
-- Order
------------------------------------------------------------

/- The items that are kept stand in their old order. -/
theorem firstOccurrences_sublist
    (key : α → κ)
    (items : List α) :
    (firstOccurrences key items).Sublist items := by
  induction items with
  | nil => exact List.Sublist.refl _
  | cons a rest ih =>
      unfold firstOccurrences
      exact (List.filter_sublist.trans ih).cons_cons a

/- No item is kept that was not there. -/
theorem mem_of_mem_firstOccurrences
    {a : α}
    (hMember : a ∈ firstOccurrences key items) :
    a ∈ items :=
  (firstOccurrences_sublist key items).subset hMember

------------------------------------------------------------
-- Lists Without Repetitions
------------------------------------------------------------

/- Without repeated keys all items are kept. -/
theorem firstOccurrences_of_nodup
    (hDistinct : (items.map key).Nodup) :
    firstOccurrences key items = items := by
  induction items with
  | nil => rfl
  | cons a rest ih =>
      rw [List.map_cons, List.nodup_cons] at hDistinct
      rcases hDistinct with ⟨hFresh, hRest⟩
      unfold firstOccurrences
      rw [ih hRest, List.filter_eq_self.mpr]
      intro b hMember
      have hOther : key b ≠ key a := by
        intro hSame
        apply hFresh
        rw [← hSame]
        exact List.mem_map_of_mem hMember
      simp [hOther]

/- The keys of the items that are kept are distinct. -/
theorem nodup_firstOccurrences
    (key : α → κ)
    (items : List α) :
    ((firstOccurrences key items).map key).Nodup := by
  induction items with
  | nil => simp [firstOccurrences]
  | cons a rest ih =>
      unfold firstOccurrences
      rw [List.map_cons, List.nodup_cons]
      constructor
      · intro hKey
        rcases List.mem_map.mp hKey with ⟨b, hKept, hSame⟩
        simp [hSame] at hKept
      · exact ih.sublist (List.filter_sublist.map key)

/- The number of items that are kept tells repeated keys. -/
theorem length_firstOccurrences_eq_iff :
    (firstOccurrences key items).length = items.length ↔
      (items.map key).Nodup := by
  constructor
  · intro hLength
    have hAll : firstOccurrences key items = items :=
      (firstOccurrences_sublist key items).eq_of_length
        hLength
    rw [← hAll]
    exact nodup_firstOccurrences key items
  · intro hDistinct
    rw [firstOccurrences_of_nodup hDistinct]

------------------------------------------------------------
-- Keys Seen Before
------------------------------------------------------------

/- The first item of every key that was not seen before. -/
def firstOccurrencesAfter
    (key : α → κ)
    (seen : List κ)
    (items : List α) : List α :=
  (firstOccurrences key items).filter fun a => key a ∉ seen

/- Where nothing was seen, the first item of every key is kept. -/
theorem firstOccurrencesAfter_nil
    (key : α → κ)
    (items : List α) :
    firstOccurrencesAfter key [] items =
      firstOccurrences key items := by
  simp [firstOccurrencesAfter]

/- An item is kept if its key was not seen, and is seen then. -/
theorem firstOccurrencesAfter_cons
    (key : α → κ)
    (seen : List κ)
    (a : α)
    (rest : List α) :
    firstOccurrencesAfter key seen (a :: rest) =
      if key a ∈ seen then
        firstOccurrencesAfter key seen rest
      else
        a :: firstOccurrencesAfter key (seen ++ [key a])
          rest := by
  unfold firstOccurrencesAfter
  rw [firstOccurrences, List.filter_cons, List.filter_filter]
  by_cases hSeen : key a ∈ seen
  · simp only [hSeen, not_true_eq_false, decide_false,
      Bool.false_eq_true, ↓reduceIte]
    apply List.filter_congr
    intro b _
    by_cases hSame : key b = key a
    · simp [hSame, hSeen]
    · simp [hSame]
  · simp only [hSeen, not_false_eq_true, decide_true,
      ↓reduceIte, List.cons.injEq, true_and]
    apply List.filter_congr
    intro b _
    simp [not_or]

/- Items of keys that were all seen are all left out. -/
theorem firstOccurrencesAfter_eq_nil
    {seen : List κ}
    (hSeen : ∀ a ∈ items, key a ∈ seen) :
    firstOccurrencesAfter key seen items = [] := by
  unfold firstOccurrencesAfter
  rw [List.filter_eq_nil_iff]
  intro a hMember
  simp [hSeen a (mem_of_mem_firstOccurrences hMember)]

/- What is kept of one list is seen before the next one. -/
theorem firstOccurrencesAfter_append
    (key : α → κ)
    (seen : List κ)
    (items more : List α) :
    firstOccurrencesAfter key seen (items ++ more) =
      firstOccurrencesAfter key seen items
        ++ firstOccurrencesAfter key
          (seen ++ (firstOccurrencesAfter key seen items).map
            key)
          more := by
  induction items generalizing seen with
  | nil => simp [firstOccurrencesAfter, firstOccurrences]
  | cons a rest ih =>
      rw [List.cons_append, firstOccurrencesAfter_cons,
        firstOccurrencesAfter_cons]
      by_cases hSeen : key a ∈ seen
      · rw [if_pos hSeen, if_pos hSeen, ih]
      · rw [if_neg hSeen, if_neg hSeen, ih]
        simp [List.append_assoc]

/- Afterwards, a key was seen if it was so before or occurs. -/
theorem mem_seen_after_iff
    (key : α → κ)
    (seen : List κ)
    (items : List α)
    {k : κ} :
    k ∈ seen
          ++ (firstOccurrencesAfter key seen items).map key ↔
      k ∈ seen ∨ k ∈ items.map key := by
  induction items generalizing seen with
  | nil => simp [firstOccurrencesAfter, firstOccurrences]
  | cons a rest ih =>
      rw [firstOccurrencesAfter_cons]
      by_cases hSeen : key a ∈ seen
      · rw [if_pos hSeen, ih]
        simp only [List.map_cons, List.mem_cons]
        constructor
        · intro hEither
          exact hEither.imp_right .inr
        · rintro (hOld | rfl | hRest)
          · exact .inl hOld
          · exact .inl hSeen
          · exact .inr hRest
      · have hTail := ih (seen ++ [key a])
        rw [if_neg hSeen, List.map_cons, ← List.singleton_append,
          ← List.append_assoc, hTail]
        simp [or_assoc]

/-
  Items that stand for lists of further items, with the same
  list for the same key.  Leaving out those whose key was seen
  leaves out nothing but further items whose keys were seen.
-/
theorem firstOccurrencesAfter_flatMap
    {β κ' : Type}
    [DecidableEq κ']
    {key' : β → κ'}
    {part : α → List β}
    {seen : List κ}
    {seen' : List κ'}
    (hPart :
      ∀ a ∈ items, ∀ b ∈ items,
        key a = key b → part a = part b)
    (hSeen :
      ∀ a ∈ items, key a ∈ seen →
        ∀ b ∈ part a, key' b ∈ seen') :
    firstOccurrencesAfter key' seen' (items.flatMap part) =
      firstOccurrencesAfter key' seen'
        ((firstOccurrencesAfter key seen items).flatMap
          part) := by
  induction items generalizing seen seen' with
  | nil => rfl
  | cons a rest ih =>
      have hRest :
          ∀ b ∈ rest, ∀ c ∈ rest,
            key b = key c → part b = part c := by
        intro b hMember c hOther
        exact
          hPart b (List.mem_cons_of_mem a hMember) c
            (List.mem_cons_of_mem a hOther)
      rw [List.flatMap_cons, firstOccurrencesAfter_append,
        firstOccurrencesAfter_cons]
      by_cases hOld : key a ∈ seen
      · have hNothing :
            firstOccurrencesAfter key' seen' (part a) = [] :=
          firstOccurrencesAfter_eq_nil
            (hSeen a List.mem_cons_self hOld)
        rw [if_pos hOld, hNothing, List.map_nil,
          List.append_nil, List.nil_append]
        apply ih hRest
        intro b hMember
        exact hSeen b (List.mem_cons_of_mem a hMember)
      · rw [if_neg hOld, List.flatMap_cons,
          firstOccurrencesAfter_append]
        congr 1
        apply ih hRest
        intro b hMember hKey c hPartOf
        rw [mem_seen_after_iff]
        rcases List.mem_append.mp hKey with hEarlier | hNow
        · exact
            .inl
              (hSeen b (List.mem_cons_of_mem a hMember)
                hEarlier c hPartOf)
        · have hSame : part b = part a :=
            hPart b (List.mem_cons_of_mem a hMember) a
              List.mem_cons_self (List.mem_singleton.mp hNow)
          rw [hSame] at hPartOf
          exact .inr (List.mem_map_of_mem hPartOf)

------------------------------------------------------------
-- Further Items
------------------------------------------------------------

/- Of further items those are kept whose keys are new. -/
theorem firstOccurrences_append
    (key : α → κ)
    (items more : List α) :
    firstOccurrences key (items ++ more) =
      firstOccurrences key items
        ++ firstOccurrencesAfter key
          ((firstOccurrences key items).map key) more := by
  rw [← firstOccurrencesAfter_nil, firstOccurrencesAfter_append,
    firstOccurrencesAfter_nil, List.nil_append]

/- They come behind what is kept without them. -/
theorem prefix_firstOccurrences
    (key : α → κ)
    (items more : List α) :
    firstOccurrences key items <+:
      firstOccurrences key (items ++ more) := by
  rw [firstOccurrences_append]
  exact List.prefix_append _ _

/- What is kept of a list is kept with more items behind it. -/
theorem mem_firstOccurrences_append
    {a : α}
    (hKept : a ∈ firstOccurrences key items) :
    a ∈ firstOccurrences key (items ++ more) :=
  (prefix_firstOccurrences key items more).subset hKept

/- Further items of keys that were seen are all left out. -/
theorem firstOccurrences_append_of_seen
    (hSeen : ∀ b ∈ more, key b ∈ items.map key) :
    firstOccurrences key (items ++ more) =
      firstOccurrences key items := by
  have hNone :
      firstOccurrencesAfter key
        ((firstOccurrences key items).map key) more = [] := by
    apply firstOccurrencesAfter_eq_nil
    intro b hMember
    have hAfter :=
      (mem_seen_after_iff key [] items).mpr
        (.inr (hSeen b hMember))
    rwa [List.nil_append, firstOccurrencesAfter_nil] at hAfter
  rw [firstOccurrences_append, hNone, List.append_nil]

/- What is kept of a list is kept whole. -/
theorem firstOccurrences_self
    (key : α → κ)
    (items : List α) :
    firstOccurrences key (firstOccurrences key items) =
      firstOccurrences key items :=
  firstOccurrences_of_nodup (nodup_firstOccurrences key items)

/- It stands for the list in front of further items. -/
theorem firstOccurrences_kept_append
    (key : α → κ)
    (items more : List α) :
    firstOccurrences key (firstOccurrences key items ++ more) =
      firstOccurrences key (items ++ more) := by
  rw [firstOccurrences_append, firstOccurrences_self,
    ← firstOccurrences_append]

/- And it does so behind other items. -/
theorem firstOccurrences_append_kept
    (key : α → κ)
    (items more : List α) :
    firstOccurrences key (items ++ firstOccurrences key more) =
      firstOccurrences key (items ++ more) := by
  have hKept :
      ∀ seen : List κ,
        firstOccurrencesAfter key seen
            (firstOccurrences key more) =
          firstOccurrencesAfter key seen more := by
    intro seen
    rw [firstOccurrencesAfter, firstOccurrences_self,
      firstOccurrencesAfter]
  rw [firstOccurrences_append, hKept, ← firstOccurrences_append]

------------------------------------------------------------
-- First Items
------------------------------------------------------------

/-
  The keys of the items that are kept are all keys, each once.
  By induction from the back, where a key is new or was seen.
-/
theorem map_firstOccurrences
    [BEq κ]
    [LawfulBEq κ]
    (key : α → κ)
    (items : List α) :
    (firstOccurrences key items).map key =
      (items.map key).eraseDups := by
  induction items using List.reverseRecOn with
  | nil => rfl
  | append_singleton items a ih =>
      rw [← firstOccurrencesAfter_nil,
        firstOccurrencesAfter_append,
        firstOccurrencesAfter_cons, firstOccurrencesAfter_nil,
        List.map_append, List.map_append,
        List.eraseDups_append, List.map_singleton, ih,
        List.nil_append]
      congr 1
      by_cases hOld : key a ∈ items.map key
      · have hLeft : [key a].removeAll (items.map key) = [] := by
          rw [List.removeAll, List.filter_cons_of_neg]
          · rfl
          · simpa using hOld
        rw [if_pos (List.mem_eraseDups.mpr hOld), hLeft]
        rfl
      · have hNew :
            [key a].removeAll (items.map key) = [key a] := by
          rw [List.removeAll, List.filter_cons_of_pos]
          · rfl
          · simpa using hOld
        rw [if_neg (mt List.mem_eraseDups.mp hOld), hNew]
        rfl

/- An item that is kept is the first one of its key. -/
theorem find?_of_mem_firstOccurrences
    {a : α}
    (hKept : a ∈ firstOccurrences key items) :
    items.find? (fun b => key b = key a) = some a := by
  induction items with
  | nil => simp [firstOccurrences] at hKept
  | cons b rest ih =>
      unfold firstOccurrences at hKept
      rcases List.mem_cons.mp hKept with rfl | hLater
      · simp
      · rcases List.mem_filter.mp hLater with ⟨hRest, hOther⟩
        have hOther : ¬ key b = key a := by
          intro hSame
          simp [hSame] at hOther
        rw [List.find?_cons_of_neg (by simpa using hOther)]
        exact ih hRest

/- Of the items of one key the first is kept, and no other. -/
theorem filter_firstOccurrences
    (k : κ) :
    (firstOccurrences key items).filter (key · = k) =
      (items.find? (key · = k)).toList := by
  induction items with
  | nil => rfl
  | cons a rest ih =>
      unfold firstOccurrences
      by_cases hHere : key a = k
      · have hNone :
            ((firstOccurrences key rest).filter
              fun b => key b ≠ key a).filter (key · = k) =
              [] := by
          rw [List.filter_eq_nil_iff]
          intro b hMember hKey
          have hOther := (List.mem_filter.mp hMember).2
          simp_all
        rw [List.filter_cons_of_pos (by simpa using hHere),
          hNone, List.find?_cons_of_pos (by simpa using hHere)]
        rfl
      · have hAll :
            ((firstOccurrences key rest).filter
              fun b => key b ≠ key a).filter (key · = k) =
              (firstOccurrences key rest).filter
                (key · = k) := by
          rw [List.filter_filter]
          apply List.filter_congr
          intro b _
          by_cases hKey : key b = k
          · simp [hKey, Ne.symm hHere]
          · simp [hKey]
        rw [List.filter_cons_of_neg (by simpa using hHere),
          hAll, List.find?_cons_of_neg (by simpa using hHere),
          ih]

end ElementBindings
