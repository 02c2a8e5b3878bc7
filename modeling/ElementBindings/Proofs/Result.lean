import Mathlib.Data.List.Forall2
import ElementBindings.Fault

/-
  Results that may be faults.

  Work in a row ends at its first fault, and so does work on
  the items of a list.  Work decides a property if it succeeds
  where the property holds, and rejects the catalog where it
  does not.  Checks in a row decide the conjunction of what
  they decide one by one.  In the same way work needs what its
  parts need that may be null.

  Key definitions include:
    * `fault?`
    * `Rejects`, `Decides`
    * `Needs`

  Key theorems include:
    * `fault?_bind`, `fault?_mapM`
    * `bind_eq_ok_iff`, `mapError_eq_ok_iff`
    * `mapM_eq_ok_iff`
    * `Decides.andThen`, `Decides.forM`
    * `Needs.andThen`, `Needs.mapM`
-/

namespace ElementBindings

variable {α β : Type}

/- Results are compared by what they carry. -/
instance decidableEqExcept
    {ε : Type}
    [DecidableEq ε]
    [DecidableEq α] : DecidableEq (Except ε α)
  | .ok a, .ok b => decidable_of_iff (a = b) (by simp)
  | .error a, .error b => decidable_of_iff (a = b) (by simp)
  | .ok _, .error _ => isFalse nofun
  | .error _, .ok _ => isFalse nofun

------------------------------------------------------------
-- Faults of Results
------------------------------------------------------------

/- The fault that a result is, if it is one. -/
def fault? : Except Fault α → Option Fault
  | .ok _ => none
  | .error fault => some fault

@[simp] theorem fault?_ok
    (a : α) :
    fault? (.ok a) = none := rfl

@[simp] theorem fault?_error
    (fault : Fault) :
    fault? (.error fault : Except Fault α) = some fault := rfl

@[simp] theorem fault?_pure
    (a : α) :
    fault? (pure a) = none := rfl

/- A result is without fault when it is a value. -/
theorem fault?_eq_none_iff
    {result : Except Fault α} :
    fault? result = none ↔ ∃ a, result = .ok a := by
  cases result with
  | ok a => simp
  | error fault => simp

/- A result has a fault when it is that fault. -/
theorem fault?_eq_some_iff
    {result : Except Fault α}
    {fault : Fault} :
    fault? result = some fault ↔ result = .error fault := by
  cases result with
  | ok a => simp
  | error other => simp

/- What is done with a value does not change the fault. -/
@[simp] theorem fault?_map
    (g : α → β)
    (result : Except Fault α) :
    fault? (result.map g) = fault? result := by
  cases result with
  | ok a => rfl
  | error fault => rfl

/-
  Work in a row has the fault of its first part, or the one of
  the second part if that is the same for all values.
-/
theorem fault?_bind
    {result : Except Fault α}
    {next : α → Except Fault β}
    {later : Option Fault}
    (hNext :
      ∀ a, result = .ok a → fault? (next a) = later) :
    fault? (result >>= next) = (fault? result).or later := by
  cases result with
  | ok a =>
      have hLater := hNext a rfl
      simpa [bind, Except.bind] using hLater
  | error fault => rfl

/- Work that goes on without fault has the one it began with. -/
theorem fault?_bind_eq_first
    {result : Except Fault α}
    {next : α → Except Fault β}
    (hNext :
      ∀ a, result = .ok a → fault? (next a) = none) :
    fault? (result >>= next) = fault? result := by
  rw [fault?_bind hNext, Option.or_none]

/- Work in a row has no fault if no part of it has one. -/
theorem fault?_bind_eq_none
    {result : Except Fault α}
    {next : α → Except Fault β}
    (hFirst : fault? result = none)
    (hNext :
      ∀ a, result = .ok a → fault? (next a) = none) :
    fault? (result >>= next) = none := by
  rw [fault?_bind_eq_first hNext]
  exact hFirst

/- Work on a list has the fault of the first item with one. -/
theorem fault?_mapM
    (f : α → Except Fault β)
    (items : List α) :
    fault? (items.mapM f) =
      items.findSome? fun a => fault? (f a) := by
  induction items with
  | nil => rfl
  | cons a rest ih =>
      rw [List.mapM_cons]
      cases hHead : f a with
      | error fault =>
          simp [hHead, bind, Except.bind]
      | ok b =>
          have hTail :
              fault? (do
                let bs ← rest.mapM f
                pure (b :: bs)) =
                (fault? (rest.mapM f)).or none :=
            fault?_bind fun _ _ => rfl
          simpa [hHead, bind, Except.bind, ih] using hTail

/- Work on a list has no fault if no item has one. -/
theorem fault?_mapM_eq_none
    {f : α → Except Fault β}
    {items : List α}
    (hItems : ∀ a ∈ items, fault? (f a) = none) :
    fault? (items.mapM f) = none := by
  rw [fault?_mapM, List.findSome?_eq_none_iff]
  exact hItems

/-
  Where a condition tells which items have a fault, the first
  fault is the one of the first item that meets it.
-/
theorem findSome?_eq_find?
    {faultOf? : α → Option Fault}
    {condition : α → Prop}
    [DecidablePred condition]
    {faultOf : α → Fault}
    {items : List α}
    (hItems :
      ∀ a ∈ items,
        faultOf? a =
          if condition a then some (faultOf a) else none) :
    items.findSome? faultOf? =
      (items.find? fun a => condition a).map faultOf := by
  induction items with
  | nil => rfl
  | cons a rest ih =>
      have hHead := hItems a (by simp)
      have hTail :
          rest.findSome? faultOf? =
            (rest.find? fun a => condition a).map faultOf := by
        apply ih
        intro b hMember
        exact hItems b (by simp [hMember])
      by_cases hFirst : condition a
      · simp [hHead, hFirst]
      · simp [hHead, hFirst, hTail]

/- Work on a list then has the fault of that item. -/
theorem fault?_mapM_eq_find?
    {f : α → Except Fault β}
    {condition : α → Prop}
    [DecidablePred condition]
    {faultOf : α → Fault}
    {items : List α}
    (hItems :
      ∀ a ∈ items,
        fault? (f a) =
          if condition a then some (faultOf a) else none) :
    fault? (items.mapM f) =
      (items.find? fun a => condition a).map faultOf := by
  rw [fault?_mapM]
  exact findSome?_eq_find? hItems

------------------------------------------------------------
-- Values of Results
------------------------------------------------------------

@[simp] theorem ok_bind
    (a : α)
    (next : α → Except Fault β) :
    (Except.ok a >>= next) = next a := rfl

/- Work in a row gives a value when both parts do. -/
theorem bind_eq_ok_iff
    {result : Except Fault α}
    {next : α → Except Fault β}
    {b : β} :
    (result >>= next) = .ok b ↔
      ∃ a, result = .ok a ∧ next a = .ok b := by
  cases result with
  | ok a => simp [bind, Except.bind]
  | error fault => simp [bind, Except.bind]

/- What is done with an error gives no other values. -/
theorem mapError_eq_ok_iff
    {ε δ : Type}
    {g : ε → δ}
    {result : Except ε α}
    {a : α} :
    result.mapError g = .ok a ↔ result = .ok a := by
  cases result with
  | ok b => simp [Except.mapError]
  | error e => simp [Except.mapError]

/- What is done with a value was done with some value. -/
theorem map_eq_ok_iff
    {g : α → β}
    {result : Except Fault α}
    {b : β} :
    result.map g = .ok b ↔ ∃ a, result = .ok a ∧ g a = b := by
  cases result with
  | ok a => simp [Except.map]
  | error fault => simp [Except.map]

/- Work on a list gives a value for each item, in order. -/
theorem mapM_eq_ok_iff
    {f : α → Except Fault β}
    {items : List α}
    {results : List β} :
    items.mapM f = .ok results ↔
      List.Forall₂ (fun a b => f a = .ok b) items results := by
  induction items generalizing results with
  | nil =>
      cases results with
      | nil => simp [pure, Except.pure]
      | cons b results => simp [pure, Except.pure]
  | cons a rest ih =>
      rw [List.mapM_cons]
      cases results with
      | nil =>
          simp [bind_eq_ok_iff, pure, Except.pure]
      | cons b results =>
          simp only [bind_eq_ok_iff, pure, Except.pure,
            Except.ok.injEq, List.cons.injEq,
            List.forall₂_cons]
          constructor
          · intro hRun
            rcases hRun with
              ⟨first, hFirst, others, hOthers, rfl, rfl⟩
            exact ⟨hFirst, ih.mp hOthers⟩
          · intro hRun
            rcases hRun with ⟨hFirst, hOthers⟩
            exact
              ⟨b, hFirst, results, ih.mpr hOthers, rfl, rfl⟩

/- Work that gives a known value for each item gives them all. -/
theorem mapM_eq_map
    {f : α → Except Fault β}
    {value : α → β}
    {items : List α}
    (hValues : ∀ a ∈ items, f a = .ok (value a)) :
    items.mapM f = .ok (items.map value) := by
  rw [mapM_eq_ok_iff, List.forall₂_map_right_iff,
    List.forall₂_same]
  exact hValues

/- Work on a list looks only at what is done with its items. -/
theorem mapM_congr
    {f g : α → Except Fault β}
    {items : List α}
    (hItems : ∀ a ∈ items, f a = g a) :
    items.mapM f = items.mapM g := by
  induction items with
  | nil => rfl
  | cons a rest ih =>
      have hHead : f a = g a := hItems a (by simp)
      have hTail : rest.mapM f = rest.mapM g := by
        apply ih
        intro b hMember
        exact hItems b (by simp [hMember])
      rw [List.mapM_cons, List.mapM_cons, hHead, hTail]

/- Work on a list gives values if every item gives one. -/
theorem exists_mapM
    {f : α → Except Fault β}
    {items : List α}
    (hItems : ∀ a ∈ items, ∃ b, f a = .ok b) :
    ∃ results, items.mapM f = .ok results := by
  apply fault?_eq_none_iff.mp
  apply fault?_mapM_eq_none
  intro a hMember
  exact fault?_eq_none_iff.mpr (hItems a hMember)

/- What is matched on the right is matched with something. -/
theorem exists_left_of_forall₂
    {relation : α → β → Prop}
    {items : List α}
    {results : List β}
    {b : β}
    (hMatched : List.Forall₂ relation items results)
    (hMember : b ∈ results) :
    ∃ a ∈ items, relation a b := by
  induction hMatched with
  | nil => cases hMember
  | @cons first second rest others hFirst hRest ih =>
      rcases List.mem_cons.mp hMember with rfl | hLater
      · exact ⟨first, List.mem_cons_self, hFirst⟩
      · rcases ih hLater with ⟨a, hItem, hHolds⟩
        exact ⟨a, List.mem_cons_of_mem first hItem, hHolds⟩

/- What stands at one place of matched lists is related. -/
theorem rel_getD_of_forall₂
    {relation : α → β → Prop}
    {items : List α}
    {results : List β}
    {a : α}
    {b : β}
    (hMatched : List.Forall₂ relation items results)
    (hElsewhere : relation a b)
    (i : Nat) :
    relation (items.getD i a) (results.getD i b) := by
  induction hMatched generalizing i with
  | nil => exact hElsewhere
  | cons hFirst hRest ih =>
      cases i with
      | zero => exact hFirst
      | succ i => exact ih i

/- Every value that is given is the one of some item. -/
theorem exists_of_mem_mapM
    {f : α → Except Fault β}
    {items : List α}
    {results : List β}
    {b : β}
    (hRun : items.mapM f = .ok results)
    (hMember : b ∈ results) :
    ∃ a ∈ items, f a = .ok b := by
  rcases exists_left_of_forall₂ (mapM_eq_ok_iff.mp hRun)
      hMember with
    ⟨a, hItem, hValue⟩
  exact ⟨a, hItem, hValue⟩

/- The value of every item is among those that are given. -/
theorem mem_of_mapM
    {f : α → Except Fault β}
    {items : List α}
    {results : List β}
    {a : α}
    {b : β}
    (hRun : items.mapM f = .ok results)
    (hMember : a ∈ items)
    (hValue : f a = .ok b) :
    b ∈ results := by
  have hPairs := mapM_eq_ok_iff.mp hRun
  induction hPairs with
  | nil => simp at hMember
  | @cons first c rest others hFirst hRest ih =>
      rcases List.mem_cons.mp hMember with rfl | hTail
      · rw [hFirst, Except.ok.injEq] at hValue
        rw [hValue]
        exact List.mem_cons_self
      · have hOthers := mapM_eq_ok_iff.mpr hRest
        exact List.mem_cons_of_mem c (ih hOthers hTail)

/- Where all items are given a value, each of them has one. -/
theorem exists_value_of_mapM
    {f : α → Except Fault β}
    {items : List α}
    {results : List β}
    {a : α}
    (hRun : items.mapM f = .ok results)
    (hMember : a ∈ items) :
    ∃ b, f a = .ok b := by
  have hNone : fault? (items.mapM f) = none :=
    fault?_eq_none_iff.mpr ⟨results, hRun⟩
  rw [fault?_mapM, List.findSome?_eq_none_iff] at hNone
  exact fault?_eq_none_iff.mp (hNone a hMember)

/- Checking every item passes when each one passes. -/
theorem forM_eq_ok_iff
    {f : α → Except Fault Unit}
    {items : List α} :
    items.forM f = .ok () ↔ ∀ a ∈ items, f a = .ok () := by
  induction items with
  | nil => simp [pure, Except.pure]
  | cons a rest ih =>
      have hParts :
          (a :: rest).forM f = (f a >>= fun _ => rest.forM f) :=
        rfl
      rw [hParts, bind_eq_ok_iff, List.forall_mem_cons, ← ih]
      constructor
      · intro hBoth
        rcases hBoth with ⟨_, hHead, hTail⟩
        exact ⟨hHead, hTail⟩
      · intro hBoth
        exact ⟨(), hBoth⟩

/- Checks end at the first item that does not pass. -/
theorem forM_eq_error
    {f : α → Except Fault Unit}
    {earlier : List α}
    {a : α}
    {fault : Fault}
    (later : List α)
    (hEarlier : ∀ b ∈ earlier, f b = .ok ())
    (hFault : f a = .error fault) :
    (earlier ++ a :: later).forM f = .error fault := by
  induction earlier with
  | nil =>
      have hParts :
          (a :: later).forM f = (f a >>= fun _ => later.forM f) :=
        rfl
      rw [List.nil_append, hParts, hFault]
      rfl
  | cons b rest ih =>
      rw [List.forall_mem_cons] at hEarlier
      have hParts :
          (b :: rest ++ a :: later).forM f =
            (f b >>= fun _ => (rest ++ a :: later).forM f) :=
        rfl
      rw [hParts, hEarlier.1, ok_bind, ih hEarlier.2]

------------------------------------------------------------
-- Values That May Be Null
------------------------------------------------------------

@[simp] theorem needed_some
    (use : NullUse)
    (a : α) :
    needed use (some a) = .ok a := rfl

/- What is needed is given when it is there. -/
theorem needed_eq_ok_iff
    {use : NullUse}
    {value : Option α}
    {a : α} :
    needed use value = .ok a ↔ value = some a := by
  cases value with
  | none => simp [needed]
  | some b => simp

/- Needing each of some values that are not null gives them. -/
@[simp] theorem mapM_needed_some
    (use : NullUse)
    (items : List α) :
    (items.map some).mapM (needed use) = .ok items := by
  induction items with
  | nil => rfl
  | cons a rest ih =>
      rw [List.map_cons, List.mapM_cons, ih]
      rfl

/- Needing each of some values gives values if none is null. -/
theorem mapM_needed_eq_ok_iff
    {use : NullUse}
    {items : List (Option α)}
    {values : List α} :
    items.mapM (needed use) = .ok values ↔
      items = values.map some := by
  constructor
  · intro hAll
    have hPairs := mapM_eq_ok_iff.mp hAll
    induction hPairs with
    | nil => rfl
    | cons hHead hTail ih =>
        rw [List.map_cons, needed_eq_ok_iff.mp hHead,
          ih (mapM_eq_ok_iff.mpr hTail)]
  · intro hItems
    rw [hItems]
    exact mapM_needed_some use values

/- Needing each of some values fails if one of them is null. -/
theorem mapM_needed_of_none
    {items : List (Option α)}
    (use : NullUse)
    (hNull : none ∈ items) :
    items.mapM (needed use) = .error (.null use) := by
  induction items with
  | nil => simp at hNull
  | cons item rest ih =>
      rw [List.mapM_cons]
      cases item with
      | none => rfl
      | some a =>
          have hRest : none ∈ rest := by
            simpa using hNull
          rw [ih hRest]
          rfl

------------------------------------------------------------
-- Checks
------------------------------------------------------------

/- A result that rejects a catalog. -/
def Rejects
    (result : Except Fault α) : Prop :=
  ∃ fault, result = .error (.catalog fault)

/- A result that is a value, or rejects a catalog. -/
def ReturnsOrRejects
    (result : Except Fault α) : Prop :=
  (∃ a, result = .ok a) ∨ Rejects result

/-
  Work that succeeds where a property holds, and rejects the
  catalog everywhere else.
-/
structure Decides
    (result : Except Fault α)
    (property : Prop) : Prop where
  passes : property → ∃ a, result = .ok a
  rejects : ¬ property → Rejects result

/- Such work decides whether it gives a value. -/
theorem ReturnsOrRejects.decides
    {result : Except Fault α}
    (hResult : ReturnsOrRejects result) :
    Decides result (∃ a, result = .ok a) :=
  ⟨fun hValue => hValue, hResult.resolve_left⟩

namespace Decides

variable {result : Except Fault α}
variable {P Q : Prop}

/- Work that decides a property succeeds when it holds. -/
theorem succeeds_iff
    (hResult : Decides result P) :
    (∃ a, result = .ok a) ↔ P := by
  constructor
  · intro hPass
    by_cases hHolds : P
    · exact hHolds
    · rcases hPass with ⟨a, hPass⟩
      rcases hResult.rejects hHolds with ⟨fault, hReject⟩
      simp [hPass] at hReject
  · exact hResult.passes

/- A check that decides a property passes when it holds. -/
theorem ok_iff
    {check : Except Fault Unit}
    (hCheck : Decides check P) :
    check = .ok () ↔ P := by
  rw [← hCheck.succeeds_iff]
  constructor
  · intro hPass
    exact ⟨(), hPass⟩
  · intro hPass
    rcases hPass with ⟨_, hPass⟩
    exact hPass

/- Whatever it decides, it gives a value or rejects. -/
theorem returnsOrRejects
    (hResult : Decides result P) :
    ReturnsOrRejects result := by
  by_cases hHolds : P
  · exact .inl (hResult.passes hHolds)
  · exact .inr (hResult.rejects hHolds)

/- What is decided may be said in other words. -/
theorem congr
    (hResult : Decides result P)
    (hSame : P ↔ Q) :
    Decides result Q := by
  rw [← hSame]
  exact hResult

/- A value decides nothing. -/
theorem pass
    (a : α) :
    Decides (.ok a) True :=
  ⟨fun _ => ⟨a, rfl⟩, fun hNot => absurd trivial hNot⟩

/- A rejection decides what is false. -/
theorem reject
    (fault : CatalogFault)
    (hNot : ¬ P) :
    Decides (.error (.catalog fault) : Except Fault α) P :=
  ⟨fun hHolds => absurd hHolds hNot, fun _ => ⟨fault, rfl⟩⟩

/- A branch that rejects the catalog, or goes on. -/
theorem orElse
    {violated : Prop}
    [Decidable violated]
    (fault : CatalogFault)
    (hResult : Decides result Q) :
    Decides
      (if violated then .error (.catalog fault) else result)
      (¬ violated ∧ Q) := by
  by_cases hViolated : violated
  · rw [if_pos hViolated]
    exact reject fault fun hBoth => hBoth.1 hViolated
  · rw [if_neg hViolated]
    exact hResult.congr (by simp [hViolated])

/- What is done with a value decides nothing more. -/
theorem map
    (g : α → β)
    (hResult : Decides result P) :
    Decides (result.map g) P := by
  constructor
  · intro hHolds
    rcases hResult.passes hHolds with ⟨a, hPass⟩
    exact ⟨g a, by simp [hPass, Except.map]⟩
  · intro hNot
    rcases hResult.rejects hNot with ⟨fault, hReject⟩
    exact ⟨fault, by simp [hReject, Except.map]⟩

/- Nor does it to throw the value away. -/
theorem discarded
    (hResult : Decides result P) :
    Decides (discard result) P := by
  have hSame :
      discard result = result.map fun _ => () := by
    cases result with
    | ok a => rfl
    | error fault => rfl
  rw [hSame]
  exact hResult.map fun _ => ()

/-
  The second part may rely on what the first one decides, and
  on the value that it gives.
-/
theorem andThen
    {next : α → Except Fault β}
    (hResult : Decides result P)
    (hNext : ∀ a, P → result = .ok a → Decides (next a) Q) :
    Decides (result >>= next) (P ∧ Q) := by
  by_cases hHolds : P
  · rcases hResult.passes hHolds with ⟨a, hPass⟩
    have hLater : Decides (next a) Q :=
      hNext a hHolds hPass
    rw [hPass]
    exact hLater.congr (by simp [hHolds])
  · rcases hResult.rejects hHolds with ⟨fault, hReject⟩
    rw [hReject]
    exact reject fault fun hBoth => hHolds hBoth.1

/- Work on every item decides a property of all of them. -/
theorem mapM
    {f : α → Except Fault β}
    {property : α → Prop}
    {items : List α}
    (hItems :
      ∀ a ∈ items, Decides (f a) (property a)) :
    Decides (items.mapM f) (∀ a ∈ items, property a) := by
  induction items with
  | nil => exact (pass []).congr (by simp)
  | cons a rest ih =>
      have hHead : Decides (f a) (property a) :=
        hItems a (by simp)
      have hTail :
          Decides (rest.mapM f)
            (∀ b ∈ rest, property b) := by
        apply ih
        intro b hMember
        exact hItems b (by simp [hMember])
      rw [List.mapM_cons]
      refine
        (hHead.andThen fun first _ _ =>
          hTail.andThen fun others _ _ =>
            pass (first :: others)).congr ?_
      simp

/- Checking every item decides a property of all of them. -/
theorem forM
    {f : α → Except Fault Unit}
    {property : α → Prop}
    {items : List α}
    (hItems :
      ∀ a ∈ items, Decides (f a) (property a)) :
    Decides (items.forM f) (∀ a ∈ items, property a) := by
  induction items with
  | nil => exact (pass ()).congr (by simp)
  | cons a rest ih =>
      have hHead : Decides (f a) (property a) :=
        hItems a (by simp)
      have hTail :
          Decides (rest.forM f)
            (∀ b ∈ rest, property b) := by
        apply ih
        intro b hMember
        exact hItems b (by simp [hMember])
      refine
        (hHead.andThen fun _ _ _ => hTail).congr ?_
      simp

end Decides

------------------------------------------------------------
-- Needs
------------------------------------------------------------

/-
  Work that needs something that may be null.  It gives a
  value only if it has what it needs, and a use of null ends
  it only if it has not.  Otherwise it may end with a dispatch
  fault.
-/
structure Needs
    (result : Except Fault α)
    (property : Prop) : Prop where
  given : ∀ a, result = .ok a → property
  faults :
    ∀ fault, result = .error fault →
      (∃ reason, fault = .dispatch reason) ∨
        ¬ property ∧ ∃ use, fault = .null use

namespace Needs

variable {result : Except Fault α}
variable {P Q : Prop}

/- Work that has what it needs can only miss a dispatch. -/
theorem returns_or_dispatch
    (hResult : Needs result P)
    (hHolds : P) :
    (∃ a, result = .ok a) ∨
      ∃ reason, result = .error (.dispatch reason) := by
  cases hValue : result with
  | ok a => exact .inl ⟨a, rfl⟩
  | error fault =>
      rcases hResult.faults fault hValue with
        hDispatch | hNull
      · rcases hDispatch with ⟨reason, hReason⟩
        exact .inr ⟨reason, by rw [hReason]⟩
      · exact absurd hHolds hNull.1

/- What is needed may be said in other words. -/
theorem congr
    (hResult : Needs result P)
    (hSame : P ↔ Q) :
    Needs result Q := by
  rw [← hSame]
  exact hResult

/- A value needs nothing more. -/
theorem pass
    (a : α)
    (hHolds : P) :
    Needs (.ok a) P :=
  ⟨fun _ _ => hHolds, nofun⟩

/- A dispatch fault comes before anything that is needed. -/
theorem dispatch
    (reason : DispatchFault)
    (P : Prop) :
    Needs (.error (.dispatch reason) : Except Fault α) P := by
  constructor
  · exact nofun
  · intro fault hFault
    exact .inl ⟨reason, (Except.error.inj hFault).symm⟩

/- A value that may be null is needed to be there. -/
theorem needed
    (use : NullUse)
    (value : Option α) :
    Needs (ElementBindings.needed use value)
      value.isSome := by
  cases value with
  | some a => exact pass a rfl
  | none =>
      constructor
      · exact nofun
      · intro fault hFault
        exact
          .inr ⟨by simp, use, (Except.error.inj hFault).symm⟩

/- Work with the same faults needs the same. -/
theorem of_fault?_eq
    {other : Except Fault β}
    (hOther : Needs other P)
    (hSame : fault? result = fault? other) :
    Needs result P := by
  constructor
  · intro a hValue
    rw [hValue, fault?_ok, eq_comm, fault?_eq_none_iff]
      at hSame
    rcases hSame with ⟨b, hValue⟩
    exact hOther.given b hValue
  · intro fault hFault
    rw [hFault, fault?_error, eq_comm, fault?_eq_some_iff]
      at hSame
    exact hOther.faults fault hSame

/- Work without fault needs nothing more. -/
theorem of_fault?_eq_none
    (hNone : fault? result = none)
    (hHolds : P) :
    Needs result P :=
  (pass () hHolds).of_fault?_eq hNone

/- Nor does what is done with a value. -/
theorem map
    (g : α → β)
    (hResult : Needs result P) :
    Needs (result.map g) P :=
  hResult.of_fault?_eq (fault?_map g result)

/-
  Work in a row needs what its parts need.  The second part
  may rely on the value that the first one gives.
-/
theorem andThen
    {next : α → Except Fault β}
    (hResult : Needs result P)
    (hNext : ∀ a, result = .ok a → Needs (next a) Q) :
    Needs (result >>= next) (P ∧ Q) := by
  cases hValue : result with
  | ok a =>
      have hLater : Needs (next a) Q := hNext a hValue
      have hFirst : P := hResult.given a hValue
      exact hLater.congr (by simp [hFirst])
  | error fault =>
      constructor
      · exact nofun
      · intro other hOther
        rw [← Except.error.inj hOther]
        rcases hResult.faults fault hValue with
          hDispatch | hNull
        · exact .inl hDispatch
        · exact .inr ⟨fun hBoth => hNull.1 hBoth.1, hNull.2⟩

/- A branch needs what it needs where it is taken. -/
theorem whenSo
    {condition : Prop}
    [Decidable condition]
    {other : α}
    (hResult : condition → Needs result P) :
    Needs (if condition then result else .ok other)
      (condition → P) := by
  by_cases hTaken : condition
  · rw [if_pos hTaken]
    exact (hResult hTaken).congr (by simp [hTaken])
  · rw [if_neg hTaken]
    exact pass other fun hNot => absurd hNot hTaken

/- Work on every item needs what each of them needs. -/
theorem mapM
    {f : α → Except Fault β}
    {property : α → Prop}
    {items : List α}
    (hItems : ∀ a ∈ items, Needs (f a) (property a)) :
    Needs (items.mapM f) (∀ a ∈ items, property a) := by
  induction items with
  | nil => exact pass [] (by simp)
  | cons a rest ih =>
      have hHead : Needs (f a) (property a) :=
        hItems a (by simp)
      have hTail :
          Needs (rest.mapM f) (∀ b ∈ rest, property b) := by
        apply ih
        intro b hMember
        exact hItems b (by simp [hMember])
      rw [List.mapM_cons]
      refine
        (hHead.andThen fun first _ =>
          hTail.andThen fun others _ =>
            pass (first :: others) trivial).congr ?_
      simp

end Needs

end ElementBindings
