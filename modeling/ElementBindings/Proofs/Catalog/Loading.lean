import ElementBindings.Proofs.Catalog.Validity

/-
  How loading a catalog can fail.

  Checking a decoded catalog has no faults but rejections and
  uses of null, and while a catalog is loaded both make it a
  rejected one.  Decoding has one fault that does not: an
  infinite number in the place of an integer.  Such a number
  can only be the children count of an element or the number
  of an enumeration value, and a text that holds one there is
  never loaded.

  Key definitions include:
    * `Fault.IsRejection`, `Confined`
    * `Decode.AtField`, `Decode.AtItem`
    * `Decode.Overflows`, `Decode.OverflowsAt`
    * `Catalog.HoldsInfinity`

  Key theorems include:
    * `Catalog.confined_validate`
    * `Catalog.overflowsAt_ofJson`
    * `Catalog.load_of_parse`
    * `Catalog.load_rejects_or_overflows`
-/

namespace ElementBindings

------------------------------------------------------------
-- Faults of Checking
------------------------------------------------------------

/- A fault that rejects a catalog while it is loaded. -/
inductive Fault.IsRejection : Fault → Prop
  | catalog
      (fault : CatalogFault) :
      IsRejection (.catalog fault)
  | null
      (use : NullUse) :
      IsRejection (.null use)

/- Work whose only faults reject a catalog. -/
def Confined
    {α : Type}
    (result : Except Fault α) : Prop :=
  ∀ fault, result = .error fault → fault.IsRejection

namespace Confined

variable {α β : Type}
variable {result : Except Fault α}

/- A value is no fault. -/
theorem pass
    (a : α) :
    Confined (.ok a : Except Fault α) := by
  intro fault hFault
  simp at hFault

/- A rejection is one. -/
theorem reject
    {fault : Fault}
    (hFault : fault.IsRejection) :
    Confined (.error fault : Except Fault α) := by
  intro other hOther
  rw [← Except.error.inj hOther]
  exact hFault

/- A value that is needed may turn out to be null. -/
theorem needed
    (use : NullUse)
    (value : Option α) :
    Confined (needed use value) := by
  cases value with
  | none => exact reject (.null use)
  | some a => exact pass a

/- Work in a row is confined if its parts are. -/
theorem andThen
    {next : α → Except Fault β}
    (hFirst : Confined result)
    (hNext : ∀ a, Confined (next a)) :
    Confined (result >>= next) := by
  cases result with
  | error fault => exact reject (hFirst fault rfl)
  | ok a => exact hNext a

/- What is done with a value adds no fault. -/
theorem map
    (g : α → β)
    (hResult : Confined result) :
    Confined (result.map g) := by
  cases result with
  | error fault => exact reject (hResult fault rfl)
  | ok a => exact pass (g a)

/- Work on a list is confined if that on its items is. -/
theorem mapM
    {f : α → Except Fault β}
    {items : List α}
    (hItems : ∀ a ∈ items, Confined (f a)) :
    Confined (items.mapM f) := by
  intro fault hFault
  rw [← fault?_eq_some_iff, fault?_mapM,
    List.findSome?_eq_some_iff] at hFault
  rcases hFault with ⟨before, a, after, hList, hHere, _⟩
  exact
    hItems a (by simp [hList]) fault
      (fault?_eq_some_iff.mp hHere)

/- So is checking every item. -/
theorem forM
    {f : α → Except Fault Unit}
    {items : List α}
    (hItems : ∀ a ∈ items, Confined (f a)) :
    Confined (items.forM f) := by
  induction items with
  | nil => exact pass ()
  | cons a rest ih =>
      rw [List.forall_mem_cons] at hItems
      exact hItems.1.andThen fun _ => ih hItems.2

end Confined

/- Checking an attribute is confined. -/
theorem Attribute.confined_validate
    (owner : Option String)
    (a : Option Attribute) :
    Confined (Attribute.validate owner a) := by
  unfold Attribute.validate
  refine (Confined.needed _ a).andThen fun a => ?_
  simp only
  split
  · exact .reject (.catalog _)
  · split
    · exact .reject (.catalog _)
    · split
      · exact .reject (.catalog _)
      · exact .pass ()

/- So is checking all attributes. -/
theorem Attribute.confined_validateAll
    (owner : Option String)
    (attributes : Option (List (Option Attribute))) :
    Confined (Attribute.validateAll owner attributes) := by
  unfold Attribute.validateAll
  exact
    (Confined.needed _ attributes).andThen fun _ =>
      Confined.forM fun a _ => confined_validate owner a

/- So is checking names of groups. -/
theorem AttributeGroup.confined_checkNames
    (groups : List AttributeGroup) :
    Confined (AttributeGroup.checkNames groups) := by
  unfold AttributeGroup.checkNames
  split
  · exact .pass ()
  · exact .reject (.catalog _)

/- So is checking names of elements. -/
theorem Element.confined_checkNames
    (seen : List (Option String))
    (elements : List (Option Element)) :
    Confined (Element.checkNames seen elements) := by
  induction elements generalizing seen with
  | nil => exact .pass []
  | cons item rest ih =>
      cases item with
      | none => exact .reject (.null _)
      | some element =>
          rw [Element.checkNames_cons]
          split
          · exact .reject (.catalog _)
          · exact (ih (element.name :: seen)).map _

/- So is checking bases. -/
theorem AttributeGroup.confined_checkBases
    (groups : List AttributeGroup)
    (fault : String → CatalogFault)
    (bases : Option (List String)) :
    Confined (AttributeGroup.checkBases groups fault bases) := by
  unfold AttributeGroup.checkBases
  refine (Confined.needed _ bases).andThen fun names => ?_
  refine Confined.forM fun base _ => ?_
  split
  · exact .pass ()
  · exact .reject (.catalog _)

/- A cycle through a group without name is a use of null. -/
theorem isRejection_cycleFault
    (path : List (Option String)) :
    (cycleFault path).IsRejection := by
  unfold cycleFault
  split
  · exact .null _
  · exact .catalog _

/- Walking the bases is confined, at every depth. -/
theorem AttributeGroup.confined_inherited
    (groups : List AttributeGroup)
    (depth : Nat)
    (path : List (Option String))
    (bases : List String) :
    Confined
      (AttributeGroup.inherited groups depth path bases) := by
  induction depth generalizing path bases with
  | zero => exact .reject (isRejection_cycleFault path)
  | succ depth ih =>
      unfold AttributeGroup.inherited
      refine
        (Confined.mapM fun base _ => ?_).andThen fun _ =>
          .pass _
      split
      · exact .reject (isRejection_cycleFault _)
      · split
        · exact .reject (.catalog _)
        · exact
            (Confined.needed _ _).andThen fun _ =>
              (Confined.needed _ _).andThen fun _ =>
                (ih _ _).andThen fun _ => .pass _

/- The groups may be null, and so may each of them. -/
theorem Catalog.confined_namedGroups
    (catalog : Catalog) :
    Confined catalog.namedGroups :=
  (Confined.needed _ catalog.groups).andThen fun _ =>
    Confined.mapM fun group _ => Confined.needed _ group

/- What an element inherits is found with confined work. -/
theorem Catalog.confined_parentAttributes
    (catalog : Catalog)
    (element : Element) :
    Confined (catalog.parentAttributes element) :=
  catalog.confined_namedGroups.andThen fun groups =>
    (Confined.needed _ element.bases).andThen fun bases =>
      AttributeGroup.confined_inherited groups _ [] bases

/- Checking a catalog is confined, whatever is null in it. -/
theorem Catalog.confined_validate
    (catalog : Catalog) :
    Confined catalog.validate := by
  have hGroup :
      ∀ groups group,
        Confined (AttributeGroup.validate groups group) := by
    intro groups group
    exact
      (Attribute.confined_validateAll _ _).andThen fun _ =>
        AttributeGroup.confined_checkBases groups _ _
  have hElement :
      ∀ groups element,
        Confined (Element.validate groups element) := by
    intro groups element
    exact
      (Attribute.confined_validateAll _ _).andThen fun _ =>
        AttributeGroup.confined_checkBases groups _ _
  have hAcyclic :
      ∀ groups group,
        Confined
          (AttributeGroup.checkAcyclic groups group) := by
    intro groups group
    exact
      (Confined.needed _ _).andThen fun _ =>
        (AttributeGroup.confined_inherited groups _ _ _).map _
  unfold Catalog.validate
  exact
    catalog.confined_namedGroups.andThen fun groups =>
      (AttributeGroup.confined_checkNames groups).andThen
        fun _ =>
          (Confined.needed _ catalog.elements).andThen
            fun items =>
              (Element.confined_checkNames [] items).andThen
                fun _ =>
                  (Confined.forM fun g _ =>
                    hGroup groups g).andThen fun _ =>
                    (Confined.forM fun e _ =>
                      hElement groups e).andThen fun _ =>
                      (Confined.forM fun g _ =>
                        hAcyclic groups g).andThen fun _ =>
                        Confined.forM fun e _ =>
                          (catalog.confined_parentAttributes
                            e).map _

------------------------------------------------------------
-- Infinite Numbers
------------------------------------------------------------

namespace Decode

variable {α β : Type}
variable {P Q : Prop}
variable {Place : Json → Prop}

/- An infinite number. -/
def IsInfinite
    (v : Json) : Prop :=
  ∃ negative, v = .number (.infinity negative)

/- A record has a field with a value of some kind. -/
def HasField
    (record : List (String × Json))
    (name : String)
    (Place : Json → Prop) : Prop :=
  ∃ v, record.lookup name = some v ∧ Place v

/- A value is an object that has such a field. -/
def AtField
    (name : String)
    (Place : Json → Prop)
    (v : Json) : Prop :=
  ∃ record, fields v = .ok record ∧ HasField record name Place

/- A value has an item of some kind. -/
def AtItem
    (Place : Json → Prop)
    (v : Json) : Prop :=
  ∃ list, items v = .ok list ∧ ∃ item ∈ list, Place item

/- One of two fields is a field of one object. -/
theorem atField_or
    {first second : String}
    {Place Other : Json → Prop}
    {v : Json} :
    (∃ record, fields v = .ok record ∧
        (HasField record first Place ∨
          HasField record second Other)) ↔
      AtField first Place v ∨ AtField second Other v := by
  simp [AtField, and_or_left, exists_or]

@[simp] theorem hasField_false
    (record : List (String × Json))
    (name : String) :
    ¬ HasField record name (fun _ => False) := by
  simp [HasField]

@[simp] theorem atItem_false
    (v : Json) :
    ¬ AtItem (fun _ => False) v := by
  simp [AtItem]

/-
  Work that fails where a property holds, and meets an
  infinite number nowhere else.
-/
structure Overflows
    (result : Result α)
    (property : Prop) : Prop where
  only : result = .error .infinite → property
  fails : property → ∀ a, result ≠ .ok a

namespace Overflows

variable {result : Result α}

/- What is said of a failure may be said in other words. -/
theorem congr
    (hResult : Overflows result P)
    (hSame : P ↔ Q) :
    Overflows result Q :=
  ⟨fun hInfinite => hSame.mp (hResult.only hInfinite),
    fun hHolds => hResult.fails (hSame.mpr hHolds)⟩

/- Work that has no such fault meets no infinite number. -/
theorem never
    (hResult : result ≠ .error .infinite) :
    Overflows result False :=
  ⟨hResult, False.elim⟩

/- A value is no fault. -/
theorem pass
    (a : α) :
    Overflows (.ok a : Result α) False :=
  never (by simp)

/- Work in a row overflows if one of its parts does. -/
theorem andThen
    {next : α → Result β}
    (hFirst : Overflows result P)
    (hNext : ∀ a, Overflows (next a) Q) :
    Overflows (result >>= next) (P ∨ Q) := by
  cases result with
  | error fault =>
      refine ⟨?_, fun _ _ => nofun⟩
      intro hInfinite
      have hFault : fault = .infinite :=
        Except.error.inj hInfinite
      exact .inl (hFirst.only (by rw [hFault]))
  | ok a =>
      refine ⟨?_, ?_⟩
      · intro hInfinite
        exact .inr ((hNext a).only hInfinite)
      · intro hEither
        rcases hEither with hHere | hThere
        · exact absurd rfl (hFirst.fails hHere a)
        · exact (hNext a).fails hThere

/- Work on a value that is found overflows with the value. -/
theorem within
    {next : α → Result β}
    {P : α → Prop}
    (hFirst : result ≠ .error .infinite)
    (hNext : ∀ a, Overflows (next a) (P a)) :
    Overflows (result >>= next) (∃ a, result = .ok a ∧ P a) := by
  cases result with
  | error fault =>
      refine (never ?_).congr (by simp)
      intro hInfinite
      have hFault : fault = .infinite :=
        Except.error.inj hInfinite
      exact hFirst (by rw [hFault])
  | ok a => exact (hNext a).congr (by simp)

/- Work on a list overflows if that on one of its items does. -/
theorem mapM
    {f : α → Result β}
    {items : List α}
    {P : α → Prop}
    (hItems : ∀ a, Overflows (f a) (P a)) :
    Overflows (items.mapM f) (∃ a ∈ items, P a) := by
  induction items with
  | nil => exact (pass []).congr (by simp)
  | cons a rest ih =>
      rw [List.mapM_cons]
      exact
        ((hItems a).andThen fun _ =>
          ih.andThen fun _ => pass _).congr (by simp)

end Overflows

/-
  A decoder that meets an infinite number only in values of
  some kind, decodes none of them, and is not one for null.
-/
structure OverflowsAt
    (decode : Json → Result α)
    (Place : Json → Prop) : Prop where
  each : ∀ v, Overflows (decode v) (Place v)
  notNull : ¬ Place .null

namespace OverflowsAt

variable {decode : Json → Result α}

/- A decoder may be one that never meets such a number. -/
theorem never
    (hDecode : ∀ v, decode v ≠ .error .infinite) :
    OverflowsAt decode fun _ => False :=
  ⟨fun v => .never (hDecode v), id⟩

/- Null may be allowed. -/
theorem nullable
    (hDecode : OverflowsAt decode Place) :
    OverflowsAt (nullable decode) Place := by
  refine ⟨?_, hDecode.notNull⟩
  intro v
  unfold Decode.nullable
  split
  · exact
      (Overflows.pass none).congr
        (iff_of_false id hDecode.notNull)
  · exact
      ((hDecode.each v).andThen fun a =>
        .pass (some a)).congr (by rw [or_false])

/- A field that is required overflows with its value. -/
theorem required
    (hDecode : OverflowsAt decode Place)
    (record : List (String × Json))
    (name : String) :
    Overflows (required record name decode)
      (HasField record name Place) := by
  unfold Decode.required HasField
  cases record.lookup name with
  | none =>
      exact (Overflows.never (by simp)).congr (by simp)
  | some v =>
      exact (hDecode.nullable.each v).congr (by simp)

/- So does one that may be left out. -/
theorem withDefault
    (hDecode : OverflowsAt decode Place)
    (record : List (String × Json))
    (name : String)
    (default : Option α) :
    Overflows (withDefault record name default decode)
      (HasField record name Place) := by
  unfold Decode.withDefault HasField
  cases record.lookup name with
  | none => exact (Overflows.pass default).congr (by simp)
  | some v =>
      exact (hDecode.nullable.each v).congr (by simp)

/- A required field that never does leaves it to the others. -/
theorem skipRequired
    {next : Option α → Result β}
    (hDecode : OverflowsAt decode fun _ => False)
    (record : List (String × Json))
    (name : String)
    (hNext : ∀ value, Overflows (next value) P) :
    Overflows (Decode.required record name decode >>= next) P :=
  ((hDecode.required record name).andThen hNext).congr
    (by simp)

/- So does one that may be left out. -/
theorem skipDefault
    {next : Option α → Result β}
    (hDecode : OverflowsAt decode fun _ => False)
    (record : List (String × Json))
    (name : String)
    (default : Option α)
    (hNext : ∀ value, Overflows (next value) P) :
    Overflows
      (Decode.withDefault record name default decode >>= next)
      P :=
  ((hDecode.withDefault record name default).andThen
    hNext).congr (by simp)

/- A list overflows with one of its items. -/
theorem list
    (hDecode : OverflowsAt decode Place) :
    OverflowsAt (asList decode) (AtItem Place) := by
  constructor
  · intro v
    have hItems : items v ≠ .error .infinite := by
      cases v <;> simp [items]
    exact
      Overflows.within hItems fun _ =>
        Overflows.mapM hDecode.each
  · simp [AtItem, items]

/- A record overflows with one of its fields. -/
theorem record
    {body : List (String × Json) → Result α}
    {Fields : List (String × Json) → Prop}
    (hBody :
      ∀ record, Overflows (body record) (Fields record)) :
    OverflowsAt (fun v => fields v >>= body) fun v =>
      ∃ record, fields v = .ok record ∧ Fields record := by
  constructor
  · intro v
    have hFields : fields v ≠ .error .infinite := by
      cases v <;> simp [fields]
    exact Overflows.within hFields hBody
  · simp [fields]

/- A kind of values may be said in other words. -/
theorem congr
    {Other : Json → Prop}
    (hDecode : OverflowsAt decode Place)
    (hSame : ∀ v, Place v ↔ Other v) :
    OverflowsAt decode Other :=
  ⟨fun v => (hDecode.each v).congr (hSame v),
    fun hNull => hDecode.notNull ((hSame .null).mpr hNull)⟩

/- A record without such a field never does. -/
theorem record_never
    {body : List (String × Json) → Result α}
    (hBody : ∀ record, Overflows (body record) False) :
    OverflowsAt (fun v => fields v >>= body) fun _ => False :=
  ⟨fun v => ((record hBody).each v).congr (by simp), id⟩

end OverflowsAt

/- An integer is not decoded from an infinite number alone. -/
theorem asWhole_eq_infinite_iff
    {v : Json} :
    asWhole v = .error .infinite ↔ IsInfinite v := by
  unfold IsInfinite
  cases v with
  | number n => cases n <;> simp [asWhole]
  | text s =>
      cases hRead : Integer.read s.toList with
      | ok n => simp [asWhole, hRead]
      | error fault =>
          cases fault <;>
            simp [asWhole, hRead, DecodeFault.ofInteger]
  | _ => simp [asWhole]

theorem overflowsAt_asWhole :
    OverflowsAt asWhole IsInfinite := by
  constructor
  · intro v
    refine ⟨asWhole_eq_infinite_iff.mp, ?_⟩
    intro hInfinite a hDecoded
    rw [asWhole_eq_infinite_iff.mpr hInfinite] at hDecoded
    simp at hDecoded
  · simp [IsInfinite]

/- No other scalar meets one. -/
theorem overflowsAt_asText :
    OverflowsAt asText fun _ => False :=
  .never nofun

theorem overflowsAt_asFlag :
    OverflowsAt asFlag fun _ => False :=
  .never nofun

theorem overflowsAt_member
    {enumeration : String}
    {all : List α}
    {name : α → String} :
    OverflowsAt (member enumeration all name)
      fun _ => False := by
  apply OverflowsAt.never
  intro v
  unfold member
  simp only
  split <;> simp

/- Neither does a list of names. -/
theorem overflowsAt_names :
    OverflowsAt (asList asText) fun _ => False :=
  overflowsAt_asText.list.congr (by simp)

end Decode

------------------------------------------------------------
-- Records With Infinite Numbers
------------------------------------------------------------

open Decode

/- An enumeration value has an infinite number. -/
abbrev EnumValue.HoldsInfinity : Json → Prop :=
  AtField "int_value" IsInfinite

/- An attribute lists such a value. -/
abbrev Attribute.HoldsInfinity : Json → Prop :=
  AtField "enum_values" (AtItem EnumValue.HoldsInfinity)

/- A group has such an attribute. -/
abbrev AttributeGroup.HoldsInfinity : Json → Prop :=
  AtField "attributes" (AtItem Attribute.HoldsInfinity)

/- An element has one, or an infinite number of children. -/
def Element.HoldsInfinity
    (v : Json) : Prop :=
  AtField "attributes" (AtItem Attribute.HoldsInfinity) v ∨
    AtField "children_count" IsInfinite v

/- A catalog has such a group or such an element. -/
def Catalog.HoldsInfinity
    (v : Json) : Prop :=
  AtField "groups" (AtItem AttributeGroup.HoldsInfinity) v ∨
    AtField "classes" (AtItem Element.HoldsInfinity) v

/- An enumeration value overflows with its number. -/
theorem EnumValue.overflowsAt_ofJson :
    OverflowsAt EnumValue.ofJson EnumValue.HoldsInfinity := by
  refine OverflowsAt.record fun record => ?_
  refine overflowsAt_asText.skipRequired _ _ fun _ => ?_
  refine overflowsAt_asText.skipRequired _ _ fun _ => ?_
  exact
    ((overflowsAt_asWhole.withDefault _ _ _).andThen fun _ =>
      .pass _).congr (by rw [or_false])

/- The target of a handle never does. -/
theorem HandleTarget.overflowsAt_ofJson :
    OverflowsAt HandleTarget.ofJson fun _ => False := by
  refine OverflowsAt.record_never fun record => ?_
  refine overflowsAt_asText.skipDefault _ _ _ fun _ => ?_
  refine overflowsAt_member.skipDefault _ _ _ fun _ => ?_
  exact .pass _

/- An attribute overflows with one of the values it lists. -/
theorem Attribute.overflowsAt_ofJson :
    OverflowsAt Attribute.ofJson Attribute.HoldsInfinity := by
  have hValues := (EnumValue.overflowsAt_ofJson).nullable.list
  refine OverflowsAt.record fun record => ?_
  refine overflowsAt_asText.skipRequired _ _ fun _ => ?_
  refine overflowsAt_asText.skipRequired _ _ fun _ => ?_
  refine overflowsAt_member.skipRequired _ _ fun _ => ?_
  refine overflowsAt_member.skipDefault _ _ _ fun _ => ?_
  refine overflowsAt_member.skipDefault _ _ _ fun _ => ?_
  refine overflowsAt_asFlag.skipDefault _ _ _ fun _ => ?_
  refine overflowsAt_asFlag.skipDefault _ _ _ fun _ => ?_
  refine overflowsAt_asFlag.skipDefault _ _ _ fun _ => ?_
  refine overflowsAt_asFlag.skipDefault _ _ _ fun _ => ?_
  refine
    ((hValues.withDefault _ _ _).andThen (Q := False)
      fun _ => ?_).congr (by rw [or_false])
  refine
    (HandleTarget.overflowsAt_ofJson).skipDefault _ _ _
      fun _ => ?_
  refine overflowsAt_asText.skipDefault _ _ _ fun _ => ?_
  exact .pass _

/- A callback never does. -/
theorem Callback.overflowsAt_ofJson :
    OverflowsAt Callback.ofJson fun _ => False := by
  have hArguments :
      OverflowsAt (asList (nullable asDataType))
        fun _ => False :=
    overflowsAt_member.nullable.list.congr (by simp)
  refine OverflowsAt.record_never fun record => ?_
  refine overflowsAt_asText.skipRequired _ _ fun _ => ?_
  refine overflowsAt_asText.skipRequired _ _ fun _ => ?_
  refine hArguments.skipDefault _ _ _ fun _ => ?_
  refine overflowsAt_member.skipDefault _ _ _ fun _ => ?_
  refine overflowsAt_asText.skipDefault _ _ _ fun _ => ?_
  exact .pass _

/- A group overflows with one of its attributes. -/
theorem AttributeGroup.overflowsAt_ofJson :
    OverflowsAt AttributeGroup.ofJson
      AttributeGroup.HoldsInfinity := by
  have hAttributes := (Attribute.overflowsAt_ofJson).nullable.list
  refine OverflowsAt.record fun record => ?_
  refine overflowsAt_asText.skipRequired _ _ fun _ => ?_
  refine
    ((hAttributes.withDefault _ _ _).andThen (Q := False)
      fun _ => ?_).congr (by rw [or_false])
  refine overflowsAt_names.skipDefault _ _ _ fun _ => ?_
  exact .pass _

/- An element does so, or with its number of children. -/
theorem Element.overflowsAt_ofJson :
    OverflowsAt Element.ofJson Element.HoldsInfinity := by
  have hAttributes := (Attribute.overflowsAt_ofJson).nullable.list
  have hCallbacks :
      OverflowsAt (asList (nullable Callback.ofJson))
        fun _ => False :=
    (Callback.overflowsAt_ofJson).nullable.list.congr (by simp)
  refine
    (OverflowsAt.record fun record => ?_).congr fun v =>
      atField_or
  refine overflowsAt_asText.skipRequired _ _ fun _ => ?_
  refine overflowsAt_asText.skipRequired _ _ fun _ => ?_
  refine overflowsAt_member.skipRequired _ _ fun _ => ?_
  refine (hAttributes.withDefault _ _ _).andThen fun _ => ?_
  refine hCallbacks.skipDefault _ _ _ fun _ => ?_
  refine
    ((overflowsAt_asWhole.withDefault _ _ _).andThen (Q := False)
      fun _ => ?_).congr (by rw [or_false])
  refine overflowsAt_names.skipDefault _ _ _ fun _ => ?_
  refine overflowsAt_asText.skipDefault _ _ _ fun _ => ?_
  exact .pass _

/- And a catalog with one of its groups or elements. -/
theorem Catalog.overflowsAt_ofJson :
    OverflowsAt Catalog.ofJson Catalog.HoldsInfinity := by
  have hGroups := (AttributeGroup.overflowsAt_ofJson).nullable.list
  have hElements := (Element.overflowsAt_ofJson).nullable.list
  refine
    (OverflowsAt.record fun record => ?_).congr fun v =>
      atField_or
  refine (hGroups.withDefault _ _ _).andThen fun _ => ?_
  exact
    ((hElements.withDefault _ _ _).andThen fun _ =>
      .pass _).congr (by rw [or_false])

------------------------------------------------------------
-- Loading
------------------------------------------------------------

/- Loading makes a rejection of any fault of checking. -/
theorem Fault.IsRejection.rejects
    {α : Type}
    {fault : Fault}
    (hFault : fault.IsRejection) :
    Rejects
      (.error fault.whileLoading : Except Fault α) := by
  cases hFault with
  | catalog reason => exact ⟨reason, rfl⟩
  | null use => exact ⟨.malformed (.null use), rfl⟩

/- And of any fault of decoding, but for infinite numbers. -/
theorem DecodeFault.rejects
    {α : Type}
    {fault : DecodeFault}
    (hOther : fault ≠ .infinite) :
    Rejects
      (.error (Fault.whileLoading (.decode fault)) :
        Except Fault α) := by
  refine ⟨.malformed (.decode fault), ?_⟩
  cases fault with
  | infinite => exact absurd rfl hOther
  | _ => rfl

namespace Catalog

variable {text : String}

/- What is read is decoded. -/
theorem parse_of_read
    {v : Json}
    (hRead : Json.read text = .ok v) :
    Catalog.parse text = Catalog.ofJson v := by
  unfold Catalog.parse Decode.parse
  rw [hRead]

/- Decoding meets an infinite number only in what is read. -/
theorem exists_read_of_overflow
    (hParse : Catalog.parse text = .error .infinite) :
    ∃ v,
      Json.read text = .ok v ∧
        Catalog.ofJson v = .error .infinite := by
  cases hRead : Json.read text with
  | error fault =>
      unfold Catalog.parse Decode.parse at hParse
      simp [hRead] at hParse
  | ok v =>
      rw [parse_of_read hRead] at hParse
      exact ⟨v, rfl, hParse⟩

/- A fault that ends decoding ends loading, too. -/
theorem load_of_fault
    {fault : DecodeFault}
    (hParse : Catalog.parse text = .error fault) :
    Catalog.load text =
      .error (Fault.whileLoading (.decode fault)) := by
  unfold Catalog.load
  rw [hParse]
  rfl

/- An infinite number ends loading as it ends decoding. -/
theorem load_of_overflow
    (hParse : Catalog.parse text = .error .infinite) :
    Catalog.load text = .error (.decode .infinite) :=
  load_of_fault hParse

/- Otherwise a catalog is loaded or rejected. -/
theorem load_of_parse
    (hParse : Catalog.parse text ≠ .error .infinite) :
    ReturnsOrRejects (Catalog.load text) := by
  cases hDecoded : Catalog.parse text with
  | error fault =>
      have hOther : fault ≠ .infinite := by
        intro hInfinite
        exact hParse (by rw [hDecoded, hInfinite])
      rw [load_of_fault hDecoded]
      exact .inr (DecodeFault.rejects hOther)
  | ok catalog =>
      unfold Catalog.load
      rw [hDecoded]
      cases hCheck : catalog.validate with
      | ok _ =>
          left
          exact ⟨catalog, by simp [Except.mapError, hCheck]⟩
      | error fault =>
          right
          have hRejects :=
            (catalog.confined_validate fault hCheck).rejects
              (α := Catalog)
          simpa [Except.mapError, hCheck] using hRejects

/-
  Every text is loaded or rejected, unless decoding ends at an
  infinite number in the place of an integer; only that fault
  is passed on as it is.  The number is the one of a value
  that an attribute lists, or the children count of an
  element, and a text with such a number is never loaded.
-/
theorem load_rejects_or_overflows
    (text : String) :
    (ReturnsOrRejects (Catalog.load text) ↔
        Catalog.parse text ≠ .error .infinite) ∧
      (Catalog.load text = .error (.decode .infinite) ↔
        Catalog.parse text = .error .infinite) ∧
      (Catalog.parse text = .error .infinite →
        ∃ v, Json.read text = .ok v ∧ HoldsInfinity v) ∧
      ∀ v, Json.read text = .ok v → HoldsInfinity v →
        ∀ catalog, Catalog.load text ≠ .ok catalog := by
  refine ⟨⟨?_, load_of_parse⟩, ⟨?_, load_of_overflow⟩, ?_, ?_⟩
  · intro hEither hParse
    rw [load_of_overflow hParse] at hEither
    rcases hEither with ⟨_, hLoad⟩ | ⟨_, hReject⟩
    · simp at hLoad
    · simp at hReject
  · intro hLoad
    by_contra hParse
    rcases load_of_parse hParse with ⟨_, hDone⟩ | ⟨_, hReject⟩
    · simp [hDone] at hLoad
    · simp [hReject] at hLoad
  · intro hParse
    rcases exists_read_of_overflow hParse with
      ⟨v, hRead, hDecode⟩
    exact
      ⟨v, hRead,
        ((Catalog.overflowsAt_ofJson).each v).only hDecode⟩
  · intro v hRead hInfinity catalog hLoad
    have hDecoded : Catalog.parse text = .ok catalog := by
      rcases Catalog.load_eq_ok_iff.mp hLoad with
        ⟨other, hOther, hDecode, _⟩
      exact Catalog.parse_eq_ok_iff.mpr ⟨other, hOther, hDecode⟩
    rw [parse_of_read hRead] at hDecoded
    exact
      ((Catalog.overflowsAt_ofJson).each v).fails hInfinity
        catalog hDecoded

end Catalog

/- The text of an element with a number of children. -/
def boxText
    (childrenCount : String) : String :=
  elementsText
    [elementText "Box" [fieldText "children_count" childrenCount]]

/- The value that the text of an element is read as. -/
def boxValue
    (childrenCount : Json) : Json :=
  .object
    [ ("classes",
        .array
          [ .object
              [ ("name", .text "Box"),
                ("class_name", .text "box"),
                ("native_type", .text "Void"),
                ("children_count", childrenCount) ] ]) ]

/- A number that is too large is read as an infinite one. -/
theorem boundlessText_reads :
    Json.read (boxText "1e999") =
      .ok (boxValue (.number (.infinity false))) := by
  have hRead :
      Json.readChars (boxText "1e999").toList =
        .ok (boxValue (.number (.infinity false))) := by
    simp only [boxText, elementsText, elementText, recordText,
      listText, fieldText, quotedText, Text.joinWith,
      String.toList_append, String.reduceToList,
      List.cons_append, List.nil_append]
    rfl
  exact mapError_eq_ok_iff.mpr hRead

/- It is decoded to nothing. -/
theorem boundlessText_overflows :
    Catalog.parse (boxText "1e999") = .error .infinite := by
  rw [Catalog.parse_of_read boundlessText_reads]
  rfl

/- It holds an infinite number, and is not loaded. -/
theorem boundless_is_not_loaded :
    Catalog.HoldsInfinity
        (boxValue (.number (.infinity false))) ∧
      Catalog.load (boxText "1e999") =
        .error (.decode .infinite) ∧
      ∀ catalog,
        Catalog.load (boxText "1e999") ≠ .ok catalog := by
  rcases Catalog.load_rejects_or_overflows (boxText "1e999")
    with ⟨_, hOverflow, hHolds, hFails⟩
  rcases hHolds boundlessText_overflows with
    ⟨v, hRead, hInfinity⟩
  have hValue : boxValue (.number (.infinity false)) = v := by
    rw [boundlessText_reads] at hRead
    exact Except.ok.inj hRead
  rw [← hValue] at hInfinity hRead
  exact
    ⟨hInfinity, hOverflow.mpr boundlessText_overflows,
      hFails _ hRead hInfinity⟩

/- A number of children that is no number is rejected. -/
theorem countless_is_rejected :
    Rejects (Catalog.load (boxText "NaN")) := by
  have hRead :
      Json.readChars (boxText "NaN").toList =
        .ok (boxValue (.number .nan)) := by
    simp only [boxText, elementsText, elementText, recordText,
      listText, fieldText, quotedText, Text.joinWith,
      String.toList_append, String.reduceToList,
      List.cons_append, List.nil_append]
    rfl
  have hParse :
      Catalog.parse (boxText "NaN") = .error .notANumber :=
    Catalog.parse_of_read (mapError_eq_ok_iff.mpr hRead)
  rw [Catalog.load_of_fault hParse]
  exact DecodeFault.rejects (by simp)

/- An infinite one is neither accepted nor rejected. -/
theorem boundless_is_not_rejected :
    Catalog.load (boxText "1e999") =
        .error (.decode .infinite) ∧
      ¬ ReturnsOrRejects (Catalog.load (boxText "1e999")) ∧
      Rejects (Catalog.load (boxText "NaN")) := by
  have hLoad :=
    Catalog.load_of_overflow boundlessText_overflows
  refine ⟨hLoad, ?_, countless_is_rejected⟩
  rw [hLoad]
  intro hEither
  rcases hEither with ⟨_, hDone⟩ | ⟨_, hReject⟩
  · simp at hDone
  · simp at hReject

end ElementBindings
