import ElementBindings.Zig.Binding
import ElementBindings.Proofs.Accessor.Rule

/-
  Faults of the accessors of an attribute.

  For a complete attribute nothing but a missing rule can go
  wrong: once the rule is found, every table entry that it
  leads to is there.  So the fault of an accessor is the one
  of the rule, or none where flags rule the accessor out.

  Key definitions include:
    * `Attribute.formParts`

  Key theorems include:
    * `Attribute.fault?_setterForms_eq`
    * `Attribute.fault?_setters`, `Attribute.fault?_getter?`
    * `Attribute.fault?_enumType?`
    * `Attribute.fault?_initializerFunctions`
    * `Attribute.fault?_bodyFunctions`
-/

namespace ElementBindings

open Zig

namespace Attribute

variable {a : Attribute}
variable {rule : Rule}

------------------------------------------------------------
-- Parts of an Attribute
------------------------------------------------------------

/- A complete attribute is numbered. -/
theorem fault?_numbering
    (hComplete : a.Complete) :
    fault? (needed .lookUp a.numbering) = none := by
  rcases Option.isSome_iff_exists.mp hComplete.numbering with
    ⟨numbering, hNumbering⟩
  simp [hNumbering]

/- A complete attribute can be addressed. -/
theorem fault?_boundKey
    (hComplete : a.Complete) :
    fault? a.boundKey = none := by
  unfold boundKey
  exact fault?_bind_eq_none (fault?_numbering hComplete)
    fun _ _ => rfl

/- The setter of a complete attribute has a name. -/
theorem fault?_setterName
    (hComplete : a.Complete) :
    fault? a.setterName = none := by
  rcases Option.isSome_iff_exists.mp hComplete.name with
    ⟨name, hName⟩
  unfold setterName
  split
  · simp [hName]
  · rfl

/- Values of which none is null can be told apart. -/
theorem fault?_distinctValues
    (hListed : none ∉ a.enumValues.getD []) :
    fault? a.distinctValues = none := by
  unfold distinctValues
  rw [eq_map_some_of_not_mem hListed, mapM_needed_some]
  rfl

------------------------------------------------------------
-- Forms
------------------------------------------------------------

/- The values that forms under a rule tell apart. -/
def formValues
    (a : Attribute)
    (rule : Rule) : Except Fault (List EnumValue) :=
  if rule = .enumString then a.distinctValues else .ok []

/- The separator of forms under a rule. -/
def formSeparator
    (a : Attribute) :
    Rule →
    Except Fault (Option Char)
  | .linColPos | .xyPos | .range => a.separator.map some
  | _ => .ok none

/- All that forms under a rule are made of. -/
def formParts
    (a : Attribute)
    (rule : Rule) :
    Except Fault
      (List EnumValue × Option Char × Key) := do
  let values ← a.formValues rule
  let separator ← a.formSeparator rule
  let key ← a.boundKey
  return (values, separator, key)

/- The forms of setters have the fault of their parts. -/
theorem fault?_setterForms_eq
    (a : Attribute)
    (context : Context)
    (rule : Rule) :
    fault? (a.setterForms context rule) =
      fault? (a.formParts rule) := by
  unfold setterForms formParts formValues formSeparator
  cases rule with
  | linColPos | xyPos | range =>
      cases a.separator with
      | error fault => rfl
      | ok c =>
          cases a.boundKey with
          | error fault => rfl
          | ok key => rfl
  | enumString =>
      cases a.distinctValues with
      | error fault => rfl
      | ok values =>
          cases a.boundKey with
          | error fault => rfl
          | ok key => rfl
  | _ =>
      cases a.boundKey with
      | error fault => rfl
      | ok key => rfl

/- The form of a getter has the fault of its parts. -/
theorem fault?_getterForm?_eq
    (a : Attribute)
    (rule : Rule) :
    fault? (a.getterForm? rule) =
      fault? (a.formParts rule) := by
  unfold getterForm? formParts formValues formSeparator
  cases rule with
  | linColPos | xyPos | range =>
      cases a.separator with
      | error fault => rfl
      | ok c =>
          cases a.boundKey with
          | error fault => rfl
          | ok key => rfl
  | enumString =>
      cases a.distinctValues with
      | error fault => rfl
      | ok values =>
          cases a.boundKey with
          | error fault => rfl
          | ok key => rfl
  | _ =>
      cases a.boundKey with
      | error fault => rfl
      | ok key => rfl

/- Under a rule a complete attribute has all parts of forms. -/
theorem fault?_formParts
    (hComplete : a.Complete)
    (hRule : a.rule = .ok rule) :
    fault? (a.formParts rule) = none := by
  have hValues : fault? (a.formValues rule) = none := by
    unfold formValues
    split
    · exact fault?_distinctValues hComplete.none_not_mem
    · rfl
  have hSeparator : fault? (a.formSeparator rule) = none := by
    unfold formSeparator
    split
    · rw [fault?_map]
      exact fault?_separator hComplete hRule (.inl rfl)
    · rw [fault?_map]
      exact fault?_separator hComplete hRule (.inr (.inl rfl))
    · rw [fault?_map]
      exact fault?_separator hComplete hRule (.inr (.inr rfl))
    · rfl
  exact
    fault?_bind_eq_none hValues fun _ _ =>
      fault?_bind_eq_none hSeparator fun _ _ =>
        fault?_bind_eq_none (fault?_boundKey hComplete)
          fun _ _ => rfl

------------------------------------------------------------
-- Setters and Getters
------------------------------------------------------------

/- Setters have the fault of telling whether there are some. -/
theorem fault?_setters
    (hComplete : a.Complete)
    (context : Context) :
    fault? (a.setters context) =
      fault? (a.hasSetter context) := by
  unfold setters
  apply fault?_bind_eq_first
  intro written hSetter
  cases written with
  | false => rfl
  | true =>
      rcases exists_rule_of_hasSetter hSetter with
        ⟨rule, hRule⟩
      rw [if_pos rfl, hRule, ok_bind]
      apply fault?_bind_eq_none
      · rw [fault?_setterForms_eq]
        exact fault?_formParts hComplete hRule
      · intro forms _
        apply fault?_bind_eq_none
        · exact fault?_numbering hComplete
        · intro numbering _
          exact
            fault?_bind_eq_none
              (fault?_setterName hComplete)
              fun _ _ => rfl

/- A getter has the fault of telling whether there is one. -/
theorem fault?_getter?
    (hComplete : a.Complete) :
    fault? a.getter? = fault? a.hasGetter := by
  unfold getter?
  apply fault?_bind_eq_first
  intro written hGetter
  cases written with
  | false => rfl
  | true =>
      rcases exists_rule_of_hasGetter hGetter with
        ⟨rule, hRule⟩
      rw [if_pos rfl, hRule, ok_bind]
      apply fault?_bind_eq_none
      · rw [fault?_getterForm?_eq]
        exact fault?_formParts hComplete hRule
      · intro form _
        exact
          fault?_bind_eq_none
            (fault?_numbering hComplete)
            fun _ _ => rfl

------------------------------------------------------------
-- Emitters
------------------------------------------------------------

/- The type of a complete attribute can be declared. -/
theorem fault?_enumType?
    (hComplete : a.Complete) :
    fault? a.enumType? = none := by
  unfold enumType?
  split
  · rfl
  · rfl
  · exact
      fault?_bind_eq_none
        (fault?_distinctValues hComplete.none_not_mem)
        fun _ _ => rfl

/-
  The initializer needs the rule of every attribute that can
  be written and is not deprecated.
-/
theorem fault?_initializerFunctions
    (hComplete : a.Complete) :
    fault? a.initializerFunctions =
      if a.Offends ∧ ¬ isSet a.readOnly then
        some (.dispatch a.ruleFault)
      else
        none := by
  unfold initializerFunctions
  by_cases hOld : isSet a.deprecated
  · simp [hOld, Offends]
  · by_cases hRead : isSet a.readOnly
    · simp [hOld, hRead, fault?_setters hComplete,
        fault?_hasSetter]
    · simp [hOld, hRead, fault?_setters hComplete,
        fault?_hasSetter, fault?_rule hComplete, Offends]

/-
  The body needs the rule of every attribute that may be set
  at any time and is not deprecated: for the getter if it can
  be read, and for the setter if not.
-/
theorem fault?_bodyFunctions
    (hComplete : a.Complete)
    (hConsistent : a.Consistent) :
    fault? a.bodyFunctions =
      if a.Offends ∧ ¬ isSet a.creationOnly then
        some (.dispatch a.ruleFault)
      else
        none := by
  have hBoth :
      ¬ isSet a.deprecated →
        fault? a.bodyFunctions =
          (fault? a.hasGetter).or
            (fault? (a.hasSetter .live)) := by
    intro hOld
    unfold bodyFunctions
    rw [if_neg hOld]
    rw [← fault?_getter? hComplete,
      ← fault?_setters hComplete]
    apply fault?_bind
    intro getter _
    exact fault?_bind_eq_first fun _ _ => rfl
  by_cases hOld : isSet a.deprecated
  · simp [bodyFunctions, hOld, Offends]
  · rw [hBoth hOld, fault?_hasGetter, fault?_hasSetter,
      fault?_rule hComplete]
    have hAccess := hConsistent.accessible
    by_cases hCreation : isSet a.creationOnly
    · simp [hCreation]
    · by_cases hWrite : isSet a.writeOnly
      · have hRead : ¬ isSet a.readOnly := by
          intro hRead
          exact hAccess ⟨hRead, hWrite⟩
        simp [hOld, hCreation, hWrite, hRead, Offends]
      · by_cases hUnruled : a.Unruled
        · simp [hOld, hCreation, hWrite, hUnruled, Offends]
        · simp [hCreation, hWrite, hUnruled, Offends]

end Attribute

end ElementBindings
