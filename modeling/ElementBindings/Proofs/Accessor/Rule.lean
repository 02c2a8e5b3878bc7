import ElementBindings.Accessor.Presence
import ElementBindings.Proofs.Catalog.Validity

/-
  Where a rule is missed.

  An attribute without rule is a fault only for an accessor
  that would be written, so that flags decide which emitter
  meets it.  Where there is a rule, its format has the parts
  that the rule asks for: a separator between components, and
  values to choose from.

  Key definitions include:
    * `Rule.IsSeparated`
    * `Attribute.Unruled`, `Attribute.ruleFault`
    * `Attribute.Offends`

  Key theorems include:
    * `Rule.separator?_of_find?`, `Rule.format_of_find?`
    * `Attribute.fault?_rule`
    * `Attribute.elementName_of_known`
    * `Attribute.fault?_hasSetter`, `Attribute.fault?_hasGetter`
    * `Attribute.fault?_hasTest`
    * `Attribute.hasSetter_eq_true_iff`
    * `Attribute.hasGetter_eq_true_iff`
    * `Attribute.hasTest_eq_true_iff`
-/

namespace ElementBindings

------------------------------------------------------------
-- Parts of a Format
------------------------------------------------------------

namespace Rule

variable {rule : Rule}

/- A rule for components with a character between them. -/
def IsSeparated
    (rule : Rule) : Prop :=
  rule = .linColPos ∨ rule = .xyPos ∨ rule = .range

/- Such a rule is only found for a format with a separator. -/
theorem separator?_of_find?
    {format : DataFormat}
    {type : DataType}
    (hFind : Rule.find? format type = some rule)
    (hRule : rule.IsSeparated) :
    ∃ c, format.separator? = some c := by
  cases format with
  | linColPos | xyPosComma | xyPosColon | range =>
      exact ⟨_, rfl⟩
  | _ =>
      cases type <;> simp [Rule.find?] at hFind <;>
        simp [← hFind, IsSeparated] at hRule

/- A rule for members is only found for the format of enumerations. -/
theorem format_of_find?
    {format : DataFormat}
    {type : DataType}
    (hFind : Rule.find? format type = some rule)
    (hRule : rule = .enumInt ∨ rule = .enumString) :
    format = .enum := by
  cases format with
  | enum => rfl
  | _ =>
      cases type <;> simp [Rule.find?] at hFind <;>
        simp [← hFind] at hRule

end Rule

namespace Attribute

variable {a : Attribute}
variable {rule : Rule}

------------------------------------------------------------
-- Missing Rules
------------------------------------------------------------

/- There is no rule for the format and type of an attribute. -/
def Unruled
    (a : Attribute) : Prop :=
  match a.format, a.type with
  | some format, some type => Rule.find? format type = none
  | _, _ => False

instance (a : Attribute) : Decidable a.Unruled := by
  unfold Unruled
  split
  · infer_instance
  · infer_instance

/- The fault of an attribute without rule. -/
def ruleFault
    (a : Attribute) : DispatchFault :=
  .noRule (shownName a.name)
    (shownOr DataFormat.text a.format)
    (shownOr DataType.text a.type)

/-
  An attribute has no rule, though something is written for
  it: it is not deprecated, and not both read-only and
  creation-only.
-/
def Offends
    (a : Attribute) : Prop :=
  ¬ isSet a.deprecated ∧ a.Unruled ∧
    ¬ (isSet a.readOnly ∧ isSet a.creationOnly)

instance (a : Attribute) : Decidable a.Offends := by
  unfold Offends
  infer_instance

/- The rule of a complete attribute is the one of the table. -/
theorem rule_eq_ok_iff
    (hComplete : a.Complete) :
    a.rule = .ok rule ↔
      ∃ format type,
        a.format = some format ∧ a.type = some type ∧
          Rule.find? format type = some rule := by
  rcases Option.isSome_iff_exists.mp hComplete.format with
    ⟨format, hFormat⟩
  rcases Option.isSome_iff_exists.mp hComplete.type with
    ⟨type, hType⟩
  cases hFind : Rule.find? format type with
  | none => simp [Attribute.rule, hFormat, hType, hFind]
  | some found =>
      simp [Attribute.rule, hFormat, hType, hFind]

/- A rule for members asks for the format of enumerations. -/
theorem format_of_rule
    (hRule : a.rule = .ok rule)
    (hKind : rule = .enumInt ∨ rule = .enumString) :
    a.format = some .enum := by
  have hOther : rule ≠ .unsupported := by
    rintro rfl
    simp at hKind
  unfold Attribute.rule at hRule
  split at hRule
  · next format type hFormat hType =>
      cases hFind : Rule.find? format type with
      | none => simp [hFind] at hRule
      | some found =>
          simp only [hFind, Except.ok.injEq] at hRule
          rw [← hRule] at hKind
          rw [hFormat, Rule.format_of_find? hFind hKind]
  · simp [hOther.symm] at hRule
  · simp [hOther.symm] at hRule
  · simp at hRule

/- The rule of an attribute is missed when there is none. -/
theorem fault?_rule
    (hComplete : a.Complete) :
    fault? a.rule =
      if a.Unruled then some (.dispatch a.ruleFault)
      else none := by
  rcases Option.isSome_iff_exists.mp hComplete.format with
    ⟨format, hFormat⟩
  rcases Option.isSome_iff_exists.mp hComplete.type with
    ⟨type, hType⟩
  cases hFind : Rule.find? format type with
  | none =>
      simp [Attribute.rule, Unruled, ruleFault, hFormat,
        hType, hFind]
  | some found =>
      simp [Attribute.rule, Unruled, hFormat, hType, hFind]

------------------------------------------------------------
-- Separators
------------------------------------------------------------

/- An attribute with a rule for components has a separator. -/
theorem fault?_separator
    (hComplete : a.Complete)
    (hRule : a.rule = .ok rule)
    (hSeparated : rule.IsSeparated) :
    fault? a.separator = none := by
  rcases (rule_eq_ok_iff hComplete).mp hRule with
    ⟨format, type, hFormat, _, hFind⟩
  rcases Rule.separator?_of_find? hFind hSeparated with
    ⟨c, hSeparator⟩
  simp [Attribute.separator, hFormat, hSeparator]

------------------------------------------------------------
-- Handles
------------------------------------------------------------

/- A known target has the name that the handle gives. -/
theorem elementName_of_known
    {name : String}
    (hKnown : a.handleKind = .known name) :
    a.handle.bind (·.elementName) = some name := by
  unfold handleKind at hKnown
  cases hTarget : a.handle with
  | none =>
      rw [hTarget] at hKnown
      cases hKnown
  | some target =>
      rw [hTarget] at hKnown
      cases hName : target.elementName with
      | none =>
          cases hNative : target.nativeType <;>
            simp [hName, hNative] at hKnown
      | some other =>
          simp only [hName, HandleKind.known.injEq] at hKnown
          rw [← hKnown]
          exact hName

------------------------------------------------------------
-- Presence
------------------------------------------------------------

/- A rule is needed for a setter unless flags rule it out. -/
theorem fault?_hasSetter
    (context : Context)
    (a : Attribute) :
    fault? (a.hasSetter context) =
      if isSet a.creationOnly ∧ context = .live
          ∨ isSet a.readOnly then
        none
      else
        fault? a.rule := by
  unfold hasSetter
  by_cases hLate : isSet a.creationOnly ∧ context = .live
  · simp [hLate]
  · by_cases hRead : isSet a.readOnly
    · simp [hLate, hRead]
    · simp [hLate, hRead]

/- A rule is needed for a getter unless flags rule it out. -/
theorem fault?_hasGetter
    (a : Attribute) :
    fault? a.hasGetter =
      if isSet a.creationOnly ∨ isSet a.writeOnly then none
      else fault? a.rule := by
  unfold hasGetter
  by_cases hFlags :
      isSet a.creationOnly ∨ isSet a.writeOnly
  · simp [hFlags]
  · simp [hFlags]

/- A rule is needed for a test unless flags rule it out. -/
theorem fault?_hasTest
    (a : Attribute) :
    fault? a.hasTest =
      if isSet a.creationOnly ∨ isSet a.readOnly
          ∨ isSet a.writeOnly ∨ isSet a.deprecated then
        none
      else
        fault? a.rule := by
  unfold hasTest
  cases isSet a.creationOnly with
  | true => simp
  | false =>
      cases isSet a.readOnly with
      | true => simp
      | false =>
          cases isSet a.writeOnly with
          | true => simp
          | false =>
              cases isSet a.deprecated with
              | true => simp
              | false => simp

/- When a setter is written in a context. -/
theorem hasSetter_eq_true_iff
    {context : Context} :
    a.hasSetter context = .ok true ↔
      ¬ (isSet a.creationOnly ∧ context = .live) ∧
        ¬ isSet a.readOnly ∧
        ∃ rule, a.rule = .ok rule ∧ rule ≠ .unsupported := by
  unfold hasSetter
  by_cases hLate : isSet a.creationOnly ∧ context = .live
  · simp [hLate]
  · by_cases hRead : isSet a.readOnly
    · simp [hLate, hRead]
    · simp [hLate, hRead, map_eq_ok_iff]

/- When a getter is written. -/
theorem hasGetter_eq_true_iff :
    a.hasGetter = .ok true ↔
      ¬ isSet a.creationOnly ∧ ¬ isSet a.writeOnly ∧
        ∃ rule, a.rule = .ok rule ∧
          rule ≠ .unsupported ∧ rule ≠ .void := by
  unfold hasGetter
  cases isSet a.creationOnly with
  | true => simp
  | false =>
      cases isSet a.writeOnly with
      | true => simp
      | false => simp [map_eq_ok_iff]

/- When a test is written. -/
theorem hasTest_eq_true_iff :
    a.hasTest = .ok true ↔
      ¬ isSet a.creationOnly ∧ ¬ isSet a.readOnly ∧
        ¬ isSet a.writeOnly ∧ ¬ isSet a.deprecated ∧
        ∃ rule, a.rule = .ok rule ∧ rule.isSampled := by
  unfold hasTest
  cases isSet a.creationOnly with
  | true => simp
  | false =>
      cases isSet a.readOnly with
      | true => simp
      | false =>
          cases isSet a.writeOnly with
          | true => simp
          | false =>
              cases isSet a.deprecated with
              | true => simp
              | false => simp [map_eq_ok_iff]

/- A setter is only written under a rule. -/
theorem exists_rule_of_hasSetter
    {context : Context}
    (hSetter : a.hasSetter context = .ok true) :
    ∃ rule, a.rule = .ok rule := by
  rcases hasSetter_eq_true_iff.mp hSetter with
    ⟨_, _, rule, hRule, _⟩
  exact ⟨rule, hRule⟩

/- A getter is only written under a rule. -/
theorem exists_rule_of_hasGetter
    (hGetter : a.hasGetter = .ok true) :
    ∃ rule, a.rule = .ok rule := by
  rcases hasGetter_eq_true_iff.mp hGetter with
    ⟨_, _, rule, hRule, _⟩
  exact ⟨rule, hRule⟩

/- A test is only written under a rule. -/
theorem exists_rule_of_hasTest
    (hTest : a.hasTest = .ok true) :
    ∃ rule, a.rule = .ok rule := by
  rcases hasTest_eq_true_iff.mp hTest with
    ⟨_, _, _, _, rule, hRule, _⟩
  exact ⟨rule, hRule⟩

/- A test is written only next to a setter on a live element. -/
theorem hasSetter_of_hasTest
    (hTest : a.hasTest = .ok true)
    (context : Context) :
    a.hasSetter context = .ok true := by
  rcases hasTest_eq_true_iff.mp hTest with
    ⟨hCreation, hRead, _, _, rule, hRule, hSampled⟩
  refine
    hasSetter_eq_true_iff.mpr
      ⟨fun hLate => hCreation hLate.1, hRead, rule, hRule, ?_⟩
  rintro rfl
  simp [Rule.isSampled] at hSampled

/- A test is written only next to a getter. -/
theorem hasGetter_of_hasTest
    (hTest : a.hasTest = .ok true) :
    a.hasGetter = .ok true := by
  rcases hasTest_eq_true_iff.mp hTest with
    ⟨hCreation, _, hWrite, _, rule, hRule, hSampled⟩
  refine
    hasGetter_eq_true_iff.mpr
      ⟨hCreation, hWrite, rule, hRule, ?_, ?_⟩
  · rintro rfl
    simp [Rule.isSampled] at hSampled
  · rintro rfl
    simp [Rule.isSampled] at hSampled

end Attribute

end ElementBindings
