import ElementBindings.Accessor.Rule
import ElementBindings.Naming

/-
  Which accessors an attribute has, and what they are called.

  The access flags are looked at before the rule, so that an
  attribute without a rule is a fault only where an accessor
  would be written.

  Key definitions include:
    * `Context`
    * `Attribute.setterName`
    * `Attribute.hasSetter`
    * `Attribute.hasGetter`
    * `Attribute.hasTest`
    * `Element.isTestable`
-/

namespace ElementBindings

/-
  A setter is chained while an element is set up, or called
  on the live element.
-/
inductive Context where
  | initializer
  | live
deriving DecidableEq, Repr

------------------------------------------------------------
-- Names
------------------------------------------------------------

/-
  The name of a setter.  A write-only attribute that may be
  set at any time is an action, and has a bare verb.
-/
def Attribute.setterName
    (a : Attribute) : Except Fault String :=
  if isSet a.writeOnly && !isSet a.creationOnly then
    (needed .search a.name).map Naming.camelCase
  else
    .ok ("set" ++ shownName a.name)

------------------------------------------------------------
-- Presence
------------------------------------------------------------

/- A setter is written in a context. -/
def Attribute.hasSetter
    (context : Context)
    (a : Attribute) : Except Fault Bool :=
  if isSet a.creationOnly && context = .live then
    .ok false
  else if isSet a.readOnly then
    .ok false
  else
    a.rule.map (· ≠ .unsupported)

/- A getter is written. -/
def Attribute.hasGetter
    (a : Attribute) : Except Fault Bool :=
  if isSet a.creationOnly || isSet a.writeOnly then
    .ok false
  else
    a.rule.map fun rule =>
      rule ≠ .unsupported && rule ≠ .void

/- A round-trip test is written. -/
def Attribute.hasTest
    (a : Attribute) : Except Fault Bool :=
  if isSet a.creationOnly || isSet a.readOnly
      || isSet a.writeOnly then
    .ok false
  else if isSet a.deprecated then
    .ok false
  else
    a.rule.map Rule.isSampled

/- The classes that cannot be created without native setup. -/
def untestedClasses : List String :=
  ["image", "imagergb", "imagergba", "param", "parambox"]

/- An element can be exercised without native setup. -/
def Element.isTestable
    (element : Element) : Bool :=
  match element.className with
  | some name => name ∉ untestedClasses
  | none => true

end ElementBindings
