import ElementBindings.Accessor.Presence
import ElementBindings.Catalog.Inheritance

/-
  How much would be written for an element.

  The counts are taken from the merged attributes that are not
  deprecated; tests are counted from the own attributes only.

  Key definitions include:
    * `Summary`
    * `Element.summary`
-/

namespace ElementBindings

/- The accessors of one element, counted. -/
structure Summary where
  name : Option String
  attributes : Nat
  setters : Nat
  getters : Nat
  callbacks : Nat
  tests : Nat
  unsupported : List (Option String)
deriving DecidableEq, Repr

/- Keep the items that pass a test which may fail. -/
def filterChecked
    {α : Type}
    (test : α → Except Fault Bool) :
    List α →
    Except Fault (List α)
  | [] => .ok []
  | a :: rest => do
      let keep ← test a
      let kept ← filterChecked test rest
      return if keep then a :: kept else kept

/- The own attributes of a testable element that have a test. -/
def Element.testedAttributes
    (element : Element) : Except Fault (List Attribute) := do
  if element.isTestable then
    let own ← Attribute.merge element.attributes []
    filterChecked Attribute.hasTest own
  else
    return []

/- Count what would be written for an element. -/
def Element.summary
    (element : Element)
    (parents : List (Option Attribute)) :
    Except Fault Summary := do
  let merged ← Attribute.merge element.attributes parents
  let attributes := merged.filter (!isSet ·.deprecated)
  let tests ← element.testedAttributes
  let setters ← filterChecked (·.hasSetter .live) attributes
  let getters ← filterChecked Attribute.hasGetter attributes
  let callbacks ← needed .count element.callbacks
  let unsupported ← filterChecked
    (fun a => a.rule.map (· = .unsupported)) attributes
  return {
    name := element.name
    attributes := attributes.length
    setters := setters.length
    getters := getters.length
    callbacks := callbacks.length
    tests := tests.length
    unsupported := unsupported.map (·.name) }

end ElementBindings
