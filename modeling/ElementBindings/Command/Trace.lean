import ElementBindings.Zig.Page

/-
  Debug messages about the work on an element.

  Key definitions include:
    * `Catalog.loadedMessage`
    * `Attribute.mergeTrace`
    * `Element.renderTrace`
    * `Element.summaryTrace`
-/

namespace ElementBindings

/- The message about a loaded catalog. -/
def Catalog.loadedMessage
    (catalog : Catalog) : String :=
  "Loaded catalog with "
    ++ toString (catalog.groups.getD []).length ++ " groups and "
    ++ toString (catalog.elements.getD []).length ++ " elements"

/- The messages about attributes that merging leaves out. -/
def Attribute.mergeTrace
    (own : Option (List (Option Attribute)))
    (parents : List (Option Attribute)) : List String :=
  match Attribute.gather own parents with
  | .error _ => []
  | .ok attributes =>
      (repeats (·.name) attributes).map fun a =>
        "Skipping duplicate attribute " ++ shownName a.name

/- The messages about merging for tests. -/
def Element.testTrace
    (element : Element) : List String :=
  if element.isTestable then
    Attribute.mergeTrace element.attributes []
  else
    []

/- The messages while an element is rendered. -/
def Element.renderTrace
    (element : Element)
    (parents : List (Option Attribute)) : List String :=
  if element.nativeType.isNone then
    []
  else
    let merging := Attribute.mergeTrace element.attributes parents
    match Attribute.merge element.attributes parents with
    | .error _ => merging
    | .ok attributes =>
        let generating :=
          "Generating " ++ shownName element.name ++ " with "
            ++ toString attributes.length ++ " attributes"
        let testing :=
          match element.declarations parents with
          | .ok _ => element.testTrace
          | .error _ => []
        merging ++ generating :: testing

/- The messages while an element is summarised. -/
def Element.summaryTrace
    (element : Element)
    (parents : List (Option Attribute)) : List String :=
  Attribute.mergeTrace element.attributes parents
    ++ element.testTrace

end ElementBindings
