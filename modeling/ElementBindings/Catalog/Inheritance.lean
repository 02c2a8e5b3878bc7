import ElementBindings.Catalog.Basic
import ElementBindings.Fault
import ElementBindings.FirstOccurrence

/-
  Attributes that an element inherits.

  The bases of an element are walked depth first, in the
  order of their declaration.  A group that several paths
  reach contributes once for each of them; merging keeps the
  first attribute of every name.  A group on the path to
  itself is a cycle.  The walk is as deep as it has to be: the
  depth of recursion that an interpreter allows is left out.

  Key definitions include:
    * `AttributeGroup.find?`
    * `AttributeGroup.inherited`
    * `Catalog.parentAttributes`
    * `Attribute.merge`
-/

namespace ElementBindings

------------------------------------------------------------
-- Groups by Name
------------------------------------------------------------

/- The last group of a name counts. -/
def AttributeGroup.find?
    (groups : List AttributeGroup)
    (name : String) : Option AttributeGroup :=
  groups.reverse.find? fun group => group.name = some name

/- The groups of a catalog, of which none may be null. -/
def Catalog.namedGroups
    (catalog : Catalog) :
    Except Fault (List AttributeGroup) := do
  let groups ← needed .iterate catalog.groups
  groups.mapM (needed (.readField "name"))

------------------------------------------------------------
-- Walking
------------------------------------------------------------

/- A path that comes back to one of its groups. -/
def cycleFault
    (path : List (Option String)) : Fault :=
  match path.findIdx? (·.isNone) with
  | some position => .null (.join position)
  | none => .catalog (.cycle (path.map shownName))

/-
  The attributes reached from some bases, with the path that
  led to them.  The first argument bounds the length of a
  path; one longer than the list of groups is a cycle.
-/
def AttributeGroup.inherited
    (groups : List AttributeGroup) :
    Nat →
    List (Option String) →
    List String →
    Except Fault (List (Option Attribute))
  | 0, path, _ => .error (cycleFault path)
  | depth + 1, path, bases => do
      let parts ← bases.mapM fun base =>
        if some base ∈ path then
          .error (cycleFault (path ++ [some base]))
        else
          match AttributeGroup.find? groups base with
          | none => .error (.catalog (.unknownGroup base))
          | some group => do
              let own ← needed .iterate group.attributes
              let next ← needed .iterate group.bases
              let rest ← inherited groups depth
                (path ++ [some base]) next
              return own ++ rest
      return parts.flatten

/- The attributes that an element inherits, nearest group first. -/
def Catalog.parentAttributes
    (catalog : Catalog)
    (element : Element) :
    Except Fault (List (Option Attribute)) := do
  let groups ← catalog.namedGroups
  let bases ← needed .iterate element.bases
  AttributeGroup.inherited groups (groups.length + 1) [] bases

------------------------------------------------------------
-- Merging
------------------------------------------------------------

/- Own attributes before inherited ones, none of them null. -/
def Attribute.gather
    (own : Option (List (Option Attribute)))
    (parents : List (Option Attribute)) :
    Except Fault (List Attribute) := do
  let own ← needed .spread own
  (own ++ parents).mapM (needed (.readField "name"))

/- Own and inherited attributes, the first of every name. -/
def Attribute.merge
    (own : Option (List (Option Attribute)))
    (parents : List (Option Attribute)) :
    Except Fault (List Attribute) := do
  let attributes ← Attribute.gather own parents
  return firstOccurrences (·.name) attributes

end ElementBindings
