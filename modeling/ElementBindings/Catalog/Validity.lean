import ElementBindings.Catalog.Decode
import ElementBindings.Catalog.Inheritance

/-
  Checking and loading catalogs.

  Group names and element names are distinct, enumerated
  attributes list their values and no others do, no attribute
  is both read-only and write-only, bases are known, and no
  group inherits from itself.  The first violation, in this
  order, rejects the catalog.  Bases may be nested to any
  depth: the depth of recursion that an interpreter allows is
  left out here, too.

  Key definitions include:
    * `Attribute.validate`
    * `Catalog.validate`
    * `Catalog.load`
    * `Catalog.loadOctets`, `Catalog.loadFile`
-/

namespace ElementBindings

------------------------------------------------------------
-- Attributes
------------------------------------------------------------

/- An attribute lists at least one enumeration value. -/
def Attribute.hasEnumValues
    (a : Attribute) : Bool :=
  match a.enumValues with
  | some (_ :: _) => true
  | _ => false

/- Check one attribute of a group or an element. -/
def Attribute.validate
    (owner : Option String)
    (a : Option Attribute) : Except Fault Unit := do
  let a ← needed (.readField "name") a
  let place := shownName owner ++ "." ++ shownName a.name
  if a.format = some .enum && !a.hasEnumValues then
    throw (.catalog (.noEnumValues place))
  if a.hasEnumValues && a.format ≠ some .enum then
    throw (.catalog (.strayEnumValues place
      (shownOr DataFormat.text a.format)))
  if isSet a.readOnly && isSet a.writeOnly then
    throw (.catalog (.readOnlyAndWriteOnly place))

/- Check the attributes of a group or an element. -/
def Attribute.validateAll
    (owner : Option String)
    (attributes : Option (List (Option Attribute))) :
    Except Fault Unit := do
  (← needed .iterate attributes).forM
    (Attribute.validate owner)

------------------------------------------------------------
-- Names
------------------------------------------------------------

/- Check that no two groups have one name. -/
def AttributeGroup.checkNames
    (groups : List AttributeGroup) : Except Fault Unit :=
  if (firstOccurrences (·.name) groups).length
      = groups.length then
    .ok ()
  else
    .error (.catalog .duplicateGroup)

/- Check that no two elements have one name, and none is null. -/
def Element.checkNames
    (seen : List (Option String)) :
    List (Option Element) →
    Except Fault (List Element)
  | [] => .ok []
  | none :: _ => .error (.null (.readField "name"))
  | some element :: rest =>
      if element.name ∈ seen then
        .error (.catalog
          (.duplicateElement (shownName element.name)))
      else
        (checkNames (element.name :: seen) rest).map
          (element :: ·)

/- Check that bases are names of groups. -/
def AttributeGroup.checkBases
    (groups : List AttributeGroup)
    (fault : String → CatalogFault)
    (bases : Option (List String)) : Except Fault Unit := do
  (← needed .iterate bases).forM fun base =>
    if groups.any fun group => group.name = some base then
      .ok ()
    else
      .error (.catalog (fault base))

------------------------------------------------------------
-- Catalogs
------------------------------------------------------------

/- Check the attributes and the bases of a group. -/
def AttributeGroup.validate
    (groups : List AttributeGroup)
    (group : AttributeGroup) : Except Fault Unit := do
  Attribute.validateAll group.name group.attributes
  checkBases groups
    (.unknownGroupOfGroup (shownName group.name)) group.bases

/- Check the attributes and the bases of an element. -/
def Element.validate
    (groups : List AttributeGroup)
    (element : Element) : Except Fault Unit := do
  Attribute.validateAll element.name element.attributes
  AttributeGroup.checkBases groups
    (.unknownGroupOfElement (shownName element.name))
    element.bases

/- Check that no path from a group leads into a cycle. -/
def AttributeGroup.checkAcyclic
    (groups : List AttributeGroup)
    (group : AttributeGroup) : Except Fault Unit := do
  let bases ← needed .iterate group.bases
  discard (inherited groups (groups.length + 1)
    [group.name] bases)

/- Check a catalog. -/
def Catalog.validate
    (catalog : Catalog) : Except Fault Unit := do
  let groups ← catalog.namedGroups
  AttributeGroup.checkNames groups
  let elements ← needed .iterate catalog.elements
  let elements ← Element.checkNames [] elements
  groups.forM (AttributeGroup.validate groups)
  elements.forM (Element.validate groups)
  groups.forM (AttributeGroup.checkAcyclic groups)
  elements.forM fun element =>
    discard (catalog.parentAttributes element)

------------------------------------------------------------
-- Loading
------------------------------------------------------------

/-
  While a catalog is loaded, faults of decoding and uses of
  null make it malformed.  An infinite number in the place of
  an integer is no such fault.
-/
def Fault.whileLoading : Fault → Fault
  | .decode .infinite => .decode .infinite
  | .decode fault => .catalog (.malformed (.decode fault))
  | .null use => .catalog (.malformed (.null use))
  | fault => fault

/- Read and check a catalog. -/
def Catalog.load
    (text : String) : Except Fault Catalog :=
  Except.mapError Fault.whileLoading do
    let catalog ← (Catalog.parse text).mapError .decode
    catalog.validate
    return catalog

/- Load the text of a file, with any of the usual line ends. -/
def Catalog.loadText
    (text : String) : Except Fault Catalog :=
  load (String.ofList (Text.unifyLineFeeds text.toList))

/- Load the octets of a file. -/
def Catalog.loadOctets
    (octets : List UInt8) : Except Fault Catalog :=
  match Text.decodeUtf8 octets with
  | .ok text => loadText (String.ofList text)
  | .error fault =>
      .error (.catalog (.malformed (.encoding fault)))

/- Load a file, given by its octets if it exists. -/
def Catalog.loadFile
    (path : String)
    (octets : Option (List UInt8)) :
    Except Fault Catalog :=
  match octets with
  | none => .error (.file ⟨.refused .notFound, path⟩)
  | some octets => loadOctets octets

end ElementBindings
