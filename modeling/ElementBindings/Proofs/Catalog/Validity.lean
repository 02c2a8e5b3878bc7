import ElementBindings.Catalog.Validity
import ElementBindings.Proofs.Catalog.Inheritance
import ElementBindings.Proofs.FirstOccurrence

/-
  What a catalog has to be to pass its checks.

  A complete catalog is accepted when names of groups and of
  elements are distinct, attributes are consistent, bases are
  known, and no group is an ancestor of itself.  All other
  complete catalogs are rejected as such, and nothing else can
  go wrong.

  Key definitions include:
    * `Attribute.Consistent`
    * `Catalog.WellFormed`

  Key theorems include:
    * `Attribute.validate_decides`
    * `AttributeGroup.checkAcyclic_decides`
    * `Catalog.validate_decides`
    * `Catalog.validate_ok_iff_wellFormed`
    * `Catalog.load_eq_ok_iff`
-/

namespace ElementBindings

------------------------------------------------------------
-- Well-Formed Catalogs
------------------------------------------------------------

/-
  An attribute lists enumeration values exactly when its
  format is the one for them, and can be read or be written.
-/
structure Attribute.Consistent
    (a : Attribute) : Prop where
  listed :
    a.format = some .enum ↔ a.enumValues.getD [] ≠ []
  accessible : ¬ (isSet a.readOnly ∧ isSet a.writeOnly)

/- A group or an element that fits to the groups. -/
structure Fits
    (groups : List AttributeGroup)
    (attributes : List Attribute)
    (bases : List String) : Prop where
  consistent : ∀ a ∈ attributes, a.Consistent
  known : ∀ name ∈ bases, AttributeGroup.Known groups name

/-
  A catalog without repeated names, inconsistent attributes,
  unknown bases and cycles of groups.
-/
structure Catalog.WellFormed
    (catalog : Catalog) : Prop where
  groupNames : (catalog.groupList.map (·.name)).Nodup
  elementNames : (catalog.elementList.map (·.name)).Nodup
  everyGroup :
    ∀ g ∈ catalog.groupList,
      Fits catalog.groupList g.attributeList g.baseNames
  everyElement :
    ∀ e ∈ catalog.elementList,
      Fits catalog.groupList e.attributeList e.baseNames
  acyclic :
    ∀ g ∈ catalog.groupList,
      ¬ Relation.TransGen
        (AttributeGroup.Lists catalog.groupList) g g

------------------------------------------------------------
-- Attributes
------------------------------------------------------------

/- An attribute lists a value when its list is not empty. -/
theorem Attribute.hasEnumValues_iff
    (a : Attribute) :
    a.hasEnumValues ↔ a.enumValues.getD [] ≠ [] := by
  unfold Attribute.hasEnumValues
  cases a.enumValues with
  | none => simp
  | some values =>
      cases values with
      | nil => simp
      | cons value rest => simp

/- The check of an attribute, as branches in a row. -/
theorem Attribute.validate_eq
    (owner : Option String)
    (a : Attribute) :
    Attribute.validate owner (some a) =
      if a.format = some .enum && !a.hasEnumValues then
        .error (.catalog (.noEnumValues
          (shownName owner ++ "." ++ shownName a.name)))
      else if a.hasEnumValues
          && a.format ≠ some .enum then
        .error (.catalog (.strayEnumValues
          (shownName owner ++ "." ++ shownName a.name)
          (shownOr DataFormat.text a.format)))
      else if isSet a.readOnly && isSet a.writeOnly then
        .error (.catalog (.readOnlyAndWriteOnly
          (shownName owner ++ "." ++ shownName a.name)))
      else
        .ok () := rfl

/- The check of an attribute decides that it is consistent. -/
theorem Attribute.validate_decides
    (owner : Option String)
    (a : Attribute) :
    Decides (Attribute.validate owner (some a))
      a.Consistent := by
  rw [Attribute.validate_eq]
  refine
    (Decides.orElse _ (Decides.orElse _
      (Decides.orElse _ (Decides.pass ())))).congr ?_
  have hListed := a.hasEnumValues_iff
  constructor
  · intro hPassed
    rcases hPassed with ⟨hMissing, hStray, hBoth, _⟩
    constructor
    · rw [← hListed]
      constructor
      · intro hFormat
        simpa [hFormat] using hMissing
      · intro hValues
        simpa [hValues] using hStray
    · simpa using hBoth
  · intro hConsistent
    rcases hConsistent with ⟨hFormat, hAccess⟩
    rw [← hListed] at hFormat
    refine ⟨?_, ?_, by simpa using hAccess, trivial⟩
    · simpa using hFormat.mp
    · simpa using hFormat.mpr

/- The check of a list of attributes decides them all. -/
theorem Attribute.validateAll_decides
    (owner : Option String)
    {attributes : Option (List (Option Attribute))}
    (hFilled : Filled attributes) :
    Decides (Attribute.validateAll owner attributes)
      (∀ a ∈ present attributes, a.Consistent) := by
  rcases filled_iff.mp hFilled with ⟨items, rfl⟩
  have hItems :
      Decides
        ((items.map some).forM (Attribute.validate owner))
        (∀ item ∈ items.map some,
          ∀ a, item = some a → a.Consistent) := by
    apply Decides.forM
    intro item hMember
    rcases List.mem_map.mp hMember with ⟨a, _, rfl⟩
    exact (Attribute.validate_decides owner a).congr (by simp)
  unfold Attribute.validateAll
  rw [needed_some]
  exact hItems.congr (by simp)

------------------------------------------------------------
-- Names
------------------------------------------------------------

/- The check of group names decides that they are distinct. -/
theorem AttributeGroup.checkNames_decides
    (groups : List AttributeGroup) :
    Decides (AttributeGroup.checkNames groups)
      (groups.map (·.name)).Nodup := by
  rw [← length_firstOccurrences_eq_iff]
  unfold AttributeGroup.checkNames
  by_cases hLength :
      (firstOccurrences (·.name) groups).length
        = groups.length
  · rw [if_pos hLength]
    exact (Decides.pass ()).congr (by simp [hLength])
  · rw [if_neg hLength]
    exact Decides.reject _ hLength

/- An element passes with a name that was not seen before. -/
theorem Element.checkNames_cons
    (seen : List (Option String))
    (element : Element)
    (rest : List (Option Element)) :
    Element.checkNames seen (some element :: rest) =
      if element.name ∈ seen then
        .error (.catalog
          (.duplicateElement (shownName element.name)))
      else
        (Element.checkNames (element.name :: seen) rest).map
          (element :: ·) := rfl

/-
  The check of element names decides that they are distinct,
  and none of those that were seen before.
-/
theorem Element.checkNames_decides
    (seen : List (Option String))
    (elements : List Element) :
    Decides
      (Element.checkNames seen (elements.map some))
      ((elements.map (·.name)).Nodup ∧
        ∀ e ∈ elements, e.name ∉ seen) := by
  induction elements generalizing seen with
  | nil => exact (Decides.pass []).congr (by simp)
  | cons element rest ih =>
      rw [List.map_cons, Element.checkNames_cons]
      refine
        (Decides.orElse _
          ((ih (element.name :: seen)).map
            (element :: ·))).congr ?_
      simp only [List.map_cons, List.nodup_cons,
        List.mem_cons, not_or]
      constructor
      · intro hPassed
        rcases hPassed with ⟨hFresh, hDistinct, hOthers⟩
        refine ⟨⟨?_, hDistinct⟩, ?_⟩
        · intro hAgain
          rcases List.mem_map.mp hAgain with ⟨e, hRest, hName⟩
          exact (hOthers e hRest).1 hName
        · intro e hMember
          rcases hMember with rfl | hRest
          · exact hFresh
          · exact (hOthers e hRest).2
      · intro hBoth
        rcases hBoth with ⟨⟨hNew, hDistinct⟩, hFresh⟩
        refine ⟨hFresh element (.inl rfl), hDistinct, ?_⟩
        intro e hRest
        refine ⟨?_, hFresh e (.inr hRest)⟩
        intro hName
        apply hNew
        rw [← hName]
        exact List.mem_map_of_mem hRest

/- Elements whose names pass are the ones that are given. -/
theorem Element.eq_of_checkNames
    {seen : List (Option String)}
    {items : List (Option Element)}
    {elements : List Element}
    (hPass : Element.checkNames seen items = .ok elements) :
    items = elements.map some := by
  induction items generalizing seen elements with
  | nil => rw [← Except.ok.inj hPass, List.map_nil]
  | cons item rest ih =>
      cases item with
      | none =>
          have hNull :
              Element.checkNames seen (none :: rest) =
                .error (.null (.readField "name")) := rfl
          simp [hNull] at hPass
      | some element =>
          rw [Element.checkNames_cons] at hPass
          split at hPass
          · simp at hPass
          · rcases map_eq_ok_iff.mp hPass with
              ⟨others, hOthers, rfl⟩
            rw [List.map_cons, ih hOthers]

/- Where all elements are there, they are those that are given. -/
theorem Element.checkNames_eq
    {seen : List (Option String)}
    {elements listed : List Element}
    (hPass :
      Element.checkNames seen (elements.map some)
        = .ok listed) :
    listed = elements := by
  have hSame := Element.eq_of_checkNames hPass
  rw [List.map_inj_right fun _ _ => Option.some.inj] at hSame
  exact hSame.symm

/- The check of bases decides that they are known. -/
theorem AttributeGroup.checkBases_decides
    (groups : List AttributeGroup)
    (fault : String → CatalogFault)
    (bases : List String) :
    Decides
      (AttributeGroup.checkBases groups fault (some bases))
      (∀ name ∈ bases,
        AttributeGroup.Known groups name) := by
  unfold AttributeGroup.checkBases
  rw [needed_some]
  apply Decides.forM
  intro name hMember
  by_cases hKnown : AttributeGroup.Known groups name
  · rw [if_pos (by
      simpa [AttributeGroup.Known] using hKnown)]
    exact (Decides.pass ()).congr (by simp [hKnown])
  · rw [if_neg (by
      simpa [AttributeGroup.Known] using hKnown)]
    exact Decides.reject _ hKnown

------------------------------------------------------------
-- Groups and Elements
------------------------------------------------------------

/- Checking attributes and bases decides that both fit. -/
theorem fits_decides
    (groups : List AttributeGroup)
    (owner : Option String)
    (fault : String → CatalogFault)
    {attributes : Option (List (Option Attribute))}
    (hFilled : Filled attributes)
    (bases : List String) :
    Decides
      (do
        Attribute.validateAll owner attributes
        AttributeGroup.checkBases groups fault (some bases))
      (Fits groups (present attributes) bases) := by
  have hAttributes :=
    Attribute.validateAll_decides owner hFilled
  have hBases :=
    AttributeGroup.checkBases_decides groups fault bases
  refine
    (hAttributes.andThen fun _ _ _ => hBases).congr ?_
  constructor
  · intro hBoth
    exact ⟨hBoth.1, hBoth.2⟩
  · intro hFits
    exact ⟨hFits.consistent, hFits.known⟩

/- The check of a group decides that it fits. -/
theorem AttributeGroup.validate_decides
    (groups : List AttributeGroup)
    {group : AttributeGroup}
    (hComplete : group.Complete) :
    Decides (AttributeGroup.validate groups group)
      (Fits groups group.attributeList
        group.baseNames) := by
  unfold AttributeGroup.validate
  rw [hComplete.bases]
  exact fits_decides groups _ _ hComplete.attributes _

/- The check of an element decides that it fits. -/
theorem Element.validate_decides
    (groups : List AttributeGroup)
    {element : Element}
    (hComplete : element.Complete) :
    Decides (Element.validate groups element)
      (Fits groups element.attributeList
        element.baseNames) := by
  unfold Element.validate
  rw [hComplete.bases]
  exact fits_decides groups _ _ hComplete.attributes _

------------------------------------------------------------
-- Cycles
------------------------------------------------------------

section Cycles

variable {groups : List AttributeGroup}
variable
  (hComplete : ∀ g ∈ groups, g.Complete)
  (hDistinct : (groups.map (·.name)).Nodup)
  (hKnown :
    ∀ g ∈ groups, ∀ name ∈ g.baseNames,
      AttributeGroup.Known groups name)

include hComplete hDistinct hKnown

/- The walk from a group decides that its bases are clear. -/
theorem AttributeGroup.checkAcyclic_decides
    {group : AttributeGroup}
    (hGroup : group ∈ groups) :
    Decides (AttributeGroup.checkAcyclic groups group)
      (∀ base, AttributeGroup.Lists groups group base →
        AttributeGroup.Clear groups [group.name] base) := by
  have hPath :
      AttributeGroup.IsPath groups [group.name] := by
    constructor
    · exact List.nodup_singleton _
    · simpa using ⟨group, hGroup, rfl⟩
  have hWalk :=
    AttributeGroup.inherited_decides hComplete hDistinct
      hKnown (groups.length + 1) (hKnown group hGroup) hPath
      (by omega)
  unfold AttributeGroup.checkAcyclic
  rw [(hComplete group hGroup).bases, needed_some]
  exact
    hWalk.discarded.congr AttributeGroup.forall_lists_iff

/- All walks from groups decide that there is no cycle. -/
theorem AttributeGroup.forM_checkAcyclic_decides :
    Decides
      (groups.forM (AttributeGroup.checkAcyclic groups))
      (∀ g ∈ groups,
        ¬ Relation.TransGen
          (AttributeGroup.Lists groups) g g) := by
  refine
    (Decides.forM fun g hGroup =>
      AttributeGroup.checkAcyclic_decides hComplete
        hDistinct hKnown hGroup).congr ?_
  constructor
  · intro hClear g hGroup hCycle
    rcases Relation.TransGen.head'_iff.mp hCycle with
      ⟨base, hBase, hBack⟩
    have hAway := (hClear g hGroup base hBase g hBack).1
    simp at hAway
  · intro hNone g hGroup base hBase ancestor hReach
    have hListed : ancestor ∈ groups :=
      AttributeGroup.mem_of_reflTransGen hBase.1 hReach
    refine ⟨?_, hNone ancestor hListed⟩
    intro hPath
    have hSame : ancestor = g := by
      apply AttributeGroup.eq_of_name_eq hDistinct
      · exact hListed
      · exact hGroup
      · simpa using hPath
    rw [hSame] at hReach
    exact hNone g hGroup
      (Relation.TransGen.head' hBase hReach)

end Cycles

/- An element of a well-formed catalog inherits something. -/
theorem Catalog.exists_parentAttributes
    {catalog : Catalog}
    {element : Element}
    (hComplete : catalog.Complete)
    (hFormed : catalog.WellFormed)
    (hElement : element ∈ catalog.elementList) :
    ∃ parents,
      catalog.parentAttributes element = .ok parents := by
  have hWalk :=
    AttributeGroup.inherited_decides hComplete.everyGroup
      hFormed.groupNames
      (fun g hGroup => (hFormed.everyGroup g hGroup).known)
      (catalog.groupList.length + 1)
      (hFormed.everyElement element hElement).known
      ⟨List.nodup_nil, List.nil_subset _⟩ (by simp)
  unfold Catalog.parentAttributes
  rw [hComplete.namedGroups_eq,
    (hComplete.everyElement element hElement).bases]
  apply hWalk.passes
  intro name _ g hGroup _ ancestor hReach
  have hListed : ancestor ∈ catalog.groupList :=
    AttributeGroup.mem_of_reflTransGen hGroup hReach
  exact ⟨by simp, hFormed.acyclic ancestor hListed⟩

------------------------------------------------------------
-- Catalogs
------------------------------------------------------------

/-
  The walks from all groups, and then from all elements,
  decide that there is no cycle: where the first ones have
  succeeded, the others do so too.
-/
theorem Catalog.walks_decide
    {catalog : Catalog}
    (hComplete : catalog.Complete)
    (hGroupNames : (catalog.groupList.map (·.name)).Nodup)
    (hElementNames :
      (catalog.elementList.map (·.name)).Nodup)
    (hGroups :
      ∀ g ∈ catalog.groupList,
        Fits catalog.groupList g.attributeList g.baseNames)
    (hElements :
      ∀ e ∈ catalog.elementList,
        Fits catalog.groupList e.attributeList
          e.baseNames) :
    Decides
      (do
        catalog.groupList.forM
          (AttributeGroup.checkAcyclic catalog.groupList)
        catalog.elementList.forM fun element =>
          discard (catalog.parentAttributes element))
      (∀ g ∈ catalog.groupList,
        ¬ Relation.TransGen
          (AttributeGroup.Lists catalog.groupList) g g) := by
  have hWalks :=
    AttributeGroup.forM_checkAcyclic_decides
      hComplete.everyGroup hGroupNames
      fun g hGroup => (hGroups g hGroup).known
  refine
    (hWalks.andThen (Q := True) fun _ hAcyclic _ => ?_).congr
      (and_iff_left trivial)
  have hFormed : catalog.WellFormed :=
    ⟨hGroupNames, hElementNames, hGroups, hElements,
      hAcyclic⟩
  have hEach :
      ∀ element ∈ catalog.elementList,
        Decides (discard (catalog.parentAttributes element))
          True := by
    intro element hElement
    have hParents :
        Decides (catalog.parentAttributes element) True :=
      ⟨fun _ =>
          catalog.exists_parentAttributes hComplete hFormed
            hElement,
        fun hNot => absurd trivial hNot⟩
    exact hParents.discarded
  exact (Decides.forM hEach).congr (by simp)

/- What is checked once names are known to be distinct. -/
theorem Catalog.checks_decide
    {catalog : Catalog}
    (hComplete : catalog.Complete)
    (hGroupNames : (catalog.groupList.map (·.name)).Nodup)
    (hElementNames :
      (catalog.elementList.map (·.name)).Nodup) :
    Decides
      (do
        catalog.groupList.forM
          (AttributeGroup.validate catalog.groupList)
        catalog.elementList.forM
          (Element.validate catalog.groupList)
        catalog.groupList.forM
          (AttributeGroup.checkAcyclic catalog.groupList)
        catalog.elementList.forM fun element =>
          discard (catalog.parentAttributes element))
      ((∀ g ∈ catalog.groupList,
          Fits catalog.groupList g.attributeList
            g.baseNames) ∧
        (∀ e ∈ catalog.elementList,
          Fits catalog.groupList e.attributeList
            e.baseNames) ∧
        ∀ g ∈ catalog.groupList,
          ¬ Relation.TransGen
            (AttributeGroup.Lists catalog.groupList)
            g g) := by
  refine
    (Decides.forM fun g hGroup =>
      AttributeGroup.validate_decides _
        (hComplete.everyGroup g hGroup)).andThen
      fun _ hGroups _ => ?_
  refine
    (Decides.forM fun e hElement =>
      Element.validate_decides _
        (hComplete.everyElement e hElement)).andThen
      fun _ hElements _ => ?_
  exact
    Catalog.walks_decide hComplete hGroupNames
      hElementNames hGroups hElements

/- The checks of a catalog decide that it is well-formed. -/
theorem Catalog.validate_decides
    {catalog : Catalog}
    (hComplete : catalog.Complete) :
    Decides catalog.validate catalog.WellFormed := by
  have hElements :
      needed .iterate catalog.elements =
        .ok (catalog.elementList.map some) := by
    rw [hComplete.elements]
    simp [Catalog.elementList]
  unfold Catalog.validate
  rw [hComplete.namedGroups_eq, hElements]
  refine
    ((AttributeGroup.checkNames_decides _).andThen
      fun _ hGroupNames _ =>
        (Element.checkNames_decides [] _).andThen
          fun listed hNames hListed => (by
            rw [Element.checkNames_eq hListed]
            exact
              Catalog.checks_decide hComplete hGroupNames
                hNames.1)).congr ?_
  constructor
  · intro hAll
    rcases hAll with
      ⟨hGroupNames, ⟨hNames, _⟩, hGroups, hOthers, hAcyclic⟩
    exact ⟨hGroupNames, hNames, hGroups, hOthers, hAcyclic⟩
  · intro hFormed
    exact
      ⟨hFormed.groupNames, ⟨hFormed.elementNames, by simp⟩,
        hFormed.everyGroup, hFormed.everyElement,
        hFormed.acyclic⟩

/-
  A complete catalog is accepted exactly when it is
  well-formed, and is otherwise rejected by a catalog fault.
-/
theorem Catalog.validate_ok_iff_wellFormed
    (catalog : Catalog)
    (hComplete : catalog.Complete) :
    (catalog.validate = .ok () ↔ catalog.WellFormed) ∧
      (¬ catalog.WellFormed → Rejects catalog.validate) := by
  have hDecides := Catalog.validate_decides hComplete
  exact ⟨hDecides.ok_iff, hDecides.rejects⟩

/- A catalog is parsed if its text is read and decoded. -/
theorem Catalog.parse_eq_ok_iff
    {catalog : Catalog}
    {text : String} :
    Catalog.parse text = .ok catalog ↔
      ∃ v,
        Json.readChars text.toList = .ok v ∧
          Catalog.ofJson v = .ok catalog := by
  have hChars :
      ∀ v, Json.read text = .ok v ↔
        Json.readChars text.toList = .ok v :=
    fun _ => mapError_eq_ok_iff
  simp only [← hChars]
  unfold Catalog.parse Decode.parse
  cases Json.read text with
  | error fault => simp
  | ok v => simp

/- A catalog is loaded if it is read, decoded and accepted. -/
theorem Catalog.load_eq_ok_iff
    {catalog : Catalog}
    {text : String} :
    Catalog.load text = .ok catalog ↔
      ∃ v,
        Json.readChars text.toList = .ok v ∧
          Catalog.ofJson v = .ok catalog ∧
          catalog.validate = .ok () := by
  unfold Catalog.load
  simp only [mapError_eq_ok_iff, bind_eq_ok_iff,
    Catalog.parse_eq_ok_iff]
  constructor
  · intro hLoaded
    rcases hLoaded with
      ⟨parsed, ⟨v, hRead, hDecode⟩, _, hAccepted, hDone⟩
    have hSame : parsed = catalog := Except.ok.inj hDone
    rw [hSame] at hDecode hAccepted
    exact ⟨v, hRead, hDecode, hAccepted⟩
  · intro hLoaded
    rcases hLoaded with ⟨v, hRead, hDecode, hAccepted⟩
    exact ⟨catalog, ⟨v, hRead, hDecode⟩, (), hAccepted, rfl⟩

/- The text of a file is loaded with its line ends unified. -/
theorem Catalog.loadText_eq_ok_iff
    {catalog : Catalog}
    {text : String} :
    Catalog.loadText text = .ok catalog ↔
      ∃ v,
        Json.readChars (Text.unifyLineFeeds text.toList) = .ok v ∧
          Catalog.ofJson v = .ok catalog ∧
          catalog.validate = .ok () := by
  unfold Catalog.loadText
  rw [Catalog.load_eq_ok_iff, String.toList_ofList]

/- A catalog that could be loaded is accepted. -/
theorem Catalog.validate_of_load
    {catalog : Catalog}
    {text : String}
    (hLoad : Catalog.load text = .ok catalog) :
    catalog.validate = .ok () := by
  rcases Catalog.load_eq_ok_iff.mp hLoad with
    ⟨_, _, _, hAccepted⟩
  exact hAccepted

/- A complete catalog that could be loaded is well-formed. -/
theorem Catalog.wellFormed_of_loadText
    {catalog : Catalog}
    {text : String}
    (hComplete : catalog.Complete)
    (hLoad : Catalog.loadText text = .ok catalog) :
    catalog.WellFormed := by
  rcases Catalog.loadText_eq_ok_iff.mp hLoad with
    ⟨_, _, _, hAccepted⟩
  exact (Catalog.validate_decides hComplete).ok_iff.mp hAccepted

------------------------------------------------------------
-- Some Catalogs
------------------------------------------------------------

/- A JSON text, of characters that need no escape. -/
def quotedText
    (text : String) : String :=
  "\"" ++ text ++ "\""

/- A field of a JSON record, with the text of its value. -/
def fieldText
    (name value : String) : String :=
  quotedText name ++ ":" ++ value

/- A JSON record of some fields. -/
def recordText
    (fields : List String) : String :=
  "\x7b" ++ Text.joinWith "," fields ++ "\x7d"

/- A JSON list of some items. -/
def listText
    (items : List String) : String :=
  "[" ++ Text.joinWith "," items ++ "]"

/- The record of an attribute with some more fields. -/
def attributeText
    (name type format : String)
    (fields : List String) : String :=
  recordText
    ([ fieldText "name" (quotedText name),
       fieldText "attribute_name" (quotedText name),
       fieldText "data_type" (quotedText type),
       fieldText "data_format" (quotedText format) ]
      ++ fields)

/- The record of an element with some more fields. -/
def elementText
    (name : String)
    (fields : List String) : String :=
  recordText
    ([ fieldText "name" (quotedText name),
       fieldText "class_name" (quotedText "box"),
       fieldText "native_type" (quotedText "Void") ]
      ++ fields)

/- A catalog of elements with these records. -/
def elementsText
    (records : List String) : String :=
  recordText [fieldText "classes" (listText records)]

/- Groups that share an ancestor and are used by no element. -/
def diamond : Catalog :=
  ⟨some
    [ some ⟨some "left", some [], some ["top", "top"]⟩,
      some ⟨some "right", some [], some ["left", "top"]⟩,
      some ⟨some "top", some [], some []⟩ ],
    some []⟩

/- Groups of which three are their own ancestors. -/
def ring : Catalog :=
  ⟨some
    [ some ⟨some "top", some [], some ["left"]⟩,
      some ⟨some "left", some [], some ["right"]⟩,
      some ⟨some "right", some [], some ["next"]⟩,
      some ⟨some "next", some [], some ["left"]⟩ ],
    some []⟩

/- The checks tell a shared ancestor from a cycle. -/
theorem diamond_wellFormed_and_ring_rejected :
    (diamond.Complete ∧ diamond.WellFormed) ∧
      ring.Complete ∧ ¬ ring.WellFormed ∧
        Rejects ring.validate := by
  have hDiamond : diamond.Complete := by decide
  have hRing : ring.Complete := by decide
  have hShared :=
    Catalog.validate_ok_iff_wellFormed diamond hDiamond
  have hCycle :=
    Catalog.validate_ok_iff_wellFormed ring hRing
  have hCyclic : ¬ ring.WellFormed := by
    intro hFormed
    have hPass := hCycle.1.mpr hFormed
    have hFault :
        ring.validate =
          .error (.catalog
            (.cycle ["top", "left", "right", "next",
              "left"])) := rfl
    simp [hFault] at hPass
  exact
    ⟨⟨hDiamond, hShared.1.mp rfl⟩, hRing, hCyclic,
      hCycle.2 hCyclic⟩

end ElementBindings
