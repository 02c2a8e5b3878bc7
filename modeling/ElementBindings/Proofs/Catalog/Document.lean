import Mathlib.Data.List.Forall2
import ElementBindings.Catalog.Decode
import ElementBindings.Catalog.Encode

/-
  Documents that catalogs are written as.

  A record is written as an object with each key once.  Its
  fields come in any order, fields that are not known may
  stand between them, and a field that holds its default may
  be left out.  Whatever of this freedom is used, at any
  depth, decoding gives back the catalog that was written.
  The object with all fields is one of these documents, so
  what was decoded once is decoded again from there.

  Key definitions include:
    * `Document.Nullable`, `Document.Items`
    * `Document.Present`, `Document.MayLack`
    * `Catalog.Written`
    * `Document.Reads`

  Key theorems include:
    * `Catalog.reads_written`
    * `Catalog.ofJson_of_written`
    * `Catalog.written_toJson`
    * `Catalog.decoding_normalises`
-/

namespace ElementBindings

open Decode

variable {α : Type}

------------------------------------------------------------
-- Writing
------------------------------------------------------------

namespace Document

/- Which values a thing may be written as. -/
abbrev Writing (α : Type) :=
  α → Json → Prop

/- There is one way to write a scalar. -/
def As
    (encode : α → Json) : Writing α :=
  fun a v => v = encode a

/- Null, or what a thing is written as that is there. -/
inductive Nullable
    (Writes : Writing α) : Writing (Option α)
  | null : Nullable Writes none .null
  | value
      {a : α}
      {v : Json}
      (hWrites : Writes a v) :
      Nullable Writes (some a) v

/- An array, item by item. -/
def Items
    (Writes : Writing α) : Writing (List α) :=
  fun items v =>
    ∃ values, v = .array values ∧
      List.Forall₂ Writes items values

/- An object with each key once, whose fields write a record. -/
def Record
    (Fields : α → List (String × Json) → Prop) : Writing α :=
  fun a v =>
    ∃ fields, v = .object fields ∧
      (fields.map Prod.fst).Nodup ∧ Fields a fields

/- A field is there and holds a value. -/
def Present
    (fields : List (String × Json))
    (name : String)
    (Writes : Writing α)
    (value : Option α) : Prop :=
  ∃ v, (name, v) ∈ fields ∧ Nullable Writes value v

/- A field is there, or the value is its default. -/
def MayLack
    (fields : List (String × Json))
    (name : String)
    (default : Option α)
    (Writes : Writing α)
    (value : Option α) : Prop :=
  Present fields name Writes value ∨
    name ∉ fields.map Prod.fst ∧ value = default

/- A text, a truth value, a whole number. -/
abbrev Text : Writing String := As .text
abbrev Flag : Writing Bool := As .bool
abbrev Number : Writing Whole := As Encode.whole

end Document

open Document

------------------------------------------------------------
-- Records
------------------------------------------------------------

/- The fields that write an enumeration value. -/
structure EnumValue.Fields
    (value : EnumValue)
    (fields : List (String × Json)) : Prop where
  name : Present fields "name" Text value.name
  text : Present fields "str_value" Text value.text
  number : MayLack fields "int_value" none Number value.number

/- The fields that write the target of a handle. -/
structure HandleTarget.Fields
    (target : HandleTarget)
    (fields : List (String × Json)) : Prop where
  elementName :
    MayLack fields "element_name" none Text target.elementName
  nativeType :
    MayLack fields "native_type" none (As (.text ·.text))
      target.nativeType

/- The fields that write an attribute. -/
structure Attribute.Fields
    (a : Attribute)
    (fields : List (String × Json)) : Prop where
  name : Present fields "name" Text a.name
  key : Present fields "attribute_name" Text a.key
  type : Present fields "data_type" (As (.text ·.text)) a.type
  format :
    MayLack fields "data_format" (some .binary)
      (As (.text ·.text)) a.format
  numbering :
    MayLack fields "numbered" (some .no) (As (.text ·.text))
      a.numbering
  readOnly :
    MayLack fields "read_only" (some false) Flag a.readOnly
  writeOnly :
    MayLack fields "write_only" (some false) Flag a.writeOnly
  creationOnly :
    MayLack fields "creation_only" (some false) Flag
      a.creationOnly
  deprecated :
    MayLack fields "deprecated" (some false) Flag a.deprecated
  enumValues :
    MayLack fields "enum_values" none
      (Items (Nullable (Record EnumValue.Fields))) a.enumValues
  handle :
    MayLack fields "handle" none (Record HandleTarget.Fields)
      a.handle
  documentation :
    MayLack fields "documentation" none Text a.documentation

/- The fields that write a callback. -/
structure Callback.Fields
    (callback : Callback)
    (fields : List (String × Json)) : Prop where
  name : Present fields "name" Text callback.name
  key : Present fields "attribute_name" Text callback.key
  arguments :
    MayLack fields "arguments" (some [])
      (Items (Nullable (As (.text ·.text)))) callback.arguments
  returnType :
    MayLack fields "return_type" (some .void)
      (As (.text ·.text)) callback.returnType
  documentation :
    MayLack fields "documentation" none Text
      callback.documentation

/- The fields that write an attribute group. -/
structure AttributeGroup.Fields
    (group : AttributeGroup)
    (fields : List (String × Json)) : Prop where
  name : Present fields "name" Text group.name
  attributes :
    MayLack fields "attributes" (some [])
      (Items (Nullable (Record Attribute.Fields)))
      group.attributes
  bases :
    MayLack fields "bases" (some []) (Items Text) group.bases

/- The fields that write an element. -/
structure Element.Fields
    (element : Element)
    (fields : List (String × Json)) : Prop where
  name : Present fields "name" Text element.name
  className : Present fields "class_name" Text element.className
  nativeType :
    Present fields "native_type" (As (.text ·.text))
      element.nativeType
  attributes :
    MayLack fields "attributes" (some [])
      (Items (Nullable (Record Attribute.Fields)))
      element.attributes
  callbacks :
    MayLack fields "callbacks" (some [])
      (Items (Nullable (Record Callback.Fields)))
      element.callbacks
  childrenCount :
    MayLack fields "children_count" (some (.int 0)) Number
      element.childrenCount
  bases :
    MayLack fields "bases" (some []) (Items Text) element.bases
  documentation :
    MayLack fields "documentation" none Text
      element.documentation

/- The fields that write a catalog. -/
structure Catalog.Fields
    (catalog : Catalog)
    (fields : List (String × Json)) : Prop where
  groups :
    MayLack fields "groups" (some [])
      (Items (Nullable (Record AttributeGroup.Fields)))
      catalog.groups
  elements :
    MayLack fields "classes" (some [])
      (Items (Nullable (Record Element.Fields)))
      catalog.elements

/- The documents that a catalog may be written as. -/
abbrev Catalog.Written : Writing Catalog :=
  Record Catalog.Fields

------------------------------------------------------------
-- Reading
------------------------------------------------------------

namespace Document

/- What is written is no null, and is decoded as it was. -/
def Reads
    (decode : Json → Result α)
    (Writes : Writing α) : Prop :=
  ∀ a v, Writes a v → v ≠ .null ∧ decode v = .ok a

variable {decode : Json → Result α}
variable {Writes : Writing α}
variable {fields : List (String × Json)}
variable {name : String}
variable {value default : Option α}

/- A key that stands once is found with its value. -/
theorem lookup_of_mem
    {v : Json}
    (hOnce : (fields.map Prod.fst).Nodup)
    (hField : (name, v) ∈ fields) :
    fields.lookup name = some v := by
  induction fields with
  | nil => cases hField
  | cons field rest ih =>
      rcases field with ⟨key, value⟩
      rw [List.map_cons, List.nodup_cons] at hOnce
      rcases List.mem_cons.mp hField with hHere | hLater
      · rw [Prod.mk.injEq] at hHere
        rw [hHere.1, hHere.2, List.lookup_cons_self]
      · have hOther : (name == key) = false := by
          rw [beq_eq_false_iff_ne]
          rintro rfl
          exact hOnce.1 (List.mem_map.mpr ⟨_, hLater, rfl⟩)
        rw [List.lookup_cons, hOther]
        exact ih hOnce.2 hLater

/- A key that does not stand there is not found. -/
theorem lookup_of_not_mem
    (hNone : name ∉ fields.map Prod.fst) :
    fields.lookup name = none := by
  rw [List.lookup_eq_none_iff]
  intro field hField
  rw [bne_iff_ne]
  rintro rfl
  exact hNone (List.mem_map_of_mem hField)

/- Decoding may meet a null instead. -/
theorem Reads.nullable
    (hReads : Reads decode Writes)
    {v : Json}
    (hWrites : Nullable Writes value v) :
    Decode.nullable decode v = .ok value := by
  cases hWrites with
  | null => rfl
  | @value a _ hWrites =>
      rcases hReads a v hWrites with ⟨hSome, hValue⟩
      unfold Decode.nullable
      split
      · next hNull => exact absurd rfl hSome
      · rw [hValue]
        rfl

/- A field that has to be there is decoded. -/
theorem Reads.required
    (hReads : Reads decode Writes)
    (hOnce : (fields.map Prod.fst).Nodup)
    (hField : Present fields name Writes value) :
    Decode.required fields name decode = .ok value := by
  rcases hField with ⟨v, hField, hWrites⟩
  unfold Decode.required
  rw [lookup_of_mem hOnce hField]
  exact hReads.nullable hWrites

/- So is one that is there, or lacks because of its default. -/
theorem Reads.withDefault
    (hReads : Reads decode Writes)
    (hOnce : (fields.map Prod.fst).Nodup)
    (hField : MayLack fields name default Writes value) :
    Decode.withDefault fields name default decode =
      .ok value := by
  unfold Decode.withDefault
  rcases hField with ⟨v, hField, hWrites⟩ | ⟨hNone, hDefault⟩
  · rw [lookup_of_mem hOnce hField]
    exact hReads.nullable hWrites
  · rw [lookup_of_not_mem hNone, hDefault]

/- Lists are decoded item by item. -/
theorem Reads.items
    (hReads :
      ∀ a v, Writes a v → decode v = .ok a) :
    Reads (asList decode) (Items Writes) := by
  intro items v hWrites
  rcases hWrites with ⟨values, rfl, hEach⟩
  refine ⟨nofun, ?_⟩
  show values.mapM decode = .ok items
  induction hEach with
  | nil => rfl
  | @cons a v items values hFirst _ ih =>
      rw [List.mapM_cons, hReads a v hFirst, ih]
      rfl

/- Records are decoded if their fields are. -/
theorem Reads.record
    {Fields : α → List (String × Json) → Prop}
    (hFields :
      ∀ a fields, (fields.map Prod.fst).Nodup →
        Fields a fields → decode (.object fields) = .ok a) :
    Reads decode (Record Fields) := by
  intro a v hWrites
  rcases hWrites with ⟨fields, rfl, hOnce, hWritten⟩
  exact ⟨nofun, hFields a fields hOnce hWritten⟩

------------------------------------------------------------
-- Scalars
------------------------------------------------------------

theorem reads_text : Reads asText Text := by
  rintro s v rfl
  exact ⟨nofun, rfl⟩

theorem reads_flag : Reads asFlag Flag := by
  rintro b v rfl
  exact ⟨nofun, rfl⟩

theorem reads_number : Reads asWhole Number := by
  rintro number v rfl
  cases number with
  | int n => exact ⟨nofun, rfl⟩
  | flag b => exact ⟨nofun, rfl⟩

theorem reads_dataType :
    Reads asDataType (As (.text ·.text)) := by
  rintro type v rfl
  refine ⟨nofun, ?_⟩
  cases type <;> rfl

theorem reads_dataFormat :
    Reads asDataFormat (As (.text ·.text)) := by
  rintro format v rfl
  refine ⟨nofun, ?_⟩
  cases format <;> rfl

theorem reads_numbering :
    Reads asNumbering (As (.text ·.text)) := by
  rintro numbering v rfl
  refine ⟨nofun, ?_⟩
  cases numbering <;> rfl

theorem reads_nativeType :
    Reads asNativeType (As (.text ·.text)) := by
  rintro nativeType v rfl
  refine ⟨nofun, ?_⟩
  cases nativeType <;> rfl

end Document

------------------------------------------------------------
-- Reading Records
------------------------------------------------------------

/- An enumeration value is decoded as it was written. -/
theorem EnumValue.reads_fields :
    Reads EnumValue.ofJson (Record EnumValue.Fields) := by
  apply Reads.record
  intro value fields hOnce hFields
  unfold EnumValue.ofJson
  simp only [Decode.fields, bind, Except.bind,
    reads_text.required hOnce hFields.name,
    reads_text.required hOnce hFields.text,
    reads_number.withDefault hOnce hFields.number]
  rfl

/- So is the target of a handle. -/
theorem HandleTarget.reads_fields :
    Reads HandleTarget.ofJson (Record HandleTarget.Fields) := by
  apply Reads.record
  intro target fields hOnce hFields
  unfold HandleTarget.ofJson
  simp only [Decode.fields, bind, Except.bind,
    reads_text.withDefault hOnce hFields.elementName,
    reads_nativeType.withDefault hOnce hFields.nativeType]
  rfl

/- So is an attribute. -/
theorem Attribute.reads_fields :
    Reads Attribute.ofJson (Record Attribute.Fields) := by
  apply Reads.record
  intro a fields hOnce hFields
  have hValues :
      Reads (asList (Decode.nullable EnumValue.ofJson))
        (Items (Nullable (Record EnumValue.Fields))) :=
    Reads.items fun _ _ => (EnumValue.reads_fields).nullable
  unfold Attribute.ofJson
  simp only [Decode.fields, bind, Except.bind,
    reads_text.required hOnce hFields.name,
    reads_text.required hOnce hFields.key,
    reads_dataType.required hOnce hFields.type,
    reads_dataFormat.withDefault hOnce hFields.format,
    reads_numbering.withDefault hOnce hFields.numbering,
    reads_flag.withDefault hOnce hFields.readOnly,
    reads_flag.withDefault hOnce hFields.writeOnly,
    reads_flag.withDefault hOnce hFields.creationOnly,
    reads_flag.withDefault hOnce hFields.deprecated,
    hValues.withDefault hOnce hFields.enumValues,
    (HandleTarget.reads_fields).withDefault hOnce hFields.handle,
    reads_text.withDefault hOnce hFields.documentation]
  rfl

/- So is a callback. -/
theorem Callback.reads_fields :
    Reads Callback.ofJson (Record Callback.Fields) := by
  apply Reads.record
  intro callback fields hOnce hFields
  have hArguments :
      Reads (asList (Decode.nullable asDataType))
        (Items (Nullable (As (.text ·.text)))) :=
    Reads.items fun _ _ => reads_dataType.nullable
  unfold Callback.ofJson
  simp only [Decode.fields, bind, Except.bind,
    reads_text.required hOnce hFields.name,
    reads_text.required hOnce hFields.key,
    hArguments.withDefault hOnce hFields.arguments,
    reads_dataType.withDefault hOnce hFields.returnType,
    reads_text.withDefault hOnce hFields.documentation]
  rfl

/- Lists of names and of attributes are decoded. -/
theorem reads_names :
    Reads (asList asText) (Items Text) :=
  Reads.items fun s v hWrites => (reads_text s v hWrites).2

theorem Attribute.reads_list :
    Reads (asList (Decode.nullable Attribute.ofJson))
      (Items (Nullable (Record Attribute.Fields))) :=
  Reads.items fun _ _ => (Attribute.reads_fields).nullable

/- An attribute group is decoded as it was written. -/
theorem AttributeGroup.reads_fields :
    Reads AttributeGroup.ofJson
      (Record AttributeGroup.Fields) := by
  apply Reads.record
  intro group fields hOnce hFields
  unfold AttributeGroup.ofJson
  simp only [Decode.fields, bind, Except.bind,
    reads_text.required hOnce hFields.name,
    (Attribute.reads_list).withDefault hOnce hFields.attributes,
    reads_names.withDefault hOnce hFields.bases]
  rfl

/- So is an element. -/
theorem Element.reads_fields :
    Reads Element.ofJson (Record Element.Fields) := by
  apply Reads.record
  intro element fields hOnce hFields
  have hCallbacks :
      Reads (asList (Decode.nullable Callback.ofJson))
        (Items (Nullable (Record Callback.Fields))) :=
    Reads.items fun _ _ => (Callback.reads_fields).nullable
  unfold Element.ofJson
  simp only [Decode.fields, bind, Except.bind,
    reads_text.required hOnce hFields.name,
    reads_text.required hOnce hFields.className,
    reads_nativeType.required hOnce hFields.nativeType,
    (Attribute.reads_list).withDefault hOnce hFields.attributes,
    hCallbacks.withDefault hOnce hFields.callbacks,
    reads_number.withDefault hOnce hFields.childrenCount,
    reads_names.withDefault hOnce hFields.bases,
    reads_text.withDefault hOnce hFields.documentation]
  rfl

/- And so is a catalog. -/
theorem Catalog.reads_written :
    Reads Catalog.ofJson Catalog.Written := by
  apply Reads.record
  intro catalog fields hOnce hFields
  have hGroups :
      Reads (asList (Decode.nullable AttributeGroup.ofJson))
        (Items (Nullable (Record AttributeGroup.Fields))) :=
    Reads.items fun _ _ => (AttributeGroup.reads_fields).nullable
  have hElements :
      Reads (asList (Decode.nullable Element.ofJson))
        (Items (Nullable (Record Element.Fields))) :=
    Reads.items fun _ _ => (Element.reads_fields).nullable
  unfold Catalog.ofJson
  simp only [Decode.fields, bind, Except.bind,
    hGroups.withDefault hOnce hFields.groups,
    hElements.withDefault hOnce hFields.elements]
  rfl

/-
  Any document that a catalog is written as decodes to that
  catalog, and so does every text of such a document.
-/
theorem Catalog.ofJson_of_written
    {catalog : Catalog}
    {v : Json}
    (hWritten : catalog.Written v) :
    Catalog.ofJson v = .ok catalog ∧
      ∀ text, Json.read text = .ok v →
        Catalog.parse text = .ok catalog := by
  have hDecoded := (Catalog.reads_written catalog v hWritten).2
  refine ⟨hDecoded, ?_⟩
  intro text hText
  unfold Catalog.parse Decode.parse
  rw [hText]
  exact hDecoded

------------------------------------------------------------
-- A Document in Another Order
------------------------------------------------------------

/- A value that its document tells apart from a rank. -/
def shelfSide : EnumValue :=
  ⟨some "Left", some "ALEFT", none⟩

def shelfSideFields : List (String × Json) :=
  [ ("str_value", .text "ALEFT"), ("rank", .null),
    ("name", .text "Left") ]

/- An attribute whose document leaves most fields out. -/
def shelfAlign : Attribute :=
  { name := some "ALIGN"
    key := some "ALIGNMENT"
    type := some .string
    format := some .enum
    numbering := some .no
    readOnly := some false
    writeOnly := some false
    creationOnly := some true
    deprecated := some false
    enumValues := some [some shelfSide]
    handle := none
    documentation := none }

def shelfAlignFields : List (String × Json) :=
  [ ("creation_only", .bool true),
    ("enum_values", .array [.object shelfSideFields]),
    ("data_format", .text "Enum"), ("data_type", .text "String"),
    ("attribute_name", .text "ALIGNMENT"),
    ("name", .text "ALIGN") ]

/- An element whose document holds a null and a stray field. -/
def shelf : Element :=
  { name := some "Shelf"
    className := some "vbox"
    nativeType := some .void
    attributes := some [some shelfAlign]
    callbacks := some []
    childrenCount := some (.int (-1))
    bases := some ["Base"]
    documentation := none }

def shelfFields : List (String × Json) :=
  [ ("bases", .array [.text "Base"]), ("since", .int 3),
    ("attributes", .array [.object shelfAlignFields]),
    ("children_count", .int (-1)), ("native_type", .text "Void"),
    ("class_name", .text "vbox"), ("name", .text "Shelf"),
    ("documentation", .null) ]

/- A document of a catalog that holds nothing else. -/
def shelfDocument : Json :=
  .object
    [ ("classes", .array [.object shelfFields]),
      ("version", .array [.int 1, .null]) ]

/- It is decoded, with a default wherever a field is left out. -/
theorem shelf_is_decoded :
    Catalog.Written ⟨some [], some [some shelf]⟩ shelfDocument ∧
      Catalog.ofJson shelfDocument =
        .ok ⟨some [], some [some shelf]⟩ := by
  have hSide :
      Record EnumValue.Fields shelfSide
        (.object shelfSideFields) := by
    refine ⟨_, rfl, by simp [shelfSideFields], ?_⟩
    constructor
    · exact ⟨_, by simp [shelfSideFields], .value rfl⟩
    · exact ⟨_, by simp [shelfSideFields], .value rfl⟩
    · exact .inr ⟨by simp [shelfSideFields], rfl⟩
  have hAlign :
      Record Attribute.Fields shelfAlign
        (.object shelfAlignFields) := by
    refine ⟨_, rfl, by simp [shelfAlignFields], ?_⟩
    constructor
    case name | key =>
      exact ⟨_, by simp [shelfAlignFields], .value rfl⟩
    case type =>
      exact
        ⟨_, by simp [shelfAlignFields, DataType.text],
          .value rfl⟩
    case format =>
      exact
        .inl
          ⟨_, by simp [shelfAlignFields, DataFormat.text],
            .value rfl⟩
    case creationOnly =>
      exact .inl ⟨_, by simp [shelfAlignFields], .value rfl⟩
    case enumValues =>
      exact
        .inl
          ⟨_, by simp [shelfAlignFields],
            .value ⟨_, rfl, .cons (.value hSide) .nil⟩⟩
    all_goals exact .inr ⟨by simp [shelfAlignFields], rfl⟩
  have hShelf :
      Record Element.Fields shelf (.object shelfFields) := by
    refine ⟨_, rfl, by simp [shelfFields], ?_⟩
    constructor
    case name | className =>
      exact ⟨_, by simp [shelfFields], .value rfl⟩
    case nativeType =>
      exact
        ⟨_, by simp [shelfFields, NativeType.text], .value rfl⟩
    case attributes =>
      exact
        .inl
          ⟨_, by simp [shelfFields],
            .value ⟨_, rfl, .cons (.value hAlign) .nil⟩⟩
    case callbacks => exact .inr ⟨by simp [shelfFields], rfl⟩
    case childrenCount =>
      exact
        .inl
          ⟨_, by simp [shelfFields, Encode.whole], .value rfl⟩
    case bases =>
      exact
        .inl
          ⟨_, by simp [shelfFields],
            .value ⟨_, rfl, .cons rfl .nil⟩⟩
    case documentation =>
      exact .inl ⟨_, by simp [shelfFields], .null⟩
  have hWritten :
      Catalog.Written ⟨some [], some [some shelf]⟩
        shelfDocument := by
    refine ⟨_, rfl, by simp, ?_⟩
    constructor
    · exact .inr ⟨by simp, rfl⟩
    · exact
        .inl
          ⟨_, by simp,
            .value ⟨_, rfl, .cons (.value hShelf) .nil⟩⟩
  exact ⟨hWritten, (Catalog.ofJson_of_written hWritten).1⟩

------------------------------------------------------------
-- The Document With All Fields
------------------------------------------------------------

namespace Document

variable {encode : α → Json}
variable {Writes : Writing α}
variable {fields : List (String × Json)}
variable {name : String}
variable {value default : Option α}

/- A field is there with what its value is encoded as. -/
theorem present_of_mem
    (hEncode : ∀ a, Writes a (encode a))
    (hField : (name, Encode.nullable encode value) ∈ fields) :
    Present fields name Writes value := by
  refine ⟨_, hField, ?_⟩
  cases value with
  | none => exact .null
  | some a => exact .value (hEncode a)

/- So it does not lack. -/
theorem mayLack_of_mem
    (hEncode : ∀ a, Writes a (encode a))
    (hField : (name, Encode.nullable encode value) ∈ fields) :
    MayLack fields name default Writes value :=
  .inl (present_of_mem hEncode hField)

/- Lists are encoded item by item. -/
theorem items_list
    (hEncode : ∀ a, Writes a (encode a))
    (items : List α) :
    Items Writes items (Encode.list encode items) := by
  refine ⟨items.map encode, rfl, ?_⟩
  rw [List.forall₂_map_right_iff, List.forall₂_same]
  intro a _
  exact hEncode a

/- Also where their items may be null. -/
theorem items_nullable
    (hEncode : ∀ a, Writes a (encode a))
    (items : List (Option α)) :
    Items (Nullable Writes) items
      (Encode.list (Encode.nullable encode) items) := by
  apply items_list
  intro item
  cases item with
  | none => exact .null
  | some a => exact .value (hEncode a)

end Document

/- An enumeration value is written with all its fields. -/
theorem EnumValue.written_toJson
    (value : EnumValue) :
    Record EnumValue.Fields value value.toJson := by
  refine ⟨_, rfl, by simp, ?_⟩
  constructor
  · exact present_of_mem (fun _ => rfl) (by simp)
  · exact present_of_mem (fun _ => rfl) (by simp)
  · exact mayLack_of_mem (fun _ => rfl) (by simp)

/- So is the target of a handle. -/
theorem HandleTarget.written_toJson
    (target : HandleTarget) :
    Record HandleTarget.Fields target target.toJson := by
  refine ⟨_, rfl, by simp, ?_⟩
  constructor
  · exact mayLack_of_mem (fun _ => rfl) (by simp)
  · exact mayLack_of_mem (fun _ => rfl) (by simp)

/- So is an attribute. -/
theorem Attribute.written_toJson
    (a : Attribute) :
    Record Attribute.Fields a a.toJson := by
  refine ⟨_, rfl, by simp, ?_⟩
  constructor
  case enumValues =>
    exact
      mayLack_of_mem (items_nullable EnumValue.written_toJson)
        (by simp)
  case handle =>
    exact
      mayLack_of_mem HandleTarget.written_toJson (by simp)
  case name | key | type =>
    exact present_of_mem (fun _ => rfl) (by simp)
  all_goals exact mayLack_of_mem (fun _ => rfl) (by simp)

/- So is a callback. -/
theorem Callback.written_toJson
    (callback : Callback) :
    Record Callback.Fields callback callback.toJson := by
  refine ⟨_, rfl, by simp, ?_⟩
  constructor
  · exact present_of_mem (fun _ => rfl) (by simp)
  · exact present_of_mem (fun _ => rfl) (by simp)
  · exact
      mayLack_of_mem (items_nullable fun _ => rfl) (by simp)
  · exact mayLack_of_mem (fun _ => rfl) (by simp)
  · exact mayLack_of_mem (fun _ => rfl) (by simp)

/- So is an attribute group. -/
theorem AttributeGroup.written_toJson
    (group : AttributeGroup) :
    Record AttributeGroup.Fields group group.toJson := by
  refine ⟨_, rfl, by simp, ?_⟩
  constructor
  · exact present_of_mem (fun _ => rfl) (by simp)
  · exact
      mayLack_of_mem (items_nullable Attribute.written_toJson)
        (by simp)
  · exact mayLack_of_mem (items_list fun _ => rfl) (by simp)

/- So is an element. -/
theorem Element.written_toJson
    (element : Element) :
    Record Element.Fields element element.toJson := by
  refine ⟨_, rfl, by simp, ?_⟩
  constructor
  case attributes =>
    exact
      mayLack_of_mem (items_nullable Attribute.written_toJson)
        (by simp)
  case callbacks =>
    exact
      mayLack_of_mem (items_nullable Callback.written_toJson)
        (by simp)
  case bases =>
    exact mayLack_of_mem (items_list fun _ => rfl) (by simp)
  case name | className | nativeType =>
    exact present_of_mem (fun _ => rfl) (by simp)
  all_goals exact mayLack_of_mem (fun _ => rfl) (by simp)

/- And so is a catalog. -/
theorem Catalog.written_toJson
    (catalog : Catalog) :
    catalog.Written catalog.toJson := by
  refine ⟨_, rfl, by simp, ?_⟩
  constructor
  · exact
      mayLack_of_mem
        (items_nullable AttributeGroup.written_toJson) (by simp)
  · exact
      mayLack_of_mem (items_nullable Element.written_toJson)
        (by simp)

/-
  Decoding normalises in one step: written back with all its
  fields, what was decoded decodes to itself, and nothing else
  changes.  So it does for a text, of whose repeated keys the
  reader keeps the last.
-/
theorem Catalog.decoding_normalises
    (v : Json)
    (text : String) :
    (do
      let catalog ← Catalog.ofJson v
      Catalog.ofJson catalog.toJson) = Catalog.ofJson v ∧
    (do
      let catalog ← Catalog.parse text
      Catalog.ofJson catalog.toJson) = Catalog.parse text := by
  have hAgain :
      ∀ result : Decode.Result Catalog,
        (do
          let catalog ← result
          Catalog.ofJson catalog.toJson) = result := by
    intro result
    cases result with
    | error fault => rfl
    | ok catalog =>
        have hWritten := catalog.written_toJson
        exact (Catalog.reads_written _ _ hWritten).2
  exact ⟨hAgain _, hAgain _⟩

end ElementBindings
