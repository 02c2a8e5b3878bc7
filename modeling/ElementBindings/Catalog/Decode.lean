import ElementBindings.Catalog.Basic
import ElementBindings.Fault

/-
  Catalogs from JSON values.

  Fields are decoded in their order, depth first, and the
  first fault ends the decoding.  A null stays null in every
  field.  Other values are turned into the type of the field
  where that is possible: everything has a text and a truth
  value, numbers and digits are integers, and texts and
  objects can be read as lists.

  Key definitions include:
    * `Decode.required`, `Decode.withDefault`
    * `Attribute.ofJson`
    * `Callback.ofJson`
    * `Element.ofJson`
    * `Catalog.ofJson`
    * `Catalog.parse`
-/

namespace ElementBindings

namespace Decode

------------------------------------------------------------
-- Fields
------------------------------------------------------------

/- The result of decoding. -/
abbrev Result (α : Type) :=
  Except DecodeFault α

/- The fields of a record. -/
def fields : Json → Result (List (String × Json))
  | .object fields => .ok fields
  | v => .error (.notRecord v.kind)

/- Decode a value that may be null. -/
def nullable
    {α : Type}
    (decode : Json → Result α) :
    Json →
    Result (Option α)
  | .null => .ok none
  | v => (decode v).map some

/- A field that has to be present. -/
def required
    {α : Type}
    (record : List (String × Json))
    (name : String)
    (decode : Json → Result α) :
    Result (Option α) :=
  match record.lookup name with
  | none => .error (.missingField name)
  | some v => nullable decode v

/- A field that may be left out. -/
def withDefault
    {α : Type}
    (record : List (String × Json))
    (name : String)
    (default : Option α)
    (decode : Json → Result α) :
    Result (Option α) :=
  match record.lookup name with
  | none => .ok default
  | some v => nullable decode v

------------------------------------------------------------
-- Scalars
------------------------------------------------------------

/- Every value has a text. -/
def asText
    (v : Json) : Result String :=
  .ok v.shown

/- Every value has a truth value. -/
def asFlag
    (v : Json) : Result Bool :=
  .ok v.isTruthy

/- An integer, a boolean, or a value with an integer part. -/
def asWhole : Json → Result Whole
  | .int n => .ok (.int n)
  | .bool b => .ok (.flag b)
  | .number (.finite negative significand exponent) =>
      .ok (.int
        (Binary64.truncate negative significand exponent))
  | .number (.infinity _) => .error .infinite
  | .number .nan => .error .notANumber
  | .text s =>
      match Integer.read s.toList with
      | .ok n => .ok (.int n)
      | .error fault => .error (.ofInteger s fault)
  | v => .error (.notNumeric v.kind)

/- A member of an enumeration, found by its text. -/
def member
    {α : Type}
    (enumeration : String)
    (all : List α)
    (name : α → String)
    (v : Json) : Result α :=
  let found :=
    match v with
    | .text s => all.find? (fun a => name a = s)
    | _ => none
  match found with
  | some a => .ok a
  | none => .error (.notMember v.literal enumeration)

/- A data type. -/
def asDataType : Json → Result DataType :=
  member "DataType" DataType.all DataType.text

/- A data format. -/
def asDataFormat : Json → Result DataFormat :=
  member "DataFormat" DataFormat.all DataFormat.text

/- A numbering. -/
def asNumbering : Json → Result Numbering :=
  member "NumberedAttribute" Numbering.all Numbering.text

/- A native kind. -/
def asNativeType : Json → Result NativeType :=
  member "NativeType" NativeType.all NativeType.text

------------------------------------------------------------
-- Lists
------------------------------------------------------------

/- The items of a value: those of an array, the characters of
   a text, or the keys of an object. -/
def items : Json → Result (List Json)
  | .array items => .ok items
  | .text s =>
      .ok (s.toList.map fun c => .text (String.singleton c))
  | .object fields =>
      .ok (fields.map fun field => .text field.1)
  | v => .error (.notList v.kind)

/- A list whose items are decoded one by one. -/
def asList
    {α : Type}
    (decode : Json → Result α)
    (v : Json) : Result (List α) := do
  (← items v).mapM decode

end Decode

------------------------------------------------------------
-- Records
------------------------------------------------------------

open Decode

/- Decode an enumeration value. -/
def EnumValue.ofJson
    (v : Json) : Result EnumValue := do
  let record ← fields v
  return {
    name := ← required record "name" asText
    text := ← required record "str_value" asText
    number := ← withDefault record "int_value" none asWhole }

/- Decode the target of a handle. -/
def HandleTarget.ofJson
    (v : Json) : Result HandleTarget := do
  let record ← fields v
  return {
    elementName :=
      ← withDefault record "element_name" none asText
    nativeType :=
      ← withDefault record "native_type" none asNativeType }

/- Decode an attribute. -/
def Attribute.ofJson
    (v : Json) : Result Attribute := do
  let record ← fields v
  return {
    name := ← required record "name" asText
    key := ← required record "attribute_name" asText
    type := ← required record "data_type" asDataType
    format :=
      ← withDefault record "data_format" (some .binary)
        asDataFormat
    numbering :=
      ← withDefault record "numbered" (some .no) asNumbering
    readOnly :=
      ← withDefault record "read_only" (some false) asFlag
    writeOnly :=
      ← withDefault record "write_only" (some false) asFlag
    creationOnly :=
      ← withDefault record "creation_only" (some false) asFlag
    deprecated :=
      ← withDefault record "deprecated" (some false) asFlag
    enumValues :=
      ← withDefault record "enum_values" none
        (asList (nullable EnumValue.ofJson))
    handle :=
      ← withDefault record "handle" none HandleTarget.ofJson
    documentation :=
      ← withDefault record "documentation" none asText }

/- Decode a callback. -/
def Callback.ofJson
    (v : Json) : Result Callback := do
  let record ← fields v
  return {
    name := ← required record "name" asText
    key := ← required record "attribute_name" asText
    arguments :=
      ← withDefault record "arguments" (some [])
        (asList (nullable asDataType))
    returnType :=
      ← withDefault record "return_type" (some .void) asDataType
    documentation :=
      ← withDefault record "documentation" none asText }

/- Decode an attribute group. -/
def AttributeGroup.ofJson
    (v : Json) : Result AttributeGroup := do
  let record ← fields v
  return {
    name := ← required record "name" asText
    attributes :=
      ← withDefault record "attributes" (some [])
        (asList (nullable Attribute.ofJson))
    bases :=
      ← withDefault record "bases" (some []) (asList asText) }

/- Decode an element. -/
def Element.ofJson
    (v : Json) : Result Element := do
  let record ← fields v
  return {
    name := ← required record "name" asText
    className := ← required record "class_name" asText
    nativeType := ← required record "native_type" asNativeType
    attributes :=
      ← withDefault record "attributes" (some [])
        (asList (nullable Attribute.ofJson))
    callbacks :=
      ← withDefault record "callbacks" (some [])
        (asList (nullable Callback.ofJson))
    childrenCount :=
      ← withDefault record "children_count" (some (.int 0))
        asWhole
    bases :=
      ← withDefault record "bases" (some []) (asList asText)
    documentation :=
      ← withDefault record "documentation" none asText }

/- Decode a catalog. -/
def Catalog.ofJson
    (v : Json) : Result Catalog := do
  let record ← fields v
  return {
    groups :=
      ← withDefault record "groups" (some [])
        (asList (nullable AttributeGroup.ofJson))
    elements :=
      ← withDefault record "classes" (some [])
        (asList (nullable Element.ofJson)) }

------------------------------------------------------------
-- Texts
------------------------------------------------------------

/- Read a text and decode its value. -/
def Decode.parse
    {α : Type}
    (decode : Json → Result α)
    (text : String) : Result α :=
  match Json.read text with
  | .ok v => decode v
  | .error fault => .error (.text fault)

/- Read a catalog from JSON text, without checking it. -/
def Catalog.parse
    (text : String) : Result Catalog :=
  Decode.parse Catalog.ofJson text

end ElementBindings
