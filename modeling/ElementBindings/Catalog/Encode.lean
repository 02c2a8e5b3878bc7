import ElementBindings.Catalog.Basic
import ElementBindings.Json.Value

/-
  Catalogs as JSON values.

  Every record is written with all of its fields, in their
  order; a null field is written as null.

  Key definitions include:
    * `Attribute.toJson`
    * `Callback.toJson`
    * `Element.toJson`
    * `Catalog.toJson`
-/

namespace ElementBindings

namespace Encode

------------------------------------------------------------
-- Scalars and Lists
------------------------------------------------------------

/- A value that may be null. -/
def nullable
    {α : Type}
    (encode : α → Json) :
    Option α →
    Json
  | none => .null
  | some a => encode a

/- A whole number; a boolean stays one. -/
def whole : Whole → Json
  | .int n => .int n
  | .flag b => .bool b

/- A list, item by item. -/
def list
    {α : Type}
    (encode : α → Json)
    (items : List α) : Json :=
  .array (items.map encode)

end Encode

------------------------------------------------------------
-- Records
------------------------------------------------------------

open Encode

/- Encode an enumeration value. -/
def EnumValue.toJson
    (value : EnumValue) : Json :=
  .object
    [ ("name", nullable .text value.name),
      ("str_value", nullable .text value.text),
      ("int_value", nullable whole value.number) ]

/- Encode the target of a handle. -/
def HandleTarget.toJson
    (target : HandleTarget) : Json :=
  .object
    [ ("element_name", nullable .text target.elementName),
      ("native_type",
        nullable (.text ·.text) target.nativeType) ]

/- Encode an attribute. -/
def Attribute.toJson
    (a : Attribute) : Json :=
  .object
    [ ("name", nullable .text a.name),
      ("attribute_name", nullable .text a.key),
      ("data_type", nullable (.text ·.text) a.type),
      ("data_format", nullable (.text ·.text) a.format),
      ("numbered", nullable (.text ·.text) a.numbering),
      ("read_only", nullable .bool a.readOnly),
      ("write_only", nullable .bool a.writeOnly),
      ("creation_only", nullable .bool a.creationOnly),
      ("deprecated", nullable .bool a.deprecated),
      ("enum_values",
        nullable (list (nullable EnumValue.toJson))
          a.enumValues),
      ("handle", nullable HandleTarget.toJson a.handle),
      ("documentation", nullable .text a.documentation) ]

/- Encode a callback. -/
def Callback.toJson
    (c : Callback) : Json :=
  .object
    [ ("name", nullable .text c.name),
      ("attribute_name", nullable .text c.key),
      ("arguments",
        nullable (list (nullable (.text ·.text)))
          c.arguments),
      ("return_type", nullable (.text ·.text) c.returnType),
      ("documentation", nullable .text c.documentation) ]

/- Encode an attribute group. -/
def AttributeGroup.toJson
    (group : AttributeGroup) : Json :=
  .object
    [ ("name", nullable .text group.name),
      ("attributes",
        nullable (list (nullable Attribute.toJson))
          group.attributes),
      ("bases", nullable (list .text) group.bases) ]

/- Encode an element. -/
def Element.toJson
    (element : Element) : Json :=
  .object
    [ ("name", nullable .text element.name),
      ("class_name", nullable .text element.className),
      ("native_type",
        nullable (.text ·.text) element.nativeType),
      ("attributes",
        nullable (list (nullable Attribute.toJson))
          element.attributes),
      ("callbacks",
        nullable (list (nullable Callback.toJson))
          element.callbacks),
      ("children_count",
        nullable whole element.childrenCount),
      ("bases", nullable (list .text) element.bases),
      ("documentation",
        nullable .text element.documentation) ]

/- Encode a catalog. -/
def Catalog.toJson
    (catalog : Catalog) : Json :=
  .object
    [ ("groups",
        nullable (list (nullable AttributeGroup.toJson))
          catalog.groups),
      ("classes",
        nullable (list (nullable Element.toJson))
          catalog.elements) ]

end ElementBindings
