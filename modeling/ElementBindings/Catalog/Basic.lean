/-
  The metadata of user interface elements.

  A catalog lists elements and the attribute groups that they
  inherit.  Any field may be null in a catalog that has only
  been decoded, so every field holds an option; so do the
  items of lists of records and of enumerations.

  Key definitions include:
    * `DataType`, `DataFormat`, `Numbering`, `NativeType`
    * `Whole`
    * `EnumValue`, `HandleTarget`
    * `Attribute`, `Callback`
    * `AttributeGroup`, `Element`, `Catalog`
-/

namespace ElementBindings

------------------------------------------------------------
-- Enumerations
------------------------------------------------------------

/- The primitive shape of an attribute value or an argument. -/
inductive DataType where
  | void
  | int
  | refInt
  | boolean
  | float
  | double
  | char
  | string
  | handle
  | voidPtr
  | canvas
  | unknown
deriving DecidableEq, Repr

namespace DataType

/- All data types. -/
def all : List DataType :=
  [ .void, .int, .refInt, .boolean, .float, .double, .char,
    .string, .handle, .voidPtr, .canvas, .unknown ]

/- The name of a data type in a catalog. -/
def text : DataType → String
  | .void => "Void"
  | .int => "Int"
  | .refInt => "RefInt"
  | .boolean => "Boolean"
  | .float => "Float"
  | .double => "Double"
  | .char => "Char"
  | .string => "String"
  | .handle => "Handle"
  | .voidPtr => "VoidPtr"
  | .canvas => "Canvas"
  | .unknown => "Unknown"

end DataType

/- How a structured value is laid out in an attribute string. -/
inductive DataFormat where
  | binary
  | size
  | margin
  | linColPos
  | xyPosComma
  | xyPosColon
  | range
  | dialogSize
  | date
  | rgb
  | floatRange
  | alignment
  | rect
  | selection
  | mdiActivate
  | enum
deriving DecidableEq, Repr

namespace DataFormat

/- All data formats. -/
def all : List DataFormat :=
  [ .binary, .size, .margin, .linColPos, .xyPosComma,
    .xyPosColon, .range, .dialogSize, .date, .rgb,
    .floatRange, .alignment, .rect, .selection,
    .mdiActivate, .enum ]

/- The name of a data format in a catalog. -/
def text : DataFormat → String
  | .binary => "Binary"
  | .size => "Size"
  | .margin => "Margin"
  | .linColPos => "LinColPosCommaSeparated"
  | .xyPosComma => "XYPosCommaSeparated"
  | .xyPosColon => "XYPosColonSeparated"
  | .range => "RangeCommaSeparated"
  | .dialogSize => "DialogSize"
  | .date => "Date"
  | .rgb => "Rgb"
  | .floatRange => "FloatRangeCommaSeparated"
  | .alignment => "Alignment"
  | .rect => "Rect"
  | .selection => "Selection"
  | .mdiActivate => "MdiActivate"
  | .enum => "Enum"

end DataFormat

/- How many integer ids address an attribute. -/
inductive Numbering where
  | no
  | oneId
  | twoIds
deriving DecidableEq, Repr

namespace Numbering

/- All numberings. -/
def all : List Numbering :=
  [.no, .oneId, .twoIds]

/- The name of a numbering in a catalog. -/
def text : Numbering → String
  | .no => "No"
  | .oneId => "OneID"
  | .twoIds => "TwoIDs"

end Numbering

/- The native kind of an element. -/
inductive NativeType where
  | void
  | control
  | canvas
  | dialog
  | image
  | menu
  | other
deriving DecidableEq, Repr

namespace NativeType

/- All native kinds. -/
def all : List NativeType :=
  [.void, .control, .canvas, .dialog, .image, .menu, .other]

/- The name of a native kind in a catalog. -/
def text : NativeType → String
  | .void => "Void"
  | .control => "Control"
  | .canvas => "Canvas"
  | .dialog => "Dialog"
  | .image => "Image"
  | .menu => "Menu"
  | .other => "Other"

end NativeType

------------------------------------------------------------
-- Whole Numbers
------------------------------------------------------------

/- An integer, or a boolean that stands in the place of one. -/
inductive Whole where
  | int (n : Int)
  | flag (b : Bool)
deriving DecidableEq, Repr

namespace Whole

/- The integer that is meant. -/
def value : Whole → Int
  | .int n => n
  | .flag b => if b then 1 else 0

/- A whole number in generated text. -/
def text : Whole → String
  | .int n => toString n
  | .flag b => if b then "True" else "False"

end Whole

------------------------------------------------------------
-- Attributes
------------------------------------------------------------

/- One value of an enumerated attribute. -/
structure EnumValue where
  name : Option String
  text : Option String
  number : Option Whole
deriving DecidableEq, Repr

/-
  The target of a handle attribute: a named element type, or
  any element, of a native kind if one is given.
-/
structure HandleTarget where
  elementName : Option String
  nativeType : Option NativeType
deriving DecidableEq, Repr

/-
  One attribute that can be bound.  The name is used for
  symbols, the key addresses the attribute at run time.
-/
structure Attribute where
  name : Option String
  key : Option String
  type : Option DataType
  format : Option DataFormat
  numbering : Option Numbering
  readOnly : Option Bool
  writeOnly : Option Bool
  creationOnly : Option Bool
  deprecated : Option Bool
  enumValues : Option (List (Option EnumValue))
  handle : Option HandleTarget
  documentation : Option String
deriving DecidableEq, Repr

/- A flag is set; a null flag is not. -/
def isSet
    (flag : Option Bool) : Bool :=
  flag.getD false

------------------------------------------------------------
-- Callbacks
------------------------------------------------------------

/- A callback that an element can raise. -/
structure Callback where
  name : Option String
  key : Option String
  arguments : Option (List (Option DataType))
  returnType : Option DataType
  documentation : Option String
deriving DecidableEq, Repr

------------------------------------------------------------
-- Groups and Elements
------------------------------------------------------------

/- A named set of attributes that elements and groups share. -/
structure AttributeGroup where
  name : Option String
  attributes : Option (List (Option Attribute))
  bases : Option (List String)
deriving DecidableEq, Repr

/-
  A complete element.  A children count of zero means that
  the element holds no children.
-/
structure Element where
  name : Option String
  className : Option String
  nativeType : Option NativeType
  attributes : Option (List (Option Attribute))
  callbacks : Option (List (Option Callback))
  childrenCount : Option Whole
  bases : Option (List String)
  documentation : Option String
deriving DecidableEq, Repr

/- All groups and elements, in order of declaration. -/
structure Catalog where
  groups : Option (List (Option AttributeGroup))
  elements : Option (List (Option Element))
deriving DecidableEq, Repr

/- A catalog with nothing in it. -/
def Catalog.empty : Catalog :=
  ⟨some [], some []⟩

end ElementBindings
