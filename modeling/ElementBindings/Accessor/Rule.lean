import ElementBindings.Catalog.Basic
import ElementBindings.Fault

/-
  The rule by which the accessors of an attribute are written.

  The format and the type of an attribute determine its rule.
  Some combinations are known to have no encoding, so that
  nothing is written for them; the others without a rule are
  faults.

  Key definitions include:
    * `Rule`
    * `Rule.find?`
    * `Attribute.rule`
    * `HandleKind`
    * `Attribute.handleKind`
    * `Attribute.separator`
-/

namespace ElementBindings

------------------------------------------------------------
-- Rules
------------------------------------------------------------

/- The ways of writing an accessor. -/
inductive Rule where
  | int
  | string
  | boolean
  | float
  | double
  | pointer
  | handle
  | void
  | size
  | margin
  | linColPos
  | xyPos
  | range
  | dialogSize
  | date
  | rgb
  | enumInt
  | enumString
  | unsupported
deriving DecidableEq, Repr

namespace Rule

/- The rule of a format and a type, if they have one. -/
def find? : DataFormat → DataType → Option Rule
  | .binary, .int => some .int
  | .binary, .string => some .string
  | .binary, .boolean => some .boolean
  | .binary, .float => some .float
  | .binary, .double => some .double
  | .binary, .voidPtr => some .pointer
  | .binary, .handle => some .handle
  | .binary, .void => some .void
  | .size, .string => some .size
  | .margin, .string => some .margin
  | .linColPos, .string => some .linColPos
  | .xyPosComma, .string => some .xyPos
  | .xyPosColon, .string => some .xyPos
  | .range, .string => some .range
  | .dialogSize, .string => some .dialogSize
  | .date, .string => some .date
  | .rgb, .string => some .rgb
  | .floatRange, .string => some .unsupported
  | .alignment, .string => some .unsupported
  | .rect, .string => some .unsupported
  | .selection, .string => some .unsupported
  | .mdiActivate, .string => some .unsupported
  | .enum, .int => some .enumInt
  | .enum, .string => some .enumString
  | _, .unknown => some .unsupported
  | _, .handle => some .unsupported
  | _, _ => none

/- The rules with a sample value to set and read back. -/
def isSampled : Rule → Bool
  | .pointer | .handle | .void | .dialogSize | .date
  | .unsupported => false
  | _ => true

end Rule

/-
  The rule of an attribute.  An unknown type has no encoding
  in any format, and neither has a handle in a format that is
  null.
-/
def Attribute.rule
    (a : Attribute) : Except Fault Rule :=
  let found :=
    match a.format, a.type with
    | some format, some type => Rule.find? format type
    | none, some .unknown => some .unsupported
    | none, some .handle => some .unsupported
    | _, _ => none
  match found with
  | some rule => .ok rule
  | none =>
      .error (.dispatch (.noRule (shownName a.name)
        (shownOr DataFormat.text a.format)
        (shownOr DataType.text a.type)))

------------------------------------------------------------
-- Handles
------------------------------------------------------------

/-
  A handle points to a known element type, to any element
  checked against a native kind, or to any element.
-/
inductive HandleKind where
  | known (elementName : String)
  | validated (nativeType : NativeType)
  | unchecked
deriving DecidableEq, Repr

/- What is known about the target of a handle. -/
def Attribute.handleKind
    (a : Attribute) : HandleKind :=
  match a.handle with
  | none => .unchecked
  | some target =>
      match target.elementName, target.nativeType with
      | some name, _ => .known name
      | none, some kind => .validated kind
      | none, none => .unchecked

------------------------------------------------------------
-- Separators
------------------------------------------------------------

/- The character between the components of a position. -/
def DataFormat.separator? : DataFormat → Option Char
  | .linColPos => some ','
  | .xyPosComma => some ','
  | .xyPosColon => some ':'
  | .range => some ','
  | _ => none

/- The separator in the format of an attribute. -/
def Attribute.separator
    (a : Attribute) : Except Fault Char :=
  match a.format.bind DataFormat.separator? with
  | some c => .ok c
  | none =>
      .error (.dispatch (.noSeparator (shownName a.name)
        (shownOr DataFormat.text a.format)))

end ElementBindings
