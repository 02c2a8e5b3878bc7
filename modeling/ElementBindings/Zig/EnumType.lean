import ElementBindings.Zig.Setter

/-
  Types of enumerated attributes.

  Every attribute that lists values declares a type with a
  member for each distinct name.  The members of an integer
  attribute carry their numbers.

  Key definitions include:
    * `Zig.EnumType`
    * `Zig.EnumType.render`
    * `Attribute.enumType?`
    * `Zig.enumTypes`
-/

namespace ElementBindings

namespace Zig

/- The type of an enumerated attribute. -/
structure EnumType where
  documentation : Option String
  name : String
  numbered : Bool
  members : List (String × Option Whole)
deriving DecidableEq, Repr

/- A member with its number, if it has one. -/
def EnumType.memberLine
    (member : String × Option Whole) : String :=
  match member.2 with
  | none => member.1 ++ ","
  | some number => member.1 ++ " = " ++ number.text ++ ","

/- An enumerated type as it is written. -/
def EnumType.render
    (type : EnumType) : String :=
  let tag := if type.numbered then "(i32)" else ""
  docComment type.documentation
    ++ block ("pub const " ++ type.name ++ " = enum" ++ tag)
      (type.members.map memberLine)
    ++ ";"

end Zig

open Zig

/- The enumerated type of an attribute, if it lists values. -/
def Attribute.enumType?
    (a : Attribute) : Except Fault (Option EnumType) :=
  match a.enumValues with
  | none | some [] => .ok none
  | some _ => do
      let numbered := a.type = some .int
      let values ← a.distinctValues
      return some {
        documentation := a.documentation
        name := shownName a.name
        numbered := numbered
        members := values.map fun value =>
          (shownName value.name,
            if numbered then value.number else none) }

/- The enumerated types of some attributes. -/
def Zig.enumTypes
    (attributes : List Attribute) :
    Except Fault (List EnumType) := do
  return (← attributes.mapM Attribute.enumType?).filterMap id

/- Enumerated types as they are written. -/
def Zig.renderEnumTypes
    (types : List EnumType) : String :=
  joinDeclarations (types.map EnumType.render)

end ElementBindings
