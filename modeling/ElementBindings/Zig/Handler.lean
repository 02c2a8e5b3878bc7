import ElementBindings.Zig.Setter

/-
  Callbacks: the types of their handlers and the setters that
  register a handler.

  Key definitions include:
    * `Zig.typeName?`
    * `Zig.HandlerType`
    * `Callback.handlerType`
    * `Callback.setter`
-/

namespace ElementBindings

namespace Zig

------------------------------------------------------------
-- Types
------------------------------------------------------------

/- The type that stands for a data type. -/
def typeName? : DataType → Option String
  | .void => some "void"
  | .int => some "i32"
  | .refInt => some "*i32"
  | .boolean => some "bool"
  | .float => some "f32"
  | .double => some "f64"
  | .char => some "u8"
  | .string => some "[:0]const u8"
  | .handle => some "iup.Element"
  | .voidPtr => some "*iup.Unknow"
  | .canvas => some "*iup.Canvas"
  | .unknown => none

/- The type of an argument or a result of a callback. -/
def typeName
    (callback : Option String)
    (type : Option DataType) : Except Fault String :=
  match type.bind typeName? with
  | some name => .ok name
  | none =>
      .error (.dispatch (.noTypeName (shownName callback)
        (shownOr DataType.text type)))

/- The type of the handlers of a callback. -/
structure HandlerType where
  documentation : Option String
  name : String
  arguments : List String
  result : String
deriving DecidableEq, Repr

/- Arguments with numbered names. -/
def HandlerType.params
    (type : HandlerType) : List Param :=
  type.arguments.zipIdx.map fun (argument, i) =>
    ⟨"arg" ++ toString i, argument⟩

/- A handler type as it is written. -/
def HandlerType.render
    (type : HandlerType) : String :=
  docComment type.documentation
    ++ "pub const " ++ type.name ++ " = fn ("
    ++ Text.joinWith ", "
      ((selfParam .live :: type.params).map Param.render)
    ++ ") anyerror!" ++ type.result ++ ";"

/- The name of the handler type of a callback. -/
def handlerTypeName
    (callback : Callback) : String :=
  "On" ++ shownName callback.name ++ "Fn"

end Zig

open Zig

------------------------------------------------------------
-- Declarations
------------------------------------------------------------

/- The handler type of a callback. -/
def Callback.handlerType
    (callback : Option Callback) :
    Except Fault HandlerType := do
  let c ← needed (.readField "arguments") callback
  let arguments ← needed .iterate c.arguments
  let arguments ← arguments.mapM (typeName c.name)
  let result ← typeName c.name c.returnType
  return {
    documentation := c.documentation
    name := handlerTypeName c
    arguments := arguments
    result := result }

/- The handler types of some callbacks. -/
def Zig.handlerTypes
    (callbacks : Option (List (Option Callback))) :
    Except Fault (List HandlerType) := do
  (← needed .iterate callbacks).mapM Callback.handlerType

/- Handler types as they are written. -/
def Zig.renderHandlerTypes
    (types : List HandlerType) : String :=
  joinDeclarations (types.map HandlerType.render)

/- The setter that registers a handler. -/
def Callback.setter
    (context : Context)
    (callback : Option Callback) :
    Except Fault FunctionDecl := do
  let c ← needed (.readField "name") callback
  let type := handlerTypeName c
  let form := SetterForm.plain
    [⟨"callback", "?" ++ type⟩]
    [ .bindHandler type (shownName c.key),
      .registerHandler (targetOf context) ]
  return form.function context .no c.documentation
    ("set" ++ shownName c.name ++ "Callback")

/- The setters of some callbacks. -/
def Zig.callbackSetters
    (context : Context)
    (callbacks : Option (List (Option Callback))) :
    Except Fault (List FunctionDecl) := do
  (← needed .iterate callbacks).mapM (Callback.setter context)

end ElementBindings
