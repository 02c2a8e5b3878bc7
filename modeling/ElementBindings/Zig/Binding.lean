import ElementBindings.Zig.EnumType
import ElementBindings.Zig.Getter
import ElementBindings.Zig.Handler
import ElementBindings.Zig.Operation
import ElementBindings.Zig.RoundTrip

/-
  The binding of an element: everything that is declared for
  it, in the order in which it is put together.

  Key definitions include:
    * `Attribute.initializerFunctions`
    * `Attribute.bodyFunctions`
    * `Zig.initializerBlock`, `Zig.bodyBlock`
    * `Zig.Binding`
    * `Element.binding`
-/

namespace ElementBindings

open Zig

------------------------------------------------------------
-- Accessors
------------------------------------------------------------

/- The setters of an attribute that is not deprecated. -/
def Attribute.initializerFunctions
    (a : Attribute) : Except Fault (List FunctionDecl) :=
  if isSet a.deprecated then
    .ok []
  else
    a.setters .initializer

/- The getter and the setters of an attribute that is not deprecated. -/
def Attribute.bodyFunctions
    (a : Attribute) : Except Fault (List FunctionDecl) := do
  if isSet a.deprecated then
    return []
  else
    let getter ← a.getter?
    let setters ← a.setters .live
    return getter.toList ++ setters

namespace Zig

/- The functions of the initializer. -/
def initializerBlock
    (attributes : List Attribute)
    (callbacks : Option (List (Option Callback))) :
    Except Fault (List FunctionDecl) := do
  let accessors ←
    attributes.mapM Attribute.initializerFunctions
  let setters ← callbackSetters .initializer callbacks
  return accessors.flatten ++ setters

/- The functions of the live element. -/
def bodyBlock
    (attributes : List Attribute)
    (callbacks : Option (List (Option Callback))) :
    Except Fault (List FunctionDecl) := do
  let accessors ← attributes.mapM Attribute.bodyFunctions
  let setters ← callbackSetters .live callbacks
  return accessors.flatten ++ setters

------------------------------------------------------------
-- Bindings
------------------------------------------------------------

/- All that is declared for an element but its tests. -/
structure Declarations where
  documentation : Option String
  enumTypes : List EnumType
  handlerTypes : List HandlerType
  initializer : List FunctionDecl
  body : List FunctionDecl
  bodyOperations : List FunctionDecl
  initializerOperations : List FunctionDecl
deriving DecidableEq, Repr

/- The declarations of an element and its tests. -/
structure Binding extends Declarations where
  tests : List RoundTrip
deriving DecidableEq, Repr

end Zig

/- The declarations of an element with inherited attributes. -/
def Element.declarations
    (element : Element)
    (parents : List (Option Attribute)) :
    Except Fault Declarations := do
  let attributes ← Attribute.merge element.attributes parents
  let enumTypes ← Zig.enumTypes attributes
  let handlerTypes ← Zig.handlerTypes element.callbacks
  let initializer ←
    initializerBlock attributes element.callbacks
  let body ← bodyBlock attributes element.callbacks
  return {
    documentation := element.documentation
    enumTypes := enumTypes
    handlerTypes := handlerTypes
    initializer := initializer
    body := body
    bodyOperations := element.bodyOperations
    initializerOperations := element.initializerOperations }

/- The binding of an element with inherited attributes. -/
def Element.binding
    (element : Element)
    (parents : List (Option Attribute)) :
    Except Fault Binding := do
  let declarations ← element.declarations parents
  let tests ← element.roundTrips
  return { declarations with tests := tests }

end ElementBindings
