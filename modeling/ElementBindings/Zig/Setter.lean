import ElementBindings.FirstOccurrence
import ElementBindings.Zig.Code

/-
  Setters of attributes.

  The rule of an attribute gives the parameters of its setter
  and the statements that store them.  In the initializer the
  statements are skipped once an error is noted, and the
  initializer is returned for chaining.  A handle can also be
  set by the name of the element that it points to.

  Key definitions include:
    * `Attribute.boundKey`
    * `Attribute.distinctValues`
    * `Zig.SetterForm`
    * `Attribute.setterForms`
    * `Attribute.setters`
-/

namespace ElementBindings

------------------------------------------------------------
-- Parts of an Attribute
------------------------------------------------------------

/- The key of an attribute with its ids. -/
def Attribute.boundKey
    (a : Attribute) : Except Fault Zig.Key := do
  let numbering ← needed .lookUp a.numbering
  return ⟨shownName a.key, numbering⟩

/- The values of an enumeration, the first of every name. -/
def Attribute.distinctValues
    (a : Attribute) : Except Fault (List EnumValue) := do
  let values ← (a.enumValues.getD []).mapM
    (needed (.readField "name"))
  return firstOccurrences (·.name) values

namespace Zig

------------------------------------------------------------
-- Forms
------------------------------------------------------------

/- What a rule settles about a setter. -/
structure SetterForm where
  suffix : String
  generic : Bool
  params : List Param
  fallible : Bool
  body : List Statement
deriving DecidableEq, Repr

/- A form without type parameter that cannot fail. -/
def SetterForm.plain
    (params : List Param)
    (body : List Statement) : SetterForm :=
  ⟨"", false, params, false, body⟩

/- An untyped call that stores some arguments. -/
def storeCall
    (context : Context)
    (key : Key)
    (function : String)
    (arguments : List String) : Call :=
  ⟨function, false, (targetOf context), key, arguments⟩

/- A call that stores a string. -/
def storeString
    (context : Context)
    (key : Key)
    (value : String) : Statement :=
  .perform (storeCall context key "setStrAttribute" [value])

/- A call that removes an attribute. -/
def clearCall
    (context : Context)
    (key : Key) : Call :=
  storeCall context key "clearAttribute" []

/- Store one argument of a given type. -/
def scalarForm
    (context : Context)
    (key : Key)
    (type function : String) : SetterForm :=
  .plain [⟨"arg", type⟩]
    [.perform (storeCall context key function ["arg"])]

/- Lay arguments out in a buffer and store its text. -/
def encodedForm
    (context : Context)
    (key : Key)
    (params : List Param)
    (function : String)
    (separator : Option Char) : SetterForm :=
  .plain params
    [ .declareBuffer,
      .encodeValue function (params.map (·.name)) separator,
      storeString context key "value" ]

/- Store a typed pointer. -/
def pointerForm
    (context : Context)
    (key : Key) : SetterForm :=
  { suffix := ""
    generic := true
    params := [⟨"arg", "?*T"⟩]
    fallible := false
    body :=
      [ .perform ⟨"setPtrAttribute", true, (targetOf context),
          key, ["arg"]⟩ ] }

/-
  Store a handle.  One that has to be of a native kind is
  checked: a live setter hands the error on, an initializer
  notes it.
-/
def handleForm
    (context : Context)
    (key : Key)
    (kind : HandleKind) : SetterForm :=
  let assign := storeCall context key "setHandleAttribute" ["arg"]
  match kind, context with
  | .known name, _ =>
      .plain [⟨"arg", "*iup." ++ name⟩] [.perform assign]
  | .unchecked, _ =>
      .plain [⟨"arg", "anytype"⟩] [.perform assign]
  | .validated nativeType, .initializer =>
      .plain [⟨"arg", "anytype"⟩]
        [.ifHandleValid nativeType assign]
  | .validated nativeType, .live =>
      { suffix := ""
        generic := false
        params := [⟨"arg", "anytype"⟩]
        fallible := true
        body := [.tryHandle nativeType, .perform assign] }

/- Store a handle by the name of its element. -/
def handleNameForm
    (context : Context)
    (key : Key) : SetterForm :=
  { suffix := "HandleName"
    generic := false
    params := [⟨"arg", "[:0]const u8"⟩]
    fallible := false
    body := [storeString context key "arg"] }

/- Store a date. -/
def dateForm
    (context : Context)
    (key : Key) : SetterForm :=
  .plain
    [⟨"year", "u16"⟩, ⟨"month", "u8"⟩, ⟨"day", "u8"⟩]
    [ .declareBuffer,
      .composeDate,
      storeString context key "value.toString(&buffer)" ]

/- Store a color. -/
def rgbForm
    (context : Context)
    (key : Key) : SetterForm :=
  .plain [⟨"rgb", "iup.Rgb"⟩]
    [.perform (storeCall context key "setRgb" ["rgb"])]

/- Store a member by its number, or remove the attribute. -/
def enumIntForm
    (context : Context)
    (key : Key)
    (type : String) : SetterForm :=
  .plain [⟨"arg", "?" ++ type⟩]
    [ .ifValueElse
        (storeCall context key "setIntAttribute"
          ["@enumToInt(value)"])
        (clearCall context key) ]

/- The branch that stores the string of a member. -/
def enumBranch
    (context : Context)
    (key : Key)
    (value : EnumValue) : String × Call :=
  (shownName value.name,
    storeCall context key "setStrAttribute"
      [stringLiteral (shownName value.text)])

/- Store a member by its string, or remove the attribute. -/
def enumStringForm
    (context : Context)
    (key : Key)
    (type : String)
    (values : List EnumValue) : SetterForm :=
  .plain [⟨"arg", "?" ++ type⟩]
    [ .switchValueElse
        (values.map (enumBranch context key))
        (clearCall context key) ]

------------------------------------------------------------
-- Functions
------------------------------------------------------------

/- The result type of a setter. -/
def setterResult
    (context : Context)
    (fallible : Bool) : String :=
  let result :=
    match context with
    | .initializer => "Initializer"
    | .live => "void"
  if fallible then "!" ++ result else result

/- In the initializer, statements run only without an error. -/
def chained
    (context : Context)
    (body : List Statement) : List Statement :=
  match context with
  | .initializer => .guardError :: body ++ [.returnSelf]
  | .live => body

/- The setter of a form. -/
def SetterForm.function
    (form : SetterForm)
    (context : Context)
    (numbering : Numbering)
    (documentation : Option String)
    (name : String) : FunctionDecl :=
  { documentation := documentation
    name := name ++ form.suffix
    params :=
      selfParam context
        :: (if form.generic then [typeParam] else [])
        ++ idParams numbering ++ form.params
    result := setterResult context form.fallible
    body := chained context form.body }

end Zig

open Zig

/- The forms of the setters of an attribute under a rule. -/
def Attribute.setterForms
    (a : Attribute)
    (context : Context)
    (rule : Rule) : Except Fault (List SetterForm) := do
  let values ←
    if rule = .enumString then a.distinctValues else pure []
  let separator ←
    match rule with
    | .linColPos | .xyPos | .range => a.separator.map some
    | _ => pure none
  let key ← a.boundKey
  let type := shownName a.name
  return match rule with
  | .int => [scalarForm context key "i32" "setIntAttribute"]
  | .string =>
      [scalarForm context key "[:0]const u8" "setStrAttribute"]
  | .boolean =>
      [scalarForm context key "bool" "setBoolAttribute"]
  | .float =>
      [scalarForm context key "f32" "setFloatAttribute"]
  | .double =>
      [scalarForm context key "f64" "setDoubleAttribute"]
  | .pointer => [pointerForm context key]
  | .handle =>
      [ handleForm context key a.handleKind,
        handleNameForm context key ]
  | .void => [.plain [] [storeString context key "null"]]
  | .size =>
      [ encodedForm context key
          [⟨"width", "?i32"⟩, ⟨"height", "?i32"⟩]
          "Size.intIntToString" none ]
  | .margin =>
      [ encodedForm context key
          [⟨"horiz", "i32"⟩, ⟨"vert", "i32"⟩]
          "Margin.intIntToString" none ]
  | .linColPos =>
      [ encodedForm context key
          [⟨"lin", "i32"⟩, ⟨"col", "i32"⟩]
          "iup.LinColPos.intIntToString" separator ]
  | .xyPos =>
      [ encodedForm context key
          [⟨"x", "i32"⟩, ⟨"y", "i32"⟩]
          "iup.XYPos.intIntToString" separator ]
  | .range =>
      [ encodedForm context key
          [⟨"begin", "i32"⟩, ⟨"end", "i32"⟩]
          "iup.Range.intIntToString" separator ]
  | .dialogSize =>
      [ encodedForm context key
          [ ⟨"width", "?iup.ScreenSize"⟩,
            ⟨"height", "?iup.ScreenSize"⟩ ]
          "iup.DialogSize.screenSizeToString" none ]
  | .date => [dateForm context key]
  | .rgb => [rgbForm context key]
  | .enumInt => [enumIntForm context key type]
  | .enumString => [enumStringForm context key type values]
  | .unsupported => []

/- Functions of one attribute; the first is documented. -/
def Zig.documentFirst
    (documentation : Option String) :
    List FunctionDecl →
    List FunctionDecl
  | [] => []
  | first :: rest =>
      { first with documentation := documentation } :: rest

/- The setters of an attribute in a context. -/
def Attribute.setters
    (context : Context)
    (a : Attribute) : Except Fault (List FunctionDecl) := do
  if ← a.hasSetter context then
    let rule ← a.rule
    let forms ← a.setterForms context rule
    let numbering ← needed .lookUp a.numbering
    let name ← a.setterName
    let functions := forms.map
      (·.function context numbering none name)
    return documentFirst a.documentation functions
  else
    return []

end ElementBindings
