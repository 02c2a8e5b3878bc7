import ElementBindings.Zig.Setter

/-
  Getters of attributes.

  The rule of an attribute gives the type that its getter
  returns and the statements that read it back.

  Key definitions include:
    * `Zig.GetterForm`
    * `Attribute.getterForm?`
    * `Attribute.getter?`
-/

namespace ElementBindings

namespace Zig

------------------------------------------------------------
-- Forms
------------------------------------------------------------

/- What a rule settles about a getter. -/
structure GetterForm where
  generic : Bool
  result : String
  body : List Statement
deriving DecidableEq, Repr

/- A call that reads an attribute. -/
def fetchCall
    (key : Key)
    (function : String) : Call :=
  ⟨function, false, .self, key, []⟩

/- Return what a call reads. -/
def fetchForm
    (key : Key)
    (result function : String) : GetterForm :=
  ⟨false, result, [.returnCall (fetchCall key function)]⟩

/- Read a string and parse it. -/
def parsedForm
    (key : Key)
    (result type : String)
    (separator : Option Char) : GetterForm :=
  { generic := false
    result := result
    body :=
      [ .bindCall "str" (fetchCall key "getStrAttribute"),
        .returnParsed type separator ] }

/- Return a typed pointer. -/
def fetchPointerForm
    (key : Key) : GetterForm :=
  { generic := true
    result := "?*T"
    body :=
      [.returnCall ⟨"getPtrAttribute", true, .self, key, []⟩] }

/- Return a handle, as a known element type if there is one. -/
def fetchHandleForm
    (key : Key)
    (kind : HandleKind) : GetterForm :=
  let call := fetchCall key "getHandleAttribute"
  match kind with
  | .known name =>
      { generic := false
        result := "?*iup." ++ name
        body :=
          [ .ifHandleFound call
              ("@ptrCast(*iup." ++ name ++ ", handle)") ] }
  | _ =>
      { generic := false
        result := "?iup.Element"
        body :=
          [ .ifHandleFound call
              "iup.Element.fromHandle(handle)" ] }

/- Return the member that a number stands for. -/
def fetchEnumIntForm
    (key : Key)
    (type : String) : GetterForm :=
  { generic := false
    result := type
    body :=
      [ .bindCall "ret" (fetchCall key "getIntAttribute"),
        .returnEnum type ] }

/- Return the first member whose string was read. -/
def fetchEnumStringForm
    (key : Key)
    (type : String)
    (values : List EnumValue) : GetterForm :=
  { generic := false
    result := "?" ++ type
    body :=
      .bindCall "ret" (fetchCall key "getStrAttribute")
        :: values.map (fun value =>
            .returnIfEqual (shownName value.text)
              (shownName value.name))
        ++ [.returnNull] }

/- The getter of a form. -/
def GetterForm.function
    (form : GetterForm)
    (numbering : Numbering)
    (documentation : Option String)
    (name : String) : FunctionDecl :=
  { documentation := documentation
    name := name
    params :=
      selfParam .live
        :: (if form.generic then [typeParam] else [])
        ++ idParams numbering
    result := form.result
    body := form.body }

end Zig

open Zig

/- The form of the getter of an attribute under a rule. -/
def Attribute.getterForm?
    (a : Attribute)
    (rule : Rule) : Except Fault (Option GetterForm) := do
  let values ←
    if rule = .enumString then a.distinctValues else pure []
  let separator ←
    match rule with
    | .linColPos | .xyPos | .range => a.separator.map some
    | _ => pure none
  let key ← a.boundKey
  let type := shownName a.name
  return match rule with
  | .int => some (fetchForm key "i32" "getIntAttribute")
  | .string =>
      some (fetchForm key "[:0]const u8" "getStrAttribute")
  | .boolean => some (fetchForm key "bool" "getBoolAttribute")
  | .float => some (fetchForm key "f32" "getFloatAttribute")
  | .double => some (fetchForm key "f64" "getDoubleAttribute")
  | .pointer => some (fetchPointerForm key)
  | .handle => some (fetchHandleForm key a.handleKind)
  | .size => some (parsedForm key "Size" "Size" none)
  | .margin => some (parsedForm key "Margin" "Margin" none)
  | .linColPos =>
      some (parsedForm key "iup.LinColPos" "iup.LinColPos"
        separator)
  | .xyPos =>
      some (parsedForm key "iup.XYPos" "iup.XYPos" separator)
  | .range =>
      some (parsedForm key "iup.Range" "iup.Range" separator)
  | .dialogSize =>
      some (parsedForm key "iup.DialogSize" "iup.DialogSize"
        none)
  | .date =>
      some (parsedForm key "?iup.Date" "iup.Date" none)
  | .rgb => some (fetchForm key "?iup.Rgb" "getRgb")
  | .enumInt => some (fetchEnumIntForm key type)
  | .enumString =>
      some (fetchEnumStringForm key type values)
  | .void => none
  | .unsupported => none

/- The getter of an attribute, if it has one. -/
def Attribute.getter?
    (a : Attribute) : Except Fault (Option FunctionDecl) := do
  if ← a.hasGetter then
    let rule ← a.rule
    let form ← a.getterForm? rule
    let numbering ← needed .lookUp a.numbering
    return form.map (·.function numbering a.documentation
      ("get" ++ shownName a.name))
  else
    return none

end ElementBindings
