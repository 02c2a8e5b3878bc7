import ElementBindings.Zig.Code

/-
  Operations that elements of a kind have in common, whatever
  their attributes: creation and destruction, visibility,
  children, dialogs and text positions.

  Key definitions include:
    * `Zig.initOf`
    * `Element.holdsChildren`
    * `Element.bodyOperations`
    * `Element.initializerOperations`
-/

namespace ElementBindings

namespace Zig

/- An operation whose body is given line by line. -/
def operation
    (documentation : List String)
    (name : String)
    (params : List Param)
    (result : String)
    (body : List String) : FunctionDecl :=
  { documentation := some (Text.joinLines documentation)
    name := name
    params := params
    result := result
    body := body.map .other }

/- The receiver of an operation on a live element. -/
def receiver : Param :=
  selfParam .live

------------------------------------------------------------
-- Creation
------------------------------------------------------------

/- The end of a constructor, once a handle has been asked for. -/
def initLines : List String :=
  [ "",
    "if (handle) |valid| \x7b",
    "    return .\x7b",
    "        .ref = @ptrCast(*Self, valid),",
    "    \x7d;",
    "\x7d else \x7b",
    "    return .\x7b .ref = undefined, "
      ++ ".last_error = Error.NotInitialized \x7d;",
    "\x7d" ]

/- Create an image from its pixels. -/
def initImage : FunctionDecl :=
  operation
    [ "Creates an image to be shown on a label, button, "
        ++ "toggle, or as a cursor.",
      "width: Image width in pixels.",
      "height: Image height in pixels.",
      "pixels: Vector containing the value of each pixel.",
      "IupImage uses 1 value per pixel, IupImageRGB uses 3 "
        ++ "values and IupImageRGBA uses 4 values per pixel.",
      "Each value is always 8 bit.",
      "Origin is at the top-left corner and data is oriented "
        ++ "top to bottom, and left to right.",
      "The pixels array is duplicated internally so you can "
        ++ "discard it after the call." ]
    "init"
    [ ⟨"width", "i32"⟩,
      ⟨"height", "i32"⟩,
      ⟨"imgdata", "?[]const u8"⟩ ]
    "Initializer"
    ("var handle = interop.create_image(Self, width, height, imgdata);"
      :: initLines)

/- Create an element of any other kind. -/
def initElement : FunctionDecl :=
  operation
    [ "Creates an interface element given its class name and "
        ++ "parameters.",
      "After creation the element still needs to be attached "
        ++ "to a container and mapped to the native system so "
        ++ "it can be visible." ]
    "init" [] "Initializer"
    ("var handle = interop.create(Self);" :: initLines)

/- The constructor of a native kind. -/
def initOf
    (kind : Option NativeType) : FunctionDecl :=
  if kind = some .image then initImage else initElement

------------------------------------------------------------
-- Visibility
------------------------------------------------------------

/- Show an element. -/
def showElement : FunctionDecl :=
  operation
    [ "Displays a dialog in the current position, or changes "
        ++ "a control VISIBLE attribute.",
      "For dialogs it is equivalent to call IupShowXY using "
        ++ "IUP_CURRENT.",
      "For other controls, to call IupShow is the same as "
        ++ "setting VISIBLE=YES." ]
    "show" [receiver] "!void"
    ["try interop.show(self);"]

/- Hide an element. -/
def hideElement : FunctionDecl :=
  operation
    [ "Hides an interface element, the same as setting "
        ++ "VISIBLE=NO.",
      "A hidden dialog keeps its elements, so it can be shown "
        ++ "again. Call deinit to destroy it." ]
    "hide" [receiver] "void"
    ["interop.hide(self);"]

------------------------------------------------------------
-- Life Cycle
------------------------------------------------------------

/- Destroy an element. -/
def deinitElement : FunctionDecl :=
  operation
    [ "Destroys an interface element and all its children.",
      "Only dialogs, timers, popup menus and images should be "
        ++ "normally destroyed, but detached elements can also "
        ++ "be destroyed." ]
    "deinit" [receiver] "void"
    ["interop.destroy(self);"]

/- Map an element to a native object. -/
def mapElement : FunctionDecl :=
  operation
    [ "Creates (maps) the native interface objects "
        ++ "corresponding to the given IUP interface elements.",
      "It is also called recursively to create the native "
        ++ "element of all the children in the element's tree.",
      "The element must be already attached to a mapped "
        ++ "container, except the dialog. A child can only be "
        ++ "mapped if its parent is already mapped.",
      "Mapping a dialog that is already mapped only updates its "
        ++ "layout; mapping any other element that is already "
        ++ "mapped does nothing.",
      "Elements added to a mapped dialog must be mapped too, "
        ++ "followed by refresh to update the dialog layout." ]
    "map" [receiver] "!void"
    ["try interop.map(self);"]

------------------------------------------------------------
-- Children
------------------------------------------------------------

/- Append several children. -/
def appendChildren : FunctionDecl :=
  operation
    ["Adds a tuple of children"]
    "appendChildren" [receiver, ⟨"tuple", "anytype"⟩] "!void"
    ["try Impl(Self).appendChildren(self, tuple);"]

/- Append one child. -/
def appendChild : FunctionDecl :=
  operation
    [ "Appends a child on this container",
      "child must be an Element or a pointer to any element "
        ++ "type" ]
    "appendChild" [receiver, ⟨"child", "anytype"⟩] "!void"
    ["try Impl(Self).appendChild(self, child);"]

/- Iterate over the children. -/
def iterateChildren : FunctionDecl :=
  operation
    ["Returns a iterator for children elements."]
    "children" [receiver] "ChildrenIterator"
    ["return ChildrenIterator.init(self);"]

/- Append several children while an element is set up. -/
def setChildren : FunctionDecl :=
  { documentation := none
    name := "setChildren"
    params :=
      [selfParam .initializer, ⟨"tuple", "anytype"⟩]
    result := "Initializer"
    body :=
      [ .guardError,
        .other "",
        .other
          "Self.appendChildren(self.ref, tuple) catch |err| \x7b",
        .other "    self.last_error = err;",
        .other "\x7d;",
        .other "",
        .returnSelf ] }

------------------------------------------------------------
-- Dialogs
------------------------------------------------------------

/- The parameters of an operation at a place of the screen. -/
def placeParams : List Param :=
  [ receiver,
    ⟨"x", "iup.DialogPosX"⟩,
    ⟨"y", "iup.DialogPosY"⟩ ]

/- Show a dialog or a menu and wait for it. -/
def popup : FunctionDecl :=
  operation
    [ "Shows a dialog or menu and restricts user interaction "
        ++ "only to the specified element." ]
    "popup" placeParams "!void"
    ["try interop.popup(self, x, y);"]

/- Show a dialog at a place of the screen. -/
def showXY : FunctionDecl :=
  operation
    ["Displays a dialog in a given position on the screen."]
    "showXY" placeParams "!void"
    ["try interop.showXY(self, x, y);"]

/- The parameters of a message. -/
def messageParams : List Param :=
  [ ⟨"parent", "*iup.Dialog"⟩,
    ⟨"title", "?[:0]const u8"⟩,
    ⟨"message", "[:0]const u8"⟩ ]

/- Show a message. -/
def alert : FunctionDecl :=
  operation
    ["Shows a modal message with a single OK button."]
    "alert" messageParams "!void"
    [ "try Impl(Self).messageDialogAlert(parent, title, "
        ++ "message);" ]

/- Ask a question. -/
def confirm : FunctionDecl :=
  operation
    [ "Shows a modal question with OK and CANCEL buttons, "
        ++ "returns true on OK." ]
    "confirm" messageParams "!bool"
    [ "return try Impl(Self).messageDialogAlertConfirm(parent, "
        ++ "title, message);" ]

/- Find the dialog that contains an element. -/
def getDialog : FunctionDecl :=
  operation
    [ "Returns the handle of the dialog that contains the "
        ++ "element." ]
    "getDialog" [receiver] "?*iup.Dialog"
    ["return interop.getDialog(self);"]

/- Find an element of the same dialog by name. -/
def getDialogChild : FunctionDecl :=
  operation
    [ "Returns the child element that has the NAME attribute "
        ++ "equals to the given value on the same dialog "
        ++ "hierarchy.",
      "Works also for children of a menu that is associated "
        ++ "with a dialog." ]
    "getDialogChild" [receiver, ⟨"byName", "[:0]const u8"⟩]
    "?Element"
    ["return interop.getDialogChild(self, byName);"]

/- Update the layout of a dialog. -/
def refresh : FunctionDecl :=
  operation
    [ "Updates the size and layout of all controls in the same "
        ++ "dialog.",
      "To be used after changing size attributes, or attributes "
        ++ "that affect the size of the control." ]
    "refresh" [receiver] "void"
    ["Impl(Self).refresh(self);"]

------------------------------------------------------------
-- Text Positions
------------------------------------------------------------

/- Turn a line and a column into a position. -/
def convertLinColToPos : FunctionDecl :=
  operation
    [ "Converts a (lin, col) character positioning into an "
        ++ "absolute position. lin and col starts at 1, pos "
        ++ "starts at 0. For single line controls pos is "
        ++ "always \"col - 1\"." ]
    "convertLinColToPos"
    [receiver, ⟨"lin", "i32"⟩, ⟨"col", "i32"⟩] "?i32"
    ["return Impl(Self).convertLinColToPos(self, lin, col);"]

/- Turn a position into a line and a column. -/
def convertPosToLinCol : FunctionDecl :=
  operation
    [ "Converts an absolute position into a (lin, col) "
        ++ "character positioning." ]
    "convertPosToLinCol" [receiver, ⟨"pos", "i32"⟩]
    "?iup.LinColPos"
    ["return Impl(Self).convertPosToLinCol(self, pos);"]

end Zig

open Zig

------------------------------------------------------------
-- Operations of an Element
------------------------------------------------------------

/- A children count other than zero lets an element hold children. -/
def Element.holdsChildren
    (element : Element) : Bool :=
  match element.childrenCount with
  | none => true
  | some count => count.value ≠ 0

/- The class of an element is one of some names. -/
def Element.isOfClass
    (element : Element)
    (names : List String) : Bool :=
  match element.className with
  | none => false
  | some name => name ∈ names

/- The operations on a live element. -/
def Element.bodyOperations
    (element : Element) : List FunctionDecl :=
  let kind := element.nativeType
  let isDialog := kind = some .dialog
  let visible := kind = some .control || isDialog
  [initOf kind]
    ++ (if visible then [showElement, hideElement] else [])
    ++ [deinitElement, mapElement]
    ++ (if element.holdsChildren then
          [appendChildren, appendChild, iterateChildren]
        else [])
    ++ (if isDialog || element.isOfClass ["menu"] then [popup]
        else [])
    ++ (if isDialog then
          showXY ::
            (if element.isOfClass ["messagedlg"] then
              [alert, confirm]
            else [])
        else [getDialog])
    ++ (if element.isOfClass ["text", "multiline"] then
          [convertLinColToPos, convertPosToLinCol]
        else [])
    ++ [getDialogChild, refresh]

/- The operations on an element that is being set up. -/
def Element.initializerOperations
    (element : Element) : List FunctionDecl :=
  if element.holdsChildren then [setChildren] else []

end ElementBindings
