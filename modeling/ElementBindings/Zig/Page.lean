import ElementBindings.Zig.Binding

/-
  The source text of a binding.

  A page is a fixed frame around slots.  A slot holds one
  fragment of the binding, indented to its place; an empty
  fragment leaves its slot out, with the line it would stand
  on.

  Key definitions include:
    * `Zig.Fragments`, `Zig.Binding.fragments`
    * `Zig.Piece`, `Zig.page`
    * `Element.fragments`
    * `Element.render`
-/

namespace ElementBindings

namespace Zig

------------------------------------------------------------
-- Fragments
------------------------------------------------------------

/- The texts of the parts of a binding. -/
structure Fragments where
  documentation : String
  enumTypes : String
  handlerTypes : String
  initializer : String
  body : String
  bodyOperations : String
  initializerOperations : String
  tests : String
deriving DecidableEq, Repr

/- The text of every part of a binding. -/
def Binding.fragments
    (binding : Binding) : Fragments :=
  { documentation := docComment binding.documentation
    enumTypes := renderEnumTypes binding.enumTypes
    handlerTypes := renderHandlerTypes binding.handlerTypes
    initializer := renderFunctions binding.initializer
    body := renderFunctions binding.body
    bodyOperations := renderFunctions binding.bodyOperations
    initializerOperations :=
      renderFunctions binding.initializerOperations
    tests := renderRoundTrips binding.tests }

------------------------------------------------------------
-- Pieces
------------------------------------------------------------

/-
  A piece of a page: lines of the frame, a comment that brings
  its own line feeds, a slot for a fragment that is indented,
  or a slot for one that is not.
-/
inductive Piece where
  | frame (lines : List String)
  | comment (text : String)
  | slot (width : Nat) (fragment : String)
  | marginSlot (fragment : String)
deriving DecidableEq, Repr

/- A piece as it is written. -/
def Piece.render : Piece → String
  | .frame lines =>
      Text.joinWith "" (lines.map (· ++ "\n"))
  | .comment text => text
  | .slot width fragment =>
      if fragment = "" then
        ""
      else
        String.ofList (List.replicate width ' ')
          ++ Text.indent width fragment ++ "\n"
  | .marginSlot fragment =>
      if fragment = "" then "" else fragment ++ "\n"

/- The lines before the documentation of the element. -/
def prologue : List String :=
  [ "",
    "// This code was generated by iupgen",
    "// Do not edit manually; regenerate it from the "
      ++ "element catalog",
    "",
    "const std = @import(\"std\");",
    "",
    "const interop = @import(\"../interop.zig\");",
    "const iup = @import(\"../iup.zig\");",
    "",
    "const Impl = @import(\"../impl.zig\").Impl;",
    "const CallbackHandler = "
      ++ "@import(\"../callback_handler.zig\").CallbackHandler;",
    "",
    "const Element = iup.Element;",
    "const Handle = iup.Handle;",
    "const Error = iup.Error;",
    "const ChildrenIterator = iup.ChildrenIterator;",
    "const Size = iup.Size;",
    "const Margin = iup.Margin;",
    "const Date = iup.Date;",
    "" ]

/- The lines that open the type of the element. -/
def opening
    (name className nativeType : String) : List String :=
  [ "pub const " ++ name ++ " = opaque \x7b",
    "    pub const CLASS_NAME = " ++ stringLiteral className
      ++ ";",
    "    pub const NATIVE_TYPE = iup.NativeType." ++ nativeType
      ++ ";",
    "    const Self = @This();" ]

/- The lines that open the initializer. -/
def initializerOpening : List String :=
  [ "    pub const Initializer = struct \x7b",
    "        last_error: ?anyerror = null,",
    "        ref: *Self,",
    "",
    "        ///",
    "        /// Returns a pointer to IUP element or an error.",
    "        /// Only top-level or detached elements need to be "
      ++ "unwraped,",
    "        pub fn unwrap(self: Initializer) !*Self \x7b",
    "            if (self.last_error) |e| \x7b",
    "                return e;",
    "            \x7d else \x7b",
    "                return self.ref;",
    "            \x7d",
    "        \x7d",
    "",
    "        ///",
    "        /// Captures a reference into a external variable",
    "        /// Allows to capture some references even using "
      ++ "full declarative API",
    "        pub fn capture(self: *Initializer, ref: **Self) "
      ++ "Initializer \x7b",
    "            ref.* = self.ref;",
    "            return self.*;",
    "        \x7d" ]

/- The pieces of the page of an element. -/
def pieces
    (name className nativeType : String)
    (fragments : Fragments) : List Piece :=
  [ .frame prologue,
    .comment fragments.documentation,
    .frame (opening name className nativeType),
    .slot 4 fragments.enumTypes,
    .slot 4 fragments.handlerTypes,
    .frame initializerOpening,
    .slot 8 fragments.initializerOperations,
    .slot 8 fragments.initializer,
    .frame ["    \x7d;"],
    .slot 4 fragments.body,
    .slot 4 fragments.bodyOperations,
    .frame ["\x7d;"],
    .marginSlot fragments.tests ]

/- The page of an element. -/
def page
    (name className nativeType : String)
    (fragments : Fragments) : String :=
  Text.joinWith ""
    ((pieces name className nativeType fragments).map
      Piece.render)

end Zig

open Zig

------------------------------------------------------------
-- Elements
------------------------------------------------------------

/- The fragments of an element with inherited attributes. -/
def Element.fragments
    (element : Element)
    (parents : List (Option Attribute)) :
    Except Fault Fragments :=
  (element.binding parents).map Binding.fragments

/- The source text of an element with inherited attributes. -/
def Element.render
    (element : Element)
    (parents : List (Option Attribute)) :
    Except Fault String := do
  let nativeType ←
    needed (.readField "value") element.nativeType
  let fragments ← element.fragments parents
  return page (shownName element.name)
    (shownName element.className) nativeType.text fragments

end ElementBindings
