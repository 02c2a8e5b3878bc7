import ElementBindings.Accessor.Presence
import ElementBindings.Zig.Doc

/-
  The declarations that a binding is made of.

  Functions are kept as data: their parameters, and bodies of
  the few statements that accessors need.  What a statement
  does to an attribute is a call of the interop layer, which
  names the attribute by its key and ids.  Printing a
  declaration is a separate step.

  Key definitions include:
    * `Zig.Param`, `Zig.Key`, `Zig.Call`
    * `Zig.Statement`, `Zig.Statement.lines`
    * `Zig.FunctionDecl`, `Zig.FunctionDecl.render`
    * `Zig.block`
-/

namespace ElementBindings

namespace Zig

------------------------------------------------------------
-- Blocks
------------------------------------------------------------

/- Four blanks before a line that is not empty. -/
def indentLine
    (line : String) : String :=
  if line = "" then "" else "    " ++ line

/- A header and the lines of a body between braces. -/
def block
    (header : String)
    (body : List String) : String :=
  Text.joinLines
    ((header ++ " \x7b") :: body.map indentLine ++ ["\x7d"])

/- Declarations with an empty line between neighbours. -/
def joinDeclarations
    (declarations : List String) : String :=
  Text.joinWith "\n\n" declarations

------------------------------------------------------------
-- Parameters
------------------------------------------------------------

/- A parameter of a function. -/
structure Param where
  name : String
  type : String
deriving DecidableEq, Repr

/- A parameter as it is declared. -/
def Param.render
    (param : Param) : String :=
  param.name ++ ": " ++ param.type

/- The parameters that hold the ids of an attribute. -/
def idParams : Numbering → List Param
  | .no => []
  | .oneId => [⟨"index", "i32"⟩]
  | .twoIds => [⟨"index_lin", "i32"⟩, ⟨"index_col", "i32"⟩]

/- The type that a function is generic in. -/
def typeParam : Param :=
  ⟨"comptime T", "type"⟩

/- The receiver of a setter in a context. -/
def selfParam : Context → Param
  | .initializer => ⟨"self", "*Initializer"⟩
  | .live => ⟨"self", "*Self"⟩

------------------------------------------------------------
-- Interop Calls
------------------------------------------------------------

/- The key of an attribute at run time, with its ids. -/
structure Key where
  name : String
  numbering : Numbering
deriving DecidableEq, Repr

/- A text between double quotes, as it is. -/
def stringLiteral
    (s : String) : String :=
  "\"" ++ s ++ "\""

/- A tuple of names. -/
def tuple
    (names : List String) : String :=
  if names.isEmpty then
    ".\x7b\x7d"
  else
    ".\x7b " ++ Text.joinWith ", " names ++ " \x7d"

/- The two arguments that address an attribute. -/
def Key.arguments
    (key : Key) : List String :=
  [ stringLiteral key.name,
    tuple ((idParams key.numbering).map (·.name)) ]

/- The element that a call is made on. -/
inductive Target where
  | self
  | ref
deriving DecidableEq, Repr

/- A target as it is written. -/
def Target.text : Target → String
  | .self => "self"
  | .ref => "self.ref"

/- The target of the calls of a setter in a context. -/
def targetOf : Context → Target
  | .initializer => .ref
  | .live => .self

/-
  A call of the interop layer on an attribute.  A typed call
  passes the generic type first.
-/
structure Call where
  function : String
  typed : Bool
  target : Target
  key : Key
  arguments : List String
deriving DecidableEq, Repr

/- A call as it is written. -/
def Call.render
    (call : Call) : String :=
  let type := if call.typed then ["T"] else []
  "interop." ++ call.function ++ "("
    ++ Text.joinWith ", "
      (type ++ call.target.text :: call.key.arguments
        ++ call.arguments)
    ++ ")"

/- A call as a statement. -/
def Call.line
    (call : Call) : String :=
  call.render ++ ";"

------------------------------------------------------------
-- Statements
------------------------------------------------------------

/- A separator as a last argument. -/
def separatorArgument
    (separator : Option Char) : List String :=
  match separator with
  | none => []
  | some c => [String.ofList ['\'', c, '\'']]

/- The statements of accessors. -/
inductive Statement where
  | perform (call : Call)
  | returnCall (call : Call)
  | bindCall (name : String) (call : Call)
  | declareBuffer
  | encodeValue
      (function : String)
      (arguments : List String)
      (separator : Option Char)
  | composeDate
  | tryHandle (nativeType : NativeType)
  | ifHandleValid (nativeType : NativeType) (call : Call)
  | ifValueElse (call otherwise : Call)
  | switchValueElse
      (branches : List (String × Call))
      (otherwise : Call)
  | bindHandler (functionType key : String)
  | registerHandler (target : Target)
  | returnParsed (type : String) (separator : Option Char)
  | returnEnum (type : String)
  | returnIfEqual (text member : String)
  | ifHandleFound (call : Call) (result : String)
  | returnNull
  | guardError
  | returnSelf
  | other (line : String)
deriving DecidableEq, Repr

namespace Statement

/- One branch of a switch. -/
def branchLine
    (branch : String × Call) : String :=
  "    ." ++ branch.1 ++ " => " ++ branch.2.render ++ ","

/- The lines of a statement. -/
def lines : Statement → List String
  | .perform call => [call.line]
  | .returnCall call => ["return " ++ call.line]
  | .bindCall name call =>
      ["var " ++ name ++ " = " ++ call.line]
  | .declareBuffer => ["var buffer: [128]u8 = undefined;"]
  | .encodeValue function arguments separator =>
      [ "var value = " ++ function ++ "("
          ++ Text.joinWith ", "
            ("&buffer" :: arguments
              ++ separatorArgument separator)
          ++ ");" ]
  | .composeDate =>
      [ "var value = Date\x7b .year = year, .month = month, "
          ++ ".day = day \x7d;" ]
  | .tryHandle nativeType =>
      [ "try interop.validateHandle(." ++ nativeType.text
          ++ ", arg);" ]
  | .ifHandleValid nativeType call =>
      [ "if (interop.validateHandle(." ++ nativeType.text
          ++ ", arg)) \x7b",
        "    " ++ call.line,
        "\x7d else |err| \x7b",
        "    self.last_error = err;",
        "\x7d" ]
  | .ifValueElse call otherwise =>
      [ "if (arg) |value| \x7b",
        "    " ++ call.line,
        "\x7d else \x7b",
        "    " ++ otherwise.line,
        "\x7d" ]
  | .switchValueElse branches otherwise =>
      "if (arg) |value| switch (value) \x7b"
        :: branches.map branchLine
        ++ [ "\x7d else \x7b",
             "    " ++ otherwise.line,
             "\x7d" ]
  | .bindHandler functionType key =>
      [ "const Handler = CallbackHandler(Self, "
          ++ functionType ++ ", " ++ stringLiteral key ++ ");" ]
  | .registerHandler target =>
      [ "Handler.setCallback(" ++ target.text
          ++ ", callback);" ]
  | .returnParsed type separator =>
      [ "return " ++ type ++ ".parse("
          ++ Text.joinWith ", "
            ("str" :: separatorArgument separator)
          ++ ");" ]
  | .returnEnum type =>
      ["return @intToEnum(" ++ type ++ ", ret);"]
  | .returnIfEqual text member =>
      [ "if (std.ascii.eqlIgnoreCase(" ++ stringLiteral text
          ++ ", ret)) return ." ++ member ++ ";" ]
  | .ifHandleFound call result =>
      [ "if (" ++ call.render ++ ") |handle| \x7b",
        "    return " ++ result ++ ";",
        "\x7d else \x7b",
        "    return null;",
        "\x7d" ]
  | .returnNull => ["return null;"]
  | .guardError => ["if (self.last_error) |_| return self.*;"]
  | .returnSelf => ["return self.*;"]
  | .other line => [line]

/- The interop calls of a statement, in order. -/
def calls : Statement → List Call
  | .perform call => [call]
  | .returnCall call => [call]
  | .bindCall _ call => [call]
  | .ifHandleValid _ call => [call]
  | .ifValueElse call otherwise => [call, otherwise]
  | .switchValueElse branches otherwise =>
      branches.map (·.2) ++ [otherwise]
  | .ifHandleFound call _ => [call]
  | _ => []

end Statement

------------------------------------------------------------
-- Functions
------------------------------------------------------------

/- A public function with its documentation. -/
structure FunctionDecl where
  documentation : Option String
  name : String
  params : List Param
  result : String
  body : List Statement
deriving DecidableEq, Repr

/- The first line of a function, without its brace. -/
def FunctionDecl.header
    (function : FunctionDecl) : String :=
  "pub fn " ++ function.name ++ "("
    ++ Text.joinWith ", " (function.params.map Param.render)
    ++ ") " ++ function.result

/- A function as it is written. -/
def FunctionDecl.render
    (function : FunctionDecl) : String :=
  docComment function.documentation
    ++ block function.header
      (function.body.flatMap Statement.lines)

/- Functions as they are written, one after the other. -/
def renderFunctions
    (functions : List FunctionDecl) : String :=
  joinDeclarations (functions.map FunctionDecl.render)

end Zig

end ElementBindings
