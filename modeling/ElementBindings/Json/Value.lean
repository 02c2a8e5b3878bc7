import ElementBindings.Decimal.Integer
import ElementBindings.Decimal.Shortest
import ElementBindings.Text.Line
import ElementBindings.Text.Quoted

/-
  Values of the JSON data format.

  An object keeps its fields in the order in which their keys
  first appear.  A value can be shown as messages show it:
  null, booleans and quoted texts have their own spelling
  there, which is not the one of the data format.

  Key definitions include:
    * `Json`
    * `Json.kind`
    * `Json.isTruthy`
    * `Json.literal`
    * `Json.shown`
    * `Json.setField`
-/

namespace ElementBindings

------------------------------------------------------------
-- Values
------------------------------------------------------------

/- A value of the data format; integers have any size. -/
inductive Json where
  | null
  | bool (b : Bool)
  | int (n : Int)
  | number (x : Binary64)
  | text (s : String)
  | array (items : List Json)
  | object (fields : List (String × Json))
deriving Repr

namespace Json

/- Set a field, in its old place when the key is present. -/
def setField
    (key : String)
    (value : Json) :
    List (String × Json) →
    List (String × Json)
  | [] => [(key, value)]
  | field :: rest =>
      if field.1 = key then
        (key, value) :: rest
      else
        field :: setField key value rest

/- The kinds of values, as messages name them. -/
inductive Kind where
  | null
  | bool
  | int
  | number
  | text
  | array
  | object
deriving DecidableEq, Repr

/- The name of a kind in messages. -/
def Kind.name : Kind → String
  | .null => "NoneType"
  | .bool => "bool"
  | .int => "int"
  | .number => "float"
  | .text => "str"
  | .array => "list"
  | .object => "dict"

/- The kind of a value. -/
def kind : Json → Kind
  | .null => .null
  | .bool _ => .bool
  | .int _ => .int
  | .number _ => .number
  | .text _ => .text
  | .array _ => .array
  | .object _ => .object

/- Zero and everything empty count as false. -/
def isTruthy : Json → Bool
  | .null => false
  | .bool b => b
  | .int n => n != 0
  | .number x => !x.isZero
  | .text s => s != ""
  | .array items => !items.isEmpty
  | .object fields => !fields.isEmpty

------------------------------------------------------------
-- Shown Values
------------------------------------------------------------

mutual

/- A value as messages show it, with texts in quotes. -/
def literal : Json → String
  | .null => "None"
  | .bool b => if b then "True" else "False"
  | .int n => toString n
  | .number x => x.text
  | .text s => Text.quoted s
  | .array items =>
      "[" ++ Text.joinWith ", " (itemLiterals items) ++ "]"
  | .object fields =>
      "\x7b" ++ Text.joinWith ", " (fieldLiterals fields)
        ++ "\x7d"

/- The items of an array, each as messages show it. -/
def itemLiterals : List Json → List String
  | [] => []
  | item :: rest => literal item :: itemLiterals rest

/- The fields of an object, each as messages show it. -/
def fieldLiterals : List (String × Json) → List String
  | [] => []
  | (key, value) :: rest =>
      (Text.quoted key ++ ": " ++ literal value)
        :: fieldLiterals rest

end

/- A value as a text: a text stands for itself. -/
def shown : Json → String
  | .text s => s
  | v => literal v

end Json

end ElementBindings
