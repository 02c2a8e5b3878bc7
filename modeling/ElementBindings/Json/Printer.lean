import ElementBindings.Json.Value

/-
  Writing JSON text.

  All characters outside printable ASCII are escaped, those
  beyond the first plane as a pair of units, and half of a
  pair as the unit that it is.  A value is written on one line,
  or spread over lines with two blanks for each level.

  Key definitions include:
    * `Json.escaped`
    * `Json.compact`
    * `Json.pretty`
-/

namespace ElementBindings

namespace Json

------------------------------------------------------------
-- Texts
------------------------------------------------------------

/- An escape that names a code unit. -/
def escapeUnit
    (unit : Nat) : List Char :=
  '\\' :: 'u' :: Text.hexDigits 4 unit

/- One character of a text. -/
def escapeChar
    (c : Char) : List Char :=
  if c = '"' then ['\\', '"']
  else if c = '\\' then ['\\', '\\']
  else if c = '\n' then ['\\', 'n']
  else if c = '\r' then ['\\', 'r']
  else if c = '\t' then ['\\', 't']
  else if c = '\x0C' then ['\\', 'f']
  else if c = '\x08' then ['\\', 'b']
  else if ' ' ≤ c && c ≤ '~' then [c]
  else if Text.codePoint c < 0x10000 then
    escapeUnit (Text.codePoint c)
  else
    let rest := c.toNat - 0x10000
    escapeUnit (0xD800 + rest / 0x400)
      ++ escapeUnit (0xDC00 + rest % 0x400)

/- A text between quotes. -/
def escaped
    (s : String) : String :=
  String.ofList
    ('"' :: s.toList.flatMap escapeChar ++ ['"'])

------------------------------------------------------------
-- Scalars
------------------------------------------------------------

/- The text of a number; the names are those that the reader knows. -/
def numberText : Binary64 → String
  | .nan => "NaN"
  | .infinity negative =>
      if negative then "-Infinity" else "Infinity"
  | x => x.text

------------------------------------------------------------
-- One Line
------------------------------------------------------------

mutual

/- A value on one line, without blanks. -/
def compact : Json → String
  | .null => "null"
  | .bool b => if b then "true" else "false"
  | .int n => toString n
  | .number x => numberText x
  | .text s => escaped s
  | .array items =>
      "[" ++ Text.joinWith "," (compactItems items) ++ "]"
  | .object fields =>
      "\x7b" ++ Text.joinWith "," (compactFields fields)
        ++ "\x7d"

/- The items of an array, each on one line. -/
def compactItems : List Json → List String
  | [] => []
  | item :: rest => compact item :: compactItems rest

/- The fields of an object, each on one line. -/
def compactFields : List (String × Json) → List String
  | [] => []
  | (key, value) :: rest =>
      (escaped key ++ ":" ++ compact value)
        :: compactFields rest

end

------------------------------------------------------------
-- Several Lines
------------------------------------------------------------

/- A line feed and the blanks of a level. -/
def lineBreak
    (level : Nat) : String :=
  "\n" ++ String.ofList (List.replicate (2 * level) ' ')

/- Entries between brackets, each on lines of its own. -/
def spread
    (opening closing : String)
    (level : Nat)
    (entries : List String) : String :=
  if entries.isEmpty then
    opening ++ closing
  else
    opening ++ lineBreak (level + 1)
      ++ Text.joinWith ("," ++ lineBreak (level + 1)) entries
      ++ lineBreak level ++ closing

mutual

/- A value on several lines, at a level. -/
def prettyAt
    (level : Nat) :
    Json →
    String
  | .array items =>
      spread "[" "]" level (prettyItems (level + 1) items)
  | .object fields =>
      spread "\x7b" "\x7d" level
        (prettyFields (level + 1) fields)
  | v => compact v

/- The items of an array at a level. -/
def prettyItems
    (level : Nat) :
    List Json →
    List String
  | [] => []
  | item :: rest =>
      prettyAt level item :: prettyItems level rest

/- The fields of an object at a level. -/
def prettyFields
    (level : Nat) :
    List (String × Json) →
    List String
  | [] => []
  | (key, value) :: rest =>
      (escaped key ++ ": " ++ prettyAt level value)
        :: prettyFields level rest

end

/- A value on several lines. -/
def pretty
    (v : Json) : String :=
  prettyAt 0 v

end Json

end ElementBindings
