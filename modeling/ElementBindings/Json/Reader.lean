import ElementBindings.Json.Value

/-
  Reading JSON text.

  The reader follows the grammar of the data format, with the
  three names `NaN`, `Infinity` and `-Infinity` as numbers.
  It stops at the first fault and tells where it stands: the
  offset in characters, and the line and column, where lines
  end at line feeds only.  Half of a pair of code units is
  kept, and values may be nested to any depth: the depth of
  recursion that an interpreter allows is left out.

  Key definitions include:
    * `Json.SyntaxFault`
    * `Json.TextFault`
    * `Json.TextFault.message`
    * `Json.read`
-/

namespace ElementBindings

namespace Json

------------------------------------------------------------
-- Faults
------------------------------------------------------------

/- What a text lacks or holds too much of. -/
inductive SyntaxFault where
  | value
  | propertyName
  | colon
  | comma
  | extraData
  | openText
  | controlCharacter
  | escape
  | unicodeEscape
  | byteOrderMark
deriving DecidableEq, Repr

/- The wording of a fault. -/
def SyntaxFault.message : SyntaxFault → String
  | .value => "Expecting value"
  | .propertyName =>
      "Expecting property name enclosed in double quotes"
  | .colon => "Expecting ':' delimiter"
  | .comma => "Expecting ',' delimiter"
  | .extraData => "Extra data"
  | .openText => "Unterminated string starting at"
  | .controlCharacter => "Invalid control character at"
  | .escape => "Invalid \\escape"
  | .unicodeEscape => "Invalid \\uXXXX escape"
  | .byteOrderMark =>
      "Unexpected UTF-8 BOM (decode using utf-8-sig)"

/- A fault at a place of the text, or an integer too long. -/
inductive TextFault where
  | misplaced
      (fault : SyntaxFault)
      (line column offset : Nat)
  | tooManyDigits
      (count : Nat)
deriving DecidableEq, Repr

/- The wording of an integer that is too long. -/
def tooManyDigitsMessage
    (count : Nat) : String :=
  "Exceeds the limit (" ++ toString Integer.maxDigits
    ++ " digits) for integer string conversion: value has "
    ++ toString count
    ++ " digits; use sys.set_int_max_str_digits() to "
    ++ "increase the limit"

/- The wording of a fault, with its place. -/
def TextFault.message : TextFault → String
  | .misplaced fault line column offset =>
      fault.message ++ ": line " ++ toString line
        ++ " column " ++ toString column
        ++ " (char " ++ toString offset ++ ")"
  | .tooManyDigits count => tooManyDigitsMessage count

/- A fault before its line and column are known. -/
inductive ReadFault where
  | misplaced (fault : SyntaxFault) (offset : Nat)
  | tooManyDigits (count : Nat)
deriving DecidableEq, Repr

/- Find the line and the column of a fault. -/
def ReadFault.locate
    (text : List Char) :
    ReadFault →
    TextFault
  | .misplaced fault offset =>
      let before := text.take offset
      let current := before.reverse.takeWhile (· ≠ '\n')
      .misplaced fault (before.count '\n' + 1)
        (current.length + 1) offset
  | .tooManyDigits count => .tooManyDigits count

------------------------------------------------------------
-- Cursor
------------------------------------------------------------

/- The rest of a text and the offset at which it starts. -/
structure Cursor where
  rest : List Char
  offset : Nat
deriving DecidableEq, Repr

/- Move past some characters. -/
def Cursor.advance
    (cursor : Cursor)
    (count : Nat) : Cursor :=
  ⟨cursor.rest.drop count, cursor.offset + count⟩

/- The blanks of the data format. -/
def isSpace
    (c : Char) : Bool :=
  c = ' ' || c = '\t' || c = '\n' || c = '\r'

/- Move past blanks. -/
def Cursor.skipSpace
    (cursor : Cursor) : Cursor :=
  cursor.advance (cursor.rest.takeWhile isSpace).length

------------------------------------------------------------
-- Texts
------------------------------------------------------------

/- The value of a hexadecimal digit. -/
def hexValue?
    (c : Char) : Option Nat :=
  if '0' ≤ c && c ≤ '9' then some (c.toNat - 48)
  else if 'a' ≤ c && c ≤ 'f' then some (c.toNat - 87)
  else if 'A' ≤ c && c ≤ 'F' then some (c.toNat - 55)
  else none

/- The value of hexadecimal digits. -/
def hexNumber?
    (digits : List Char) : Option Nat :=
  digits.foldlM (fun n c => (hexValue? c).map (16 * n + ·)) 0

/- The character that a short escape stands for. -/
def shortEscape? : Char → Option Char
  | '"' => some '"'
  | '\\' => some '\\'
  | '/' => some '/'
  | 'b' => some '\x08'
  | 'f' => some '\x0C'
  | 'n' => some '\n'
  | 'r' => some '\r'
  | 't' => some '\t'
  | _ => none

/-
  The code units of a text whose opening quote has been read,
  and the cursor after its closing quote.
-/
def readUnits
    (opening offset : Nat) :
    List Char →
    Except ReadFault (List Nat × Cursor)
  | [] => .error (.misplaced .openText opening)
  | '"' :: rest => .ok ([], ⟨rest, offset + 1⟩)
  | ['\\'] => .error (.misplaced .openText opening)
  | '\\' :: 'u' :: a :: b :: c :: d :: rest =>
      if rest.isEmpty then
        .error (.misplaced .unicodeEscape (offset + 1))
      else
        match hexNumber? [a, b, c, d] with
        | none => .error (.misplaced .unicodeEscape (offset + 1))
        | some unit =>
            (readUnits opening (offset + 6) rest).map
              fun (units, cursor) => (unit :: units, cursor)
  | '\\' :: c :: rest =>
      if c = 'u' then
        .error (.misplaced .unicodeEscape (offset + 1))
      else
        match shortEscape? c with
        | none => .error (.misplaced .escape offset)
        | some image =>
            (readUnits opening (offset + 2) rest).map
              fun (units, cursor) =>
                (image.toNat :: units, cursor)
  | c :: rest =>
      if c.toNat < 0x20 then
        .error (.misplaced .controlCharacter offset)
      else
        (readUnits opening (offset + 1) rest).map
          fun (units, cursor) => (c.toNat :: units, cursor)

/- The first unit of a pair that stands for one character. -/
def isHighSurrogate
    (unit : Nat) : Bool :=
  0xD800 ≤ unit && unit < 0xDC00

/- The second unit of a pair that stands for one character. -/
def isLowSurrogate
    (unit : Nat) : Bool :=
  0xDC00 ≤ unit && unit < 0xE000

/- The character of a unit; another one stands for half a pair. -/
def unitChar
    (unit : Nat) : Char :=
  if isHighSurrogate unit || isLowSurrogate unit then
    Text.halfChar unit
  else
    Char.ofNat unit

/- Read code units as characters, joining pairs. -/
def joinUnits : List Nat → List Char
  | [] => []
  | [unit] => [unitChar unit]
  | high :: low :: rest =>
      if isHighSurrogate high && isLowSurrogate low then
        Char.ofNat
          (0x10000 + (high - 0xD800) * 0x400 + (low - 0xDC00))
          :: joinUnits rest
      else
        unitChar high :: joinUnits (low :: rest)

/- Read a text whose opening quote stands at the cursor. -/
def readText
    (cursor : Cursor) :
    Except ReadFault (String × Cursor) :=
  (readUnits cursor.offset (cursor.offset + 1)
    (cursor.rest.drop 1)).map
      fun (units, after) =>
        (String.ofList (joinUnits units), after)

------------------------------------------------------------
-- Numbers
------------------------------------------------------------

/- A digit of a number. -/
def isDigit
    (c : Char) : Bool :=
  '0' ≤ c && c ≤ '9'

/- The value of decimal digits. -/
def digitsValue
    (digits : List Char) : Nat :=
  digits.foldl (fun n c => 10 * n + (c.toNat - 48)) 0

/- The whole digits: a zero alone, or any without one first. -/
def wholeDigits : List Char → List Char
  | '0' :: _ => ['0']
  | s => s.takeWhile isDigit

/- The digits after a decimal point, if there are any. -/
def fractionDigits : List Char → List Char
  | '.' :: rest => rest.takeWhile isDigit
  | _ => []

/- The characters and the value of an exponent, if it has digits. -/
def exponentPart? : List Char → Option (Nat × Int)
  | e :: rest =>
      if e = 'e' || e = 'E' then
        let (signLength, negative, tail) :=
          match rest with
          | '-' :: tail => (1, true, tail)
          | '+' :: tail => (1, false, tail)
          | tail => (0, false, tail)
        let digits := tail.takeWhile isDigit
        if digits.isEmpty then
          none
        else
          let size : Int := digitsValue digits
          some (1 + signLength + digits.length,
            if negative then -size else size)
      else
        none
  | [] => none

/- Read a number, if one stands at the cursor. -/
def readNumber
    (cursor : Cursor) :
    Except ReadFault (Json × Cursor) :=
  let (signLength, negative) :=
    match cursor.rest with
    | '-' :: _ => (1, true)
    | _ => (0, false)
  let afterSign := cursor.advance signLength
  let whole := wholeDigits afterSign.rest
  if whole.isEmpty then
    .error (.misplaced .value cursor.offset)
  else
    let afterWhole := afterSign.advance whole.length
    let fraction := fractionDigits afterWhole.rest
    let afterFraction :=
      if fraction.isEmpty then
        afterWhole
      else
        afterWhole.advance (fraction.length + 1)
    let exponent := exponentPart? afterFraction.rest
    if fraction.isEmpty && exponent.isNone then
      if whole.length > Integer.maxDigits then
        .error (.tooManyDigits whole.length)
      else
        let size : Int := digitsValue whole
        .ok (.int (if negative then -size else size), afterWhole)
    else
      let (length, power) := exponent.getD (0, 0)
      let digits := digitsValue (whole ++ fraction)
      .ok (.number (Binary64.ofDecimal negative digits
        (power - fraction.length)), afterFraction.advance length)

------------------------------------------------------------
-- Values
------------------------------------------------------------

/- The values that are written as a name. -/
def names : List (List Char × Json) :=
  [ (['n', 'u', 'l', 'l'], .null),
    (['t', 'r', 'u', 'e'], .bool true),
    (['f', 'a', 'l', 's', 'e'], .bool false),
    (['N', 'a', 'N'], .number .nan),
    (['I', 'n', 'f', 'i', 'n', 'i', 't', 'y'],
      .number (.infinity false)),
    (['-', 'I', 'n', 'f', 'i', 'n', 'i', 't', 'y'],
      .number (.infinity true)) ]

/- Read a value that is a name or a number. -/
def readScalar
    (cursor : Cursor) :
    Except ReadFault (Json × Cursor) :=
  match names.find? (·.1.isPrefixOf cursor.rest) with
  | some (name, value) =>
      .ok (value, cursor.advance name.length)
  | none => readNumber cursor

mutual

/-
  Read the value at the cursor.  The first argument bounds
  the number of steps.
-/
def readValue :
    Nat →
    Cursor →
    Except ReadFault (Json × Cursor)
  | 0, cursor => .error (.misplaced .value cursor.offset)
  | steps + 1, cursor =>
      match cursor.rest with
      | '"' :: _ =>
          (readText cursor).map
            fun (s, after) => (.text s, after)
      | '[' :: _ =>
          let inside := (cursor.advance 1).skipSpace
          match inside.rest with
          | ']' :: _ => .ok (.array [], inside.advance 1)
          | _ =>
              (readItems steps inside).map
                fun (items, after) => (.array items, after)
      | '\x7b' :: _ =>
          let inside := (cursor.advance 1).skipSpace
          match inside.rest with
          | '\x7d' :: _ => .ok (.object [], inside.advance 1)
          | _ =>
              (readFields steps [] inside).map
                fun (fields, after) => (.object fields, after)
      | _ => readScalar cursor

/- Read the items of an array up to its closing bracket. -/
def readItems :
    Nat →
    Cursor →
    Except ReadFault (List Json × Cursor)
  | 0, cursor => .error (.misplaced .value cursor.offset)
  | steps + 1, cursor =>
      match readValue steps cursor with
      | .error fault => .error fault
      | .ok (item, after) =>
          let next := after.skipSpace
          match next.rest with
          | ']' :: _ => .ok ([item], next.advance 1)
          | ',' :: _ =>
              (readItems steps (next.advance 1).skipSpace).map
                fun (items, last) => (item :: items, last)
          | _ => .error (.misplaced .comma next.offset)

/-
  Read the fields of an object up to its closing brace, after
  the fields that are known.
-/
def readFields :
    Nat →
    List (String × Json) →
    Cursor →
    Except ReadFault (List (String × Json) × Cursor)
  | 0, _, cursor => .error (.misplaced .value cursor.offset)
  | steps + 1, known, cursor =>
      match cursor.rest with
      | '"' :: _ =>
          match readText cursor with
          | .error fault => .error fault
          | .ok (key, afterKey) =>
              let colon := afterKey.skipSpace
              match colon.rest with
              | ':' :: _ =>
                  let start := (colon.advance 1).skipSpace
                  match readValue steps start with
                  | .error fault => .error fault
                  | .ok (value, after) =>
                      let fields := setField key value known
                      let next := after.skipSpace
                      match next.rest with
                      | '\x7d' :: _ => .ok (fields, next.advance 1)
                      | ',' :: _ =>
                          readFields steps fields
                            (next.advance 1).skipSpace
                      | _ => .error (.misplaced .comma next.offset)
              | _ => .error (.misplaced .colon colon.offset)
      | _ => .error (.misplaced .propertyName cursor.offset)

end

------------------------------------------------------------
-- Documents
------------------------------------------------------------

/- Read a whole text, of which every value takes a character. -/
def readChars
    (text : List Char) :
    Except ReadFault Json :=
  match text with
  | '\uFEFF' :: _ => .error (.misplaced .byteOrderMark 0)
  | _ =>
      let start := (Cursor.mk text 0).skipSpace
      match readValue (2 * text.length + 2) start with
      | .error fault => .error fault
      | .ok (value, after) =>
          let last := after.skipSpace
          if last.rest.isEmpty then
            .ok value
          else
            .error (.misplaced .extraData last.offset)

/- Read a text that holds one value. -/
def read
    (text : String) :
    Except TextFault Json :=
  (readChars text.toList).mapError
    (ReadFault.locate text.toList)

end Json

end ElementBindings
