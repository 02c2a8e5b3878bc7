import ElementBindings.Console.Literal.Number
import ElementBindings.Text.CharacterName

/-
  Escapes in strings.

  A backslash and what follows it stand for a character.  A
  text is brought into a plain form first, where a character
  beyond ASCII is an escape of ten characters; positions are
  counted in that form.

  Key definitions include:
    * `Literal.plainForm`
    * `Literal.escapeFault?`
    * `Literal.octetFault?`
-/

namespace ElementBindings

namespace Literal

------------------------------------------------------------
-- Plain Form
------------------------------------------------------------

/- A character beyond ASCII. -/
def isForeign
    (c : Char) : Bool :=
  0x80 ≤ c.toNat

/- The escape for a character by its number. -/
def numbered
    (c : Char) : List Char :=
  '\\' :: 'U' :: Text.hexDigits 8 c.toNat

/- The escape for a backslash by its number. -/
def numberedBackslash : List Char :=
  ['\\', 'u', '0', '0', '5', 'c']

/- A text with escapes for the characters beyond ASCII. -/
def plainForm : List Char → List Char
  | [] => []
  | ['\\'] => numberedBackslash
  | '\\' :: c :: rest =>
      if isForeign c then
        numberedBackslash ++ numbered c ++ plainForm rest
      else
        '\\' :: c :: plainForm rest
  | c :: rest =>
      (if isForeign c then numbered c else [c]) ++ plainForm rest

------------------------------------------------------------
-- Characters
------------------------------------------------------------

/- A digit of base sixteen. -/
def isHexDigit
    (c : Char) : Bool :=
  c.isDigit || ('a' ≤ c && c ≤ 'f') || ('A' ≤ c && c ≤ 'F')

/- The letters that choose an escape by number. -/
structure NumberedEscape where
  letter : Char
  size : Nat
  form : String

/- The escapes by number. -/
def numberedEscapes : List NumberedEscape :=
  [ ⟨'x', 2, "\\xXX"⟩, ⟨'u', 4, "\\uXXXX"⟩,
    ⟨'U', 8, "\\UXXXXXXXX"⟩ ]

/-
  The fault of an escape by number at a position, given what
  follows its letter.
-/
def NumberedEscape.fault?
    (escape : NumberedEscape)
    (position : Nat)
    (rest : List Char) : Option SyntaxFault :=
  let digits := (rest.take escape.size).takeWhile isHexDigit
  let last := position + 1 + digits.length
  if digits.length < escape.size then
    some (.badEscape position last (.truncated escape.form))
  else if 0x10FFFF < valueIn 16 digits then
    some (.badEscape position last .beyondLast)
  else
    none

/- What an escape by name takes, or its fault. -/
def namedEscape
    (position : Nat) :
    List Char →
    Except SyntaxFault Nat
  | '{' :: rest =>
      let name := rest.takeWhile (· ≠ '}')
      let isClosed := name.length < rest.length
      let size := name.length + if isClosed then 4 else 3
      if !isClosed then
        .error (.badEscape position (position + size - 1) .badName)
      else if name.isEmpty then
        .error (.badEscape position (position + 2) .badName)
      else if Text.isCharacterName name then
        .ok size
      else
        .error
          (.badEscape position (position + size - 1) .unknownName)
  | _ => .error (.badEscape position (position + 1) .badName)

/-
  The first fault of an escape in a plain text from a position
  on.  The first argument bounds the number of steps.
-/
def plainFault? : Nat → Nat → List Char → Option SyntaxFault
  | 0, _, _ => none
  | _ + 1, _, [] => none
  | steps + 1, position, '\\' :: c :: rest =>
      if c = 'N' then
        match namedEscape position rest with
        | .error fault => some fault
        | .ok size =>
            plainFault? steps (position + size)
              (rest.drop (size - 2))
      else
        match numberedEscapes.find? (·.letter = c) with
        | none => plainFault? steps (position + 2) rest
        | some escape =>
            escape.fault? position rest
              <|> plainFault? steps (position + 2 + escape.size)
                (rest.drop escape.size)
  | steps + 1, position, _ :: rest =>
      plainFault? steps (position + 1) rest

/- The first fault of an escape in a text. -/
def escapeFault?
    (s : List Char) : Option SyntaxFault :=
  let plain := plainForm s
  plainFault? plain.length 0 plain

------------------------------------------------------------
-- Octets
------------------------------------------------------------

/-
  The first escape from a position on that stands for no octet.
-/
def octetFault? : Nat → List Char → Option SyntaxFault
  | _, [] => none
  | position, '\\' :: 'x' :: first :: second :: rest =>
      if isHexDigit first && isHexDigit second then
        octetFault? (position + 4) rest
      else
        some (.badOctet position)
  | position, '\\' :: 'x' :: _ => some (.badOctet position)
  | position, '\\' :: _ :: rest => octetFault? (position + 2) rest
  | position, _ :: rest => octetFault? (position + 1) rest

end Literal

end ElementBindings
