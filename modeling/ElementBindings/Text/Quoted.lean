import ElementBindings.Text.Half

/-
  A text between quotes, as messages show it.

  Single quotes are used unless the text holds one and no
  double quote.  The quote in use, the backslash and the
  unprintable characters are escaped.

  Key definitions include:
    * `Text.quoteChar`
    * `Text.escapeChar`
    * `Text.quoted`
-/

namespace ElementBindings

namespace Text

------------------------------------------------------------
-- Digits of an Escape
------------------------------------------------------------

/- One lower case hexadecimal digit. -/
def hexDigit
    (n : Nat) : Char :=
  if n < 10 then
    Char.ofNat (48 + n)
  else
    Char.ofNat (87 + n)

/- The last `width` hexadecimal digits of a number. -/
def hexDigits
    (width n : Nat) : List Char :=
  (List.range width).reverse.map
    fun place => hexDigit (n / Nat.pow 16 place % 16)

------------------------------------------------------------
-- Quoting
------------------------------------------------------------

/- The quote that surrounds a text. -/
def quoteChar
    (s : List Char) : Char :=
  if s.contains '\'' && !s.contains '"' then '"' else '\''

/- One character of a quoted text. -/
def escapeChar
    (quote c : Char) : List Char :=
  if c = quote || c = '\\' then
    ['\\', c]
  else if c = '\n' then
    ['\\', 'n']
  else if c = '\t' then
    ['\\', 't']
  else if c = '\r' then
    ['\\', 'r']
  else if isPrintable c then
    [c]
  else if c.toNat < 0x100 then
    '\\' :: 'x' :: hexDigits 2 c.toNat
  else if codePoint c < 0x10000 then
    '\\' :: 'u' :: hexDigits 4 (codePoint c)
  else
    '\\' :: 'U' :: hexDigits 8 c.toNat

/- The quoted form of a text. -/
def quotedChars
    (s : List Char) : List Char :=
  let quote := quoteChar s
  quote :: s.flatMap (escapeChar quote) ++ [quote]

/- The quoted form of a string. -/
def quoted
    (s : String) : String :=
  String.ofList (quotedChars s.toList)

end Text

end ElementBindings
