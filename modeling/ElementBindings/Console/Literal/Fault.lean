import ElementBindings.Text.Quoted

/-
  What keeps a text from being a literal value: it cannot be
  read as an expression, or means something else.

  Key definitions include:
    * `Literal.EscapeFault`, `Literal.FormatFault`
    * `Literal.ParameterFault`
    * `Literal.SyntaxFault`, `Literal.SyntaxFault.message`
    * `Literal.Flaw`, `Literal.Flaw.message`
    * `Literal.Fault`
-/

namespace ElementBindings

namespace Literal

------------------------------------------------------------
-- Showing Characters
------------------------------------------------------------

/- The number of a character as it is usually written. -/
def codePoint
    (c : Char) : String :=
  let n := c.toNat
  let width := if n < 0x10000 then 4 else if n < 0x100000 then 5 else 6
  "U+" ++ String.ofList ((Text.hexDigits width n).map Char.toUpper)

/- A character between quotes. -/
def shownChar
    (c : Char) : String :=
  "'" ++ String.singleton c ++ "'"

------------------------------------------------------------
-- Strings
------------------------------------------------------------

/- Why an escape stands for no character. -/
inductive EscapeFault where
  | truncated (form : String)
  | beyondLast
  | badName
  | unknownName
deriving DecidableEq, Repr

/- The wording of a fault of an escape. -/
def EscapeFault.message : EscapeFault → String
  | .truncated form => "truncated " ++ form ++ " escape"
  | .beyondLast => "illegal Unicode character"
  | .badName => "malformed \\N character escape"
  | .unknownName => "unknown Unicode character name"

/- Why a string with expressions inside cannot be divided. -/
inductive FormatFault where
  | emptyPart
  | missingPart (next : Char)
  | badConversion
  | tooDeep
  | tooManyBrackets
  | backslash
  | comment
  | unterminated
  | unclosedPart
  | singleBrace
deriving DecidableEq, Repr

/- The wording of a fault in such a string. -/
def FormatFault.message : FormatFault → String
  | .emptyPart => "f-string: empty expression not allowed"
  | .missingPart next =>
      "f-string: expression required before " ++ shownChar next
  | .badConversion =>
      "f-string: invalid conversion character: "
        ++ "expected 's', 'r', or 'a'"
  | .tooDeep => "f-string: expressions nested too deeply"
  | .tooManyBrackets => "f-string: too many nested parenthesis"
  | .backslash =>
      "f-string expression part cannot include a backslash"
  | .comment => "f-string expression part cannot include '#'"
  | .unterminated => "f-string: unterminated string"
  | .unclosedPart => "f-string: expecting '\x7d'"
  | .singleBrace => "f-string: single '\x7d' is not allowed"

------------------------------------------------------------
-- Parameters
------------------------------------------------------------

/- Why the parameters of a function are in disorder. -/
inductive ParameterFault where
  | defaultBefore
  | parenthesized
  | nothingBeforeSlash
  | secondSlash
  | slashBehindStar
  | slashAtStar
  | bareStar
  | starDefault
  | secondStar
  | spreadDefault
  | behindSpread
  | missingDefault
deriving DecidableEq, Repr

/- The wording of a fault of parameters. -/
def ParameterFault.message : ParameterFault → String
  | .defaultBefore =>
      "non-default argument follows default argument"
  | .parenthesized =>
      "Lambda expression parameters cannot be parenthesized"
  | .nothingBeforeSlash =>
      "at least one argument must precede /"
  | .secondSlash => "/ may appear only once"
  | .slashBehindStar => "/ must be ahead of *"
  | .slashAtStar => "expected comma between / and *"
  | .bareStar => "named arguments must follow bare *"
  | .starDefault =>
      "var-positional argument cannot have default value"
  | .secondStar => "* argument may appear only once"
  | .spreadDefault =>
      "var-keyword argument cannot have default value"
  | .behindSpread =>
      "arguments cannot follow var-keyword argument"
  | .missingDefault => "expected default value expression"

------------------------------------------------------------
-- Reading
------------------------------------------------------------

/- Why a text cannot be read as a value. -/
inductive SyntaxFault where
  | unmatched (closing : Char)
  | mismatched (closing opening : Char) (line : Option Nat)
  | neverClosed (opening : Char)
  | tooManyBrackets
  | badNumber (kind : String)
  | badDigit (digit : Char) (kind : String)
  | leadingZeros
  | tooManyDigits (count : Nat)
  | unterminated (tripled : Bool) (line : Nat)
  | strayBackslash
  | badCharacter (c : Char)
  | unexpectedIndent
  | wideOctets
  | mixedStrings
  | badEscape (first last : Nat) (fault : EscapeFault)
  | badOctet (position : Nat)
  | format (fault : FormatFault)
  | insideString (fault : SyntaxFault)
  | parameter (fault : ParameterFault)
  | invalid
  | missingComma
  | missingElse
  | missingColon
  | missingDictValue
  | missingParentheses (name : String)
  | missingTargetParentheses
  | strayStar
  | strayDoubleStar
  | starredDictValue
  | unpackedItem
  | unpackedEntry
  | assignmentToName
  | assignmentTo (kind : String)
  | namedAssignmentTo (kind : String)
  | argumentAssignment
  | badTarget (kind : String)
  | positionalAfterKeyword (unpacked : Bool)
  | iterableAfterUnpacking
  | bareGenerator
  | tooDeep
  | unplaced
deriving DecidableEq, Repr

/-
  The wording of a fault.  Where room ran out there is none,
  nor for a fault without a place.
-/
def SyntaxFault.message : SyntaxFault → String
  | .unmatched closing => "unmatched " ++ shownChar closing
  | .mismatched closing opening line =>
      "closing parenthesis " ++ shownChar closing
        ++ " does not match opening parenthesis "
        ++ shownChar opening
        ++ (match line with
            | some line => " on line " ++ toString line
            | none => "")
  | .neverClosed opening =>
      shownChar opening ++ " was never closed"
  | .tooManyBrackets => "too many nested parentheses"
  | .badNumber kind => "invalid " ++ kind ++ " literal"
  | .badDigit digit kind =>
      "invalid digit " ++ shownChar digit ++ " in " ++ kind
        ++ " literal"
  | .leadingZeros =>
      "leading zeros in decimal integer literals are not "
        ++ "permitted; use an 0o prefix for octal integers"
  | .tooManyDigits count =>
      "Exceeds the limit (4300 digits) for integer string "
        ++ "conversion: value has " ++ toString count
        ++ " digits; use sys.set_int_max_str_digits() to "
        ++ "increase the limit - Consider hexadecimal for huge "
        ++ "integer literals to avoid decimal conversion limits."
  | .unterminated tripled line =>
      "unterminated " ++ (if tripled then "triple-quoted " else "")
        ++ "string literal (detected at line " ++ toString line
        ++ ")"
  | .strayBackslash =>
      "unexpected character after line continuation character"
  | .badCharacter c =>
      if Text.isPrintable c then
        "invalid character " ++ shownChar c ++ " ("
          ++ codePoint c ++ ")"
      else
        "invalid non-printable character " ++ codePoint c
  | .unexpectedIndent => "unexpected indent"
  | .wideOctets =>
      "bytes can only contain ASCII literal characters"
  | .mixedStrings => "cannot mix bytes and nonbytes literals"
  | .badEscape first last fault =>
      "(unicode error) 'unicodeescape' codec can't decode bytes "
        ++ "in position " ++ toString first ++ "-"
        ++ toString last ++ ": " ++ fault.message
  | .badOctet position =>
      "(value error) invalid \\x escape at position "
        ++ toString position
  | .format fault => fault.message
  | .insideString fault => "f-string: " ++ fault.message
  | .parameter fault => fault.message
  | .invalid => "invalid syntax"
  | .missingComma =>
      "invalid syntax. Perhaps you forgot a comma?"
  | .missingElse => "expected 'else' after 'if' expression"
  | .missingColon => "':' expected after dictionary key"
  | .missingDictValue =>
      "expression expected after dictionary key and ':'"
  | .missingParentheses name =>
      "Missing parentheses in call to '" ++ name
        ++ "'. Did you mean " ++ name ++ "(...)?"
  | .missingTargetParentheses =>
      "did you forget parentheses around the comprehension target?"
  | .strayStar => "cannot use starred expression here"
  | .strayDoubleStar =>
      "cannot use double starred expression here"
  | .starredDictValue =>
      "cannot use a starred expression in a dictionary value"
  | .unpackedItem =>
      "iterable unpacking cannot be used in comprehension"
  | .unpackedEntry =>
      "dict unpacking cannot be used in dict comprehension"
  | .assignmentToName =>
      "invalid syntax. Maybe you meant '==' or ':=' instead of '='?"
  | .assignmentTo kind =>
      "cannot assign to " ++ kind
        ++ " here. Maybe you meant '==' instead of '='?"
  | .namedAssignmentTo kind =>
      "cannot use assignment expressions with " ++ kind
  | .argumentAssignment =>
      "expression cannot contain assignment, "
        ++ "perhaps you meant \"==\"?"
  | .badTarget kind => "cannot assign to " ++ kind
  | .positionalAfterKeyword unpacked =>
      "positional argument follows keyword argument"
        ++ (if unpacked then " unpacking" else "")
  | .iterableAfterUnpacking =>
      "iterable argument unpacking follows "
        ++ "keyword argument unpacking"
  | .bareGenerator =>
      "Generator expression must be parenthesized"
  | .tooDeep | .unplaced => ""

------------------------------------------------------------
-- Meaning
------------------------------------------------------------

/- Why a text that can be read is no literal value. -/
inductive Flaw where
  | notLiteral (line : Nat)
  | spread
  | unhashable (kind : String)
  | tooLarge
  | holdsNul
  | tooDeep
  | unplaced
deriving DecidableEq, Repr

/- The wording of a flaw; where room ran out there is none. -/
def Flaw.message : Flaw → String
  | .notLiteral line =>
      "malformed node or string on line " ++ toString line
  | .spread => "malformed node or string: None"
  | .unhashable kind => "unhashable type: '" ++ kind ++ "'"
  | .tooLarge => "int too large to convert to float"
  | .holdsNul => "source code string cannot contain null bytes"
  | .tooDeep => ""
  | .unplaced => "Negative size passed to PyUnicode_New"

/- Why a text is no literal value. -/
inductive Fault where
  | misread (fault : SyntaxFault)
  | flawed (flaw : Flaw)
deriving DecidableEq, Repr

end Literal

end ElementBindings
