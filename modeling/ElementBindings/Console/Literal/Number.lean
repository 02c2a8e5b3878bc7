import ElementBindings.Console.Literal.Fault

/-
  Numbers in literal values.

  A number is written in decimal, with a fraction and an
  exponent, or in one of three other bases.  Underscores may
  stand between digits, and no name may begin behind the last.

  Key definitions include:
    * `Literal.isNameChar`
    * `Literal.scanNumber`
    * `Literal.Number`, `Literal.Number.ofText`
-/

namespace ElementBindings

namespace Literal

------------------------------------------------------------
-- Numbers
------------------------------------------------------------

/- A character of names. -/
def isNameChar
    (c : Char) : Bool :=
  c.isAlphanum || c = '_' || 0x80 ≤ c.toNat

/- The words that may stand right behind a number. -/
def numberFollowers : List String :=
  ["and", "else", "for", "not", "or"]

/- The words that may begin right behind a number. -/
def numberFollowerStarts : List String :=
  ["if", "in", "is"]

/- A word that may follow a number is next. -/
def followsNumber
    (rest : List Char) : Bool :=
  let starts (word : String) := word.toList.isPrefixOf rest
  numberFollowerStarts.any starts
    || numberFollowers.any fun word =>
      starts word && !(rest.drop word.length).head?.any isNameChar

/- The end of a number, behind which no name may begin. -/
def numberEnd
    (kind : String)
    (imaginary : Bool)
    (rest : List Char) :
    Except SyntaxFault (Bool × List Char) :=
  if rest.head?.any isNameChar && !followsNumber rest then
    .error (.badNumber kind)
  else
    .ok (imaginary, rest)

/-
  What follows digits, between two of which an underscore may
  stand.
-/
def decimalTail : List Char → Except SyntaxFault (List Char)
  | [] => .ok []
  | '_' :: rest =>
      if rest.head?.any Char.isDigit then
        decimalTail rest
      else
        .error (.badNumber "decimal")
  | c :: rest =>
      if c.isDigit then decimalTail rest else .ok (c :: rest)

/- A letter may make a number imaginary. -/
def scanUnit : List Char → Except SyntaxFault (Bool × List Char)
  | c :: rest =>
      if c = 'j' || c = 'J' then
        numberEnd "imaginary" true rest
      else
        numberEnd "decimal" false (c :: rest)
  | [] => .ok (false, [])

/- The exponent of a number, if there is one. -/
def scanExponent
    (s : List Char) : Except SyntaxFault (Bool × List Char) :=
  match s with
  | e :: rest =>
      if e = 'e' || e = 'E' then
        let isSigned := rest.head?.any fun c => c = '+' || c = '-'
        let digits := if isSigned then rest.drop 1 else rest
        if digits.head?.any Char.isDigit then
          decimalTail digits >>= scanUnit
        else if isSigned then
          .error (.badNumber "decimal")
        else
          numberEnd "decimal" false s
      else
        scanUnit s
  | [] => .ok (false, [])

/- The fraction of a number, if there is one. -/
def scanFraction : List Char → Except SyntaxFault (Bool × List Char)
  | '.' :: rest =>
      if rest.head?.any Char.isDigit then
        decimalTail rest >>= scanExponent
      else
        scanExponent rest
  | s => scanExponent s

/- A number whose digits start with a zero. -/
def scanZero
    (s : List Char) : Except SyntaxFault (Bool × List Char) := do
  let rest ← decimalTail s
  let digits := s.take (s.length - rest.length)
  let goesOn := rest.head?.any fun c =>
    c = '.' || c = 'e' || c = 'E' || c = 'j' || c = 'J'
  if goesOn then
    scanFraction rest
  else if digits.any fun c => c.isDigit && c ≠ '0' then
    .error .leadingZeros
  else
    numberEnd "decimal" false rest

/- A base that is not ten, with its digits. -/
structure Radix where
  kind : String
  isDigit : Char → Bool

/- The base that a letter after a zero chooses. -/
def radix? : Char → Option Radix
  | 'x' | 'X' =>
      some ⟨"hexadecimal", fun c => c.isDigit ||
        ('a' ≤ c && c ≤ 'f') || ('A' ≤ c && c ≤ 'F')⟩
  | 'o' | 'O' => some ⟨"octal", fun c => '0' ≤ c && c ≤ '7'⟩
  | 'b' | 'B' => some ⟨"binary", fun c => c = '0' || c = '1'⟩
  | _ => none

/- The digits of a number in a base; one may be due. -/
def scanDigits
    (radix : Radix)
    (due : Bool) :
    List Char →
    Except SyntaxFault (Bool × List Char)
  | [] =>
      if due then .error (.badNumber radix.kind) else .ok (false, [])
  | c :: rest =>
      if radix.isDigit c then
        scanDigits radix false rest
      else if c = '_' && !due then
        scanDigits radix true rest
      else if c.isDigit then
        .error (.badDigit c radix.kind)
      else if due then
        .error (.badNumber radix.kind)
      else
        numberEnd radix.kind false (c :: rest)

/- A number, and what follows it. -/
def scanNumber
    (s : List Char) : Except SyntaxFault (Bool × List Char) :=
  match s with
  | '0' :: c :: rest =>
      match radix? c with
      | some radix =>
          scanDigits radix true
            (if rest.head? = some '_' then rest.drop 1 else rest)
      | none => scanZero s
  | '0' :: [] => .ok (false, [])
  | '.' :: _ => scanFraction s
  | _ => decimalTail s >>= scanFraction

------------------------------------------------------------
-- Values
------------------------------------------------------------

/-
  What matters of the value of a number: whether it is
  imaginary, whether it is an integer that no float comes near
  to, and how many digits it has if they are too many.
-/
structure Number where
  imaginary : Bool
  large : Bool
  excess : Option Nat
deriving DecidableEq, Repr

/- The value of a digit, letters counting from ten on. -/
def digitValue
    (c : Char) : Nat :=
  if c.isDigit then
    c.toNat - '0'.toNat
  else
    c.toLower.toNat - 'a'.toNat + 10

/- The value of digits in a base. -/
def valueIn
    (base : Nat)
    (digits : List Char) : Nat :=
  digits.foldl (fun n c => base * n + digitValue c) 0

/- The most digits that a decimal integer may have. -/
def maxDigits : Nat := 4300

/- The least integer that is beyond all floats. -/
def beyondFloats : Nat :=
  (1 <<< 1024) - (1 <<< 970)

/- The base that a letter after a zero stands for. -/
def baseOf? : Char → Option Nat
  | 'x' | 'X' => some 16
  | 'o' | 'O' => some 8
  | 'b' | 'B' => some 2
  | _ => none

/- The base and the digits of an integer as it is written. -/
def integerDigits?
    (text : List Char) : Option (Nat × List Char) :=
  match text with
  | _ :: c :: rest =>
      match baseOf? c with
      | some base => some (base, rest)
      | none => if text.all Char.isDigit then some (10, text) else none
  | _ => if text.all Char.isDigit then some (10, text) else none

/- What matters of a number as it is written. -/
def Number.ofText
    (imaginary : Bool)
    (text : List Char) : Number :=
  match integerDigits? (text.filter (· ≠ '_')) with
  | none => ⟨imaginary, false, none⟩
  | some (base, digits) =>
      let kept := digits.dropWhile (· = '0')
      if base = 10 && maxDigits < kept.length then
        ⟨imaginary, true, some kept.length⟩
      else
        ⟨imaginary, beyondFloats ≤ valueIn base kept, none⟩

end Literal

end ElementBindings
