import ElementBindings.Console.Literal.Number
import ElementBindings.Console.Literal.Spot
import ElementBindings.Text.Identifier

/-
  The tokens of literal values.

  A text is divided into names, numbers, strings and signs.
  Brackets have to match, and every token knows where it
  stands and how many brackets are open after it.

  Key definitions include:
    * `Literal.Token`, `Literal.PlacedToken`
    * `Literal.Ending`, `Literal.Scan`
    * `Literal.nameToken`, `Literal.scanString`
    * `Literal.Progress`, `Literal.Progress.take`
    * `Literal.scan`
-/

namespace ElementBindings

namespace Literal

------------------------------------------------------------
-- Tokens
------------------------------------------------------------

/-
  A string: whether it holds octets, keeps backslashes, or has
  expressions inside, what stands between its quotes, and how
  many characters stand in front of that.
-/
structure StringText where
  octets : Bool
  raw : Bool
  formatted : Bool
  body : List Char
  lead : Nat
deriving DecidableEq, Repr

/- The smallest parts of a text. -/
inductive Token where
  | name (text : String)
  | number (number : Number)
  | string (text : StringText)
  | sign (text : String)
  | lineEnd
  | indentation
  | textEnd
deriving DecidableEq, Repr

/-
  A token with the place where it stands, the number of
  brackets that are open after it, and whether it was found to
  end where the whole text ends.
-/
structure PlacedToken where
  token : Token
  spot : Spot
  depth : Nat
  meetsEnd : Bool
deriving DecidableEq, Repr

/- An open bracket and the line on which it stands. -/
structure Bracket where
  opening : Char
  line : Nat
deriving DecidableEq, Repr

/-
  How a division into tokens ends: with the text, at a fault,
  or at a place where no further token can be had.  Such a
  place is a fault only for a reader that comes to it; the
  innermost open bracket there is kept.
-/
inductive Ending where
  | complete
  | broken (fault : SyntaxFault)
  | stopped (fault : SyntaxFault) (bracket : Option Bracket)
deriving DecidableEq, Repr

/- The tokens of a text and how they end. -/
structure Scan where
  tokens : List PlacedToken
  ending : Ending
deriving DecidableEq, Repr

/- Put a token first. -/
def Scan.after
    (token : PlacedToken)
    (scan : Scan) : Scan :=
  { scan with tokens := token :: scan.tokens }

------------------------------------------------------------
-- Names and Strings
------------------------------------------------------------

/- The token that a name is. -/
def nameToken
    (name : List Char) : Except SyntaxFault Token :=
  match Text.foreignChar? name with
  | some c => .error (.badCharacter c)
  | none => .ok (.name (String.ofList name))

/- The letters that may stand before a string. -/
def stringLetters : List String :=
  ["", "b", "u", "r", "f", "br", "rb", "fr", "rf"]

/- The letters before the string that a text starts with. -/
def lettersOf?
    (s : List Char) : Option String :=
  let letters := s.takeWhile Char.isAlpha
  let lowered := String.ofList (letters.map Char.toLower)
  let quoted := (s.drop letters.length).head?.any fun c =>
    c = '\'' || c = '"'
  if quoted && stringLetters.contains lowered then
    some lowered
  else
    none

/-
  What stands before and behind the quotes that end a string,
  or how many lines begin before the place where they are
  missing.
-/
def stringEnd
    (quote : Char)
    (tripled : Bool) :
    Nat →
    List Char →
    Except Nat (List Char × List Char)
  | lines, [] => .error lines
  | lines, '\\' :: c :: rest => do
      let begun := if c = '\n' && !rest.isEmpty then 1 else 0
      let (body, after) ←
        stringEnd quote tripled (lines + begun) rest
      return ('\\' :: c :: body, after)
  | lines, c :: rest =>
      if c = quote && !tripled then
        .ok ([], rest)
      else if c = quote && rest.take 2 = [quote, quote] then
        .ok ([], rest.drop 2)
      else if c = '\n' && !tripled then
        .error lines
      else do
        let begun := if c = '\n' && !rest.isEmpty then 1 else 0
        let (body, after) ←
          stringEnd quote tripled (lines + begun) rest
        return (c :: body, after)

/-
  A string on a line, what follows it, and whether a further
  character was looked at to find its end.
-/
def scanString
    (line : Nat)
    (letters : String)
    (s : List Char) :
    Except SyntaxFault (StringText × Bool × List Char) :=
  match s.drop letters.length with
  | [] => .error .invalid
  | quote :: start =>
      let tripled := start.take 2 = [quote, quote]
      let inner := if tripled then start.drop 2 else start
      match stringEnd quote tripled line inner with
      | .error line => .error (.unterminated tripled line)
      | .ok (body, rest) =>
          let has (c : Char) := letters.toList.contains c
          let quotes := if tripled then 3 else 1
          .ok (
            ⟨has 'b', has 'r', has 'f', body,
              letters.length + quotes⟩,
            body.isEmpty && !tripled, rest)

------------------------------------------------------------
-- Signs
------------------------------------------------------------

/- The signs of several characters, the longest first. -/
def longSigns : List String :=
  [ "**=", "//=", ">>=", "<<=", "...", "**", "//", ">>", "<<",
    "<=", ">=", "==", "!=", "->", "+=", "-=", "*=", "/=", "%=",
    "&=", "|=", "^=", "@=", ":=", "<>" ]

/- The sign that a text starts with. -/
def signOf
    (c : Char)
    (s : List Char) : String :=
  (longSigns.find? fun sign => sign.toList.isPrefixOf s).getD
    (String.singleton c)

/- The bracket that a closing bracket belongs to. -/
def openingOf? : Char → Option Char
  | ')' => some '('
  | ']' => some '['
  | '}' => some '{'
  | _ => none

/- The most brackets that may be open. -/
def maxBrackets : Nat := 200

/- The brackets that are open after a sign. -/
def bracketsAfter
    (line : Nat)
    (brackets : List Bracket)
    (c : Char) : Except SyntaxFault (List Bracket) :=
  if c = '(' || c = '[' || c = '{' then
    if maxBrackets ≤ brackets.length then
      .error .tooManyBrackets
    else
      .ok (⟨c, line⟩ :: brackets)
  else
    match openingOf? c, brackets with
    | none, _ => .ok brackets
    | some _, [] => .error (.unmatched c)
    | some opening, bracket :: outer =>
        if bracket.opening = opening then
          .ok outer
        else if bracket.line = line then
          .error (.mismatched c bracket.opening none)
        else
          .error (.mismatched c bracket.opening bracket.line)

------------------------------------------------------------
-- Indentation
------------------------------------------------------------

/-
  How far a line is indented, with tabs up to the next eighth
  column and with tabs as one column.
-/
structure Indent where
  column : Nat
  narrow : Nat
deriving DecidableEq, Repr

/-
  The indentation at the start of a text, and what follows it.
  Of lines that a backslash joins, the first indentation
  counts.
-/
def indentOf
    (first : Nat)
    (indent : Indent) :
    List Char →
    Indent × List Char
  | ' ' :: rest =>
      indentOf first ⟨indent.column + 1, indent.narrow + 1⟩ rest
  | '\t' :: rest =>
      indentOf first
        ⟨(indent.column / 8 + 1) * 8, indent.narrow + 1⟩ rest
  | '\x0c' :: rest => indentOf first ⟨0, 0⟩ rest
  | '\\' :: '\n' :: rest =>
      indentOf (if first = 0 then indent.column else first)
        indent rest
  | rest => (if first = 0 then indent else ⟨first, first⟩, rest)

/- What the indentation of a line means for the lines around. -/
inductive Nesting where
  | same (indents : List Indent)
  | deeper (indents : List Indent)
  | disorder

/- The most indentations that may be nested. -/
def maxIndents : Nat := 100

/- Compare the indentation of a line with those around it. -/
def nestingOf
    (indents : List Indent)
    (indent : Indent) : Nesting :=
  let outer := indents.dropWhile (indent.column < ·.column)
  match outer with
  | [] => .disorder
  | around :: _ =>
      if indent.column = around.column then
        if indent.narrow = around.narrow then
          .same outer
        else
          .disorder
      else if outer.length < indents.length
          || indent.narrow ≤ around.narrow
          || maxIndents ≤ indents.length then
        .disorder
      else
        .deeper (indent :: indents)

------------------------------------------------------------
-- Texts
------------------------------------------------------------

/-
  How far a text has been divided: the line and what stands in
  front of it, how many octets of it have been passed, whether
  it begins here, whether it holds a token, and what encloses
  it.
-/
structure Progress where
  line : Nat
  margin : Nat
  column : Nat
  atStart : Bool
  isEmpty : Bool
  brackets : List Bracket
  indents : List Indent
deriving DecidableEq, Repr

namespace Progress

/- A text has been taken. -/
def pass
    (progress : Progress)
    (s : List Char) : Progress :=
  { progress with
    line := progress.line + s.count '\n'
    margin := if s.contains '\n' then 0 else progress.margin
    column := columnAfter progress.column s }

/-
  A token with the text that it takes.  What stands in front of
  a line counts if the token ends there.
-/
def take
    (progress : Progress)
    (token : Token)
    (meetsEnd : Bool)
    (s : List Char) : PlacedToken × Progress :=
  let next := progress.pass s
  let spot : Spot :=
    ⟨progress.line, next.margin + progress.column + 1,
      next.margin + next.column⟩
  (⟨token, spot, progress.brackets.length, meetsEnd⟩,
    { next with isEmpty := false })

/- A token without a text. -/
def place
    (progress : Progress)
    (token : Token)
    (meetsEnd : Bool) : PlacedToken :=
  (progress.take token meetsEnd []).1

/- The next line begins. -/
def newLine
    (progress : Progress) : Progress :=
  { progress.pass ['\n'] with
    atStart := true
    isEmpty := true }

/- No further token can be had. -/
def stop
    (progress : Progress)
    (fault : SyntaxFault) : Scan :=
  ⟨[], .stopped fault progress.brackets.head?⟩

/- The end of a text, which is a fault in open brackets. -/
def finish
    (progress : Progress) : Scan :=
  match progress.brackets.head? with
  | some bracket => progress.stop (.neverClosed bracket.opening)
  | none => ⟨[progress.place .textEnd true], .complete⟩

end Progress

/- A character that separates tokens. -/
def isGap
    (c : Char) : Bool :=
  c = ' ' || c = '\t' || c = '\x0c'

/- One token that is neither blank nor the end of a line. -/
def scanToken
    (progress : Progress)
    (c : Char)
    (rest : List Char) :
    Except SyntaxFault ((PlacedToken × Progress) × List Char) := do
  let s := c :: rest
  if c.isDigit || (c = '.' && rest.head?.any Char.isDigit) then
    let (imaginary, after) ← scanNumber s
    let text := consumed s after
    let token := .number (.ofText imaginary text)
    return (progress.take token after.isEmpty text, after)
  match lettersOf? s with
  | some letters =>
      let (string, looksOn, after) ←
        scanString progress.line letters s
      let meetsEnd := looksOn && after.isEmpty
      let text := consumed s after
      return (progress.take (.string string) meetsEnd text, after)
  | none =>
      if isNameChar c then
        let name := s.takeWhile isNameChar
        let after := s.drop name.length
        let token ← nameToken name
        return (progress.take token after.isEmpty name, after)
      else if c.toNat < 0x20 || c.toNat = 0x7F then
        throw (.badCharacter c)
      else
        let sign := signOf c s
        let after := s.drop sign.length
        let brackets ←
          bracketsAfter progress.line progress.brackets c
        let meetsEnd := after.isEmpty && sign.length < 3
        let next := { progress with brackets := brackets }
        return (next.take (.sign sign) meetsEnd sign.toList, after)

/- A text goes on with a token, not with a comment or line end. -/
def beginsToken : List Char → Bool
  | [] => false
  | c :: _ => c ≠ '\n' && c ≠ '#' && c ≠ '\\'

/-
  The tokens of a text behind some progress.  The first
  argument bounds the number of steps.
-/
def scanFrom : Nat → Progress → List Char → Scan
  | 0, progress, _ => progress.finish
  | steps + 1, progress, s =>
      if progress.atStart then
        let (indent, rest) := indentOf 0 ⟨0, 0⟩ s
        let next :=
          { progress.pass (consumed s rest) with
            atStart := false }
        if beginsToken rest && progress.brackets.isEmpty then
          match nestingOf progress.indents indent with
          | .same indents =>
              scanFrom steps { next with indents := indents } rest
          | .deeper indents =>
              (scanFrom steps { next with indents := indents }
                rest).after (next.place .indentation false)
          | .disorder => next.stop .invalid
        else
          scanFrom steps next rest
      else
        match s with
        | [] => progress.finish
        | '\n' :: rest =>
            let scan := scanFrom steps progress.newLine rest
            if progress.isEmpty || !progress.brackets.isEmpty then
              scan
            else
              scan.after (progress.place .lineEnd false)
        | '\\' :: '\n' :: rest =>
            scanFrom steps (progress.pass ['\n']) rest
        | '\\' :: _ => progress.stop .strayBackslash
        | c :: rest =>
            if isGap c then
              scanFrom steps (progress.pass [c]) rest
            else if c = '#' then
              scanFrom steps progress
                (rest.dropWhile (· ≠ '\n'))
            else
              match scanToken progress c rest with
              | .error fault => ⟨[], .broken fault⟩
              | .ok ((token, next), after) =>
                  (scanFrom steps next after).after token

/- The tokens of a text and how they end. -/
def scan
    (start : Start)
    (s : List Char) : Scan :=
  scanFrom (2 * s.length + 2)
    ⟨start.line, start.margin, 0, true, true, [], [⟨0, 0⟩]⟩ s

end Literal

end ElementBindings
