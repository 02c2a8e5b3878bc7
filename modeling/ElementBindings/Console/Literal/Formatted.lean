import ElementBindings.Console.Literal.Escape
import ElementBindings.Console.Literal.Token

/-
  Strings side by side, with expressions inside some of them.

  A string with expressions is divided into plain text and
  parts in braces.  A part is an expression, which may be
  followed by an equals sign, a conversion, and a colon with a
  format.  A format may hold parts of its own, but they may
  not hold further formats with parts.

  Key definitions include:
    * `Literal.plainText`, `Literal.partText`
    * `Literal.StringFault`, `Literal.Origin`
    * `Literal.formatFault?`
    * `Literal.stringsFault?`
-/

namespace ElementBindings

namespace Literal

------------------------------------------------------------
-- Plain Text
------------------------------------------------------------

/-
  Plain text at the start of a string, what follows it, and
  whether it was ended by a double brace.
-/
structure PlainText where
  text : List Char
  rest : List Char
  goesOn : Bool

/- Put characters first. -/
def PlainText.behind
    (s : List Char)
    (plain : PlainText) : PlainText :=
  { plain with text := s ++ plain.text }

/-
  Plain text up to a brace.  Outside of formats a double brace
  stands for one, and a closing brace may not stand alone.
-/
def plainText
    (raw nested : Bool) :
    Nat →
    List Char →
    Except FormatFault PlainText
  | 0, s => .ok ⟨[], s, false⟩
  | _ + 1, [] => .ok ⟨[], [], false⟩
  | steps + 1, c :: rest =>
      if !raw && c = '\\' && !rest.isEmpty then
        match rest with
        | 'N' :: '{' :: inner =>
            let name := inner.takeWhile (· ≠ '}')
            let size := name.length + 1
            (plainText raw nested steps (inner.drop size)).map
              (·.behind (c :: 'N' :: '{' :: inner.take size))
        | 'N' :: inner =>
            (plainText raw nested steps (inner.drop 1)).map
              (·.behind (c :: 'N' :: inner.take 1))
        | d :: inner =>
            if d = '{' || d = '}' then
              (plainText raw nested steps rest).map
                (·.behind [c])
            else
              (plainText raw nested steps inner).map
                (·.behind [c, d])
        | [] => .ok ⟨[c], [], false⟩
      else if c = '{' || c = '}' then
        if nested then
          .ok ⟨[], c :: rest, false⟩
        else if rest.head? = some c then
          .ok ⟨[c], rest.drop 1, true⟩
        else if c = '}' then
          .error .singleBrace
        else
          .ok ⟨[], c :: rest, false⟩
      else
        (plainText raw nested steps rest).map (·.behind [c])

------------------------------------------------------------
-- Parts
------------------------------------------------------------

/- A quote that has been opened, and whether it is tripled. -/
structure OpenQuote where
  quote : Char
  tripled : Bool
deriving DecidableEq, Repr

/- Signs that end an expression unless brackets are open. -/
def endsPart
    (c : Char) : Bool :=
  c = '!' || c = ':' || c = '}' || c = '=' || c = '>' || c = '<'

/- Two signs that belong together and end no expression. -/
def isPair
    (c : Char)
    (next : Option Char) : Bool :=
  (c = '!' || c = '=' || c = '<' || c = '>') && next = some '='

/- Put characters before what is first of two. -/
def putBefore
    (s : List Char) :
    List Char × List Char →
    List Char × List Char
  | (first, second) => (s ++ first, second)

/-
  The expression at the start of a part, inside a quote or
  brackets, and what follows it.  The first argument bounds
  the number of steps.
-/
def partText :
    Nat →
    Option OpenQuote →
    List Char →
    List Char →
    Except SyntaxFault (List Char × List Char)
  | _, some _, _, [] => .error (.format .unterminated)
  | _, none, opening :: _, [] =>
      .error (.insideString (.unmatched opening))
  | _, none, [], [] => .error (.format .unclosedPart)
  | 0, _, _, _ => .error (.format .unclosedPart)
  | steps + 1, quote, brackets, c :: rest =>
      let tripled := rest.take 2 = [c, c]
      let skipped := if tripled then 2 else 0
      let go (quote : Option OpenQuote) (brackets : List Char)
          (more : Nat) :=
        (partText steps quote brackets (rest.drop more)).map
          (putBefore (c :: rest.take more))
      if c = '\\' then
        .error (.format .backslash)
      else
        match quote with
        | some opened =>
            if c ≠ opened.quote then
              go quote brackets 0
            else if !opened.tripled then
              go none brackets 0
            else if tripled then
              go none brackets 2
            else
              go quote brackets 0
        | none =>
            if c = '\'' || c = '"' then
              go (some ⟨c, tripled⟩) brackets skipped
            else if c = '(' || c = '[' || c = '{' then
              if maxBrackets ≤ brackets.length then
                .error (.format .tooManyBrackets)
              else
                go none (c :: brackets) 0
            else if c = '#' then
              .error (.format .comment)
            else if brackets.isEmpty && endsPart c then
              if isPair c rest.head? then
                go none brackets 1
              else if c = '>' || c = '<' then
                go none brackets 0
              else
                .ok ([], c :: rest)
            else
              match openingOf? c, brackets with
              | none, _ => go none brackets 0
              | some _, [] =>
                  .error (.insideString (.unmatched c))
              | some expected, opening :: outer =>
                  if opening = expected then
                    go none outer 0
                  else
                    .error (.insideString
                      (.mismatched c opening none))

/- A text of blanks that separate tokens. -/
def isEmptyPart
    (s : List Char) : Bool :=
  s.all fun c => isGap c || c = '\n'

/- What follows an equals sign and blanks, if there is one. -/
def afterEquals : List Char → List Char
  | '=' :: rest =>
      rest.dropWhile fun c =>
        isGap c || c = '\n' || c = '\r' || c = '\x0b'
  | s => s

/- What follows a conversion, if there is one. -/
def afterConversion : List Char → Except SyntaxFault (List Char)
  | '!' :: [] => .error (.format .unclosedPart)
  | '!' :: c :: rest =>
      if c = 's' || c = 'r' || c = 'a' then
        .ok rest
      else
        .error (.format .badConversion)
  | s => .ok s

------------------------------------------------------------
-- Places of Parts
------------------------------------------------------------

/-
  A fault of strings: found where the reading has come to, at
  a column, or reported by the reader of an expression inside.
-/
inductive StringFault where
  | found (fault : SyntaxFault)
  | foundAt (column : Nat) (fault : SyntaxFault)
  | reported (fault : SyntaxFault)
deriving DecidableEq, Repr

/-
  A place in a string: its line, how many octets stand before
  it there, and how many of them before the string.
-/
structure Origin where
  line : Nat
  column : Nat
  before : Nat
deriving DecidableEq, Repr

/- A part of the string has been read. -/
def Origin.pass
    (origin : Origin)
    (s : List Char) : Origin :=
  ⟨origin.line + s.count '\n', columnAfter origin.column s,
    if s.contains '\n' then 0 else origin.before⟩

/-
  Where the expression behind a brace starts: at the brace, or
  with the string if nothing else stands on the line.
-/
def Origin.start
    (brace : Origin)
    (part : List Char) : Start :=
  if (part.dropWhile isGap).head? = some '\n' then
    ⟨brace.line, brace.before⟩
  else
    ⟨brace.line, brace.column⟩

/- A reader for the expressions inside strings. -/
abbrev InnerReader :=
  Start → List Char → Option SyntaxFault

/- What follows the expression of a part. -/
def afterExpression
    (inner : InnerReader)
    (brace : Origin)
    (s : List Char) : Except StringFault (List Char) := do
  let (text, rest) ←
    (partText (s.length + 1) none [] s).mapError .found
  if isEmptyPart text then
    match rest with
    | '}' :: _ => throw (.found (.format .emptyPart))
    | c :: _ => throw (.found (.format (.missingPart c)))
    | [] => throw (.found (.format .emptyPart))
  match inner (brace.start s) text with
  | some fault => throw (.reported fault)
  | none =>
      (afterConversion (afterEquals rest)).mapError .found

------------------------------------------------------------
-- Strings
------------------------------------------------------------

/-
  What follows the text and the parts of a string or of a
  format, given how deep formats are nested and where it
  begins.  The first argument bounds the number of steps.
-/
def afterParts
    (inner : InnerReader)
    (raw : Bool) :
    Nat →
    Nat →
    Origin →
    List Char →
    Except StringFault (List Char)
  | 0, _, _, s => .ok s
  | steps + 1, depth, origin, s => do
      let plain ←
        (plainText raw (depth ≠ 0) (s.length + 1) s).mapError
          (.found ∘ SyntaxFault.format)
      if !raw then
        match escapeFault? plain.text with
        | some fault => throw (.found fault)
        | none => pure ()
      let brace := origin.pass (consumed s plain.rest)
      if plain.goesOn then
        afterParts inner raw steps depth brace plain.rest
      else
        match plain.rest with
        | '{' :: part =>
            if 2 ≤ depth then
              throw (.found (.format .tooDeep))
            let rest ← afterExpression inner brace part
            let rest ←
              match rest with
              | ':' :: [] =>
                  throw (.found (.format .unclosedPart))
              | ':' :: format =>
                  let origin :=
                    brace.pass (consumed plain.rest format)
                  afterParts inner raw steps (depth + 1) origin
                    format
              | _ => pure rest
            match rest with
            | '}' :: after =>
                let origin :=
                  brace.pass (consumed plain.rest after)
                afterParts inner raw steps depth origin after
            | _ => throw (.found (.format .unclosedPart))
        | rest => return rest

/- The first fault in a string with expressions inside. -/
def formatFault?
    (inner : InnerReader)
    (spot : Spot)
    (text : StringText) : Option StringFault :=
  let before := spot.column - 1
  let origin : Origin := ⟨spot.line, before + text.lead, before⟩
  let steps := 2 * text.body.length + 2
  match afterParts inner text.raw steps 0 origin text.body with
  | .error fault => some fault
  | .ok _ => none

/- The first fault of a string by itself. -/
def StringText.fault?
    (spot : Spot)
    (text : StringText) : Option StringFault :=
  if text.formatted then
    none
  else if text.octets then
    if text.body.any isForeign then
      some (.foundAt spot.column .wideOctets)
    else if text.raw then
      none
    else
      (octetFault? 0 text.body).map .found
  else if text.raw then
    none
  else
    (escapeFault? text.body).map .found

/-
  The first fault of strings side by side, each at its place.
  All or none have to hold octets as the first one does.
-/
def stringsFault?
    (inner : InnerReader)
    (octets : Bool) :
    List (Spot × StringText) →
    Option StringFault
  | [] => none
  | (spot, text) :: rest =>
      text.fault? spot
        <|> (if text.octets ≠ octets then
              some (.found .mixedStrings)
            else if text.formatted then
              formatFault? inner spot text
            else
              none)
        <|> stringsFault? inner octets rest

end Literal

end ElementBindings
