import ElementBindings.Console.Color
import ElementBindings.Text.Case

/-
  Styles of the console.

  A style is written in words: effects, which can be
  negated, a color, a background after "on", and the target of
  a link.  Different words can mean one style; its full name
  tells styles apart.

  Key definitions include:
    * `Style`
    * `Style.read`
    * `Style.text`
    * `Style.nameOf`
-/

namespace ElementBindings

------------------------------------------------------------
-- Effects
------------------------------------------------------------

/- What a style can switch on and off. -/
inductive TextEffect where
  | bold
  | dim
  | italic
  | underline
  | blink
  | fastBlink
  | reverse
  | conceal
  | strike
  | doubleUnderline
  | frame
  | encircle
  | overline
deriving DecidableEq, Repr

namespace TextEffect

/- All effects, in the order of a full name. -/
def all : List TextEffect :=
  [ .bold, .dim, .italic, .underline, .blink, .fastBlink,
    .reverse, .conceal, .strike, .doubleUnderline, .frame,
    .encircle, .overline ]

/- The full name of an effect. -/
def text : TextEffect → String
  | .bold => "bold"
  | .dim => "dim"
  | .italic => "italic"
  | .underline => "underline"
  | .blink => "blink"
  | .fastBlink => "blink2"
  | .reverse => "reverse"
  | .conceal => "conceal"
  | .strike => "strike"
  | .doubleUnderline => "underline2"
  | .frame => "frame"
  | .encircle => "encircle"
  | .overline => "overline"

/- The short name of an effect, if it has one. -/
def shortText : TextEffect → Option String
  | .bold => some "b"
  | .dim => some "d"
  | .italic => some "i"
  | .underline => some "u"
  | .reverse => some "r"
  | .conceal => some "c"
  | .strike => some "s"
  | .doubleUnderline => some "uu"
  | .overline => some "o"
  | .blink | .fastBlink | .frame | .encircle => none

/- The effect that a word names. -/
def ofWord?
    (word : List Char) : Option TextEffect :=
  let name := String.ofList word
  all.find? fun effect =>
    effect.text = name || effect.shortText = some name

end TextEffect

------------------------------------------------------------
-- Styles
------------------------------------------------------------

/- What words say about a style; later words win. -/
structure Style where
  effects : List (TextEffect × Bool)
  color : Option String
  background : Option String
  link : Option String
deriving DecidableEq, Repr

namespace Style

/- The style that says nothing. -/
def plain : Style :=
  { effects := []
    color := none
    background := none
    link := none }

/- Switch an effect on or off. -/
def switch
    (style : Style)
    (effect : TextEffect)
    (on : Bool) : Style :=
  { style with
    effects := (effect, on) :: style.effects }

------------------------------------------------------------
-- Reading
------------------------------------------------------------

/- The words of a text between blanks, some of them empty. -/
def pieces : List Char → List (List Char)
  | [] => []
  | c :: rest =>
      if Text.isBlank c then
        [] :: pieces rest
      else
        match pieces rest with
        | [] => [[c]]
        | word :: more => (c :: word) :: more

/- The words of a text. -/
def words
    (s : List Char) : List (List Char) :=
  (pieces s).filter (!·.isEmpty)

/-
  Add what words say to a style, unless one of them says
  nothing.  Effects and colors may be written in capitals,
  a negated effect may not.
-/
def addWords
    (style : Style) :
    List (List Char) →
    Except DecodeFault (Option Style)
  | [] => .ok (some style)
  | word :: rest => do
      let lowered := Text.lower word
      if lowered = "on".toList then
        match rest with
        | [] => return none
        | target :: rest =>
            let target := Text.lower target
            if ← Color.isColor target then
              let name := String.ofList target
              addWords { style with background := some name } rest
            else
              return none
      else if lowered = "not".toList then
        match rest with
        | [] => return none
        | negated :: rest =>
            match TextEffect.ofWord? negated with
            | some effect =>
                addWords (style.switch effect false) rest
            | none => return none
      else if lowered = "link".toList then
        match rest with
        | [] => return none
        | target :: rest =>
            let target := String.ofList target
            addWords { style with link := some target } rest
      else
        match TextEffect.ofWord? lowered with
        | some effect =>
            addWords (style.switch effect true) rest
        | none =>
            if ← Color.isColor lowered then
              let name := String.ofList lowered
              addWords { style with color := some name } rest
            else
              return none

/- The style that a text describes, if it describes one. -/
def read
    (s : List Char) : Except DecodeFault (Option Style) :=
  plain.addWords (words s)

------------------------------------------------------------
-- Names
------------------------------------------------------------

/- How a style names what it says about an effect. -/
def effectText?
    (style : Style)
    (effect : TextEffect) : Option String :=
  (style.effects.lookup effect).map fun on =>
    if on then effect.text else "not " ++ effect.text

/- The full name of a style. -/
def text
    (style : Style) : String :=
  let parts :=
    TextEffect.all.filterMap style.effectText?
      ++ style.color.toList
      ++ style.background.toList.map ("on " ++ ·)
      ++ style.link.toList.map ("link " ++ ·)
  if parts.isEmpty then "none" else Text.joinWith " " parts

/-
  The name by which a description is compared with others:
  the full name of its style, or else the description itself,
  in lower case.
-/
def nameOf
    (s : List Char) : Except DecodeFault String := do
  match ← read s with
  | some style => return style.text
  | none => return String.ofList (Text.lower (Text.trim s))

end Style

end ElementBindings
