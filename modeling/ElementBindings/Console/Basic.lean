import ElementBindings.Text.Case
import ElementBindings.Text.Line
import ElementBindings.Text.Utf8
import ElementBindings.Text.Word

/-
  The console that a command prints to.

  The lines of a console have a width, in cells.  A console
  shows some characters by their names: a name between colons
  is a code for the character, in capital or in small letters,
  and may end in how the character is to be shown.  Which names
  a console knows is left open.

  Key definitions include:
    * `Console`, `Console.wide`
    * `Console.symbol?`
    * `Console.decode`
-/

namespace ElementBindings

/- The cells of a line, of which there are some, and the names. -/
structure Console where
  width : Nat
  positive : 0 < width
  named? : String → Option String

namespace Console

/- A wide console that knows no names. -/
def wide : Console :=
  { width := 200
    positive := by decide
    named? := fun _ => none }

------------------------------------------------------------
-- Codes
------------------------------------------------------------

/- The ends of codes, and the selectors that they stand for. -/
def selectors : List (String × Char) :=
  [("-emoji", '\uFE0F'), ("-text", '\uFE0E')]

/- The characters that are shown for a name. -/
def image?
    (console : Console)
    (name : List Char) : Option (List Char) :=
  (console.named? (String.ofList (Text.lower name))).map
    String.toList

/- The characters that are shown for a code, without colons. -/
def symbol?
    (console : Console)
    (code : List Char) : Option (List Char) :=
  let ended (selector : String × Char) : Bool :=
    selector.1.toList.isSuffixOf code
  match selectors.find? ended with
  | some (suffix, selector) =>
      let name := code.take (code.length - suffix.length)
      (console.image? name).map (· ++ [selector])
  | none => console.image? code

/- What is shown for a code: itself if it is not known. -/
def shownCode
    (console : Console)
    (code : List Char) : List Char :=
  (console.symbol? code).getD (':' :: code ++ [':'])

/-
  What is shown for the parts of a text between its colons.
  Two colons are those of a code if no blank is between them.
-/
def decodeParts
    (console : Console) :
    List (List Char) →
    List Char
  | [] => []
  | [part] => part
  | [part, last] => part ++ ':' :: last
  | part :: code :: next :: rest =>
      if code.any Text.isBlank then
        part ++ ':' :: decodeParts console (code :: next :: rest)
      else
        part ++ console.shownCode code
          ++ decodeParts console (next :: rest)

/- What is shown for a text with codes in it. -/
def decode
    (console : Console)
    (s : List Char) : List Char :=
  console.decodeParts (Text.splitAtEach ':' s)

end Console

end ElementBindings
