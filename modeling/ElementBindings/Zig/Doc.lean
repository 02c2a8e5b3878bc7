import ElementBindings.Text.Line

/-
  Documentation comments.

  A comment opens with a line that is otherwise empty; one
  line follows for each line of the text.  A text that is
  null or blank has no comment.

  Key definitions include:
    * `Zig.docLines`
    * `Zig.docComment`
-/

namespace ElementBindings

namespace Zig

/- One line of a comment. -/
def docLine
    (line : List Char) : List Char :=
  let shown := Text.trimEnd line
  if shown.isEmpty then
    ['/', '/', '/']
  else
    '/' :: '/' :: '/' :: ' ' :: shown

/- The lines of a comment. -/
def docLines
    (text : List Char) : List (List Char) :=
  let body := Text.trim text
  if body.isEmpty then
    []
  else
    ['/', '/', '/'] :: (Text.splitLines body).map docLine

/- The comment of a text, each line with its line feed. -/
def docComment
    (text : Option String) : String :=
  match text with
  | none => ""
  | some text =>
      String.ofList
        ((docLines text.toList).flatMap (· ++ ['\n']))

end Zig

end ElementBindings
