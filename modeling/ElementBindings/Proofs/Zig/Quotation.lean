import ElementBindings.Proofs.Text.Inside
import ElementBindings.Proofs.Zig.Enumeration
import ElementBindings.Proofs.Zig.ReadBack
import ElementBindings.Proofs.Zig.Slots
import ElementBindings.Proofs.Zig.StringLiteral

/-
  The string literals of a page.

  The functions of a binding quote keys and the strings of
  members, and the page quotes the class name.  Each of these
  texts stands between two quotes as it is.  Whatever a text
  is put into keeps its quotations, in order: lines, blocks,
  functions and pages.  Only indenting changes how they look,
  each by itself, since a quote ends no line.

  Other literals of a page are none of these: those of the
  frame and of operations are fixed, and tests are named after
  their element and attribute.

  Key definitions include:
    * `Zig.Quotation`, `Zig.Quotes`, `Zig.LinesQuote`
    * `Zig.Source`, `Zig.FunctionDecl.literals`
    * `Zig.Binding.slotQuotations`

  Key theorems include:
    * `Zig.Quotes.indent`
    * `Zig.Statement.linesQuote_lines`
    * `Zig.FunctionDecl.quotes_render`
    * `Zig.Binding.quotes_page`
-/

namespace ElementBindings

open Zig

namespace Zig

------------------------------------------------------------
-- Quotations
------------------------------------------------------------

/- A value that stands between quotes, and how it looks there. -/
structure Quotation where
  value : String
  shown : List Char
deriving DecidableEq, Repr

/- A value that is shown as it is. -/
def Quotation.verbatim
    (value : String) : Quotation :=
  ⟨value, value.toList⟩

/- A quotation in a text that is indented. -/
def Quotation.indented
    (width : Nat)
    (quotation : Quotation) : Quotation :=
  ⟨quotation.value,
    Text.indentInside width quotation.shown⟩

/- Quotations stand in a text, one behind the other. -/
inductive Quotes : List Quotation → List Char → Prop
  | nothing (s : List Char) : Quotes [] s
  | more
      {first : Quotation}
      {others : List Quotation}
      (before : List Char)
      {after : List Char}
      (hOthers : Quotes others after) :
      Quotes (first :: others)
        (before ++ '"' :: (first.shown ++ '"' :: after))

variable {first second : List Quotation}
variable {s t : String}

/- There may be more text in front of them. -/
theorem Quotes.prepend
    {text : List Char}
    (hQuotes : Quotes first text)
    (front : List Char) :
    Quotes first (front ++ text) := by
  cases hQuotes with
  | nothing => exact .nothing _
  | more before hOthers =>
      rw [← List.append_assoc]
      exact .more (front ++ before) hOthers

/- The quotations of two texts follow each other. -/
theorem Quotes.append
    (hFirst : Quotes first s.toList)
    (hSecond : Quotes second t.toList) :
    Quotes (first ++ second) (s ++ t).toList := by
  rw [String.toList_append]
  generalize s.toList = text at hFirst
  induction hFirst with
  | nothing front => exact hSecond.prepend front
  | @more quotation others before after _ ih =>
      have hText :
          before ++ '"' :: (quotation.shown ++ '"' :: after)
              ++ t.toList =
            before ++ '"' ::
              (quotation.shown ++ '"' :: (after ++ t.toList)) := by
        simp
      rw [hText]
      exact .more before ih

/- Text without quotations may stand in front of them. -/
theorem Quotes.behind
    (hQuotes : Quotes first t.toList)
    (s : String) :
    Quotes first (s ++ t).toList :=
  (Quotes.nothing s.toList).append hQuotes

/- It may also stand behind them. -/
theorem Quotes.before
    (hQuotes : Quotes first s.toList)
    (t : String) :
    Quotes first (s ++ t).toList := by
  have hBoth := hQuotes.append (Quotes.nothing t.toList)
  rw [List.append_nil] at hBoth
  exact hBoth

/- A string literal quotes its text. -/
theorem quotes_stringLiteral
    (value : String) :
    Quotes [.verbatim value] (stringLiteral value).toList := by
  have hText :
      (stringLiteral value).toList =
        [] ++ '"' :: (value.toList ++ '"' :: []) := by
    unfold stringLiteral
    simp
  rw [hText]
  exact .more [] (.nothing [])

/- In an indented text quotations are indented. -/
theorem Quotes.indent
    {text : List Char}
    (hQuotes : Quotes first text)
    (width : Nat) :
    Quotes (first.map (·.indented width))
      (Text.indentChars width text) := by
  induction hQuotes with
  | nothing => exact .nothing _
  | more before _ ih =>
      rw [Text.indentChars_append_cons rfl,
        Text.indentChars_append_cons rfl, List.map_cons]
      exact .more _ ih

------------------------------------------------------------
-- Lines
------------------------------------------------------------

/- Quotations stand on lines, those of each line in turn. -/
inductive LinesQuote : List Quotation → List String → Prop
  | nothing : LinesQuote [] []
  | more
      {here others : List Quotation}
      {line : String}
      {lines : List String}
      (hHere : Quotes here line.toList)
      (hOthers : LinesQuote others lines) :
      LinesQuote (here ++ others) (line :: lines)

variable {lines more : List String}

/- Lines may have no quotations at all. -/
theorem linesQuote_nil
    (lines : List String) :
    LinesQuote [] lines := by
  induction lines with
  | nil => exact .nothing
  | cons line rest ih => exact .more (.nothing line.toList) ih

/- The quotations of a line are those of it alone. -/
theorem linesQuote_singleton
    (hQuotes : Quotes first s.toList) :
    LinesQuote first [s] := by
  have hLines := LinesQuote.more hQuotes .nothing
  rw [List.append_nil] at hLines
  exact hLines

/- Lines that follow each other have their quotations in turn. -/
theorem LinesQuote.append
    (hFirst : LinesQuote first lines)
    (hSecond : LinesQuote second more) :
    LinesQuote (first ++ second) (lines ++ more) := by
  induction hFirst with
  | nothing => exact hSecond
  | more hHere _ ih =>
      rw [List.append_assoc, List.cons_append]
      exact .more hHere ih

/- Lines may stand around those with quotations. -/
theorem LinesQuote.between
    (hLines : LinesQuote first lines)
    (before after : List String) :
    LinesQuote first (before ++ lines ++ after) := by
  have hAll :=
    ((linesQuote_nil before).append hLines).append
      (linesQuote_nil after)
  rw [List.nil_append, List.append_nil] at hAll
  exact hAll

/- Groups of lines have the quotations of each group. -/
theorem linesQuote_flatMap
    {α : Type}
    {quotations : α → List Quotation}
    {linesOf : α → List String}
    (items : List α)
    (hItems :
      ∀ item, LinesQuote (quotations item) (linesOf item)) :
    LinesQuote (items.flatMap quotations)
      (items.flatMap linesOf) := by
  induction items with
  | nil => exact .nothing
  | cons item rest ih => exact (hItems item).append ih

/- So do lines that each belong to an item. -/
theorem linesQuote_map
    {α : Type}
    {quotations : α → List Quotation}
    {lineOf : α → String}
    (items : List α)
    (hItems :
      ∀ item, Quotes (quotations item) (lineOf item).toList) :
    LinesQuote (items.flatMap quotations)
      (items.map lineOf) := by
  rw [← List.flatMap_pure_eq_map]
  exact
    linesQuote_flatMap items fun item =>
      linesQuote_singleton (hItems item)

/- Blanks before lines change nothing about quotations. -/
theorem LinesQuote.map_indentLine
    (hLines : LinesQuote first lines) :
    LinesQuote first (lines.map indentLine) := by
  induction hLines with
  | nothing => exact .nothing
  | @more here others line lines hHere _ ih =>
      refine .more ?_ ih
      unfold indentLine
      split
      · next hEmpty =>
          rw [hEmpty] at hHere
          exact hHere
      · exact hHere.behind "    "

/- Lines that are joined keep their quotations. -/
theorem LinesQuote.joinWith
    (hLines : LinesQuote first lines)
    (separator : String) :
    Quotes first (Text.joinWith separator lines).toList := by
  induction hLines with
  | nothing => exact .nothing _
  | @more here others line lines hHere hOthers ih =>
      cases lines with
      | nil =>
          cases hOthers
          rw [List.append_nil]
          exact hHere
      | cons next lines =>
          exact (hHere.before separator).append ih

------------------------------------------------------------
-- Sources
------------------------------------------------------------

/- What a literal is made from: a key, or the string of a value. -/
inductive Source where
  | key (text : String)
  | value (text : String)
deriving DecidableEq, Repr

/- The text of a source. -/
def Source.text : Source → String
  | .key text => text
  | .value text => text

/- The text of an argument that is a string literal. -/
def literalText?
    (argument : String) : Option String :=
  if argument = stringLiteral (unquoted argument) then
    some (unquoted argument)
  else
    none

/- A literal is told from its quotes. -/
theorem literalText?_stringLiteral
    (s : String) :
    literalText? (stringLiteral s) = some s := by
  unfold literalText?
  rw [unquoted_stringLiteral, if_pos rfl]

/- The sources of the literals of a call, in order. -/
def Call.literals
    (call : Call) : List Source :=
  .key call.key.name
    :: (call.arguments.filterMap literalText?).map .value

/- The sources of the literals of a statement, in order. -/
def Statement.literals : Statement → List Source
  | .bindHandler _ key => [.key key]
  | .returnIfEqual text _ => [.value text]
  | statement => statement.calls.flatMap Call.literals

/- The sources of the literals of a function, in order. -/
def FunctionDecl.literals
    (function : FunctionDecl) : List Source :=
  function.body.flatMap Statement.literals

/- Sources are quoted as they are. -/
def quotations
    (sources : List Source) : List Quotation :=
  sources.map (.verbatim ·.text)

/- Sources are quoted one by one. -/
theorem quotations_append
    (sources others : List Source) :
    quotations (sources ++ others) =
      quotations sources ++ quotations others :=
  List.map_append

/- So they are where they belong to items. -/
theorem quotations_flatMap
    {α : Type}
    (items : List α)
    (sourcesOf : α → List Source) :
    quotations (items.flatMap sourcesOf) =
      items.flatMap fun item => quotations (sourcesOf item) :=
  List.map_flatMap

/- Arguments quote the texts of those that are literals. -/
theorem linesQuote_arguments
    (arguments : List String) :
    LinesQuote
      (quotations
        ((arguments.filterMap literalText?).map .value))
      arguments := by
  induction arguments with
  | nil => exact .nothing
  | cons argument rest ih =>
      by_cases hLiteral :
          argument = stringLiteral (unquoted argument)
      · have hQuoted :
            literalText? argument = some (unquoted argument) := by
          unfold literalText?
          rw [if_pos hLiteral]
        have hHere := quotes_stringLiteral (unquoted argument)
        rw [← hLiteral] at hHere
        rw [List.filterMap_cons_some hQuoted]
        exact .more hHere ih
      · have hOther : literalText? argument = none := by
          unfold literalText?
          rw [if_neg hLiteral]
        rw [List.filterMap_cons_none hOther]
        exact .more (.nothing argument.toList) ih

/- A key is quoted where it is an argument. -/
theorem Key.linesQuote_arguments
    (key : Key) :
    LinesQuote [.verbatim key.name] key.arguments :=
  (linesQuote_singleton (quotes_stringLiteral key.name)).between
    [] [tuple ((idParams key.numbering).map Param.name)]

/- A call quotes its key and then its literal arguments. -/
theorem Call.quotes_render
    (call : Call) :
    Quotes (quotations call.literals) call.render.toList := by
  have hFront :=
    (linesQuote_nil (if call.typed then ["T"] else [])).append
      (.more (.nothing call.target.text.toList)
        call.key.linesQuote_arguments)
  have hAll :
      LinesQuote (quotations call.literals)
        ((if call.typed then ["T"] else [])
          ++ call.target.text :: call.key.arguments
          ++ call.arguments) :=
    hFront.append (Zig.linesQuote_arguments call.arguments)
  exact
    ((hAll.joinWith ", ").behind
      ("interop." ++ call.function ++ "(")).before ")"

/- It does so as a statement. -/
theorem Call.quotes_line
    (call : Call) :
    Quotes (quotations call.literals) call.line.toList :=
  call.quotes_render.before ";"

/- A statement of one call quotes what the call does. -/
theorem quotations_literals_of_call
    {statement : Statement}
    {call : Call}
    (hLiterals :
      statement.literals = statement.calls.flatMap Call.literals)
    (hCalls : statement.calls = [call]) :
    quotations statement.literals =
      quotations call.literals := by
  rw [hLiterals, hCalls, List.flatMap_singleton]

/- The lines of a statement quote its sources. -/
theorem Statement.linesQuote_lines
    (statement : Statement) :
    LinesQuote (quotations statement.literals)
      statement.lines := by
  cases statement with
  | perform call =>
      rw [quotations_literals_of_call rfl rfl]
      exact linesQuote_singleton call.quotes_line
  | returnCall call =>
      rw [quotations_literals_of_call rfl rfl]
      exact
        linesQuote_singleton (call.quotes_line.behind "return ")
  | bindCall name call =>
      rw [quotations_literals_of_call rfl rfl]
      exact
        linesQuote_singleton
          (call.quotes_line.behind ("var " ++ name ++ " = "))
  | ifHandleValid nativeType call =>
      rw [quotations_literals_of_call rfl rfl]
      exact
        (linesQuote_singleton
          (call.quotes_line.behind "    ")).between [_]
            [_, _, _]
  | ifHandleFound call result =>
      rw [quotations_literals_of_call rfl rfl]
      exact
        (linesQuote_singleton
          ((call.quotes_render.behind "if (").before
            ") |handle| \x7b")).between [] [_, _, _, _]
  | ifValueElse call otherwise =>
      have hCall :=
        (linesQuote_singleton
          (call.quotes_line.behind "    ")).between
            ["if (arg) |value| \x7b"] ["\x7d else \x7b"]
      have hOtherwise :=
        (linesQuote_singleton
          (otherwise.quotes_line.behind "    ")).between []
            ["\x7d"]
      have hBoth := hCall.append hOtherwise
      rw [← quotations_append] at hBoth
      simpa [Statement.literals, Statement.calls,
        Statement.lines] using hBoth
  | switchValueElse branches otherwise =>
      have hBranches :
          LinesQuote
            (branches.flatMap fun branch =>
              quotations branch.2.literals)
            (branches.map branchLine) :=
        linesQuote_map branches fun branch =>
          (branch.2.quotes_render.behind
            ("    ." ++ branch.1 ++ " => ")).before ","
      have hOtherwise :=
        (linesQuote_singleton
          (otherwise.quotes_line.behind "    ")).between
            ["\x7d else \x7b"] ["\x7d"]
      have hAll :=
        (hBranches.between
          ["if (arg) |value| switch (value) \x7b"] []).append
          hOtherwise
      rw [← quotations_flatMap, ← quotations_append] at hAll
      simpa [Statement.literals, Statement.calls,
        Statement.lines, List.flatMap_map] using hAll
  | bindHandler functionType key =>
      exact
        linesQuote_singleton
          (((quotes_stringLiteral key).behind
            ("const Handler = CallbackHandler(Self, "
              ++ functionType ++ ", ")).before ");")
  | returnIfEqual text member =>
      exact
        linesQuote_singleton
          (((((quotes_stringLiteral text).behind
            "if (std.ascii.eqlIgnoreCase(").before
            ", ret)) return .").before member).before ";")
  | _ => exact linesQuote_nil _

------------------------------------------------------------
-- Functions
------------------------------------------------------------

/- A block keeps the quotations of its lines. -/
theorem LinesQuote.block
    (hLines : LinesQuote first lines)
    (header : String) :
    Quotes first (Zig.block header lines).toList :=
  (hLines.map_indentLine.between [header ++ " \x7b"]
    ["\x7d"]).joinWith "\n"

/- A function quotes its sources, behind its documentation. -/
theorem FunctionDecl.quotes_render
    (function : FunctionDecl) :
    Quotes (quotations function.literals)
      function.render.toList := by
  have hBody :=
    linesQuote_flatMap function.body Statement.linesQuote_lines
  rw [← quotations_flatMap] at hBody
  exact
    (hBody.block function.header).behind
      (docComment function.documentation)

/- Functions quote their sources in turn. -/
theorem quotes_renderFunctions
    (functions : List FunctionDecl) :
    Quotes (quotations (functions.flatMap FunctionDecl.literals))
      (renderFunctions functions).toList := by
  have hLines := linesQuote_map functions
    FunctionDecl.quotes_render
  rw [← quotations_flatMap] at hLines
  exact hLines.joinWith "\n\n"

------------------------------------------------------------
-- Pages
------------------------------------------------------------

/- A text without characters has no quotations. -/
theorem Quotes.eq_nil
    (hQuotes : Quotes first []) :
    first = [] := by
  generalize hNone : ([] : List Char) = text at hQuotes
  cases hQuotes with
  | nothing => rfl
  | more before _ => simp at hNone

/- A slot indents the quotations of its fragment. -/
theorem Quotes.slot
    (hQuotes : Quotes first s.toList)
    (width : Nat) :
    Quotes (first.map (·.indented width))
      (Piece.slot width s).render.toList := by
  rw [Piece.render]
  split
  · next hEmpty =>
      rw [hEmpty] at hQuotes
      rw [hQuotes.eq_nil]
      exact .nothing _
  · have hIndented :
        Quotes (first.map (·.indented width))
          (Text.indent width s).toList := by
      unfold Text.indent
      rw [String.toList_ofList]
      exact hQuotes.indent width
    exact (hIndented.behind _).before "\n"

/- The lines that open the type quote the class name. -/
theorem quotes_opening
    (name className nativeType : String) :
    Quotes [.verbatim className]
      (Piece.frame
        (opening name className nativeType)).render.toList := by
  have hLine :=
    linesQuote_singleton
      ((((quotes_stringLiteral className).behind
        "    pub const CLASS_NAME = ").before ";").before "\n")
  have hLines :
      LinesQuote [.verbatim className]
        ((opening name className nativeType).map (· ++ "\n")) :=
    hLine.between [_] [_, _]
  exact hLines.joinWith ""

/- What the functions of a binding quote, in their slots. -/
def Binding.slotQuotations
    (binding : Binding) : List Quotation :=
  (quotations (binding.initializer.flatMap
      FunctionDecl.literals)).map (·.indented 8)
    ++ (quotations (binding.body.flatMap
      FunctionDecl.literals)).map (·.indented 4)

/- They are the sources of all literals of these functions. -/
theorem Binding.map_value_slotQuotations
    (binding : Binding) :
    binding.slotQuotations.map (·.value) =
      ((binding.initializer ++ binding.body).flatMap
        FunctionDecl.literals).map Source.text := by
  have hValues :
      ∀ (width : Nat) (sources : List Source),
        ((quotations sources).map (·.indented width)).map
            (·.value) =
          sources.map Source.text := by
    intro width sources
    unfold quotations
    rw [List.map_map, List.map_map]
    rfl
  unfold slotQuotations
  rw [List.map_append, hValues, hValues, List.flatMap_append,
    List.map_append]

/-
  A page quotes the class name of its element, then what the
  functions of the initializer are made from, and then what
  those of the live element are.
-/
theorem Binding.quotes_page
    (binding : Binding)
    (name className nativeType : String) :
    Quotes (.verbatim className :: binding.slotQuotations)
      (page name className nativeType
        binding.fragments).toList := by
  have hOpening :=
    (linesQuote_singleton
      (quotes_opening name className nativeType)).between
        [ (Piece.frame prologue).render,
          (Piece.comment binding.fragments.documentation).render ]
        [ (Piece.slot 4 binding.fragments.enumTypes).render,
          (Piece.slot 4 binding.fragments.handlerTypes).render ]
  have hInitializer :=
    (linesQuote_singleton
      ((quotes_renderFunctions binding.initializer).slot
        8)).between
        [ (Piece.frame initializerOpening).render,
          (Piece.slot 8
            binding.fragments.initializerOperations).render ]
        [(Piece.frame ["    \x7d;"]).render]
  have hBody :=
    (linesQuote_singleton
      ((quotes_renderFunctions binding.body).slot 4)).between []
        [ (Piece.slot 4 binding.fragments.bodyOperations).render,
          (Piece.frame ["\x7d;"]).render,
          (Piece.marginSlot binding.fragments.tests).render ]
  exact
    (hOpening.append (hInitializer.append hBody)).joinWith ""

end Zig

end ElementBindings
