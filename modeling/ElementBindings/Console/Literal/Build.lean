import ElementBindings.Console.Literal.Phrase

/-
  What the alternatives of a grammar build.

  Most of them build expressions.  Those for mistakes build a
  fault with the place where it is reported.

  Key definitions include:
    * `Literal.making`, `Literal.keep`
    * `Literal.numberOf`, `Literal.stringsOf`
    * `Literal.mistakeAt`, `Literal.lateMistake`
-/

namespace ElementBindings

namespace Literal

------------------------------------------------------------
-- Building
------------------------------------------------------------

/- An expression made of trees at a place. -/
def making
    (make : List Tree → Spot → Expression) : Build :=
  fun place trees => .tree (.expression (make trees place.spot))

/- The tree at a position. -/
def keep
    (i : Nat) : Build :=
  fun _ trees => .tree (treeAt i trees)

/- All trees in order, those of lists one by one. -/
def keepAll : Build :=
  fun _ trees => .tree (.list (trees.flatMap Tree.toList))

/- An expression that is not literal. -/
def other
    (kind : String) : Build :=
  making fun _ spot => .other kind spot

/- Nothing that matters later. -/
def silent : Build :=
  fun _ _ => .tree .absent

/- The expressions of all trees, side by side. -/
def itemsOf : Build :=
  making fun trees spot =>
    .ofItems (trees.flatMap Tree.expressions) spot

/- A constant that is spelled as a word. -/
def constant
    (kind : String) : Build :=
  making fun _ spot => .ofValue (.value none) kind spot

/- A comparison with what it begins with. -/
def comparisonOf : Build :=
  making fun trees spot =>
    let isMembership :=
      match (treeAt 1 trees).toList.head? with
      | some (.token placed) => placed.token = .name "in"
      | _ => false
    .comparison (expressionAt 0 trees) isMembership spot

/- A key and its value at two positions. -/
def entryOf : Build :=
  fun _ trees =>
    .tree (.entry (some (expressionAt 0 trees))
      (expressionAt 2 trees))

/- A dictionary whose entries are put into another one. -/
def spreadOf : Build :=
  fun _ trees => .tree (.entry none (expressionAt 1 trees))

/- The arguments at some positions, counted together. -/
def counted
    (positions : List Nat) : Build :=
  fun _ trees =>
    let chosen := positions.flatMap fun i => (treeAt i trees).toList
    .tree (.arguments (Tree.list chosen).allArguments)

/- An argument with a name, or an unpacked one. -/
def namedArgument
    (unpacked : Bool) : Build :=
  fun _ _ => .tree (.arguments ⟨0, unpacked, none⟩)

/- An argument without a name. -/
def plainArgumentOf : Build :=
  fun place _ =>
    .tree (.arguments ⟨1, false, some place.spot.column⟩)

------------------------------------------------------------
-- Names, Numbers and Strings
------------------------------------------------------------

/- The name that a tree is, in plain letters. -/
def nameOf
    (tree : Tree)
    (spot : Spot) : Expression :=
  match tree with
  | .token ⟨.name word, _, _, _⟩ =>
      .ofName (String.ofList (word.toList.map Text.plainLetter))
        spot
  | _ => .other "name" spot

/- A number; too many digits are a fault in front of the line. -/
def numberOf : Build :=
  fun place trees =>
    match treeAt 0 trees with
    | .token ⟨.number number, _, _, _⟩ =>
        match number.excess with
        | some count => .mistake ⟨.tooManyDigits count, some 0⟩
        | none =>
            .tree (.expression
              (.ofValue (.number number.imaginary number.large)
                "literal" place.spot))
    | _ => .nothing

/- A fault of strings with its column. -/
def Place.mistake
    (place : Place) : StringFault → Mistake
  | .found fault => ⟨fault, some place.asked⟩
  | .foundAt column fault => ⟨fault, some column⟩
  | .reported fault => ⟨fault, none⟩

/- Strings side by side. -/
def stringsOf : Build :=
  fun place trees =>
    let texts := (treeAt 0 trees).toList.filterMap fun
      | .token ⟨.string text, spot, _, _⟩ =>
          some (spot, text)
      | _ => none
    let octets := texts.head?.any (·.2.octets)
    match stringsFault? place.inner octets texts with
    | some fault => .mistake (place.mistake fault)
    | none =>
        .tree (.expression
          (if texts.any (·.2.formatted) then
            .other "f-string expression" place.spot
          else
            .ofValue (.value none) "literal" place.spot))

------------------------------------------------------------
-- Mistakes
------------------------------------------------------------

/- A mistake that is reported at the tree at a position. -/
def mistakeAt
    (i : Nat)
    (fault : SyntaxFault) : Build :=
  fun _ trees => .mistake ⟨fault, (treeAt i trees).column?⟩

/- A mistake that is reported where it begins. -/
def mistake
    (fault : SyntaxFault) : Build :=
  fun place _ => .mistake ⟨fault, place.spot.column⟩

/- A mistake that is reported where the reading has come to. -/
def lateMistake
    (fault : SyntaxFault) : Build :=
  fun place _ => .mistake ⟨fault, place.asked⟩

/- A fault about the kind of the first expression. -/
def aboutKind
    (fault : String → SyntaxFault) : Build :=
  fun place trees =>
    mistakeAt 0 (fault (expressionAt 0 trees).kind) place trees

/- A constant is no target. -/
def constantTarget : Build :=
  fun place trees =>
    match treeAt 0 trees with
    | .token ⟨.name word, _, _, _⟩ =>
        mistake (.badTarget word) place trees
    | _ => .nothing

/- The statements that have become calls. -/
def oldStatements : List String :=
  ["print", "exec"]

/- An expression is the name of an old statement. -/
def isOldStatement
    (e : Expression) : Bool :=
  e.word.any oldStatements.contains

/- A missing comma, but not where brackets are missing too. -/
def missingComma : Build :=
  fun place trees =>
    if isOldStatement (expressionAt 0 trees) || place.depth = 0 then
      .nothing
    else
      mistakeAt 0 .missingComma place trees

/- A missing colon, which is reported at the end of the key. -/
def missingColon : Build :=
  fun _ trees =>
    .mistake ⟨.missingColon, (expressionAt 0 trees).spot.last⟩

/- An old statement without brackets. -/
def missingCall : Build :=
  fun place trees =>
    let e := nameOf (treeAt 0 trees) place.spot
    match e.word with
    | some word =>
        if isOldStatement e then
          mistake (.missingParentheses word) place trees
        else
          .nothing
    | none => .nothing

/- A clause assigns to something that cannot be assigned to. -/
def blockedTarget
    (i : Nat) : Build :=
  fun _ trees =>
    match (expressionAt i trees).blocked with
    | some blocked =>
        .mistake ⟨.badTarget blocked.kind, blocked.column⟩
    | none => .nothing

/- Arguments with a generator among them. -/
def generatorAmong : Build :=
  fun _ trees =>
    let arguments := (treeAt 0 trees).allArguments
    if arguments.count ≤ 1 then
      .nothing
    else
      .mistake ⟨.bareGenerator, arguments.last⟩

/- An argument without a name behind others. -/
def lateArgument : Build :=
  fun place trees =>
    let arguments := (treeAt 0 trees).allArguments
    lateMistake (.positionalAfterKeyword arguments.unpacked) place
      trees

end Literal

end ElementBindings
