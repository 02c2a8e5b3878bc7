import ElementBindings.Console.Literal.Formatted
import ElementBindings.Console.Literal.Meaning

/-
  The parts of a grammar.

  A rule is a list of alternatives, of which the first that
  matches counts.  An alternative is a list of phrases, with
  what is built from the trees that they match.

  Key definitions include:
    * `Literal.Rule`, `Literal.Phrase`
    * `Literal.Arguments`, `Literal.Tree`
    * `Literal.Mistake`, `Literal.Outcome`, `Literal.Build`
    * `Literal.Alternative`
-/

namespace ElementBindings

namespace Literal

------------------------------------------------------------
-- Rules and Phrases
------------------------------------------------------------

/- The rules of the grammar. -/
inductive Rule where
  | whole
  | inner
  | expressions
  | expression
  | unsearched
  | yielding
  | starItems
  | starItem
  | namedItems
  | namedItem
  | assignment
  | named
  | disjunction
  | conjunction
  | inversion
  | comparison
  | compared
  | bitOr
  | bitXor
  | bitAnd
  | shift
  | sum
  | term
  | factor
  | power
  | awaited
  | primary
  | atom
  | group
  | lambda
  | parameters
  | parameterList
  | plainBeforeSlash
  | defaultBeforeSlash
  | starParameters
  | spreadParameter
  | plainParameter
  | defaultParameter
  | anyParameter
  | defaultValue
  | strings
  | tuple
  | tupleItems
  | set
  | dict
  | entries
  | entry
  | pair
  | clauses
  | clause
  | setComprehension
  | generator
  | dictComprehension
  | arguments
  | argumentList
  | namedArguments
  | starred
  | namedOrStarred
  | namedOrSpread
  | targets
  | targetItems
  | target
  | plainTarget
  | targetAtom
  | targetPrimary
  | targetNext
  | badArguments
  | badNamedArgument
  | oldStatement
  | badExpression
  | badNamed
  | badComprehension
  | badDictComprehension
  | badParameters
  | badParameterOrder
  | badStarParameters
  | badSpreadParameter
  | badDefault
  | badTarget
  | badGroup
  | badEntries
  | badEntry
deriving DecidableEq, Repr

/- What an alternative asks for. -/
inductive Phrase where
  | sign (text : String)
  | word (text : String)
  | name
  | softWord
  | number
  | string
  | lineEnd
  | textEnd
  | rule (rule : Rule)
  | oneOf (choices : List (List Phrase))
  | maybe (phrase : Phrase)
  | many (phrase : Phrase)
  | some (phrase : Phrase)
  | separated (phrase : Phrase)
  | ahead (phrase : Phrase)
  | notAhead (phrase : Phrase)
  | commit

/-
  Arguments of a call: how many have no name, whether others
  were unpacked, and the column of the last one without a name.
-/
structure Arguments where
  count : Nat
  unpacked : Bool
  last : Option Nat
deriving DecidableEq, Repr

/-
  What has been read: a token, an expression, an entry of a
  dictionary, arguments, or several of these.
-/
inductive Tree where
  | absent
  | token (token : PlacedToken)
  | expression (expression : Expression)
  | entry (key : Option Expression) (held : Expression)
  | arguments (arguments : Arguments)
  | list (trees : List Tree)

/-
  A fault and the column at which it is reported, unless that
  has been done before.
-/
structure Mistake where
  fault : SyntaxFault
  column : Option Nat
deriving DecidableEq, Repr

/-
  What an alternative that matches comes to: a tree, a mistake,
  or nothing, which ends its rule without a match.
-/
inductive Outcome where
  | tree (tree : Tree)
  | mistake (mistake : Mistake)
  | nothing

/-
  Where an alternative matches: the place that it takes, the
  column of the last token that was asked for, the brackets
  that are open behind it, and how expressions in strings are
  read.
-/
structure Place where
  spot : Spot
  asked : Nat
  depth : Nat
  inner : InnerReader

/- What is built from the trees of phrases. -/
abbrev Build :=
  Place → List Tree → Outcome

/- Phrases side by side and what they build. -/
structure Alternative where
  phrases : List Phrase
  build : Build

------------------------------------------------------------
-- Taking Trees Apart
------------------------------------------------------------

namespace Tree

/- The trees of a list; another tree stands for itself. -/
def toList : Tree → List Tree
  | .list trees => trees
  | .absent => []
  | tree => [tree]

/- The expressions in a tree. -/
def expressions
    (tree : Tree) : List Expression :=
  tree.toList.filterMap fun
    | .expression e => Option.some e
    | _ => none

/- The entries in a tree. -/
def entries
    (tree : Tree) :
    List (Option Expression × Expression) :=
  tree.toList.filterMap fun
    | .entry key held => Option.some (key, held)
    | _ => none

/- Arguments in front of others, counted together. -/
def argumentsAfter
    (first : Arguments) : Tree → Arguments
  | .arguments next =>
      ⟨first.count + next.count, first.unpacked || next.unpacked,
        next.last <|> first.last⟩
  | .expression e =>
      { first with
        count := first.count + 1
        last := some e.spot.column }
  | _ => first

/- Arguments that stand side by side, counted together. -/
def allArguments
    (tree : Tree) : Arguments :=
  tree.toList.foldl argumentsAfter ⟨0, false, none⟩

/- The column at which a token or an expression begins. -/
def column? : Tree → Option Nat
  | .token placed => placed.spot.column
  | .expression e => e.spot.column
  | _ => none

end Tree

/- The tree at a position. -/
def treeAt
    (i : Nat)
    (trees : List Tree) : Tree :=
  trees.getD i .absent

/- The expression at a position. -/
def expressionAt
    (i : Nat)
    (trees : List Tree) : Expression :=
  (treeAt i trees).expressions.headD (.other "" ⟨0, 0, 0⟩)

end Literal

end ElementBindings
