import ElementBindings.Console.Literal.Fault
import ElementBindings.Console.Literal.Spot

/-
  What expressions mean, as far as literal values go.

  Of a value it matters whether it is a number, which may
  stand beside a sign, and whether a set can hold it.  Of an
  expression it matters besides what it is called, where it
  stands, and whether something can be assigned to it.

  Key definitions include:
    * `Literal.Meaning`
    * `Literal.Meaning.ofTuple`, `Literal.Meaning.ofSet`
    * `Literal.Meaning.ofDict`
    * `Literal.Blocked`, `Literal.Expression`
    * `Literal.Expression.sum`
-/

namespace ElementBindings

namespace Literal

------------------------------------------------------------
-- Meanings
------------------------------------------------------------

/-
  What an expression means: a number without or with a sign, a
  sign before something else on a line, another value, which
  may be of a kind that no set can hold, or nothing that is
  literal.
-/
inductive Meaning where
  | number (imaginary large : Bool)
  | signed (imaginary large : Bool)
  | missigned (line : Nat)
  | value (unhashable : Option String)
  | flawed (flaw : Flaw)
deriving DecidableEq, Repr

namespace Meaning

/- The kind of a value that no set can hold. -/
def unhashable? : Meaning → Option String
  | .value kind => kind
  | _ => none

/- What keeps a value from being literal. -/
def flaw? : Meaning → Option Flaw
  | .flawed flaw => some flaw
  | .missigned line => some (.notLiteral line)
  | _ => none

/- A value as a member of a set. -/
def memberFlaw?
    (m : Meaning) : Option Flaw :=
  match m.flaw?, m.unhashable? with
  | some flaw, _ => some flaw
  | none, some kind => some (.unhashable kind)
  | none, none => none

/- Several values, which may not be changed. -/
def ofTuple
    (items : List Meaning) : Meaning :=
  match items.findSome? flaw? with
  | some flaw => .flawed flaw
  | none => .value (items.findSome? unhashable?)

/- A set of values. -/
def ofSet
    (items : List Meaning) : Meaning :=
  match items.findSome? memberFlaw? with
  | some flaw => .flawed flaw
  | none => .value (some "set")

/- The first thing that is wrong with an entry. -/
def entryFlaw?
    (entry : Option Meaning × Meaning) : Option Flaw :=
  match entry with
  | (none, _) => some .spread
  | (some key, held) =>
      key.flaw? <|> held.flaw? <|> key.memberFlaw?

/- A dictionary; an entry without a key spreads another one. -/
def ofDict
    (entries : List (Option Meaning × Meaning)) : Meaning :=
  match entries.findSome? entryFlaw? with
  | some flaw => .flawed flaw
  | none => .value (some "dict")

end Meaning

------------------------------------------------------------
-- Expressions
------------------------------------------------------------

/- The kind and column of what nothing can be assigned to. -/
structure Blocked where
  kind : String
  column : Nat
deriving DecidableEq, Repr

/-
  An expression: its meaning, the kind that it is of, where it
  stands, the first part that nothing can be assigned to, and
  its name if it is one.
-/
structure Expression where
  meaning : Meaning
  kind : String
  spot : Spot
  blocked : Option Blocked
  word : Option String
deriving DecidableEq, Repr

namespace Expression

/- A value at a place. -/
def ofValue
    (meaning : Meaning)
    (kind : String)
    (spot : Spot) : Expression :=
  ⟨meaning, kind, spot, some ⟨kind, spot.column⟩, none⟩

/- An expression that is not literal. -/
def other
    (kind : String)
    (spot : Spot) : Expression :=
  ofValue (.flawed (.notLiteral spot.line)) kind spot

/- A name, which can be assigned to. -/
def ofName
    (word : String)
    (spot : Spot) : Expression :=
  ⟨.flawed (.notLiteral spot.line), "name", spot, none,
    some word⟩

/- A field of something, which can be assigned to. -/
def ofField
    (spot : Spot) : Expression :=
  { other "attribute" spot with blocked := none }

/- Items side by side, each of which is assigned to. -/
def ofItems
    (items : List Expression)
    (spot : Spot) : Expression :=
  ⟨.ofTuple (items.map (·.meaning)), "tuple", spot,
    items.findSome? (·.blocked), none⟩

/- The members of a set. -/
def ofMembers
    (items : List Expression)
    (spot : Spot) : Expression :=
  ofValue (.ofSet (items.map (·.meaning))) "set display" spot

/- The entries of a dictionary. -/
def ofEntries
    (entries : List (Option Expression × Expression))
    (spot : Spot) : Expression :=
  let meanings := entries.map fun (key, held) =>
    (key.map (·.meaning), held.meaning)
  ofValue (.ofDict meanings) "dict literal" spot

/- An expression behind a star. -/
def starred
    (inner : Expression)
    (spot : Spot) : Expression :=
  { other "starred" spot with blocked := inner.blocked }

/- A comparison; the word "in" may belong to a clause. -/
def comparison
    (left : Expression)
    (isMembership : Bool)
    (spot : Spot) : Expression :=
  { other "comparison" spot with
    blocked := if isMembership then left.blocked else none }

/- An expression behind a plus or a minus. -/
def behindSign
    (operand : Expression)
    (spot : Spot) : Expression :=
  let meaning : Meaning :=
    match operand.meaning with
    | .number imaginary large => .signed imaginary large
    | _ => .missigned operand.spot.line
  ofValue meaning "expression" spot

/-
  Two expressions around a plus or a minus: a real number and
  an imaginary one make a complex number.
-/
def sum
    (left right : Expression)
    (spot : Spot) : Expression :=
  let meaning : Meaning :=
    match left.meaning, right.meaning with
    | .number false large, .number true _
    | .signed false large, .number true _ =>
        if large then .flawed .tooLarge else .value none
    | .number _ _, .number _ _
    | .signed _ _, .number _ _ => .flawed (.notLiteral spot.line)
    | .number _ _, _
    | .signed _ _, _ => .flawed (.notLiteral right.spot.line)
    | .missigned operandLine, _ =>
        .flawed (.notLiteral operandLine)
    | _, _ => .flawed (.notLiteral left.spot.line)
  ofValue meaning "expression" spot

/- A call; the name of sets without arguments is an empty set. -/
def called
    (base : Expression)
    (isEmpty : Bool)
    (spot : Spot) : Expression :=
  if isEmpty && base.word = some "set" then
    ofValue (.value (some "set")) "function call" spot
  else
    other "function call" spot

end Expression

end Literal

end ElementBindings
