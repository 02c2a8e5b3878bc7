import ElementBindings.Console.Literal.Grammar

/-
  Reading tokens by the rules of the grammar.

  A rule is tried at a place and leaves a tree or nothing.
  What some rules leave is kept for the place, so that they
  are not tried there again.  Rules may be nested only so
  deep.

  Key definitions include:
    * `Literal.Halt`, `Literal.Manner`, `Literal.Memory`
    * `Literal.Reading`
    * `Literal.readRule`
-/

namespace ElementBindings

namespace Literal

------------------------------------------------------------
-- Readings
------------------------------------------------------------

/-
  A reading is broken off by a fault of the text, also where
  rules are nested too deep, or by a mistake that a rule has
  found.
-/
inductive Halt where
  | fault (fault : SyntaxFault)
  | mistake (mistake : Mistake)
deriving DecidableEq, Repr

/-
  How tokens are read: what they are, how they end, how the
  expressions in strings are read, whether mistakes are looked
  for, and how many more rules may be nested.
-/
structure Manner where
  tokens : Array PlacedToken
  ending : Ending
  inner : InnerReader
  seeks : Bool
  room : Nat

/- What a rule has left at a place, and where it ended. -/
structure Kept where
  rule : Rule
  tree : Option Tree
  stop : Nat

/-
  Where a reading stands, how many tokens it has asked for,
  and what has been kept for each place.
-/
structure Memory where
  position : Nat
  asked : Nat
  kept : Array (List Kept)

/- The result of a reading, and what is remembered after it. -/
inductive Result (α : Type) where
  | done (value : α) (memory : Memory)
  | halted (halt : Halt) (memory : Memory)

/- A reading of something. -/
def Reading
    (α : Type) : Type :=
  Manner → Memory → Result α

namespace Reading

/- Read nothing. -/
def pure
    {α : Type}
    (a : α) : Reading α :=
  fun _ memory => .done a memory

/- Read one thing after another. -/
def bind
    {α β : Type}
    (first : Reading α)
    (next : α → Reading β) : Reading β :=
  fun manner memory =>
    match first manner memory with
    | .done a memory => next a manner memory
    | .halted halt memory => .halted halt memory

instance : Monad Reading where
  pure := Reading.pure
  bind := Reading.bind

/- Break a reading off. -/
def halt
    {α : Type}
    (halt : Halt) : Reading α :=
  fun _ memory => .halted halt memory

/- No room is left. -/
def exhausted
    {α : Type} : Reading α :=
  halt (.fault .tooDeep)

/- How the tokens are read. -/
def manner : Reading Manner :=
  fun manner memory => .done manner memory

/- Where the reading stands. -/
def position : Reading Nat :=
  fun _ memory => .done memory.position memory

/- Go to a place. -/
def goTo
    (position : Nat) : Reading Unit :=
  fun _ memory => .done () { memory with position := position }

/- Read in another manner. -/
def within
    {α : Type}
    (change : Manner → Manner)
    (reading : Reading α) : Reading α :=
  fun manner memory => reading (change manner) memory

/- Read one rule deeper. -/
def deeper
    {α : Type}
    (reading : Reading α) : Reading α :=
  fun manner memory =>
    match manner.room with
    | 0 => .halted (.fault .tooDeep) memory
    | room + 1 => reading { manner with room := room } memory

/- The next token; where there is none, the text is at fault. -/
def peek : Reading PlacedToken :=
  fun manner memory =>
    let asked := max memory.asked (memory.position + 1)
    let memory := { memory with asked := asked }
    match manner.tokens[memory.position]?, manner.ending with
    | some token, _ => .done token memory
    | none, .broken fault => .halted (.fault fault) memory
    | none, .stopped fault _ => .halted (.fault fault) memory
    | none, .complete => .halted (.fault .invalid) memory

/- Take the next token if it is of some sort. -/
def take
    (isWanted : Token → Bool) : Reading (Option Tree) :=
  bind peek fun placed manner memory =>
    if isWanted placed.token then
      .done (some (.token placed))
        { memory with position := memory.position + 1 }
    else
      pure none manner memory

/- What has been kept for a rule at this place. -/
def keptFor
    (rule : Rule) : Reading (Option Kept) :=
  fun _ memory =>
    let kept := memory.kept.getD memory.position []
    .done (kept.find? (·.rule = rule)) memory

/- Keep what a rule has left at a place. -/
def store
    (start : Nat)
    (kept : Kept) : Reading Unit :=
  fun _ memory =>
    let others :=
      (memory.kept.getD start []).filter (·.rule ≠ kept.rule)
    .done ()
      { memory with
        kept := memory.kept.setIfInBounds start (kept :: others) }

/- The place of what has been read behind a position. -/
def place
    (start : Nat) : Reading Place :=
  fun manner memory =>
    let spotAt (i : Nat) : Spot :=
      (manner.tokens[i]?.map (·.spot)).getD ⟨0, 0, 0⟩
    let stop := memory.position - 1
    let spot := { spotAt start with last := (spotAt stop).last }
    let last := manner.tokens[stop]?
    .done
      ⟨spot, (spotAt (memory.asked - 1)).column,
        (last.map (·.depth)).getD 0, manner.inner⟩
      memory

end Reading

------------------------------------------------------------
-- Tokens
------------------------------------------------------------

/- The words that are no names. -/
def keywords : List String :=
  [ "False", "None", "True", "and", "as", "assert", "async",
    "await", "break", "class", "continue", "def", "del",
    "elif", "else", "except", "finally", "for", "from",
    "global", "if", "import", "in", "is", "lambda",
    "nonlocal", "not", "or", "pass", "raise", "return", "try",
    "while", "with", "yield" ]

/-
  The words that are keywords only in some places; a word that
  one of them starts with counts as well.
-/
def softKeywords : List String :=
  ["_", "case", "match"]

namespace Token

/- A token is a name. -/
def isName : Token → Bool
  | .name word => !keywords.contains word
  | _ => false

/- A token is a word that may be a keyword or the start of one. -/
def isSoftWord : Token → Bool
  | .name word =>
      !keywords.contains word
        && softKeywords.any fun soft =>
          word.toList.isPrefixOf soft.toList
  | _ => false

/- A token is a number. -/
def isNumber : Token → Bool
  | .number _ => true
  | _ => false

/- A token is a string. -/
def isString : Token → Bool
  | .string _ => true
  | _ => false

end Token

------------------------------------------------------------
-- Rules
------------------------------------------------------------

open Reading

/-
  What phrases side by side come to: their trees, or a place
  where they do not go on, which may be behind a commitment.
-/
inductive Attempt where
  | matched (trees : List Tree)
  | refused (committed : Bool)

mutual

/-
  Read by a rule.  The first argument bounds the number of
  nested steps.
-/
def readRule :
    Nat →
    Rule →
    Reading (Option Tree)
  | 0, _ => exhausted
  | steps + 1, rule => deeper do
      let start ← position
      if rule.grows || rule.isKept then
        match ← keptFor rule with
        | some kept =>
            goTo kept.stop
            return kept.tree
        | none =>
            if rule.grows then
              grow steps rule start start none
            else
              let tree ← readOwn steps rule
              store start ⟨rule, tree, ← position⟩
              return tree
      else
        readOwn steps rule

/- Read by a rule for which nothing has been kept. -/
def readOwn :
    Nat →
    Rule →
    Reading (Option Tree)
  | 0, _ => exhausted
  | steps + 1, rule => do
      let start ← position
      if rule.isUnsearched then
        within ({ · with seeks := false })
          (readFirst steps start rule.alternatives)
      else
        readFirst steps start rule.alternatives

/-
  Read by a rule that begins with itself: as long as it gets
  further, what it left is kept and it is tried again.
-/
def grow :
    Nat →
    Rule →
    Nat →
    Nat →
    Option Tree →
    Reading (Option Tree)
  | 0, _, _, _, _ => exhausted
  | steps + 1, rule, start, stop, best => do
      store start ⟨rule, best, stop⟩
      goTo start
      let tree ← deeper (readOwn steps rule)
      let reached ← position
      if tree.isSome && stop < reached then
        grow steps rule start reached tree
      else
        goTo stop
        return best

/- Read by the first alternative that matches. -/
def readFirst :
    Nat →
    Nat →
    List Alternative →
    Reading (Option Tree)
  | 0, _, _ => exhausted
  | _, start, [] => do
      goTo start
      return none
  | steps + 1, start, alternative :: rest => do
      goTo start
      match ← readAll steps false [] alternative.phrases with
      | .matched trees =>
          match alternative.build (← place start) trees with
          | .tree tree => return some tree
          | .mistake mistake => halt (.mistake mistake)
          | .nothing =>
              goTo start
              return none
      | .refused true =>
          goTo start
          return none
      | .refused false => readFirst steps start rest

/-
  Read phrases one after another, behind trees in reverse and
  perhaps behind a commitment.
-/
def readAll :
    Nat →
    Bool →
    List Tree →
    List Phrase →
    Reading Attempt
  | 0, _, _, _ => exhausted
  | _, _, trees, [] => return .matched trees.reverse
  | steps + 1, committed, trees, phrase :: rest => do
      match phrase with
      | .commit => readAll steps true trees rest
      | .ahead phrase =>
          let start ← position
          let tree ← readPhrase steps phrase
          goTo start
          if tree.isSome then
            readAll steps committed trees rest
          else
            return .refused committed
      | .notAhead phrase =>
          let start ← position
          let tree ← readPhrase steps phrase
          goTo start
          if tree.isSome then
            return .refused committed
          else
            readAll steps committed trees rest
      | phrase =>
          match ← readPhrase steps phrase with
          | some tree => readAll steps committed (tree :: trees) rest
          | none => return .refused committed

/- Read one phrase. -/
def readPhrase :
    Nat →
    Phrase →
    Reading (Option Tree)
  | 0, _ => exhausted
  | _, .sign text => take (· = .sign text)
  | _, .word text => take (· = .name text)
  | _, .name => take Token.isName
  | _, .softWord => take Token.isSoftWord
  | _, .number => take Token.isNumber
  | _, .string => take Token.isString
  | _, .lineEnd => take (· = .lineEnd)
  | _, .textEnd => take (· = .textEnd)
  | steps + 1, .rule rule => do
      if rule.isSearch && !(← manner).seeks then
        return none
      readRule steps rule
  | steps + 1, .oneOf choices => do
      let start ← position
      deeper (readChoice steps start choices)
  | steps + 1, .maybe phrase => do
      let start ← position
      match ← readPhrase steps phrase with
      | some tree => return some tree
      | none =>
          goTo start
          return some .absent
  | steps + 1, .many phrase => do
      let trees ← deeper (readMany steps [] phrase)
      return some (.list trees)
  | steps + 1, .some phrase => do
      let trees ← deeper (readMany steps [] phrase)
      return if trees.isEmpty then none else some (.list trees)
  | steps + 1, .separated phrase => do
      match ← deeper (readPhrase steps phrase) with
      | none => return none
      | some tree =>
          let more ← deeper
            (readMany steps [] (.oneOf [[.sign ",", phrase]]))
          return some (.list (tree :: more))
  | _, .ahead _ => return none
  | _, .notAhead _ => return none
  | _, .commit => return none

/- Read the first choice that matches, and keep its last tree. -/
def readChoice :
    Nat →
    Nat →
    List (List Phrase) →
    Reading (Option Tree)
  | 0, _, _ => exhausted
  | _, start, [] => do
      goTo start
      return none
  | steps + 1, start, phrases :: rest => do
      goTo start
      match ← readAll steps false [] phrases with
      | .matched trees => return some (trees.getLastD .absent)
      | .refused _ => readChoice steps start rest

/- Read a phrase as often as it matches, behind trees. -/
def readMany :
    Nat →
    List Tree →
    Phrase →
    Reading (List Tree)
  | 0, _, _ => exhausted
  | steps + 1, trees, phrase => do
      let start ← position
      match ← readPhrase steps phrase with
      | some tree => readMany steps (tree :: trees) phrase
      | none =>
          goTo start
          return trees.reverse

end

end Literal

end ElementBindings
