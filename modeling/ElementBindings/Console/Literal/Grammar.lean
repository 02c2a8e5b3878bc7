import ElementBindings.Console.Literal.Build

/-
  The grammar of expressions.

  Beside the rules of the language stand rules that match only
  common mistakes.  Most of them are tried when a text has
  been found not to be an expression.

  Key definitions include:
    * `Literal.Rule.alternatives`
    * `Literal.Rule.isSearch`, `Literal.Rule.isUnsearched`
    * `Literal.Rule.isKept`, `Literal.Rule.grows`
-/

namespace ElementBindings

namespace Literal

------------------------------------------------------------
-- Kinds of Rules
------------------------------------------------------------

namespace Rule

/-
  The rules that are tried only when mistakes are looked for.
  Mistakes in the entries of a dictionary are found at once.
-/
def searches : List Rule :=
  [ .badArguments, .badNamedArgument, .oldStatement,
    .badExpression, .badNamed, .badComprehension,
    .badDictComprehension, .badParameters, .badStarParameters,
    .badSpreadParameter, .badDefault, .badTarget, .badGroup ]

/- A rule that is tried only when mistakes are looked for. -/
def isSearch
    (rule : Rule) : Bool :=
  searches.contains rule

/- A rule inside of which mistakes are not looked for. -/
def isUnsearched
    (rule : Rule) : Bool :=
  rule = .unsearched

/- The rules that begin with themselves. -/
def growing : List Rule :=
  [ .bitOr, .bitXor, .bitAnd, .shift, .sum, .term, .primary,
    .targetPrimary ]

/- A rule that begins with itself. -/
def grows
    (rule : Rule) : Bool :=
  growing.contains rule

/- The rules that are read once at each place. -/
def kept : List Rule :=
  [ .expression, .starItem, .disjunction, .conjunction,
    .inversion, .factor, .awaited, .strings, .arguments,
    .target, .plainTarget, .badNamed ]

/- A rule that is read once at each place. -/
def isKept
    (rule : Rule) : Bool :=
  kept.contains rule

end Rule

------------------------------------------------------------
-- Repeated Parts
------------------------------------------------------------

/- A comma and something behind it. -/
def commaAnd
    (rule : Rule) : Phrase :=
  .oneOf [[.sign ",", .rule rule]]

/- A comma that may be left out. -/
def optionalComma : Phrase :=
  .maybe (.sign ",")

/- One of some signs. -/
def signAmong
    (signs : List String) : Phrase :=
  .oneOf (signs.map fun text => [.sign text])

/- One of some words. -/
def wordAmong
    (words : List String) : Phrase :=
  .oneOf (words.map fun text => [.word text])

/- The words for constants. -/
def constantWords : List String :=
  ["True", "False", "None"]

/- An argument without a star and a name. -/
def plainArgument : Phrase :=
  .oneOf [
    [.rule .assignment],
    [.rule .expression, .notAhead (.sign ":=")]]

/- Operands around an operator, which are not literal. -/
def operated
    (left : Rule)
    (sign : String)
    (right : Rule) : Alternative :=
  ⟨[.rule left, .sign sign, .rule right], other "expression"⟩

/- A rule with nothing else. -/
def only
    (rule : Rule) : Alternative :=
  ⟨[.rule rule], keep 0⟩

/- Operands between words, and an operand alone. -/
def joined
    (rule : Rule)
    (word : String) : List Alternative :=
  [ ⟨[.rule rule, .some (.oneOf [[.word word, .rule rule]])],
      other "expression"⟩,
    only rule ]

/- Items between commas, and an item alone. -/
def listed
    (rule : Rule) : List Alternative :=
  [ ⟨[.rule rule, .some (commaAnd rule), optionalComma],
      itemsOf⟩,
    ⟨[.rule rule, .sign ","], itemsOf⟩,
    only rule ]

/- An expression behind a star. -/
def behindStar
    (rule : Rule) : Alternative :=
  ⟨[.sign "*", .rule rule],
    making fun trees spot => (expressionAt 1 trees).starred spot⟩

/- An operand behind a sign. -/
def behindSign
    (sign : String) : Alternative :=
  ⟨[.sign sign, .rule .factor],
    making fun trees spot =>
      (expressionAt 1 trees).behindSign spot⟩

/- Two operands that may be the parts of a number. -/
def summed
    (sign : String) : Alternative :=
  ⟨[.rule .sum, .sign sign, .rule .term],
    making fun trees spot =>
      (expressionAt 0 trees).sum (expressionAt 2 trees) spot⟩

/- A comparison behind some words or a sign. -/
def comparedBy
    (operator : List Phrase) : Alternative :=
  ⟨operator ++ [.rule .bitOr], keep 0⟩

/- What is done with an operand: a field, or a call. -/
def useOf
    (rule : Rule)
    (next : List Phrase) : List Alternative :=
  [ ⟨[.rule rule, .sign ".", .name] ++ next,
      making fun _ spot => .ofField spot⟩,
    ⟨[.rule rule, .rule .generator] ++ next,
      making fun trees spot =>
        (expressionAt 0 trees).called false spot⟩,
    ⟨[.rule rule, .sign "(", .maybe (.rule .arguments),
        .sign ")"] ++ next,
      making fun trees spot =>
        (expressionAt 0 trees).called
          ((treeAt 2 trees).toList.isEmpty) spot⟩,
    ⟨.rule .atom :: next, keep 0⟩ ]

/- A conditional, an operand alone, or a function. -/
def expressionForms : List Alternative :=
  [ ⟨[.rule .disjunction, .word "if", .rule .disjunction,
        .word "else", .rule .expression],
      other "conditional expression"⟩,
    only .disjunction,
    only .lambda ]

/- Parameters that a comma or the end of the list follows. -/
def parameterOf
    (value : List Phrase) : List Alternative :=
  [ ⟨.name :: value ++ [.sign ","], keep 0⟩,
    ⟨.name :: value ++ [.ahead (.sign ":")], keep 0⟩ ]

/- Parameters up to a slash. -/
def beforeSlash
    (phrases : List Phrase) : List Alternative :=
  [ ⟨phrases ++ [.sign "/", .sign ","], silent⟩,
    ⟨phrases ++ [.sign "/", .ahead (.sign ":")], silent⟩ ]

/- Parameters up to a slash, of either kind. -/
def anyBeforeSlash : Phrase :=
  .oneOf [[.rule .plainBeforeSlash], [.rule .defaultBeforeSlash]]

/- A parameter or a comma. -/
def parameterOrComma : Phrase :=
  .oneOf [[.rule .plainParameter], [.sign ","]]

/- The start of a clause, with what it assigns to. -/
def clauseOf
    (words : List Phrase) : Alternative :=
  ⟨words ++ [.word "for", .rule .targets, .word "in", .commit,
      .rule .disjunction,
      .many (.oneOf [[.word "if", .rule .disjunction]])],
    silent⟩

/- A wrong value behind a key. -/
def badValueOf : List Alternative :=
  [ ⟨[.rule .expression, .sign ":", .sign "*", .rule .bitOr],
      mistakeAt 2 .starredDictValue⟩,
    ⟨[.rule .expression, .sign ":",
        .ahead (signAmong ["\x7d", ","])],
      mistakeAt 1 .missingDictValue⟩ ]

------------------------------------------------------------
-- Rules
------------------------------------------------------------

/- The alternatives of a rule, in the order of trial. -/
def Rule.alternatives : Rule → List Alternative
  | .whole =>
      [⟨[.rule .expressions, .many .lineEnd, .textEnd], keep 0⟩]
  | .inner => [only .starItems]
  | .expressions => listed .expression
  | .expression =>
      only .badExpression :: only .oldStatement
        :: expressionForms
  | .unsearched => expressionForms
  | .yielding =>
      [ ⟨[.word "yield", .word "from", .rule .expression],
          other "yield expression"⟩,
        ⟨[.word "yield", .maybe (.rule .starItems)],
          other "yield expression"⟩ ]
  | .starItems => listed .starItem
  | .starItem => [behindStar .bitOr, only .expression]
  | .namedItems =>
      [⟨[.separated (.rule .namedItem), optionalComma], keep 0⟩]
  | .namedItem => [behindStar .bitOr, only .named]
  | .assignment =>
      [⟨[.name, .sign ":=", .commit, .rule .expression],
        other "named expression"⟩]
  | .named =>
      [ only .assignment,
        only .badNamed,
        ⟨[.rule .expression, .notAhead (.sign ":=")], keep 0⟩ ]
  | .disjunction => joined .conjunction "or"
  | .conjunction => joined .inversion "and"
  | .inversion =>
      [ ⟨[.word "not", .rule .inversion], other "expression"⟩,
        only .comparison ]
  | .comparison =>
      [ ⟨[.rule .bitOr, .some (.rule .compared)], comparisonOf⟩,
        only .bitOr ]
  | .compared =>
      [ comparedBy [.sign "=="], comparedBy [.sign "!="],
        comparedBy [.sign "<="], comparedBy [.sign "<"],
        comparedBy [.sign ">="], comparedBy [.sign ">"],
        comparedBy [.word "not", .word "in"],
        comparedBy [.word "in"],
        comparedBy [.word "is", .word "not"],
        comparedBy [.word "is"] ]
  | .bitOr => [operated .bitOr "|" .bitXor, only .bitXor]
  | .bitXor => [operated .bitXor "^" .bitAnd, only .bitAnd]
  | .bitAnd => [operated .bitAnd "&" .shift, only .shift]
  | .shift =>
      [ operated .shift "<<" .sum, operated .shift ">>" .sum,
        only .sum ]
  | .sum => [summed "+", summed "-", only .term]
  | .term =>
      [ operated .term "*" .factor, operated .term "/" .factor,
        operated .term "//" .factor, operated .term "%" .factor,
        operated .term "@" .factor, only .factor ]
  | .factor =>
      [ behindSign "+", behindSign "-",
        ⟨[.sign "~", .rule .factor], other "expression"⟩,
        only .power ]
  | .power => [operated .awaited "**" .factor, only .awaited]
  | .awaited =>
      [ ⟨[.word "await", .rule .primary],
          other "await expression"⟩,
        only .primary ]
  | .primary => useOf .primary []
  | .atom =>
      [ ⟨[.name],
          making fun trees spot => nameOf (treeAt 0 trees) spot⟩,
        ⟨[.word "True"], constant "True"⟩,
        ⟨[.word "False"], constant "False"⟩,
        ⟨[.word "None"], constant "None"⟩,
        ⟨[.ahead .string, .rule .strings], keep 0⟩,
        ⟨[.number], numberOf⟩,
        ⟨[.ahead (.sign "("),
            .oneOf [[.rule .tuple], [.rule .group],
              [.rule .generator]]],
          keep 0⟩,
        ⟨[.ahead (.sign "\x7b"),
            .oneOf [[.rule .dict], [.rule .set],
              [.rule .dictComprehension],
              [.rule .setComprehension]]],
          keep 0⟩,
        ⟨[.sign "..."], constant "ellipsis"⟩ ]
  | .group =>
      [ ⟨[.sign "(",
            .oneOf [[.rule .yielding], [.rule .named]],
            .sign ")"],
          keep 1⟩,
        only .badGroup ]
  | .lambda =>
      [⟨[.word "lambda", .maybe (.rule .parameters), .sign ":",
          .rule .expression],
        other "lambda"⟩]
  | .parameters => [only .badParameters, only .parameterList]
  | .parameterList =>
      [ ⟨[.rule .plainBeforeSlash, .many (.rule .plainParameter),
            .many (.rule .defaultParameter),
            .maybe (.rule .starParameters)],
          silent⟩,
        ⟨[.rule .defaultBeforeSlash,
            .many (.rule .defaultParameter),
            .maybe (.rule .starParameters)],
          silent⟩,
        ⟨[.some (.rule .plainParameter),
            .many (.rule .defaultParameter),
            .maybe (.rule .starParameters)],
          silent⟩,
        ⟨[.some (.rule .defaultParameter),
            .maybe (.rule .starParameters)],
          silent⟩,
        only .starParameters ]
  | .plainBeforeSlash =>
      beforeSlash [.some (.rule .plainParameter)]
  | .defaultBeforeSlash =>
      beforeSlash [.many (.rule .plainParameter),
        .some (.rule .defaultParameter)]
  | .starParameters =>
      [ only .badStarParameters,
        ⟨[.sign "*", .rule .plainParameter,
            .many (.rule .anyParameter),
            .maybe (.rule .spreadParameter)],
          silent⟩,
        ⟨[.sign "*", .sign ",", .some (.rule .anyParameter),
            .maybe (.rule .spreadParameter)],
          silent⟩,
        only .spreadParameter ]
  | .spreadParameter =>
      [ only .badSpreadParameter,
        ⟨[.sign "**", .rule .plainParameter], silent⟩ ]
  | .plainParameter => parameterOf []
  | .defaultParameter => parameterOf [.rule .defaultValue]
  | .anyParameter =>
      parameterOf [.maybe (.rule .defaultValue)]
  | .defaultValue =>
      [⟨[.sign "=", .rule .expression], silent⟩, only .badDefault]
  | .strings => [⟨[.some .string], stringsOf⟩]
  | .tuple =>
      [⟨[.sign "(", .maybe (.rule .tupleItems), .sign ")"],
        itemsOf⟩]
  | .tupleItems =>
      [⟨[.rule .namedItem, .sign ",",
          .maybe (.rule .namedItems)],
        keepAll⟩]
  | .set =>
      [⟨[.sign "\x7b", .rule .namedItems, .sign "\x7d"],
        making fun trees spot =>
          .ofMembers (treeAt 1 trees).expressions spot⟩]
  | .dict =>
      [ ⟨[.sign "\x7b", .maybe (.rule .entries), .sign "\x7d"],
          making fun trees spot =>
            .ofEntries (treeAt 1 trees).entries spot⟩,
        ⟨[.sign "\x7b", .rule .badEntries, .sign "\x7d"],
          silent⟩ ]
  | .entries =>
      [⟨[.separated (.rule .entry), optionalComma], keep 0⟩]
  | .entry =>
      [⟨[.sign "**", .rule .bitOr], spreadOf⟩, only .pair]
  | .pair =>
      [⟨[.rule .expression, .sign ":", .rule .expression],
        entryOf⟩]
  | .clauses => [⟨[.some (.rule .clause)], silent⟩]
  | .clause =>
      [clauseOf [.word "async"], clauseOf [], only .badTarget]
  | .setComprehension =>
      [ ⟨[.sign "\x7b", .rule .named, .rule .clauses,
            .sign "\x7d"],
          other "set comprehension"⟩,
        only .badComprehension ]
  | .generator =>
      [ ⟨[.sign "(", plainArgument, .rule .clauses, .sign ")"],
          other "generator expression"⟩,
        only .badComprehension ]
  | .dictComprehension =>
      [ ⟨[.sign "\x7b", .rule .pair, .rule .clauses,
            .sign "\x7d"],
          other "dict comprehension"⟩,
        only .badDictComprehension ]
  | .arguments =>
      [ ⟨[.rule .argumentList, optionalComma,
            .ahead (.sign ")")],
          keep 0⟩,
        only .badArguments ]
  | .argumentList =>
      [ ⟨[.separated (.oneOf [
              [.rule .starred],
              [plainArgument, .notAhead (.sign "=")]]),
            .maybe (commaAnd .namedArguments)],
          counted [0, 1]⟩,
        only .namedArguments ]
  | .namedArguments =>
      [ ⟨[.separated (.rule .namedOrStarred), .sign ",",
            .separated (.rule .namedOrSpread)],
          counted [0, 2]⟩,
        ⟨[.separated (.rule .namedOrStarred)], counted [0]⟩,
        ⟨[.separated (.rule .namedOrSpread)], counted [0]⟩ ]
  | .starred => [behindStar .expression]
  | .namedOrStarred =>
      [ only .badNamedArgument,
        ⟨[.name, .sign "=", .rule .expression],
          namedArgument false⟩,
        ⟨[.rule .starred], plainArgumentOf⟩ ]
  | .namedOrSpread =>
      [ only .badNamedArgument,
        ⟨[.name, .sign "=", .rule .expression],
          namedArgument false⟩,
        ⟨[.sign "**", .rule .expression], namedArgument true⟩ ]
  | .targets =>
      [ ⟨[.rule .target, .notAhead (.sign ",")], silent⟩,
        ⟨[.rule .target, .many (commaAnd .target),
            optionalComma],
          silent⟩ ]
  | .targetItems =>
      [ ⟨[.rule .target, .some (commaAnd .target),
            optionalComma],
          silent⟩,
        ⟨[.rule .target, .sign ","], silent⟩ ]
  | .target =>
      [ ⟨[.sign "*",
            .oneOf [[.notAhead (.sign "*"), .rule .target]]],
          silent⟩,
        only .plainTarget ]
  | .plainTarget =>
      [ ⟨[.rule .targetPrimary, .sign ".", .name,
            .notAhead (.rule .targetNext)],
          silent⟩,
        only .targetAtom ]
  | .targetAtom =>
      [ ⟨[.name], silent⟩,
        ⟨[.sign "(", .rule .plainTarget, .sign ")"], silent⟩,
        ⟨[.sign "(", .maybe (.rule .targetItems), .sign ")"],
          silent⟩ ]
  | .targetPrimary =>
      useOf .targetPrimary [.ahead (.rule .targetNext)]
  | .targetNext =>
      [ ⟨[.sign "("], silent⟩, ⟨[.sign "["], silent⟩,
        ⟨[.sign "."], silent⟩ ]
  | .badArguments =>
      [ ⟨[.rule .argumentList, .sign ",", .sign "*"],
          mistake .iterableAfterUnpacking⟩,
        ⟨[.rule .expression, .rule .clauses, .sign ",",
            .maybe (.oneOf [[.rule .argumentList],
              [.rule .expression, .rule .clauses]])],
          mistakeAt 0 .bareGenerator⟩,
        ⟨[.name, .sign "=", .rule .expression, .rule .clauses],
          mistake .assignmentToName⟩,
        ⟨[.rule .argumentList, .rule .clauses],
          generatorAmong⟩,
        ⟨[.rule .argumentList, .sign ",", .rule .expression,
            .rule .clauses],
          mistakeAt 2 .bareGenerator⟩,
        ⟨[.rule .argumentList, .sign ",", .rule .argumentList],
          lateArgument⟩ ]
  | .badNamedArgument =>
      [ ⟨[wordAmong constantWords, .sign "="],
          constantTarget⟩,
        ⟨[.name, .sign "=", .rule .expression, .rule .clauses],
          mistake .assignmentToName⟩,
        ⟨[.notAhead (.oneOf [[.name, .sign "="]]),
            .rule .expression, .sign "="],
          mistakeAt 0 .argumentAssignment⟩ ]
  | .oldStatement =>
      [⟨[.name, .notAhead (.sign "("), .rule .starItems],
        missingCall⟩]
  | .badExpression =>
      [ ⟨[.notAhead (.oneOf [[.name, .string], [.softWord]]),
            .rule .disjunction, .rule .unsearched],
          missingComma⟩,
        ⟨[.rule .disjunction, .word "if", .rule .disjunction,
            .notAhead (.oneOf [[.word "else"], [.sign ":"]])],
          mistakeAt 0 .missingElse⟩ ]
  | .badNamed =>
      [ ⟨[.rule .expression, .sign ":=", .rule .expression],
          aboutKind .namedAssignmentTo⟩,
        ⟨[.name, .sign "=", .rule .bitOr,
            .notAhead (signAmong ["=", ":="])],
          mistake .assignmentToName⟩,
        ⟨[.notAhead (.oneOf
              ([[.rule .tuple], [.rule .generator]]
                ++ constantWords.map fun text =>
                  [.word text])),
            .rule .bitOr, .sign "=", .rule .bitOr,
            .notAhead (signAmong ["=", ":="])],
          aboutKind .assignmentTo⟩ ]
  | .badComprehension =>
      [ ⟨[signAmong ["[", "(", "\x7b"], .rule .starred,
            .rule .clauses],
          mistakeAt 1 .unpackedItem⟩,
        ⟨[signAmong ["[", "\x7b"], .rule .namedItem, .sign ",",
            .rule .namedItems, .rule .clauses],
          mistakeAt 1 .missingTargetParentheses⟩,
        ⟨[signAmong ["[", "\x7b"], .rule .namedItem, .sign ",",
            .rule .clauses],
          mistakeAt 1 .missingTargetParentheses⟩ ]
  | .badDictComprehension =>
      [⟨[.sign "\x7b", .sign "**", .rule .bitOr, .rule .clauses,
          .sign "\x7d"],
        mistakeAt 1 .unpackedEntry⟩]
  | .badParameters =>
      [ ⟨[.many (.rule .plainParameter),
            .rule .badParameterOrder, .rule .plainParameter],
          mistakeAt 2 (.parameter .defaultBefore)⟩,
        ⟨[.many (.rule .plainParameter), .sign "(",
            .separated .name, optionalComma, .sign ")"],
          mistakeAt 1 (.parameter .parenthesized)⟩,
        ⟨[.sign "/", .sign ","],
          mistake (.parameter .nothingBeforeSlash)⟩,
        ⟨[anyBeforeSlash, .many (.rule .anyParameter),
            .sign "/"],
          mistakeAt 2 (.parameter .secondSlash)⟩,
        ⟨[.maybe anyBeforeSlash, .many (.rule .anyParameter),
            .sign "*",
            .oneOf [[.sign ","], [.rule .plainParameter]],
            .many (.rule .anyParameter), .sign "/"],
          mistakeAt 5 (.parameter .slashBehindStar)⟩,
        ⟨[.some (.rule .anyParameter), .sign "/", .sign "*"],
          mistakeAt 2 (.parameter .slashAtStar)⟩ ]
  | .badParameterOrder =>
      [ only .defaultBeforeSlash,
        ⟨[.some (.rule .defaultParameter)], silent⟩ ]
  | .badStarParameters =>
      [ ⟨[.sign "*", .oneOf [[.sign ":"],
            [.sign ",", signAmong [":", "**"]]]],
          lateMistake (.parameter .bareStar)⟩,
        ⟨[.sign "*", .name, .sign "="],
          mistakeAt 2 (.parameter .starDefault)⟩,
        ⟨[.sign "*", parameterOrComma,
            .many (.rule .anyParameter), .sign "*",
            parameterOrComma],
          mistakeAt 3 (.parameter .secondStar)⟩ ]
  | .badSpreadParameter =>
      [ ⟨[.sign "**", .name, .sign "="],
          mistakeAt 2 (.parameter .spreadDefault)⟩,
        ⟨[.sign "**", .name, .sign ",", .name],
          mistakeAt 3 (.parameter .behindSpread)⟩,
        ⟨[.sign "**", .name, .sign ",",
            signAmong ["*", "**", "/"]],
          mistakeAt 3 (.parameter .behindSpread)⟩ ]
  | .badDefault =>
      [⟨[.sign "=", .ahead (signAmong [")", ","])],
        mistake (.parameter .missingDefault)⟩]
  | .badTarget =>
      [⟨[.maybe (.word "async"), .word "for", .rule .starItems],
        blockedTarget 2⟩]
  | .badGroup =>
      [ ⟨[.sign "(", .rule .starred, .sign ")"],
          mistakeAt 1 .strayStar⟩,
        ⟨[.sign "(", .sign "**", .rule .expression, .sign ")"],
          mistakeAt 1 .strayDoubleStar⟩ ]
  | .badEntries =>
      ⟨[.separated (.rule .entry), .sign ",", .rule .badEntry],
        silent⟩ :: badValueOf
  | .badEntry =>
      ⟨[.rule .expression, .notAhead (.sign ":")],
        missingColon⟩ :: badValueOf

end Literal

end ElementBindings
