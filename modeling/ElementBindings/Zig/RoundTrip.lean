import ElementBindings.Accessor.Summary
import ElementBindings.Zig.Code

/-
  Round-trip tests: a sample value is set while an element is
  created, read back, and checked.

  Key definitions include:
    * `Sample`, `Attribute.sample?`
    * `Zig.RoundTrip`, `Zig.RoundTrip.render`
    * `Attribute.roundTrip?`
    * `Element.roundTrips`
-/

namespace ElementBindings

------------------------------------------------------------
-- Samples
------------------------------------------------------------

/-
  The arguments that a setter takes after its ids, and the
  condition that the value read back, named `ret`, meets.
-/
structure Sample where
  arguments : List String
  check : String
deriving DecidableEq, Repr

/- The name of the first value of an enumerated attribute. -/
def Attribute.firstMember
    (a : Attribute) : Except Fault String := do
  match ← needed .subscript a.enumValues with
  | [] => .error .emptyList
  | value :: _ =>
      let value ← needed (.readField "name") value
      return shownName value.name

/- A condition that is met when all of several are. -/
def allOf
    (conditions : List String) : String :=
  Text.joinWith " and " conditions

/- The sample value of a rule without members. -/
def Rule.sample? : Rule → Option Sample
  | .int => some ⟨["42"], "ret == 42"⟩
  | .string =>
      some ⟨["\"Hello\""], "std.mem.eql(u8, ret, \"Hello\")"⟩
  | .boolean => some ⟨["true"], "ret == true"⟩
  | .float => some ⟨["3.14"], "ret == @as(f32, 3.14)"⟩
  | .double => some ⟨["3.14"], "ret == @as(f64, 3.14)"⟩
  | .size =>
      some ⟨["9", "10"],
        allOf
          [ "ret.width != null", "ret.width.? == 9",
            "ret.height != null", "ret.height.? == 10" ]⟩
  | .margin =>
      some ⟨["9", "10"],
        allOf ["ret.horiz == 9", "ret.vert == 10"]⟩
  | .linColPos =>
      some ⟨["9", "10"],
        allOf ["ret.lin == 9", "ret.col == 10"]⟩
  | .xyPos =>
      some ⟨["9", "10"], allOf ["ret.x == 9", "ret.y == 10"]⟩
  | .range =>
      some ⟨["9", "10"],
        allOf ["ret.begin == 9", "ret.end == 10"]⟩
  | .rgb =>
      some ⟨[".\x7b .r = 9, .g = 10, .b = 11 \x7d"],
        allOf
          [ "ret != null", "ret.?.r == 9", "ret.?.g == 10",
            "ret.?.b == 11" ]⟩
  | _ => none

/- The sample value of an attribute, if it has one. -/
def Attribute.sample?
    (a : Attribute) : Except Fault (Option Sample) := do
  match ← a.rule with
  | .enumInt =>
      let member ← a.firstMember
      return some ⟨["." ++ member], "ret == ." ++ member⟩
  | .enumString =>
      let member ← a.firstMember
      return some ⟨["." ++ member],
        allOf ["ret != null", "ret.? == ." ++ member]⟩
  | rule => return rule.sample?

------------------------------------------------------------
-- Tests
------------------------------------------------------------

namespace Zig

/- A test of one attribute of an element. -/
structure RoundTrip where
  element : String
  subject : String
  setterArguments : List String
  getterArguments : List String
  check : String
deriving DecidableEq, Repr

/- A test as it is written. -/
def RoundTrip.render
    (test : RoundTrip) : String :=
  block
    ("test "
      ++ stringLiteral (test.element ++ " " ++ test.subject))
    [ "try iup.MainLoop.open();",
      "defer iup.MainLoop.close();",
      "",
      "var item = try (iup." ++ test.element ++ ".init().set"
        ++ test.subject ++ "("
        ++ Text.joinWith ", " test.setterArguments
        ++ ").unwrap());",
      "defer item.deinit();",
      "",
      "var ret = item.get" ++ test.subject ++ "("
        ++ Text.joinWith ", " test.getterArguments ++ ");",
      "",
      "try std.testing.expect(" ++ test.check ++ ");" ]

/- The ids that a test addresses an attribute with. -/
def testIds : Numbering → List String
  | .no => []
  | .oneId => ["0"]
  | .twoIds => ["0", "0"]

/- Tests as they are written. -/
def renderRoundTrips
    (tests : List RoundTrip) : String :=
  joinDeclarations (tests.map RoundTrip.render)

end Zig

open Zig

/- The test of an attribute, if it has a sample value. -/
def Element.roundTrip?
    (element : Element)
    (a : Attribute) : Except Fault (Option RoundTrip) := do
  match ← a.sample? with
  | none => return none
  | some sample =>
      let numbering ← needed .lookUp a.numbering
      let ids := testIds numbering
      return some {
        element := shownName element.name
        subject := shownName a.name
        setterArguments := ids ++ sample.arguments
        getterArguments := ids
        check := sample.check }

/- The test of an attribute for which one is written. -/
def Element.writtenTest?
    (element : Element)
    (a : Attribute) : Except Fault (Option RoundTrip) := do
  if ← a.hasTest then
    element.roundTrip? a
  else
    return none

/- The tests of the own attributes of an element. -/
def Element.roundTrips
    (element : Element) : Except Fault (List RoundTrip) := do
  if element.isTestable then
    let own ← Attribute.merge element.attributes []
    return (← own.mapM element.writtenTest?).filterMap id
  else
    return []

end ElementBindings
