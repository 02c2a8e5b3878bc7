import ElementBindings.Text.Case.Table

/-
  Full case conversion.

  A character may become several, and the lower case of a
  capital sigma depends on its neighbours: it is final when a
  cased character stands before it and none after it, with
  case-ignorable characters skipped on both sides.

  Key definitions include:
    * `Text.upperChar`
    * `Text.lowerChar`
    * `Text.lower`
-/

namespace ElementBindings

namespace Text

------------------------------------------------------------
-- Single Characters
------------------------------------------------------------

/- Look a character up among expansions, then among runs. -/
def mapCase
    (expansions : List (Nat × List Nat))
    (runs : List CaseRun)
    (c : Char) : List Char :=
  match expansions.lookup c.toNat with
  | some image => image.map Char.ofNat
  | none =>
      match runs.findSome? (·.image? c.toNat) with
      | some image => [Char.ofNat image]
      | none => [c]

/- The upper case of a character. -/
def upperChar
    (c : Char) : List Char :=
  mapCase upperExpansions upperRuns c

/- The lower case of a character that stands alone. -/
def lowerChar
    (c : Char) : List Char :=
  mapCase lowerExpansions lowerRuns c

------------------------------------------------------------
-- Final Sigma
------------------------------------------------------------

/- The nearest character that is not ignored has a case. -/
def startsCased
    (s : List Char) : Bool :=
  match s.dropWhile
      (fun c => inRanges caseIgnorableRanges c.toNat) with
  | [] => false
  | c :: _ => inRanges casedRanges c.toNat

/-
  The lower case of a text, given the characters before it,
  nearest first.
-/
def lowerAfter
    (before : List Char) :
    List Char → List Char
  | [] => []
  | c :: rest =>
      let image :=
        if c = 'Σ' then
          if startsCased before && !startsCased rest then
            ['ς']
          else
            ['σ']
        else
          lowerChar c
      image ++ lowerAfter (c :: before) rest

/- The lower case of a text. -/
def lower
    (s : List Char) : List Char :=
  lowerAfter [] s

end Text

end ElementBindings
