import ElementBindings.Text.CodePoint

/-
  Integers in free text.

  Blanks may surround the number, a sign may stand before
  it, and a single underscore may stand between two digits.
  The digits may come from any script.

  Key definitions include:
    * `Integer.maxDigits`
    * `Integer.Fault`
    * `Integer.read`
-/

namespace ElementBindings

namespace Integer

------------------------------------------------------------
-- Faults
------------------------------------------------------------

/- The most digits that an integer may have. -/
def maxDigits : Nat := 4300

/- A text is no integer, or has more digits than allowed. -/
inductive Fault where
  | malformed
  | tooManyDigits (count : Nat)
deriving DecidableEq, Repr

------------------------------------------------------------
-- Reading
------------------------------------------------------------

/- Blanks, the four separators of ASCII apart. -/
def isPadding
    (c : Char) : Bool :=
  Text.isBlank c && !(0x1C ≤ c.toNat && c.toNat ≤ 0x1F)

/- Drop the padding at both ends. -/
def stripPadding
    (s : List Char) : List Char :=
  ((s.dropWhile isPadding).reverse.dropWhile isPadding).reverse

/- A sign and what follows it; no sign means plus. -/
def splitSign : List Char → Bool × List Char
  | '-' :: rest => (true, rest)
  | '+' :: rest => (false, rest)
  | s => (false, s)

/-
  The values of the leading digits and what follows them.  An
  underscore is read only between two digits.
-/
def leadingDigits
    (afterDigit : Bool) :
    List Char →
    List Nat × List Char
  | [] => ([], [])
  | c :: rest =>
      if afterDigit && c = '_'
          && rest.head?.any Text.isDecimalDigit then
        leadingDigits false rest
      else
        match Text.decimalDigit? c with
        | none => ([], c :: rest)
        | some d =>
            let (digits, after) := leadingDigits true rest
            (d :: digits, after)

/- Read an integer from a text. -/
def read
    (s : List Char) : Except Fault Int :=
  let (negative, unsigned) := splitSign (stripPadding s)
  let (digits, rest) := leadingDigits false unsigned
  if digits.isEmpty || rest.head? = some '_' then
    .error .malformed
  else if digits.length > maxDigits then
    .error (.tooManyDigits digits.length)
  else if !rest.isEmpty then
    .error .malformed
  else
    let size : Nat := digits.foldl (fun n d => 10 * n + d) 0
    .ok (if negative then -(size : Int) else size)

end Integer

end ElementBindings
