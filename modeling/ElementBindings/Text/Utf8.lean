import ElementBindings.Text.Quoted

/-
  Text files: octets in UTF-8, lines ended in any of the
  three usual ways.

  An octet that cannot continue the sequence it stands in
  ends the reading, and so does the end of the file inside a
  sequence.  The fault names the octets of the sequence that
  were well formed so far.  The other way, a text that holds
  half of a pair cannot be encoded.

  Key definitions include:
    * `Text.Utf8Fault`
    * `Text.decodeUtf8`
    * `Text.isWhole`, `Text.isNameable`, `Text.nameSize`
    * `Text.encodingMessage`
    * `Text.unifyLineFeeds`
-/

namespace ElementBindings

namespace Text

------------------------------------------------------------
-- Faults
------------------------------------------------------------

/- The ways in which octets fail to be UTF-8. -/
inductive Utf8Reason where
  | start
  | continuation
  | ending
deriving DecidableEq, Repr

/-
  A fault covers the octets from `first` to `last`, the first
  of which is `octet`.
-/
structure Utf8Fault where
  reason : Utf8Reason
  octet : Nat
  first : Nat
  last : Nat
deriving DecidableEq, Repr

/- The wording of a reason. -/
def Utf8Reason.message : Utf8Reason → String
  | .start => "invalid start byte"
  | .continuation => "invalid continuation byte"
  | .ending => "unexpected end of data"

/- The wording of a fault. -/
def Utf8Fault.message
    (fault : Utf8Fault) : String :=
  let range :=
    if fault.first = fault.last then
      "byte 0x" ++ String.ofList (hexDigits 2 fault.octet)
        ++ " in position " ++ toString fault.first
    else
      "bytes in position " ++ toString fault.first ++ "-"
        ++ toString fault.last
  "'utf-8' codec can't decode " ++ range ++ ": "
    ++ fault.reason.message

------------------------------------------------------------
-- Sequences
------------------------------------------------------------

/-
  A first octet gives the leading bits of a code point and
  the range of each octet that has to follow.
-/
def leadOctet?
    (b : Nat) : Option (Nat × List (Nat × Nat)) :=
  let any := (0x80, 0xBF)
  if b < 0x80 then some (b, [])
  else if b < 0xC2 then none
  else if b < 0xE0 then some (b - 0xC0, [any])
  else if b = 0xE0 then some (0, [(0xA0, 0xBF), any])
  else if b = 0xED then some (13, [(0x80, 0x9F), any])
  else if b < 0xF0 then some (b - 0xE0, [any, any])
  else if b = 0xF0 then some (0, [(0x90, 0xBF), any, any])
  else if b < 0xF4 then some (b - 0xF0, [any, any, any])
  else if b = 0xF4 then some (4, [(0x80, 0x8F), any, any])
  else none

/- A sequence of which some octets are still to come. -/
structure Utf8Pending where
  octet : Nat
  first : Nat
  bits : Nat
  next : Nat × Nat
  later : List (Nat × Nat)
deriving DecidableEq, Repr

/- The fault of a sequence that breaks off before an offset. -/
def Utf8Pending.fault
    (pending : Utf8Pending)
    (reason : Utf8Reason)
    (offset : Nat) : Utf8Fault :=
  ⟨reason, pending.octet, pending.first, offset - 1⟩

/-
  Read octets from an offset on, with at most one sequence
  under way.
-/
def decodeUtf8From
    (offset : Nat) :
    Option Utf8Pending →
    List UInt8 →
    Except Utf8Fault (List Char)
  | none, [] => .ok []
  | some pending, [] =>
      .error (pending.fault .ending offset)
  | none, b :: rest =>
      match leadOctet? b.toNat with
      | none => .error ⟨.start, b.toNat, offset, offset⟩
      | some (bits, []) =>
          (decodeUtf8From (offset + 1) none rest).map
            (Char.ofNat bits :: ·)
      | some (bits, next :: later) =>
          decodeUtf8From (offset + 1)
            (some ⟨b.toNat, offset, bits, next, later⟩) rest
  | some pending, b :: rest =>
      if pending.next.1 ≤ b.toNat
          && b.toNat ≤ pending.next.2 then
        let bits := pending.bits * 64 + (b.toNat - 0x80)
        match pending.later with
        | [] =>
            (decodeUtf8From (offset + 1) none rest).map
              (Char.ofNat bits :: ·)
        | next :: later =>
            decodeUtf8From (offset + 1)
              (some { pending with
                bits := bits, next := next, later := later })
              rest
      else
        .error (pending.fault .continuation offset)

/- Read octets as UTF-8. -/
def decodeUtf8
    (octets : List UInt8) :
    Except Utf8Fault (List Char) :=
  decodeUtf8From 0 none octets

------------------------------------------------------------
-- Encoding
------------------------------------------------------------

/- A text can be encoded if it holds no half. -/
def isWhole
    (s : String) : Bool :=
  s.toList.all (!isHalf ·)

/- The name of a file may also hold octets. -/
def isNameable
    (s : String) : Bool :=
  s.toList.all (!isStrayHalf ·)

/- The number of octets of a character in such a name. -/
def octetCount
    (c : Char) : Nat :=
  if isOctet c then 1 else c.utf8Size

/- The number of octets of the name of a file. -/
def nameSize
    (s : String) : Nat :=
  s.toList.foldr (fun c size => octetCount c + size) 0

/-
  The wording for a text that cannot be encoded: it names the
  first character that is unfit, and the halves behind it.
-/
def encodingMessage
    (isUnfit : Char → Bool)
    (s : String) : String :=
  let first := (s.toList.takeWhile (!isUnfit ·)).length
  let unfit := (s.toList.drop first).takeWhile isHalf
  let place :=
    match unfit with
    | [c] =>
        "character '\\u"
          ++ String.ofList (hexDigits 4 (codePoint c))
          ++ "' in position " ++ toString first
    | _ =>
        "characters in position " ++ toString first ++ "-"
          ++ toString (first + unfit.length - 1)
  "'utf-8' codec can't encode " ++ place
    ++ ": surrogates not allowed"

------------------------------------------------------------
-- Line Ends
------------------------------------------------------------

/- Make every line end with a line feed. -/
def unifyLineFeeds : List Char → List Char
  | [] => []
  | '\r' :: '\n' :: rest => '\n' :: unifyLineFeeds rest
  | '\r' :: rest => '\n' :: unifyLineFeeds rest
  | c :: rest => c :: unifyLineFeeds rest

end Text

end ElementBindings
