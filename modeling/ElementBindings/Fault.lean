import ElementBindings.Console.Literal.Expression
import ElementBindings.Json.Reader
import ElementBindings.Text.Utf8

/-
  Everything that can go wrong, by cause.

  A null in a record is noticed where its value is needed; a
  use of it is a cause of its own.  Catalog faults reject a
  catalog; dispatch faults reject one element; the others end
  a run.

  Key definitions include:
    * `NullUse`
    * `DecodeFault`
    * `CatalogFault`
    * `DispatchFault`
    * `FileCause`, `FileFault`
    * `MarkupFault`
    * `Fault`
    * `Fault.message`
-/

namespace ElementBindings

------------------------------------------------------------
-- Uses of Null
------------------------------------------------------------

/- What was to be done with a value that is null. -/
inductive NullUse where
  | readField (name : String)
  | iterate
  | spread
  | count
  | subscript
  | search
  | lookUp
  | join (position : Nat)
deriving DecidableEq, Repr

/- The wording of a use of null. -/
def NullUse.message : NullUse → String
  | .readField name =>
      "'NoneType' object has no attribute '" ++ name ++ "'"
  | .iterate => "'NoneType' object is not iterable"
  | .spread =>
      "Value after * must be an iterable, not NoneType"
  | .count => "object of type 'NoneType' has no len()"
  | .subscript => "'NoneType' object is not subscriptable"
  | .search =>
      "expected string or bytes-like object, got 'NoneType'"
  | .lookUp => "None"
  | .join position =>
      "sequence item " ++ toString position
        ++ ": expected str instance, NoneType found"

------------------------------------------------------------
-- Decoding
------------------------------------------------------------

/- Why a text is not the record that it should be. -/
inductive DecodeFault where
  | text (fault : Json.TextFault)
  | missingField (name : String)
  | notRecord (kind : Json.Kind)
  | notList (kind : Json.Kind)
  | notMember (value enumeration : String)
  | notInteger (value : String)
  | tooManyDigits (count : Nat)
  | notNumeric (kind : Json.Kind)
  | notANumber
  | infinite
deriving DecidableEq, Repr

/- The wording of a text that is no integer. -/
def notIntegerMessage
    (text : String) : String :=
  "invalid literal for int() with base 10: "
    ++ String.ofList ((Text.quotedChars text.toList).take 200)

/- Why a text is no integer. -/
def DecodeFault.ofInteger
    (text : String) :
    Integer.Fault →
    DecodeFault
  | .malformed => .notInteger text
  | .tooManyDigits count => .tooManyDigits count

/- The wording of a decoding fault. -/
def DecodeFault.message : DecodeFault → String
  | .text fault => fault.message
  | .missingField name => Text.quoted name
  | .notRecord kind =>
      "'" ++ kind.name ++ "' object has no attribute 'items'"
  | .notList kind =>
      "'" ++ kind.name ++ "' object is not iterable"
  | .notMember value enumeration =>
      value ++ " is not a valid " ++ enumeration
  | .notInteger value => notIntegerMessage value
  | .tooManyDigits count => Json.tooManyDigitsMessage count
  | .notNumeric kind =>
      "int() argument must be a string, a bytes-like object "
        ++ "or a real number, not '" ++ kind.name ++ "'"
  | .notANumber => "cannot convert float NaN to integer"
  | .infinite => "cannot convert float infinity to integer"

------------------------------------------------------------
-- Catalogs
------------------------------------------------------------

/- Why a text cannot be taken for a catalog at all. -/
inductive Malformation where
  | decode (fault : DecodeFault)
  | null (use : NullUse)
  | encoding (fault : Text.Utf8Fault)
deriving DecidableEq, Repr

/- The wording of a malformation. -/
def Malformation.message : Malformation → String
  | .decode fault => fault.message
  | .null use => use.message
  | .encoding fault => fault.message

/- Why a catalog is rejected. -/
inductive CatalogFault where
  | malformed (reason : Malformation)
  | duplicateGroup
  | duplicateElement (element : String)
  | unknownGroupOfGroup (group base : String)
  | unknownGroupOfElement (element base : String)
  | unknownGroup (base : String)
  | noEnumValues (place : String)
  | strayEnumValues (place format : String)
  | readOnlyAndWriteOnly (place : String)
  | cycle (path : List String)
deriving DecidableEq, Repr

/- The wording of a catalog fault. -/
def CatalogFault.message : CatalogFault → String
  | .malformed reason =>
      "Malformed catalog: " ++ reason.message
  | .duplicateGroup => "Duplicate attribute group name"
  | .duplicateElement element =>
      "Element " ++ element ++ " declared more than once"
  | .unknownGroupOfGroup group base =>
      "Group " ++ group ++ " inherits unknown group " ++ base
  | .unknownGroupOfElement element base =>
      "Element " ++ element ++ " inherits unknown group "
        ++ base
  | .unknownGroup base => "Unknown attribute group " ++ base
  | .noEnumValues place =>
      place ++ " has Enum format but no enum values"
  | .strayEnumValues place format =>
      place ++ " has enum values but format " ++ format
  | .readOnlyAndWriteOnly place =>
      place ++ " cannot be both read-only and write-only"
  | .cycle path =>
      "Inheritance cycle: " ++ Text.joinWith " -> " path

------------------------------------------------------------
-- Dispatch
------------------------------------------------------------

/- Why no code can be written for part of an element. -/
inductive DispatchFault where
  | noRule (owner format type : String)
  | noSeparator (owner format : String)
  | noTypeName (callback type : String)
deriving DecidableEq, Repr

/- The wording of a dispatch fault. -/
def DispatchFault.message : DispatchFault → String
  | .noRule owner format type =>
      "No rule for attribute " ++ owner ++ ": format "
        ++ format ++ ", type " ++ type
  | .noSeparator owner format =>
      "Format " ++ format ++ " of " ++ owner
        ++ " has no separator"
  | .noTypeName callback type =>
      "No Zig type for " ++ type ++ " in callback " ++ callback

------------------------------------------------------------
-- Files
------------------------------------------------------------

/- Why a file system refuses an operation on a path. -/
inductive FileError where
  | notFound
  | alreadyExists
  | notDirectory
  | isDirectory
  | nulCharacter
deriving DecidableEq, Repr

/- The number and the wording of a file error. -/
def FileError.message : FileError → String
  | .notFound => "[Errno 2] No such file or directory"
  | .alreadyExists => "[Errno 17] File exists"
  | .notDirectory => "[Errno 20] Not a directory"
  | .isDirectory => "[Errno 21] Is a directory"
  | .nulCharacter => "embedded null byte"

/-
  Why an operation on a file fails: it is refused, a name or
  the whole path is too long, or a text cannot be encoded,
  which is the path, what is to be written, or what is to be
  printed.
-/
inductive FileCause where
  | refused (error : FileError)
  | tooLong
  | unencodablePath
  | unencodableText
  | unencodableOutput
deriving DecidableEq, Repr

/-
  The error that a cause counts as where only errors are told
  apart: nothing is found under a name that is too long, and a
  text without encoding is as unfit as one with a NUL.
-/
def FileCause.error : FileCause → FileError
  | .refused error => error
  | .tooLong => .notFound
  | .unencodablePath => .nulCharacter
  | .unencodableText => .nulCharacter
  | .unencodableOutput => .nulCharacter

/- A cause, and the path or the text that it is about. -/
structure FileFault where
  cause : FileCause
  subject : String
deriving DecidableEq, Repr

namespace FileFault

/- The error that a fault counts as. -/
def error
    (fault : FileFault) : FileError :=
  fault.cause.error

/- The wording of a file fault. -/
def message
    (fault : FileFault) : String :=
  match fault.cause with
  | .refused .nulCharacter => FileError.nulCharacter.message
  | .refused error =>
      error.message ++ ": " ++ Text.quoted fault.subject
  | .tooLong =>
      "[Errno 36] File name too long: "
        ++ Text.quoted fault.subject
  | .unencodablePath =>
      Text.encodingMessage Text.isStrayHalf fault.subject
  | .unencodableText =>
      Text.encodingMessage Text.isHalf fault.subject
  | .unencodableOutput =>
      Text.encodingMessage Text.isHalf fault.subject
        ++ "\n*** You may need to add PYTHONIOENCODING=utf-8 "
        ++ "to your environment ***"

end FileFault

------------------------------------------------------------
-- Markup
------------------------------------------------------------

/-
  A closing tag at a place where it closes nothing, or an
  action whose parameters are no literal value.
-/
inductive MarkupFault where
  | unopened (tag : String) (position : Nat)
  | nothingOpen (position : Nat)
  | misread
      (part parameters : String)
      (fault : Literal.SyntaxFault)
  | flawed (parameters : String) (flaw : Literal.Flaw)
deriving DecidableEq, Repr

/- The wording of a markup fault. -/
def MarkupFault.message : MarkupFault → String
  | .unopened tag position =>
      "closing tag '" ++ tag ++ "' at position "
        ++ toString position ++ " doesn't match any open tag"
  | .nothingOpen position =>
      "closing tag '[/]' at position " ++ toString position
        ++ " has nothing to close"
  | .misread part parameters fault =>
      "error parsing " ++ Text.quoted part ++ " in "
        ++ Text.quoted parameters ++ "; " ++ fault.message
  | .flawed parameters flaw =>
      "error parsing " ++ Text.quoted parameters ++ "; "
        ++ flaw.message

------------------------------------------------------------
-- All Faults
------------------------------------------------------------

/- A fault of any part of the generator. -/
inductive Fault where
  | decode (fault : DecodeFault)
  | null (use : NullUse)
  | emptyList
  | catalog (fault : CatalogFault)
  | dispatch (fault : DispatchFault)
  | file (fault : FileFault)
  | tooManyWorkers
  | markup (fault : MarkupFault)
deriving DecidableEq, Repr

/- The wording of a fault. -/
def Fault.message : Fault → String
  | .decode fault => fault.message
  | .null use => use.message
  | .emptyList => "list index out of range"
  | .catalog fault => fault.message
  | .dispatch fault => fault.message
  | .file fault => fault.message
  | .tooManyWorkers => "Python int too large to convert to C int"
  | .markup fault => fault.message

/- Use a value that may be null. -/
def needed
    {α : Type}
    (use : NullUse) :
    Option α →
    Except Fault α
  | some a => .ok a
  | none => .error (.null use)

/- The text of a value that may be null. -/
def shownOr
    {α : Type}
    (text : α → String) :
    Option α →
    String
  | some a => text a
  | none => "None"

/- The text of a name that may be null. -/
def shownName
    (name : Option String) : String :=
  shownOr id name

end ElementBindings
