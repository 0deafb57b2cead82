import FlagHost.Text.Quoted
import FlagHost.Text.Utf8
import FlagHost.Decimal.Text

/-!
# Faults of documents

What can be wrong with the bytes of a document, and where it was noticed. A fault keeps the number
of bytes that were still unread, and its message gives that place as a line and a column.
-/

namespace FlagHost.Json

inductive Found where
  | null
  | boolean (b : Bool)
  | integer (n : Int)
  | float (x : Float)
  | text (s : String)
  | sequence
  | map

inductive Cause where
  | endInValue
  | endInText
  | endInList
  | endInObject
  | expectedColon
  | expectedListComma
  | expectedObjectComma
  | expectedWord
  | expectedValue
  | invalidEscape
  | invalidNumber
  | numberOutOfRange
  | invalidCodePoint
  | controlCharacter
  | keyNotText
  | loneSurrogate
  | unfinishedSurrogate
  | trailingComma
  | trailingCharacters
  | tooDeep
  | wrongType (found : Found) (expected : String)
  | wrongValue (found : Found) (expected : String)
  | wrongLength (length : Nat) (expected : String)
  | missingField (name : String)
  | duplicateField (name : String)
  | unknownChoice (name : String) (choices : List String)

/-- A cause and the number of bytes that were unread when it was noticed. -/
structure Fault where
  cause : Cause
  unread : Nat

/-- A fault noticed in front of the given bytes. -/
def Fault.at (cause : Cause) (rest : Bytes) : Fault := ⟨cause, rest.length⟩

/-- A fault noticed by a look at the first of the given bytes. -/
def Fault.seeing (cause : Cause) (rest : Bytes) : Fault := ⟨cause, rest.length - 1⟩

def Found.message : Found → String
  | null => "null"
  | boolean b => "boolean `" ++ toString b ++ "`"
  | integer n => "integer `" ++ toString n ++ "`"
  | float x => "floating point `" ++ Decimal.floatText .document x ++ "`"
  | text s => "string " ++ Quoted.quote s
  | sequence => "sequence"
  | map => "map"

def listChoices : List String → String
  | [] => "there are no variants"
  | [a] => "expected `" ++ a ++ "`"
  | [a, b] => "expected `" ++ a ++ "` or `" ++ b ++ "`"
  | names => "expected one of " ++ ", ".intercalate (names.map fun n => "`" ++ n ++ "`")

def Cause.message : Cause → String
  | endInValue => "EOF while parsing a value"
  | endInText => "EOF while parsing a string"
  | endInList => "EOF while parsing a list"
  | endInObject => "EOF while parsing an object"
  | expectedColon => "expected `:`"
  | expectedListComma => "expected `,` or `]`"
  | expectedObjectComma => "expected `,` or `\x7d`"
  | expectedWord => "expected ident"
  | expectedValue => "expected value"
  | invalidEscape => "invalid escape"
  | invalidNumber => "invalid number"
  | numberOutOfRange => "number out of range"
  | invalidCodePoint => "invalid unicode code point"
  | controlCharacter => "control character (\\u0000-\\u001F) found while parsing a string"
  | keyNotText => "key must be a string"
  | loneSurrogate => "lone leading surrogate in hex escape"
  | unfinishedSurrogate => "unexpected end of hex escape"
  | trailingComma => "trailing comma"
  | trailingCharacters => "trailing characters"
  | tooDeep => "recursion limit exceeded"
  | wrongType found expected => "invalid type: " ++ found.message ++ ", expected " ++ expected
  | wrongValue found expected => "invalid value: " ++ found.message ++ ", expected " ++ expected
  | wrongLength n expected => "invalid length " ++ toString n ++ ", expected " ++ expected
  | missingField name => "missing field `" ++ name ++ "`"
  | duplicateField name => "duplicate field `" ++ name ++ "`"
  | unknownChoice name choices => "unknown variant `" ++ name ++ "`, " ++ listChoices choices

/-- The line and the column behind the given bytes: lines count from one, and the column is the
number of bytes of the last line. -/
def place (read : Bytes) : Nat × Nat :=
  read.foldl (fun (line, column) (b : UInt8) =>
    if b = 10 then (line + 1, 0) else (line, column + 1)) (1, 0)

def Fault.message (bytes : Bytes) (f : Fault) : String :=
  let (line, column) := place (bytes.take (bytes.length - f.unread))
  f.cause.message ++ " at line " ++ toString line ++ " column " ++ toString column

/-- A fault together with the bytes in which it was noticed. -/
structure Defect where
  bytes : Bytes
  fault : Fault

def Defect.message (d : Defect) : String := d.fault.message d.bytes

end FlagHost.Json
