import FlagHost.Json.Basic
import FlagHost.Text.Utf8
import FlagHost.Decimal.Text

/-!
# Writing documents

Documents are written without blanks. Texts escape the quote, the backslash and the control
characters, and nothing else.
-/

namespace FlagHost.Json

def hexLetter (n : Nat) : Char := (Nat.digitChar n)

def escapeChar (c : Char) : List Char :=
  if c = '"' then ['\\', '"']
  else if c = '\\' then ['\\', '\\']
  else if c = '\x08' then ['\\', 'b']
  else if c = '\x0c' then ['\\', 'f']
  else if c = '\n' then ['\\', 'n']
  else if c = '\r' then ['\\', 'r']
  else if c = '\t' then ['\\', 't']
  else if c.toNat < 32 then
    ['\\', 'u', '0', '0', hexLetter (c.toNat / 16), hexLetter (c.toNat % 16)]
  else [c]

def writeText (s : String) : List Char := '"' :: s.toList.flatMap escapeChar ++ ['"']

mutual

def write : Json → List Char
  | null => "null".toList
  | boolean true => "true".toList
  | boolean false => "false".toList
  | integer n => (toString n).toList
  | float x => (Decimal.floatText .document x).toList
  | text s => writeText s
  | list [] => "[]".toList
  | list (v :: vs) => '[' :: write v ++ writeItems vs
  | object [] => "\x7b\x7d".toList
  | object ((k, v) :: rest) => '\x7b' :: writeText k ++ ':' :: write v ++ writeMembers rest

def writeItems : List Json → List Char
  | [] => [']']
  | v :: vs => ',' :: write v ++ writeItems vs

def writeMembers : List (String × Json) → List Char
  | [] => ['\x7d']
  | (k, v) :: rest => ',' :: writeText k ++ ':' :: write v ++ writeMembers rest

end

def toText (v : Json) : String := String.ofList v.write

/-- The text of the value of a document: names in order, and each name once. -/
def compact (v : Json) : String := v.canonical.toText

def toBytes (v : Json) : Bytes := Utf8.encode v.write

end FlagHost.Json
