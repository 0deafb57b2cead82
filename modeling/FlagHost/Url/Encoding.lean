import FlagHost.Text.Digit
import FlagHost.Text.Utf8

/-!
# Percent encoding

Characters that may not stand in a part of an address are written as the bytes of their encoding,
each as a percent sign and two hexadecimal digits. In the pairs of a query a blank is a plus sign.
-/

namespace FlagHost.Url

def hexCapital (n : Nat) : Char := (Nat.digitChar n).toUpper

def percentByte (b : UInt8) : List Char :=
  ['%', hexCapital (b.toNat / 16), hexCapital (b.toNat % 16)]

/-- A character, written as bytes if it is not ASCII or `escaped` says so. -/
def percentChar (escaped : Char → Bool) (c : Char) : List Char :=
  if c.toNat < 0x80 ∧ !escaped c then [c] else (Utf8.encodeChar c).flatMap percentByte

/-- Characters, of which those that are not ASCII and those that `escaped` picks are written as
bytes. -/
def percentEncode (escaped : Char → Bool) (cs : List Char) : List Char :=
  cs.flatMap (percentChar escaped)

/-- The bytes with each percent sign and two digits replaced by the byte that they write. -/
def percentDecode : Bytes → Bytes
  | b :: h :: l :: rest =>
    match b == 37, Digit.hex? h.toNat, Digit.hex? l.toNat with
    | true, some high, some low => UInt8.ofNat (16 * high + low) :: percentDecode rest
    | _, _, _ => b :: percentDecode (h :: l :: rest)
  | rest => rest

def isControl (c : Char) : Bool := c.toNat < 0x20 || c.toNat = 0x7F

def escapedInPath (c : Char) : Bool :=
  isControl c || " \"#<>?`\x7b\x7d".toList.contains c

/-- What is escaped in a query; in addresses of the web also the apostrophe. -/
def escapedInQuery (special : Bool) (c : Char) : Bool :=
  isControl c || " \"#<>".toList.contains c || (special && c = '\'')

def plainInPair (c : Char) : Bool :=
  c.isAlphanum || c = '*' || c = '-' || c = '.' || c = '_'

def formEncode (cs : List Char) : List Char :=
  cs.flatMap fun c => if c = ' ' then ['+'] else percentChar (!plainInPair ·) c

/-- Pairs in the form of a query, behind what it has before. -/
def appendPairs (query : List Char) (pairs : List (String × String)) : List Char :=
  pairs.foldl (fun query (name, value) =>
    query ++ (if query.isEmpty then [] else ['&']) ++
      formEncode name.toList ++ '=' :: formEncode value.toList) query

end FlagHost.Url
