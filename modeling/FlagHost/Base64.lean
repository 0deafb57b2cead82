import FlagHost.Text.Utf8

/-!
# Base64

Four symbols carry three bytes, with the symbols for 62 and 63 that are safe in addresses. The last
group may have two or three symbols, and signs of equality may fill it up or not; the bits of its
last symbol that belong to no byte must be zero.
-/

namespace FlagHost.Base64

/-- What is wrong with an encoded text. Places count from zero. -/
inductive Fault where
  /-- A byte that is no symbol, or a padding sign where none may stand. -/
  | invalidSymbol (place : Nat) (symbol : UInt8)
  /-- One symbol is left over behind the groups. -/
  | invalidLength (length : Nat)
  /-- The last symbol has bits that belong to no byte. -/
  | invalidLastSymbol (place : Nat) (symbol : UInt8)
deriving DecidableEq, Repr

def Fault.message : Fault → String
  | invalidSymbol place symbol =>
    "Invalid symbol " ++ toString symbol.toNat ++ ", offset " ++ toString place ++ "."
  | invalidLength n => "Invalid input length: " ++ toString n
  | invalidLastSymbol place symbol =>
    "Invalid last symbol " ++ toString symbol.toNat ++ ", offset " ++ toString place ++ "."

def padding : UInt8 := 61

def value? (b : UInt8) : Option Nat :=
  let n := b.toNat
  if 65 ≤ n ∧ n ≤ 90 then some (n - 65)
  else if 97 ≤ n ∧ n ≤ 122 then some (n - 71)
  else if 48 ≤ n ∧ n ≤ 57 then some (n + 4)
  else if n = 45 then some 62
  else if n = 95 then some 63
  else none

def symbol (v : Nat) : UInt8 :=
  if v < 26 then UInt8.ofNat (v + 65)
  else if v < 52 then UInt8.ofNat (v + 71)
  else if v < 62 then UInt8.ofNat (v - 4)
  else if v = 62 then 45
  else 95

def values (place : Nat) : Bytes → Except Fault (List Nat)
  | [] => .ok []
  | b :: bs =>
    match value? b with
    | none => .error (.invalidSymbol place b)
    | some v => (values (place + 1) bs).map (v :: ·)

/-- The bytes of a group of two, three or four symbols, and the bits left over. -/
def bytesOf : List Nat → Bytes × Nat
  | [a, b] => ([UInt8.ofNat (4 * a + b / 16)], b % 16)
  | [a, b, c] => ([UInt8.ofNat (4 * a + b / 16), UInt8.ofNat (16 * (b % 16) + c / 4)], c % 4)
  | [a, b, c, d] =>
    ([UInt8.ofNat (4 * a + b / 16), UInt8.ofNat (16 * (b % 16) + c / 4),
      UInt8.ofNat (64 * (c % 4) + d)], 0)
  | _ => ([], 0)

def decodeLast (place : Nat) (group : Bytes) : Except Fault Bytes := do
  let symbols := group.takeWhile (· ≠ padding)
  let fill := group.drop symbols.length
  let vs ← values place symbols
  if !fill.isEmpty ∧ (symbols.length < 2 ∨ fill.any (· ≠ padding)) then
    throw (.invalidSymbol (place + symbols.length) padding)
  if symbols.length < 2 ∧ !group.isEmpty then throw (.invalidLength (place + symbols.length))
  let (bytes, left) := bytesOf vs
  if left ≠ 0 then
    throw (.invalidLastSymbol (place + symbols.length - 1) (symbols.getLastD padding))
  return bytes

def decodeFrom (place : Nat) : Bytes → Except Fault Bytes
  | a :: b :: c :: d :: e :: rest => do
    let vs ← values place [a, b, c, d]
    let bytes ← decodeFrom (place + 4) (e :: rest)
    return (bytesOf vs).1 ++ bytes
  | last => decodeLast place last

/-- Whether one byte is left over behind the groups that is neither a symbol nor padding. -/
def strayEnd (s : Bytes) : Bool :=
  s.length % 4 == 1 && s.getLast?.any fun b => b != padding && (value? b).isNone

/-- The bytes that symbols carry. A stray byte at the end is noticed first. -/
def decode (s : Bytes) : Except Fault Bytes :=
  if strayEnd s then .error (.invalidSymbol (s.length - 1) (s.getLastD padding))
  else decodeFrom 0 s

def encode : Bytes → Bytes
  | a :: b :: c :: rest =>
    symbol (a.toNat / 4) :: symbol (16 * (a.toNat % 4) + b.toNat / 16) ::
      symbol (4 * (b.toNat % 16) + c.toNat / 64) :: symbol (c.toNat % 64) :: encode rest
  | [a, b] =>
    [symbol (a.toNat / 4), symbol (16 * (a.toNat % 4) + b.toNat / 16), symbol (4 * (b.toNat % 16))]
  | [a] => [symbol (a.toNat / 4), symbol (16 * (a.toNat % 4))]
  | [] => []

def fillUp (symbols : Nat) : Bytes := List.replicate ((4 - symbols % 4) % 4) padding

/-- The symbol that is safe in addresses for one of either alphabet. -/
def safe (b : UInt8) : UInt8 := if b = 43 then 45 else if b = 47 then 95 else b

end FlagHost.Base64
