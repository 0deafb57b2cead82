import FlagHost.Text.Utf8

/-!
# Punycode

Labels of host names with characters beyond ASCII are written with ASCII characters: the ASCII ones
first, then where the others go, in the order of their code points. Distances are written with
digits to the base 36 whose thresholds follow the distances before.
-/

namespace FlagHost.Url.Punycode

def digit (n : Nat) : Char := if n < 26 then Char.ofNat (0x61 + n) else Char.ofNat (0x30 + n - 26)

def digit? (c : Char) : Option Nat :=
  let n := c.toNat
  if 0x61 ≤ n ∧ n ≤ 0x7A then some (n - 0x61)
  else if 0x41 ≤ n ∧ n ≤ 0x5A then some (n - 0x41)
  else if 0x30 ≤ n ∧ n ≤ 0x39 then some (n - 0x30 + 26)
  else none

/-- The threshold of the digit at place `k`, which counts in steps of 36. -/
def threshold (k bias : Nat) : Nat :=
  if k ≤ bias then 1 else if bias + 26 ≤ k then 26 else k - bias

/-- Divides until the distance is small, and counts the places that this takes. -/
def shrink : Nat → Nat → Nat → Nat × Nat
  | 0, delta, k => (delta, k)
  | fuel + 1, delta, k => if 455 < delta then shrink fuel (delta / 35) (k + 36) else (delta, k)

def adapt (delta count : Nat) (first : Bool) : Nat :=
  let delta := if first then delta / 700 else delta / 2
  let (delta, k) := shrink delta (delta + delta / count) 0
  k + 36 * delta / (delta + 38)

def writeDistance (bias : Nat) : Nat → Nat → Nat → List Char
  | 0, _, _ => []
  | fuel + 1, k, q =>
    let t := threshold k bias
    if q < t then [digit q]
    else digit (t + (q - t) % (36 - t)) ::
      writeDistance bias fuel (k + 36) ((q - t) / (36 - t))

structure Writer where
  written : List Char
  delta : Nat
  bias : Nat
  placed : Nat

/-- Passes a character of the label when characters with code point `n` are placed. -/
def Writer.pass (basic n : Nat) (w : Writer) (c : Char) : Writer :=
  if c.toNat < n then { w with delta := w.delta + 1 }
  else if c.toNat = n then
    { written := w.written ++ writeDistance w.bias (w.delta + 1) 36 w.delta
      delta := 0
      bias := adapt w.delta (w.placed + 1) (w.placed = basic)
      placed := w.placed + 1 }
  else w

/-- Places the characters of the given code points, which come in increasing order behind `n`. -/
def Writer.place (label : List Char) (basic : Nat) : Nat → List Nat → Writer → Writer
  | _, [], w => w
  | n, m :: ms, w =>
    let w := { w with delta := w.delta + (m - n) * (w.placed + 1) }
    let w := label.foldl (Writer.pass basic m) w
    Writer.place label basic (m + 1) ms { w with delta := w.delta + 1 }

/-- A label in ASCII, without the mark that tells that it is encoded. -/
def encode (label : List Char) : List Char :=
  let plain := label.filter fun c => c.toNat < 0x80
  let others := ((label.map Char.toNat).filter (0x80 ≤ ·)).mergeSort.eraseDups
  let start := if plain.isEmpty then [] else plain ++ ['-']
  (Writer.place label plain.length 0x80 others ⟨start, 0, 72, plain.length⟩).written

/-- Reads the digits of a distance; `weight` is the weight of the next one. -/
def readDistance (bias : Nat) : Nat → Nat → Nat → List Char → Option (Nat × List Char)
  | _, _, _, [] => none
  | i, weight, k, c :: cs => do
    let d ← digit? c
    let i := i + d * weight
    let t := threshold k bias
    if d < t then some (i, cs) else readDistance bias i (weight * (36 - t)) (k + 36) cs

def placeAll : Nat → Nat → Nat → Nat → List Char → List Char → Option (List Char)
  | _, _, _, _, label, [] => some label
  | 0, _, _, _, _, _ :: _ => none
  | fuel + 1, n, i, bias, label, cs => do
    let (j, rest) ← readDistance bias i 1 36 cs
    let count := label.length + 1
    let n := n + j / count
    let c ← Utf8.char? n
    let place := j % count
    placeAll fuel n (place + 1) (adapt (j - i) count (i = 0))
      (label.take place ++ c :: label.drop place) rest

def decode (encoded : List Char) : Option (List Char) :=
  let behind := (encoded.reverse.takeWhile (· ≠ '-')).reverse
  let before := (encoded.take (encoded.length - behind.length)).dropLast
  if before.any fun c => 0x80 ≤ c.toNat then none
  else placeAll encoded.length 0x80 0 72 before behind

end FlagHost.Url.Punycode
