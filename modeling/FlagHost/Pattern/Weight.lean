import FlagHost.Pattern.Regex
import FlagHost.Text.Utf8

/-!
# The weight of an expression

An expression is run by automatons over bytes, one that reads a text forwards and one that reads it
backwards, and neither may take more than ten megabytes. The weight of an expression is the memory
that its automaton takes: so many bytes for each state, each transition of a state that has several,
and each branch. A repetition that is counted is written out as often as it is counted.
-/

namespace FlagHost.Pattern

open Unicode

def stateWeight : Nat := 32

def transitionWeight : Nat := 8

def branchWeight : Nat := 4

def weightLimit : Nat := 10 * 1024 * 1024

/-- Where the code points `lo … hi` have to be cut, so that the encodings on each side agree in
length and, but for trailing bytes that run through all values, in all bytes but one. -/
def cut? (lo hi : Nat) : Option Nat :=
  let atLength := [0x80, 0x800, 0x10000].find? fun bound => lo < bound && bound ≤ hi
  if atLength.isSome then atLength
  else if hi < 0x80 then none
  else [64, 4096, 262144].findSome? fun block =>
    if lo / block = hi / block then none
    else if lo % block ≠ 0 then some ((lo / block + 1) * block)
    else if hi % block ≠ block - 1 then some (hi / block * block)
    else none

/-- The parts of `lo … hi` that are left when it has been cut wherever it must be. -/
def cutUp : Nat → Nat → Nat → List (Nat × Nat)
  | 0, lo, hi => [(lo, hi)]
  | fuel + 1, lo, hi =>
    match cut? lo hi with
    | none => [(lo, hi)]
    | some at_ => cutUp fuel lo (at_ - 1) ++ cutUp fuel at_ hi

/-- The ranges of bytes, one after the other, that encode the points of a set. -/
def byteRanges (set : CodeSet) : List (List (UInt8 × UInt8)) :=
  (set \ CodeSet.range 0xD800 0xDFFF).ranges.flatMap fun (lo, hi) =>
    (cutUp 64 lo hi).map fun (a, b) => (Utf8.encodePoint a).zip (Utf8.encodePoint b)

def commonStart {α : Type} [DecidableEq α] : List α → List α → Nat
  | a :: as, b :: bs => if a = b then commonStart as bs + 1 else 0
  | _, _ => 0

/-- The number of nodes, the root apart, of the tree that holds the lists, which are in order. -/
def treeNodes {α : Type} [DecidableEq α] (before : List α) : List (List α) → Nat
  | [] => 0
  | l :: ls => l.length - commonStart before l + treeNodes l ls

inductive Direction where
  | forward
  | backward
deriving DecidableEq

def setWeight (direction : Direction) (set : CodeSet) : Nat :=
  match set.ranges with
  | [] => stateWeight
  | [(lo, hi)] => if lo = hi then (Utf8.encodePoint lo).length * stateWeight else ofRanges set
  | _ => ofRanges set
where
  /-- The memory for a set of several characters. -/
  ofRanges (set : CodeSet) : Nat :=
    if set.below 0x80 then 2 * stateWeight + set.ranges.length * transitionWeight
    else
      let sequences := byteRanges set
      let nodes := treeNodes [] sequences
      match direction with
      | .forward => 2 * stateWeight + nodes * transitionWeight
      | .backward => (nodes + 2) * stateWeight + sequences.length * branchWeight

/-- Whether an expression matches no character at all or the empty text among others. -/
def Regex.isOptional : Regex Atom → Bool
  | .empty => true
  | .atom (.chars _) => false
  | .atom (.look _) => true
  | .seq r s => r.isOptional && s.isOptional
  | .alt r s => r.isOptional || s.isOptional
  | .rep r least _ => least = 0 || r.isOptional
  | .group r => r.isOptional

def Regex.weight (direction : Direction) : Regex Atom → Nat
  | .empty => stateWeight
  | .atom (.chars set) => setWeight direction set
  | .atom (.look _) => stateWeight
  | .seq r s => r.weight direction + s.weight direction
  | .alt r s => r.weight direction + s.weight direction + 2 * branchWeight
  | .rep r least most =>
    let body := r.weight direction
    let fork := stateWeight + 2 * branchWeight
    match most with
    | none =>
      if least = 0 then body + (if r.isOptional then 2 * fork else fork) else least * body + fork
    | some most =>
      if most = 0 then stateWeight
      else least * body + (most - least) * (body + fork) + (if least = most then 0 else stateWeight)
  | .group r => r.weight direction + if direction = .forward then 2 * stateWeight else 0

def Regex.isLightEnough (r : Regex Atom) : Bool :=
  r.weight .forward ≤ weightLimit && r.weight .backward ≤ weightLimit

end FlagHost.Pattern
