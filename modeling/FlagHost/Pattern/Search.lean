import FlagHost.Pattern.Regex

/-!
# Searching a text

A set of positions in a text is kept as a number: bit `i` stands for the position in front of
character `i`. An atom carries a set of positions to another one: of the positions it keeps those
where it applies, and moves them by the number of characters it consumes. An expression does so as a
whole, and a text has a match if some position is reached from anywhere. The time is bounded by
the size of the expression and of the text, whatever the expression is.
-/

namespace FlagHost.Pattern

/-- Positions in a text, as bits. -/
abbrev Positions := Nat

namespace Positions

/-- The positions `start`, `start + 1`, … of which `flags` says that they are in the set. -/
def ofFlags : List Bool → Positions
  | [] => 0
  | b :: bs => 2 * ofFlags bs + b.toNat

def firsts (n : Nat) : Positions := (1 <<< n) - 1

def without (p q : Positions) : Positions := (p ||| q) ^^^ q

end Positions

/-- What an atom does in a text: the positions where it applies, and how far it goes. -/
structure Move where
  mask : Positions
  distance : Nat

def Move.apply (m : Move) (p : Positions) : Positions := (p &&& m.mask) <<< m.distance

/-- Whether a look holds in front of each of the characters and behind the last. -/
def Look.along (look : Look) (before : Option Char) : List Char → List Bool
  | [] => [look.holds before none]
  | c :: cs => look.holds before (some c) :: look.along (some c) cs

def Atom.within (text : List Char) : Atom → Move
  | .chars set => ⟨Positions.ofFlags (text.map set.has), 1⟩
  | .look l => ⟨Positions.ofFlags (l.along none text), 0⟩

/-- Takes a step `n` times; steps that would change nothing are left out. -/
def repeated (step : Positions → Positions) : Nat → Positions → Positions
  | 0, p => p
  | n + 1, p => let q := step p; if q = p then p else repeated step n q

/-- The positions reached by up to `n` steps: those reached so far, and those reached from the
positions that were new in the last step. -/
def spread (step : Positions → Positions) : Nat → Positions → Positions → Positions
  | 0, reached, _ => reached
  | n + 1, reached, fresh =>
    let next := (step fresh).without reached
    if next = 0 then reached else spread step n (reached ||| next) next

/-- The positions where a part of the text that starts at one of `p` and matches may end; `size` is
the number of positions of the text. -/
def Regex.reach (size : Nat) : Regex Move → Positions → Positions
  | .empty, p => p
  | .atom m, p => m.apply p
  | .seq r s, p => s.reach size (r.reach size p)
  | .alt r s, p => r.reach size p ||| s.reach size p
  | .rep r least most, p =>
    let start := repeated (r.reach size) least p
    let more := match most with
      | some n => n - least
      | none => size
    spread (r.reach size) more start start
  | .group r, p => r.reach size p

def Regex.occursIn (r : Regex Atom) (text : List Char) : Bool :=
  let size := text.length + 1
  (r.map (Atom.within text)).reach size (Positions.firsts size) != 0

end FlagHost.Pattern
