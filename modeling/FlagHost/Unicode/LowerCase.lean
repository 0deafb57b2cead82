import FlagHost.Unicode.CaseTable
import FlagHost.Unicode.Property

/-!
# Lower case

The lower-case form of a text is that of its characters one by one, but for the capital sigma: at
the end of a word it becomes the final form. A sigma ends a word if, passing over characters that
case does not concern, a cased character stands before it and none after it.
-/

namespace FlagHost.Unicode

def lookUp (n : Nat) : List (Nat × Nat) → Option Nat
  | [] => none
  | (a, b) :: rest => if n < a then none else if n = a then some b else lookUp n rest

/-- The lower-case form of one character, without regard to its neighbours. -/
def lowerChar (c : Char) : List Char :=
  if c.toNat < 0x80 then [c.toLower]
  else if c = '\u0130' then ['i', '\u0307']
  else match lookUp c.toNat lowerPairs with
    | some n => [Char.ofNat n]
    | none => [c]

/-- Whether a cased character comes first, characters that case does not concern apart. -/
def casedFirst (cs : List Char) : Bool :=
  match cs.dropWhile Property.caseIgnorable.has with
  | [] => false
  | c :: _ => Property.cased.has c

/-- The lower-case form of the characters `cs`, whose predecessors are `before`, the nearest
first. -/
def lowerFrom (before : List Char) : List Char → List Char
  | [] => []
  | c :: cs =>
    let here :=
      if c = 'Σ' then
        if casedFirst before && !casedFirst cs then ['ς'] else ['σ']
      else lowerChar c
    here ++ lowerFrom (c :: before) cs

def lowerCase (text : String) : String := String.ofList (lowerFrom [] text.toList)

end FlagHost.Unicode
