import FlagHost.Unicode.CaseTable

/-!
# Case folding of sets

A set is closed under case by adding to it every code point that differs in case only from one of
its own.
-/

namespace FlagHost.Unicode.CodeSet

def ofSorted : List Nat → CodeSet
  | [] => empty
  | p :: ps => ⟨flipThen p (flipThen (p + 1) (ofSorted ps).flips)⟩

/-- The set of the points listed, none of them twice, in any order. -/
def ofPoints (points : List Nat) : CodeSet := ofSorted points.mergeSort

def foldCase (s : CodeSet) : CodeSet :=
  s ∪ ofPoints ((caseClasses.filter fun cls => cls.any s.contains).flatten)

/-- The set with the case variants of its ASCII letters that are ASCII letters themselves. -/
def foldAsciiCase (s : CodeSet) : CodeSet :=
  let letters := (List.range 26).flatMap fun i =>
    if s.contains (0x41 + i) || s.contains (0x61 + i) then [0x41 + i, 0x61 + i] else []
  s ∪ ofPoints letters

end FlagHost.Unicode.CodeSet
