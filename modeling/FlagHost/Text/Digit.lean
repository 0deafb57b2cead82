/-!
# Digits

The values of digits and the numbers that digits write. Above nine the letters of either size are
digits, up to the base sixteen. A digit is looked at by its code point, so that the digits among
bytes are the same ones.
-/

namespace FlagHost.Digit

def hex? (n : Nat) : Option Nat :=
  if 0x30 ≤ n ∧ n ≤ 0x39 then some (n - 0x30)
  else if 0x41 ≤ n ∧ n ≤ 0x46 then some (n - 0x37)
  else if 0x61 ≤ n ∧ n ≤ 0x66 then some (n - 0x57)
  else none

/-- The value of a digit below the base, which is at most sixteen. -/
def below? (base : Nat) (c : Char) : Option Nat := (hex? c.toNat).filter (· < base)

def number? (base : Nat) (cs : List Char) : Option Nat :=
  cs.foldlM (fun n c => (below? base c).map (base * n + ·)) 0

def decimal (ds : List Char) : Nat := ds.foldl (fun n c => 10 * n + (c.toNat - 0x30)) 0

end FlagHost.Digit
