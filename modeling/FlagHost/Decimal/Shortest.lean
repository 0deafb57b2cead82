/-!
# Shortest decimals

A finite double is `m · 2 ^ q` for natural `m`, and the reals that round to it form an interval
around it. Its shortest decimal is the one with the fewest digits in that interval, and of those
with equally few digits the nearest one. For each number of digits it is enough to look at the two
neighbours of the value on the decimal grid, in exact arithmetic.
-/

namespace FlagHost.Decimal

inductive Tie where
  /-- The greater one. -/
  | up
  /-- The one with an even last digit. -/
  | even
deriving DecidableEq, Repr

structure Scaled where
  digits : Nat
  exponent : Int
deriving DecidableEq, Repr

def leadingBit : Nat := 0x10000000000000

/-- The absolute value `m · 2 ^ q` of a finite double, read off its bits. -/
def magnitude (bits : Nat) : Nat × Int :=
  let fraction : Nat := bits % leadingBit
  let exponent : Nat := bits / leadingBit % 2048
  if exponent = 0 then (fraction, -1074) else (fraction + leadingBit, (exponent : Int) - 1075)

/-- Whether a lower neighbour of `m · 2 ^ q` is only half as far as the upper one: so it is at
powers of two, but for the smallest. -/
def narrowBelow (m : Nat) (q : Int) : Bool := m == leadingBit && q != -1074

/-- The ends of the interval of the reals that round to `m · 2 ^ q`, in units of `2 ^ (q - 2)`. -/
def interval (m : Nat) (q : Int) : Nat × Nat :=
  (if narrowBelow m q then 4 * m - 1 else 4 * m - 2, 4 * m + 2)

/-- `d · 10 ^ e` and `n · 2 ^ s` brought to a common scale, on which they are natural numbers. -/
def commonScale (d : Nat) (e : Int) (n : Nat) (s : Int) : Nat × Nat :=
  (d * Nat.pow 10 e.toNat * Nat.pow 2 (-s).toNat, n * Nat.pow 2 s.toNat * Nat.pow 10 (-e).toNat)

/-- Whether `d · 10 ^ e` rounds to `m · 2 ^ q`; the ends of the interval do if `m` is even. -/
def roundsTo (m : Nat) (q : Int) (d : Nat) (e : Int) : Bool :=
  let (lo, hi) := interval m q
  let (a, b) := commonScale d e lo (q - 2)
  let (c, f) := commonScale d e hi (q - 2)
  if m % 2 = 0 then b ≤ a && c ≤ f else b < a && c < f

/-- The greatest `p` with `10 ^ p ≤ m · 2 ^ q`, sought from an estimate that is not above it by
`steps` increments. -/
def decimalOrder (m : Nat) (q : Int) : Nat → Int → Int
  | 0, p => p
  | steps + 1, p =>
    let (a, b) := commonScale 1 (p + 1) m q
    if a ≤ b then decimalOrder m q steps (p + 1) else p

def order (m : Nat) (q : Int) : Int :=
  decimalOrder m q 4 ((((Nat.log2 m : Int) + q) * 1233).fdiv 4096 - 2)

/-- The nearer of `d` and `d + 1` to a point between them that lies `part / unit` above `d`. -/
def nearer (tie : Tie) (d part unit : Nat) : Nat :=
  if 2 * part < unit then d
  else if 2 * part = unit ∧ tie = .even ∧ d % 2 = 0 then d
  else d + 1

/-- The neighbour of `m · 2 ^ q` on the grid `10 ^ e` that rounds to it, the nearer one if both
do. -/
def onGrid (tie : Tie) (m : Nat) (q : Int) (e : Int) : Option Nat :=
  let (unit, value) := commonScale 1 e (4 * m) (q - 2)
  let d := value / unit
  let lower := roundsTo m q d e && d != 0
  let upper := roundsTo m q (d + 1) e
  match lower, upper with
  | true, true => some (nearer tie d (value % unit) unit)
  | true, false => some d
  | false, true => some (d + 1)
  | false, false => none

/-- Moves zeros at the end of the digits into the exponent. -/
def trim : Nat → Nat → Int → Scaled
  | 0, d, e => ⟨d, e⟩
  | fuel + 1, d, e => if d != 0 && d % 10 = 0 then trim fuel (d / 10) (e + 1) else ⟨d, e⟩

/-- Tries the grids from `k` digits on; seventeen digits tell any two doubles apart. -/
def firstGrid (tie : Tie) (m : Nat) (q : Int) (p : Int) : Nat → Nat → Scaled
  | 0, k => ⟨m, p - k⟩
  | more + 1, k =>
    match onGrid tie m q (p - k) with
    | some d => trim 20 d (p - k)
    | none => firstGrid tie m q p more (k + 1)

def shortest (tie : Tie) (m : Nat) (q : Int) : Scaled :=
  if m = 0 then ⟨0, 0⟩ else firstGrid tie m q (order m q) 17 0

end FlagHost.Decimal
