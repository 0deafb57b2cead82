/-!
# Sets of code points

A set of code points is kept as the list of points at which membership flips, read from below: the
set `{a, b, c}` of three neighbours has the two flips `a` and `c + 1`. Complement toggles the flip
at zero, and every other Boolean operation is one sweep over the flips of both arguments in order.
The points are all natural numbers, so the complement of a set has no last flip; a character is in
a set if its code point is.
-/

namespace FlagHost.Unicode

/-- Whether an odd number of the flips lies at or below the point. -/
def inside : List Nat → Nat → Bool
  | [], _ => false
  | f :: fs, p => if p < f then false else !inside fs p

/-- A flip in front of flips that do not lie below it; two flips at one point cancel. -/
def flipThen (f : Nat) : List Nat → List Nat
  | [] => [f]
  | g :: gs => if f = g then gs else f :: g :: gs

/-- A set of code points, given by its flips in increasing order. -/
structure CodeSet where
  flips : List Nat
deriving DecidableEq, Repr

namespace CodeSet

def empty : CodeSet := ⟨[]⟩

instance : Inhabited CodeSet := ⟨empty⟩

def contains (s : CodeSet) (p : Nat) : Bool := inside s.flips p

def has (s : CodeSet) (c : Char) : Bool := s.contains c.toNat

/-- The points from `lo` to `hi`, both included. -/
def range (lo hi : Nat) : CodeSet := if hi < lo then empty else ⟨[lo, hi + 1]⟩

def single (p : Nat) : CodeSet := ⟨[p, p + 1]⟩

def complement (s : CodeSet) : CodeSet := ⟨flipThen 0 s.flips⟩

/-- Hands flips of the right side out up to the flip `x` of the left side, then goes on with
`next`, which has the left flips behind `x`. -/
def mergeUpTo (x : Nat) (next : List Nat → List (Nat × Bool)) : List Nat → List (Nat × Bool)
  | [] => (x, true) :: next []
  | y :: ys => if x ≤ y then (x, true) :: next (y :: ys) else (y, false) :: mergeUpTo x next ys

/-- The flips of both sides in order, each with a mark that tells whether it is of the left one. -/
def merge : List Nat → List Nat → List (Nat × Bool)
  | [] => fun ys => ys.map (·, false)
  | x :: xs => mergeUpTo x (merge xs)

/-- The flips of the combination of two sets, of which so far the left one holds `l`, the right one
`r`, and the combination `out`. -/
def sweep (op : Bool → Bool → Bool) (l r out : Bool) : List (Nat × Bool) → List Nat
  | [] => []
  | (p, left) :: rest =>
    let l' := l != left
    let r' := r == left
    let out' := op l' r'
    let more := sweep op l' r' out' rest
    if out' = out then more else flipThen p more

/-- The points whose memberships in the two sets satisfy `op`; a point outside of both must not. -/
def combine (op : Bool → Bool → Bool) (s t : CodeSet) : CodeSet :=
  ⟨sweep op false false false (merge s.flips t.flips)⟩

def union : CodeSet → CodeSet → CodeSet := combine (· || ·)

def inter : CodeSet → CodeSet → CodeSet := combine (· && ·)

def diff : CodeSet → CodeSet → CodeSet := combine fun a b => a && !b

def symmDiff : CodeSet → CodeSet → CodeSet := combine (· != ·)

instance : Union CodeSet := ⟨union⟩

instance : Inter CodeSet := ⟨inter⟩

instance : SDiff CodeSet := ⟨diff⟩

/-- The runs of points of the set up to the greatest code point, as pairs of first and last. -/
def ranges (s : CodeSet) : List (Nat × Nat) := go s.flips
where
  /-- The runs that start at every second flip. -/
  go : List Nat → List (Nat × Nat)
    | [] => []
    | [lo] => if lo ≤ 0x10FFFF then [(lo, 0x10FFFF)] else []
    | lo :: stop :: rest =>
      if 0x10FFFF < lo then [] else (lo, min 0x10FFFF (stop - 1)) :: go rest

def below (s : CodeSet) (bound : Nat) : Bool := s.ranges.all fun (_, hi) => hi < bound

end CodeSet

/-! ## Membership -/

theorem inside_flipThen (f : Nat) (fs : List Nat) (p : Nat)
    (h : ∀ g ∈ fs, f ≤ g) :
    inside (flipThen f fs) p = if p < f then false else !inside fs p := by
  cases fs with
  | nil => simp [flipThen, inside]
  | cons g gs =>
    by_cases hfg : f = g
    · subst hfg
      by_cases hp : p < f
      · have : inside gs p = false := by
          cases gs with
          | nil => rfl
          | cons k ks =>
            have hk : f ≤ k := h k (by simp)
            have : p < k := by omega
            simp [inside, this]
        simp [flipThen, hp, this]
      · simp [flipThen, inside, hp]
    · simp [flipThen, hfg, inside]

@[simp] theorem CodeSet.contains_complement (s : CodeSet) (p : Nat) :
    s.complement.contains p = !s.contains p := by
  simp [CodeSet.complement, CodeSet.contains, inside_flipThen]

@[simp] theorem CodeSet.contains_empty (p : Nat) : CodeSet.empty.contains p = false := rfl

@[simp] theorem CodeSet.contains_range (lo hi p : Nat) :
    (CodeSet.range lo hi).contains p = decide (lo ≤ p ∧ p ≤ hi) := by
  unfold CodeSet.range
  split
  · simp
    omega
  · by_cases h : p < lo
    · have : ¬ lo ≤ p := by omega
      simp [CodeSet.contains, inside, h, this]
    · by_cases h' : p < hi + 1
      · have : lo ≤ p ∧ p ≤ hi := by omega
        simp [CodeSet.contains, inside, h, h', this]
      · have : ¬ p ≤ hi := by omega
        simp [CodeSet.contains, inside, h, h', this]

@[simp] theorem CodeSet.contains_single (q p : Nat) :
    (CodeSet.single q).contains p = decide (p = q) := by
  by_cases h : p < q
  · have : p ≠ q := by omega
    simp [CodeSet.single, CodeSet.contains, inside, h, this]
  · by_cases h' : p < q + 1
    · have : p = q := by omega
      simp [CodeSet.single, CodeSet.contains, inside, this]
    · have : p ≠ q := by omega
      simp [CodeSet.single, CodeSet.contains, inside, h, h', this]

end FlagHost.Unicode
