import FlagHost.Bucket
import FlagHost.Evaluation
import Mathlib.Algebra.Order.BigOperators.Group.Finset
import Mathlib.Data.Finset.Lattice.Fold
import Mathlib.Order.Interval.Finset.Nat
import Mathlib.Order.Lattice.Nat

/-!
# The shares of a rollout

A rollout compares the bucket of a target with each weight on its own, and not with sums of
weights. So a position is left what its weight has above the greatest weight in front of it, and
the last one gets all buckets that are left over. `Distribution.position` is the position that a
bucket is served; positions are told apart where the variations at them are the same.

Main statement: which buckets a position is served, and how many of the hundred these are.
-/

namespace FlagHost

namespace Distribution

/-- The weight at a position; there is none behind the end. -/
def weightAt (rollout : Distribution) (i : Nat) : Nat :=
  (rollout.variations[i]?).elim 0 (·.weight.toNat)

/-- The greatest weight in front of a position. -/
def crest (rollout : Distribution) (i : Nat) : Nat := (Finset.range i).sup rollout.weightAt

/-- The position that a bucket is served: the first one with a weight that it does not exceed, and
else the last one. -/
def position (rollout : Distribution) (bucket : Nat) : Nat :=
  min (rollout.variations.findIdx fun w => 0 < w.weight && bucket ≤ w.weight.toNat)
    (rollout.variations.length - 1)

/-- How many of the hundred buckets a position is served. -/
def share (rollout : Distribution) (i : Nat) : Nat :=
  ((Finset.Icc 1 100).filter (rollout.position · = i)).card

variable {rollout : Distribution} {i j b : Nat}

theorem weightAt_eq (h : i < rollout.variations.length) :
    rollout.weightAt i = rollout.variations[i].weight.toNat := by
  simp [weightAt, h]

theorem crest_lt_iff (positive : 0 < b) :
    rollout.crest i < b ↔ ∀ j < i, rollout.weightAt j < b := by
  simp [crest, Finset.sup_lt_iff positive]

theorem weightAt_le_crest (h : j < i) : rollout.weightAt j ≤ rollout.crest i :=
  Finset.le_sup (Finset.mem_range.2 h)

theorem position_lt (some_variation : rollout.variations ≠ []) (b : Nat) :
    rollout.position b < rollout.variations.length := by
  have positive : 0 < rollout.variations.length := List.length_pos_iff.2 some_variation
  unfold position
  omega

/-- A position in front of the last one is served the buckets between the weights in front of it and
its own. -/
theorem position_eq_iff (inner : i < rollout.variations.length - 1) (positive : 0 < b) :
    rollout.position b = i ↔ rollout.crest i < b ∧ b ≤ rollout.weightAt i := by
  have inside : i < rollout.variations.length := by omega
  have first : rollout.position b = i ↔ (rollout.variations.findIdx fun w =>
      0 < w.weight && b ≤ w.weight.toNat) = i := by
    unfold position
    omega
  have admits : ∀ w : WeightedVariation,
      (decide (0 < w.weight) && decide (b ≤ w.weight.toNat)) = true ↔ b ≤ w.weight.toNat := by
    intro w
    simp only [Bool.and_eq_true, decide_eq_true_eq, UInt32.lt_iff_toNat_lt, UInt32.toNat_zero]
    omega
  rw [first, List.findIdx_eq inside, crest_lt_iff positive, admits, ← weightAt_eq inside, and_comm]
  refine and_congr_left fun _ => forall₂_congr fun j before => ?_
  have inside_j : j < rollout.variations.length := Nat.lt_trans before inside
  rw [← Bool.not_eq_true, admits, ← weightAt_eq inside_j, Nat.not_le]

/-- The last position is served what no other one is. -/
theorem position_eq_last_iff (positive : 0 < b) :
    rollout.position b = rollout.variations.length - 1 ↔
      ∀ i < rollout.variations.length - 1,
        ¬ (rollout.crest i < b ∧ b ≤ rollout.weightAt i) := by
  have le : rollout.position b ≤ rollout.variations.length - 1 := Nat.min_le_right _ _
  constructor
  · intro at_end i inner served
    exact Nat.ne_of_lt inner (((position_eq_iff inner positive).2 served).symm.trans at_end)
  · intro unserved
    by_contra other
    have inner : rollout.position b < rollout.variations.length - 1 := by omega
    exact unserved _ inner ((position_eq_iff inner positive).1 rfl)

/-- A weight that does not exceed one in front of it gets no bucket. -/
theorem position_ne_of_le (inner : i < rollout.variations.length - 1) (before : j < i)
    (le : rollout.weightAt i ≤ rollout.weightAt j) (positive : 0 < b) : rollout.position b ≠ i := by
  rw [Ne, position_eq_iff inner positive]
  rintro ⟨above, below⟩
  have covered : rollout.weightAt j ≤ rollout.crest i := weightAt_le_crest before
  omega

theorem share_eq (inner : i < rollout.variations.length - 1) :
    rollout.share i = min (rollout.weightAt i) 100 - min (rollout.crest i) 100 := by
  have served : (Finset.Icc 1 100).filter (rollout.position · = i) =
      Finset.Ioc (min (rollout.crest i) 100) (min (rollout.weightAt i) 100) := by
    ext b
    simp only [Finset.mem_filter, Finset.mem_Icc, Finset.mem_Ioc]
    constructor
    · rintro ⟨⟨positive, le⟩, at_i⟩
      obtain ⟨above, below⟩ := (position_eq_iff inner positive).1 at_i
      omega
    · rintro ⟨above, below⟩
      have positive : 0 < b := by omega
      refine ⟨by omega, (position_eq_iff inner positive).2 (by omega)⟩
  rw [share, served, Nat.card_Ioc]

/-- Each bucket is served one position. -/
theorem sum_share (some_variation : rollout.variations ≠ []) :
    ∑ i ∈ Finset.range rollout.variations.length, rollout.share i = 100 := by
  have inside : Set.MapsTo rollout.position (Finset.Icc 1 100)
      (Finset.range rollout.variations.length) := by
    intro b _
    simpa using position_lt some_variation b
  simpa [share] using (Finset.card_eq_sum_card_fiberwise inside).symm

theorem share_last (some_variation : rollout.variations ≠ []) :
    rollout.share (rollout.variations.length - 1) =
      100 - ∑ i ∈ Finset.range (rollout.variations.length - 1), rollout.share i := by
  have all := sum_share some_variation
  have positive : 1 ≤ rollout.variations.length := List.length_pos_iff.2 some_variation
  rw [← Nat.sub_add_cancel positive, Finset.sum_range_succ] at all
  omega

end Distribution

namespace Evaluator

/-- The position of a rollout that the target is served: that of its bucket, and the last one if it
lacks the attribute that is drawn by. -/
def position (e : Evaluator) (target : Target) (rollout : Distribution) : Nat :=
  match target.attribute? rollout.bucketBy with
  | none => rollout.variations.length - 1
  | some value => rollout.position (e.bucket (rollout.bucketBy ++ ":" ++ value))

variable {e : Evaluator} {target : Target} {rollout : Distribution}

theorem position_of_none (absent : target.attribute? rollout.bucketBy = none) :
    e.position target rollout = rollout.variations.length - 1 := by
  simp [position, absent]

theorem position_of_some {value : String}
    (present : target.attribute? rollout.bucketBy = some value) :
    e.position target rollout =
      rollout.position (e.bucket (rollout.bucketBy ++ ":" ++ value)) := by
  simp [position, present]

/-- The target draws the variation at the position that it is served. -/
theorem draw?_eq_at_position (e : Evaluator) (target : Target) (rollout : Distribution) :
    e.draw? target rollout =
      (rollout.variations[e.position target rollout]?).map (·.variation) := by
  have last_eq : rollout.variations.getLast? =
      rollout.variations[rollout.variations.length - 1]? := List.getLast?_eq_getElem?
  unfold draw?
  cases at_end : rollout.variations.getLast? with
  | none => simp [List.getLast?_eq_none_iff.1 at_end]
  | some last =>
    rw [at_end] at last_eq
    cases asked : target.attribute? rollout.bucketBy with
    | none => simp [position_of_none asked, ← last_eq]
    | some value =>
      simp only [position_of_some asked, Distribution.position, List.find?_eq_getElem?_findIdx]
      generalize rollout.variations.findIdx _ = first
      by_cases inside : first < rollout.variations.length
      · have same : min first (rollout.variations.length - 1) = first := by omega
        simp [same, inside]
      · have same : min first (rollout.variations.length - 1) = rollout.variations.length - 1 := by
          omega
        have outside : rollout.variations[first]? = none := by simpa using inside
        simp [same, outside, ← last_eq]

/-- How a rollout is divided. -/
structure Divides (e : Evaluator) (target : Target) (rollout : Distribution) : Prop where
  /-- What is drawn stands at the position that the target is served. -/
  drawn : e.position target rollout < rollout.variations.length ∧
    e.draw? target rollout =
      (rollout.variations[e.position target rollout]?).map (·.variation)
  /-- The last position is for targets without the attribute. -/
  without : target.attribute? rollout.bucketBy = none →
    e.position target rollout = rollout.variations.length - 1
  /-- Buckets are counted from one to a hundred. -/
  bucket : ∀ value, 1 ≤ e.bucket (rollout.bucketBy ++ ":" ++ value) ∧
    e.bucket (rollout.bucketBy ++ ":" ++ value) ≤ 100
  /-- Of the other targets a position gets those whose bucket exceeds all weights in front of it,
  but not its own. -/
  inner : ∀ value, target.attribute? rollout.bucketBy = some value →
    ∀ i < rollout.variations.length - 1, (e.position target rollout = i ↔
      rollout.crest i < e.bucket (rollout.bucketBy ++ ":" ++ value) ∧
        e.bucket (rollout.bucketBy ++ ":" ++ value) ≤ rollout.weightAt i)
  /-- The last position gets all that no other one gets. -/
  last : ∀ value, target.attribute? rollout.bucketBy = some value →
    (e.position target rollout = rollout.variations.length - 1 ↔
      ∀ i < rollout.variations.length - 1,
        ¬ (rollout.crest i < e.bucket (rollout.bucketBy ++ ":" ++ value) ∧
          e.bucket (rollout.bucketBy ++ ":" ++ value) ≤ rollout.weightAt i))
  /-- Of the hundred buckets a position gets as many as its weight has above those in front. -/
  innerShare : ∀ i < rollout.variations.length - 1,
    rollout.share i = min (rollout.weightAt i) 100 - min (rollout.crest i) 100
  /-- The last position gets the rest. -/
  lastShare : rollout.share (rollout.variations.length - 1) =
    100 - ∑ i ∈ Finset.range (rollout.variations.length - 1), rollout.share i
  /-- A position whose weight does not exceed one in front of it is never served. -/
  covered : ∀ i < rollout.variations.length - 1, ∀ j < i,
    rollout.weightAt i ≤ rollout.weightAt j →
      rollout.share i = 0 ∧ e.position target rollout ≠ i

theorem divides_of_variations (c : Configuration) (target : Target) (rollout : Distribution)
    (some_variation : rollout.variations ≠ []) :
    Divides ⟨c, percentBucket⟩ target rollout := by
  have positive (value : String) : 0 < percentBucket (rollout.bucketBy ++ ":" ++ value) :=
    (percentBucket_mem _).1
  have inside : position ⟨c, percentBucket⟩ target rollout < rollout.variations.length := by
    unfold position
    split
    · have := List.length_pos_iff.2 some_variation
      omega
    · exact Distribution.position_lt some_variation _
  refine
    { drawn := ⟨inside, draw?_eq_at_position _ target rollout⟩
      without := position_of_none
      bucket := fun value => percentBucket_mem _
      inner := ?_
      last := ?_
      innerShare := fun i inner => Distribution.share_eq inner
      lastShare := Distribution.share_last some_variation
      covered := ?_ }
  · intro value present i inner
    rw [position_of_some present]
    exact Distribution.position_eq_iff inner (positive value)
  · intro value present
    rw [position_of_some present]
    exact Distribution.position_eq_last_iff (positive value)
  · intro i inner j before le
    constructor
    · have covered : rollout.weightAt j ≤ rollout.crest i :=
        Distribution.weightAt_le_crest before
      rw [Distribution.share_eq inner]
      omega
    · cases asked : target.attribute? rollout.bucketBy with
      | none => rw [position_of_none asked]; omega
      | some value =>
        rw [position_of_some asked]
        exact Distribution.position_ne_of_le inner before le (positive value)

/-- A rollout with a weight that is covered and one beyond the hundred. -/
def uneven : Distribution :=
  ⟨"identifier", [⟨"red", 20⟩, ⟨"green", 10⟩, ⟨"blue", 150⟩, ⟨"red", 0⟩]⟩

theorem divides_uneven :
    let e : Evaluator := ⟨{}, percentBucket⟩
    let dave : Target := { identifier := "dave" }
    uneven.variations ≠ [] ∧ dave.attribute? "identifier" = some "dave" ∧
      e.position dave uneven = 2 ∧ uneven.share 0 = 20 ∧ uneven.share 1 = 0 ∧
      uneven.share 2 = 80 ∧ uneven.share 3 = 0 := by
  intro e dave
  have divides : e.Divides dave uneven := divides_of_variations {} dave uneven (by decide)
  have first : uneven.share 0 = 20 := divides.innerShare 0 (by decide)
  have second : uneven.share 1 = 0 := (divides.covered 1 (by decide) 0 (by decide) (by decide)).1
  have third : uneven.share 2 = 80 := divides.innerShare 2 (by decide)
  refine ⟨by decide, rfl, ?_, first, second, third, ?_⟩
  · refine (divides.inner "dave" rfl 2 (by decide)).2 ⟨?_, ?_⟩ <;> decide +kernel
  · have rest : uneven.share 3 = 100 - ∑ i ∈ Finset.range 3, uneven.share i := divides.lastShare
    simp [rest, Finset.sum_range_succ, first, second, third]

end Evaluator

end FlagHost
