import FlagHost.Proofs.Rollouts

/-!
# Rollouts that are widened

A weight that grows lets in more buckets at its own position and changes nothing at the others. So
the search for the first position that lets a bucket in ends where it ended before, or else at the
position that was widened, which it had passed by without stopping. Main statement: no target is
moved by a widening but to the widened position, and only from a later one.

Weights are compared one by one, which is what makes this so: with sums of weights all positions
behind the widened one would shift.
-/

namespace FlagHost

/-- An element that is changed, and keeps the property if it had it, is the only one that a search
may stop at instead. -/
theorem findIdx_modify {α : Type} {p : α → Bool} {f : α → α} (l : List α) (i : Nat)
    (keeps : ∀ a, l[i]? = some a → p a = true → p (f a) = true) :
    (l.modify i f).findIdx p = l.findIdx p ∨
      i < l.findIdx p ∧ (l.modify i f).findIdx p = i := by
  induction l generalizing i with
  | nil => simp
  | cons a l ih =>
    cases i with
    | zero =>
      have keeps_first : p a = true → p (f a) = true := keeps a rfl
      cases before : p a <;> cases after : p (f a) <;>
        simp_all [List.findIdx_cons]
    | succ i =>
      rcases ih i (by simpa using keeps) with same | ⟨behind, moved⟩
      · simp [List.findIdx_cons, same]
      · cases first : p a <;> simp [List.findIdx_cons, first, behind, moved]

namespace Distribution

/-- The rollout with another weight at a position. -/
def reweigh (rollout : Distribution) (i : Nat) (weight : UInt32) : Distribution :=
  { rollout with variations := rollout.variations.modify i fun w => { w with weight } }

variable {rollout : Distribution} {i : Nat} {weight : UInt32}

theorem length_reweigh :
    (rollout.reweigh i weight).variations.length = rollout.variations.length := by
  simp [reweigh]

/-- All variations stay where they are. -/
theorem variation_reweigh (j : Nat) :
    ((rollout.reweigh i weight).variations[j]?).map (·.variation) =
      (rollout.variations[j]?).map (·.variation) := by
  rw [reweigh, List.getElem?_modify]
  cases rollout.variations[j]? <;> by_cases same : i = j <;> simp [same]

/-- A bucket keeps its position, or moves to the widened one from a later one. -/
theorem position_reweigh (wider : rollout.weightAt i ≤ weight.toNat) (b : Nat) :
    (rollout.reweigh i weight).position b = rollout.position b ∨
      i < rollout.position b ∧ (rollout.reweigh i weight).position b = i := by
  have keeps : ∀ w, rollout.variations[i]? = some w →
      (decide (0 < w.weight) && decide (b ≤ w.weight.toNat)) = true →
      (decide (0 < weight) && decide (b ≤ weight.toNat)) = true := by
    intro w at_i admits
    have wider : w.weight.toNat ≤ weight.toNat := by simpa [weightAt, at_i] using wider
    simp only [Bool.and_eq_true, decide_eq_true_eq, UInt32.lt_iff_toNat_lt,
      UInt32.toNat_zero] at admits ⊢
    omega
  have search := findIdx_modify (f := fun w => { w with weight }) rollout.variations i keeps
  have inside : (rollout.variations.findIdx fun w => 0 < w.weight && b ≤ w.weight.toNat) ≤
      rollout.variations.length := List.findIdx_le_length
  simp only [position, reweigh, List.length_modify]
  omega

end Distribution

namespace Evaluator

variable {rollout : Distribution} {i : Nat} {weight : UInt32}

theorem position_reweigh (e : Evaluator) (target : Target)
    (wider : rollout.weightAt i ≤ weight.toNat) :
    e.position target (rollout.reweigh i weight) = e.position target rollout ∨
      i < e.position target rollout ∧ e.position target (rollout.reweigh i weight) = i := by
  have same : (rollout.reweigh i weight).bucketBy = rollout.bucketBy := rfl
  cases asked : target.attribute? rollout.bucketBy with
  | none =>
    left
    rw [position_of_none asked, position_of_none (same ▸ asked), Distribution.length_reweigh]
  | some value =>
    rw [position_of_some asked, position_of_some (same ▸ asked), same]
    exact Distribution.position_reweigh wider _

/-- What a larger weight at a position does to the position of a target, and to what it draws. -/
structure Sticks (e : Evaluator) (target : Target) (rollout widened : Distribution) (i : Nat) :
    Prop where
  /-- Positions in front of the widened one are kept. -/
  before : e.position target rollout < i →
    e.position target widened = e.position target rollout
  /-- The widened position is kept. -/
  at_ : e.position target rollout = i → e.position target widened = i
  /-- Who moves, moves to the widened position from a later one. -/
  moved : e.position target widened ≠ e.position target rollout →
    e.position target widened = i ∧ i < e.position target rollout
  /-- What is drawn stays the same, or becomes the variation at the widened position. -/
  drawn : e.draw? target widened = e.draw? target rollout ∨
    i < e.position target rollout ∧
      e.draw? target widened = (rollout.variations[i]?).map (·.variation)

theorem sticks_of_wider (e : Evaluator) (target : Target) (rollout : Distribution) (i : Nat)
    (weight : UInt32) (wider : rollout.weightAt i ≤ weight.toNat) :
    e.Sticks target rollout (rollout.reweigh i weight) i := by
  have position := position_reweigh e target wider
  refine
    { before := fun before => by omega
      at_ := fun at_i => by omega
      moved := fun other => by omega
      drawn := ?_ }
  rw [draw?_eq_at_position, draw?_eq_at_position, Distribution.variation_reweigh]
  rcases position with same | ⟨later, moved⟩
  · exact .inl (by rw [same])
  · exact .inr ⟨later, by rw [moved]⟩

/-- Carol, whose bucket is 29, comes from the last position to the one that is widened. -/
theorem sticks_carol :
    let e : Evaluator := ⟨{}, percentBucket⟩
    let carol : Target := { identifier := "carol" }
    let rollout : Distribution := ⟨"identifier", [⟨"red", 20⟩, ⟨"blue", 10⟩, ⟨"green", 0⟩]⟩
    rollout.weightAt 1 ≤ (30 : UInt32).toNat ∧ e.draw? carol rollout = some "green" ∧
      e.position carol (rollout.reweigh 1 30) = 1 ∧ 1 < e.position carol rollout ∧
      e.draw? carol (rollout.reweigh 1 30) = some "blue" := by
  intro e carol rollout
  have wider : rollout.weightAt 1 ≤ (30 : UInt32).toNat := by decide
  have sticks := sticks_of_wider e carol rollout 1 30 wider
  have other : e.position carol (rollout.reweigh 1 30) ≠ e.position carol rollout := by
    decide +kernel
  have drawn : e.draw? carol rollout = some "green" := by decide +kernel
  obtain ⟨moved, later⟩ := sticks.moved other
  refine ⟨wider, drawn, moved, later, ?_⟩
  rcases sticks.drawn with same | ⟨_, blue⟩
  · exact absurd (same.trans drawn) (by decide +kernel)
  · exact blue

end Evaluator

end FlagHost
