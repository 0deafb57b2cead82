import FlagHost.Pattern.Search
import Mathlib.Data.Finset.Card
import Mathlib.Logic.Function.Iterate

/-!
# What an expression matches

`r.Spans text i j` says that the part of a text from position `i` to position `j` belongs to the
language of an expression. It is by recursion on the expression, and knows of no search: a part
matches a sequence if it can be cut into parts that match, and a repetition if a number of steps
that the counts allow lead through it. A look spans nothing, and depends on the whole text.

Main statement: the search, which carries sets of positions along, succeeds just for the texts of
which some part matches. The one thing that has to be argued is that a repetition without an upper
count is tried often enough: steps that come to a position twice can be cut short, so that no more
are needed than there are positions.
-/

namespace FlagHost.Pattern

/-! ## Steps -/

/-- So many steps lead from one position to another. -/
def InSteps (r : Nat → Nat → Prop) : Nat → Nat → Nat → Prop
  | 0, i, j => i = j
  | k + 1, i, j => ∃ m, r i m ∧ InSteps r k m j

section Steps

variable {r : Nat → Nat → Prop} {size : Nat}

theorem inSteps_add_iff (k l : Nat) (i j : Nat) :
    InSteps r (k + l) i j ↔ ∃ m, InSteps r k i m ∧ InSteps r l m j := by
  induction k generalizing i with
  | zero => simp [InSteps]
  | succ k ih =>
    rw [Nat.succ_add]
    constructor
    · rintro ⟨m, first, rest⟩
      obtain ⟨n, before, after⟩ := (ih m).1 rest
      exact ⟨n, ⟨m, first, before⟩, after⟩
    · rintro ⟨n, ⟨m, first, before⟩, after⟩
      exact ⟨m, first, (ih m).2 ⟨n, before, after⟩⟩

/-- Steps do not lead out of the first `size` positions. -/
def Stays (size : Nat) (r : Nat → Nat → Prop) : Prop := ∀ i j, i < size → r i j → j < size

theorem Stays.inSteps (stays : Stays size r) (k : Nat) : Stays size (InSteps r k) := by
  induction k with
  | zero => rintro i j inside rfl; exact inside
  | succ k ih =>
    rintro i j inside ⟨m, first, rest⟩
    exact ih m j (stays i m inside first) rest

/-- Where steps lead, less than `size` of them do. -/
theorem InSteps.exists_lt (stays : Stays size r) {k i j : Nat} (inside : i < size)
    (h : InSteps r k i j) : ∃ l < size, InSteps r l i j := by
  induction k using Nat.strong_induction_on with
  | _ k shorter =>
    by_cases small : k < size
    · exact ⟨k, small, h⟩
    -- The positions on the way are more than there are, so one of them is met twice.
    have met (a : Nat) : ∃ m, a ≤ k → InSteps r a i m ∧ InSteps r (k - a) m j := by
      by_cases le : a ≤ k
      · obtain ⟨m, before, after⟩ := (inSteps_add_iff a (k - a) i j).1
          (by rwa [Nat.add_sub_cancel' le])
        exact ⟨m, fun _ => ⟨before, after⟩⟩
      · exact ⟨0, fun le' => absurd le' le⟩
    choose at_ reached using met
    have maps : ∀ a ∈ Finset.range (size + 1), at_ a ∈ Finset.range size := by
      intro a mem
      have le : a ≤ k := by
        have := Finset.mem_range.1 mem
        omega
      exact Finset.mem_range.2 (stays.inSteps a i _ inside (reached a le).1)
    obtain ⟨a, mem_a, b, mem_b, other, same⟩ :=
      Finset.exists_ne_map_eq_of_card_lt_of_maps_to (by simp) maps
    have le_a : a ≤ k := by have := Finset.mem_range.1 mem_a; omega
    have le_b : b ≤ k := by have := Finset.mem_range.1 mem_b; omega
    rcases Nat.lt_or_gt_of_ne other with lt | lt
    · refine shorter (a + (k - b)) (by omega) ((inSteps_add_iff _ _ _ _).2 ⟨at_ a, ?_, ?_⟩)
      · exact (reached a le_a).1
      · exact same ▸ (reached b le_b).2
    · refine shorter (b + (k - a)) (by omega) ((inSteps_add_iff _ _ _ _).2 ⟨at_ b, ?_, ?_⟩)
      · exact (reached b le_b).1
      · exact same ▸ (reached a le_a).2

end Steps

/-! ## The language of an expression -/

/-- The atom takes the text from one position to another. -/
def Atom.Spans (text : List Char) : Atom → Nat → Nat → Prop
  | .chars set, i, j => j = i + 1 ∧ ∃ c, text[i]? = some c ∧ set.has c = true
  | .look l, i, j =>
    j = i ∧ i ≤ text.length ∧ l.holds (text.take i).getLast? text[i]? = true

/-- The part of the text between two positions matches the expression. An upper count that lies
below the lower one does not count. -/
def Regex.Spans (text : List Char) : Regex Atom → Nat → Nat → Prop
  | .empty, i, j => i = j
  | .atom a, i, j => a.Spans text i j
  | .seq r s, i, j => ∃ m, r.Spans text i m ∧ s.Spans text m j
  | .alt r s, i, j => r.Spans text i j ∨ s.Spans text i j
  | .rep r least most, i, j =>
    ∃ k, least ≤ k ∧ (∀ n, most = some n → k ≤ max least n) ∧ InSteps (r.Spans text) k i j
  | .group r, i, j => r.Spans text i j

/-- The whole of the text matches the expression. -/
def Regex.SpansAll (text : List Char) (r : Regex Atom) : Prop := r.Spans text 0 text.length

theorem Atom.stays (text : List Char) (a : Atom) : Stays (text.length + 1) (a.Spans text) := by
  intro i j inside spans
  cases a with
  | chars set =>
    obtain ⟨rfl, c, at_i, _⟩ := spans
    have lt : i < text.length := (List.getElem?_eq_some_iff.1 at_i).1
    omega
  | look l =>
    obtain ⟨rfl, -⟩ := spans
    exact inside

theorem Regex.stays (text : List Char) (r : Regex Atom) :
    Stays (text.length + 1) (r.Spans text) := by
  induction r with
  | empty => rintro i j inside rfl; exact inside
  | atom a => exact a.stays text
  | seq r s ih_r ih_s =>
    rintro i j inside ⟨m, first, second⟩
    exact ih_s m j (ih_r i m inside first) second
  | alt r s ih_r ih_s =>
    rintro i j inside (left | right)
    · exact ih_r i j inside left
    · exact ih_s i j inside right
  | rep r least most ih =>
    rintro i j inside ⟨k, _, _, steps⟩
    exact ih.inSteps k i j inside steps
  | group r ih => exact ih

/-! ## Sets of positions -/

namespace Positions

/-- The position is in the set. -/
def Has (p : Positions) (i : Nat) : Prop := p.testBit i = true

/-- All positions of the set are among the first ones. -/
def Below (size : Nat) (p : Positions) : Prop := ∀ i, p.Has i → i < size

theorem has_zero (i : Nat) : ¬ Has 0 i := by simp [Has]

theorem eq_zero_iff (p : Positions) : p = 0 ↔ ∀ i, ¬ p.Has i := by
  constructor
  · rintro rfl
    exact has_zero
  · intro none
    refine Nat.eq_of_testBit_eq fun i => ?_
    simpa [Has] using none i

theorem has_or (p q : Positions) (i : Nat) : Has (p ||| q) i ↔ p.Has i ∨ q.Has i := by
  simp [Has]

theorem has_without (p q : Positions) (i : Nat) : (p.without q).Has i ↔ p.Has i ∧ ¬ q.Has i := by
  unfold Has without
  rw [Nat.testBit_xor, Nat.testBit_or]
  cases p.testBit i <;> cases q.testBit i <;> decide

theorem has_ofFlags (flags : List Bool) (i : Nat) :
    (ofFlags flags).Has i ↔ flags[i]? = some true := by
  induction flags generalizing i with
  | nil => simp [ofFlags, Has]
  | cons b bs ih =>
    unfold Has at ih ⊢
    cases i with
    | zero => cases b <;> simp [ofFlags]
    | succ i =>
      have half (n : Nat) : (2 * n + b.toNat) / 2 = n := by
        have := Bool.toNat_le b
        omega
      rw [ofFlags, Nat.testBit_succ, half, ih, List.getElem?_cons_succ]

theorem has_firsts (n i : Nat) : (firsts n).Has i ↔ i < n := by
  simp [Has, firsts, Nat.one_shiftLeft, Nat.testBit_two_pow_sub_one]

end Positions

/-- The function gives the positions that the steps lead to. -/
def Carries (size : Nat) (step : Positions → Positions) (r : Nat → Nat → Prop) : Prop :=
  ∀ p : Positions, p.Below size → ∀ j, (step p).Has j ↔ ∃ i, p.Has i ∧ r i j

section Carried

variable {size : Nat} {step : Positions → Positions} {r : Nat → Nat → Prop} {p : Positions}

theorem Carries.below (carries : Carries size step r) (stays : Stays size r)
    (below : p.Below size) : (step p).Below size := by
  intro j has
  obtain ⟨i, has_i, leads⟩ := (carries p below j).1 has
  exact stays i j (below i has_i) leads

theorem repeated_eq_iterate (step : Positions → Positions) (n : Nat) (p : Positions) :
    repeated step n p = step^[n] p := by
  induction n generalizing p with
  | zero => rfl
  | succ n ih =>
    rw [Function.iterate_succ_apply]
    by_cases fixed : step p = p
    · rw [fixed, Function.iterate_fixed fixed]
      simp [repeated, fixed]
    · rw [← ih]
      simp [repeated, fixed]

theorem Carries.iterate (carries : Carries size step r) (stays : Stays size r) (n : Nat) :
    Carries size (step^[n]) (InSteps r n) := by
  induction n with
  | zero => intro p _ j; simp [InSteps]
  | succ n ih =>
    intro p below j
    rw [Function.iterate_succ_apply, ih _ (carries.below stays below)]
    simp only [carries p below, InSteps]
    constructor
    · rintro ⟨m, ⟨i, has, first⟩, rest⟩
      exact ⟨i, has, m, first, rest⟩
    · rintro ⟨i, has, m, first, rest⟩
      exact ⟨m, ⟨i, has, first⟩, rest⟩

/-- Spreading gives what some steps lead to, of so many at most. Only positions that are new have
to be carried on, as what the others lead to has been reached before. -/
theorem Carries.spread (carries : Carries size step r) (stays : Stays size r) (n : Nat)
    {reached fresh : Positions} (below : reached.Below size)
    (old : ∀ i, fresh.Has i → reached.Has i)
    (done : ∀ i j, reached.Has i → ¬ fresh.Has i → r i j → reached.Has j) (j : Nat) :
    (spread step n reached fresh).Has j ↔ ∃ k ≤ n, ∃ i, reached.Has i ∧ InSteps r k i j := by
  induction n generalizing reached fresh with
  | zero => simp [Pattern.spread, InSteps]
  | succ n ih =>
    have fresh_below : fresh.Below size := fun i has => below i (old i has)
    have next (j : Nat) : ((step fresh).without reached).Has j ↔
        (∃ i, fresh.Has i ∧ r i j) ∧ ¬ reached.Has j := by
      rw [Positions.has_without, carries fresh fresh_below]
    -- One step leads from what is reached to what is reached or next.
    have onward (i j : Nat) (has : reached.Has i) (leads : r i j) :
        reached.Has j ∨ ((step fresh).without reached).Has j := by
      by_cases new : fresh.Has i
      · by_cases known : reached.Has j
        · exact .inl known
        · exact .inr ((next j).2 ⟨⟨i, new, leads⟩, known⟩)
      · exact .inl (done i j has new leads)
    unfold Pattern.spread
    dsimp only
    split
    · next nothing =>
      have closed (i j : Nat) (has : reached.Has i) (leads : r i j) : reached.Has j :=
        (onward i j has leads).resolve_right ((Positions.eq_zero_iff _).1 nothing j)
      have closed_steps (k : Nat) : ∀ i, reached.Has i → InSteps r k i j → reached.Has j := by
        induction k with
        | zero => rintro i has rfl; exact has
        | succ k ih =>
          rintro i has ⟨m, first, rest⟩
          exact ih m (closed i m has first) rest
      constructor
      · exact fun has => ⟨0, Nat.zero_le _, j, has, rfl⟩
      · rintro ⟨k, _, i, has, steps⟩
        exact closed_steps k i has steps
    · have next_below : ((step fresh).without reached).Below size := fun i has => by
        obtain ⟨⟨m, new, leads⟩, _⟩ := (next i).1 has
        exact stays m i (fresh_below m new) leads
      have all_below : Positions.Below size (reached ||| (step fresh).without reached) := by
        intro i has
        exact ((Positions.has_or _ _ i).1 has).elim (below i) (next_below i)
      rw [ih all_below]
      · simp only [Positions.has_or]
        constructor
        · rintro ⟨k, le, i, has | has, steps⟩
          · exact ⟨k, by omega, i, has, steps⟩
          · obtain ⟨⟨m, new, leads⟩, _⟩ := (next i).1 has
            exact ⟨k + 1, by omega, m, old m new, i, leads, steps⟩
        · rintro ⟨k, le, i, has, steps⟩
          cases k with
          | zero => exact ⟨0, by omega, i, .inl has, steps⟩
          | succ k =>
            obtain ⟨m, first, rest⟩ := steps
            exact ⟨k, by omega, m, onward i m has first, rest⟩
      · exact fun i has => (Positions.has_or _ _ i).2 (.inr has)
      · intro i j has new leads
        have known : reached.Has i := ((Positions.has_or _ _ i).1 has).resolve_right new
        exact (Positions.has_or _ _ j).2 (onward i j known leads)

end Carried

/-! ## The search -/

theorem Look.getElem?_along (look : Look) (before : Option Char) (text : List Char) (i : Nat) :
    (look.along before text)[i]? =
      if i ≤ text.length then some (look.holds ((text.take i).getLast?.or before) text[i]?)
      else none := by
  induction text generalizing before i with
  | nil => cases i <;> simp [Look.along]
  | cons c cs ih =>
    cases i with
    | zero => simp [Look.along]
    | succ i =>
      have last : (c :: cs.take i).getLast?.or before = (cs.take i).getLast?.or (some c) := by
        rw [List.getLast?_cons]
        cases (cs.take i).getLast? <;> rfl
      simp [Look.along, ih, last]

theorem Atom.carries (text : List Char) (a : Atom) :
    Carries (text.length + 1) (a.within text).apply (a.Spans text) := by
  intro p below j
  have shifted (mask : Positions) (distance : Nat) :
      ((⟨mask, distance⟩ : Move).apply p).Has j ↔
        ∃ i, p.Has i ∧ mask.Has i ∧ j = i + distance := by
    simp only [Move.apply, Positions.Has, Nat.testBit_shiftLeft, Nat.testBit_and,
      Bool.and_eq_true, decide_eq_true_eq]
    constructor
    · rintro ⟨le, has, masked⟩
      exact ⟨j - distance, has, masked, by omega⟩
    · rintro ⟨i, has, masked, rfl⟩
      simpa using ⟨has, masked⟩
  cases a with
  | chars set =>
    rw [Atom.within, shifted]
    refine exists_congr fun i => and_congr_right fun _ => ?_
    simp [Positions.has_ofFlags, Atom.Spans, and_comm]
  | look l =>
    rw [Atom.within, shifted]
    refine exists_congr fun i => and_congr_right fun has => ?_
    have inside : i ≤ text.length := Nat.le_of_lt_succ (below i has)
    simp [Positions.has_ofFlags, Atom.Spans, Look.getElem?_along, inside, and_comm]

theorem Regex.reach_rep (size : Nat) (r : Regex Move) (least : Nat) (most : Option Nat)
    (p : Positions) :
    (Regex.rep r least most).reach size p =
      Pattern.spread (r.reach size) (most.elim size (· - least))
        (repeated (r.reach size) least p) (repeated (r.reach size) least p) := by
  cases most <;> rfl

/-- The search carries positions along as the expression spans the text. -/
theorem Regex.carries (text : List Char) (r : Regex Atom) :
    Carries (text.length + 1) ((r.map (Atom.within text)).reach (text.length + 1))
      (r.Spans text) := by
  induction r with
  | empty => intro p _ j; simp [Regex.map, Regex.reach, Regex.Spans]
  | atom a => exact a.carries text
  | seq r s ih_r ih_s =>
    intro p below j
    rw [Regex.map, Regex.reach, ih_s _ (ih_r.below (r.stays text) below)]
    simp only [ih_r p below, Regex.Spans]
    constructor
    · rintro ⟨m, ⟨i, has, first⟩, second⟩
      exact ⟨i, has, m, first, second⟩
    · rintro ⟨i, has, m, first, second⟩
      exact ⟨m, ⟨i, has, first⟩, second⟩
  | alt r s ih_r ih_s =>
    intro p below j
    rw [Regex.map, Regex.reach, Positions.has_or, ih_r p below, ih_s p below, ← exists_or]
    exact exists_congr fun i => and_or_left.symm
  | rep r least most ih =>
    intro p below j
    have stays := r.stays text
    have first := ih.iterate stays least
    have first_below := first.below (stays.inSteps least) below
    rw [Regex.map, Regex.reach_rep, repeated_eq_iterate]
    rw [ih.spread stays _ first_below (fun _ has => has) (fun _ _ has new => absurd has new)]
    simp only [first p below, Regex.Spans]
    constructor
    · rintro ⟨k, le, m, ⟨i, has, before⟩, after⟩
      refine ⟨i, has, least + k, by omega, ?_, (inSteps_add_iff _ _ _ _).2 ⟨m, before, after⟩⟩
      rintro n rfl
      rw [Option.elim_some] at le
      omega
    · rintro ⟨i, has, k, enough, few, steps⟩
      obtain ⟨m, before, after⟩ := (inSteps_add_iff least (k - least) i j).1
        (by rwa [Nat.add_sub_cancel' enough])
      cases most with
      | some n =>
        have few := few n rfl
        exact ⟨k - least, by rw [Option.elim_some]; omega, m, ⟨i, has, before⟩, after⟩
      | none =>
        have inside : m < text.length + 1 := stays.inSteps least i m (below i has) before
        obtain ⟨l, lt, steps⟩ := after.exists_lt stays inside
        exact ⟨l, Nat.le_of_lt lt, m, ⟨i, has, before⟩, steps⟩
  | group r ih => exact ih

/-- The search finds out whether some part of the text matches. -/
theorem Regex.occursIn_iff (r : Regex Atom) (text : List Char) :
    r.occursIn text = true ↔ ∃ i j, i ≤ text.length ∧ r.Spans text i j := by
  have below : (Positions.firsts (text.length + 1)).Below (text.length + 1) :=
    fun i => (Positions.has_firsts _ i).1
  have found : r.occursIn text = true ↔ ∃ j,
      ((r.map (Atom.within text)).reach (text.length + 1)
        (Positions.firsts (text.length + 1))).Has j := by
    simp [Regex.occursIn, Positions.eq_zero_iff]
  rw [found]
  simp only [r.carries text _ below, Positions.has_firsts, Nat.lt_succ_iff]
  exact exists_comm

end FlagHost.Pattern
