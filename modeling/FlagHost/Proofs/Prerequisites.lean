import FlagHost.Evaluation
import Mathlib.Logic.Relation

/-!
# When prerequisites are met

A prerequisite is live if it names a flag that yields a variation, and satisfied if the value of
that variation is one of its values. `Chain n flag last` says that `last` is reached from `flag`
through `n` satisfied prerequisites, each of them one of the flag before. The prerequisites of a
flag hold if no chain from it has more than 32 parents and all live prerequisites of the flags on
its chains are satisfied. Main statement: this is what an evaluator checks, level by level, also
where flags require each other in circles.

What a flag yields is a parameter of the definitions, so that they can be read with the function of
an evaluator and with a relation that describes it.
-/

namespace FlagHost

namespace Configuration

/-- The prerequisite names a flag that yields something. -/
def Live (c : Configuration) (yields : Flag → Variation → Prop) (required : Prerequisite) : Prop :=
  ∃ parent v, c.flags.find? required.flag = some parent ∧ yields parent v

/-- The prerequisite names the flag, which yields one of the values asked for. -/
def SatisfiedBy (c : Configuration) (yields : Flag → Variation → Prop) (required : Prerequisite)
    (parent : Flag) : Prop :=
  c.flags.find? required.flag = some parent ∧ ∃ v, yields parent v ∧ v.value ∈ required.values

/-- All live prerequisites of the flag are satisfied. -/
def AllSatisfied (c : Configuration) (yields : Flag → Variation → Prop) (flag : Flag) : Prop :=
  ∀ required ∈ flag.prerequisites, c.Live yields required →
    ∃ parent, c.SatisfiedBy yields required parent

/-- The flags are linked by so many satisfied prerequisites. -/
inductive Chain (c : Configuration) (yields : Flag → Variation → Prop) :
    Nat → Flag → Flag → Prop where
  | here (flag : Flag) : Chain c yields 0 flag flag
  | step {n : Nat} {flag parent last : Flag} {required : Prerequisite}
      (mem : required ∈ flag.prerequisites) (satisfied : c.SatisfiedBy yields required parent)
      (more : Chain c yields n parent last) : Chain c yields (n + 1) flag last

/-- The prerequisites of the flag hold, and those of the flags that it requires, and so on. -/
def PrerequisitesHold (c : Configuration) (yields : Flag → Variation → Prop) (flag : Flag) : Prop :=
  ∀ n last, c.Chain yields n flag last → n ≤ 32 ∧ c.AllSatisfied yields last

variable {c : Configuration} {yields : Flag → Variation → Prop}

namespace Chain

theorem append {m n : Nat} {flag middle last : Flag} (h : c.Chain yields m flag middle)
    (h' : c.Chain yields n middle last) : c.Chain yields (m + n) flag last := by
  induction h with
  | here flag =>
    rw [Nat.zero_add]
    exact h'
  | step mem satisfied _ ih =>
    rw [Nat.add_right_comm]
    exact .step mem satisfied (ih h')

/-- The first links of a chain are a chain. -/
theorem take {m n : Nat} {flag last : Flag} (h : c.Chain yields n flag last) (le : m ≤ n) :
    ∃ middle, c.Chain yields m flag middle := by
  induction h generalizing m with
  | here flag =>
    obtain rfl := Nat.le_zero.1 le
    exact ⟨flag, .here flag⟩
  | step mem satisfied _ ih =>
    cases m with
    | zero => exact ⟨_, .here _⟩
    | succ m =>
      obtain ⟨middle, more⟩ := ih (Nat.le_of_succ_le_succ le)
      exact ⟨middle, .step mem satisfied more⟩

/-- A circle can be run through as often as one likes. -/
theorem replicate {m : Nat} {flag : Flag} (h : c.Chain yields m flag flag) (times : Nat) :
    c.Chain yields (m * times) flag flag := by
  induction times with
  | zero => exact .here flag
  | succ times ih => exact ih.append h

end Chain

/-- A flag whose chains have a flag too many has prerequisites that do not hold. -/
theorem PrerequisitesHold.not_of_chain {n : Nat} {flag last : Flag}
    (h : c.Chain yields n flag last) (long : 32 < n) : ¬ c.PrerequisitesHold yields flag := by
  intro hold
  exact Nat.not_lt.2 (hold n last h).1 long

/-- A flag from which a circle is reached has chains of any length. -/
theorem PrerequisitesHold.not_of_circle {m n : Nat} {flag parent : Flag}
    (reached : c.Chain yields m flag parent) (circle : c.Chain yields (n + 1) parent parent) :
    ¬ c.PrerequisitesHold yields flag := by
  refine PrerequisitesHold.not_of_chain (reached.append (circle.replicate 33)) ?_
  omega

end Configuration

namespace Evaluator

/-- The flag yields the variation, its prerequisites apart. -/
def Yields (e : Evaluator) (target : Target) (flag : Flag) (v : Variation) : Prop :=
  e.targeted? target flag = some v

variable {e : Evaluator} {target : Target}

/-- A live prerequisite can be satisfied by the flag that it names only. -/
theorem satisfiedBy_iff {required : Prerequisite} {parent : Flag} {v : Variation}
    (found : e.configuration.flags.find? required.flag = some parent)
    (yielded : e.targeted? target parent = some v) (p : Flag) :
    e.configuration.SatisfiedBy (e.Yields target) required p ↔
      p = parent ∧ v.value ∈ required.values := by
  constructor
  · rintro ⟨found', w, yielded', value⟩
    obtain rfl : parent = p := Option.some.inj (found.symm.trans found')
    obtain rfl : v = w := Option.some.inj (yielded.symm.trans yielded')
    exact ⟨rfl, value⟩
  · rintro ⟨rfl, value⟩
    exact ⟨found, v, yielded, value⟩

/-- What is checked of a single prerequisite. -/
theorem prerequisitesMet_succ (levels : Nat) (flag : Flag) :
    e.prerequisitesMet target (levels + 1) flag = true ↔
      ∀ required ∈ flag.prerequisites, e.configuration.Live (e.Yields target) required →
        ∃ parent, e.configuration.SatisfiedBy (e.Yields target) required parent ∧
          e.prerequisitesMet target levels parent = true := by
  rw [prerequisitesMet, List.all_eq_true]
  refine forall₂_congr fun required _ => ?_
  cases found : e.configuration.flags.find? required.flag with
  | none => simp [Configuration.Live, found]
  | some parent =>
    cases yielded : e.targeted? target parent with
    | none => simp [Configuration.Live, Yields, found, yielded]
    | some v =>
      have live : e.configuration.Live (e.Yields target) required := ⟨parent, v, found, yielded⟩
      simp [live, satisfiedBy_iff found yielded, yielded, and_assoc]

/-- The levels that are left bound the chains that are left. -/
theorem prerequisitesMet_iff (levels : Nat) (flag : Flag) :
    e.prerequisitesMet target levels flag = true ↔
      ∀ n last, e.configuration.Chain (e.Yields target) n flag last →
        n < levels ∧ e.configuration.AllSatisfied (e.Yields target) last := by
  induction levels generalizing flag with
  | zero =>
    constructor
    · intro h
      simp [prerequisitesMet] at h
    · intro h
      exact absurd (h 0 flag (.here flag)).1 (Nat.not_lt_zero 0)
  | succ levels ih =>
    rw [prerequisitesMet_succ]
    constructor
    · intro h n last chain
      cases chain with
      | here =>
        refine ⟨Nat.succ_pos levels, fun required mem live => ?_⟩
        obtain ⟨parent, satisfied, _⟩ := h required mem live
        exact ⟨parent, satisfied⟩
      | step mem satisfied more =>
        obtain ⟨found, v, yielded, value⟩ := satisfied
        obtain ⟨parent, ⟨found', _⟩, met⟩ := h _ mem ⟨_, v, found, yielded⟩
        obtain rfl : _ = parent := Option.some.inj (found.symm.trans found')
        obtain ⟨bound, all⟩ := (ih _).1 met _ _ more
        exact ⟨Nat.succ_lt_succ bound, all⟩
    · intro h required mem live
      obtain ⟨parent, satisfied⟩ := (h 0 flag (.here flag)).2 required mem live
      refine ⟨parent, satisfied, (ih parent).2 fun n last more => ?_⟩
      obtain ⟨bound, all⟩ := h (n + 1) last (.step mem satisfied more)
      exact ⟨Nat.lt_of_succ_lt_succ bound, all⟩

theorem prerequisitesMet_iff_hold (flag : Flag) :
    e.prerequisitesMet target prerequisiteLevels flag = true ↔
      e.configuration.PrerequisitesHold (e.Yields target) flag := by
  rw [prerequisitesMet_iff]
  exact forall₃_congr fun n last _ => and_congr_left fun _ => Nat.lt_succ_iff

/-- A flag whose prerequisites do not hold serves its off variation. -/
theorem evaluate_of_not_hold {key : String} {flag : Flag}
    (found : e.configuration.flags.find? key = some flag)
    (h : ¬ e.configuration.PrerequisitesHold (e.Yields target) flag) :
    e.evaluate key target flag.kind = flag.variation? flag.offVariation := by
  rw [← prerequisitesMet_iff_hold] at h
  simp [evaluate, found, h]

/-- A prerequisite that is not live does not count. -/
theorem prerequisitesMet_insert {required : Prerequisite} {flag : Flag}
    {before after : List Prerequisite} (dead : ¬ e.configuration.Live (e.Yields target) required)
    (levels : Nat) :
    e.prerequisitesMet target levels { flag with prerequisites := before ++ required :: after } =
      e.prerequisitesMet target levels { flag with prerequisites := before ++ after } := by
  cases levels with
  | zero => rfl
  | succ levels =>
    rw [Bool.eq_iff_iff, prerequisitesMet_succ, prerequisitesMet_succ]
    simp [or_imp, forall_and, dead]

/-- The exact meaning of the check of prerequisites. A circle that is reached through satisfied
prerequisites, or a chain of 33 parents, costs a flag its prerequisites; chains of up to 32 do not,
and prerequisites that are not live never do. -/
theorem prerequisitesMet_iff_chains (e : Evaluator) (target : Target) :
    (∀ flag, e.prerequisitesMet target prerequisiteLevels flag = true ↔
      ∀ n last, e.configuration.Chain (e.Yields target) n flag last →
        n ≤ 32 ∧ e.configuration.AllSatisfied (e.Yields target) last) ∧
    (∀ key flag parent m n, e.configuration.flags.find? key = some flag →
      e.configuration.Chain (e.Yields target) m flag parent →
      e.configuration.Chain (e.Yields target) (n + 1) parent parent →
      e.evaluate key target flag.kind = flag.variation? flag.offVariation) ∧
    (∀ key flag parent, e.configuration.flags.find? key = some flag →
      e.configuration.Chain (e.Yields target) 33 flag parent →
      e.evaluate key target flag.kind = flag.variation? flag.offVariation) ∧
    (∀ flag, (∀ parent, ¬ e.configuration.Chain (e.Yields target) 33 flag parent) →
      (∀ n last, e.configuration.Chain (e.Yields target) n flag last →
        e.configuration.AllSatisfied (e.Yields target) last) →
      e.prerequisitesMet target prerequisiteLevels flag = true) ∧
    (∀ (flag : Flag) required before after,
      ¬ e.configuration.Live (e.Yields target) required →
      e.prerequisitesMet target prerequisiteLevels
          { flag with prerequisites := before ++ required :: after } =
        e.prerequisitesMet target prerequisiteLevels
          { flag with prerequisites := before ++ after }) := by
  refine ⟨prerequisitesMet_iff_hold, ?_, ?_, ?_, ?_⟩
  · intro key flag parent m n found reached circle
    exact evaluate_of_not_hold found (Configuration.PrerequisitesHold.not_of_circle reached circle)
  · intro key flag parent found chain
    exact evaluate_of_not_hold found
      (Configuration.PrerequisitesHold.not_of_chain chain (Nat.lt_succ_self 32))
  · intro flag short all
    refine (prerequisitesMet_iff_hold flag).2 fun n last chain => ⟨?_, all n last chain⟩
    refine Nat.le_of_not_lt fun long => ?_
    obtain ⟨middle, too_long⟩ := chain.take (Nat.succ_le_of_lt long)
    exact short middle too_long
  · intro flag required before after dead
    exact prerequisitesMet_insert dead prerequisiteLevels

/-- A flag of a ladder, which requires the flag above it. -/
def rung (height n : Nat) : Flag where
  key := toString n
  kind := .boolean
  state := .on
  variations := [⟨"on", "true", none⟩, ⟨"off", "false", none⟩]
  offVariation := "off"
  defaultServe := { variation := some "on" }
  prerequisites := if n < height then [⟨toString (n + 1), ["true"]⟩] else []

def ladder (height : Nat) : Configuration where
  flags := (List.range (height + 1)).map fun n => (toString n, rung height n)

example : prerequisitesMet ⟨ladder 32, fun _ => 1⟩ { identifier := "ann" } prerequisiteLevels
    (rung 32 0) = true := by
  decide +kernel

example : prerequisitesMet ⟨ladder 33, fun _ => 1⟩ { identifier := "ann" } prerequisiteLevels
    (rung 33 0) = false := by
  decide +kernel

end Evaluator

end FlagHost
