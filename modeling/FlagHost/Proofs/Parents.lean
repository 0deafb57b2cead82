import FlagHost.Bucket
import FlagHost.Proofs.Prerequisites

/-!
# What required flags serve

Prerequisites are checked against what the required flags yield, which leaves out the prerequisites
of those; what is served takes them into account. Main statement: where the check succeeds this
makes no difference. The flag has a value asked for, and that value is the one it serves, and the
same goes for the flags that it requires in turn, however they are linked.

The check descends level by level, and a required flag is left fewer levels than it has when it is
evaluated itself. That is why what is met at some levels must be met at more.
-/

namespace FlagHost

namespace Evaluator

open Relation (ReflTransGen)

/-- The flag has the other one as a prerequisite, which yields something. -/
def Requires (e : Evaluator) (target : Target) (flag parent : Flag) : Prop :=
  ∃ required ∈ flag.prerequisites,
    e.configuration.flags.find? required.flag = some parent ∧ ∃ v, e.Yields target parent v

/-- What the flags yield that this one requires is among the values asked for, and is what they
serve. -/
def Honoured (e : Evaluator) (target : Target) (flag : Flag) : Prop :=
  ∀ required ∈ flag.prerequisites, ∀ parent v,
    e.configuration.flags.find? required.flag = some parent → e.Yields target parent v →
    e.evaluate required.flag target parent.kind = some v ∧ v.value ∈ required.values

variable {e : Evaluator} {target : Target} {flag parent behind : Flag}

/-- More levels to follow do not hurt. -/
theorem prerequisitesMet_mono {m n : Nat} (le : m ≤ n)
    (met : e.prerequisitesMet target m flag = true) : e.prerequisitesMet target n flag = true := by
  rw [prerequisitesMet_iff] at met ⊢
  intro length last chain
  obtain ⟨bound, all⟩ := met length last chain
  exact ⟨Nat.lt_of_lt_of_le bound le, all⟩

/-- A flag whose prerequisites are met serves what it yields. -/
theorem evaluate_of_met {key : String} (found : e.configuration.flags.find? key = some flag)
    (met : e.prerequisitesMet target prerequisiteLevels flag = true) :
    e.evaluate key target flag.kind = e.targeted? target flag := by
  simp [evaluate, found, met]

/-- A single prerequisite of a flag whose prerequisites are met. -/
theorem met_of_mem {levels : Nat} {required : Prerequisite} {v : Variation}
    (met : e.prerequisitesMet target (levels + 1) flag = true)
    (mem : required ∈ flag.prerequisites)
    (found : e.configuration.flags.find? required.flag = some parent)
    (yielded : e.Yields target parent v) :
    v.value ∈ required.values ∧ e.prerequisitesMet target levels parent = true := by
  have live : e.configuration.Live (e.Yields target) required := ⟨parent, v, found, yielded⟩
  obtain ⟨p, satisfied, deeper⟩ := (prerequisitesMet_succ levels flag).1 met required mem live
  obtain ⟨rfl, value⟩ := (satisfiedBy_iff found yielded p).1 satisfied
  exact ⟨value, deeper⟩

/-- The prerequisites of the flags that a flag requires are met if its own ones are. -/
theorem Requires.met (h : e.Requires target flag parent)
    (met : e.prerequisitesMet target prerequisiteLevels flag = true) :
    e.prerequisitesMet target prerequisiteLevels parent = true := by
  obtain ⟨required, mem, found, v, yielded⟩ := h
  exact prerequisitesMet_mono (Nat.le_succ 32) (met_of_mem met mem found yielded).2

theorem met_of_reached (reached : ReflTransGen (e.Requires target) flag behind)
    (met : e.prerequisitesMet target prerequisiteLevels flag = true) :
    e.prerequisitesMet target prerequisiteLevels behind = true := by
  induction reached with
  | refl => exact met
  | tail _ step ih => exact step.met ih

theorem Honoured.of_met (met : e.prerequisitesMet target prerequisiteLevels flag = true) :
    e.Honoured target flag := by
  intro required mem parent v found yielded
  obtain ⟨value, deeper⟩ := met_of_mem met mem found yielded
  have whole : e.prerequisitesMet target prerequisiteLevels parent = true :=
    prerequisitesMet_mono (Nat.le_succ 32) deeper
  exact ⟨(evaluate_of_met found whole).trans yielded, value⟩

/-- Where prerequisites are met, all flags behind them serve the values that they are met by. So a
flag behind which there is one that does not is switched off. -/
theorem honoured_of_met (e : Evaluator) (target : Target) :
    (∀ flag behind, e.prerequisitesMet target prerequisiteLevels flag = true →
      ReflTransGen (e.Requires target) flag behind → e.Honoured target behind) ∧
    (∀ key flag behind, e.configuration.flags.find? key = some flag →
      ReflTransGen (e.Requires target) flag behind → ¬ e.Honoured target behind →
      e.evaluate key target flag.kind = flag.variation? flag.offVariation) := by
  constructor
  · intro flag behind met reached
    exact Honoured.of_met (met_of_reached reached met)
  · intro key flag behind found reached broken
    have unmet : ¬ e.configuration.PrerequisitesHold (e.Yields target) flag := by
      rw [← prerequisitesMet_iff_hold]
      exact fun met => broken (Honoured.of_met (met_of_reached reached met))
    exact evaluate_of_not_hold found unmet

/-- A shop whose checkout requires a release, which requires that the shop is open. -/
def shop : Configuration where
  flags := [("checkout", storey "checkout" [⟨"release", ["true"]⟩]),
    ("open", storey "open" []), ("release", storey "release" [⟨"open", ["true", "maybe"]⟩])]
where
  storey (key : String) (prerequisites : List Prerequisite) : Flag :=
    { key, kind := .boolean, state := .on
      variations := [⟨"on", "true", none⟩, ⟨"off", "false", none⟩], offVariation := "off"
      defaultServe := { variation := some "on" }, prerequisites }

theorem honoured_of_met_shop :
    let e : Evaluator := ⟨shop, percentBucket⟩
    let ann : Target := { identifier := "ann" }
    let checkout := shop.storey "checkout" [⟨"release", ["true"]⟩]
    let release := shop.storey "release" [⟨"open", ["true", "maybe"]⟩]
    e.prerequisitesMet ann prerequisiteLevels checkout = true ∧
      e.Requires ann checkout release ∧
      e.evaluate "release" ann .boolean = some ⟨"on", "true", none⟩ ∧
      e.evaluate "open" ann .boolean = some ⟨"on", "true", none⟩ := by
  intro e ann checkout release
  have met : e.prerequisitesMet ann prerequisiteLevels checkout = true := by decide +kernel
  have requires : e.Requires ann checkout release :=
    ⟨⟨"release", ["true"]⟩, by decide +kernel, by decide +kernel, ⟨"on", "true", none⟩,
      by unfold Yields; decide +kernel⟩
  have first := (honoured_of_met e ann).1 checkout checkout met .refl
  have second := (honoured_of_met e ann).1 checkout release met (.single requires)
  refine ⟨met, requires, ?_, ?_⟩
  · exact (first ⟨"release", ["true"]⟩ (by decide +kernel) release _ (by decide +kernel)
      (by unfold Yields; decide +kernel)).1
  · exact (second ⟨"open", ["true", "maybe"]⟩ (by decide +kernel) (shop.storey "open" []) _
      (by decide +kernel) (by unfold Yields; decide +kernel)).1

end Evaluator

end FlagHost
