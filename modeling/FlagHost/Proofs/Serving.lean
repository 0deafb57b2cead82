import FlagHost.Bucket
import FlagHost.Proofs.Prerequisites
import FlagHost.Proofs.Targeting

/-!
# What a flag serves

The whole of evaluation as a relation that does not run. `Answers e key target kind answer` says
that `answer` is what is served under a key: nothing if there is no flag of the kind, if the flag
chooses no identifier, or if it chooses one that none of its variations has; else the first
variation with the identifier. Main statement: if no segment refers to itself, this is what an
evaluator answers.
-/

namespace FlagHost

namespace Evaluator

/-- The identifier of the variation that the flag serves to the target. -/
def Chooses (e : Evaluator) (target : Target) (flag : Flag) (id : String) : Prop :=
  (flag.state = .off ∨ ¬ e.configuration.PrerequisitesHold (e.Resolves target) flag) ∧
      id = flag.offVariation ∨
    flag.state = .on ∧ e.configuration.PrerequisitesHold (e.Resolves target) flag ∧
      e.Picks target flag id

/-- What is served to the target under a key. -/
inductive Answers (e : Evaluator) (key : String) (target : Target) (kind : Flag.Kind) :
    Option Variation → Prop where
  | unknown (absent : e.configuration.flags.find? key = none) : Answers e key target kind none
  | otherKind {flag : Flag} (found : e.configuration.flags.find? key = some flag)
      (other : flag.kind ≠ kind) : Answers e key target kind none
  | undecided {flag : Flag} (found : e.configuration.flags.find? key = some flag)
      (same : flag.kind = kind) (nothing : ∀ id, ¬ e.Chooses target flag id) :
      Answers e key target kind none
  | unlisted {flag : Flag} {id : String} (found : e.configuration.flags.find? key = some flag)
      (same : flag.kind = kind) (chooses : e.Chooses target flag id)
      (unlisted : ∀ v ∈ flag.variations, v.identifier ≠ id) : Answers e key target kind none
  | served {flag : Flag} {id : String} {v : Variation}
      (found : e.configuration.flags.find? key = some flag) (same : flag.kind = kind)
      (chooses : e.Chooses target flag id)
      (first : FirstSuch (·.identifier = id) flag.variations v) :
      Answers e key target kind (some v)

variable {e : Evaluator} {target : Target}

theorem evaluate_of_find? {key : String} {flag : Flag} {kind : Flag.Kind}
    (found : e.configuration.flags.find? key = some flag) (same : flag.kind = kind) :
    e.evaluate key target kind =
      (if e.prerequisitesMet target prerequisiteLevels flag then e.selected? target flag
        else some flag.offVariation).bind flag.variation? := by
  unfold evaluate
  rw [found]
  by_cases met : e.prerequisitesMet target prerequisiteLevels flag = true
  · simp [same, met, targeted?]
  · simp [same, met]

/-- What is served is one of the variations of the flag. -/
theorem exists_of_evaluate {key : String} {kind : Flag.Kind} {v : Variation}
    (served : e.evaluate key target kind = some v) :
    ∃ flag, e.configuration.flags.find? key = some flag ∧ flag.kind = kind ∧
      v ∈ flag.variations := by
  cases found : e.configuration.flags.find? key with
  | none => simp [evaluate, found] at served
  | some flag =>
    by_cases same : flag.kind = kind
    · rw [evaluate_of_find? found same, Option.bind_eq_some_iff] at served
      obtain ⟨id, -, listed⟩ := served
      exact ⟨flag, rfl, same, List.mem_of_find?_eq_some listed⟩
    · simp [evaluate, found, same] at served

theorem yields_eq_resolves (acyclic : e.configuration.SegmentsAcyclic) :
    e.Yields target = e.Resolves target := by
  funext flag v
  exact propext (targeted?_eq_some_iff acyclic flag v)

theorem chooses_iff (acyclic : e.configuration.SegmentsAcyclic) (flag : Flag) (id : String) :
    (if e.prerequisitesMet target prerequisiteLevels flag then e.selected? target flag
      else some flag.offVariation) = some id ↔ e.Chooses target flag id := by
  have met : e.prerequisitesMet target prerequisiteLevels flag = true ↔
      e.configuration.PrerequisitesHold (e.Yields target) flag := prerequisitesMet_iff_hold flag
  rw [yields_eq_resolves acyclic] at met
  unfold Chooses
  by_cases hold : e.configuration.PrerequisitesHold (e.Resolves target) flag
  · rw [if_pos (met.2 hold), selected?_eq_some_iff acyclic, Selects]
    simp [hold]
  · rw [if_neg (mt met.1 hold)]
    simp [hold, eq_comm]

/-- Evaluation answers exactly what the relation says. -/
theorem evaluate_eq_iff (acyclic : e.configuration.SegmentsAcyclic) (key : String)
    (kind : Flag.Kind) (answer : Option Variation) :
    e.evaluate key target kind = answer ↔ e.Answers key target kind answer := by
  have first (flag : Flag) (id : String) (v : Variation) :
      flag.variation? id = some v ↔ FirstSuch (·.identifier = id) flag.variations v :=
    find?_eq_some_iff_firstSuch (by simp) flag.variations v
  have unlisted (flag : Flag) (id : String) :
      flag.variation? id = none ↔ ∀ v ∈ flag.variations, v.identifier ≠ id :=
    find?_eq_none_iff_forall (by simp) flag.variations
  constructor
  · rintro rfl
    cases found : e.configuration.flags.find? key with
    | none =>
      rw [evaluate, found]
      exact .unknown found
    | some flag =>
      by_cases same : flag.kind = kind
      · rw [evaluate_of_find? found same]
        cases chosen : if e.prerequisitesMet target prerequisiteLevels flag then
            e.selected? target flag else some flag.offVariation with
        | none =>
          refine .undecided found same fun id chooses => ?_
          rw [← chooses_iff acyclic, chosen] at chooses
          contradiction
        | some id =>
          have chooses := (chooses_iff acyclic flag id).1 chosen
          rw [Option.bind_some]
          cases listed : flag.variation? id with
          | none => exact .unlisted found same chooses ((unlisted flag id).1 listed)
          | some v => exact .served found same chooses ((first flag id v).1 listed)
      · rw [evaluate, found]
        simpa [same] using Answers.otherKind found same
  · intro answers
    cases answers with
    | unknown absent => simp [evaluate, absent]
    | otherKind found other => simp [evaluate, found, other]
    | undecided found same nothing =>
      rw [evaluate_of_find? found same, Option.bind_eq_none_iff]
      intro id chosen
      exact absurd ((chooses_iff acyclic _ id).1 chosen) (nothing id)
    | unlisted found same chooses unlisted' =>
      rw [evaluate_of_find? found same, (chooses_iff acyclic _ _).2 chooses, Option.bind_some]
      exact (unlisted _ _).2 unlisted'
    | served found same chooses first' =>
      rw [evaluate_of_find? found same, (chooses_iff acyclic _ _).2 chooses, Option.bind_some]
      exact (first _ _ _).2 first'

/-- Testers are the staff, and a flag for testers requires another one. -/
def testing : Configuration where
  segments :=
    [("staff", { identifier := "staff", included := [⟨"ann", none⟩] }),
     ("testers", {
        identifier := "testers"
        rules := [{ op := "segmentMatch", values := ["staff"] }] })]
  flags :=
    [("checkout", {
        key := "checkout"
        kind := .string
        state := .on
        variations := [⟨"old", "v1", none⟩, ⟨"new", "v2", none⟩, ⟨"next", "v3", none⟩]
        offVariation := "old"
        defaultServe := { variation := some "old" }
        rules :=
          [{ priority := 2, clauses := [], serve := { variation := some "next" } },
           { priority := 1
             clauses := [{ op := "segmentMatch", values := ["nobody", "testers"] }]
             serve := { variation := some "new" } },
           { priority := 0, clauses := [], serve := {} }]
        prerequisites := [⟨"release", ["open"]⟩, ⟨"missing", []⟩] }),
     ("release", {
        key := "release"
        kind := .string
        state := .on
        variations := [⟨"on", "open", none⟩, ⟨"off", "closed", none⟩]
        offVariation := "off"
        defaultServe := { distribution := some ⟨"identifier", [⟨"on", 100⟩]⟩ } })]

theorem testing_acyclic : testing.SegmentsAcyclic := by
  refine Configuration.SegmentsAcyclic.of_rank (fun id => if id = "testers" then 1 else 0) ?_
  rintro a b ⟨segment, clause, found, mem, op, asked, known⟩
  simp only [testing, Table.find?_cons, Table.find?_nil] at found
  split at found
  · obtain rfl := Option.some.inj found
    simp at mem
  · split at found
    · subst a
      obtain rfl := Option.some.inj found
      obtain rfl : clause = _ := List.mem_singleton.1 mem
      obtain rfl : b = "staff" := List.mem_singleton.1 asked
      decide
    · contradiction

theorem evaluate_eq_iff_testing :
    testing.SegmentsAcyclic ∧
      Answers ⟨testing, percentBucket⟩ "checkout" { identifier := "ann" } .string
        (some ⟨"new", "v2", none⟩) := by
  have served : Evaluator.evaluate ⟨testing, percentBucket⟩ "checkout" { identifier := "ann" }
      .string = some ⟨"new", "v2", none⟩ := by decide +kernel
  exact ⟨testing_acyclic, (evaluate_eq_iff testing_acyclic "checkout" .string _).1 served⟩

end Evaluator

end FlagHost
