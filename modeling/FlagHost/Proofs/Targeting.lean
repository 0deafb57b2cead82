import FlagHost.Proofs.Membership
import FlagHost.Proofs.RuleOrder

/-!
# What a flag yields to a target

The rules by which a flag picks a variation for a target, its prerequisites apart, as relations
that do not run: what a target draws from a rollout, which rules apply to it, which target maps
cover it, and which identifier is picked. A rule that serves nothing never applies, a rule whose
rollout is empty keeps the other rules from being tried, and the default decides in both cases if
nothing else does. Main statement: if no segment refers to itself, an evaluator picks exactly these
identifiers.
-/

namespace FlagHost

/-- The weight lets the bucket in. -/
def WeightedVariation.Admits (bucket : Nat) (w : WeightedVariation) : Prop :=
  0 < w.weight ∧ bucket ≤ w.weight.toNat

namespace Evaluator

/-- The target draws the variation from the rollout. -/
inductive Draws (e : Evaluator) (target : Target) (rollout : Distribution) : String → Prop where
  | withoutAttribute {last : WeightedVariation}
      (absent : target.attribute? rollout.bucketBy = none)
      (at_end : rollout.variations.getLast? = some last) : Draws e target rollout last.variation
  | admitted {value : String} {w : WeightedVariation}
      (present : target.attribute? rollout.bucketBy = some value)
      (first : FirstSuch (WeightedVariation.Admits (e.bucket (rollout.bucketBy ++ ":" ++ value)))
        rollout.variations w) : Draws e target rollout w.variation
  | refused {value : String} {last : WeightedVariation}
      (present : target.attribute? rollout.bucketBy = some value)
      (closed : ∀ w ∈ rollout.variations, ¬ w.Admits (e.bucket (rollout.bucketBy ++ ":" ++ value)))
      (at_end : rollout.variations.getLast? = some last) : Draws e target rollout last.variation

/-- The target is served the variation: what it draws from the rollout if there is one, else the
variation that is named. -/
inductive Provides (e : Evaluator) (target : Target) (serve : Serve) : String → Prop where
  | drawn {rollout : Distribution} {id : String} (rolls : serve.distribution = some rollout)
      (draws : e.Draws target rollout id) : Provides e target serve id
  | named {id : String} (fixed : serve.distribution = none) (name : serve.variation = some id) :
      Provides e target serve id

/-- All clauses of the rule hold for the target, and it serves something. -/
def Applies (e : Evaluator) (target : Target) (rule : Rule) : Prop :=
  (∀ clause ∈ rule.clauses, e.configuration.ClauseHolds target clause) ∧
    (rule.serve.distribution ≠ none ∨ rule.serve.variation ≠ none)

/-- The target, or a segment with it, is listed in the map. -/
def Covers (e : Evaluator) (target : Target) (map : TargetMap) : Prop :=
  target.Listed map.targets ∨ e.configuration.InSome target map.segments

/-- No rule decides: none applies, or the one that comes first has an empty rollout. -/
def Unruled (e : Evaluator) (target : Target) (rules : List Rule) : Prop :=
  ∀ rule, Rule.LeastRule (e.Applies target) rules rule →
    ∃ rollout, rule.serve.distribution = some rollout ∧ rollout.variations = []

/-- The variation that a flag picks for the target while it is on. -/
inductive Picks (e : Evaluator) (target : Target) (flag : Flag) : String → Prop where
  | mapped {map : TargetMap} (first : FirstSuch (e.Covers target) flag.targetMaps map) :
      Picks e target flag map.variation
  | ruled {rule : Rule} {id : String} (unmapped : ∀ map ∈ flag.targetMaps, ¬ e.Covers target map)
      (least : Rule.LeastRule (e.Applies target) flag.rules rule)
      (provides : e.Provides target rule.serve id) : Picks e target flag id
  | drawn {rollout : Distribution} {id : String}
      (unmapped : ∀ map ∈ flag.targetMaps, ¬ e.Covers target map)
      (unruled : e.Unruled target flag.rules)
      (rolls : flag.defaultServe.distribution = some rollout)
      (draws : e.Draws target rollout id) : Picks e target flag id
  | named {id : String} (unmapped : ∀ map ∈ flag.targetMaps, ¬ e.Covers target map)
      (unruled : e.Unruled target flag.rules)
      (empty : ∀ rollout, flag.defaultServe.distribution = some rollout → rollout.variations = [])
      (name : flag.defaultServe.variation = some id) : Picks e target flag id

/-- The variation that a flag picks for the target, its prerequisites apart. -/
def Selects (e : Evaluator) (target : Target) (flag : Flag) (id : String) : Prop :=
  flag.state = .off ∧ id = flag.offVariation ∨ flag.state = .on ∧ e.Picks target flag id

/-- The flag yields the variation to the target, its prerequisites apart: the first one with the
identifier that it picks. -/
def Resolves (e : Evaluator) (target : Target) (flag : Flag) (v : Variation) : Prop :=
  ∃ id, e.Selects target flag id ∧ FirstSuch (·.identifier = id) flag.variations v

variable {e : Evaluator} {target : Target}

theorem draw?_eq_none_iff (rollout : Distribution) :
    e.draw? target rollout = none ↔ rollout.variations = [] := by
  unfold draw?
  cases at_end : rollout.variations.getLast? with
  | none => simpa using at_end
  | some last =>
    have some_variation : rollout.variations ≠ [] := by
      intro empty
      simp [empty] at at_end
    cases target.attribute? rollout.bucketBy <;> simp [some_variation]

theorem draw?_eq_some_iff (rollout : Distribution) (id : String) :
    e.draw? target rollout = some id ↔ e.Draws target rollout id := by
  have admits (bucket : Nat) (w : WeightedVariation) :
      (decide (0 < w.weight) && decide (bucket ≤ w.weight.toNat)) = true ↔ w.Admits bucket := by
    simp [WeightedVariation.Admits]
  constructor
  · intro h
    unfold draw? at h
    cases at_end : rollout.variations.getLast? with
    | none => simp [at_end] at h
    | some last =>
      cases asked : target.attribute? rollout.bucketBy with
      | none =>
        obtain rfl : last.variation = id := by simpa [at_end, asked] using h
        exact .withoutAttribute asked at_end
      | some value =>
        simp only [at_end, asked] at h
        obtain rfl := Option.some.inj h
        cases drawn : rollout.variations.find? fun w =>
            decide (0 < w.weight) &&
              decide (e.bucket (rollout.bucketBy ++ ":" ++ value) ≤ w.weight.toNat) with
        | none =>
          exact .refused asked ((find?_eq_none_iff_forall (admits _) _).1 drawn) at_end
        | some w =>
          exact .admitted asked ((find?_eq_some_iff_firstSuch (admits _) _ w).1 drawn)
  · intro h
    unfold draw?
    cases h with
    | withoutAttribute absent at_end => simp [absent, at_end]
    | admitted present first =>
      obtain ⟨_, before, after, split, _⟩ := id first
      have some_variation : rollout.variations ≠ [] := by simp [split]
      have at_end := List.getLast?_eq_some_getLast some_variation
      rw [← find?_eq_some_iff_firstSuch (admits _)] at first
      simp [present, at_end, first]
    | refused present closed at_end =>
      rw [← find?_eq_none_iff_forall (admits _)] at closed
      simp [present, at_end, closed]

theorem served?_eq_some_iff (serve : Serve) (id : String) :
    e.served? target serve = some id ↔ e.Provides target serve id := by
  unfold served?
  constructor
  · intro h
    cases rolls : serve.distribution with
    | none => exact .named rolls (by simpa [rolls] using h)
    | some rollout =>
      rw [rolls] at h
      exact .drawn rolls ((draw?_eq_some_iff rollout id).1 h)
  · intro h
    cases h with
    | drawn rolls draws => simpa [rolls] using (draw?_eq_some_iff _ id).2 draws
    | named fixed name => simpa [fixed] using name

/-- A rule that serves something serves nothing only if its rollout is empty. -/
theorem served?_eq_none_iff {serve : Serve}
    (something : serve.distribution ≠ none ∨ serve.variation ≠ none) :
    e.served? target serve = none ↔
      ∃ rollout, serve.distribution = some rollout ∧ rollout.variations = [] := by
  unfold served?
  cases rolls : serve.distribution with
  | none =>
    rw [rolls] at something
    simpa using something
  | some rollout => simp [draw?_eq_none_iff]

/-- The rules are gone through for the first one that applies. -/
theorem ruled?_eq_bind (rules : List Rule) :
    e.ruled? target rules =
      (rules.find? fun rule => rule.clauses.all (e.clauseHolds target) &&
        (rule.serve.distribution.isSome || rule.serve.variation.isSome)).bind
        fun rule => e.served? target rule.serve := by
  induction rules with
  | nil => rfl
  | cons rule rules ih =>
    rw [ruled?, List.find?_cons]
    cases rule.clauses.all (e.clauseHolds target) &&
        (rule.serve.distribution.isSome || rule.serve.variation.isSome) with
    | true => rfl
    | false => exact ih

theorem defaulted?_eq_some_iff (serve : Serve) (id : String) :
    e.defaulted? target serve = some id ↔
      (∃ rollout, serve.distribution = some rollout ∧ e.Draws target rollout id) ∨
        (∀ rollout, serve.distribution = some rollout → rollout.variations = []) ∧
          serve.variation = some id := by
  rw [defaulted?, Option.orElse_eq_orElse, Option.orElse_eq_or, Option.or_eq_some_iff,
    Option.bind_eq_some_iff, Option.bind_eq_none_iff]
  simp only [draw?_eq_some_iff, draw?_eq_none_iff]

section Acyclic

variable (acyclic : e.configuration.SegmentsAcyclic)
include acyclic

theorem applies_iff (rule : Rule) :
    (rule.clauses.all (e.clauseHolds target) &&
        (rule.serve.distribution.isSome || rule.serve.variation.isSome)) = true ↔
      e.Applies target rule := by
  simp [Applies, clauseHolds_iff acyclic, Option.isSome_iff_ne_none]

theorem covers_iff (map : TargetMap) :
    (target.isListed map.targets || e.inSegments target map.segments) = true ↔
      e.Covers target map := by
  rw [Bool.or_eq_true, Target.isListed_iff, inSegments_iff acyclic, Covers]

theorem mapped?_eq_some_iff (maps : List TargetMap) (id : String) :
    e.mapped? target maps = some id ↔
      ∃ map, FirstSuch (e.Covers target) maps map ∧ map.variation = id := by
  rw [mapped?, Option.map_eq_some_iff]
  exact exists_congr fun map =>
    and_congr_left fun _ => find?_eq_some_iff_firstSuch (covers_iff acyclic) maps map

theorem mapped?_eq_none_iff (maps : List TargetMap) :
    e.mapped? target maps = none ↔ ∀ map ∈ maps, ¬ e.Covers target map := by
  rw [mapped?, Option.map_eq_none_iff]
  exact find?_eq_none_iff_forall (covers_iff acyclic) maps

theorem ruled?_eq_some_iff (rules : List Rule) (id : String) :
    e.ruled? target (Rule.byPriority rules) = some id ↔
      ∃ rule, Rule.LeastRule (e.Applies target) rules rule ∧ e.Provides target rule.serve id := by
  rw [ruled?_eq_bind, Option.bind_eq_some_iff]
  exact exists_congr fun rule =>
    and_congr (Rule.find?_byPriority_eq_some_iff (applies_iff acyclic)) (served?_eq_some_iff _ id)

theorem ruled?_eq_none_iff (rules : List Rule) :
    e.ruled? target (Rule.byPriority rules) = none ↔ e.Unruled target rules := by
  rw [ruled?_eq_bind, Option.bind_eq_none_iff]
  refine forall_congr' fun rule => ?_
  rw [Rule.find?_byPriority_eq_some_iff (applies_iff acyclic)]
  refine forall_congr' fun least => ?_
  obtain ⟨_, _, applies, _⟩ := least
  exact served?_eq_none_iff applies.2

/-- What a flag picks is what the relation says. -/
theorem selected?_eq_some_iff (flag : Flag) (id : String) :
    e.selected? target flag = some id ↔ e.Selects target flag id := by
  unfold selected? Selects
  cases flag.state with
  | off => simp [eq_comm]
  | on =>
    simp only [Option.orElse_eq_orElse, Option.orElse_eq_or, Option.or_eq_some_iff,
      mapped?_eq_some_iff acyclic, mapped?_eq_none_iff acyclic, ruled?_eq_some_iff acyclic,
      ruled?_eq_none_iff acyclic, defaulted?_eq_some_iff]
    constructor
    · rintro (⟨map, first, rfl⟩ | ⟨unmapped, ⟨rule, least, provides⟩ |
        ⟨unruled, ⟨rollout, rolls, draws⟩ | ⟨empty, name⟩⟩⟩)
      · exact .inr ⟨trivial, .mapped first⟩
      · exact .inr ⟨trivial, .ruled unmapped least provides⟩
      · exact .inr ⟨trivial, .drawn unmapped unruled rolls draws⟩
      · exact .inr ⟨trivial, .named unmapped unruled empty name⟩
    · rintro (⟨off, _⟩ | ⟨_, picks⟩)
      · contradiction
      · cases picks with
        | mapped first => exact .inl ⟨_, first, rfl⟩
        | ruled unmapped least provides => exact .inr ⟨unmapped, .inl ⟨_, least, provides⟩⟩
        | drawn unmapped unruled rolls draws =>
          exact .inr ⟨unmapped, .inr ⟨unruled, .inl ⟨_, rolls, draws⟩⟩⟩
        | named unmapped unruled empty name =>
          exact .inr ⟨unmapped, .inr ⟨unruled, .inr ⟨empty, name⟩⟩⟩

theorem targeted?_eq_some_iff (flag : Flag) (v : Variation) :
    e.targeted? target flag = some v ↔ e.Resolves target flag v := by
  rw [targeted?, Option.bind_eq_some_iff]
  refine exists_congr fun id => ?_
  rw [selected?_eq_some_iff acyclic]
  exact and_congr_right fun _ => find?_eq_some_iff_firstSuch (by simp) flag.variations v

end Acyclic

end Evaluator

end FlagHost
