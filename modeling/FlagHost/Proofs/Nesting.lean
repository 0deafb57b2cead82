import FlagHost.Bucket
import FlagHost.Proofs.Serving

/-!
# How deep segments nest

An evaluator follows segments for a number of levels that it is given. `nested?` asks the same
questions in the same order without any levels to spend: it counts the segments that are open at
one time, and has no answer where they would be more than allowed. So an answer for some number is
the answer of the recursion that nothing bounds, and says how deep that recursion went.

Main statement: if no segment refers to itself, also not through others, there is an answer as soon
as as many segments may be open as exist, and it is the one of the evaluator. It meets the equations
of membership, and nothing else does.
-/

namespace FlagHost

/-- Whether a clause holds for a target, if `inSegments` may say whether it is in listed
segments. -/
def Clause.holdsWith? (clause : Clause) (inSegments : List String → Option Bool)
    (target : Target) : Option Bool :=
  if clause.op = segmentOp then inSegments clause.values else some (clause.holdsFor target)

/-- Whether a target is in a segment, if `inSegments` may say whether it is in other ones. The
clauses are asked one after the other, up to the first one that fails. -/
def Segment.hasWith? (segment : Segment) (inSegments : List String → Option Bool)
    (target : Target) : Option Bool :=
  if target.isListed segment.excluded then some false
  else if target.isListed segment.included then some true
  else if segment.rules.isEmpty then some false
  else segment.rules.allM (·.holdsWith? inSegments target)

section Asking

variable {α : Type} {ask : α → Option Bool} {answer : α → Bool} {l : List α}

theorem anyM_eq_some (h : ∀ a ∈ l, ask a = some (answer a)) :
    l.anyM ask = some (l.any answer) := by
  induction l with
  | nil => rfl
  | cons a l ih =>
    have first : ask a = some (answer a) := h a (by simp)
    have rest : l.anyM ask = some (l.any answer) := ih fun b mem => h b (by simp [mem])
    cases yes : answer a <;> simp [List.anyM, first, rest, yes]

theorem allM_eq_some (h : ∀ a ∈ l, ask a = some (answer a)) :
    l.allM ask = some (l.all answer) := by
  induction l with
  | nil => rfl
  | cons a l ih =>
    have first : ask a = some (answer a) := h a (by simp)
    have rest : l.allM ask = some (l.all answer) := ih fun b mem => h b (by simp [mem])
    cases yes : answer a <;> simp [List.allM, first, rest, yes]

end Asking

theorem Clause.holdsWith?_eq_some {clause : Clause} {ask : List String → Option Bool}
    {answer : List String → Bool} (target : Target)
    (h : clause.op = segmentOp → ask clause.values = some (answer clause.values)) :
    clause.holdsWith? ask target = some (clause.holdsWith answer target) := by
  unfold holdsWith? holdsWith
  split
  · next op => exact h op
  · rfl

theorem Segment.hasWith?_eq_some {segment : Segment} {ask : List String → Option Bool}
    {answer : List String → Bool} (target : Target)
    (h : ∀ clause ∈ segment.rules, clause.op = segmentOp →
      ask clause.values = some (answer clause.values)) :
    segment.hasWith? ask target = some (segment.hasWith answer target) := by
  have clauses : segment.rules.allM (·.holdsWith? ask target) =
      some (segment.rules.all (·.holdsWith answer target)) :=
    allM_eq_some fun clause mem => Clause.holdsWith?_eq_some target (h clause mem)
  unfold hasWith? hasWith
  cases target.isListed segment.excluded <;> cases target.isListed segment.included <;>
    cases segment.rules.isEmpty <;> simp [clauses]

namespace Configuration

/-- One of the listed segments exists and has the target, if `has` says which ones have it. -/
def SomeHas (c : Configuration) (has : String → Prop) (ids : List String) : Prop :=
  ∃ id ∈ ids, (c.segments.find? id).isSome ∧ has id

/-- The clause holds for the target, if `has` says which segments have it. -/
def ClauseMet (c : Configuration) (target : Target) (has : String → Prop) (clause : Clause) :
    Prop :=
  (clause.op = segmentOp ∧ c.SomeHas has clause.values) ∨
    (clause.op ≠ segmentOp ∧ clause.holdsFor target = true)

/-- The equations of membership: a segment that exists has the target if it does not exclude it,
and includes it or has clauses that all hold. -/
def MeetsEquations (c : Configuration) (target : Target) (has : String → Prop) : Prop :=
  ∀ id segment, c.segments.find? id = some segment →
    (has id ↔ ¬ target.Listed segment.excluded ∧
      (target.Listed segment.included ∨
        segment.rules ≠ [] ∧ ∀ clause ∈ segment.rules, c.ClauseMet target has clause))

variable {c : Configuration} {target : Target}

theorem someHas_inSegment_iff (ids : List String) :
    c.SomeHas (c.InSegment target) ids ↔ c.InSome target ids := by
  refine exists_congr fun id => and_congr_right fun _ => ?_
  exact ⟨And.right, fun inside => ⟨inside.isSome, inside⟩⟩

theorem clauseMet_inSegment_iff (clause : Clause) :
    c.ClauseMet target (c.InSegment target) clause ↔ c.ClauseHolds target clause := by
  rw [ClauseMet, someHas_inSegment_iff, clauseHolds_iff]

theorem inSegment_meetsEquations : c.MeetsEquations target (c.InSegment target) := by
  intro id segment found
  simp [inSegment_iff, found, clauseMet_inSegment_iff]

/-- What holds of a segment as soon as it holds of those that it refers to holds of all, since
chains of references are short. -/
theorem SegmentsAcyclic.induction (acyclic : c.SegmentsAcyclic) {p : String → Prop}
    (step : ∀ id, (c.segments.find? id).isSome → (∀ other, c.RefersTo id other → p other) → p id)
    {id : String} (known : (c.segments.find? id).isSome) : p id := by
  have within (depth : Nat) : ∀ id, (c.segments.find? id).isSome →
      (∀ chain, List.IsChain c.RefersTo (id :: chain) → chain.length < depth) → p id := by
    induction depth with
    | zero => intro id _ short; exact absurd (short [] (.singleton id)) (Nat.not_lt_zero _)
    | succ depth ih =>
      intro id known short
      refine step id known fun other refers => ?_
      have known_other : (c.segments.find? other).isSome := by
        obtain ⟨_, _, _, _, _, _, known_other⟩ := refers
        exact known_other
      refine ih other known_other fun chain linked => ?_
      exact Nat.lt_of_succ_lt_succ (short (other :: chain) (.cons_cons refers linked))
  exact within _ id known fun chain linked => acyclic.length_lt known linked

/-- There is one way at most to meet the equations. -/
theorem MeetsEquations.unique (acyclic : c.SegmentsAcyclic) {has has' : String → Prop}
    (h : c.MeetsEquations target has) (h' : c.MeetsEquations target has') {id : String}
    (known : (c.segments.find? id).isSome) : has id ↔ has' id := by
  refine acyclic.induction (p := fun id => has id ↔ has' id) (fun id known ih => ?_) known
  obtain ⟨segment, found⟩ := Option.isSome_iff_exists.1 known
  have clauses : ∀ clause ∈ segment.rules,
      (c.ClauseMet target has clause ↔ c.ClauseMet target has' clause) := by
    intro clause mem
    refine or_congr_left (and_congr_right fun op => ?_)
    refine exists_congr fun other => and_congr_right fun asked => and_congr_right fun known => ?_
    exact ih other ⟨segment, clause, found, mem, op, asked, known⟩
  rw [h id segment found, h' id segment found]
  refine and_congr_right fun _ => or_congr_right (and_congr_right fun _ => ?_)
  exact forall₂_congr clauses

end Configuration

namespace Evaluator

/-- Whether the target is in one of the listed segments, which are asked one after the other up to
the first one that has it. There is no answer if more segments than `depth` have to be open at one
time. -/
def nested? (e : Evaluator) (target : Target) : Nat → List String → Option Bool
  | 0, identifiers => identifiers.anyM fun identifier =>
    match e.configuration.segments.find? identifier with
    | none => some false
    | some _ => none
  | depth + 1, identifiers => identifiers.anyM fun identifier =>
    match e.configuration.segments.find? identifier with
    | none => some false
    | some segment => segment.hasWith? (e.nested? target depth) target

variable {e : Evaluator} {target : Target}

/-- There is an answer if no chain of references that starts at a listed segment is longer than
what may be open. -/
theorem nested?_eq_some {depth : Nat} {ids : List String}
    (short : ∀ id ∈ ids, (e.configuration.segments.find? id).isSome →
      ∀ chain, List.IsChain e.configuration.RefersTo (id :: chain) → chain.length < depth) :
    e.nested? target depth ids = some (e.inSegmentsUpTo target depth ids) := by
  induction depth generalizing ids with
  | zero =>
    have missing : ∀ id ∈ ids, e.configuration.segments.find? id = none := by
      intro id mem
      by_contra known
      exact Nat.not_lt_zero _ (short id mem (Option.isSome_iff_ne_none.2 known) [] (.singleton id))
    have nobody : ids.any (fun _ => false) = false := by simp
    refine (anyM_eq_some fun id mem => ?_).trans (congrArg some nobody)
    rw [missing id mem]
  | succ depth ih =>
    unfold nested? inSegmentsUpTo
    refine anyM_eq_some fun id mem => ?_
    cases found : e.configuration.segments.find? id with
    | none => rfl
    | some segment =>
      refine Segment.hasWith?_eq_some target fun clause clause_mem op => ih ?_
      intro other asked known chain linked
      have refers : e.configuration.RefersTo id other :=
        ⟨segment, clause, found, clause_mem, op, asked, known⟩
      have bound := short id mem (by simp [found]) (other :: chain) (.cons_cons refers linked)
      exact Nat.lt_of_succ_lt_succ bound

/-- Levels beyond the number of segments change nothing. -/
theorem inSegmentsUpTo_eq_inSegments (acyclic : e.configuration.SegmentsAcyclic) {depth : Nat}
    (enough : e.configuration.segments.length ≤ depth) (ids : List String) :
    e.inSegmentsUpTo target depth ids = e.inSegments target ids := by
  rw [Bool.eq_iff_iff, inSegments_iff acyclic]
  refine ⟨inSome_of_inSegmentsUpTo, ?_⟩
  rintro ⟨id, mem, inside⟩
  refine inSegmentsUpTo_of_inSegment mem inside fun chain linked => ?_
  exact Nat.lt_of_lt_of_le (acyclic.length_lt inside.isSome linked) enough

/-- Whether the evaluator takes the target to be in the segment. -/
def Has (e : Evaluator) (target : Target) (id : String) : Prop :=
  e.inSegments target [id] = true

/-- Membership is well-founded: the recursion that nothing bounds comes to an end, and what it finds
is the only reading of the segments that meets the equations. -/
structure Founded (e : Evaluator) (target : Target) : Prop where
  /-- No more segments are open at one time than exist, and the evaluator has the answer. -/
  nested : ∀ depth, e.configuration.segments.length ≤ depth → ∀ ids,
    e.nested? target depth ids = some (e.inSegments target ids)
  /-- A list has the target if a segment does that is listed and exists. -/
  listed : ∀ ids, e.inSegments target ids = true ↔ e.configuration.SomeHas (e.Has target) ids
  /-- A clause on segments holds if one of its segments exists and has the target, and other
  clauses hold as they are. -/
  clauses : ∀ clause, e.clauseHolds target clause = true ↔
    e.configuration.ClauseMet target (e.Has target) clause
  /-- Segments have the targets that the equations say. -/
  equations : e.configuration.MeetsEquations target (e.Has target)
  /-- No other reading meets the equations. -/
  unique : ∀ has, e.configuration.MeetsEquations target has → ∀ id,
    (e.configuration.segments.find? id).isSome → (has id ↔ e.Has target id)

theorem has_eq_inSegment (target : Target) (acyclic : e.configuration.SegmentsAcyclic) :
    e.Has target = e.configuration.InSegment target := by
  funext id
  simp [Has, inSegments_iff acyclic, Configuration.InSome]

theorem founded_of_acyclic (e : Evaluator) (target : Target)
    (acyclic : e.configuration.SegmentsAcyclic) : e.Founded target := by
  have has := has_eq_inSegment target acyclic
  have equations : e.configuration.MeetsEquations target (e.Has target) :=
    has ▸ Configuration.inSegment_meetsEquations
  refine ⟨?_, ?_, ?_, equations, ?_⟩
  · intro depth enough ids
    rw [← inSegmentsUpTo_eq_inSegments acyclic enough]
    refine nested?_eq_some fun id _ known chain linked => ?_
    exact Nat.lt_of_lt_of_le (acyclic.length_lt known linked) enough
  · intro ids
    rw [has, Configuration.someHas_inSegment_iff, inSegments_iff acyclic]
  · intro clause
    rw [has, Configuration.clauseMet_inSegment_iff, clauseHolds_iff acyclic]
  · intro other meets id known
    exact meets.unique acyclic equations known

/-- Ann is a tester as she is one of the staff, and two open segments are enough to find that. -/
theorem founded_testing :
    let e : Evaluator := ⟨testing, percentBucket⟩
    let ann : Target := { identifier := "ann" }
    testing.SegmentsAcyclic ∧ e.Has ann "testers" ∧
      e.nested? ann 2 ["nobody", "testers"] = some true ∧
      e.nested? ann 1 ["nobody", "testers"] = none := by
  intro e ann
  have founded : e.Founded ann := founded_of_acyclic e ann testing_acyclic
  have inside : e.Has ann "testers" := by unfold Has; decide +kernel
  refine ⟨testing_acyclic, inside, ?_, by decide +kernel⟩
  rw [founded.nested 2 (by decide), (founded.listed _).2 ⟨"testers", by simp, by decide, inside⟩]

end Evaluator

end FlagHost
