import FlagHost.Evaluation
import Mathlib.Data.List.Nodup
import Mathlib.Logic.Relation

/-!
# Who is in a segment

`InSegment c target` is the least set of segments that have the target: those that list it, and
those whose clauses all hold, where a clause may ask for other segments. Nothing in it counts
levels. Main statement: if no segment refers to itself, also not through others, then the levels
that an evaluator follows are enough, and it finds exactly these segments.

A segment refers to another one if both exist and a clause of the first asks for the second. Chains
of references repeat no segment where there are no cycles, so they are no longer than the
configuration, and that is how many levels are followed.
-/

namespace FlagHost

/-- The target is in a list. -/
def Target.Listed (target : Target) (list : List ListedTarget) : Prop :=
  ∃ entry ∈ list, entry.identifier = target.identifier

theorem Target.isListed_iff (target : Target) (list : List ListedTarget) :
    target.isListed list = true ↔ target.Listed list := by
  simp [Target.isListed, Target.Listed]

theorem Clause.holdsWith_iff (clause : Clause) (inside : List String → Bool) (target : Target) :
    clause.holdsWith inside target = true ↔
      (clause.op = segmentOp ∧ inside clause.values = true) ∨
        (clause.op ≠ segmentOp ∧ clause.holdsFor target = true) := by
  unfold Clause.holdsWith
  by_cases h : clause.op = segmentOp <;> simp [h]

theorem Segment.hasWith_iff (segment : Segment) (inside : List String → Bool) (target : Target) :
    segment.hasWith inside target = true ↔
      ¬ target.Listed segment.excluded ∧
        (target.Listed segment.included ∨
          segment.rules ≠ [] ∧
            ∀ clause ∈ segment.rules, clause.holdsWith inside target = true) := by
  rw [← Target.isListed_iff, ← Target.isListed_iff]
  simp [Segment.hasWith]

namespace Configuration

mutual

/-- The target is in the segment. -/
inductive InSegment (c : Configuration) (target : Target) : String → Prop where
  | listed {id : String} {segment : Segment} (found : c.segments.find? id = some segment)
      (allowed : ¬ target.Listed segment.excluded) (listed : target.Listed segment.included) :
      InSegment c target id
  | byClauses {id : String} {segment : Segment} (found : c.segments.find? id = some segment)
      (allowed : ¬ target.Listed segment.excluded) (some_rule : segment.rules ≠ [])
      (hold : ∀ clause ∈ segment.rules, ClauseHolds c target clause) : InSegment c target id

/-- The clause holds for the target. -/
inductive ClauseHolds (c : Configuration) (target : Target) : Clause → Prop where
  | inSegment {clause : Clause} {id : String} (op : clause.op = segmentOp)
      (asked : id ∈ clause.values) (inside : InSegment c target id) : ClauseHolds c target clause
  | onAttribute {clause : Clause} (op : clause.op ≠ segmentOp)
      (holds : clause.holdsFor target = true) : ClauseHolds c target clause

end

/-- The target is in one of the segments. -/
def InSome (c : Configuration) (target : Target) (ids : List String) : Prop :=
  ∃ id ∈ ids, c.InSegment target id

/-- The first segment has a clause that asks for the second, and both exist. -/
def RefersTo (c : Configuration) (a b : String) : Prop :=
  ∃ segment clause, c.segments.find? a = some segment ∧ clause ∈ segment.rules ∧
    clause.op = segmentOp ∧ b ∈ clause.values ∧ (c.segments.find? b).isSome

/-- No segment refers to itself, also not through others. -/
def SegmentsAcyclic (c : Configuration) : Prop :=
  ∀ id, ¬ Relation.TransGen c.RefersTo id id

variable {c : Configuration} {target : Target}

theorem inSegment_iff (id : String) :
    c.InSegment target id ↔
      ∃ segment, c.segments.find? id = some segment ∧ ¬ target.Listed segment.excluded ∧
        (target.Listed segment.included ∨
          segment.rules ≠ [] ∧ ∀ clause ∈ segment.rules, c.ClauseHolds target clause) := by
  constructor
  · intro h
    cases h with
    | listed found allowed listed => exact ⟨_, found, allowed, .inl listed⟩
    | byClauses found allowed some_rule hold => exact ⟨_, found, allowed, .inr ⟨some_rule, hold⟩⟩
  · rintro ⟨segment, found, allowed, listed | ⟨some_rule, hold⟩⟩
    · exact .listed found allowed listed
    · exact .byClauses found allowed some_rule hold

theorem clauseHolds_iff (clause : Clause) :
    c.ClauseHolds target clause ↔
      (clause.op = segmentOp ∧ c.InSome target clause.values) ∨
        (clause.op ≠ segmentOp ∧ clause.holdsFor target = true) := by
  constructor
  · intro h
    cases h with
    | inSegment op asked inside => exact .inl ⟨op, _, asked, inside⟩
    | onAttribute op holds => exact .inr ⟨op, holds⟩
  · rintro (⟨op, id, asked, inside⟩ | ⟨op, holds⟩)
    · exact .inSegment op asked inside
    · exact .onAttribute op holds

/-- A segment that has the target exists. -/
theorem InSegment.isSome {id : String} (h : c.InSegment target id) :
    (c.segments.find? id).isSome := by
  obtain ⟨segment, found, _⟩ := (inSegment_iff id).1 h
  simp [found]

/-- The clauses of a segment refer to the segments that they ask for. -/
theorem RefersTo.of_clause {id other : String} {segment : Segment} {clause : Clause}
    (found : c.segments.find? id = some segment) (mem : clause ∈ segment.rules)
    (op : clause.op = segmentOp) (asked : other ∈ clause.values)
    (inside : c.InSegment target other) : c.RefersTo id other :=
  ⟨segment, clause, found, mem, op, asked, inside.isSome⟩

/-- A number that sinks along references excludes cycles. -/
theorem SegmentsAcyclic.of_rank (rank : String → Nat)
    (sinks : ∀ a b, c.RefersTo a b → rank b < rank a) : c.SegmentsAcyclic := by
  have sinks_trans : ∀ a b, Relation.TransGen c.RefersTo a b → rank b < rank a := by
    intro a b h
    induction h with
    | single h => exact sinks _ _ h
    | tail _ h ih => exact Nat.lt_trans (sinks _ _ h) ih
  intro id h
  exact Nat.lt_irrefl _ (sinks_trans id id h)

theorem SegmentsAcyclic.nodup (acyclic : c.SegmentsAcyclic) {chain : List String}
    (h : List.IsChain c.RefersTo chain) : chain.Nodup := by
  have sequence : chain.Pairwise (Relation.TransGen c.RefersTo) :=
    (h.imp fun _ _ => Relation.TransGen.single).pairwise
  refine sequence.imp ?_
  rintro a b reaches rfl
  exact acyclic a reaches

/-- A chain of references that starts at an existing segment stays with existing ones. -/
theorem RefersTo.isSome_of_chain {id : String} {chain : List String}
    (known : (c.segments.find? id).isSome) (h : List.IsChain c.RefersTo (id :: chain)) :
    ∀ a ∈ id :: chain, (c.segments.find? a).isSome := by
  induction chain generalizing id with
  | nil => simpa using known
  | cons next rest ih =>
    obtain ⟨refers, h⟩ := List.isChain_cons_cons.1 h
    obtain ⟨_, _, _, _, _, _, next_known⟩ := refers
    intro a mem
    rcases List.mem_cons.1 mem with rfl | mem
    · exact known
    · exact ih next_known h a mem

/-- Chains of references are shorter than the configuration. -/
theorem SegmentsAcyclic.length_lt (acyclic : c.SegmentsAcyclic) {id : String}
    {chain : List String} (known : (c.segments.find? id).isSome)
    (h : List.IsChain c.RefersTo (id :: chain)) : chain.length < c.segments.length := by
  have found : id :: chain ⊆ c.segments.keys := fun a mem =>
    (Table.isSome_find?_iff a _).1 (RefersTo.isSome_of_chain known h a mem)
  have bound := (acyclic.nodup h).length_le_of_subset found
  rw [Table.keys, List.length_map] at bound
  exact bound

end Configuration

namespace Evaluator

variable {e : Evaluator} {target : Target}

theorem inSegmentsUpTo_succ (depth : Nat) (ids : List String) :
    e.inSegmentsUpTo target (depth + 1) ids = true ↔
      ∃ id ∈ ids, ∃ segment, e.configuration.segments.find? id = some segment ∧
        segment.hasWith (e.inSegmentsUpTo target depth) target = true := by
  rw [inSegmentsUpTo, List.any_eq_true]
  refine exists_congr fun id => and_congr_right fun _ => ?_
  cases h : e.configuration.segments.find? id <;> simp

/-- What is found within some levels is so. -/
theorem inSome_of_inSegmentsUpTo {depth : Nat} {ids : List String}
    (h : e.inSegmentsUpTo target depth ids = true) : e.configuration.InSome target ids := by
  induction depth generalizing ids with
  | zero => simp [inSegmentsUpTo] at h
  | succ depth ih =>
    obtain ⟨id, mem, segment, found, has⟩ := (inSegmentsUpTo_succ depth ids).1 h
    obtain ⟨allowed, listed | ⟨some_clause, hold⟩⟩ := (segment.hasWith_iff _ target).1 has
    · exact ⟨id, mem, .listed found allowed listed⟩
    · refine ⟨id, mem, .byClauses found allowed some_clause fun clause mem => ?_⟩
      rw [Configuration.clauseHolds_iff]
      exact ((clause.holdsWith_iff _ target).1 (hold clause mem)).imp_left fun asks =>
        ⟨asks.1, ih asks.2⟩

/-- A segment is found within as many levels as its chains of references need. -/
theorem inSegmentsUpTo_of_inSegment {depth : Nat} {id : String} {ids : List String}
    (mem : id ∈ ids) (h : e.configuration.InSegment target id)
    (short : ∀ chain, List.IsChain e.configuration.RefersTo (id :: chain) →
      chain.length < depth) : e.inSegmentsUpTo target depth ids = true := by
  induction depth generalizing id ids with
  | zero => exact absurd (short [] (.singleton id)) (Nat.not_lt_zero _)
  | succ depth ih =>
    obtain ⟨segment, found, allowed, has⟩ := (Configuration.inSegment_iff id).1 h
    refine (inSegmentsUpTo_succ depth ids).2 ⟨id, mem, segment, found, ?_⟩
    refine (segment.hasWith_iff _ target).2 ⟨allowed, has.imp_right ?_⟩
    rintro ⟨some_clause, hold⟩
    refine ⟨some_clause, fun clause clause_mem => (clause.holdsWith_iff _ target).2 ?_⟩
    refine ((Configuration.clauseHolds_iff clause).1 (hold clause clause_mem)).imp_left ?_
    rintro ⟨op, other, asked, inside⟩
    -- A chain from the other segment is one link shorter than the same chain from this one.
    have refers := Configuration.RefersTo.of_clause found clause_mem op asked inside
    refine ⟨op, ih asked inside fun chain linked => ?_⟩
    have bound := short (other :: chain) (List.isChain_cons_cons.2 ⟨refers, linked⟩)
    exact Nat.lt_of_succ_lt_succ bound

theorem inSegments_iff (acyclic : e.configuration.SegmentsAcyclic) (ids : List String) :
    e.inSegments target ids = true ↔ e.configuration.InSome target ids := by
  refine ⟨inSome_of_inSegmentsUpTo, ?_⟩
  rintro ⟨id, mem, inside⟩
  exact inSegmentsUpTo_of_inSegment mem inside fun chain => acyclic.length_lt inside.isSome

theorem clauseHolds_iff (acyclic : e.configuration.SegmentsAcyclic) (clause : Clause) :
    e.clauseHolds target clause = true ↔ e.configuration.ClauseHolds target clause := by
  rw [clauseHolds, Clause.holdsWith_iff, inSegments_iff acyclic, Configuration.clauseHolds_iff]

end Evaluator

end FlagHost
