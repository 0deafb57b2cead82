import FlagHost.Bucket
import FlagHost.Proofs.Locality

/-!
# Clauses that are negated

A clause on an attribute holds for the targets for which its opposite fails, if it can be evaluated
at all. A clause on segments has no opposite: whether it is negated is not looked at, neither in
rules of flags nor in rules of segments. Main statements: both, for the single clause; and that
evaluation gives the same after all negations of clauses on segments are taken away.

For the last one the configuration is led through side by side with what is left of it, where every
flag goes together with what is left of itself.
-/

namespace FlagHost

namespace Clause

/-- The clause can be evaluated: it is on segments, or has an operator and its attribute. -/
def Evaluable (clause : Clause) (target : Target) : Prop :=
  clause.op = segmentOp ∨
    ∃ op found, Operator.named? clause.op = some op ∧
      target.attribute? clause.attributeName = some found

variable {clause : Clause} {target : Target}

theorem op_ne_segmentOp {op : Operator} (named : Operator.named? clause.op = some op) :
    clause.op ≠ segmentOp := by
  intro same
  rw [same] at named
  exact nomatch named

/-- The opposite of a clause on an attribute holds if the clause fails. -/
theorem holdsFor_negated (clause : Clause) {op : Operator} {found : String}
    (named : Operator.named? clause.op = some op)
    (present : target.attribute? clause.attributeName = some found) :
    { clause with negate := true }.holdsFor target =
      !{ clause with negate := false }.holdsFor target := by
  simp [holdsFor, named, present]

/-- Of a clause on segments only the segments count. -/
theorem holdsWith_of_segmentOp (clause : Clause) (op : clause.op = segmentOp)
    (inside : List String → Bool) (target : Target) (negate : Bool) :
    { clause with negate }.holdsWith inside target = inside clause.values :=
  if_pos op

/-- The clauses that can be evaluated and have an opposite are the ones on attributes. -/
theorem negates_iff (evaluable : clause.Evaluable target) (inside : List String → Bool) :
    { clause with negate := true }.holdsWith inside target =
        (!{ clause with negate := false }.holdsWith inside target) ↔
      clause.op ≠ segmentOp := by
  rcases evaluable with op | ⟨op, found, named, present⟩
  · rw [holdsWith_of_segmentOp clause op, holdsWith_of_segmentOp clause op]
    simp [op]
  · have other : clause.op ≠ segmentOp := op_ne_segmentOp named
    simp [holdsWith, other, holdsFor_negated clause named present]

/-- The clause without its negation, if it is on segments. -/
def settled (clause : Clause) : Clause :=
  if clause.op = segmentOp then { clause with negate := false } else clause

theorem settled_of_ne (other : clause.op ≠ segmentOp) : clause.settled = clause := if_neg other

theorem settled_op (clause : Clause) : clause.settled.op = clause.op := by
  by_cases op : clause.op = segmentOp <;> simp [settled, op]

theorem settled_values (clause : Clause) : clause.settled.values = clause.values := by
  by_cases op : clause.op = segmentOp <;> simp [settled, op]

end Clause

/-- The rule without the negations of clauses on segments. -/
def Rule.settled (rule : Rule) : Rule := { rule with clauses := rule.clauses.map Clause.settled }

/-- The segment without the negations of clauses on segments. -/
def Segment.settled (segment : Segment) : Segment :=
  { segment with rules := segment.rules.map Clause.settled }

/-- The flag without the negations of clauses on segments. -/
def Flag.settled (flag : Flag) : Flag := { flag with rules := flag.rules.map Rule.settled }

/-- The configuration without the negations of clauses on segments. -/
def Configuration.settled (c : Configuration) : Configuration where
  flags := c.flags.mapValues Flag.settled
  segments := c.segments.mapValues Segment.settled

namespace Evaluator

variable {e : Evaluator} {target : Target}

/-- The evaluator of the configuration without the negations of clauses on segments. -/
def settled (e : Evaluator) : Evaluator := { e with configuration := e.configuration.settled }

theorem clausesAgree_settled (target : Target) (clauses : List Clause) :
    Shuffled (ClausesAgree target target fun _ => True) clauses (clauses.map Clause.settled) := by
  refine ⟨clauses, .refl clauses, List.forall₂_map_right_iff.2 (List.forall₂_same.2 ?_)⟩
  intro clause _
  exact
    { op := clause.settled_op.symm
      segments := fun _ => by
        rw [clause.settled_values]
        exact .refl fun _ _ => trivial
      holdsFor := fun other => by rw [Clause.settled_of_ne other] }

theorem flagsAgree_settled (e : Evaluator) (target : Target) (flag : Flag) :
    e.FlagsAgree e.settled target target (fun _ => True) flag flag.settled where
  kind := rfl
  state := rfl
  variations := rfl
  offVariation := rfl
  maps := List.forall₂_same.2 fun map _ => ⟨rfl, rfl, .refl fun _ _ => trivial⟩
  rules := by
    have pairs : List.Forall₂ (fun rule settled => settled = rule.settled) flag.rules
        (flag.rules.map Rule.settled) :=
      List.forall₂_map_right_iff.2 (List.forall₂_same.2 fun _ _ => rfl)
    have sorted := Rule.forall₂_byPriority (fun _ _ same => by rw [same, Rule.settled]) pairs
    apply sorted.imp
    rintro rule _ rfl
    exact { serve := rfl, clauses := clausesAgree_settled target rule.clauses, served := rfl }
  default := rfl

theorem rel_find?_mapValues {α : Type} {r : α → α → Prop} {f : α → α} (each : ∀ a, r a (f a))
    (key : String) (table : Table α) :
    Option.Rel r (table.find? key) ((table.mapValues f).find? key) := by
  rw [Table.find?_mapValues]
  cases table.find? key with
  | none => exact .none
  | some a => exact .some (each a)

theorem rel_find?_settled (e : Evaluator) (key : String) :
    Option.Rel (fun flag settled => settled = flag.settled) (e.configuration.flags.find? key)
      (e.settled.configuration.flags.find? key) := by
  apply rel_find?_mapValues
  exact fun _ => rfl

theorem corresponds_settled (e : Evaluator) (target : Target) :
    e.Corresponds e.settled target target (fun _ => True) fun flag settled =>
      settled = flag.settled where
  flags := by
    rintro flag _ rfl
    exact e.flagsAgree_settled target flag
  prerequisites := by
    rintro flag _ rfl
    exact .of_forall fun required _ => ⟨e.rel_find?_settled required.flag, fun _ => .rfl⟩
  segments id _ := by
    apply rel_find?_mapValues
    intro segment
    exact
      { included := rfl
        excluded := rfl
        rules := clausesAgree_settled target segment.rules }

theorem evaluate_settled (key : String) (kind : Flag.Kind) :
    e.settled.evaluate key target kind = e.evaluate key target kind := by
  have corresponds := e.corresponds_settled target
  have length : e.configuration.segments.length = e.settled.configuration.segments.length :=
    (List.length_map _).symm
  have inside := corresponds.inSegments_of_length length
  exact (corresponds.evaluate_eq inside (e.rel_find?_settled key) kind).symm

/-- Negation negates the clauses on attributes that can be evaluated, and does nothing at all to
clauses on segments, in the rules of flags (which ask for all segments) as in those of segments
(which ask for what is left of the levels). -/
theorem negation_of_clauses (e : Evaluator) (target : Target) :
    (∀ clause : Clause, clause.Evaluable target →
      (e.clauseHolds target { clause with negate := true } =
          (!e.clauseHolds target { clause with negate := false }) ↔ clause.op ≠ segmentOp) ∧
      ∀ depth,
        { clause with negate := true }.holdsWith (e.inSegmentsUpTo target depth) target =
            (!{ clause with negate := false }.holdsWith (e.inSegmentsUpTo target depth) target) ↔
          clause.op ≠ segmentOp) ∧
    (∀ clause : Clause, clause.op = segmentOp → ∀ negate,
      e.clauseHolds target { clause with negate } = e.inSegments target clause.values) ∧
    ∀ key kind, e.settled.evaluate key target kind = e.evaluate key target kind := by
  refine ⟨fun clause evaluable => ⟨?_, fun depth => ?_⟩, fun clause op negate => ?_, ?_⟩
  · exact Clause.negates_iff evaluable (e.inSegments target)
  · exact Clause.negates_iff evaluable (e.inSegmentsUpTo target depth)
  · exact Clause.holdsWith_of_segmentOp clause op (e.inSegments target) target negate
  · exact fun key kind => evaluate_settled key kind

/-- A flag that is on for those who are not testers. -/
def notice : Configuration where
  segments := [("testers", { identifier := "testers", included := [⟨"ann", none⟩] })]
  flags :=
    [("notice", {
        key := "notice"
        kind := .boolean
        state := .on
        variations := [⟨"on", "true", none⟩, ⟨"off", "false", none⟩]
        offVariation := "off"
        defaultServe := { variation := some "off" }
        rules :=
          [{ priority := 0
             clauses := [{ op := "segmentMatch", values := ["testers"], negate := true }]
             serve := { variation := some "on" } }] })]

theorem notice_acyclic : notice.SegmentsAcyclic := by
  refine acyclic_of_plain fun id segment found => ?_
  rw [notice, Table.find?_cons] at found
  split at found
  · obtain rfl := Option.some.inj found
    rfl
  · exact nomatch found

/-- A tester is served what is meant for all others. -/
theorem negation_unheeded :
    let e : Evaluator := ⟨notice, percentBucket⟩
    let ann : Target := { identifier := "ann" }
    let clause : Clause := { op := "segmentMatch", values := ["testers"] }
    e.configuration.SegmentsAcyclic ∧ clause.Evaluable ann ∧
      e.clauseHolds ann { clause with negate := false } = true ∧
      e.clauseHolds ann { clause with negate := true } = true ∧
      e.evaluate "notice" ann .boolean = some ⟨"on", "true", none⟩ := by
  intro e ann clause
  refine ⟨notice_acyclic, .inl rfl, ?_, ?_, ?_⟩ <;> decide +kernel

end Evaluator

end FlagHost
