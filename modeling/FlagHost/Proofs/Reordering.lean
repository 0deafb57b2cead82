import FlagHost.Bucket
import FlagHost.Proofs.Correspondence

/-!
# Orders that do not matter

A configuration says more than it means: many of its lists are asked for members only. `Rearranged`
relates two configurations that differ in the order of such lists, wherever these stand: the
clauses of rules and segments, the targets and segments of maps, the targets that a segment
includes or excludes, the values of `in` and of clauses on segments, prerequisites and their values;
and the rules of a flag, as long as those of one priority keep their order. The lists that are left
are the maps of a flag, its variations, the variations of a rollout, and the values of the other
operators, which look at the first one alone.

Main statement: if no segment refers to itself, an evaluator serves the same after any
rearrangement. Each relation is stated for one kind of entry and built from those of its parts, so
one order may change or all of them at once.
-/

namespace FlagHost

/-! ## Rearranged entries -/

/-- The same clause, the order of its values apart if they are asked for members. -/
structure Clause.Rearranged (a b : Clause) : Prop where
  attributeName : a.attributeName = b.attributeName
  op : a.op = b.op
  negate : a.negate = b.negate
  values : a.values = b.values ∨ (a.op = segmentOp ∨ a.op = "in") ∧ a.values.Perm b.values

/-- The same rule, the order of its clauses apart. -/
structure Rule.Rearranged (a b : Rule) : Prop where
  priority : a.priority = b.priority
  serve : a.serve = b.serve
  clauses : Shuffled Clause.Rearranged a.clauses b.clauses

/-- The same map, the order of its targets and segments apart. -/
structure TargetMap.Rearranged (a b : TargetMap) : Prop where
  variation : a.variation = b.variation
  targets : a.targets.Perm b.targets
  segments : a.segments.Perm b.segments

/-- The same prerequisite, the order of its values apart. -/
structure Prerequisite.Rearranged (a b : Prerequisite) : Prop where
  flag : a.flag = b.flag
  values : a.values.Perm b.values

/-- The same flag, the order of its rules (those of one priority apart) and of its prerequisites
apart, and rearranged in its parts. -/
structure Flag.Rearranged (a b : Flag) : Prop where
  kind : a.kind = b.kind
  state : a.state = b.state
  variations : a.variations = b.variations
  offVariation : a.offVariation = b.offVariation
  defaultServe : a.defaultServe = b.defaultServe
  rules : ∃ rules, Rule.SameTies a.rules rules ∧ List.Forall₂ Rule.Rearranged rules b.rules
  targetMaps : List.Forall₂ TargetMap.Rearranged a.targetMaps b.targetMaps
  prerequisites : Shuffled Prerequisite.Rearranged a.prerequisites b.prerequisites

/-- The same segment, the order of its lists apart. -/
structure Segment.Rearranged (a b : Segment) : Prop where
  included : a.included.Perm b.included
  excluded : a.excluded.Perm b.excluded
  rules : Shuffled Clause.Rearranged a.rules b.rules

/-- The same entries, each of them rearranged. -/
structure Configuration.Rearranged (c c' : Configuration) : Prop where
  flags : ∀ key, Option.Rel Flag.Rearranged (c.flags.find? key) (c'.flags.find? key)
  segments : ∀ id, Option.Rel Segment.Rearranged (c.segments.find? id) (c'.segments.find? id)

theorem Clause.Rearranged.refl (clause : Clause) : clause.Rearranged clause :=
  ⟨rfl, rfl, rfl, .inl rfl⟩

theorem Rule.Rearranged.refl (rule : Rule) : rule.Rearranged rule :=
  ⟨rfl, rfl, .of_forall fun clause _ => .refl clause⟩

/-! ## What is asked of them -/

theorem Target.isListed_perm (target : Target) {list list' : List ListedTarget}
    (h : list.Perm list') : target.isListed list = target.isListed list' := h.any_eq

namespace Clause.Rearranged

variable {a b : Clause}

/-- The values have the same members, and the same first one if the operator uses it. -/
theorem values_perm (h : a.Rearranged b) : a.values.Perm b.values := by
  rcases h.values with same | ⟨-, perm⟩
  · rw [same]
  · exact perm

theorem holdsFor_eq (h : a.Rearranged b) (other : a.op ≠ segmentOp) (target : Target) :
    a.holdsFor target = b.holdsFor target := by
  unfold Clause.holdsFor
  rw [← h.op, ← h.attributeName, ← h.negate]
  rcases h.values with same | ⟨onSegments | among, perm⟩
  · rw [same]
  · exact absurd onSegments other
  · have holds (found : String) :
        Operator.isAmong.holds found a.values = Operator.isAmong.holds found b.values :=
      perm.any_eq
    have named : Operator.named? "in" = some .isAmong := rfl
    rw [among, named]
    cases target.attribute? a.attributeName with
    | none => rfl
    | some found => simp [holds]

theorem agree (h : a.Rearranged b) (target : Target) :
    Evaluator.ClausesAgree target target (fun _ => True) a b where
  op := h.op
  segments _ := ⟨h.values_perm, fun _ _ => trivial⟩
  holdsFor other := h.holdsFor_eq other target

end Clause.Rearranged

theorem Segment.Rearranged.agree {a b : Segment} (h : a.Rearranged b) (target : Target) :
    Evaluator.SegmentsAgree target target (fun _ => True) a b where
  included := target.isListed_perm h.included
  excluded := target.isListed_perm h.excluded
  rules := h.rules.imp fun _ _ clauses => clauses.agree target

theorem TargetMap.Rearranged.agree {a b : TargetMap} (h : a.Rearranged b) (target : Target) :
    Evaluator.MapsAgree target target (fun _ => True) a b where
  variation := h.variation
  targets := target.isListed_perm h.targets
  segments := ⟨h.segments, fun _ _ => trivial⟩

namespace Configuration.Rearranged

variable {c c' : Configuration}

/-- Segments refer to the same ones as before. -/
theorem refersTo (h : c.Rearranged c') {a b : String} (refers : c'.RefersTo a b) :
    c.RefersTo a b := by
  obtain ⟨segment', clause', found, mem, op, asked, known⟩ := refers
  have here := h.segments a
  have there := h.segments b
  rw [found] at here
  generalize first : c.segments.find? a = entry at here
  cases here with
  | @some segment _ related =>
    obtain ⟨clause, clause_mem, rearranged⟩ := related.rules.exists_of_mem mem
    refine ⟨segment, clause, first, clause_mem, rearranged.op.trans op,
      rearranged.values_perm.mem_iff.2 asked, ?_⟩
    cases found_b : c.segments.find? b with
    | some _ => rfl
    | none =>
      rw [found_b] at there
      generalize c'.segments.find? b = entry' at there known
      cases there
      cases known

theorem acyclic (h : c.Rearranged c') (acyclic : c.SegmentsAcyclic) : c'.SegmentsAcyclic :=
  fun id circle => acyclic id (Relation.TransGen.mono (fun _ _ => h.refersTo) _ _ circle)

end Configuration.Rearranged

namespace Evaluator

variable {c c' : Configuration}

theorem rulesAgree_of_rearranged {a b : Rule} (h : a.Rearranged b) (bucket : String → Nat)
    (target : Target) :
    RulesAgree ⟨c, bucket⟩ ⟨c', bucket⟩ target target (fun _ => True) a b where
  serve := h.serve
  clauses := h.clauses.imp fun _ _ clauses => clauses.agree target
  served := rfl

theorem flagsAgree_of_rearranged {a b : Flag} (h : a.Rearranged b) (bucket : String → Nat)
    (target : Target) :
    FlagsAgree ⟨c, bucket⟩ ⟨c', bucket⟩ target target (fun _ => True) a b where
  kind := h.kind
  state := h.state
  variations := h.variations
  offVariation := h.offVariation
  maps := h.targetMaps.imp fun _ _ map => map.agree target
  rules := by
    obtain ⟨rules, ties, pairs⟩ := h.rules
    rw [Rule.byPriority_eq_of_sameTies ties]
    have sorted := Rule.forall₂_byPriority (fun _ _ rule => rule.priority) pairs
    exact sorted.imp fun _ _ rule => rulesAgree_of_rearranged rule bucket target
  default := congrArg (defaulted? ⟨c', bucket⟩ target) h.defaultServe

theorem corresponds_of_rearranged (h : c.Rearranged c') (bucket : String → Nat) (target : Target) :
    Corresponds ⟨c, bucket⟩ ⟨c', bucket⟩ target target (fun _ => True) Flag.Rearranged where
  flags _ _ flag := flagsAgree_of_rearranged flag bucket target
  prerequisites _ _ flag := flag.prerequisites.imp fun required _ same =>
    ⟨same.flag ▸ h.flags required.flag, fun _ => same.values.mem_iff⟩
  segments id _ := by
    have entries := h.segments id
    dsimp only
    generalize c.segments.find? id = segment at entries
    generalize c'.segments.find? id = segment' at entries
    cases entries with
    | none => exact .none
    | some segments => exact .some (segments.agree target)

/-- Orders that do not matter may be changed, one of them or all at once. -/
theorem evaluate_rearranged (bucket : String → Nat) (acyclic : c.SegmentsAcyclic)
    (h : c.Rearranged c') (key : String) (target : Target) (kind : Flag.Kind) :
    evaluate ⟨c, bucket⟩ key target kind = evaluate ⟨c', bucket⟩ key target kind := by
  have corresponds := corresponds_of_rearranged h bucket target
  have inside := corresponds.inSegments_of_acyclic acyclic (h.acyclic acyclic)
  exact corresponds.evaluate_eq inside (h.flags key) kind

namespace Market

/-! A shop whose lists are written forwards or backwards. Two rules of its checkout tie, and do not
change places. -/

section Turned

variable (turn : {α : Type} → List α → List α)

/-- The rule for testers. -/
def trial : Rule where
  priority := 1
  clauses := turn
    [{ op := "segmentMatch", values := turn ["nobody", "testers"] },
     { attributeName := "identifier", op := "starts_with", values := ["a", "b"] }]
  serve := { variation := some "new" }

/-- The rule that ties with it. -/
def launch : Rule where
  priority := 1
  serve := { variation := some "next" }

def checkout : Flag where
  key := "checkout"
  kind := .string
  state := .on
  variations := [⟨"old", "v1", none⟩, ⟨"new", "v2", none⟩, ⟨"next", "v3", none⟩]
  offVariation := "old"
  defaultServe := { variation := some "old" }
  rules := trial turn :: turn [{ priority := 0, serve := {} }, launch]
  targetMaps :=
    [{ variation := "next"
       targets := turn [⟨"erin", none⟩, ⟨"frank", none⟩]
       segments := turn ["guests", "nobody"] }]
  prerequisites := turn [⟨"release", turn ["open", "ajar"]⟩, ⟨"missing", []⟩]

def release : Flag where
  key := "release"
  kind := .string
  state := .on
  variations := [⟨"on", "open", none⟩, ⟨"off", "closed", none⟩]
  offVariation := "off"
  defaultServe := { variation := some "on" }

def staff : Segment where
  identifier := "staff"
  included := turn [⟨"ann", none⟩, ⟨"bob", none⟩]
  excluded := turn [⟨"carol", none⟩, ⟨"dave", none⟩]

def testers : Segment where
  identifier := "testers"
  rules := turn
    [{ op := "segmentMatch", values := turn ["nobody", "staff"] },
     { attributeName := "plan", op := "in", values := turn ["free", "paid"] }]

def market : Configuration where
  segments := [("staff", staff turn), ("testers", testers turn)]
  flags := [("checkout", checkout turn), ("release", release)]

end Turned

def forwards : Configuration := market fun l => l

def backwards : Configuration := market List.reverse

theorem forwards_acyclic : forwards.SegmentsAcyclic := by
  apply Configuration.SegmentsAcyclic.of_rank fun id => if id = "testers" then 1 else 0
  rintro a b ⟨segment, clause, found, mem, op, asked, known⟩
  simp only [forwards, market, Table.find?_cons, Table.find?_nil] at found
  split at found
  · cases found
    cases mem
  · split at found
    · subst a
      cases found
      have other : b ≠ "testers" := by
        rintro rfl
        rcases List.mem_pair.1 mem with rfl | rfl
        · simp at asked
        · exact absurd op (by decide)
      simp [other]
    · cases found

theorem checkout_rearranged : (checkout fun l => l).Rearranged (checkout List.reverse) where
  kind := rfl
  state := rfl
  variations := rfl
  offVariation := rfl
  defaultServe := rfl
  rules := by
    refine ⟨[trial fun l => l, launch, { priority := 0, serve := {} }], fun p => ?_, ?_⟩
    · by_cases level : p = 1
      · subst p
        decide
      · simp [checkout, trial, launch, List.filter_cons, Ne.symm level]
    · have clause : Clause.Rearranged
          { op := "segmentMatch", values := ["nobody", "testers"] }
          { op := "segmentMatch", values := ["testers", "nobody"] } :=
        ⟨rfl, rfl, rfl, .inr ⟨.inl rfl, by decide⟩⟩
      have first : (trial fun l => l).Rearranged (trial List.reverse) :=
        ⟨rfl, rfl, .reverse (.cons clause (.cons (.refl _) .nil))⟩
      exact .cons first (.cons (.refl _) (.cons (.refl _) .nil))
  targetMaps := .cons ⟨rfl, by decide, by decide⟩ .nil
  prerequisites := .reverse (.cons ⟨rfl, by decide⟩ (.cons ⟨rfl, .refl _⟩ .nil))

theorem release_rearranged : release.Rearranged release where
  kind := rfl
  state := rfl
  variations := rfl
  offVariation := rfl
  defaultServe := rfl
  rules := ⟨[], fun _ => rfl, .nil⟩
  targetMaps := .nil
  prerequisites := .of_forall fun _ mem => nomatch mem

theorem staff_rearranged : (staff fun l => l).Rearranged (staff List.reverse) where
  included := by decide
  excluded := by decide
  rules := .of_forall fun _ mem => nomatch mem

theorem testers_rearranged : (testers fun l => l).Rearranged (testers List.reverse) where
  included := .refl _
  excluded := .refl _
  rules := .reverse (.cons ⟨rfl, rfl, rfl, .inr ⟨.inl rfl, by decide⟩⟩
    (.cons ⟨rfl, rfl, rfl, .inr ⟨.inr rfl, by decide⟩⟩ .nil))

theorem backwards_rearranged : forwards.Rearranged backwards where
  flags key := by
    simp only [forwards, backwards, market, Table.find?_cons, Table.find?_nil]
    split
    · exact .some checkout_rearranged
    · split
      · exact .some release_rearranged
      · exact .none
  segments id := by
    simp only [forwards, backwards, market, Table.find?_cons, Table.find?_nil]
    split
    · exact .some staff_rearranged
    · split
      · exact .some testers_rearranged
      · exact .none

end Market

open Market

/-- Ann comes to the rule for testers in both shops. -/
theorem evaluate_rearranged_market :
    let ann : Target := { identifier := "ann", attributes := [("plan", .text "free")] }
    forwards ≠ backwards ∧ forwards.SegmentsAcyclic ∧ forwards.Rearranged backwards ∧
      evaluate ⟨forwards, percentBucket⟩ "checkout" ann .string = some ⟨"new", "v2", none⟩ ∧
      evaluate ⟨backwards, percentBucket⟩ "checkout" ann .string = some ⟨"new", "v2", none⟩ := by
  intro ann
  have served : evaluate ⟨forwards, percentBucket⟩ "checkout" ann .string =
      some ⟨"new", "v2", none⟩ := by decide +kernel
  have same := evaluate_rearranged percentBucket forwards_acyclic backwards_rearranged "checkout"
    ann .string
  exact ⟨by decide +kernel, forwards_acyclic, backwards_rearranged, served, same ▸ served⟩

end Evaluator

end FlagHost
