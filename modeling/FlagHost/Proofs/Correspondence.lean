import FlagHost.Proofs.Nesting

/-!
# Evaluations side by side

Two evaluators, each with a target, are led through two configurations. `Corresponds p r` says that
they find nothing to tell them apart: flags that go together by the relation `r` have parts that are
found alike, and so have segments whose names have the property `p`; and what these flags and
segments lead to goes together again. The parameters say how far the two are compared. They may be
equality and everything, but also a relation between flags that are written differently, or what
a single key leads to. Main statement: the same is then served under a key whose flags go together,
once lists of segments that go together are found alike.

Segments and prerequisites are found alike by induction on the levels that are left, and nothing
else recurses. Clauses and prerequisites are all asked, so they need not come in the same order,
while maps and rules do.
-/

namespace FlagHost

/-- The second list has the elements of the first one in some order, each of them related to what
stands in its place. -/
def Shuffled {α : Type} (r : α → α → Prop) (l l' : List α) : Prop :=
  ∃ middle, l.Perm middle ∧ List.Forall₂ r middle l'

namespace Shuffled

variable {α : Type} {r : α → α → Prop} {l l' : List α}

theorem of_forall (h : ∀ a ∈ l, r a a) : Shuffled r l l := ⟨l, .refl l, List.forall₂_same.2 h⟩

theorem reverse (h : List.Forall₂ r l l') : Shuffled r l l'.reverse :=
  ⟨l.reverse, l.reverse_perm.symm, List.forall₂_reverse_iff.2 h⟩

theorem imp {s : α → α → Prop} (h : Shuffled r l l') (weaker : ∀ a b, r a b → s a b) :
    Shuffled s l l' := by
  obtain ⟨middle, perm, pairs⟩ := h
  exact ⟨middle, perm, pairs.imp weaker⟩

theorem isEmpty_eq (h : Shuffled r l l') : l.isEmpty = l'.isEmpty := by
  obtain ⟨middle, perm, pairs⟩ := h
  rw [perm.isEmpty_eq]
  cases pairs <;> rfl

/-- What all elements have, all of the others have, if it goes over from each to the one in its
place. -/
theorem all_eq {p q : α → Bool} (h : Shuffled r l l') (same : ∀ a b, r a b → p a = q b) :
    l.all p = l'.all q := by
  obtain ⟨middle, perm, pairs⟩ := h
  rw [perm.all_eq]
  clear perm
  induction pairs with
  | nil => rfl
  | cons related _ ih => simp [same _ _ related, ih]

theorem exists_of_mem {b : α} (h : Shuffled r l l') (mem : b ∈ l') : ∃ a ∈ l, r a b := by
  obtain ⟨middle, perm, pairs⟩ := h
  simp only [perm.mem_iff]
  clear perm
  induction pairs with
  | nil => cases mem
  | cons related _ ih =>
    rcases List.mem_cons.1 mem with rfl | mem
    · exact ⟨_, List.mem_cons_self, related⟩
    · obtain ⟨a, mem, related⟩ := ih mem
      exact ⟨a, List.mem_cons_of_mem _ mem, related⟩

end Shuffled

namespace Evaluator

/-- The same names, in any order, and all of them have the property. -/
def SameNames (p : String → Prop) (ids ids' : List String) : Prop :=
  ids.Perm ids' ∧ ∀ id ∈ ids, p id

theorem SameNames.refl {p : String → Prop} {ids : List String} (h : ∀ id ∈ ids, p id) :
    SameNames p ids ids := ⟨.refl ids, h⟩

section Relations

variable (e e' : Evaluator) (target target' : Target) (p : String → Prop) (r : Flag → Flag → Prop)

/-- The clauses are on the same segments, or are both found to hold or to fail. -/
structure ClausesAgree (a b : Clause) : Prop where
  op : a.op = b.op
  segments : a.op = segmentOp → SameNames p a.values b.values
  holdsFor : a.op ≠ segmentOp → a.holdsFor target = b.holdsFor target'

/-- The segments list their targets alike, and their clauses agree. -/
structure SegmentsAgree (a b : Segment) : Prop where
  included : target.isListed a.included = target'.isListed b.included
  excluded : target.isListed a.excluded = target'.isListed b.excluded
  rules : Shuffled (ClausesAgree target target' p) a.rules b.rules

/-- The maps have the same variation, list their targets alike and name the same segments. -/
structure MapsAgree (a b : TargetMap) : Prop where
  variation : a.variation = b.variation
  targets : target.isListed a.targets = target'.isListed b.targets
  segments : SameNames p a.segments b.segments

/-- The clauses of the rules agree, and the targets are served the same. -/
structure RulesAgree (a b : Rule) : Prop where
  serve : a.serve = b.serve
  clauses : Shuffled (ClausesAgree target target' p) a.clauses b.clauses
  served : e.served? target a.serve = e'.served? target' a.serve

/-- All parts of the flags agree, their prerequisites apart. -/
structure FlagsAgree (a b : Flag) : Prop where
  kind : a.kind = b.kind
  state : a.state = b.state
  variations : a.variations = b.variations
  offVariation : a.offVariation = b.offVariation
  maps : List.Forall₂ (MapsAgree target target' p) a.targetMaps b.targetMaps
  rules : List.Forall₂ (e.RulesAgree e' target target' p) (Rule.byPriority a.rules)
    (Rule.byPriority b.rules)
  default : e.defaulted? target a.defaultServe = e'.defaulted? target' b.defaultServe

/-- Both prerequisites name flags that go together, or no flag, and ask for the same values. -/
structure PrerequisitesAgree (a b : Prerequisite) : Prop where
  parents : Option.Rel r (e.configuration.flags.find? a.flag) (e'.configuration.flags.find? b.flag)
  values : ∀ value, value ∈ a.values ↔ value ∈ b.values

/-- Flags and segments that go together agree, and so does what they lead to. -/
structure Corresponds : Prop where
  flags : ∀ a b, r a b → e.FlagsAgree e' target target' p a b
  prerequisites : ∀ a b, r a b →
    Shuffled (e.PrerequisitesAgree e' r) a.prerequisites b.prerequisites
  segments : ∀ id, p id → Option.Rel (SegmentsAgree target target' p)
    (e.configuration.segments.find? id) (e'.configuration.segments.find? id)

end Relations

variable {e e' : Evaluator} {target target' : Target} {p : String → Prop}
  {r : Flag → Flag → Prop}

theorem ClausesAgree.holdsWith_eq {a b : Clause} (h : ClausesAgree target target' p a b)
    {inside inside' : List String → Bool}
    (same : ∀ ids ids', SameNames p ids ids' → inside ids = inside' ids') :
    a.holdsWith inside target = b.holdsWith inside' target' := by
  unfold Clause.holdsWith
  rw [← h.op]
  by_cases op : a.op = segmentOp
  · simp [op, same _ _ (h.segments op)]
  · simp [op, h.holdsFor op]

theorem SegmentsAgree.hasWith_eq {a b : Segment} (h : SegmentsAgree target target' p a b)
    {inside inside' : List String → Bool}
    (same : ∀ ids ids', SameNames p ids ids' → inside ids = inside' ids') :
    a.hasWith inside target = b.hasWith inside' target' := by
  unfold Segment.hasWith
  rw [h.included, h.excluded, h.rules.isEmpty_eq,
    h.rules.all_eq fun _ _ agree => agree.holdsWith_eq same]

/-! ## What agrees with itself -/

theorem clausesAgree_self {clauses : List Clause}
    (segments : ∀ clause ∈ clauses, clause.op = segmentOp → ∀ id ∈ clause.values, p id)
    (holdsFor : ∀ clause ∈ clauses, clause.op ≠ segmentOp →
      clause.holdsFor target = clause.holdsFor target') :
    Shuffled (ClausesAgree target target' p) clauses clauses :=
  .of_forall fun clause mem =>
    { op := rfl
      segments := fun op => .refl (segments clause mem op)
      holdsFor := holdsFor clause mem }

/-- A flag agrees with itself if the targets are listed alike and the rules agree in all that they
ask for. -/
theorem flagsAgree_self {flag : Flag}
    (listed : ∀ list, target.isListed list = target'.isListed list)
    (maps : ∀ map ∈ flag.targetMaps, ∀ id ∈ map.segments, p id)
    (rules : ∀ rule ∈ flag.rules, e.RulesAgree e' target target' p rule rule)
    (default : e.defaulted? target flag.defaultServe = e'.defaulted? target' flag.defaultServe) :
    e.FlagsAgree e' target target' p flag flag where
  kind := rfl
  state := rfl
  variations := rfl
  offVariation := rfl
  maps := List.forall₂_same.2 fun map mem => ⟨rfl, listed map.targets, .refl (maps map mem)⟩
  rules := List.forall₂_same.2 fun rule mem =>
    rules rule ((Rule.mem_byPriority rule flag.rules).1 mem)
  default := default

namespace Corresponds

variable (h : e.Corresponds e' target target' p r)
include h

/-! ## Segments -/

/-- Within the same number of levels the same segments are found. -/
theorem inSegmentsUpTo_eq (depth : Nat) (ids ids' : List String) (same : SameNames p ids ids') :
    e.inSegmentsUpTo target depth ids = e'.inSegmentsUpTo target' depth ids' := by
  induction depth generalizing ids ids' with
  | zero => rfl
  | succ depth ih =>
    obtain ⟨perm, named⟩ := same
    unfold inSegmentsUpTo
    rw [← perm.any_eq, Bool.eq_iff_iff, List.any_eq_true, List.any_eq_true]
    apply exists_congr
    intro id
    apply and_congr_right
    intro mem
    have entries := h.segments id (named id mem)
    generalize e.configuration.segments.find? id = segment at entries
    generalize e'.configuration.segments.find? id = segment' at entries
    cases entries with
    | none => rfl
    | some agree => simp only [agree.hasWith_eq ih]

theorem inSegments_of_length
    (length : e.configuration.segments.length = e'.configuration.segments.length)
    (ids ids' : List String) (same : SameNames p ids ids') :
    e.inSegments target ids = e'.inSegments target' ids' := by
  unfold inSegments
  rw [length]
  exact h.inSegmentsUpTo_eq _ ids ids' same

/-- Where no segment refers to itself, the tables may also have different lengths: both are followed
for the greater number of levels. -/
theorem inSegments_of_acyclic (acyclic : e.configuration.SegmentsAcyclic)
    (acyclic' : e'.configuration.SegmentsAcyclic) (ids ids' : List String)
    (same : SameNames p ids ids') : e.inSegments target ids = e'.inSegments target' ids' := by
  have left := le_max_left e.configuration.segments.length e'.configuration.segments.length
  have right := le_max_right e.configuration.segments.length e'.configuration.segments.length
  rw [← inSegmentsUpTo_eq_inSegments acyclic left, ← inSegmentsUpTo_eq_inSegments acyclic' right]
  exact h.inSegmentsUpTo_eq _ ids ids' same

end Corresponds

/-! ## Flags -/

section Inside

variable (inside : ∀ ids ids', SameNames p ids ids' →
  e.inSegments target ids = e'.inSegments target' ids')
include inside

theorem mapped?_of_agree {maps maps' : List TargetMap}
    (h : List.Forall₂ (MapsAgree target target' p) maps maps') :
    e.mapped? target maps = e'.mapped? target' maps' := by
  unfold mapped?
  induction h with
  | nil => rfl
  | @cons a b _ _ agree _ ih =>
    rw [List.find?_cons, List.find?_cons, agree.targets, inside _ _ agree.segments]
    cases target'.isListed b.targets || e'.inSegments target' b.segments with
    | true => simp [agree.variation]
    | false => exact ih

theorem ruled?_of_agree {rules rules' : List Rule}
    (h : List.Forall₂ (e.RulesAgree e' target target' p) rules rules') :
    e.ruled? target rules = e'.ruled? target' rules' := by
  induction h with
  | nil => rfl
  | @cons a b _ _ agree _ ih =>
    have holds : a.clauses.all (e.clauseHolds target) = b.clauses.all (e'.clauseHolds target') :=
      agree.clauses.all_eq fun _ _ clauses => clauses.holdsWith_eq inside
    rw [ruled?, ruled?, holds, agree.served, agree.serve, ih]

theorem FlagsAgree.targeted?_eq {a b : Flag} (h : e.FlagsAgree e' target target' p a b) :
    e.targeted? target a = e'.targeted? target' b := by
  have selected : e.selected? target a = e'.selected? target' b := by
    unfold selected?
    rw [h.state, h.offVariation, mapped?_of_agree inside h.maps, ruled?_of_agree inside h.rules,
      h.default]
  unfold targeted? Flag.variation?
  rw [selected, h.variations]

namespace Corresponds

variable (h : e.Corresponds e' target target' p r)
include h

/-- The prerequisites of flags that go together are met alike. -/
theorem prerequisitesMet_eq {a b : Flag} (related : r a b) (levels : Nat) :
    e.prerequisitesMet target levels a = e'.prerequisitesMet target' levels b := by
  induction levels generalizing a b with
  | zero => rfl
  | succ levels ih =>
    unfold prerequisitesMet
    apply (h.prerequisites a b related).all_eq
    intro required required' agree
    have parents := agree.parents
    generalize e.configuration.flags.find? required.flag = parent at parents
    generalize e'.configuration.flags.find? required'.flag = parent' at parents
    cases parents with
    | none => rfl
    | some related =>
      have asked (v : Variation) :
          required.values.contains v.value = required'.values.contains v.value := by
        simp [agree.values]
      simp only [(h.flags _ _ related).targeted?_eq inside, asked, ih related]

theorem evaluate_eq {key : String}
    (found : Option.Rel r (e.configuration.flags.find? key) (e'.configuration.flags.find? key))
    (kind : Flag.Kind) : e.evaluate key target kind = e'.evaluate key target' kind := by
  unfold evaluate
  generalize e.configuration.flags.find? key = flag at found
  generalize e'.configuration.flags.find? key = flag' at found
  cases found with
  | none => rfl
  | some related =>
    have agree := h.flags _ _ related
    simp only [agree.kind, h.prerequisitesMet_eq inside related, agree.targeted?_eq inside,
      agree.offVariation, Flag.variation?, agree.variations]

end Corresponds

end Inside

end Evaluator

end FlagHost
