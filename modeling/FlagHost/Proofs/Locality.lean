import FlagHost.Proofs.Correspondence
import FlagHost.Proofs.Entries

/-!
# What an answer depends on

From a key, flags are reached through prerequisites, and segments through the target maps and the
clauses of these flags and through the clauses of segments. Nothing is asked of what is reached:
there may be no flag of the name, and flags may require each other in circles. Main statement: if no
segment refers to itself, two configurations that have the same entries wherever the first one
reaches give the same answer for the key.

The two configurations are led through side by side, where flags and segments that are reached go
together with themselves. They may have different numbers of segments, and so follow segments for
different numbers of levels; this is where it counts that no segment refers to itself.
-/

namespace FlagHost

namespace Configuration

/-- The flag is the one of the key, or a prerequisite leads to it. -/
inductive ReachesFlag (c : Configuration) (key : String) : String → Prop where
  | self : ReachesFlag c key key
  | required {k : String} {flag : Flag} {required : Prerequisite} (reached : ReachesFlag c key k)
      (found : c.flags.find? k = some flag) (mem : required ∈ flag.prerequisites) :
      ReachesFlag c key required.flag

/-- A flag that is reached asks for the segment, or a segment that is reached. -/
inductive ReachesSegment (c : Configuration) (key : String) : String → Prop where
  | mapped {k id : String} {flag : Flag} {map : TargetMap} (reached : c.ReachesFlag key k)
      (found : c.flags.find? k = some flag) (mem : map ∈ flag.targetMaps)
      (asked : id ∈ map.segments) : ReachesSegment c key id
  | ruled {k id : String} {flag : Flag} {rule : Rule} {clause : Clause}
      (reached : c.ReachesFlag key k) (found : c.flags.find? k = some flag)
      (mem : rule ∈ flag.rules) (clause_mem : clause ∈ rule.clauses) (op : clause.op = segmentOp)
      (asked : id ∈ clause.values) : ReachesSegment c key id
  | nested {k id : String} {segment : Segment} {clause : Clause} (reached : ReachesSegment c key k)
      (found : c.segments.find? k = some segment) (mem : clause ∈ segment.rules)
      (op : clause.op = segmentOp) (asked : id ∈ clause.values) : ReachesSegment c key id

/-- The second configuration has the entries that the first one reaches from the key, and none
where the first one has none. -/
structure AgreesFrom (c c' : Configuration) (key : String) : Prop where
  flags : ∀ k, c.ReachesFlag key k → c.flags.find? k = c'.flags.find? k
  segments : ∀ id, c.ReachesSegment key id → c.segments.find? id = c'.segments.find? id

variable {c c' : Configuration} {key : String}

theorem AgreesFrom.reachesFlag {k : String} (h : c.AgreesFrom c' key)
    (reached : c'.ReachesFlag key k) : c.ReachesFlag key k := by
  induction reached with
  | self => exact .self
  | required _ found mem ih => exact .required ih ((h.flags _ ih).trans found) mem

theorem AgreesFrom.reachesSegment {id : String} (h : c.AgreesFrom c' key)
    (reached : c'.ReachesSegment key id) : c.ReachesSegment key id := by
  induction reached with
  | mapped reached found mem asked =>
    have reached := h.reachesFlag reached
    exact .mapped reached ((h.flags _ reached).trans found) mem asked
  | ruled reached found mem clause_mem op asked =>
    have reached := h.reachesFlag reached
    exact .ruled reached ((h.flags _ reached).trans found) mem clause_mem op asked
  | nested _ found mem op asked ih =>
    exact .nested ih ((h.segments _ ih).trans found) mem op asked

/-- It makes no difference in which of the two configurations the entries are reached. -/
theorem AgreesFrom.symm (h : c.AgreesFrom c' key) : c'.AgreesFrom c key where
  flags k reached := (h.flags k (h.reachesFlag reached)).symm
  segments id reached := (h.segments id (h.reachesSegment reached)).symm

/-- The document has no value that the key leads to. -/
def FlagAside (c : Configuration) (key : String) (v : Json) : Prop :=
  ∀ flag, Flag.format.decode v = some flag → ¬ c.ReachesFlag key flag.key

def SegmentAside (c : Configuration) (key : String) (v : Json) : Prop :=
  ∀ segment, Segment.format.decode v = some segment → ¬ c.ReachesSegment key segment.identifier

/-- Documents that have no value, and those whose values are not reached, make no difference. -/
theorem agreesFrom_of_sameBut {flags flags' segments segments' : List Json}
    (same_flags : SameBut ((ofEntries flags segments).FlagAside key) flags flags')
    (same_segments : SameBut ((ofEntries flags segments).SegmentAside key) segments segments') :
    (ofEntries flags segments).AgreesFrom (ofEntries flags' segments') key where
  flags k reached := by
    rw [flags_ofEntries, flags_ofEntries]
    refine find?_index_congr same_flags fun v aside flag decoded own => ?_
    exact aside flag decoded (own ▸ reached)
  segments id reached := by
    rw [segments_ofEntries, segments_ofEntries]
    refine find?_index_congr same_segments fun v aside segment decoded own => ?_
    exact aside segment decoded (own ▸ reached)

/-- A flag that is reached, together with itself. -/
def Reached (c : Configuration) (key : String) (flag flag' : Flag) : Prop :=
  flag = flag' ∧ ∃ k, c.ReachesFlag key k ∧ c.flags.find? k = some flag

theorem AgreesFrom.rel_find? {k : String} (agrees : c.AgreesFrom c' key)
    (reached : c.ReachesFlag key k) :
    Option.Rel (c.Reached key) (c.flags.find? k) (c'.flags.find? k) := by
  rw [← agrees.flags k reached]
  cases found : c.flags.find? k with
  | none => exact .none
  | some flag => exact .some ⟨rfl, k, reached, found⟩

end Configuration

namespace Evaluator

variable {c c' : Configuration} {bucket : String → Nat} {key : String} {target : Target}

theorem flagsAgree_of_reached {k : String} {flag : Flag} (reached : c.ReachesFlag key k)
    (found : c.flags.find? k = some flag) :
    FlagsAgree ⟨c, bucket⟩ ⟨c', bucket⟩ target target (c.ReachesSegment key) flag flag := by
  apply flagsAgree_self
  · simp
  · exact fun map mem id asked => .mapped reached found mem asked
  · intro rule mem
    have named : ∀ clause ∈ rule.clauses, clause.op = segmentOp →
        ∀ id ∈ clause.values, c.ReachesSegment key id :=
      fun clause clause_mem op id asked => .ruled reached found mem clause_mem op asked
    exact
      { serve := rfl
        clauses := clausesAgree_self named fun _ _ _ => rfl
        served := rfl }
  · rfl

theorem corresponds_of_agrees (agrees : c.AgreesFrom c' key) (bucket : String → Nat)
    (target : Target) :
    Corresponds ⟨c, bucket⟩ ⟨c', bucket⟩ target target (c.ReachesSegment key) (c.Reached key) where
  flags := by
    rintro flag _ ⟨rfl, k, reached, found⟩
    exact flagsAgree_of_reached reached found
  prerequisites := by
    rintro flag _ ⟨rfl, k, reached, found⟩
    exact .of_forall fun required mem =>
      ⟨agrees.rel_find? (.required reached found mem), fun _ => .rfl⟩
  segments id reached := by
    dsimp only
    rw [← agrees.segments id reached]
    cases found : c.segments.find? id with
    | none => exact .none
    | some segment =>
      exact .some
        { included := rfl
          excluded := rfl
          rules := clausesAgree_self (fun _ mem op _ asked => .nested reached found mem op asked)
            fun _ _ _ => rfl }

theorem evaluate_eq_of_agrees (acyclic : c.SegmentsAcyclic) (acyclic' : c'.SegmentsAcyclic)
    (agrees : c.AgreesFrom c' key) (kind : Flag.Kind) :
    evaluate ⟨c, bucket⟩ key target kind = evaluate ⟨c', bucket⟩ key target kind := by
  have corresponds := corresponds_of_agrees agrees bucket target
  have inside := corresponds.inSegments_of_acyclic acyclic acyclic'
  exact corresponds.evaluate_eq inside (agrees.rel_find? .self) kind

/-- What a key is answered with depends on nothing but the entries that it reaches. So it makes no
difference which documents of other flags and segments come, go, change or are broken. -/
theorem evaluate_local (bucket : String → Nat) (key : String) (target : Target)
    (kind : Flag.Kind) :
    (∀ c c' : Configuration, c.SegmentsAcyclic → c'.SegmentsAcyclic → c.AgreesFrom c' key →
      evaluate ⟨c, bucket⟩ key target kind = evaluate ⟨c', bucket⟩ key target kind) ∧
    (∀ flags flags' segments segments' : List Json,
      (Configuration.ofEntries flags segments).SegmentsAcyclic →
      (Configuration.ofEntries flags' segments').SegmentsAcyclic →
      SameBut ((Configuration.ofEntries flags segments).FlagAside key) flags flags' →
      SameBut ((Configuration.ofEntries flags segments).SegmentAside key) segments segments' →
      evaluate ⟨.ofEntries flags segments, bucket⟩ key target kind =
        evaluate ⟨.ofEntries flags' segments', bucket⟩ key target kind) := by
  constructor
  · intro c c' acyclic acyclic' agrees
    exact evaluate_eq_of_agrees acyclic acyclic' agrees kind
  · intro flags flags' segments segments' acyclic acyclic' same_flags same_segments
    have agrees := Configuration.agreesFrom_of_sameBut same_flags same_segments
    exact evaluate_eq_of_agrees acyclic acyclic' agrees kind

/-- A flag that is for a segment. -/
def banner : Flag where
  key := "banner"
  kind := .boolean
  state := .on
  variations := [⟨"on", "true", none⟩, ⟨"off", "false", none⟩]
  offVariation := "off"
  defaultServe := { variation := some "off" }
  targetMaps := [{ variation := "on", segments := ["staff"] }]

def staff : Segment where
  identifier := "staff"
  included := [⟨"ann", none⟩]

/-- The documents of the flag alone. -/
def bare : Configuration := .ofEntries [Flag.format.encode banner] [Segment.format.encode staff]

/-- The same documents with others: one that is broken, a flag and a segment. -/
def crowded : Configuration :=
  .ofEntries [.null, Flag.format.encode banner, Flag.format.encode { banner with key := "footer" }]
    [Segment.format.encode { staff with identifier := "guests" }, Segment.format.encode staff]

theorem bare_eq : bare = ⟨[("banner", banner)], [("staff", staff)]⟩ := by decide +kernel

theorem reachesFlag_bare {k : String} (h : bare.ReachesFlag "banner" k) : k = "banner" := by
  induction h with
  | self => rfl
  | required _ found mem ih =>
    rw [bare_eq, ih] at found
    obtain rfl : banner = _ := Option.some.inj found
    exact nomatch mem

theorem reachesSegment_bare {id : String} (h : bare.ReachesSegment "banner" id) : id = "staff" := by
  induction h with
  | mapped reached found mem asked =>
    rw [bare_eq, reachesFlag_bare reached] at found
    obtain rfl : banner = _ := Option.some.inj found
    obtain rfl := List.mem_singleton.1 mem
    exact List.mem_singleton.1 asked
  | ruled reached found mem =>
    rw [bare_eq, reachesFlag_bare reached] at found
    obtain rfl : banner = _ := Option.some.inj found
    exact nomatch mem
  | nested _ found mem _ _ ih =>
    rw [bare_eq, ih] at found
    obtain rfl : staff = _ := Option.some.inj found
    exact nomatch mem

theorem acyclic_of_plain (plain : ∀ id segment, c.segments.find? id = some segment →
    segment.rules = []) : c.SegmentsAcyclic := by
  refine .of_rank (fun _ => 0) ?_
  rintro a b ⟨segment, clause, found, mem, -⟩
  rw [plain a segment found] at mem
  exact nomatch mem

theorem bare_acyclic : bare.SegmentsAcyclic := by
  refine acyclic_of_plain fun id segment found => ?_
  rw [bare_eq, Table.find?_cons] at found
  split at found
  · obtain rfl := Option.some.inj found
    rfl
  · exact nomatch found

theorem crowded_acyclic : crowded.SegmentsAcyclic := by
  have segments : crowded.segments =
      [("guests", { staff with identifier := "guests" }), ("staff", staff)] := by decide +kernel
  refine acyclic_of_plain fun id segment found => ?_
  rw [segments, Table.find?_cons, Table.find?_cons] at found
  split at found
  · obtain rfl := Option.some.inj found
    rfl
  · split at found
    · obtain rfl := Option.some.inj found
      rfl
    · exact nomatch found

theorem evaluate_local_banner :
    bare ≠ crowded ∧
      evaluate ⟨bare, percentBucket⟩ "banner" { identifier := "ann" } .boolean =
        evaluate ⟨{ bare with flags := bare.flags.put "footer" banner }, percentBucket⟩ "banner"
          { identifier := "ann" } .boolean ∧
      evaluate ⟨bare, percentBucket⟩ "banner" { identifier := "ann" } .boolean =
        evaluate ⟨crowded, percentBucket⟩ "banner" { identifier := "ann" } .boolean := by
  have footer : Flag.format.decode (Flag.format.encode { banner with key := "footer" }) =
      some { banner with key := "footer" } := by decide +kernel
  have guests : Segment.format.decode (Segment.format.encode { staff with identifier := "guests" })
      = some { staff with identifier := "guests" } := by decide +kernel
  refine ⟨by decide +kernel, ?_, ?_⟩
  · refine (evaluate_local percentBucket "banner" _ .boolean).1 bare _ bare_acyclic bare_acyclic ?_
    refine ⟨fun k reached => ?_, fun id _ => rfl⟩
    rw [reachesFlag_bare reached, Table.find?_put, if_neg (by decide)]
  · refine (evaluate_local percentBucket "banner" _ .boolean).2 _ _ _ _ bare_acyclic
      crowded_acyclic ?_ ?_
    · refine .right (fun flag decoded => nomatch decoded) (.both _ (.right ?_ .nil))
      intro flag decoded reached
      obtain rfl := Option.some.inj (footer.symm.trans decoded)
      exact absurd (reachesFlag_bare reached) (by decide)
    · refine .right ?_ (.both _ .nil)
      intro segment decoded reached
      obtain rfl := Option.some.inj (guests.symm.trans decoded)
      exact absurd (reachesSegment_bare reached) (by decide)

end Evaluator

end FlagHost
