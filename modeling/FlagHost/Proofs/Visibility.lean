import FlagHost.Bucket
import FlagHost.Proofs.Correspondence

/-!
# What evaluation sees of a target

Evaluation looks at a target through two windows only: lists of targets show its identifier, and
clauses and rollouts show the attribute that they name. `Names` collects these names over a whole
configuration, so that it does not matter which flags and segments an evaluation comes to, and
`Alike` compares two targets through the windows. Main statement: targets that are alike are served
the same. Nothing is asked of the segments, since both evaluations follow them equally far.

Hence the privacy of a target is never seen, nor is a custom attribute that has the name of a field
or an empty one, nor whether an attribute is a text or a document that reads the same.
-/

namespace FlagHost

/-- The configuration has a clause on the attribute, or a rollout that is drawn by it. -/
inductive Configuration.Names (c : Configuration) : String → Prop where
  | ofRule {key : String} {flag : Flag} {rule : Rule} {clause : Clause}
      (found : c.flags.find? key = some flag) (mem : rule ∈ flag.rules)
      (clause_mem : clause ∈ rule.clauses) (op : clause.op ≠ segmentOp) :
      Names c clause.attributeName
  | ofSegment {id : String} {segment : Segment} {clause : Clause}
      (found : c.segments.find? id = some segment) (mem : clause ∈ segment.rules)
      (op : clause.op ≠ segmentOp) : Names c clause.attributeName
  | byRule {key : String} {flag : Flag} {rule : Rule} {rollout : Distribution}
      (found : c.flags.find? key = some flag) (mem : rule ∈ flag.rules)
      (rolls : rule.serve.distribution = some rollout) : Names c rollout.bucketBy
  | byDefault {key : String} {flag : Flag} {rollout : Distribution}
      (found : c.flags.find? key = some flag)
      (rolls : flag.defaultServe.distribution = some rollout) : Names c rollout.bucketBy

namespace Target

/-! ## Attributes -/

/-- The configuration shows no difference between the targets. -/
structure Alike (c : Configuration) (a b : Target) : Prop where
  identifier : a.identifier = b.identifier
  seen : ∀ name, c.Names name → a.attribute? name = b.attribute? name

/-- The names that do not stand for custom attributes. -/
def reserved : List String := ["", "identifier", "name", "anonymous"]

/-- What is seen of the custom attributes is how those are rendered whose names are not reserved. -/
theorem attribute?_congr (target : Target) {attributes : List (String × Json)}
    (same : ∀ name, name ∉ reserved →
      (Json.lookup name attributes).map render = (Json.lookup name target.attributes).map render)
    (name : String) : { target with attributes }.attribute? name = target.attribute? name := by
  by_cases own : name ∈ reserved
  · simp only [reserved, List.mem_cons, List.not_mem_nil, or_false] at own
    rcases own with rfl | rfl | rfl | rfl <;> simp [attribute?]
  · have same := same name own
    simp only [reserved, List.mem_cons, List.not_mem_nil, or_false, not_or] at own
    simp [attribute?, own, same]

theorem map_lookup_cons (name k : String) (v : Json) (rest : List (String × Json)) :
    (Json.lookup name ((k, v) :: rest)).map render =
      ((Json.lookup name rest).map render).or (if k = name then some (render v) else none) := by
  rw [Json.lookup]
  cases Json.lookup name rest with
  | none => by_cases own : k = name <;> simp [own]
  | some w => rfl

/-- A value may be exchanged for one that is rendered the same. -/
theorem map_lookup_exchange (before after : List (String × Json)) (k : String) {v w : Json}
    (same : render v = render w) (name : String) :
    (Json.lookup name (before ++ (k, v) :: after)).map render =
      (Json.lookup name (before ++ (k, w) :: after)).map render := by
  induction before with
  | nil => simp [map_lookup_cons, same]
  | cons first before ih =>
    obtain ⟨k', u⟩ := first
    simp [map_lookup_cons, ih]

theorem holdsFor_eq {a b : Target} {clause : Clause}
    (same : a.attribute? clause.attributeName = b.attribute? clause.attributeName) :
    clause.holdsFor a = clause.holdsFor b := by
  unfold Clause.holdsFor
  rw [same]

end Target

namespace Evaluator

variable {e : Evaluator} {a b : Target}

/-! ## Targets that are alike -/

theorem draw?_eq_of_attribute {rollout : Distribution}
    (same : a.attribute? rollout.bucketBy = b.attribute? rollout.bucketBy) :
    e.draw? a rollout = e.draw? b rollout := by
  unfold draw?
  rw [same]

theorem served?_eq_of_attribute {serve : Serve} (same : ∀ rollout,
      serve.distribution = some rollout →
        a.attribute? rollout.bucketBy = b.attribute? rollout.bucketBy) :
    e.served? a serve = e.served? b serve := by
  unfold served?
  cases rolls : serve.distribution with
  | none => rfl
  | some rollout => exact draw?_eq_of_attribute (same rollout rolls)

theorem defaulted?_eq_of_attribute {serve : Serve} (same : ∀ rollout,
      serve.distribution = some rollout →
        a.attribute? rollout.bucketBy = b.attribute? rollout.bucketBy) :
    e.defaulted? a serve = e.defaulted? b serve := by
  unfold defaulted?
  cases rolls : serve.distribution with
  | none => rfl
  | some rollout => simp only [Option.bind_some, draw?_eq_of_attribute (same rollout rolls)]

/-- A flag of the configuration, together with itself. -/
def Known (e : Evaluator) (flag flag' : Flag) : Prop :=
  flag = flag' ∧ ∃ key, e.configuration.flags.find? key = some flag

theorem known_find? (e : Evaluator) (key : String) :
    Option.Rel e.Known (e.configuration.flags.find? key) (e.configuration.flags.find? key) := by
  cases found : e.configuration.flags.find? key with
  | none => exact .none
  | some flag => exact .some ⟨rfl, key, found⟩

section Alike

variable (alike : a.Alike e.configuration b)
include alike

theorem isListed_eq_of_alike (list : List ListedTarget) : a.isListed list = b.isListed list := by
  unfold Target.isListed
  rw [alike.identifier]

theorem clausesAgree_of_alike {clauses : List Clause}
    (named : ∀ clause ∈ clauses, clause.op ≠ segmentOp →
      e.configuration.Names clause.attributeName) :
    Shuffled (ClausesAgree a b fun _ => True) clauses clauses := by
  apply clausesAgree_self
  · simp
  · exact fun clause mem op => Target.holdsFor_eq (alike.seen _ (named clause mem op))

theorem flagsAgree_of_alike {key : String} {flag : Flag}
    (found : e.configuration.flags.find? key = some flag) :
    e.FlagsAgree e a b (fun _ => True) flag flag := by
  apply flagsAgree_self (isListed_eq_of_alike alike)
  · simp
  · intro rule mem
    exact
      { serve := rfl
        clauses := clausesAgree_of_alike alike fun _ => .ofRule found mem
        served := served?_eq_of_attribute fun _ rolls =>
          alike.seen _ (.byRule found mem rolls) }
  · exact defaulted?_eq_of_attribute fun _ rolls => alike.seen _ (.byDefault found rolls)

theorem corresponds_of_alike : e.Corresponds e a b (fun _ => True) e.Known where
  flags := by
    rintro flag _ ⟨rfl, key, found⟩
    exact flagsAgree_of_alike alike found
  prerequisites := by
    rintro flag _ ⟨rfl, -⟩
    exact .of_forall fun required _ => ⟨e.known_find? required.flag, fun _ => .rfl⟩
  segments id _ := by
    cases found : e.configuration.segments.find? id with
    | none => exact .none
    | some segment =>
      exact .some
        { included := isListed_eq_of_alike alike segment.included
          excluded := isListed_eq_of_alike alike segment.excluded
          rules := clausesAgree_of_alike alike fun _ => .ofSegment found }

theorem evaluate_eq_of_alike (key : String) (kind : Flag.Kind) :
    e.evaluate key a kind = e.evaluate key b kind := by
  have corresponds := corresponds_of_alike alike
  exact corresponds.evaluate_eq (corresponds.inSegments_of_length rfl) (e.known_find? key) kind

end Alike

/-- Evaluation sees the identifier of a target and the attributes that the configuration names, as
they are rendered, and nothing else. -/
theorem evaluate_sees_named (e : Evaluator) (key : String) (kind : Flag.Kind) :
    (∀ a b : Target, a.Alike e.configuration b →
      e.evaluate key a kind = e.evaluate key b kind) ∧
    (∀ (target : Target) (isPrivate : Bool),
      e.evaluate key { target with isPrivate } kind = e.evaluate key target kind) ∧
    (∀ (target : Target) (attributes : List (String × Json)),
      (∀ name, name ∉ Target.reserved →
        Json.lookup name attributes = Json.lookup name target.attributes) →
      e.evaluate key { target with attributes } kind = e.evaluate key target kind) ∧
    (∀ (target : Target) (before after : List (String × Json)) (name : String) (v w : Json),
      Target.render v = Target.render w →
      e.evaluate key { target with attributes := before ++ (name, v) :: after } kind =
        e.evaluate key { target with attributes := before ++ (name, w) :: after } kind) ∧
    (∀ (target : Target) (before after : List (String × Json)) (name : String) (v : Json),
      (∀ s, v ≠ .text s) →
      e.evaluate key { target with attributes := before ++ (name, .text v.compact) :: after } kind =
        e.evaluate key { target with attributes := before ++ (name, v) :: after } kind) := by
  have exchange (target : Target) (before after : List (String × Json)) (name : String)
      (v w : Json) (same : Target.render v = Target.render w) :
      e.evaluate key { target with attributes := before ++ (name, v) :: after } kind =
        e.evaluate key { target with attributes := before ++ (name, w) :: after } kind := by
    apply evaluate_eq_of_alike
    refine ⟨rfl, fun asked _ => ?_⟩
    exact Target.attribute?_congr { target with attributes := before ++ (name, w) :: after }
      (fun other _ => Target.map_lookup_exchange before after name same other) asked
  refine ⟨fun a b alike => evaluate_eq_of_alike alike key kind, ?_, ?_, exchange, ?_⟩
  · intro target isPrivate
    apply evaluate_eq_of_alike
    exact ⟨rfl, fun _ _ => rfl⟩
  · intro target attributes same
    apply evaluate_eq_of_alike
    refine ⟨rfl, fun asked _ => ?_⟩
    exact Target.attribute?_congr target (fun name free => by rw [same name free]) asked
  · intro target before after name v other
    apply exchange
    cases v with
    | text s => exact absurd rfl (other s)
    | _ => rfl

namespace Seats

/-- Members come from one country. -/
def members : Segment where
  identifier := "members"
  rules := [{ attributeName := "country", op := "equal_sensitive", values := ["NL"] }]

/-- A discount for members on a plan, rolled out by seat. -/
def discount : Flag where
  key := "discount"
  kind := .boolean
  state := .on
  variations := [⟨"on", "true", none⟩, ⟨"off", "false", none⟩]
  offVariation := "off"
  defaultServe := { variation := some "off" }
  rules :=
    [{ priority := 0
       clauses :=
         [{ op := "segmentMatch", values := ["members"] },
          { attributeName := "plan", op := "in", values := ["41", "42"] }]
       serve := { distribution := some ⟨"seat", [⟨"on", 90⟩, ⟨"off", 100⟩]⟩ } }]

def seats : Configuration where
  segments := [("members", members)]
  flags := [("discount", discount)]

theorem find?_flags {key : String} {flag : Flag} (found : seats.flags.find? key = some flag) :
    flag = discount := by
  simp only [seats, Table.find?_cons, Table.find?_nil] at found
  split at found
  · exact (Option.some.inj found).symm
  · cases found

theorem find?_segments {id : String} {segment : Segment}
    (found : seats.segments.find? id = some segment) : segment = members := by
  simp only [seats, Table.find?_cons, Table.find?_nil] at found
  split at found
  · exact (Option.some.inj found).symm
  · cases found

theorem names_seats {name : String} (h : seats.Names name) :
    name = "country" ∨ name = "plan" ∨ name = "seat" := by
  cases h with
  | ofRule found mem clause_mem op =>
    rw [find?_flags found] at mem
    cases List.mem_singleton.1 mem
    rcases List.mem_pair.1 clause_mem with rfl | rfl
    · exact absurd rfl op
    · simp
  | ofSegment found mem =>
    rw [find?_segments found] at mem
    cases List.mem_singleton.1 mem
    simp
  | byRule found mem rolls =>
    rw [find?_flags found] at mem
    cases List.mem_singleton.1 mem
    cases rolls
    simp
  | byDefault found rolls =>
    rw [find?_flags found] at rolls
    cases rolls

end Seats

open Seats

/-- Ann and Anna have the same identifier and the same plan, one of them written as a number. -/
theorem evaluate_sees_named_seats :
    let e : Evaluator := ⟨seats, percentBucket⟩
    let plain : List (String × Json) := [("seat", .text "7a"), ("country", .text "NL")]
    let ann : Target :=
      { identifier := "ann", name := "Ann", attributes := ("plan", .integer 42) :: plain }
    let anna : Target :=
      { identifier := "ann", name := "Anna", anonymous := true, isPrivate := true
        attributes := ("name", .null) :: ("plan", .text "42") :: plain }
    let on : Variation := ⟨"on", "true", none⟩
    ann.Alike e.configuration anna ∧
      e.evaluate "discount" ann .boolean = some on ∧
      e.evaluate "discount" anna .boolean = some on ∧
      e.evaluate "discount" { ann with isPrivate := true } .boolean = some on ∧
      e.evaluate "discount"
        { ann with attributes := ("", .null) :: ("plan", .integer 42) :: plain } .boolean =
          some on ∧
      e.evaluate "discount" { ann with attributes := ("plan", .text "42") :: plain } .boolean =
        some on ∧
      e.evaluate "discount"
        { ann with attributes := ("plan", .text (Json.compact (.integer 42))) :: plain } .boolean =
          some on := by
  intro e plain ann anna on
  obtain ⟨alike, hidden, custom, exchanged, compacted⟩ := evaluate_sees_named e "discount" .boolean
  have same : ann.Alike e.configuration anna := by
    refine ⟨rfl, fun name named => ?_⟩
    rcases names_seats named with rfl | rfl | rfl <;> decide +kernel
  have served : e.evaluate "discount" ann .boolean = some on := by decide +kernel
  have rendered : Target.render (.text "42") = Target.render (.integer 42) := by decide +kernel
  refine ⟨same, served, (alike ann anna same).symm.trans served, (hidden ann true).trans served,
    (custom ann _ fun name free => ?_).trans served,
    (exchanged ann [] plain "plan" _ _ rendered).trans served,
    (compacted ann [] plain "plan" (.integer 42) fun s text => nomatch text).trans served⟩
  have named : "" ≠ name := by
    rintro rfl
    exact free (by decide)
  rw [Json.lookup, if_neg named]
  cases Json.lookup name (("plan", .integer 42) :: plain) <;> rfl

end Evaluator

end FlagHost
