import FlagHost.Clause.Holds
import FlagHost.Configuration

/-!
# Evaluation

What a flag serves to a target. A flag that is off serves its off variation, and so does a flag
whose prerequisites are not met. Else the first of these decides that has an answer: the target
maps, the rules in the order of their priorities, and the default.

Segments may refer to segments, and prerequisites to flags that have prerequisites. Segments are
followed as far as there are segments, which is enough if none refers to itself; prerequisites are
followed for a fixed number of levels, behind which they count as not met.
-/

namespace FlagHost

def segmentOp : String := "segmentMatch"

def Target.isListed (target : Target) (list : List ListedTarget) : Bool :=
  list.any (·.identifier == target.identifier)

/-- Whether a clause holds for a target, if `inSegments` says whether it is in listed segments. -/
def Clause.holdsWith (clause : Clause) (inSegments : List String → Bool) (target : Target) : Bool :=
  if clause.op = segmentOp then inSegments clause.values else clause.holdsFor target

def Segment.hasWith (segment : Segment) (inSegments : List String → Bool) (target : Target) :
    Bool :=
  !target.isListed segment.excluded &&
    (target.isListed segment.included ||
      (!segment.rules.isEmpty && segment.rules.all (·.holdsWith inSegments target)))

/-- The rule before all listed ones of equal or greater priority. -/
def Rule.insert (rule : Rule) : List Rule → List Rule
  | [] => [rule]
  | r :: rs => if r.priority < rule.priority then r :: rule.insert rs else rule :: r :: rs

/-- The rules by priority; rules of one priority keep their order. -/
def Rule.byPriority (rules : List Rule) : List Rule := rules.foldr Rule.insert []

def Flag.variation? (flag : Flag) (identifier : String) : Option Variation :=
  flag.variations.find? (·.identifier == identifier)

/-- The flag that is evaluated is on the first level, so chains have up to 32 prerequisites. -/
def prerequisiteLevels : Nat := 33

/-- What evaluation consults: a configuration, and the bucket of a text, of a hundred. -/
structure Evaluator where
  configuration : Configuration
  bucket : String → Nat

namespace Evaluator

/-- Whether the target is in one of the listed segments, which are followed for `depth` levels. -/
def inSegmentsUpTo (e : Evaluator) (target : Target) : Nat → List String → Bool
  | 0, _ => false
  | depth + 1, identifiers => identifiers.any fun identifier =>
    match e.configuration.segments.find? identifier with
    | none => false
    | some segment => segment.hasWith (e.inSegmentsUpTo target depth) target

/-- Where no segment refers to itself, a chain of references has no more members than there are
segments, so that the bound on the depth is never met. -/
def inSegments (e : Evaluator) (target : Target) : List String → Bool :=
  e.inSegmentsUpTo target e.configuration.segments.length

def clauseHolds (e : Evaluator) (target : Target) (clause : Clause) : Bool :=
  clause.holdsWith (e.inSegments target) target

/-- The variation that the target draws: the first one whose weight its bucket does not exceed. The
last one is for all others, and for targets without the attribute that is drawn by. -/
def draw? (e : Evaluator) (target : Target) (rollout : Distribution) : Option String :=
  match rollout.variations.getLast? with
  | none => none
  | some last =>
    match target.attribute? rollout.bucketBy with
    | none => some last.variation
    | some value =>
      let bucket := e.bucket (rollout.bucketBy ++ ":" ++ value)
      let drawn := rollout.variations.find? fun w => 0 < w.weight && bucket ≤ w.weight.toNat
      some (drawn.getD last).variation

/-- What is served: the draw of a rollout if there is one, else a variation. -/
def served? (e : Evaluator) (target : Target) (serve : Serve) : Option String :=
  match serve.distribution with
  | some rollout => e.draw? target rollout
  | none => serve.variation

/-- What the first rule serves whose clauses hold and that serves anything. -/
def ruled? (e : Evaluator) (target : Target) : List Rule → Option String
  | [] => none
  | rule :: rules =>
    if rule.clauses.all (e.clauseHolds target) &&
        (rule.serve.distribution.isSome || rule.serve.variation.isSome) then
      e.served? target rule.serve
    else e.ruled? target rules

def mapped? (e : Evaluator) (target : Target) (maps : List TargetMap) : Option String :=
  (maps.find? fun map => target.isListed map.targets || e.inSegments target map.segments).map
    (·.variation)

/-- What is served by default: the draw of a rollout that has an answer, else a variation. -/
def defaulted? (e : Evaluator) (target : Target) (serve : Serve) : Option String :=
  (serve.distribution.bind (e.draw? target)) <|> serve.variation

/-- The identifier of the variation that a flag serves, its prerequisites apart. -/
def selected? (e : Evaluator) (target : Target) (flag : Flag) : Option String :=
  match flag.state with
  | .off => some flag.offVariation
  | .on =>
    e.mapped? target flag.targetMaps <|>
    e.ruled? target (Rule.byPriority flag.rules) <|>
    e.defaulted? target flag.defaultServe

def targeted? (e : Evaluator) (target : Target) (flag : Flag) : Option Variation :=
  (e.selected? target flag).bind flag.variation?

/-- Whether the prerequisites of a flag are met, and in turn those of the flags that it requires,
which are followed for `levels` levels. A prerequisite that names no flag, or a flag that serves
nothing, is met. Nothing is kept in mind on the way: a flag that several ways lead to is looked at
for each of them. -/
def prerequisitesMet (e : Evaluator) (target : Target) : Nat → Flag → Bool
  | 0, _ => false
  | levels + 1, flag => flag.prerequisites.all fun required =>
    match e.configuration.flags.find? required.flag with
    | none => true
    | some parent =>
      match e.targeted? target parent with
      | none => true
      | some variation =>
        required.values.contains variation.value && e.prerequisitesMet target levels parent

def evaluate (e : Evaluator) (key : String) (target : Target) (kind : Flag.Kind) :
    Option Variation :=
  match e.configuration.flags.find? key with
  | none => none
  | some flag =>
    if flag.kind ≠ kind then none
    else if e.prerequisitesMet target prerequisiteLevels flag then e.targeted? target flag
    else flag.variation? flag.offVariation

end Evaluator

end FlagHost
