import FlagHost.Flag.Basic
import FlagHost.Json.Format

/-!
# Flags and segments as documents

The formats in which the flag service sends flags and segments.
-/

namespace FlagHost

open Json (Format RecordField Fields)

def required {α : Type} (name : String) (format : Format α) : RecordField α :=
  ⟨name, format, none⟩

/-- A field that stands for `absent` where it is missing. -/
def defaulting {α : Type} (name : String) (format : Format α) (absent : α) : RecordField α :=
  ⟨name, format, some absent⟩

/-- A field without a value where it is missing or null. -/
def nullable {α : Type} (name : String) (format : Format α) : RecordField (Option α) :=
  ⟨name, format.optional, some none⟩

/-- A list that is empty where it is missing. -/
def listing {α : Type} (name : String) (format : Format α) : RecordField (List α) :=
  ⟨name, format.list, some []⟩

def Flag.Kind.names : List (String × Flag.Kind) :=
  [("boolean", .boolean), ("int", .int), ("string", .string), ("json", .json)]

def Flag.Kind.format : Format Flag.Kind := .choice Flag.Kind.names

def Flag.State.format : Format Flag.State := .choice [("on", .on), ("off", .off)]

def Variation.format : Format Variation :=
  (Format.record "a variation" <|
    .cons (required "identifier" .text) <|
    .cons (required "value" .text) <|
    .cons (nullable "name" .text) .nil).map
  (fun (identifier, value, name, ()) => { identifier, value, name })
  fun v => (v.identifier, v.value, v.name, ())

def WeightedVariation.format : Format WeightedVariation :=
  (Format.record "a weighted variation" <|
    .cons (required "variation" .text) <|
    .cons (required "weight" .uint32) .nil).map
  (fun (variation, weight, ()) => { variation, weight })
  fun w => (w.variation, w.weight, ())

def Distribution.format : Format Distribution :=
  (Format.record "a rollout" <|
    .cons (required "bucketBy" .text) <|
    .cons (required "variations" WeightedVariation.format.list) .nil).map
  (fun (bucketBy, variations, ()) => { bucketBy, variations })
  fun d => (d.bucketBy, d.variations, ())

def Serve.format : Format Serve :=
  (Format.record "a serve" <|
    .cons (nullable "variation" .text) <|
    .cons (nullable "distribution" Distribution.format) .nil).map
  (fun (variation, distribution, ()) => { variation, distribution })
  fun s => (s.variation, s.distribution, ())

def Clause.format : Format Clause :=
  (Format.record "a clause" <|
    .cons (defaulting "attribute" .text "") <|
    .cons (required "op" .text) <|
    .cons (listing "values" .text) <|
    .cons (defaulting "negate" .boolean false) .nil).map
  (fun (attributeName, op, values, negate, ()) => { attributeName, op, values, negate })
  fun c => (c.attributeName, c.op, c.values, c.negate, ())

def Rule.format : Format Rule :=
  (Format.record "a rule" <|
    .cons (nullable "ruleId" .text) <|
    .cons (required "priority" .int32) <|
    .cons (listing "clauses" Clause.format) <|
    .cons (required "serve" Serve.format) .nil).map
  (fun (ruleId, priority, clauses, serve, ()) => { ruleId, priority, clauses, serve })
  fun r => (r.ruleId, r.priority, r.clauses, r.serve, ())

def ListedTarget.format : Format ListedTarget :=
  (Format.record "a listed target" <|
    .cons (required "identifier" .text) <|
    .cons (nullable "name" .text) .nil).map
  (fun (identifier, name, ()) => { identifier, name })
  fun t => (t.identifier, t.name, ())

def TargetMap.format : Format TargetMap :=
  (Format.record "a target map" <|
    .cons (required "variation" .text) <|
    .cons (listing "targets" ListedTarget.format) <|
    .cons (listing "targetSegments" .text) .nil).map
  (fun (variation, targets, segments, ()) => { variation, targets, segments })
  fun m => (m.variation, m.targets, m.segments, ())

def Prerequisite.format : Format Prerequisite :=
  (Format.record "a prerequisite" <|
    .cons (required "feature" .text) <|
    .cons (listing "variations" .text) .nil).map
  (fun (flag, values, ()) => { flag, values })
  fun p => (p.flag, p.values, ())

def Flag.format : Format Flag :=
  (Format.record "a flag" <|
    .cons (required "feature" .text) <|
    .cons (required "kind" Flag.Kind.format) <|
    .cons (required "state" Flag.State.format) <|
    .cons (required "variations" Variation.format.list) <|
    .cons (required "offVariation" .text) <|
    .cons (required "defaultServe" Serve.format) <|
    .cons (listing "rules" Rule.format) <|
    .cons (listing "variationToTargetMap" TargetMap.format) <|
    .cons (listing "prerequisites" Prerequisite.format) <|
    .cons (defaulting "version" .int64 0) .nil).map
  (fun (key, kind, state, variations, offVariation, defaultServe, rules, targetMaps,
      prerequisites, version, ()) =>
    { key, kind, state, variations, offVariation, defaultServe, rules, targetMaps, prerequisites,
      version })
  fun f => (f.key, f.kind, f.state, f.variations, f.offVariation, f.defaultServe, f.rules,
    f.targetMaps, f.prerequisites, f.version, ())

def Segment.format : Format Segment :=
  (Format.record "a segment" <|
    .cons (required "identifier" .text) <|
    .cons (nullable "name" .text) <|
    .cons (listing "included" ListedTarget.format) <|
    .cons (listing "excluded" ListedTarget.format) <|
    .cons (listing "rules" Clause.format) <|
    .cons (defaulting "version" .int64 0) .nil).map
  (fun (identifier, name, included, excluded, rules, version, ()) =>
    { identifier, name, included, excluded, rules, version })
  fun s => (s.identifier, s.name, s.included, s.excluded, s.rules, s.version, ())

end FlagHost
