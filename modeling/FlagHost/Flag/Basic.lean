/-!
# Flags and segments

A flag has variations, and says which targets are served which of them. Segments are named groups
of targets that flags and other segments refer to.
-/

namespace FlagHost

inductive Flag.Kind where
  | boolean
  | int
  | string
  | json
deriving DecidableEq, Repr

/-- Whether targets are served by the rules of a flag or by its off variation. -/
inductive Flag.State where
  | on
  | off
deriving DecidableEq, Repr

structure Variation where
  identifier : String
  value : String
  name : Option String := none
deriving DecidableEq, Repr

structure WeightedVariation where
  variation : String
  weight : UInt32
deriving DecidableEq, Repr

/-- A rollout: variations by weight, drawn by an attribute of the target. -/
structure Distribution where
  bucketBy : String
  variations : List WeightedVariation
deriving DecidableEq, Repr

structure Serve where
  variation : Option String := none
  distribution : Option Distribution := none
deriving DecidableEq, Repr

structure Clause where
  attributeName : String := ""
  op : String
  values : List String := []
  negate : Bool := false
deriving DecidableEq, Repr

/-- What is served to the targets that satisfy all clauses; of several rules the one with the least
priority comes first. -/
structure Rule where
  ruleId : Option String := none
  priority : Int32
  clauses : List Clause := []
  serve : Serve
deriving DecidableEq, Repr

structure ListedTarget where
  identifier : String
  name : Option String := none
deriving DecidableEq, Repr

/-- A variation for listed targets and for those of listed segments. -/
structure TargetMap where
  variation : String
  targets : List ListedTarget := []
  segments : List String := []
deriving DecidableEq, Repr

/-- A flag that must have one of the given values. -/
structure Prerequisite where
  flag : String
  values : List String := []
deriving DecidableEq, Repr

structure Flag where
  key : String
  kind : Flag.Kind
  state : Flag.State
  variations : List Variation
  offVariation : String
  defaultServe : Serve
  rules : List Rule := []
  targetMaps : List TargetMap := []
  prerequisites : List Prerequisite := []
  version : Int64 := 0
deriving DecidableEq, Repr

structure Segment where
  identifier : String
  name : Option String := none
  included : List ListedTarget := []
  excluded : List ListedTarget := []
  rules : List Clause := []
  version : Int64 := 0
deriving DecidableEq, Repr

end FlagHost
