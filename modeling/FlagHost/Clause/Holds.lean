import FlagHost.Clause.Operator
import FlagHost.Flag.Basic
import FlagHost.Target

/-!
# Clauses

A clause with one of the operators is about an attribute of the target. It fails if its operator is
not known or the target lacks the attribute, also when it is negated.
-/

namespace FlagHost

def Clause.holdsFor (clause : Clause) (target : Target) : Bool :=
  match Operator.named? clause.op, target.attribute? clause.attributeName with
  | some op, some found => op.holds found clause.values != clause.negate
  | _, _ => false

end FlagHost
