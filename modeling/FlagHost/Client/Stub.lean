import FlagHost.Client.FlagClient

/-!
# A stub

A client with fixed answers, to try a server without a flag service.
-/

namespace FlagHost

structure StubClient where
  initialized : Bool := true
  /-- Whether the client stays initialized when it is destroyed. -/
  survives : Bool := false
deriving DecidableEq, Repr

namespace StubClient

def describe (target : Target) : String :=
  "|".intercalate [target.identifier, target.name, toString target.anonymous,
    toString target.attributes.length, toString target.isPrivate]

def answer? : (kind : Flag.Kind) → String → Target → Option kind.Value
  | .boolean, "flag1", _ => some true
  | .int, "count", _ => some (42 : Float)
  | .int, "ratio", _ => some (0.5 : Float)
  | .string, "color", _ => some "blue"
  | .string, "target", target => some (describe target)
  | .json, "settings", _ => some (.object [("theme", .text "dark")])
  | _, _, _ => none

instance : FlagClient StubClient where
  isInitialized := initialized
  becameReady := initialized
  destroy c := if c.survives then c else { c with initialized := false }
  value _ kind key target default := (answer? kind key target).getD default

end StubClient

end FlagHost
