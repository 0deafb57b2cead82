import FlagHost.Json.Printer

/-!
# Targets

A target is what a flag is evaluated for: a user, a device, a service. Rules look at it through
named attributes, which are texts. Three names stand for its own fields, whatever custom attributes
it has, and the empty name stands for nothing.
-/

namespace FlagHost

structure Target where
  identifier : String
  name : String := ""
  anonymous : Bool := false
  /-- Custom attributes; of several with one name the last counts. -/
  attributes : List (String × Json) := []
  isPrivate : Bool := false
deriving Inhabited

namespace Target

/-- A custom attribute as a text: a text as it is, anything else as a document. -/
def render : Json → String
  | .text s => s
  | v => v.compact

def attribute? (target : Target) (name : String) : Option String :=
  if name = "" then none
  else if name = "identifier" then some target.identifier
  else if name = "name" then some target.name
  else if name = "anonymous" then some (toString target.anonymous)
  else (Json.lookup name target.attributes).map render

end Target

end FlagHost
