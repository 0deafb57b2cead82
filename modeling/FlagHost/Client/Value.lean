import FlagHost.Decimal.Reader
import FlagHost.Flag.Basic
import FlagHost.Json.Printer
import FlagHost.Json.Reader

/-!
# Values of flags

The values of a flag are kept as texts. What a text stands for depends on the kind of the flag, and
so does how a value is written for a driver of tests.
-/

namespace FlagHost

namespace Flag.Kind

abbrev Value : Flag.Kind → Type
  | .boolean => Bool
  | .int => Float
  | .string => String
  | .json => Json

def read? : (kind : Flag.Kind) → String → Option kind.Value
  | .boolean, text =>
    if text = "true" then some true else if text = "false" then some false else none
  | .int, text => Decimal.float? text
  | .string, text => some text
  | .json, text => (Json.ofText text).toOption

def write : (kind : Flag.Kind) → kind.Value → String
  | .boolean, b => toString b
  | .int, x => Decimal.floatText .flagValue x
  | .string, s => s
  | .json, v => v.compact

/-- What is answered for a flag without a value, if nothing else is asked for. -/
def absent : (kind : Flag.Kind) → kind.Value
  | .boolean => false
  | .int => 0
  | .string => ""
  | .json => .object []

end Flag.Kind

end FlagHost
