import FlagHost.Pattern.Reader
import FlagHost.Pattern.Search

/-!
# Matching a text

A pattern is held against a text between marks for the start and the end of the text. The pattern
is put between the marks as it is written, so one that closes their group on its own escapes them.
-/

namespace FlagHost.Pattern

def anchored (pattern : String) : String := "^(?:" ++ pattern ++ ")$"

/-- Whether the text matches; nothing matches a pattern that is not valid. -/
def isMatch (pattern text : String) : Bool :=
  match read? (anchored pattern).toList with
  | none => false
  | some regex => regex.occursIn text.toList

end FlagHost.Pattern
