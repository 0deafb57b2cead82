import FlagHost.Unicode.Property

/-!
# Blank texts

Keys and names that hold nothing but white space count as missing. White space is what has that
property of characters, in any script.
-/

namespace FlagHost.Unicode

def isBlank (text : String) : Bool := text.toList.all Property.whiteSpace.has

@[simp] theorem isBlank_empty : isBlank "" = true := rfl

end FlagHost.Unicode
