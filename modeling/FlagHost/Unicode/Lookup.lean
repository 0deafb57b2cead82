import FlagHost.Unicode.Age
import FlagHost.Unicode.Category
import FlagHost.Unicode.Property
import FlagHost.Unicode.Script

/-!
# Sets by name

The code points with a property are asked for by the name of a property with two values, of a
general category or of a script, or by the name of a property and one of its values. Names are
compared without regard to case, blanks, hyphens, underscores and an `is` in front.
-/

namespace FlagHost.Unicode

def foldName (name : String) : String :=
  let (rest, hadIs) := match name.toList with
    | a :: b :: rest =>
      if (a = 'i' ∨ a = 'I') ∧ (b = 's' ∨ b = 'S') then (rest, true) else (name.toList, false)
    | cs => (cs, false)
  let kept := (rest.filter fun c => c.toNat < 128 && c ≠ ' ' && c ≠ '_' && c ≠ '-').map Char.toLower
  String.ofList (if hadIs && kept == ['c'] then ['i', 's', 'c'] else kept)

/-- The short form, which comes first on its line, of a name. -/
def shortName? (lines : List (List String)) (name : String) : Option String :=
  (lines.find? (·.contains name)).bind List.head?

namespace CodeSet

/-- The code points of a general category or a group of them. Surrogates are no characters, so
there is no set of them. -/
def category? (name : String) : Option CodeSet :=
  match name with
  | "any" => some empty.complement
  | "assigned" => some (ofCategories ["cn"]).complement
  | "ascii" => some (range 0 0x7F)
  | _ => do
    let short ← shortName? categoryNames name
    if short = "cs" then none else some (ofCategories (categoryMembers short))

/-- The four-letter name of a script; the code points of no known script are not asked for. -/
def script? (name : String) : Option String :=
  (shortName? scriptNames name).filter (· ≠ "zzzz")

def named? (text : String) : Option CodeSet :=
  let name := foldName text
  ((Property.all.find? (·.1.contains name)).map (·.2)).or
    ((category? name).or ((script? name).map ofScript))

def valued? (property value : String) : Option CodeSet :=
  let value := foldName value
  match foldName property with
  | "gc" | "generalcategory" => category? value
  | "sc" | "script" => (script? value).map ofScript
  | "scx" | "scriptextensions" => (script? value).map ofScriptExtension
  | "age" => (shortName? ageNames value).map ofAge
  | _ => none

end CodeSet

end FlagHost.Unicode
