import FlagHost.Table

/-!
# Documents

The value of a document. Numbers written without a point and an exponent that fit 64 bits are
integers, all others are doubles. An object keeps its members as they were written, also several of
one name; its canonical form has each name once, with the last value, and the names in order.
-/

namespace FlagHost

inductive Json where
  | null
  | boolean (b : Bool)
  | integer (n : Int)
  | float (x : Float)
  | text (s : String)
  | list (items : List Json)
  | object (members : List (String × Json))
deriving Inhabited

namespace Json

mutual

/-- Whether two documents are written the same way, up to the spelling of numbers and texts. -/
def same : Json → Json → Bool
  | null, null => true
  | boolean a, boolean b => a == b
  | integer a, integer b => a == b
  | float a, float b => a == b
  | text a, text b => a == b
  | list as, list bs => sameItems as bs
  | object as, object bs => sameMembers as bs
  | _, _ => false

def sameItems : List Json → List Json → Bool
  | [], [] => true
  | a :: as, b :: bs => same a b && sameItems as bs
  | _, _ => false

def sameMembers : List (String × Json) → List (String × Json) → Bool
  | [], [] => true
  | (k, a) :: as, (l, b) :: bs => k == l && same a b && sameMembers as bs
  | _, _ => false

end

mutual

/-- The document with each name of an object once, with its last value, and in order. -/
def canonical : Json → Json
  | list items => list (canonicalItems items)
  | object members => object (canonicalOnto [] members)
  | v => v

def canonicalItems : List Json → List Json
  | [] => []
  | v :: vs => canonical v :: canonicalItems vs

/-- Puts the members one after another among members that are in order. -/
def canonicalOnto (done : List (String × Json)) : List (String × Json) → List (String × Json)
  | [] => done
  | (k, v) :: rest => canonicalOnto (Table.put k (canonical v) done) rest

end

def equivalent (a b : Json) : Bool := same a.canonical b.canonical

/-- The last member of a name. -/
def lookup (name : String) : List (String × Json) → Option Json
  | [] => none
  | (k, v) :: rest =>
    match lookup name rest with
    | some w => some w
    | none => if k = name then some v else none

def member? (name : String) : Json → Option Json
  | object members => lookup name members
  | _ => none

def text? : Json → Option String
  | text s => some s
  | _ => none

end Json

end FlagHost
