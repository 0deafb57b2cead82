import FlagHost.Pattern.Match
import FlagHost.Unicode.LowerCase

/-!
# Operators

An operator holds an attribute of a target against the values of a clause. Of several values all
operators but `in` use the first one alone, and without any value no operator holds.
-/

namespace FlagHost

/-- Whether the characters stand somewhere in the others, one behind the other. -/
def occursIn (part : List Char) : List Char → Bool
  | [] => part.isEmpty
  | c :: cs => part.isPrefixOf (c :: cs) || occursIn part cs

inductive Operator where
  | startsWith
  | endsWith
  | matchesPattern
  | contains
  | equal
  | equalSensitive
  | isAmong
deriving DecidableEq, Repr

namespace Operator

def names : List (String × Operator) :=
  [("starts_with", .startsWith), ("ends_with", .endsWith), ("match", .matchesPattern),
   ("contains", .contains), ("equal", .equal), ("equal_sensitive", .equalSensitive),
   ("in", .isAmong)]

def named? (name : String) : Option Operator := names.lookup name

def compare (op : Operator) (found value : String) : Bool :=
  match op with
  | .startsWith => value.toList.isPrefixOf found.toList
  | .endsWith => value.toList.isSuffixOf found.toList
  | .matchesPattern => Pattern.isMatch value found
  | .contains => occursIn value.toList found.toList
  | .equal => Unicode.lowerCase found == Unicode.lowerCase value
  | .equalSensitive => found == value
  | .isAmong => found == value

def holds (op : Operator) (found : String) (values : List String) : Bool :=
  match op, values with
  | .isAmong, values => values.any (op.compare found)
  | _, [] => false
  | op, first :: _ => op.compare found first

end Operator

end FlagHost
