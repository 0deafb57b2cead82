import FlagHost.Unicode.Category
import FlagHost.Unicode.Property

/-!
# Regular expressions

Expressions are built over atoms by sequence, alternative and repetition. The atoms of a pattern
consume one character of a set, or look at the characters around a position and consume nothing.
-/

namespace FlagHost.Pattern

open Unicode

inductive Regex (α : Type) where
  | empty
  | atom (a : α)
  | seq (first second : Regex α)
  | alt (left right : Regex α)
  | rep (body : Regex α) (least : Nat) (most : Option Nat)
  | group (body : Regex α)
deriving Repr, DecidableEq

namespace Regex

def map {α β : Type} (f : α → β) : Regex α → Regex β
  | .empty => .empty
  | .atom a => .atom (f a)
  | .seq r s => .seq (r.map f) (s.map f)
  | .alt r s => .alt (r.map f) (s.map f)
  | .rep r least most => .rep (r.map f) least most
  | .group r => .group (r.map f)

end Regex

def wordChars : CodeSet :=
  Property.alphabetic ∪ CodeSet.ofCategories ["mn", "mc", "me", "nd", "pc"] ∪ Property.joinControl

def asciiWordChars : CodeSet :=
  CodeSet.range 0x30 0x39 ∪ CodeSet.range 0x41 0x5A ∪ CodeSet.single 0x5F ∪ CodeSet.range 0x61 0x7A

inductive WordSide where
  | edge
  | inside
  | start
  | stop
  | startHalf
  | stopHalf
deriving Repr, DecidableEq

inductive Look where
  | textStart
  | textEnd
  | lineStart (crlf : Bool)
  | lineEnd (crlf : Bool)
  | word (side : WordSide) (ascii : Bool)
deriving Repr, DecidableEq

/-- Whether a position between a word character or not and a word character or not is as asked. -/
def WordSide.holds (side : WordSide) (before after : Bool) : Bool :=
  match side with
  | .edge => before != after
  | .inside => before == after
  | .start => !before && after
  | .stop => before && !after
  | .startHalf => !before
  | .stopHalf => !after

/-- Whether a position with the given neighbours is as asked. A pair of carriage return and line
feed is one line end. -/
def Look.holds (before after : Option Char) : Look → Bool
  | .textStart => before.isNone
  | .textEnd => after.isNone
  | .lineStart crlf =>
    before.isNone || before == some '\n' || (crlf && before == some '\r' && after != some '\n')
  | .lineEnd crlf =>
    if crlf then
      after.isNone || after == some '\r' || (after == some '\n' && before != some '\r')
    else after.isNone || after == some '\n'
  | .word side ascii =>
    let isWord := if ascii then asciiWordChars.has else wordChars.has
    side.holds (before.any isWord) (after.any isWord)

inductive Atom where
  | chars (set : CodeSet)
  | look (look : Look)
deriving Repr, DecidableEq

end FlagHost.Pattern
