import FlagHost.Unicode.CaseFold
import FlagHost.Unicode.Property

/-!
# Options of a pattern

Letters in a group switch options on and, behind a hyphen, off. They say how the rest of the group
is read.
-/

namespace FlagHost.Pattern

open Unicode

structure Options where
  /-- Letters stand for all their case variants. -/
  caseless : Bool := false
  /-- `^` and `$` look for the ends of lines. -/
  multiLine : Bool := false
  /-- The dot includes line ends. -/
  dotAll : Bool := false
  /-- A carriage return ends a line too. -/
  crlf : Bool := false
  /-- Characters are those of all scripts and not of ASCII alone. -/
  unicode : Bool := true
  /-- White space and comments are passed over. -/
  spaced : Bool := false
deriving DecidableEq, Repr

namespace Options

/-- The options after a letter is switched; `none` for a letter without a meaning. Greediness
decides which of several matches is found, not whether there is one. -/
def switch (options : Options) (letter : Char) (on : Bool) : Option Options :=
  match letter with
  | 'i' => some { options with caseless := on }
  | 'm' => some { options with multiLine := on }
  | 's' => some { options with dotAll := on }
  | 'R' => some { options with crlf := on }
  | 'u' => some { options with unicode := on }
  | 'x' => some { options with spaced := on }
  | 'U' => some options
  | _ => none

/-- Applies letters and at most one hyphen. No letter comes twice, and the hyphen is not the
last. -/
def apply (options : Options) (on : Bool) (seen : List Char) : List Char → Option Options
  | [] => if seen.head? = some '-' then none else some options
  | c :: cs =>
    if seen.contains c then none
    else if c = '-' then apply options false (c :: seen) cs
    else (options.switch c on).bind fun options => apply options on (c :: seen) cs

/-- Passes over white space and over comments, which go from a hash to the end of the line. -/
def skipBlanks (inComment : Bool) : List Char → List Char
  | [] => []
  | c :: cs =>
    if inComment then skipBlanks (c ≠ '\n') cs
    else if c = '#' then skipBlanks true cs
    else if Property.whiteSpace.has c then skipBlanks false cs
    else c :: cs

/-- What is left to read when blanks that do not count are passed over. -/
def skip (options : Options) (cs : List Char) : List Char :=
  if options.spaced then skipBlanks false cs else cs

theorem skipBlanks_length (inComment : Bool) (cs : List Char) :
    (skipBlanks inComment cs).length ≤ cs.length := by
  induction cs generalizing inComment with
  | nil => simp [skipBlanks]
  | cons c cs ih =>
    unfold skipBlanks
    split
    · exact Nat.le_succ_of_le (ih _)
    · split
      · exact Nat.le_succ_of_le (ih _)
      · split
        · exact Nat.le_succ_of_le (ih _)
        · exact Nat.le_refl _

theorem skip_length (options : Options) (cs : List Char) :
    (options.skip cs).length ≤ cs.length := by
  unfold skip
  split
  · exact skipBlanks_length _ _
  · exact Nat.le_refl _

def fold (options : Options) (s : CodeSet) : CodeSet :=
  if !options.caseless then s
  else if options.unicode then s.foldCase
  else s.foldAsciiCase

/-- A set or, if `negated`, the characters outside of it. Without Unicode a set is one of bytes and
must be of ASCII characters alone, so that what it matches is text. -/
def settle (options : Options) (negated : Bool) (s : CodeSet) : Option CodeSet :=
  let s := if negated then s.complement else s
  if options.unicode || s.below 0x80 then some s else none

end Options

end FlagHost.Pattern
