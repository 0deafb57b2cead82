import FlagHost.Text.Digit
import FlagHost.Unicode.CodeSet

/-!
# Reading tables

The tables of the character set are texts of words with blanks and line ends between them. Numbers
in them are hexadecimal. A table of runs gives for each run its distance from the start of the run
before, so that most numbers are short.
-/

namespace FlagHost.Unicode

def words (text : String) : List String :=
  (text.splitToList fun c => c == ' ' || c == '\n').filter (· ≠ "")

/-- The number that a word writes; other words than numbers count as zero. -/
def tableNumber (word : String) : Nat := (Digit.number? 16 word.toList).getD 0

/-- The running sums of a list of distances, from a start. -/
def sumsFrom (start : Nat) : List Nat → List Nat
  | [] => []
  | d :: ds => (start + d) :: sumsFrom (start + d) ds

def CodeSet.ofDistances (text : String) : CodeSet :=
  ⟨sumsFrom 0 ((words text).map tableNumber)⟩

def splitColon (word : String) : String × String :=
  match word.splitToList (· == ':') with
  | [a, b] => (a, b)
  | _ => (word, "")

/-- Where each run starts and its label; each word is a distance, a colon and a label. -/
def runsOf (text : String) : List (Nat × String) :=
  let entries := (words text).map splitColon
  (sumsFrom 0 (entries.map fun e => tableNumber e.1)).zip (entries.map (·.2))

/-- The points at which the labels of the runs begin or cease to satisfy `p`. -/
def flipsOfRuns (p : String → Bool) (holding : Bool) : List (Nat × String) → List Nat
  | [] => []
  | (start, label) :: rest =>
    if p label = holding then flipsOfRuns p holding rest
    else start :: flipsOfRuns p (p label) rest

def CodeSet.ofRuns (runs : List (Nat × String)) (p : String → Bool) : CodeSet :=
  ⟨flipsOfRuns p false runs⟩

def pairsOf (text : String) : List (Nat × Nat) :=
  (words text).map fun w => let (a, b) := splitColon w; (tableNumber a, tableNumber b)

def classesOf (text : String) : List (List Nat) :=
  (words text).map fun w => (w.splitToList (· == '=')).map tableNumber

def nameLines (text : String) : List (List String) :=
  ((text.splitToList (· == '\n')).map words).filter (· ≠ [])

end FlagHost.Unicode
