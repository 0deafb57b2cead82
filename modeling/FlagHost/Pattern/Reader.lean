import FlagHost.Pattern.Bracket
import FlagHost.Pattern.Weight

/-!
# Reading patterns

A pattern is read from left to right into an expression. The open groups are kept on a list, each
with the options that count again behind it. Main definition: `read?`, which gives nothing for a
text that is not a valid pattern, whatever is wrong with it.
-/

namespace FlagHost.Pattern

open Unicode

/-- A part of a sequence: an expression with the height of the tree by which it was written, or
options that are switched, which nothing can repeat. -/
structure Piece where
  regex : Regex Atom
  height : Nat
  isSwitch : Bool := false

/-- What has been read of a group: its finished alternatives and the parts of the one that is being
read, the last first. -/
structure Body where
  branches : List Piece := []
  pieces : List Piece := []

/-- The height of a tree whose parts are given; a single part needs no node of its own. -/
def jointHeight : List Piece → Nat
  | [] => 0
  | [p] => p.height
  | ps => (ps.map Piece.height).foldl max 0 + 1

def sequence : List Piece → Piece
  | [] => ⟨.empty, 0, false⟩
  | [p] => ⟨p.regex, p.height, false⟩
  | p :: ps => ⟨ps.foldl (fun r q => .seq q.regex r) p.regex, jointHeight (p :: ps), false⟩

def Body.branch (body : Body) : Body := ⟨sequence body.pieces :: body.branches, []⟩

def Body.whole (body : Body) : Piece :=
  let branches := body.branch.branches
  match branches with
  | [] => ⟨.empty, 0, false⟩
  | p :: ps => ⟨ps.foldl (fun r q => .alt q.regex r) p.regex, jointHeight branches, false⟩

def Body.add (body : Body) (piece : Piece) : Body := { body with pieces := piece :: body.pieces }

/-- A group that is open: the options outside of it, whether it captures, and what stands before
it. -/
structure OpenGroup where
  options : Options
  captures : Bool
  before : Body

structure State where
  options : Options := {}
  names : List String := []
  outer : List OpenGroup := []
  body : Body := {}

def State.add (state : State) (piece : Piece) : State := { state with body := state.body.add piece }

def atomPiece (atom : Atom) : Piece := ⟨.atom atom, 0, false⟩

/-- The expression of one character, with its case variants if they count. -/
def Literal.piece? (options : Options) (l : Literal) : Option Piece := do
  let set ← l.set? options
  pure (atomPiece (.chars (options.fold set)))

def Primitive.piece? (options : Options) : Primitive → Option Piece
  | .literal l => l.piece? options
  | .set s => some (atomPiece (.chars s))
  | .look l => some (atomPiece (.look l))

/-- The characters that the dot stands for; it is not for bytes. -/
def dotSet? (options : Options) : Option CodeSet :=
  if !options.unicode then none
  else if options.dotAll then some CodeSet.empty.complement
  else if options.crlf then some (CodeSet.single 0xA ∪ CodeSet.single 0xD).complement
  else some (CodeSet.single 0xA).complement

def isNameChar (first : Bool) (c : Char) : Bool :=
  c = '_' || Property.alphabetic.has c ||
    (!first && (c = '.' || c = '[' || c = ']' || numeric.has c))
where
  /-- Numbers of all kinds. -/
  numeric : CodeSet := CodeSet.ofCategories ["nd", "nl", "no"]

def readName (cs : List Char) : Option (String × List Char) :=
  let name := cs.takeWhile (· ≠ '>')
  match name, cs.dropWhile (· ≠ '>') with
  | c :: more, _ :: rest =>
    if isNameChar true c && more.all (isNameChar false) then some (String.ofList name, rest)
    else none
  | _, _ => none

def State.enter (state : State) (captures : Bool) (options : Options) : State :=
  { state with
    options := options
    outer := ⟨state.options, captures, state.body⟩ :: state.outer
    body := {} }

/-- Reads what stands behind an opening parenthesis: a name or options, with a group that they are
for, or options alone, which are for the rest of the group around. -/
def readOpenGroup (state : State) (cs : List Char) : Option (State × List Char) :=
  match state.options.skip cs with
  | '?' :: 'P' :: '<' :: rest => named rest
  | '?' :: '<' :: rest => named rest
  | '?' :: rest => do
    let letters := rest.takeWhile fun c => c ≠ ':' && c ≠ ')'
    let options ← state.options.apply true [] letters
    match rest.drop letters.length with
    | ':' :: rest => pure (state.enter false options, rest)
    | ')' :: rest =>
      if letters.isEmpty then none
      else pure ({ state with options := options }.add ⟨.empty, 0, true⟩, rest)
    | _ => none
  | cs => some (state.enter true state.options, cs)
where
  /-- Opens a group whose name comes next. A name is given once. -/
  named (cs : List Char) : Option (State × List Char) := do
    let (name, rest) ← readName cs
    if state.names.contains name then none
    else pure ({ state with names := name :: state.names }.enter true state.options, rest)

def State.leave (state : State) : Option State :=
  match state.outer with
  | [] => none
  | g :: outer =>
    let whole := state.body.whole
    let regex := if g.captures then .group whole.regex else whole.regex
    some { state with
      options := g.options
      outer := outer
      body := g.before.add ⟨regex, whole.height + 1, false⟩ }

def State.repeatLast (state : State) (least : Nat) (most : Option Nat) : Option State :=
  match state.body.pieces with
  | [] => none
  | p :: ps =>
    if p.isSwitch then none
    else some { state with
      body := { state.body with pieces := ⟨.rep p.regex least most, p.height + 1, false⟩ :: ps } }

/-- Passes over a question mark, which makes a repetition lazy. -/
def skipLazy : List Char → List Char
  | '?' :: cs => cs
  | cs => cs

def takeDigits (options : Options) : Nat → List Char → List Char × List Char
  | fuel + 1, c :: cs =>
    if c.isDigit then
      let (more, rest) := takeDigits options fuel (options.skip cs)
      (c :: more, rest)
    else ([], c :: cs)
  | _, cs => ([], cs)

def readCount (options : Options) (cs : List Char) : Option (Nat × List Char) :=
  let isBlank := Property.whiteSpace.has
  let (digits, rest) := takeDigits options cs.length (cs.dropWhile isBlank)
  let value := Digit.decimal digits
  if digits.isEmpty || 0x100000000 ≤ value then none else some (value, rest.dropWhile isBlank)

def readCounts (options : Options) (cs : List Char) :
    Option (Nat × Option Nat × List Char) := do
  let (least, rest) ← readCount options (options.skip cs)
  let (most, rest) ← match rest with
    | ',' :: rest =>
      let rest := options.skip rest
      if rest.head? = some '\x7d' then some (none, rest)
      else (readCount options rest).map fun (most, rest) => (some most, rest)
    | _ => some (some least, rest)
  match rest with
  | '\x7d' :: rest =>
    if most.all (least ≤ ·) then some (least, most, skipLazy (options.skip rest)) else none
  | _ => none

def readPiece (state : State) (c : Char) (cs : List Char) : Option (State × List Char) :=
  let options := state.options
  let look (l : Look) : Option (State × List Char) := some (state.add (atomPiece (.look l)), cs)
  match c with
  | '(' => readOpenGroup state cs
  | ')' => state.leave.map (·, cs)
  | '|' => some ({ state with body := state.body.branch }, cs)
  | '[' => do
    let (tree, rest) ← readBracket options cs
    pure (state.add ⟨.atom (.chars tree.set), tree.height, false⟩, rest)
  | '?' => (state.repeatLast 0 (some 1)).map (·, skipLazy cs)
  | '*' => (state.repeatLast 0 none).map (·, skipLazy cs)
  | '+' => (state.repeatLast 1 none).map (·, skipLazy cs)
  | '\x7b' => do
    let (least, most, rest) ← readCounts options cs
    let state ← state.repeatLast least most
    pure (state, rest)
  | '\\' => do
    let (primitive, rest) ← readEscape options cs
    let piece ← primitive.piece? options
    pure (state.add piece, rest)
  | '.' => (dotSet? options).map fun set => (state.add (atomPiece (.chars set)), cs)
  | '^' => look (if options.multiLine then .lineStart options.crlf else .textStart)
  | '$' => look (if options.multiLine then .lineEnd options.crlf else .textEnd)
  | c => do
    let piece ← Literal.piece? options ⟨c, false⟩
    pure (state.add piece, cs)

def readPieces : Nat → State → List Char → Option State
  | fuel, state, cs =>
    match fuel, state.options.skip cs with
    | _, [] => some state
    | 0, _ => none
    | fuel + 1, c :: cs => do
      let (state, rest) ← readPiece state c cs
      readPieces fuel state rest

def heightLimit : Nat := 250

def read? (pattern : List Char) : Option (Regex Atom) := do
  let state ← readPieces pattern.length {} pattern
  if !state.outer.isEmpty then none
  else
    let whole := state.body.whole
    if whole.height ≤ heightLimit && whole.regex.isLightEnough then some whole.regex else none

end FlagHost.Pattern
