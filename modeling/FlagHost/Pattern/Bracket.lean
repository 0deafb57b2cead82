import FlagHost.Pattern.Escape

/-!
# Sets in brackets

A set in brackets is the union of its items, which may be brackets again, or combines two unions.
The reader keeps the open brackets on a list. Case variants are added to a set before its complement
is taken, and to both operands of a combination.
-/

namespace FlagHost.Pattern

open Unicode

/-- A set with the height of the tree by which it was written. -/
structure SetTree where
  set : CodeSet
  height : Nat

inductive SetOp where
  | inter
  | diff
  | symmDiff

def SetOp.apply : SetOp → CodeSet → CodeSet → CodeSet
  | .inter => CodeSet.inter
  | .diff => CodeSet.diff
  | .symmDiff => CodeSet.symmDiff

structure Items where
  set : CodeSet := CodeSet.empty
  count : Nat := 0
  height : Nat := 0

def Items.add (items : Items) (item : SetTree) : Items :=
  ⟨items.set ∪ item.set, items.count + 1, max items.height item.height⟩

/-- The tree of a union; a single item needs no node of its own. -/
def Items.tree (items : Items) : SetTree :=
  ⟨items.set, if items.count ≤ 1 then items.height else items.height + 1⟩

/-- An open bracket: its items, and what they are to be combined with. -/
structure OpenBracket where
  negated : Bool
  left : Option (SetOp × SetTree) := none
  items : Items := {}

def OpenBracket.operand (options : Options) (b : OpenBracket) : SetTree :=
  let right := b.items.tree
  match b.left with
  | none => right
  | some (op, left) =>
    ⟨op.apply (options.fold left.set) (options.fold right.set), max left.height right.height + 1⟩

def OpenBracket.close (options : Options) (b : OpenBracket) : Option SetTree := do
  let tree := b.operand options
  let set ← options.settle b.negated (options.fold tree.set)
  pure ⟨set, tree.height + 1⟩

def OpenBracket.combine (options : Options) (op : SetOp) (b : OpenBracket) : OpenBracket :=
  { b with left := some (op, b.operand options), items := {} }

def OpenBracket.add (b : OpenBracket) (item : SetTree) : OpenBracket :=
  { b with items := b.items.add item }

def asciiSets : List (String × CodeSet) :=
  let digit := CodeSet.range 0x30 0x39
  let upper := CodeSet.range 0x41 0x5A
  let lower := CodeSet.range 0x61 0x7A
  [("alnum", digit ∪ upper ∪ lower),
   ("alpha", upper ∪ lower),
   ("ascii", CodeSet.range 0 0x7F),
   ("blank", CodeSet.single 0x9 ∪ CodeSet.single 0x20),
   ("cntrl", CodeSet.range 0 0x1F ∪ CodeSet.single 0x7F),
   ("digit", digit),
   ("graph", CodeSet.range 0x21 0x7E),
   ("lower", lower),
   ("print", CodeSet.range 0x20 0x7E),
   ("punct", CodeSet.range 0x21 0x2F ∪ CodeSet.range 0x3A 0x40 ∪ CodeSet.range 0x5B 0x60 ∪
     CodeSet.range 0x7B 0x7E),
   ("space", CodeSet.range 0x9 0xD ∪ CodeSet.single 0x20),
   ("upper", upper),
   ("word", asciiWordChars),
   ("xdigit", digit ∪ CodeSet.range 0x41 0x46 ∪ CodeSet.range 0x61 0x66)]

/-- Reads a named set of ASCII characters, `:name:]` or `:^name:]`. What does not have this form is
an ordinary bracket. -/
def readAsciiSet? : List Char → Option (CodeSet × Bool × List Char)
  | ':' :: rest =>
    let (negated, rest) := match rest with
      | '^' :: rest => (true, rest)
      | _ => (false, rest)
    let name := String.ofList (rest.takeWhile (· ≠ ':'))
    match rest.dropWhile (· ≠ ':') with
    | ':' :: ']' :: rest =>
      (asciiSets.find? (·.1 = name)).map fun (_, set) => (set, negated, rest)
    | _ => none
  | _ => none

/-- Reads the start of a bracket: a caret for the complement, and characters that would have a
meaning later: hyphens, or else a closing bracket. -/
def readOpening (options : Options) (cs : List Char) : Option (OpenBracket × List Char) := do
  let (negated, cs) ← match options.skip cs with
    | [] => none
    | '^' :: cs => some (true, options.skip cs)
    | cs => some (false, cs)
  let hyphen : SetTree := ⟨CodeSet.single 0x2D, 0⟩
  let (opened, cs) ← hyphens hyphen ⟨negated, none, {}⟩ cs.length cs
  match cs with
  | [] => none
  | c :: rest =>
    if c = ']' && opened.items.count = 0 then
      let rest := options.skip rest
      if rest.isEmpty then none else some (opened.add ⟨CodeSet.single 0x5D, 0⟩, rest)
    else some (opened, cs)
where
  /-- Reads hyphens. -/
  hyphens (hyphen : SetTree) (b : OpenBracket) : Nat → List Char → Option (OpenBracket × List Char)
    | _, [] => none
    | 0, cs => some (b, cs)
    | fuel + 1, c :: cs =>
      if c = '-' then hyphens hyphen (b.add hyphen) fuel (options.skip cs) else some (b, c :: cs)

/-- The character after the first one, blanks apart. After a hash that starts a comment it is the
first one of the comment. -/
def peekBehind (options : Options) (cs : List Char) : Option Char :=
  let rest := cs.drop 1
  if !options.spaced then rest.head?
  else
    let isBlank := Property.whiteSpace.has
    let next := match rest.dropWhile isBlank with
      | '#' :: comment => (comment.dropWhile isBlank).head?
      | cs => cs.head?
    next.or rest.head?

def readMember (options : Options) : List Char → Option (Primitive × List Char)
  | [] => none
  | '\\' :: cs => readEscape options cs
  | c :: cs => some (.literal ⟨c, false⟩, cs)

def Primitive.memberSet? (options : Options) : Primitive → Option CodeSet
  | .literal l => do
    let _ ← l.set? options
    (l.point? options).map CodeSet.single
  | .set s => some s
  | .look _ => none

def Primitive.endPoint? (options : Options) : Primitive → Option Nat
  | .literal l => l.point? options
  | _ => none

/-- Reads a member or a range. A hyphen in front of a closing bracket or of another hyphen makes no
range. -/
def readRange (options : Options) (cs : List Char) : Option (SetTree × List Char) := do
  let (first, rest) ← readMember options cs
  let rest := options.skip rest
  let next ← rest.head?
  let behind := peekBehind options rest
  if next ≠ '-' || behind = some ']' || behind = some '-' then
    let set ← first.memberSet? options
    pure (⟨set, 0⟩, rest)
  else
    let (last, rest) ← readMember options (options.skip (rest.drop 1))
    let lo ← first.endPoint? options
    let hi ← last.endPoint? options
    if lo ≤ hi then pure (⟨CodeSet.range lo hi, 0⟩, rest) else none

/-- Reads on in the bracket `b`, which stands in those of `outer`, until the outermost is closed. -/
def readMembers (options : Options) (fuel : Nat) (outer : List OpenBracket) (b : OpenBracket)
    (cs : List Char) : Option (SetTree × List Char) :=
  match fuel with
  | 0 => none
  | fuel + 1 =>
    match options.skip cs with
    | [] => none
    | '[' :: rest =>
      match readAsciiSet? rest with
      | some (set, negated, rest) => do
        let set ← options.settle negated (options.fold set)
        readMembers options fuel outer (b.add ⟨set, 0⟩) rest
      | none => do
        let (inner, rest) ← readOpening options rest
        readMembers options fuel (b :: outer) inner rest
    | ']' :: rest => do
      let tree ← b.close options
      match outer with
      | [] => pure (tree, rest)
      | parent :: outer => readMembers options fuel outer (parent.add tree) rest
    | '&' :: '&' :: rest => readMembers options fuel outer (b.combine options .inter) rest
    | '-' :: '-' :: rest => readMembers options fuel outer (b.combine options .diff) rest
    | '~' :: '~' :: rest => readMembers options fuel outer (b.combine options .symmDiff) rest
    | cs => do
      let (tree, rest) ← readRange options cs
      readMembers options fuel outer (b.add tree) rest

def readBracket (options : Options) (cs : List Char) : Option (SetTree × List Char) := do
  let (opened, rest) ← readOpening options cs
  readMembers options (rest.length + 1) [] opened rest

end FlagHost.Pattern
