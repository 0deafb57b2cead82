import FlagHost.Unicode.Category
import FlagHost.Unicode.LowerCase
import FlagHost.Url.Encoding
import FlagHost.Url.Punycode

/-!
# Hosts

The host of an address is the number of a machine or a name. Names of the web are written in ASCII
with small letters; a name whose last label is a number must be the number of a machine.

Of the rules that say which characters beyond ASCII may make up a name, and how they are read, there
is only what small letters, categories and a few ranges tell. The table of all characters that are
read as others, the order of combined marks, the rules for scripts that are written from the right,
and those for joiners are left out, so that some names are accepted here that browsers refuse.
-/

namespace FlagHost.Url

def isBetween (lo hi : Nat) (c : Char) : Bool := lo ≤ c.toNat && c.toNat ≤ hi

def forbiddenInDomain (c : Char) : Bool :=
  isControl c || " #/:<>?@[\\]^|%".toList.contains c

def forbiddenInOpaque (c : Char) : Bool :=
  "\x00\t\n\r #/:<>?@[\\]^|".toList.contains c

def pieces (separator : Char) : List Char → List (List Char)
  | [] => [[]]
  | c :: cs =>
    match pieces separator cs with
    | [] => [[]]
    | first :: rest => if c = separator then [] :: first :: rest else (c :: first) :: rest

/-! ## Numbers -/

/-- A part of a machine's number: decimal, with `0x` in front hexadecimal, with `0` octal. -/
def part? (cs : List Char) : Option Nat :=
  match cs with
  | [] => none
  | '0' :: 'x' :: cs | '0' :: 'X' :: cs => Digit.number? 16 cs
  | ['0'] => some 0
  | '0' :: cs => Digit.number? 8 cs
  | cs => Digit.number? 10 cs

/-- The last label of a name, which may end in a dot. -/
def lastLabel (labels : List (List Char)) : List Char :=
  match labels.reverse with
  | [] :: label :: _ => label
  | label :: _ => label
  | [] => []

def endsInNumber (name : List Char) : Bool :=
  let last := lastLabel (pieces '.' name)
  !last.isEmpty && (last.all Char.isDigit || (part? last).isSome)

/-- The number of a machine: up to four parts, of which the last one stands for all bytes that are
left. -/
def machine? (name : List Char) : Option Nat := do
  let parts := pieces '.' name
  let parts := if parts.getLast? = some [] then parts.dropLast else parts
  let numbers ← parts.mapM part?
  let last ← numbers.getLast?
  let others := numbers.dropLast
  if 3 < others.length || others.any (255 < ·) || Nat.pow 256 (4 - others.length) ≤ last then none
  else
    let high := others.foldl (fun n p => 256 * n + p) 0
    some (high * Nat.pow 256 (4 - others.length) + last)

def writeMachine (n : Nat) : List Char :=
  let byte (i : Nat) := toString (n / Nat.pow 256 i % 256)
  (".".intercalate [byte 3, byte 2, byte 1, byte 0]).toList

/-! ## Long numbers -/

def group? (cs : List Char) : Option Nat :=
  if cs.isEmpty || 4 < cs.length then none else Digit.number? 16 cs

/-- Four decimal numbers below 256 without zeros in front, as two groups. -/
def dotted? (cs : List Char) : Option (List Nat) := do
  let byte? (cs : List Char) : Option Nat := do
    let n ← if cs.isEmpty || 3 < cs.length then none else Digit.number? 10 cs
    if 255 < n || (cs.head? = some '0' && 1 < cs.length) then none else some n
  match pieces '.' cs with
  | [a, b, c, d] => do
    let a ← byte? a
    let b ← byte? b
    let c ← byte? c
    let d ← byte? d
    pure [256 * a + b, 256 * c + d]
  | _ => none

/-- The groups between colons; the last one may be dotted. -/
def groups? : List (List Char) → Option (List Nat)
  | [] => some []
  | [last] => if last.contains '.' then dotted? last else (group? last).map ([·])
  | first :: rest => do
    let n ← group? first
    let ns ← groups? rest
    pure (n :: ns)

def splitColons : List Char → Option (List Char × List Char)
  | ':' :: ':' :: cs => some ([], cs)
  | c :: cs => (splitColons cs).map fun (before, after) => (c :: before, after)
  | [] => none

/-- The eight groups of a long number; a pair of colons stands for zeros. -/
def longMachine? (cs : List Char) : Option (List Nat) := do
  let side (cs : List Char) : Option (List Nat) :=
    if cs.isEmpty then some [] else groups? (pieces ':' cs)
  match splitColons cs with
  | none => do
    let gs ← side cs
    if gs.length = 8 then some gs else none
  | some (before, after) => do
    if before.contains '.' then none
    else
      let front ← side before
      let back ← side after
      if 7 < front.length + back.length then none
      else some (front ++ List.replicate (8 - front.length - back.length) 0 ++ back)

def longestZeros (groups : List Nat) : Nat × Nat :=
  (List.range groups.length).foldl (fun (best, start) i =>
    let run := ((groups.drop i).takeWhile (· = 0)).length
    if best < run then (run, i) else (best, start)) (0, 0)

/-- A long number in brackets; the longest run of two or more zeros is left out. -/
def writeLong (groups : List Nat) : List Char :=
  let write (gs : List Nat) : List Char :=
    [':'].intercalate (gs.map fun g => Nat.toDigits 16 g)
  let (run, start) := longestZeros groups
  let inner :=
    if run < 2 then write groups
    else write (groups.take start) ++ [':', ':'] ++ write (groups.drop (start + run))
  '[' :: inner ++ [']']

/-! ## Names -/

/-- What a character of a name is read as: some are passed over, wide forms are narrow ones, and
capitals are small. -/
def domainChar (c : Char) : List Char :=
  let n := c.toNat
  if ignored.any fun (lo, hi) => isBetween lo hi c then []
  else if n = 0x3002 || n = 0xFF61 then ['.']
  else if n = 0xA0 || n = 0x3000 then [' ']
  else if isBetween 0xFF01 0xFF5E c then [(Char.ofNat (n - 0xFEE0)).toLower]
  else Unicode.lowerChar c
where
  /-- Hyphens and blanks that take no room, and marks that only choose a variant. -/
  ignored : List (Nat × Nat) :=
    [(0xAD, 0xAD), (0x34F, 0x34F), (0x180B, 0x180D), (0x180F, 0x180F), (0x200B, 0x200B),
      (0x2060, 0x2060), (0x2064, 0x2064), (0xFE00, 0xFE0F), (0xFEFF, 0xFEFF), (0xE0100, 0xE01EF)]

/-- Characters that are no part of any name: unassigned and private ones, controls, blanks, those
that only tell how others are shown, but not joiners, and those that stand for unknown ones. -/
def isExcluded (c : Char) : Bool := excluded.has c
where
  excluded : Unicode.CodeSet :=
    (Unicode.CodeSet.ofCategories ["cn", "co", "cc", "cf", "zs", "zl", "zp"] \
      .range 0x200C 0x200D) ∪ .range 0xFFFC 0xFFFD

/-- Whether characters are a label of which there may be a code. None is read as something else, and
the first one is no mark, which would have to follow another one. -/
def isEncodable (label : List Char) : Bool :=
  label.all (fun c => domainChar c == [c] && !isExcluded c) && !label.head?.any marks.has
where
  marks : Unicode.CodeSet := Unicode.CodeSet.ofCategories ["mn", "mc", "me"]

/-- A label in ASCII. One that is said to be encoded must be the code of a label that needs it. -/
def asciiLabel? (label : List Char) : Option (List Char) :=
  let mark := "xn--".toList
  if label.all fun c => c.toNat < 0x80 then
    if mark.isPrefixOf label then
      match Punycode.decode (label.drop 4) with
      | none => none
      | some decoded =>
        if decoded.any (fun c => 0x80 ≤ c.toNat) && isEncodable decoded &&
            Punycode.encode decoded == label.drop 4 then
          some label
        else none
    else some label
  else if isEncodable label then some (mark ++ Punycode.encode label)
  else none

def domain? (name : List Char) : Option (List Char) := do
  let labels ← (pieces '.' (name.flatMap domainChar)).mapM asciiLabel?
  let domain := ['.'].intercalate labels
  if domain.any forbiddenInDomain || domain.isEmpty then none else some domain

def webHost? (cs : List Char) : Option (List Char) :=
  match cs with
  | '[' :: rest =>
    if rest.getLast? = some ']' then (longMachine? rest.dropLast).map writeLong else none
  | _ => do
    let text ← Utf8.text? (percentDecode (Utf8.encode cs))
    let domain ← domain? text.toList
    if endsInNumber domain then (machine? domain).map writeMachine else some domain

def opaqueHost? (cs : List Char) : Option (List Char) :=
  match cs with
  | '[' :: rest =>
    if rest.getLast? = some ']' then (longMachine? rest.dropLast).map writeLong else none
  | _ => if cs.any forbiddenInOpaque then none else some (percentEncode isControl cs)

end FlagHost.Url
