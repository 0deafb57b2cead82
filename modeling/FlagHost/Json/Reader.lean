import FlagHost.Json.Basic
import FlagHost.Json.Lexical

/-!
# Reading documents

Lists and objects are read one step at a time: `nextItem?` and `nextName?` stand in front of the
next item or behind the next name, and tell the end; `endList` and `endObject` pass the closing
bracket. Readers of single types use the same steps as the reader of all documents.

A reader gets bounds: how many levels of lists and objects may still be opened, and a number of
items that no list of the bytes exceeds. The second one only bounds the recursion.
-/

namespace FlagHost.Json

structure Bounds where
  /-- How many lists and objects may still be opened, one in another. -/
  levels : Nat
  /-- No list and no object has as many items. -/
  items : Nat

abbrev Reads (α : Type) := Bounds → Bytes → Except Fault (α × Bytes)

/-- The fault of an item that is not what was expected, for the bytes in front of which it
stands. -/
def unexpected (expected : String) (s : Bytes) : Fault :=
  let wrong (found : Found) (rest : Bytes) : Fault := .at (.wrongType found expected) rest
  let word (w : String) (found : Found) (rest : Bytes) : Fault :=
    match readWord w.toList rest with
    | .ok rest => wrong found rest
    | .error f => f
  let number (negative : Bool) (s : Bytes) : Fault :=
    match readNumber negative s with
    | .ok (.integer n, rest) => wrong (.integer n) rest
    | .ok (.float x, rest) => wrong (.float x) rest
    | .error f => f
  match s with
  | [] => ⟨.expectedValue, 0⟩
  | b :: rest =>
    match Char.ofNat b.toNat with
    | 'n' => word "ull" .null rest
    | 't' => word "rue" (.boolean true) rest
    | 'f' => word "alse" (.boolean false) rest
    | '-' => number true rest
    | '"' =>
      match readText rest with
      | .ok (t, rest) => wrong (.text t) rest
      | .error f => f
    | '[' => wrong .sequence s
    | '\x7b' => wrong .map s
    | _ => if isDigit b then number false s else .seeing .expectedValue s

/-! ## Steps through lists and objects -/

/-- Stands in front of the next item of a list, or tells that the closing bracket comes next. -/
def nextItem? (first : Bool) (s : Bytes) : Except Fault (Option Bytes) :=
  match skipBlanks s with
  | [] => .error ⟨.endInList, 0⟩
  | b :: rest =>
    if b = 93 then .ok none
    else if first then .ok (some (b :: rest))
    else if b = 44 then
      match skipBlanks rest with
      | [] => .error ⟨.endInValue, 0⟩
      | c :: rest =>
        if c = 93 then .error (.at .trailingComma rest) else .ok (some (c :: rest))
    else .error (.at .expectedListComma rest)

def endList (s : Bytes) : Except Fault Bytes :=
  match skipBlanks s with
  | [] => .error ⟨.endInList, 0⟩
  | b :: rest =>
    if b = 93 then .ok rest
    else if b = 44 then
      match skipBlanks rest with
      | [] => .error ⟨.trailingCharacters, 0⟩
      | c :: rest => .error (.at (if c = 93 then .trailingComma else .trailingCharacters) rest)
    else .error (.at .trailingCharacters rest)

/-- Reads the next name of an object, or tells that the closing bracket comes next. -/
def nextName? (first : Bool) (s : Bytes) : Except Fault (Option (String × Bytes)) :=
  match skipBlanks s with
  | [] => .error ⟨.endInObject, 0⟩
  | b :: rest =>
    if b = 125 then .ok none
    else if first then
      if b = 34 then (readText rest).map some else .error (.at .keyNotText rest)
    else if b = 44 then
      match skipBlanks rest with
      | [] => .error ⟨.endInValue, 0⟩
      | c :: rest =>
        if c = 34 then (readText rest).map some
        else .error (.at (if c = 125 then .trailingComma else .keyNotText) rest)
    else .error (.at .expectedObjectComma rest)

def endObject (s : Bytes) : Except Fault Bytes :=
  match skipBlanks s with
  | [] => .error ⟨.endInObject, 0⟩
  | b :: rest =>
    if b = 125 then .ok rest
    else .error (.at (if b = 44 then .trailingComma else .trailingCharacters) rest)

def passColon (s : Bytes) : Except Fault Bytes :=
  match skipBlanks s with
  | [] => .error ⟨.endInObject, 0⟩
  | b :: rest => if b = 58 then .ok rest else .error (.at .expectedColon rest)

/-- Reads the items of a list up to its closing bracket, behind the items in `done`, which are in
reverse. -/
def readItems {α : Type} (item : Bytes → Except Fault (α × Bytes)) :
    Nat → Bool → List α → Bytes → Except Fault (List α × Bytes)
  | 0, _, _, s => .error (.at .endInList s)
  | more + 1, first, done, s => do
    match ← nextItem? first s with
    | none => return (done.reverse, s)
    | some s =>
      let (v, s) ← item s
      readItems item more false (v :: done) s

/-- Reads the members of an object up to its closing bracket, behind the members in `done`, which
are in reverse. -/
def readMembers {α : Type} (value : Bytes → Except Fault (α × Bytes)) :
    Nat → Bool → List (String × α) → Bytes → Except Fault (List (String × α) × Bytes)
  | 0, _, _, s => .error (.at .endInObject s)
  | more + 1, first, done, s => do
    match ← nextName? first s with
    | none => return (done.reverse, s)
    | some (k, s) =>
      let s ← passColon s
      let (v, s) ← value s
      readMembers value more false ((k, v) :: done) s

/-! ## Documents -/

def Number.toJson : Number → Json
  | .integer n => Json.integer n
  | .float x => Json.float x

/-- Reads a document; `levels` lists and objects may be opened, one in another. -/
def readValue (items : Nat) : Nat → Bytes → Except Fault (Json × Bytes)
  | levels, s =>
    match skipBlanks s with
    | [] => .error ⟨.endInValue, 0⟩
    | b :: rest =>
      match Char.ofNat b.toNat with
      | 'n' => (readWord "ull".toList rest).map (Json.null, ·)
      | 't' => (readWord "rue".toList rest).map (Json.boolean true, ·)
      | 'f' => (readWord "alse".toList rest).map (Json.boolean false, ·)
      | '-' => (readNumber true rest).map fun (n, s) => (n.toJson, s)
      | '"' => (readText rest).map fun (t, s) => (Json.text t, s)
      | '[' =>
        match levels with
        | 0 => .error (.at .tooDeep rest)
        | levels + 1 => do
          let (vs, s) ← readItems (readValue items levels) items true [] rest
          let s ← endList s
          return (Json.list vs, s)
      | '\x7b' =>
        match levels with
        | 0 => .error (.at .tooDeep rest)
        | levels + 1 => do
          let (vs, s) ← readMembers (readValue items levels) items true [] rest
          let s ← endObject s
          return (Json.object vs, s)
      | _ =>
        if isDigit b then (readNumber false (b :: rest)).map fun (n, s) => (n.toJson, s)
        else .error (.at .expectedValue rest)

def nestingLimit : Nat := 127

/-- Reads all of the bytes with a reader; only blanks may follow. -/
def readAll {α : Type} (reads : Reads α) (bytes : Bytes) : Except Fault α := do
  let (v, rest) ← reads ⟨nestingLimit, bytes.length + 1⟩ bytes
  match skipBlanks rest with
  | [] => return v
  | _ :: rest => throw (.at .trailingCharacters rest)

def ofBytes (bytes : Bytes) : Except Fault Json :=
  readAll (fun bounds => readValue bounds.items bounds.levels) bytes

def ofText (text : String) : Except Fault Json := ofBytes (Utf8.ofText text)

end FlagHost.Json
