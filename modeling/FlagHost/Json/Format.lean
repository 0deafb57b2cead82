import FlagHost.Json.Skip

/-!
# Formats

A format says how the values of a type stand in documents. It writes a value as a document, decodes
a document that was read before, and reads a value straight from bytes, with faults that name what
was expected. Formats of records are put together from those of their fields.

A record is written as an object. It is also read from a list of its fields in their order. Members
that are no fields are skipped, a field that comes twice is a fault, and so is a missing one, unless
the field has a value to stand for it.
-/

namespace FlagHost.Json

/-- How the values of a type stand in documents. -/
structure Format (α : Type) where
  encode : α → Json
  decode : Json → Option α
  read : Reads α

namespace Format

variable {α β : Type}

/-- The same documents for a type whose values correspond to those of another one. -/
def map (forth : α → β) (back : β → α) (f : Format α) : Format β where
  encode b := f.encode (back b)
  decode v := (f.decode v).map forth
  read bounds s := (f.read bounds s).map fun (a, s) => (forth a, s)

def document : Format Json where
  encode v := v
  decode := some
  read bounds s := readValue bounds.items bounds.levels s

def text : Format String where
  encode := Json.text
  decode := Json.text?
  read _ s :=
    match skipBlanks s with
    | [] => .error ⟨.endInValue, 0⟩
    | b :: rest => if b = 34 then readText rest else .error (unexpected "a string" (b :: rest))

def boolean : Format Bool where
  encode := Json.boolean
  decode
    | Json.boolean b => some b
    | _ => none
  read _ s :=
    match skipBlanks s with
    | [] => .error ⟨.endInValue, 0⟩
    | b :: rest =>
      match Char.ofNat b.toNat with
      | 't' => (readWord "rue".toList rest).map (true, ·)
      | 'f' => (readWord "alse".toList rest).map (false, ·)
      | _ => .error (unexpected "a boolean" (b :: rest))

/-- Integers from `lo` to `hi`, whose type messages call `name`. -/
def integer (name : String) (lo hi : Int) : Format Int where
  encode := Json.integer
  decode
    | Json.integer n => if lo ≤ n ∧ n ≤ hi then some n else none
    | _ => none
  read _ s :=
    let number (negative : Bool) (s : Bytes) : Except Fault (Int × Bytes) :=
      match readNumber negative s with
      | .ok (.integer n, rest) =>
        if lo ≤ n ∧ n ≤ hi then .ok (n, rest)
        else .error (.at (.wrongValue (.integer n) name) rest)
      | .ok (.float x, rest) => .error (.at (.wrongType (.float x) name) rest)
      | .error f => .error f
    match skipBlanks s with
    | [] => .error ⟨.endInValue, 0⟩
    | b :: rest =>
      if b = 45 then number true rest
      else if isDigit b then number false (b :: rest)
      else .error (unexpected name (b :: rest))

def uint16 : Format UInt16 :=
  (integer "u16" 0 65535).map (fun n : Int => UInt16.ofNat n.toNat) fun n => (n.toNat : Int)

def uint32 : Format UInt32 :=
  (integer "u32" 0 4294967295).map (fun n : Int => UInt32.ofNat n.toNat) fun n => (n.toNat : Int)

def int32 : Format Int32 :=
  (integer "i32" (-2147483648) 2147483647).map Int32.ofInt Int32.toInt

def int64 : Format Int64 :=
  (integer "i64" (-9223372036854775808) 9223372036854775807).map Int64.ofInt Int64.toInt

def optional (f : Format α) : Format (Option α) where
  encode
    | none => Json.null
    | some a => f.encode a
  decode
    | Json.null => some none
    | v => (f.decode v).map some
  read bounds s :=
    match skipBlanks s with
    | 110 :: rest => (readWord "ull".toList rest).map (none, ·)
    | s => (f.read bounds s).map fun (a, s) => (some a, s)

def decodeAll (f : Format α) : List Json → Option (List α)
  | [] => some []
  | v :: vs => do
    let a ← f.decode v
    let as ← decodeAll f vs
    return a :: as

def list (f : Format α) : Format (List α) where
  encode as := Json.list (as.map f.encode)
  decode
    | Json.list vs => f.decodeAll vs
    | _ => none
  read bounds s :=
    match skipBlanks s with
    | [] => .error ⟨.endInValue, 0⟩
    | b :: rest =>
      if b = 91 then
        match bounds.levels with
        | 0 => .error (.at .tooDeep rest)
        | levels + 1 => do
          let (as, s) ←
            readItems (f.read { bounds with levels := levels }) bounds.items true [] rest
          let s ← endList s
          return (as, s)
      else .error (unexpected "a sequence" (b :: rest))

/-- One of several values, each with a name. A value is written as its name, and may also be written
as an object with the name as its only member, whose value is null. -/
def choice [BEq α] (choices : List (String × α)) : Format α where
  encode a :=
    match choices.find? (·.2 == a) with
    | some (name, _) => Json.text name
    | none => Json.null
  decode
    | Json.text name => choices.lookup name
    | Json.object [(name, Json.null)] => choices.lookup name
    | _ => none
  read bounds s :=
    let name (s : Bytes) : Except Fault (α × Bytes) := do
      let (name, s) ← Format.text.read bounds s
      match choices.lookup name with
      | some a => return (a, s)
      | none => throw (.at (.unknownChoice name (choices.map (·.1))) s)
    match skipBlanks s with
    | [] => .error ⟨.endInValue, 0⟩
    | 34 :: rest => name (34 :: rest)
    | 123 :: rest =>
      match bounds.levels with
      | 0 => .error (.at .tooDeep rest)
      | _ + 1 => do
        let (a, s) ← name rest
        let s ← passColon s
        let s ←
          match skipBlanks s with
          | [] => throw ⟨.endInValue, 0⟩
          | 110 :: rest => readWord "ull".toList rest
          | s => throw (unexpected "unit" s)
        match skipBlanks s with
        | 125 :: rest => return (a, rest)
        | [] => throw ⟨.endInObject, 0⟩
        | s => throw (.at .expectedValue s)
    | _ :: rest => .error (.at .expectedValue rest)

def ofBytes (f : Format α) (bytes : Bytes) : Except Defect α :=
  (readAll f.read bytes).mapError (⟨bytes, ·⟩)

end Format

/-! ## Records -/

structure RecordField (α : Type) where
  name : String
  format : Format α
  /-- The value of a field that is missing, if it may be missing. -/
  absent : Option α

inductive Fields : List Type → Type 1 where
  | nil : Fields []
  | cons {α : Type} {αs : List Type} (field : RecordField α) (rest : Fields αs) : Fields (α :: αs)

def Values : List Type → Type
  | [] => Unit
  | α :: αs => α × Values αs

/-- The values of those fields of a record that have been met. -/
def Slots : List Type → Type
  | [] => Unit
  | α :: αs => Option α × Slots αs

namespace Fields

def count : {αs : List Type} → Fields αs → Nat
  | _, nil => 0
  | _, cons _ rest => rest.count + 1

def encode : {αs : List Type} → Fields αs → Values αs → List (String × Json)
  | _, nil, _ => []
  | _, cons field rest, (a, as) => (field.name, field.format.encode a) :: rest.encode as

def unmet : {αs : List Type} → Fields αs → Slots αs
  | _, nil => ()
  | _, cons _ rest => (none, rest.unmet)

/-- Whether the field of a name has been met; `none` if no field has the name. -/
def met? (name : String) : {αs : List Type} → Fields αs → Slots αs → Option Bool
  | _, nil, _ => none
  | _, cons field rest, (slot, slots) =>
    if field.name = name then some slot.isSome else rest.met? name slots

/-- Fills the slot of a name with what `value` makes of the field's format. -/
def fill {m : Type → Type} [Monad m] (name : String)
    (value : {α : Type} → Format α → m α) : {αs : List Type} → Fields αs → Slots αs → m (Slots αs)
  | _, nil, slots => pure slots
  | _, cons field rest, (slot, slots) =>
    if field.name = name then do
      let a ← value field.format
      pure (some a, slots)
    else do
      let slots ← rest.fill name value slots
      pure (slot, slots)

/-- The values of all fields, those that were not met by the values that stand for them; otherwise
the name of the first field that is missing. -/
def complete : {αs : List Type} → Fields αs → Slots αs → Except String (Values αs)
  | _, nil, _ => .ok ()
  | _, cons field rest, (slot, slots) =>
    match slot <|> field.absent with
    | some a => (rest.complete slots).map (a, ·)
    | none => .error field.name

def decodeMembers {αs : List Type} (fields : Fields αs) :
    Slots αs → List (String × Json) → Option (Slots αs)
  | slots, [] => some slots
  | slots, (name, v) :: members =>
    match fields.met? name slots with
    | none => fields.decodeMembers slots members
    | some true => none
    | some false => do
      let slots ← fields.fill name (fun f => f.decode v) slots
      fields.decodeMembers slots members

def decodeItems : {αs : List Type} → Fields αs → List Json → Option (Values αs)
  | _, nil, [] => some ()
  | _, nil, _ :: _ => none
  | _, cons field rest, [] =>
    match field.absent with
    | some a => (rest.decodeItems []).map (a, ·)
    | none => none
  | _, cons field rest, v :: vs => do
    let a ← field.format.decode v
    let as ← rest.decodeItems vs
    return (a, as)

/-- Reads one member of an object behind its name. A field that was met before is noticed here; its
fault lies behind the blanks that follow the name, and behind the closing bracket if one follows. -/
def readMember {αs : List Type} (fields : Fields αs) (bounds : Bounds) (slots : Slots αs)
    (name : String) (s : Bytes) : Except Fault (Slots αs × Bytes) :=
  match fields.met? name slots with
  | some true =>
    match skipBlanks s with
    | 125 :: rest => .error (.at (.duplicateField name) rest)
    | rest => .error (.at (.duplicateField name) rest)
  | some false => do
    let s ← passColon s
    (fields.fill name (fun f => StateT.mk (f.read bounds)) slots : StateT Bytes (Except Fault) _) s
  | none => do
    let s ← passColon s
    let s ← skipValue bounds s
    return (slots, s)

def readObject {αs : List Type} (fields : Fields αs) (bounds : Bounds) :
    Nat → Bool → Slots αs → Bytes → Except Fault (Values αs × Bytes)
  | 0, _, _, s => .error (.at .endInObject s)
  | more + 1, first, slots, s => do
    match ← nextName? first s with
    | some (name, s) =>
      let (slots, s) ← fields.readMember bounds slots name s
      fields.readObject bounds more false slots s
    | none =>
      let s ← endObject s
      match fields.complete slots with
      | .ok as => return (as, s)
      | .error name => throw (.at (.missingField name) s)

def tooFew (n : Nat) (expected : String) (s : Bytes) : Fault :=
  match endList s with
  | .ok rest => .at (.wrongLength n expected) rest
  | .error f => f

/-- Reads the items of a list as the values of the fields in their order, behind `n` items. -/
def readList (expected : String) (bounds : Bounds) :
    {αs : List Type} → Fields αs → Nat → Bytes → Except Fault (Values αs × Bytes)
  | _, nil, _, s => do
    let s ← endList s
    return ((), s)
  | _, cons field rest, n, s => do
    match ← nextItem? (n == 0) s with
    | some s =>
      let (a, s) ← field.format.read bounds s
      let (as, s) ← rest.readList expected bounds (n + 1) s
      return ((a, as), s)
    | none =>
      match field.absent with
      | some a =>
        let (as, s) ← rest.readList expected bounds (n + 1) s
        return ((a, as), s)
      | none => throw (tooFew n expected s)

end Fields

/-- Records whose type messages call `name`. -/
def Format.record {αs : List Type} (name : String) (fields : Fields αs) : Format (Values αs) where
  encode as := Json.object (fields.encode as)
  decode
    | Json.object members =>
      (fields.decodeMembers fields.unmet members).bind fun slots => (fields.complete slots).toOption
    | Json.list items => fields.decodeItems items
    | _ => none
  read bounds s :=
    let expected := name ++ " with " ++ toString fields.count ++
      (if fields.count = 1 then " element" else " elements")
    match skipBlanks s with
    | [] => .error ⟨.endInValue, 0⟩
    | b :: rest =>
      if b = 123 ∨ b = 91 then
        match bounds.levels with
        | 0 => .error (.at .tooDeep rest)
        | levels + 1 =>
          let bounds := { bounds with levels := levels }
          if b = 123 then fields.readObject bounds bounds.items true fields.unmet rest
          else fields.readList expected bounds 0 rest
      else .error (unexpected name (b :: rest))

end FlagHost.Json
