import FlagHost.Json.Reader

/-!
# Skipping values

The value of a member that nobody asked for is skipped. It must be written correctly, but it may be
nested to any depth, its numbers may be out of range, and its texts need not be made of characters.
-/

namespace FlagHost.Json

def skipText : Bytes → Except Fault Bytes
  | [] => .error ⟨.endInText, 0⟩
  | b :: s =>
    if b = 34 then .ok s
    else if b = 92 then
      match s with
      | [] => .error ⟨.endInText, 0⟩
      | e :: s =>
        if e = 117 then
          match s with
          | h₁ :: h₂ :: h₃ :: h₄ :: s =>
            if (hexNumber? h₁ h₂ h₃ h₄).isSome then skipText s else .error (.at .invalidEscape s)
          | _ => .error ⟨.endInText, 0⟩
        else if (escaped? e).isSome then skipText s
        else .error (.at .invalidEscape s)
    else if b < 32 then .error (.at .controlCharacter (b :: s))
    else skipText s

def skipExponent (s : Bytes) : Except Fault Bytes :=
  let s := match s with
    | 43 :: s => s
    | 45 :: s => s
    | s => s
  match s with
  | [] => .error ⟨.invalidNumber, 0⟩
  | b :: s => if isDigit b then .ok (skipDigits s) else .error (.at .invalidNumber s)

/-- Passes what can follow the digits of a number: an exponent, or nothing. -/
def skipScale (s : Bytes) : Except Fault Bytes :=
  match s with
  | 101 :: s => skipExponent s
  | 69 :: s => skipExponent s
  | s => .ok s

def skipNumberTail (s : Bytes) : Except Fault Bytes :=
  match s with
  | 46 :: s =>
    if digitNext s then skipScale (skipDigits s) else .error (.seeing .invalidNumber s)
  | s => skipScale s

def skipNumber (s : Bytes) : Except Fault Bytes :=
  match s with
  | [] => .error ⟨.invalidNumber, 0⟩
  | b :: s =>
    if b = 48 then
      if digitNext s then .error (.seeing .invalidNumber s) else skipNumberTail s
    else if isDigit b then skipNumberTail (skipDigits s)
    else .error (.at .invalidNumber s)

inductive Frame where
  | list
  | object
deriving DecidableEq

namespace Frame

def closing : Frame → UInt8
  | list => 93
  | object => 125

def atEnd : Frame → Fault
  | list => ⟨.endInList, 0⟩
  | object => ⟨.endInObject, 0⟩

/-- The cause if neither a comma nor the closing bracket comes behind an item. -/
def commaMissing : Frame → Cause
  | list => .expectedListComma
  | object => .expectedObjectComma

/-- Passes what stands in front of an item: nothing in a list, a name and a colon in an object. -/
def passName (frame : Frame) (s : Bytes) : Except Fault Bytes :=
  match frame with
  | list => .ok s
  | object =>
    match skipBlanks s with
    | [] => .error ⟨.endInObject, 0⟩
    | b :: s => do
      if b ≠ 34 then throw (.at .keyNotText s)
      let s ← skipText s
      passColon s

end Frame

/-- Passes the first part of a value: all of it, unless a list or an object was opened. -/
def skipFirst (s : Bytes) : Except Fault (Option Frame × Bytes) :=
  match skipBlanks s with
  | [] => .error ⟨.endInValue, 0⟩
  | b :: rest =>
    match Char.ofNat b.toNat with
    | 'n' => (readWord "ull".toList rest).map (none, ·)
    | 't' => (readWord "rue".toList rest).map (none, ·)
    | 'f' => (readWord "alse".toList rest).map (none, ·)
    | '-' => (skipNumber rest).map (none, ·)
    | '"' => (skipText rest).map (none, ·)
    | '[' => .ok (some .list, rest)
    | '\x7b' => .ok (some .object, rest)
    | _ =>
      if isDigit b then (skipNumber (b :: rest)).map (none, ·)
      else .error (.at .expectedValue rest)

/-- Passes what is left of the open frames, standing in front of a value or behind one. -/
def skipFrom : Nat → Bool → List Frame → Bytes → Except Fault Bytes
  | 0, _, _, s => .error (.at .endInValue s)
  | _ + 1, true, [], s => .ok s
  | fuel + 1, true, frame :: frames, s =>
    match skipBlanks s with
    | [] => .error frame.atEnd
    | b :: rest =>
      if b = 44 then do
        let s ← frame.passName rest
        skipFrom fuel false (frame :: frames) s
      else if b = frame.closing then skipFrom fuel true frames rest
      else .error (.at frame.commaMissing rest)
  | fuel + 1, false, frames, s => do
    let (opened, s) ← skipFirst s
    match opened with
    | none => skipFrom fuel true frames s
    | some frame =>
      match skipBlanks s with
      | [] => throw frame.atEnd
      | b :: rest =>
        if b = frame.closing then skipFrom fuel true frames rest
        else
          let s ← frame.passName (b :: rest)
          skipFrom fuel false (frame :: frames) s

def skipValue (bounds : Bounds) (s : Bytes) : Except Fault Bytes :=
  skipFrom (bounds.items + 1) false [] s

end FlagHost.Json
