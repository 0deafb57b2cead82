import FlagHost.Json.Fault
import FlagHost.Text.Digit

/-!
# Blanks, words, texts and numbers

The smallest parts of a document, each read at the front of bytes.
-/

namespace FlagHost.Json

def isBlankByte (b : UInt8) : Bool := b == 32 || b == 10 || b == 9 || b == 13

def skipBlanks : Bytes → Bytes := List.dropWhile isBlankByte

def readWord : List Char → Bytes → Except Fault Bytes
  | [], s => .ok s
  | _ :: _, [] => .error ⟨.endInValue, 0⟩
  | c :: cs, b :: s =>
    if b.toNat = c.toNat then readWord cs s else .error (.at .expectedWord s)

/-! ## Texts -/

def hexNumber? (a b c d : UInt8) : Option Nat := do
  let a ← Digit.hex? a.toNat
  let b ← Digit.hex? b.toNat
  let c ← Digit.hex? c.toNat
  let d ← Digit.hex? d.toNat
  return 4096 * a + 256 * b + 16 * c + d

def escaped? (b : UInt8) : Option UInt8 :=
  match Char.ofNat b.toNat with
  | '"' => some 34
  | '\\' => some 92
  | '/' => some 47
  | 'b' => some 8
  | 'f' => some 12
  | 'n' => some 10
  | 'r' => some 13
  | 't' => some 9
  | _ => none

/-- The bytes of a code point in reverse, in front of `done`. -/
def pushPoint (n : Nat) (done : Bytes) : Bytes := (Utf8.encodePoint n).reverse ++ done

/-- Collects the bytes of a text up to its closing quote, in reverse and in front of `done`, with
escapes resolved. An escape of four digits for the first half of a pair must be followed by one for
the second half. -/
def scanText (done : Bytes) : Bytes → Except Fault (Bytes × Bytes)
  | [] => .error ⟨.endInText, 0⟩
  | b :: s =>
    if b = 34 then .ok (done, s)
    else if b = 92 then
      match s with
      | [] => .error ⟨.endInText, 0⟩
      | e :: s =>
        if e = 117 then
          match s with
          | h₁ :: h₂ :: h₃ :: h₄ :: s =>
            match hexNumber? h₁ h₂ h₃ h₄ with
            | none => .error (.at .invalidEscape s)
            | some n =>
              if n < 0xD800 ∨ 0xDFFF < n then scanText (pushPoint n done) s
              else if 0xDC00 ≤ n then .error (.at .loneSurrogate s)
              else
                match s with
                | [] => .error ⟨.endInText, 0⟩
                | b₁ :: s =>
                  if b₁ ≠ 92 then .error (.at .unfinishedSurrogate s)
                  else
                    match s with
                    | [] => .error ⟨.endInText, 0⟩
                    | b₂ :: s =>
                      if b₂ ≠ 117 then .error (.at .unfinishedSurrogate s)
                      else
                        match s with
                        | k₁ :: k₂ :: k₃ :: k₄ :: s =>
                          match hexNumber? k₁ k₂ k₃ k₄ with
                          | none => .error (.at .invalidEscape s)
                          | some m =>
                            if m < 0xDC00 ∨ 0xDFFF < m then .error (.at .loneSurrogate s)
                            else
                              scanText
                                (pushPoint (0x10000 + 1024 * (n - 0xD800) + (m - 0xDC00)) done) s
                        | _ => .error ⟨.endInText, 0⟩
          | _ => .error ⟨.endInText, 0⟩
        else
          match escaped? e with
          | some c => scanText (c :: done) s
          | none => .error (.at .invalidEscape s)
    else if b < 32 then .error (.at .controlCharacter s)
    else scanText (b :: done) s

/-- The number of bytes in front of the first ones that do not form a character. -/
def illFormedAt (before : Nat) : Nat → Bytes → Nat
  | 0, _ => before
  | fuel + 1, s =>
    match Utf8.next? s with
    | some (_, rest) => illFormedAt (before + (s.length - rest.length)) fuel rest
    | none => before

/-- Reads a text behind its opening quote. Bytes that form no character are noticed when the whole
text has been read, at the first of them. -/
def readText (s : Bytes) : Except Fault (String × Bytes) :=
  match scanText [] s with
  | .error f => .error f
  | .ok (bytes, rest) =>
    match Utf8.text? bytes.reverse with
    | some t => .ok (t, rest)
    | none =>
      let raw := s.take (s.length - rest.length)
      .error ⟨.invalidCodePoint, s.length - (illFormedAt 0 raw.length raw + 1)⟩

/-! ## Numbers -/

inductive Number where
  | integer (n : Int)
  | float (x : Float)

def isDigit (b : UInt8) : Bool := 48 ≤ b && b ≤ 57

def digit (b : UInt8) : Nat := b.toNat - 48

def skipDigits : Bytes → Bytes := List.dropWhile isDigit

/-- Reads digits behind the mantissa `n` as long as it fits 64 bits. The result has the mantissa,
the number of digits, and the bytes behind them. -/
def readMantissa (n count : Nat) : Bytes → Nat × Nat × Bytes
  | [] => (n, count, [])
  | b :: s =>
    if isDigit b ∧ 10 * n + digit b < 0x10000000000000000 then
      readMantissa (10 * n + digit b) (count + 1) s
    else (n, count, b :: s)

def digitNext : Bytes → Bool
  | [] => false
  | b :: _ => isDigit b

def powerOfTen (n : Nat) : Float := Float.ofScientific 1 false n

/-- The double `x · 10 ^ e`, by one multiplication or division if the power is a double. An exponent
below those powers is first brought near by divisions; above them there is no double but zero. -/
def scale : Nat → Float → Int → Option Float
  | 0, x, _ => some x
  | fuel + 1, x, e =>
    if e.natAbs ≤ 308 then
      if 0 ≤ e then
        let y := x * powerOfTen e.natAbs
        if y.isInf then none else some y
      else some (x / powerOfTen e.natAbs)
    else if x == 0.0 then some x
    else if 0 ≤ e then none
    else scale fuel (x / powerOfTen 308) (e + 308)

/-- The number with the given sign, mantissa and exponent; `rest` are the bytes behind it. -/
def floatOf (negative : Bool) (n : Nat) (e : Int) (rest : Bytes) : Except Fault (Number × Bytes) :=
  match scale 8 (Float.ofNat n) e with
  | some x => .ok (.float (if negative then -x else x), rest)
  | none => .error (.at .numberOutOfRange rest)

/-- Reads the digits of an exponent behind the first one, as long as it fits 32 bits. The flag
tells whether it did. -/
def readExponentDigits (n : Nat) : Bytes → Nat × Bool × Bytes
  | [] => (n, true, [])
  | b :: s =>
    if isDigit b then
      if 10 * n + digit b < 0x80000000 then readExponentDigits (10 * n + digit b) s
      else (n, false, s)
    else (n, true, b :: s)

def readExponent (negative : Bool) (n : Nat) (e : Int) (s : Bytes) :
    Except Fault (Number × Bytes) :=
  let (down, s) := match s with
    | 43 :: s => (false, s)
    | 45 :: s => (true, s)
    | s => (false, s)
  match s with
  | [] => .error ⟨.endInValue, 0⟩
  | b :: s =>
    if !isDigit b then .error (.at .invalidNumber s)
    else
      match readExponentDigits (digit b) s with
      | (k, true, s) => floatOf negative n (if down then e - k else e + k) s
      | (_, false, s) =>
        if n ≠ 0 ∧ !down then .error (.at .numberOutOfRange s)
        else .ok (.float (if negative then -0.0 else 0.0), skipDigits s)

def readScale (negative : Bool) (n : Nat) (e : Int) (s : Bytes) : Except Fault (Number × Bytes) :=
  match s with
  | 101 :: s => readExponent negative n e s
  | 69 :: s => readExponent negative n e s
  | s => floatOf negative n e s

/-- Reads the digits behind a point and what follows them. Digits behind those that the mantissa
has room for do not count. -/
def readFraction (negative : Bool) (n : Nat) (e : Int) (s : Bytes) :
    Except Fault (Number × Bytes) :=
  match readMantissa n 0 s with
  | (m, count, rest) =>
    if digitNext rest then readScale negative m (e - count) (skipDigits rest)
    else if count = 0 then
      .error (.seeing (if rest.isEmpty then .endInValue else .invalidNumber) rest)
    else readScale negative m (e - count) rest

def readNumberTail (negative : Bool) (n : Nat) (s : Bytes) : Except Fault (Number × Bytes) :=
  match s with
  | 46 :: s => readFraction negative n 0 s
  | 101 :: s => readExponent negative n 0 s
  | 69 :: s => readExponent negative n 0 s
  | s =>
    if !negative then .ok (.integer n, s)
    else if 0 < n ∧ n ≤ 0x8000000000000000 then .ok (.integer (-n), s)
    else .ok (.float (-(Float.ofNat n)), s)

/-- Reads a number behind its sign. Digits behind those that fit 64 bits only add to the
exponent. -/
def readNumber (negative : Bool) (s : Bytes) : Except Fault (Number × Bytes) :=
  match s with
  | [] => .error ⟨.endInValue, 0⟩
  | b :: s =>
    if b = 48 then
      if digitNext s then .error (.seeing .invalidNumber s) else readNumberTail negative 0 s
    else if isDigit b then
      match readMantissa (digit b) 0 s with
      | (n, _, rest) =>
        if digitNext rest then
          let more := rest.takeWhile isDigit
          match rest.drop more.length with
          | 46 :: s => readFraction negative n more.length s
          | s => readScale negative n more.length s
        else readNumberTail negative n rest
    else .error (.at .invalidNumber s)

end FlagHost.Json
