/-!
# UTF-8

The bytes of a character, and the first character of a list of bytes. Reading accepts exactly the
shortest form of each character and no surrogates; the main statement is that it gives back what
was written.
-/

namespace FlagHost

abbrev Bytes := List UInt8

namespace Utf8

/-- The byte behind the first one that carries the low six bits of `n`. -/
def tail (n : Nat) : UInt8 := UInt8.ofNat (0x80 + n % 64)

def encodePoint (n : Nat) : Bytes :=
  if n < 0x80 then [UInt8.ofNat n]
  else if n < 0x800 then [UInt8.ofNat (0xC0 + n / 64), tail n]
  else if n < 0x10000 then [UInt8.ofNat (0xE0 + n / 4096), tail (n / 64), tail n]
  else [UInt8.ofNat (0xF0 + n / 262144), tail (n / 4096), tail (n / 64), tail n]

def encodeChar (c : Char) : Bytes := encodePoint c.toNat

def encode (cs : List Char) : Bytes := cs.flatMap encodeChar

def ofText (text : String) : Bytes := encode text.toList

def char? (n : Nat) : Option Char :=
  if h : n.isValidChar then some (Char.ofNatAux n h) else none

def more? (n : Nat) (b : UInt8) : Option Nat :=
  if 0x80 ≤ b.toNat ∧ b.toNat < 0xC0 then some (64 * n + (b.toNat - 0x80)) else none

/-- The character with a code point, unless the code point is below the least one for which this
many bytes are needed. -/
def charFrom? (least n : Nat) : Option Char := if least ≤ n then char? n else none

def next? : Bytes → Option (Char × Bytes)
  | [] => none
  | b :: rest =>
    if b.toNat < 0x80 then (char? b.toNat).map (·, rest)
    else if b.toNat < 0xC0 then none
    else if b.toNat < 0xE0 then
      match rest with
      | b₁ :: rest =>
        ((more? (b.toNat - 0xC0) b₁).bind (charFrom? 0x80)).map (·, rest)
      | _ => none
    else if b.toNat < 0xF0 then
      match rest with
      | b₁ :: b₂ :: rest =>
        (((more? (b.toNat - 0xE0) b₁).bind (more? · b₂)).bind (charFrom? 0x800)).map (·, rest)
      | _ => none
    else if b.toNat < 0xF8 then
      match rest with
      | b₁ :: b₂ :: b₃ :: rest =>
        ((((more? (b.toNat - 0xF0) b₁).bind (more? · b₂)).bind (more? · b₃)).bind
          (charFrom? 0x10000)).map (·, rest)
      | _ => none
    else none

/-- The characters of bytes, in reverse and behind `done`; `fuel` bounds their number. -/
def decodeOnto (done : List Char) : Nat → Bytes → Option (List Char)
  | _, [] => some done
  | 0, _ => none
  | fuel + 1, bytes =>
    match next? bytes with
    | some (c, rest) => decodeOnto (c :: done) fuel rest
    | none => none

/-- The text of bytes, if they are well formed throughout. -/
def text? (bytes : Bytes) : Option String :=
  (decodeOnto [] bytes.length bytes).map fun cs => String.ofList cs.reverse

theorem char?_toNat (c : Char) : char? c.toNat = some c :=
  dif_pos (show c.toNat.isValidChar from c.valid)

private theorem more?_tail (n k : Nat) : more? k (tail n) = some (64 * k + n % 64) := by
  have h : (tail n).toNat = 0x80 + n % 64 := by
    simp only [tail, UInt8.toNat_ofNat']
    omega
  have h' : 0x80 ≤ 0x80 + n % 64 ∧ 0x80 + n % 64 < 0xC0 := by omega
  simp [more?, h, h']

private theorem toNat_ofNat {n : Nat} (h : n < 256) : (UInt8.ofNat n).toNat = n := by
  simp only [UInt8.toNat_ofNat']
  omega

/-- Reading gives back the character that was written, and leaves what follows. -/
theorem next?_encodeChar (c : Char) (rest : Bytes) :
    next? (encodeChar c ++ rest) = some (c, rest) := by
  have hc : c.toNat < 0x110000 := by
    have := c.valid
    have h : c.toNat.isValidChar := this
    rcases h with h | h <;> omega
  unfold encodeChar encodePoint
  by_cases h₁ : c.toNat < 0x80
  · have : (UInt8.ofNat c.toNat).toNat = c.toNat := toNat_ofNat (by omega)
    simp [h₁, next?, this, char?_toNat]
  by_cases h₂ : c.toNat < 0x800
  · have hb : (UInt8.ofNat (0xC0 + c.toNat / 64)).toNat = 0xC0 + c.toNat / 64 :=
      toNat_ofNat (by omega)
    have e₁ : ¬ (0xC0 + c.toNat / 64 < 0x80) := by omega
    have e₂ : ¬ (0xC0 + c.toNat / 64 < 0xC0) := by omega
    have e₃ : 0xC0 + c.toNat / 64 < 0xE0 := by omega
    have v : 64 * (0xC0 + c.toNat / 64 - 0xC0) + c.toNat % 64 = c.toNat := by omega
    have g : 0x80 ≤ c.toNat := by omega
    simp only [h₁, h₂, if_false, if_true, List.cons_append, List.nil_append, next?, hb, e₁, e₂, e₃,
      more?_tail, v, Option.bind_some, charFrom?, g, char?_toNat, Option.map_some]
  by_cases h₃ : c.toNat < 0x10000
  · have hb : (UInt8.ofNat (0xE0 + c.toNat / 4096)).toNat = 0xE0 + c.toNat / 4096 :=
      toNat_ofNat (by omega)
    have e₁ : ¬ (0xE0 + c.toNat / 4096 < 0x80) := by omega
    have e₂ : ¬ (0xE0 + c.toNat / 4096 < 0xC0) := by omega
    have e₃ : ¬ (0xE0 + c.toNat / 4096 < 0xE0) := by omega
    have e₄ : 0xE0 + c.toNat / 4096 < 0xF0 := by omega
    have v : 64 * (64 * (0xE0 + c.toNat / 4096 - 0xE0) + c.toNat / 64 % 64) + c.toNat % 64 =
        c.toNat := by omega
    have g : 0x800 ≤ c.toNat := by omega
    simp only [h₁, h₂, h₃, if_false, if_true, List.cons_append, List.nil_append, next?, hb, e₁, e₂,
      e₃, e₄, more?_tail, v, Option.bind_some, charFrom?, g, char?_toNat, Option.map_some]
  · have hb : (UInt8.ofNat (0xF0 + c.toNat / 262144)).toNat = 0xF0 + c.toNat / 262144 :=
      toNat_ofNat (by omega)
    have e₁ : ¬ (0xF0 + c.toNat / 262144 < 0x80) := by omega
    have e₂ : ¬ (0xF0 + c.toNat / 262144 < 0xC0) := by omega
    have e₃ : ¬ (0xF0 + c.toNat / 262144 < 0xE0) := by omega
    have e₄ : ¬ (0xF0 + c.toNat / 262144 < 0xF0) := by omega
    have e₅ : 0xF0 + c.toNat / 262144 < 0xF8 := by omega
    have v : 64 * (64 * (64 * (0xF0 + c.toNat / 262144 - 0xF0) + c.toNat / 4096 % 64) +
        c.toNat / 64 % 64) + c.toNat % 64 = c.toNat := by omega
    have g : 0x10000 ≤ c.toNat := by omega
    simp only [h₁, h₂, h₃, if_false, if_true, List.cons_append, List.nil_append, next?, hb, e₁, e₂,
      e₃, e₄, e₅, more?_tail, v, Option.bind_some, charFrom?, g, char?_toNat, Option.map_some]

/-- A character has at least one byte. -/
theorem encodeChar_ne_nil (c : Char) : encodeChar c ≠ [] := by
  unfold encodeChar encodePoint
  split <;> (try split) <;> (try split) <;> simp

end Utf8

end FlagHost
