import FlagHost.Json.Lexical
import FlagHost.Json.Printer

/-!
# Spellings of texts

The characters of a text can be written in several ways between its quotes: most of them as they
are, some behind a backslash, and all by the digits of their code points. `Spells cs s` says that
the bytes `s` write the characters `cs`. Main statements: every spelling is read as the text that it
writes, and a text is printed as one of its spellings.
-/

namespace FlagHost

namespace Utf8

theorem encode_cons (c : Char) (cs : List Char) : encode (c :: cs) = encodeChar c ++ encode cs :=
  List.flatMap_cons

theorem encode_singleton (c : Char) : encode [c] = encodeChar c := List.flatMap_singleton _ _

theorem encode_append (cs ds : List Char) : encode (cs ++ ds) = encode cs ++ encode ds :=
  List.flatMap_append

theorem decodeOnto_encode (done cs : List Char) {fuel : Nat} (enough : (encode cs).length ≤ fuel) :
    decodeOnto done fuel (encode cs) = some (cs.reverse ++ done) := by
  induction cs generalizing done fuel with
  | nil => simp [encode, decodeOnto]
  | cons c cs ih =>
    have next := next?_encodeChar c (encode cs)
    have some_byte := List.length_pos_iff.2 (encodeChar_ne_nil c)
    rw [encode_cons, List.length_append] at enough
    rw [encode_cons]
    match fuel, found : encodeChar c ++ encode cs with
    | 0, _ => omega
    | _ + 1, [] => simp [encodeChar_ne_nil] at found
    | fuel + 1, b :: rest =>
      rw [found] at next
      simp [decodeOnto, next, ih (c :: done) (show (encode cs).length ≤ fuel by omega)]

/-- The bytes of characters are decoded as their text. -/
theorem text?_encode (cs : List Char) : text? (encode cs) = some (String.ofList cs) := by
  simp [text?, decodeOnto_encode [] cs (Nat.le_refl _)]

/-- A byte of a character is the character itself, or lies above all characters of one byte. -/
theorem eq_or_le_of_mem_encodeChar {c : Char} {b : UInt8} (mem : b ∈ encodeChar c) :
    b.toNat = c.toNat ∨ 128 ≤ b.toNat := by
  have point : c.toNat < 0x110000 := by
    have valid : c.toNat.isValidChar := c.valid
    rcases valid with low | high <;> omega
  unfold encodeChar encodePoint tail at mem
  split at mem
  · obtain rfl := List.mem_singleton.1 mem
    exact .inl (by simp only [UInt8.toNat_ofNat']; omega)
  · refine .inr ?_
    split at mem
    · simp only [List.mem_cons, List.not_mem_nil, or_false] at mem
      rcases mem with rfl | rfl <;> simp only [UInt8.toNat_ofNat'] <;> omega
    · split at mem
      · simp only [List.mem_cons, List.not_mem_nil, or_false] at mem
        rcases mem with rfl | rfl | rfl <;> simp only [UInt8.toNat_ofNat'] <;> omega
      · simp only [List.mem_cons, List.not_mem_nil, or_false] at mem
        rcases mem with rfl | rfl | rfl | rfl <;> simp only [UInt8.toNat_ofNat'] <;> omega

end Utf8

namespace Json

theorem toNat_eq_of_char_eq {b : UInt8} {c : Char} (h : Char.ofNat b.toNat = c) :
    b.toNat = c.toNat := by
  have valid : b.toNat.isValidChar := .inl (Nat.lt_trans b.toNat_lt (by decide))
  rw [← h, Char.ofNat, dif_pos valid]
  rfl

/-- The letters that stand for characters behind a backslash. -/
def shortEscapes : List (UInt8 × Char) :=
  [(34, '"'), (92, '\\'), (47, '/'), (98, '\x08'), (102, '\x0c'), (110, '\n'), (114, '\r'),
    (116, '\t')]

/-- The bytes write the characters, as they may stand between the quotes of a text. -/
inductive Spells : List Char → Bytes → Prop where
  | nil : Spells [] []
  | plain {c : Char} {cs : List Char} {s : Bytes} (visible : 32 ≤ c.toNat) (no_quote : c ≠ '"')
      (no_backslash : c ≠ '\\') (rest : Spells cs s) : Spells (c :: cs) (Utf8.encodeChar c ++ s)
  | short {letter : UInt8} {c : Char} {cs : List Char} {s : Bytes}
      (known : (letter, c) ∈ shortEscapes) (rest : Spells cs s) :
      Spells (c :: cs) (92 :: letter :: s)
  | point {h₁ h₂ h₃ h₄ : UInt8} {c : Char} {cs : List Char} {s : Bytes}
      (number : hexNumber? h₁ h₂ h₃ h₄ = some c.toNat) (rest : Spells cs s) :
      Spells (c :: cs) (92 :: 117 :: h₁ :: h₂ :: h₃ :: h₄ :: s)
  /-- A character above the others is written as two numbers, with ten of its bits in each. -/
  | pair {h₁ h₂ h₃ h₄ k₁ k₂ k₃ k₄ : UInt8} {c : Char} {cs : List Char} {s : Bytes} {high low : Nat}
      (first : hexNumber? h₁ h₂ h₃ h₄ = some (0xD800 + high)) (high_lt : high < 1024)
      (second : hexNumber? k₁ k₂ k₃ k₄ = some (0xDC00 + low)) (low_lt : low < 1024)
      (number : c.toNat = 0x10000 + 1024 * high + low) (rest : Spells cs s) :
      Spells (c :: cs)
        (92 :: 117 :: h₁ :: h₂ :: h₃ :: h₄ :: 92 :: 117 :: k₁ :: k₂ :: k₃ :: k₄ :: s)

/-! ## Reading -/

/-- A byte that stands for itself between quotes. -/
def IsPlain (b : UInt8) : Prop := 32 ≤ b ∧ b ≠ 34 ∧ b ≠ 92

theorem isPlain_of_mem_encodeChar {c : Char} (visible : 32 ≤ c.toNat) (no_quote : c ≠ '"')
    (no_backslash : c ≠ '\\') {b : UInt8} (mem : b ∈ Utf8.encodeChar c) : IsPlain b := by
  have quote : c.toNat ≠ 34 := fun same => no_quote (Char.toNat_inj.1 same)
  have backslash : c.toNat ≠ 92 := fun same => no_backslash (Char.toNat_inj.1 same)
  have bounds := Utf8.eq_or_le_of_mem_encodeChar mem
  refine ⟨UInt8.le_iff_toNat_le.2 ?_, fun same => ?_, fun same => ?_⟩
  · show 32 ≤ b.toNat
    omega
  · have : b.toNat = 34 := congrArg UInt8.toNat same
    omega
  · have : b.toNat = 92 := congrArg UInt8.toNat same
    omega

theorem scanText_plain {bytes : Bytes} (plain : ∀ b ∈ bytes, IsPlain b) (done rest : Bytes) :
    scanText done (bytes ++ rest) = scanText (bytes.reverse ++ done) rest := by
  induction bytes generalizing done with
  | nil => rfl
  | cons b bytes ih =>
    obtain ⟨visible, quote, backslash⟩ := plain b List.mem_cons_self
    have rest_plain : ∀ b ∈ bytes, IsPlain b := fun b mem => plain b (List.mem_cons_of_mem _ mem)
    rw [List.cons_append, scanText.eq_def]
    dsimp only
    rw [if_neg quote, if_neg backslash, if_neg (UInt8.not_lt.2 visible), ih rest_plain]
    simp

theorem escaped?_of_mem {letter : UInt8} {c : Char} (known : (letter, c) ∈ shortEscapes) :
    letter ≠ 117 ∧ ∃ b, escaped? letter = some b ∧ Utf8.encodeChar c = [b] := by
  simp only [shortEscapes, List.mem_cons, Prod.mk.injEq, List.not_mem_nil, or_false] at known
  rcases known with ⟨rfl, rfl⟩ | ⟨rfl, rfl⟩ | ⟨rfl, rfl⟩ | ⟨rfl, rfl⟩ | ⟨rfl, rfl⟩ | ⟨rfl, rfl⟩ |
    ⟨rfl, rfl⟩ | ⟨rfl, rfl⟩ <;> exact ⟨by decide, _, rfl, rfl⟩

theorem scanText_of_spells {cs : List Char} {s : Bytes} (h : Spells cs s) (done rest : Bytes) :
    scanText done (s ++ 34 :: rest) = .ok ((Utf8.encode cs).reverse ++ done, rest) := by
  induction h generalizing done with
  | nil =>
    rw [List.nil_append, scanText.eq_def]
    rfl
  | plain visible no_quote no_backslash _ ih =>
    have plain := fun b => isPlain_of_mem_encodeChar (b := b) visible no_quote no_backslash
    rw [List.append_assoc, scanText_plain plain, ih, Utf8.encode_cons]
    simp
  | @short letter c _ _ known _ ih =>
    obtain ⟨no_number, b, escaped, byte⟩ := escaped?_of_mem known
    rw [List.cons_append, List.cons_append, scanText.eq_def]
    simp [no_number, escaped, ih, Utf8.encode_cons, byte]
  | @point _ _ _ _ c _ _ number _ ih =>
    have no_half : c.toNat < 0xD800 ∨ 0xDFFF < c.toNat :=
      Or.imp id And.left (show c.toNat.isValidChar from c.valid)
    simp only [List.cons_append]
    rw [scanText.eq_def]
    simp [number, no_half, pushPoint, ih, Utf8.encode_cons, Utf8.encodeChar]
  | @pair _ _ _ _ _ _ _ _ c _ _ high low first high_lt second low_lt number _ ih =>
    have is_half : ¬ (0xD800 + high < 0xD800 ∨ 0xDFFF < 0xD800 + high) := by omega
    have is_first : ¬ 0xDC00 ≤ 0xD800 + high := by omega
    have is_second : ¬ (0xDC00 + low < 0xDC00 ∨ 0xDFFF < 0xDC00 + low) := by omega
    have together :
        0x10000 + 1024 * (0xD800 + high - 0xD800) + (0xDC00 + low - 0xDC00) = c.toNat := by
      omega
    simp only [List.cons_append]
    rw [scanText.eq_def]
    simp only [↓reduceIte, first, second, is_half, is_first, is_second, together, pushPoint, ih,
      Utf8.encode_cons, Utf8.encodeChar]
    simp

/-- A spelling is read as the text that it writes. -/
theorem readText_of_spells {cs : List Char} {s : Bytes} (h : Spells cs s) (rest : Bytes) :
    readText (s ++ 34 :: rest) = .ok (String.ofList cs, rest) := by
  unfold readText
  rw [scanText_of_spells h]
  simp [Utf8.text?_encode]

/-! ## Printing -/

/-- The digits of a control character. -/
theorem escapeChar_control {n : Nat} (control : n < 32) :
    ∃ h₁ h₂, Utf8.encode ['\\', 'u', '0', '0', hexLetter (n / 16), hexLetter (n % 16)] =
        [92, 117, 48, 48, h₁, h₂] ∧ hexNumber? 48 48 h₁ h₂ = some n := by
  let byte (n : Nat) : UInt8 := UInt8.ofNat (hexLetter n).toNat
  have all : ∀ n < 32, Utf8.encode ['\\', 'u', '0', '0', hexLetter (n / 16), hexLetter (n % 16)] =
        [92, 117, 48, 48, byte (n / 16), byte (n % 16)] ∧
      hexNumber? 48 48 (byte (n / 16)) (byte (n % 16)) = some n := by
    decide +kernel
  exact ⟨_, _, all n control⟩

theorem Spells.escaped {cs : List Char} {s : Bytes} (h : Spells cs s) (c : Char) :
    Spells (c :: cs) (Utf8.encode (escapeChar c) ++ s) := by
  have short {letter : UInt8} {d : Char} (known : (letter, d) ∈ shortEscapes) (same : c = d) :
      Spells (c :: cs) (92 :: letter :: s) := .short (same ▸ known) h
  unfold escapeChar
  split
  · next same => exact short (show (34, '"') ∈ shortEscapes by decide) same
  split
  · next same => exact short (show (92, '\\') ∈ shortEscapes by decide) same
  split
  · next same => exact short (show (98, '\x08') ∈ shortEscapes by decide) same
  split
  · next same => exact short (show (102, '\x0c') ∈ shortEscapes by decide) same
  split
  · next same => exact short (show (110, '\n') ∈ shortEscapes by decide) same
  split
  · next same => exact short (show (114, '\r') ∈ shortEscapes by decide) same
  split
  · next same => exact short (show (116, '\t') ∈ shortEscapes by decide) same
  split
  · next control =>
    obtain ⟨h₁, h₂, digits, number⟩ := escapeChar_control control
    rw [digits]
    exact .point number h
  · next quote backslash _ _ _ _ _ visible =>
    rw [Utf8.encode_singleton]
    exact .plain (Nat.not_lt.1 visible) quote backslash h

/-- A text is printed as one of its spellings. -/
theorem exists_spells_writeText (text : String) :
    ∃ s, Utf8.encode (writeText text) = 34 :: s ++ [34] ∧ Spells text.toList s := by
  have escaped (cs : List Char) : Spells cs (Utf8.encode (cs.flatMap escapeChar)) := by
    induction cs with
    | nil => exact .nil
    | cons c cs ih =>
      rw [List.flatMap_cons, Utf8.encode_append]
      exact ih.escaped c
  refine ⟨_, ?_, escaped text.toList⟩
  rw [writeText, Utf8.encode_append]
  rfl

end Json

end FlagHost
