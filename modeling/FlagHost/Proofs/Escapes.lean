import FlagHost.Proofs.Boundaries

/-!
# Spellings that are read

A text is read by resolving its escapes to bytes, which are taken for characters in the end. As no
escape stands for a part of a character, the other characters stand as a whole in what was read.
Main statement: what is read as a text is one of its spellings, and the quote behind.
-/

namespace FlagHost.Json

open Utf8 (Continues encodeChar encodePoint)

/-! ## Escapes -/

theorem hexNumber?_lt {a b c d : UInt8} {n : Nat} (read : hexNumber? a b c d = some n) :
    n < 0x10000 := by
  have digit {m v : Nat} (found : Digit.hex? m = some v) : v < 16 := by
    unfold Digit.hex? at found
    split at found
    · cases found; omega
    split at found
    · cases found; omega
    split at found
    · cases found; omega
    · exact nomatch found
  unfold hexNumber? at read
  obtain ⟨v₁, first, read⟩ := Option.bind_eq_some_iff.1 read
  obtain ⟨v₂, second, read⟩ := Option.bind_eq_some_iff.1 read
  obtain ⟨v₃, third, read⟩ := Option.bind_eq_some_iff.1 read
  obtain ⟨v₄, fourth, read⟩ := Option.bind_eq_some_iff.1 read
  cases read
  have := digit first
  have := digit second
  have := digit third
  have := digit fourth
  omega

theorem exists_of_escaped? {letter b : UInt8} (known : escaped? letter = some b) :
    ∃ c, (letter, c) ∈ shortEscapes ∧ encodeChar c = [b] := by
  have entry (code : UInt8) (d : Char) (listed : (code, d) ∈ shortEscapes)
      (byte : encodeChar d = [b]) {c : Char} (same : Char.ofNat letter.toNat = c)
      (is_code : c.toNat = code.toNat) : ∃ c, (letter, c) ∈ shortEscapes ∧ encodeChar c = [b] := by
    obtain rfl : letter = code := UInt8.toNat_inj.1 ((toNat_eq_of_char_eq same).trans is_code)
    exact ⟨d, listed, byte⟩
  unfold escaped? at known
  split at known
  · next same => cases known; exact entry 34 '"' (by decide) rfl same rfl
  · next same => cases known; exact entry 92 '\\' (by decide) rfl same rfl
  · next same => cases known; exact entry 47 '/' (by decide) rfl same rfl
  · next same => cases known; exact entry 98 '\x08' (by decide) rfl same rfl
  · next same => cases known; exact entry 102 '\x0c' (by decide) rfl same rfl
  · next same => cases known; exact entry 110 '\n' (by decide) rfl same rfl
  · next same => cases known; exact entry 114 '\r' (by decide) rfl same rfl
  · next same => cases known; exact entry 116 '\t' (by decide) rfl same rfl
  · exact nomatch known

theorem exists_char_of_valid {n : Nat} (valid : n.isValidChar) : ∃ c : Char, c.toNat = n :=
  ⟨Char.ofNatAux n valid, rfl⟩

/-- The bytes write other ones, with escapes among them that write characters. -/
inductive Resolves : Bytes → Bytes → Prop where
  | nil : Resolves [] []
  | plain {b : UInt8} {s bytes : Bytes} (plain : IsPlain b) (rest : Resolves s bytes) :
      Resolves (b :: s) (b :: bytes)
  | escape {c : Char} {escape s bytes : Bytes}
      (spells : ∀ cs s, Spells cs s → Spells (c :: cs) (escape ++ s)) (rest : Resolves s bytes) :
      Resolves (escape ++ s) (encodeChar c ++ bytes)

/-- What is scanned ends at a quote, and is resolved. -/
theorem exists_of_scanText {done s found rest : Bytes}
    (read : scanText done s = .ok (found, rest)) :
    ∃ text bytes, s = text ++ 34 :: rest ∧ found = bytes.reverse ++ done ∧ Resolves text bytes := by
  have step {c : Char} (escape : Bytes) {s done : Bytes}
      (spells : ∀ cs s, Spells cs s → Spells (c :: cs) (escape ++ s))
      (behind : ∃ text bytes, s = text ++ 34 :: rest ∧
        found = bytes.reverse ++ ((encodeChar c).reverse ++ done) ∧ Resolves text bytes) :
      ∃ text bytes, escape ++ s = text ++ 34 :: rest ∧ found = bytes.reverse ++ done ∧
        Resolves text bytes := by
    obtain ⟨text, bytes, rfl, rfl, resolves⟩ := behind
    exact ⟨_, _, (List.append_assoc _ _ _).symm, by simp, .escape spells resolves⟩
  fun_induction scanText done s
  case case2 =>
    cases read
    exact ⟨[], [], rfl, rfl, .nil⟩
  case case5 h₁ h₂ h₃ h₄ _ n digits valid _ ih =>
    -- The number of a character, which is no half of a pair.
    have bound := hexNumber?_lt digits
    obtain ⟨c, rfl⟩ := exists_char_of_valid (n := n) (valid.imp id fun high => ⟨high, by omega⟩)
    exact step [92, 117, h₁, h₂, h₃, h₄] (fun _ _ spells => .point digits spells) (ih read)
  case case13 h₁ h₂ h₃ h₄ n digits half lead _ first _ second k₁ k₂ k₃ k₄ _ m digits' trail _ ih =>
    -- The numbers of two halves.
    obtain rfl := Decidable.not_not.1 first
    obtain rfl := Decidable.not_not.1 second
    have together : n = 0xD800 + (n - 0xD800) ∧ m = 0xDC00 + (m - 0xDC00) := by omega
    obtain ⟨c, number⟩ := exists_char_of_valid
      (n := 0x10000 + 1024 * (n - 0xD800) + (m - 0xDC00)) (.inr (by omega))
    have behind := ih read
    rw [← number] at behind
    rw [together.1] at digits
    rw [together.2] at digits'
    exact step [92, 117, h₁, h₂, h₃, h₄, 92, 117, k₁, k₂, k₃, k₄]
      (fun _ _ spells => .pair digits (by omega) digits' (by omega) number spells) behind
  case case16 letter _ _ _ escaped _ ih =>
    -- A letter with a backslash.
    obtain ⟨c, known, byte⟩ := exists_of_escaped? escaped
    have behind := ih read
    refine step [92, letter] (fun _ _ spells => .short known spells) ?_
    rw [byte]
    exact behind
  case case19 no_quote no_escape visible ih =>
    obtain ⟨text, bytes, rfl, rfl, resolves⟩ := ih read
    have plain := And.intro (UInt8.not_lt.1 visible) (And.intro no_quote no_escape)
    exact ⟨_ :: text, _ :: bytes, rfl, by simp, .plain plain resolves⟩
  all_goals cases read

/-! ## Characters -/

/-- Bytes that continue a character are written as they are. -/
theorem Resolves.exists_of_continues {s more bytes : Bytes} (h : Resolves s (more ++ bytes))
    (continue_ : ∀ b ∈ more, Continues b) : ∃ s', s = more ++ s' ∧ Resolves s' bytes := by
  induction more generalizing s with
  | nil => exact ⟨s, rfl, h⟩
  | cons b more ih =>
    obtain ⟨continues, rest⟩ := List.forall_mem_cons.1 continue_
    generalize same : b :: more ++ bytes = whole at h
    cases h with
    | nil => cases same
    | plain _ behind =>
      obtain ⟨rfl, rfl⟩ := List.cons.inj same
      obtain ⟨s', rfl, resolves⟩ := ih behind rest
      exact ⟨s', rfl, resolves⟩
    | @escape c =>
      obtain ⟨first, _, written, leads, -⟩ := Utf8.encodeChar_cases c
      rw [written] at same
      obtain rfl := (List.cons.inj same).1
      exact absurd continues leads

theorem plain_of_first {c : Char} {first : UInt8} {more : Bytes}
    (written : encodeChar c = first :: more) (plain : IsPlain first) :
    32 ≤ c.toNat ∧ c ≠ '"' ∧ c ≠ '\\' := by
  obtain ⟨visible, no_quote, no_backslash⟩ := plain
  refine ⟨Nat.le_of_not_lt fun control => ?_, ?_, ?_⟩
  · have small : c.toNat < 0x80 := by omega
    rw [encodeChar, encodePoint, if_pos small] at written
    obtain rfl := (List.cons.inj written).1
    have low : 32 ≤ (UInt8.ofNat c.toNat).toNat := UInt8.le_iff_toNat_le.1 visible
    rw [UInt8.toNat_ofNat', Nat.mod_eq_of_lt (by omega)] at low
    omega
  · rintro rfl
    exact no_quote (List.cons.inj written).1.symm
  · rintro rfl
    exact no_backslash (List.cons.inj written).1.symm

/-- What is resolved to characters spells them. -/
theorem Resolves.spells {s : Bytes} {cs : List Char} (h : Resolves s (Utf8.encode cs)) :
    Spells cs s := by
  induction cs generalizing s with
  | nil =>
    generalize same : Utf8.encode [] = bytes at h
    cases h with
    | nil => exact .nil
    | plain => cases same
    | @escape c => exact absurd (List.append_eq_nil_iff.1 same.symm).1 (Utf8.encodeChar_ne_nil c)
  | cons c cs ih =>
    generalize same : Utf8.encode (c :: cs) = bytes at h
    rw [Utf8.encode_cons] at same
    cases h with
    | nil => exact absurd (List.append_eq_nil_iff.1 same).1 (Utf8.encodeChar_ne_nil c)
    | @plain b s bytes plain behind =>
      obtain ⟨first, more, written, -, continue_⟩ := Utf8.encodeChar_cases c
      rw [written] at same
      obtain ⟨rfl, rfl⟩ := List.cons.inj same
      obtain ⟨s, rfl, resolves⟩ := behind.exists_of_continues continue_
      obtain ⟨visible, no_quote, no_backslash⟩ := plain_of_first written plain
      have spells := Spells.plain visible no_quote no_backslash (ih resolves)
      rwa [written] at spells
    | @escape d escape s bytes spells behind =>
      have next := congrArg Utf8.next? same
      rw [Utf8.next?_encodeChar, Utf8.next?_encodeChar] at next
      obtain ⟨rfl, rfl⟩ := Prod.mk.inj (Option.some.inj next)
      exact spells _ _ (ih behind)

/-- What is read as a text is one of its spellings, and a quote. -/
theorem readText_eq_ok_iff (s rest : Bytes) (t : String) :
    readText s = .ok (t, rest) ↔ ∃ text, Spells t.toList text ∧ s = text ++ 34 :: rest := by
  constructor
  · intro read
    unfold readText at read
    split at read
    · exact nomatch read
    · next scanned =>
      split at read
      · next decoded =>
        cases read
        obtain ⟨text, bytes, rfl, rfl, resolves⟩ := exists_of_scanText scanned
        rw [List.append_nil, List.reverse_reverse, Utf8.text?_eq_some_iff] at decoded
        subst decoded
        exact ⟨text, resolves.spells, rfl⟩
      · exact nomatch read
  · rintro ⟨text, spells, rfl⟩
    rw [readText_of_spells spells, String.ofList_toList]

end FlagHost.Json
