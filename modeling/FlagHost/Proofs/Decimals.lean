import FlagHost.Decimal.Text
import FlagHost.Proofs.Printing

/-!
# Texts of doubles

A double of a document is written with the digits of its shortest decimal, with a point among them
or with an exponent. Main statement: by the grammar of documents, what is written for a finite
double is a number.
-/

namespace FlagHost.Json

/-! ## Numbers by the grammar -/

theorem whole_encode {c : Char} {ds : List Char} (digits : ∀ d ∈ c :: ds, d.isDigit)
    (no_zero : c ≠ '0') : Whole (Utf8.encode (c :: ds)) := by
  obtain ⟨first, behind⟩ := List.forall_mem_cons.1 digits
  obtain ⟨b, byte, digit, same⟩ := encodeChar_digit first
  have nonzero : b ≠ 48 := by
    rintro rfl
    exact no_zero (Char.toNat_inj.1 same.symm)
  rw [Utf8.encode_cons, byte]
  exact .digits digit nonzero (digits_encode behind)

theorem whole_toDigits (n : Nat) : Whole (Utf8.encode (Nat.toDigits 10 n)) := by
  rcases Nat.eq_zero_or_pos n with rfl | pos
  · have zero : Utf8.encode (Nat.toDigits 10 0) = [48] := by decide
    rw [zero]
    exact .zero
  · obtain ⟨c, ds, digits, no_zero⟩ := head_toDigits pos
    rw [digits]
    exact whole_encode (fun d mem => isDigit_of_mem_toDigits (digits ▸ mem)) no_zero

theorem fraction_encode {ds : List Char} (digits : ∀ d ∈ ds, d.isDigit) (some_digit : ds ≠ []) :
    Fraction (Utf8.encode ('.' :: ds)) := by
  obtain ⟨b, s, bytes, digit, behind⟩ := exists_digit_encode digits some_digit
  rw [Utf8.encode_cons, bytes]
  exact .point digit behind

theorem exponent_encode (negative : Bool) {ds : List Char} (digits : ∀ d ∈ ds, d.isDigit)
    (some_digit : ds ≠ []) :
    Exponent (Utf8.encode ('e' :: (if negative then '-' else '+') :: ds)) := by
  obtain ⟨b, s, bytes, digit, behind⟩ := exists_digit_encode digits some_digit
  have power {sign : Bytes} (is_sign : sign = [] ∨ sign = [43] ∨ sign = [45]) :
      Exponent (101 :: sign ++ b :: s) :=
    .power (.inl rfl) is_sign digit behind
  rw [Utf8.encode_cons, Utf8.encode_cons, bytes]
  cases negative with
  | false => exact power (.inr (.inl rfl))
  | true => exact power (.inr (.inr rfl))

/-- A number without a sign. -/
inductive Unsigned : Bytes → Prop where
  | parts {whole fraction exponent : Bytes} (is_whole : Whole whole)
      (is_fraction : Fraction fraction) (is_exponent : Exponent exponent) :
      Unsigned (whole ++ fraction ++ exponent)

theorem Whole.unsigned {s : Bytes} (h : Whole s) : Unsigned s := by
  simpa using Unsigned.parts h .nothing .nothing

theorem Unsigned.first_byte {s : Bytes} (h : Unsigned s) : ∃ b rest, s = b :: rest ∧ isDigit b := by
  obtain ⟨is_whole, -, -⟩ := h
  cases is_whole with
  | zero => exact ⟨48, _, rfl, rfl⟩
  | digits first => exact ⟨_, _, rfl, first⟩

/-- A number with a minus, or without a sign. -/
inductive Numeral : Bytes → Prop where
  | plain {s : Bytes} (unsigned : Unsigned s) : Numeral s
  | minus {s : Bytes} (unsigned : Unsigned s) : Numeral (45 :: s)

theorem Numeral.written {s : Bytes} (h : Numeral s) : Written .value s := by
  cases h with
  | plain unsigned =>
    obtain ⟨is_whole, is_fraction, is_exponent⟩ := unsigned
    simpa using Written.number (.inl rfl) is_whole is_fraction is_exponent
  | minus unsigned =>
    obtain ⟨is_whole, is_fraction, is_exponent⟩ := unsigned
    simpa using Written.number (.inr rfl) is_whole is_fraction is_exponent

theorem Numeral.head?_ne {s : Bytes} (h : Numeral s) : s.head? ≠ some 123 := by
  cases h with
  | plain unsigned =>
    obtain ⟨b, rest, rfl, digit⟩ := unsigned.first_byte
    rintro same
    obtain rfl := Option.some.inj same
    exact nomatch digit
  | minus => exact nofun

end FlagHost.Json

namespace FlagHost.Decimal

open Json (Whole Fraction Exponent Unsigned Numeral whole_encode fraction_encode exponent_encode)

/-! ## Digits of the shortest decimal -/

/-- There are digits, or the number is zero and has no exponent. -/
def Scaled.Reduced (s : Scaled) : Prop := s.digits = 0 → s.exponent = 0

theorem nearer_pos (tie : Tie) {d : Nat} (pos : 0 < d) (part unit : Nat) :
    0 < nearer tie d part unit := by
  unfold nearer
  split
  · exact pos
  · split
    · exact pos
    · exact Nat.succ_pos d

theorem onGrid_pos {tie : Tie} {m : Nat} {q e : Int} {d : Nat} (found : onGrid tie m q e = some d) :
    0 < d := by
  unfold onGrid at found
  dsimp only at found
  split at found
  · next lower upper =>
    obtain rfl := Option.some.inj found
    rw [Bool.and_eq_true, bne_iff_ne] at lower
    exact nearer_pos tie (Nat.pos_of_ne_zero lower.2) _ _
  · next lower upper =>
    obtain rfl := Option.some.inj found
    rw [Bool.and_eq_true, bne_iff_ne] at lower
    exact Nat.pos_of_ne_zero lower.2
  · obtain rfl := Option.some.inj found
    exact Nat.succ_pos _
  · exact nomatch found

theorem digits_trim_pos (fuel : Nat) {d : Nat} (pos : 0 < d) (e : Int) :
    0 < (trim fuel d e).digits := by
  induction fuel generalizing d e with
  | zero => exact pos
  | succ fuel ih =>
    unfold trim
    split
    · next more =>
      rw [Bool.and_eq_true, decide_eq_true_eq] at more
      exact ih (by omega) (e + 1)
    · exact pos

theorem digits_firstGrid_pos (tie : Tie) {m : Nat} (pos : 0 < m) (q p : Int) (more k : Nat) :
    0 < (firstGrid tie m q p more k).digits := by
  induction more generalizing k with
  | zero => exact pos
  | succ more ih =>
    unfold firstGrid
    split
    · next d found => exact digits_trim_pos 20 (onGrid_pos found) _
    · exact ih (k + 1)

theorem reduced_shortest (tie : Tie) (m : Nat) (q : Int) : (shortest tie m q).Reduced := by
  unfold shortest
  split
  · exact fun _ => rfl
  · next some_bit =>
    intro none_left
    have pos := digits_firstGrid_pos tie (Nat.pos_of_ne_zero some_bit) q (order m q) 17 0
    omega

/-! ## Texts -/

theorem isDigit_of_mem_zeros {n : Nat} {c : Char} (mem : c ∈ List.replicate n '0') :
    c.isDigit := by
  obtain rfl := List.eq_of_mem_replicate mem
  rfl

/-- Digits in front of a point and digits behind it. -/
theorem unsigned_point {ws ds : List Char} (whole : Whole (Utf8.encode ws))
    (digits : ∀ d ∈ ds, d.isDigit) (some_digit : ds ≠ []) :
    Unsigned (Utf8.encode (ws ++ '.' :: ds)) := by
  have number := Unsigned.parts whole (fraction_encode digits some_digit) .nothing
  rwa [List.append_nil, ← Utf8.encode_append] at number

section Forms

variable {c : Char} {ds : List Char} (digits : ∀ d ∈ c :: ds, d.isDigit) (no_zero : c ≠ '0')
include digits no_zero

theorem unsigned_positional (e : Int) :
    Unsigned (Utf8.encode (positional .document (c :: ds) e).toList) := by
  unfold positional
  -- The point stands behind the digits, among them or in front of them.
  split
  · have whole : Whole (Utf8.encode (c :: (ds ++ List.replicate e.toNat '0'))) := by
      refine whole_encode (fun d mem => ?_) no_zero
      rw [← List.cons_append] at mem
      exact (List.mem_append.1 mem).elim (digits d) isDigit_of_mem_zeros
    have number := unsigned_point whole (fun _ => isDigit_of_mem_zeros (n := 1))
      (List.cons_ne_nil _ _)
    simpa [zeros, Style.document] using number
  · next no_whole =>
    dsimp only
    generalize places_eq : (-e).toNat = places
    split
    · next inside =>
      have split_at : (c :: ds).length - places = ds.length - places + 1 := by
        rw [List.length_cons] at inside ⊢
        omega
      have whole : Whole (Utf8.encode (c :: ds.take (ds.length - places))) := by
        refine whole_encode (fun d mem => digits d ?_) no_zero
        rw [← List.take_succ_cons] at mem
        exact List.mem_of_mem_take mem
      have some_digit : ds.drop (ds.length - places) ≠ [] := by
        rw [ne_eq, List.drop_eq_nil_iff]
        rw [List.length_cons] at inside
        omega
      have number := unsigned_point whole
        (fun d mem => digits d (.tail c (List.mem_of_mem_drop mem))) some_digit
      rw [split_at, List.take_succ_cons, List.drop_succ_cons]
      simpa using number
    · have behind : ∀ d ∈ List.replicate (places - (c :: ds).length) '0' ++ c :: ds, d.isDigit :=
        fun d mem => (List.mem_append.1 mem).elim isDigit_of_mem_zeros (digits d)
      have whole : Whole (Utf8.encode ['0']) := .zero
      simpa [zeros] using unsigned_point whole behind (by simp)

theorem unsigned_scientific (p : Int) :
    Unsigned (Utf8.encode (scientific (c :: ds) p).toList) := by
  obtain ⟨first, behind⟩ := List.forall_mem_cons.1 digits
  have whole : Whole (Utf8.encodeChar c) := by
    rw [← Utf8.encode_singleton]
    exact whole_encode (List.forall_mem_singleton.2 first) no_zero
  have exponent := exponent_encode (decide (p < 0)) (fun _ => Json.isDigit_of_mem_toDigits)
    (Nat.toDigits_ne_nil (n := p.natAbs))
  have scale : (toString p.natAbs).toList = Nat.toDigits 10 p.natAbs := by
    rw [show toString p.natAbs = Nat.repr p.natAbs from rfl, Nat.repr_eq_ofList_toDigits,
      String.toList_ofList]
  have sign : (if p < 0 then "-" else "+").toList = [if decide (p < 0) then '-' else '+'] := by
    by_cases negative : p < 0 <;> simp [negative]
  unfold scientific
  simp only [String.toList_append, scale, sign]
  cases ds with
  | nil =>
    have number := Unsigned.parts whole .nothing exponent
    simpa [Utf8.encode_append, Utf8.encode_cons] using number
  | cons d ds =>
    have number := Unsigned.parts whole (fraction_encode behind (List.cons_ne_nil d ds)) exponent
    simpa [Utf8.encode_append, Utf8.encode_cons] using number

end Forms

theorem unsigned_text {s : Scaled} (reduced : s.Reduced) :
    Unsigned (Utf8.encode (s.text .document).toList) := by
  obtain ⟨n, e⟩ := s
  rcases Nat.eq_zero_or_pos n with rfl | pos
  · obtain rfl : e = 0 := reduced rfl
    have zero : Utf8.encode (Scaled.text .document ⟨0, 0⟩).toList = [48, 46, 48] := by
      decide +kernel
    have fraction : Fraction [46, 48] := .point rfl fun _ mem => nomatch mem
    rw [zero]
    exact .parts .zero fraction .nothing
  · obtain ⟨c, ds, digits, no_zero⟩ := Json.head_toDigits pos
    have all (d : Char) (mem : d ∈ c :: ds) : d.isDigit :=
      Json.isDigit_of_mem_toDigits (digits ▸ mem)
    unfold Scaled.text
    dsimp only
    rw [digits]
    split
    · exact unsigned_positional all no_zero e
    · exact unsigned_scientific all no_zero _

/-- What is written for a finite double is a number of a document. -/
theorem numeral_floatText {x : Float} (number : x.isNaN = false) (bounded : x.isInf = false) :
    Numeral (Utf8.encode (floatText .document x).toList) := by
  unfold floatText
  rw [number, bounded]
  dsimp only
  generalize magnitude x.toBits.toNat = magnitude
  have text := unsigned_text (reduced_shortest Style.document.tie magnitude.1 magnitude.2)
  by_cases positive : x.toBits.toNat < 0x8000000000000000
  · simpa [positive] using Numeral.plain text
  · have minus : Utf8.encodeChar '-' = [45] := by decide
    simpa [positive, Utf8.encode_cons, minus] using Numeral.minus text

end FlagHost.Decimal
