import FlagHost.Proofs.Canonical
import FlagHost.Proofs.Rounding

/-!
# Documents have finite numbers

A number of a document is read by one multiplication or division of its digits by a power of ten,
or by several divisions. Main statement: a document that was read has no double that is infinite or
no number, and neither has its canonical form.
-/

namespace FlagHost.Double

open Float.Model Float.Model.UnpackedFloat
open Json (powerOfTen scale)

/-! ## Powers of ten -/

theorem parts_ofScientific {m : Nat} {e : Nat} (large : ¬ (m < 2 ^ 53 ∧ e ≤ 22)) :
    parts (Float.ofScientific m false e) =
      repacked (UnpackedFloat.ofScientific Format.binary64 m e) := by
  unfold Float.ofScientific
  rw [dif_neg large]
  rfl

/-- A decimal without a point is rounded once. -/
theorem ofScientific_eq {m : Nat} (pos : 0 < m) {e : Nat} (few : e ≤ 2048) :
    UnpackedFloat.ofScientific Format.binary64 m e =
      roundWithAccuracy Format.binary64 .positive (m <<< 53 * 10 ^ e) (-53) .exact := by
  have range : (2 : Int) ^ Format.binary64.exponentBits = 2048 := rfl
  unfold UnpackedFloat.ofScientific
  rw [dif_neg pos.ne', range, if_neg (by omega), if_neg (by omega), if_pos (Int.natCast_nonneg e)]
  rfl

theorem log2_shiftLeft_mul_le {m : Nat} (pos : 0 < m) (e : Nat) :
    (m <<< 53 * 10 ^ e).log2 ≤ m.log2 + (10 ^ e).log2 + 54 := by
  have product := log2_mul_le (m <<< 53) (10 ^ e)
  rw [log2_shiftLeft pos.ne'] at product
  omega

/-- Powers of ten that are no more than the greatest double are not below one. -/
theorem large_powerOfTen {n : Nat} (few : n ≤ 308) :
    Large (parts (powerOfTen n)) := by
  have ends : ∀ n ∈ 308 :: List.range 23, Large (parts (powerOfTen n)) := by decide +kernel
  by_cases known : n ∈ 308 :: List.range 23
  · exact ends n known
  · rw [List.mem_cons, List.mem_range] at known
    rw [powerOfTen, parts_ofScientific (by omega), ofScientific_eq (by decide) (by omega)]
    have pos : 0 < 10 ^ n := Nat.pow_pos (by decide)
    have least : 53 ≤ (1 <<< 53 * 10 ^ n).log2 := by
      refine (Nat.le_log2 (Nat.mul_ne_zero (by decide) pos.ne')).2 ?_
      exact Nat.le_mul_of_pos_right _ pos
    have most : (10 ^ n).log2 < 1020 := by
      refine (Nat.log2_lt pos.ne').2 ?_
      calc 10 ^ n ≤ 10 ^ 307 := Nat.pow_le_pow_right (by decide) (by omega)
        _ < 2 ^ 1020 := by decide +kernel
    have bits := log2_shiftLeft_mul_le Nat.one_pos n
    rw [show Nat.log2 1 = 0 by decide] at bits
    refine large_repacked (large_round (by omega) (by omega) _ _) ?_
    exact below_round (by decide) (by decide) (by omega) _ _

theorem parts_toFloat (n : UInt64) :
    parts n.toFloat = repacked (UnpackedFloat.ofUInt64 Format.binary64 n) := rfl

theorem below_toFloat (n : UInt64) : Below 12 (parts n.toFloat) := by
  rw [parts_toFloat]
  refine below_repacked (by decide) (by decide) ?_
  unfold UnpackedFloat.ofUInt64 UnpackedFloat.ofNat UnpackedFloat.ofInt
    UnpackedFloat.normalize
  split
  · next negative =>
    exact absurd (Int.compare_eq_lt.1 negative) (by omega)
  · exact .zero _
  · next positive =>
    have pos : n.toNat ≠ 0 := by
      have := Int.compare_eq_gt.1 positive
      omega
    have order : n.toNat.log2 < 64 := (Nat.log2_lt pos).2 n.toNat_lt
    unfold UnpackedFloat.round decreaseExponent
    rw [targetExponent_totalExponent]
    dsimp only
    rw [Int.toNat_natCast]
    refine below_round (by decide) (by omega) ?_ _ _
    rw [log2_shiftLeft pos]
    omega

theorem below_ofNat {n : Nat} (fits : n < 2 ^ 64) : Below 14 (parts (Float.ofNat n)) := by
  change Below 14 (parts (Float.ofScientific n false 0))
  by_cases few : n < 2 ^ 53
  · have one : Below (-52) (parts (Float.exactlyRepresentablePowersOfTen[0])) :=
      .finite (by decide)
    unfold Float.ofScientific
    rw [dif_pos ⟨few, by decide⟩]
    exact below_mul (by decide) (by decide) (below_toFloat _) one (by decide)
  · rw [parts_ofScientific (by omega), ofScientific_eq (by omega) (by omega)]
    have bits := log2_shiftLeft_mul_le (by omega : 0 < n) 0
    have one : (10 ^ 0).log2 = 0 := by decide
    have order : n.log2 < 64 := (Nat.log2_lt (by omega)).2 fits
    refine below_repacked (by decide) (by decide) ?_
    exact below_round (by decide) (by decide) (by omega) _ _

/-- What a number is scaled to is finite: a division raises the bound on the exponent by one at
most. -/
theorem below_scale {fuel : Nat} {top : Int} (least : -1074 ≤ top) (most : top + fuel ≤ 971)
    {x y : Float} (h : Below top (parts x)) {e : Int} (scaled : scale fuel x e = some y) :
    Below 971 (parts y) := by
  induction fuel generalizing top x e with
  | zero =>
    obtain rfl := Option.some.inj scaled
    exact h.mono (by omega)
  | succ fuel ih =>
    unfold scale at scaled
    split at scaled
    · next few =>
      have large := large_powerOfTen few
      split at scaled
      · dsimp only at scaled
        split at scaled
        · exact nomatch scaled
        · next finite =>
          obtain rfl := Option.some.inj scaled
          exact below_of_parts (isNaN_mul h large.below) (Bool.eq_false_iff.2 finite)
      · obtain rfl := Option.some.inj scaled
        exact below_div (by decide) (by decide) h large (by omega)
    · split at scaled
      · obtain rfl := Option.some.inj scaled
        exact h.mono (by omega)
      · split at scaled
        · exact nomatch scaled
        · have divided : Below (top + 1) (parts (x / powerOfTen 308)) :=
            below_div (by omega) (by omega) h (large_powerOfTen (Nat.le_refl 308)) (by omega)
          exact ih (by omega) (by omega) divided scaled

end FlagHost.Double

namespace FlagHost.Json

/-! ## Documents -/

/-- The document has no double that is infinite or no number. -/
inductive Finite : Json → Prop where
  | null : Finite .null
  | boolean (b : Bool) : Finite (.boolean b)
  | integer (n : Int) : Finite (.integer n)
  | float {x : Float} (number : x.isNaN = false) (bounded : x.isInf = false) : Finite (.float x)
  | text (s : String) : Finite (.text s)
  | list {items : List Json} (all : ∀ v ∈ items, Finite v) : Finite (.list items)
  | object {members : List (String × Json)} (all : ∀ member ∈ members, Finite member.2) :
      Finite (.object members)

theorem finite_of_below {top : Int} {x : Float} (below : Double.Below top (Double.parts x)) :
    Finite (.float x) := .float below.isNaN below.isInf

/-- A finite double stays finite with a sign. -/
theorem finite_signed {x : Float} (below : Double.Below 971 (Double.parts x)) (negative : Bool) :
    Finite (.float (if negative then -x else x)) := by
  cases negative with
  | false => exact finite_of_below below
  | true => exact finite_of_below (Double.below_neg (by decide) (by decide) below)

/-! ## Reading -/

theorem readMantissa_lt {n : Nat} (fits : n < 2 ^ 64) (count : Nat) (s : Bytes) :
    (readMantissa n count s).1 < 2 ^ 64 := by
  induction s generalizing n count with
  | nil => exact fits
  | cons b s ih =>
    unfold readMantissa
    split
    · next more => exact ih more.2 (count + 1)
    · exact fits

section Readers

variable {negative : Bool} {n : Nat} (fits : n < 2 ^ 64) {e : Int} {s rest : Bytes}
  {number : Number}
include fits

theorem finite_of_floatOf (read : floatOf negative n e s = .ok (number, rest)) :
    Finite number.toJson := by
  unfold floatOf at read
  split at read
  · next x scaled =>
    obtain rfl := congrArg Prod.fst (Except.ok.inj read)
    have below := Double.below_scale (by decide) (by decide) (Double.below_ofNat fits) scaled
    exact finite_signed below negative
  · exact nomatch read

theorem finite_of_readExponent (read : readExponent negative n e s = .ok (number, rest)) :
    Finite number.toJson := by
  unfold readExponent at read
  split at read
  next down s _ =>
  split at read
  · exact nomatch read
  · split at read
    · exact nomatch read
    · split at read
      · exact finite_of_floatOf fits read
      · split at read
        · exact nomatch read
        · obtain rfl := congrArg Prod.fst (Except.ok.inj read)
          exact finite_signed (.zero .positive) negative

theorem finite_of_readScale (read : readScale negative n e s = .ok (number, rest)) :
    Finite number.toJson := by
  unfold readScale at read
  split at read
  · exact finite_of_readExponent fits read
  · exact finite_of_readExponent fits read
  · exact finite_of_floatOf fits read

theorem finite_of_readFraction (read : readFraction negative n e s = .ok (number, rest)) :
    Finite number.toJson := by
  have small := readMantissa_lt fits 0 s
  unfold readFraction at read
  generalize readMantissa n 0 s = mantissa at small read
  obtain ⟨m, count, behind⟩ := mantissa
  dsimp only at read
  split at read
  · exact finite_of_readScale small read
  · split at read
    · exact nomatch read
    · exact finite_of_readScale small read

theorem finite_of_readNumberTail (read : readNumberTail negative n s = .ok (number, rest)) :
    Finite number.toJson := by
  unfold readNumberTail at read
  split at read
  · exact finite_of_readFraction fits read
  · exact finite_of_readExponent fits read
  · exact finite_of_readExponent fits read
  · split at read
    · obtain rfl := congrArg Prod.fst (Except.ok.inj read)
      exact .integer _
    · split at read
      · obtain rfl := congrArg Prod.fst (Except.ok.inj read)
        exact .integer _
      · obtain rfl := congrArg Prod.fst (Except.ok.inj read)
        have below := (Double.below_ofNat fits).mono (show (14 : Int) ≤ 971 by decide)
        exact finite_signed below true

end Readers

/-- What is read as a number is finite. -/
theorem finite_of_readNumber {negative : Bool} {s rest : Bytes} {number : Number}
    (read : readNumber negative s = .ok (number, rest)) : Finite number.toJson := by
  unfold readNumber at read
  split at read
  · exact nomatch read
  · next b s =>
    split at read
    · split at read
      · exact nomatch read
      · exact finite_of_readNumberTail (by decide) read
    · split at read
      · next first =>
        have small : digit b < 2 ^ 64 := by
          have := b.toNat_lt
          unfold digit
          omega
        have small := readMantissa_lt small 0 s
        generalize readMantissa (digit b) 0 s = mantissa at small read
        obtain ⟨n, count, behind⟩ := mantissa
        dsimp only at read
        split at read
        · split at read
          · exact finite_of_readFraction small read
          · exact finite_of_readScale small read
        · exact finite_of_readNumberTail small read
      · exact nomatch read

/-- What was read is finite. -/
theorem finite_of_readValue {items levels : Nat} {s rest : Bytes} {v : Json}
    (read : readValue items levels s = .ok (v, rest)) : Finite v :=
  readValue_forall (fun _ => .null) (fun _ => .boolean) (fun _ => .text)
    (fun _ _ _ _ _ => finite_of_readNumber) (fun _ _ => .list) (fun _ _ => .object) read

theorem finite_of_ofText {t : String} {v : Json} (read : ofText t = .ok v) : Finite v := by
  obtain ⟨items, rest, read⟩ := exists_readValue_of_ofText read
  exact finite_of_readValue read

theorem Integral.finite {v : Json} (h : Integral v) : Finite v := by
  induction h with
  | null => exact .null
  | boolean b => exact .boolean b
  | @integer n => exact .integer n
  | text s => exact .text s
  | list _ ih => exact .list ih
  | object _ ih => exact .object ih

theorem Finite.canonical {v : Json} (h : Finite v) : Finite v.canonical := by
  refine canonical_of_all (fun items => ?_) (fun members => ?_) h
  · exact ⟨fun (.list all) => all, .list⟩
  · exact ⟨fun (.object all) => all, .object⟩

end FlagHost.Json
