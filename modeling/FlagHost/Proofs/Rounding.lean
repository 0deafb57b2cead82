import Mathlib.Algebra.Order.Group.Nat
import Mathlib.Algebra.Order.Ring.Nat

/-!
# Arithmetic of doubles

Doubles are taken in their parts, a sign, a mantissa of at most 53 bits and an exponent from -1074
to 971. Main statements: a product with a small number and a quotient by a number that is one or
more stay in the range of doubles, and a product of finite doubles is a number.
-/

namespace FlagHost.Double

open Float.Model Float.Model.UnpackedFloat

/-! ## Rounding -/

theorem mantissa_shiftRight (em : ExtendedMantissa) (k : Nat) :
    (em >>> k).mantissa = em.mantissa / 2 ^ k := by
  induction k with
  | zero => simp [HShiftRight.hShiftRight, Nat.repeat]
  | succ k ih =>
    change (em >>> k).mantissa / 2 = em.mantissa / 2 ^ (k + 1)
    rw [ih, Nat.div_div_eq_div_mul, Nat.pow_succ]

theorem roundedMantissa_bounds (em : ExtendedMantissa) :
    em.mantissa ≤ em.roundedMantissa ∧ em.roundedMantissa ≤ em.mantissa + 1 := by
  obtain ⟨m, half, more⟩ := em
  cases half <;> cases more <;>
    simp [ExtendedMantissa.roundedMantissa, ExtendedMantissa.accuracy,
      Accuracy.roundToNearestEven]
  omega

theorem mantissa_ofMantissaAndAccuracy (m : Nat) (accuracy : Accuracy) :
    (ExtendedMantissa.ofMantissaAndAccuracy m accuracy).mantissa = m := by
  cases accuracy with
  | exact => rfl
  | inexact order => cases order <;> rfl

theorem targetExponent_eq (order : Int) :
    Format.binary64.targetExponent order = max (order - 53) (-1074) := rfl

theorem targetExponent_totalExponent (m : Nat) (e : Int) :
    Format.binary64.targetExponent (totalExponent m e) = max (m.log2 + e - 52) (-1074) := by
  rw [targetExponent_eq, totalExponent]
  omega

/-- How far a mantissa is shifted. -/
def places (m : Nat) (e : Int) : Nat := (max (m.log2 + e - 52) (-1074) - e).toNat

theorem mantissa_shiftToTargetExponent (m : Nat) (e : Int) (accuracy : Accuracy) :
    (shiftToTargetExponent Format.binary64 m e accuracy).1.mantissa = m / 2 ^ places m e := by
  unfold shiftToTargetExponent shiftToExponent
  rw [targetExponent_totalExponent, mantissa_shiftRight, mantissa_ofMantissaAndAccuracy]
  rfl

theorem exponent_shiftToTargetExponent (m : Nat) (e : Int) (accuracy : Accuracy) :
    (shiftToTargetExponent Format.binary64 m e accuracy).2 = e + places m e := by
  unfold shiftToTargetExponent shiftToExponent
  rw [targetExponent_totalExponent]
  rfl

theorem shifted_lt (m : Nat) (e : Int) : m / 2 ^ places m e < 2 ^ 53 := by
  refine (Nat.div_lt_iff_lt_mul (Nat.two_pow_pos _)).2 (Nat.lt_log2_self.trans_le ?_)
  rw [← Nat.pow_add]
  refine Nat.pow_le_pow_right (by decide) ?_
  unfold places
  omega

/-- Rounding shifts the mantissa to 53 bits, rounds it to `r`, and shifts once more if that has
become one bit too many. -/
theorem exists_round (sign : Sign) (m : Nat) (e : Int) (accuracy : Accuracy) :
    ∃ r, m / 2 ^ places m e ≤ r ∧ r ≤ 2 ^ 53 ∧
      roundWithAccuracy Format.binary64 sign m e accuracy =
        if zero : r / 2 ^ places r (e + places m e) = 0 then .zero sign
        else .finite sign (r / 2 ^ places r (e + places m e))
          (e + places m e + places r (e + places m e)) (Nat.pos_of_ne_zero zero) := by
  let first := shiftToTargetExponent Format.binary64 m e accuracy
  let second := shiftToTargetExponent Format.binary64 first.1.roundedMantissa first.2 .exact
  have steps : roundWithAccuracy Format.binary64 sign m e accuracy =
      if zero : second.1.mantissa = 0 then .zero sign
      else .finite sign second.1.mantissa second.2 (Nat.pos_of_ne_zero zero) := rfl
  have mantissa_eq : second.1.mantissa = _ := mantissa_shiftToTargetExponent ..
  have exponent_eq : second.2 = _ := exponent_shiftToTargetExponent ..
  rw [exponent_shiftToTargetExponent m e accuracy] at mantissa_eq exponent_eq
  obtain ⟨least, greatest⟩ := roundedMantissa_bounds first.1
  rw [mantissa_shiftToTargetExponent] at least greatest
  refine ⟨first.1.roundedMantissa, least, greatest.trans (shifted_lt m e), ?_⟩
  rw [steps]
  generalize second.1.mantissa = m' at mantissa_eq ⊢
  generalize second.2 = e' at exponent_eq ⊢
  subst mantissa_eq exponent_eq
  rfl

theorem add_places (m : Nat) (e : Int) :
    e + places m e = max e (max (m.log2 + e - 52) (-1074)) := by
  unfold places
  omega

theorem log2_le_of_le {r : Nat} (few : r ≤ 2 ^ 53) : r.log2 ≤ 53 := by
  rcases Nat.eq_zero_or_pos r with rfl | pos
  · decide
  · exact Nat.lt_succ_iff.1 ((Nat.log2_lt pos.ne').2 (few.trans_lt (by decide)))

/-- A zero, or a finite double whose exponent is not above `top`. -/
inductive Below (top : Int) : UnpackedFloat → Prop where
  | zero (sign : Sign) : Below top (.zero sign)
  | finite {sign : Sign} {m : Nat} {e : Int} {pos : 0 < m} (low : e ≤ top) :
      Below top (.finite sign m e pos)

theorem Below.isNaN {top : Int} {u : UnpackedFloat} (h : Below top u) : u.isNaN = false := by
  cases h <;> rfl

theorem Below.isInf {top : Int} {u : UnpackedFloat} (h : Below top u) : u.isInf = false := by
  cases h <;> rfl

theorem Below.mono {top top' : Int} {u : UnpackedFloat} (h : Below top u) (le : top ≤ top') :
    Below top' u := by
  cases h with
  | zero sign => exact .zero sign
  | finite low => exact .finite (low.trans le)

theorem below_round {top : Int} (least : -1074 < top) {m : Nat} {e : Int} (low : e < top)
    (few : m.log2 + e < top + 52) (sign : Sign) (accuracy : Accuracy) :
    Below top (roundWithAccuracy Format.binary64 sign m e accuracy) := by
  obtain ⟨r, -, greatest, rounded⟩ := exists_round sign m e accuracy
  have bits := log2_le_of_le greatest
  have first := add_places m e
  have second := add_places r (e + places m e)
  rw [rounded]
  by_cases zero : r / 2 ^ places r (e + places m e) = 0
  · rw [dif_pos zero]
    exact .zero sign
  · rw [dif_neg zero]
    refine .finite ?_
    omega

/-- A full mantissa, with an exponent that puts the double at one or above. -/
inductive Large : UnpackedFloat → Prop where
  | finite {sign : Sign} {m : Nat} {e : Int} {pos : 0 < m} (full : m.log2 = 52) (high : -52 ≤ e) :
      Large (.finite sign m e pos)

instance : DecidablePred Large
  | .finite _ m e _ =>
    decidable_of_iff (m.log2 = 52 ∧ -52 ≤ e)
      ⟨fun ⟨full, high⟩ => .finite full high, fun (.finite full high) => ⟨full, high⟩⟩
  | .zero _ => isFalse nofun
  | .infinity _ => isFalse nofun
  | .notANumber => isFalse nofun

theorem Large.isNaN {u : UnpackedFloat} (h : Large u) : u.isNaN = false := by
  cases h
  rfl

theorem Large.isInf {u : UnpackedFloat} (h : Large u) : u.isInf = false := by
  cases h
  rfl

theorem large_round {m : Nat} {e : Int} (full : 52 ≤ m.log2) (high : 0 ≤ m.log2 + e) (sign : Sign)
    (accuracy : Accuracy) : Large (roundWithAccuracy Format.binary64 sign m e accuracy) := by
  obtain ⟨r, least, greatest, rounded⟩ := exists_round sign m e accuracy
  have pos : m ≠ 0 := by
    rintro rfl
    exact absurd full (by decide)
  have shifted : places m e = m.log2 - 52 := by
    unfold places
    omega
  have least : 2 ^ 52 ≤ r := by
    refine ((Nat.le_div_iff_mul_le (Nat.two_pow_pos _)).2 ?_).trans least
    rw [← Nat.pow_add, shifted, Nat.add_sub_cancel' full]
    exact Nat.log2_self_le pos
  have fits := add_places m e
  have again := add_places r (e + places m e)
  rw [rounded]
  rcases Nat.lt_or_eq_of_le greatest with fewer | rfl
  · have bits : r.log2 = 52 := (Nat.log2_eq_iff (by omega)).2 ⟨least, fewer⟩
    have stays : places r (e + places m e) = 0 := by omega
    rw [stays, Nat.pow_zero, Nat.div_one, dif_neg (by omega)]
    exact .finite bits (by omega)
  · -- Rounding has made one bit more of the mantissa, which is a power of two then.
    have carried : places (2 ^ 53) (e + places m e) = 1 := by
      rw [Nat.log2_two_pow] at again
      omega
    rw [carried, dif_neg (by decide)]
    exact .finite (by decide) (by omega)

/-! ## Packing -/

/-- The packed bits of a double. -/
abbrev Packed := BitVec Format.binary64.numBits

/-- What bits are unpacked to, by their exponent and their mantissa. -/
inductive Unpacks (b : Packed) : UnpackedFloat → Prop where
  | infinity (sign : Sign) (high : unpackExponent b = -1#_) : Unpacks b (.infinity sign)
  | notANumber (high : unpackExponent b = -1#_) (some_bit : unpackMantissa b ≠ 0#_) :
      Unpacks b .notANumber
  | zero (sign : Sign) (low : unpackExponent b = 0#_) : Unpacks b (.zero sign)
  | subnormal {sign : Sign} {m : Nat} {e : Int} {pos : 0 < m} (low : unpackExponent b = 0#_)
      (few : m < 2 ^ 52) (least : e = -1074) : Unpacks b (.finite sign m e pos)
  | normal {sign : Sign} {m : Nat} {e : Int} {pos : 0 < m} (some_bit : unpackExponent b ≠ 0#_)
      (no_high : unpackExponent b ≠ -1#_) (full : m.log2 = 52)
      (same : e = (unpackExponent b).toNat - 1075) : Unpacks b (.finite sign m e pos)

theorem unpacks (b : Packed) : Unpacks b (UnpackedFloat.unpack Format.binary64 b) := by
  unfold UnpackedFloat.unpack
  dsimp only
  by_cases high : unpackExponent b = -1#_
  · rw [if_pos high]
    by_cases no_bit : unpackMantissa b = 0#_
    · rw [if_pos no_bit]
      exact .infinity _ high
    · rw [if_neg no_bit]
      exact .notANumber high no_bit
  rw [if_neg high]
  by_cases low : unpackExponent b = 0#_
  · rw [if_pos low]
    by_cases no_bit : unpackMantissa b = 0#_
    · rw [dif_pos no_bit]
      exact .zero _ low
    · rw [dif_neg no_bit]
      refine .subnormal low (unpackMantissa b).isLt ?_
      rw [low]
      rfl
  · rw [if_neg low]
    have few : (unpackMantissa b).toNat < 2 ^ 52 := (unpackMantissa b).isLt
    have led : (1#1 ++ unpackMantissa b).toNat = 2 ^ 52 + (unpackMantissa b).toNat := by
      rw [BitVec.toNat_append, ← Nat.shiftLeft_add_eq_or_of_lt (unpackMantissa b).isLt]
      rfl
    refine .normal low high ?_ rfl
    rw [led, Nat.log2_eq_iff (by omega)]
    omega

/-- What the bits of a finite double say: it has grown infinite, or its exponent is kept if its
mantissa is full and is zero if not. -/
inductive Packs (m : Nat) (e : Int) (b : Packed) : Prop where
  | infinity (beyond : 971 < e) (no_bit : unpackMantissa b = 0#_)
  | normal (fits : e ≤ 971) (full : m.log2 = 52)
      (kept : (unpackExponent b).toNat = (e + 1075).toNat)
  | subnormal (fits : e ≤ 971) (short : m.log2 ≠ 52) (none_left : unpackExponent b = 0#_)

theorem packs (sign : Sign) (m : Nat) (e : Int) (pos : 0 < m) :
    Packs m e (UnpackedFloat.pack Format.binary64 (.finite sign m e pos)) := by
  have biased : (e + Format.binary64.exponentBias + (52 : Nat)).toNat = (e + 1075).toNat := by
    have bias : (Format.binary64.exponentBias : Int) = 1023 := rfl
    rw [bias]
    omega
  have bits : Format.binary64.mantissaBits = 53 := rfl
  have range : 2 ^ Format.binary64.exponentBits = 2048 := rfl
  unfold UnpackedFloat.pack
  dsimp only
  rw [biased, bits, range]
  split
  · next beyond =>
    refine .infinity (by omega) ?_
    rw [packedInfinity, unpackMantissa_packComponents]
    rfl
  · next fits =>
    split
    · refine .normal (by omega) (by omega) ?_
      rw [unpackExponent_packComponents, BitVec.toNat_ofNat, Nat.mod_eq_of_lt (by omega)]
    · refine .subnormal (by omega) (by omega) ?_
      rw [unpackExponent_packComponents]

/-- What a packed double is unpacked to. -/
abbrev repacked (u : UnpackedFloat) : UnpackedFloat :=
  UnpackedFloat.unpack Format.binary64 (UnpackedFloat.pack Format.binary64 u)

theorem repacked_zero (sign : Sign) : ∃ sign', repacked (.zero sign) = .zero sign' := by
  cases sign
  · exact ⟨_, rfl⟩
  · exact ⟨_, rfl⟩

theorem Packs.unpackExponent_ne {m : Nat} {e : Int} {b : Packed} (h : Packs m e b)
    (fits : e ≤ 971) : unpackExponent b ≠ -1#_ := by
  intro high
  have all : (unpackExponent b).toNat = 2047 := by
    rw [high]
    rfl
  cases h with
  | infinity beyond => omega
  | normal fits full kept => omega
  | subnormal fits short none_left =>
    rw [none_left] at all
    exact absurd all (by decide)

theorem exists_repacked (sign : Sign) (m : Nat) (e : Int) (pos : 0 < m) :
    ∃ b, Packs m e b ∧ Unpacks b (repacked (.finite sign m e pos)) :=
  ⟨_, packs sign m e pos, unpacks _⟩

theorem isNaN_repacked_finite (sign : Sign) (m : Nat) (e : Int) (pos : 0 < m) :
    (repacked (.finite sign m e pos)).isNaN = false := by
  obtain ⟨b, packed, seen⟩ := exists_repacked sign m e pos
  generalize repacked (.finite sign m e pos) = u at seen ⊢
  cases seen with
  | notANumber high some_bit =>
    by_cases fits : e ≤ 971
    · exact absurd high (packed.unpackExponent_ne fits)
    · cases packed with
      | infinity beyond no_bit => exact absurd no_bit some_bit
      | normal fits' => exact absurd fits' fits
      | subnormal fits' => exact absurd fits' fits
  | _ => rfl

theorem below_repacked {top : Int} (least : -1074 ≤ top) (most : top ≤ 971) {u : UnpackedFloat}
    (h : Below top u) : Below top (repacked u) := by
  cases h with
  | zero sign =>
    obtain ⟨sign', same⟩ := repacked_zero sign
    rw [same]
    exact .zero sign'
  | @finite sign m e pos low =>
    have fits : e ≤ 971 := low.trans most
    obtain ⟨b, packed, seen⟩ := exists_repacked sign m e pos
    have no_high := packed.unpackExponent_ne fits
    generalize repacked (.finite sign m e pos) = u at seen ⊢
    cases seen with
    | infinity sign high => exact absurd high no_high
    | notANumber high => exact absurd high no_high
    | zero sign' => exact .zero sign'
    | subnormal low few same => exact .finite (same ▸ least)
    | normal some_bit no_high full same =>
      refine .finite ?_
      have some_bit : (unpackExponent b).toNat ≠ 0 := fun zero =>
        some_bit (BitVec.eq_of_toNat_eq zero)
      cases packed with
      | infinity beyond => omega
      | normal fits full kept => omega
      | subnormal fits short none_left =>
        rw [none_left] at some_bit
        exact absurd rfl some_bit

theorem large_repacked {u : UnpackedFloat} (h : Large u) (below : Below 971 u) :
    Large (repacked u) := by
  cases h with
  | @finite sign m e pos full high =>
    cases below with
    | finite fits =>
      obtain ⟨b, packed, seen⟩ := exists_repacked sign m e pos
      have no_high := packed.unpackExponent_ne fits
      have kept : (unpackExponent b).toNat = e + 1075 := by
        cases packed with
        | infinity beyond => omega
        | normal fits full kept => omega
        | subnormal fits short => exact absurd full short
      have some_bit : unpackExponent b ≠ 0#_ := by
        intro low
        rw [low, BitVec.toNat_zero] at kept
        omega
      generalize repacked (.finite sign m e pos) = u at seen ⊢
      cases seen with
      | infinity sign high => exact absurd high no_high
      | notANumber high => exact absurd high no_high
      | zero sign' low => exact absurd low some_bit
      | subnormal low few same => exact absurd low some_bit
      | normal some_bit no_high full same => exact .finite full (by omega)

/-! ## Operations -/

/-- A double in its parts. -/
def parts (x : Float) : UnpackedFloat := x.toModel.unpack

theorem exists_unpacks_parts (x : Float) : ∃ b : Packed, Unpacks b (parts x) :=
  ⟨x.toModel.toBits.toBitVec, unpacks _⟩

theorem log2_le_of_parts {x : Float} {sign : Sign} {m : Nat} {e : Int} {pos : 0 < m}
    (same : parts x = .finite sign m e pos) : m.log2 ≤ 52 := by
  obtain ⟨b, seen⟩ := exists_unpacks_parts x
  rw [same] at seen
  cases seen with
  | subnormal low few least =>
    exact Nat.lt_succ_iff.1 ((Nat.log2_lt pos.ne').2 (few.trans (by decide)))
  | normal some_bit no_high full same => exact full.le

theorem below_of_parts {x : Float} (number : (parts x).isNaN = false)
    (bounded : (parts x).isInf = false) : Below 971 (parts x) := by
  obtain ⟨b, seen⟩ := exists_unpacks_parts x
  generalize parts x = u at seen number bounded ⊢
  cases seen with
  | infinity sign high => cases bounded
  | notANumber high some_bit => cases number
  | zero sign low => exact .zero sign
  | subnormal low few least => exact .finite (by omega)
  | normal some_bit no_high full same =>
    refine .finite ?_
    have range : (unpackExponent b).toNat < 2048 := BitVec.isLt _
    have no_all : (unpackExponent b).toNat ≠ 2047 := fun all =>
      no_high (BitVec.eq_of_toNat_eq all)
    omega

theorem Large.below {x : Float} (h : Large (parts x)) : Below 971 (parts x) :=
  below_of_parts h.isNaN h.isInf

theorem parts_mul (x y : Float) :
    parts (x * y) = repacked (UnpackedFloat.mul Format.binary64 (parts x) (parts y)) := rfl

theorem parts_div (x y : Float) :
    parts (x / y) = repacked (UnpackedFloat.div Format.binary64 (parts x) (parts y)) := rfl

theorem parts_neg (x : Float) : parts (-x) = repacked (parts x).neg := rfl

theorem below_neg {top : Int} (least : -1074 ≤ top) (most : top ≤ 971) {x : Float}
    (h : Below top (parts x)) : Below top (parts (-x)) := by
  rw [parts_neg]
  refine below_repacked least most ?_
  generalize parts x = u at h ⊢
  cases h with
  | zero sign => exact .zero (-sign)
  | finite low => exact .finite low

theorem mul_finite (sign sign' : Sign) (m m' : Nat) (e e' : Int) (pos : 0 < m) (pos' : 0 < m') :
    UnpackedFloat.mul Format.binary64 (.finite sign m e pos) (.finite sign' m' e' pos') =
      roundWithAccuracy Format.binary64 (sign * sign') (m * m') (e + e') .exact := rfl

/-- A product of finite doubles is a number. -/
theorem isNaN_mul {top top' : Int} {x y : Float} (h : Below top (parts x))
    (h' : Below top' (parts y)) : (parts (x * y)).isNaN = false := by
  have zero (sign : Sign) : (repacked (.zero sign)).isNaN = false := by
    obtain ⟨sign', same⟩ := repacked_zero sign
    rw [same]
    rfl
  rw [parts_mul]
  generalize parts x = u at h ⊢
  generalize parts y = v at h' ⊢
  cases h with
  | zero sign => cases h' <;> exact zero _
  | @finite sign m e pos low =>
    cases h' with
    | zero sign' => exact zero _
    | @finite sign' m' e' pos' low' =>
      obtain ⟨r, -, -, rounded⟩ := exists_round (sign * sign') (m * m') (e + e') .exact
      rw [mul_finite, rounded]
      by_cases vanishes : r / 2 ^ places r (e + e' + places (m * m') (e + e')) = 0
      · rw [dif_pos vanishes]
        exact zero _
      · rw [dif_neg vanishes]
        exact isNaN_repacked_finite _ _ _ _

theorem log2_mul_le (m n : Nat) : (m * n).log2 ≤ m.log2 + n.log2 + 1 := by
  rcases Nat.eq_zero_or_pos (m * n) with zero | pos
  · rw [zero]
    exact Nat.zero_le _
  · refine Nat.lt_succ_iff.1 ((Nat.log2_lt pos.ne').2 ?_)
    calc m * n < 2 ^ (m.log2 + 1) * 2 ^ (n.log2 + 1) :=
          Nat.mul_lt_mul'' Nat.lt_log2_self Nat.lt_log2_self
      _ = 2 ^ (m.log2 + n.log2 + 1 + 1) := by rw [← Nat.pow_add]; congr 1; omega

/-- A product with a small number is small. -/
theorem below_mul {bound top : Int} (least : -1074 < top) (most : top ≤ 971) {x y : Float}
    (h : Below bound (parts x)) (h' : Below (-52) (parts y)) (step : bound + 1 < top) :
    Below top (parts (x * y)) := by
  rw [parts_mul]
  refine below_repacked least.le most ?_
  generalize x_parts : parts x = u at h ⊢
  generalize y_parts : parts y = v at h' ⊢
  cases h with
  | zero sign => cases h' <;> exact .zero _
  | @finite sign m e pos low =>
    cases h' with
    | zero sign' => exact .zero _
    | @finite sign' m' e' pos' low' =>
      have bits := log2_mul_le m m'
      have few := log2_le_of_parts x_parts
      have few' := log2_le_of_parts y_parts
      rw [mul_finite]
      exact below_round least (by omega) (by omega) _ _

theorem log2_div_add_le {m n : Nat} (some_bit : n ≠ 0) (quotient : m / n ≠ 0) :
    (m / n).log2 + n.log2 ≤ m.log2 := by
  have pos : m ≠ 0 := by
    rintro rfl
    exact quotient (Nat.zero_div n)
  refine (Nat.le_log2 pos).2 ?_
  calc 2 ^ ((m / n).log2 + n.log2) = 2 ^ (m / n).log2 * 2 ^ n.log2 := Nat.pow_add ..
    _ ≤ m / n * n := Nat.mul_le_mul (Nat.log2_self_le quotient) (Nat.log2_self_le some_bit)
    _ ≤ m := Nat.div_mul_le_self m n

theorem log2_shiftLeft {m : Nat} (pos : m ≠ 0) (s : Nat) : (m <<< s).log2 = m.log2 + s := by
  induction s with
  | zero => rfl
  | succ s ih =>
    have some_bit : m <<< s ≠ 0 := (Nat.shiftLeft_pos_iff.2 (Nat.pos_of_ne_zero pos)).ne'
    rw [Nat.shiftLeft_succ, Nat.log2_two_mul some_bit, ih, Nat.add_assoc]

/-- A quotient is rounded once, from an exponent at which it has 53 bits. -/
theorem exists_div (sign sign' : Sign) (m m' : Nat) (e e' : Int) (pos : 0 < m) (pos' : 0 < m') :
    ∃ target accuracy,
      target = min (e - e') (max (m.log2 + 1 + e - (m'.log2 + 1 + e') - 53) (-1074)) ∧
        UnpackedFloat.div Format.binary64 (.finite sign m e pos) (.finite sign' m' e' pos') =
          roundWithAccuracy Format.binary64 (sign / sign')
            (m <<< (e - e' - target).toNat / m') target accuracy :=
  ⟨_, _, rfl, rfl⟩

/-- A quotient by a number that is one or more is hardly greater. -/
theorem below_div {bound top : Int} (least : -1074 < top) (most : top ≤ 971) {x y : Float}
    (h : Below bound (parts x)) (large : Large (parts y)) (step : bound < top) :
    Below top (parts (x / y)) := by
  rw [parts_div]
  refine below_repacked least.le most ?_
  generalize x_parts : parts x = u at h ⊢
  generalize y_parts : parts y = v at large ⊢
  cases large with
  | @finite sign' m' e' pos' full high =>
    cases h with
    | zero sign => exact .zero _
    | @finite sign m e pos low =>
      have few := log2_le_of_parts x_parts
      obtain ⟨target, accuracy, target_eq, divided⟩ := exists_div sign sign' m m' e e' pos pos'
      rw [divided]
      refine below_round least (by omega) ?_ _ _
      by_cases quotient : m <<< (e - e' - target).toNat / m' = 0
      · rw [quotient, Nat.log2_zero]
        omega
      · have bits := log2_div_add_le pos'.ne' quotient
        rw [log2_shiftLeft pos.ne'] at bits
        omega

end FlagHost.Double
