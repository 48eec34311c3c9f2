import Mathlib
import SampleRecorder.Number.Binary

/-!
# The size of floating-point numbers

A finite number is less than a power of two in size, and `IsBelow t` says so for the power `t`.  A product, a quotient and
a conversion are rounded to numbers that are hardly greater than the exact result, so bounds of operands give a bound of
what is computed; as long as the bound is small enough the result is finite.  The bounds are not the best ones.
-/

open Float.Model Float.Model.UnpackedFloat

namespace SampleRecorder.Number

/-! ### Binary digits -/

theorem log2_mono {m n : Nat} (h : m ≤ n) : m.log2 ≤ n.log2 := by
  rw [Nat.log2_eq_log_two, Nat.log2_eq_log_two]
  exact Nat.log_mono_right h

theorem log2_succ_le (m : Nat) : (m + 1).log2 ≤ m.log2 + 1 := by
  have h := Nat.lt_log2_self (n := m)
  have hpow : 2 ^ (m.log2 + 2) = 2 * 2 ^ (m.log2 + 1) := by rw [Nat.pow_succ, Nat.mul_comm]
  exact Nat.lt_succ_iff.mp ((Nat.log2_lt (Nat.succ_ne_zero m)).mpr (by omega))

theorem log2_mul_le (m n : Nat) : (m * n).log2 ≤ m.log2 + n.log2 + 1 := by
  by_cases h : m * n = 0
  · rw [h, Nat.log2_zero]
    exact Nat.zero_le _
  · refine Nat.lt_succ_iff.mp ((Nat.log2_lt h).mpr ?_)
    have hpow : 2 ^ (m.log2 + n.log2 + 1).succ = 2 ^ (m.log2 + 1) * 2 ^ (n.log2 + 1) := by
      rw [← Nat.pow_add]
      congr 1
      omega
    rw [hpow]
    exact Nat.mul_lt_mul'' Nat.lt_log2_self Nat.lt_log2_self

theorem log2_div_pow (m k : Nat) : (m / 2 ^ k).log2 = m.log2 - k := by
  rw [Nat.log2_eq_log_two, Nat.log2_eq_log_two, Nat.log_div_base_pow]

theorem log2_shiftLeft {m : Nat} (hm : m ≠ 0) (k : Nat) : (m <<< k).log2 = m.log2 + k := by
  induction k with
  | zero => rfl
  | succ k ih =>
    have hne : m <<< k ≠ 0 := by
      rw [Nat.shiftLeft_eq]
      exact Nat.mul_ne_zero hm (Nat.two_pow_pos k).ne'
    rw [Nat.shiftLeft_succ, Nat.log2_two_mul hne, ih, Nat.add_assoc]

/-- The digits of a quotient that is not zero. -/
theorem log2_div_le {m n : Nat} (h : m / n ≠ 0) : (m / n).log2 + n.log2 ≤ m.log2 := by
  have hn : n ≠ 0 := fun hn => h (by rw [hn, Nat.div_zero])
  have hm : m ≠ 0 := fun hm => h (by rw [hm, Nat.zero_div])
  rw [Nat.le_log2 hm, Nat.pow_add]
  calc 2 ^ (m / n).log2 * 2 ^ n.log2 ≤ m / n * n := Nat.mul_le_mul (Nat.log2_self_le h) (Nat.log2_self_le hn)
    _ ≤ m := Nat.div_mul_le_self m n

/-! ### Unpacked numbers -/

/-- Whether a number is finite and less than `2 ^ t` in size. -/
inductive Low (t : Int) : UnpackedFloat → Prop where
  | zero (s : Sign) : Low t (.zero s)
  | finite {s : Sign} {m : Nat} {e : Int} {hm : 0 < m} (h : totalExponent m e ≤ t) : Low t (.finite s m e hm)

theorem Low.mono {t t' : Int} {u : UnpackedFloat} (h : Low t u) (ht : t ≤ t') : Low t' u := by
  cases h with
  | zero s => exact .zero s
  | finite h => exact .finite (Int.le_trans h ht)

theorem Low.isFinite {t : Int} {u : UnpackedFloat} (h : Low t u) : u.isFinite = true := by
  cases h with
  | zero s => rfl
  | finite h => rfl

/-! ### Rounding -/

theorem mantissa_shiftRight (em : ExtendedMantissa) (k : Nat) : (em >>> k).mantissa = em.mantissa / 2 ^ k := by
  induction k with
  | zero => rw [Nat.pow_zero, Nat.div_one]; rfl
  | succ k ih =>
    have hstep : (em >>> (k + 1)).mantissa = (em >>> k).mantissa / 2 := rfl
    rw [hstep, ih, Nat.div_div_eq_div_mul, Nat.pow_succ]

theorem mantissa_ofMantissaAndAccuracy (m : Nat) (a : Accuracy) :
    (ExtendedMantissa.ofMantissaAndAccuracy m a).mantissa = m := by
  cases a with
  | exact => rfl
  | inexact o => cases o <;> rfl

theorem roundedMantissa_le (em : ExtendedMantissa) : em.roundedMantissa ≤ em.mantissa + 1 := by
  obtain ⟨m, r, s⟩ := em
  have hodd : m % 2 < 2 := Nat.mod_lt m (by decide)
  cases r <;> cases s <;>
    simp only [ExtendedMantissa.roundedMantissa, ExtendedMantissa.accuracy, Accuracy.roundToNearestEven] <;> omega

/-- A number is moved to its exponent by dropping binary digits. -/
theorem shiftToTargetExponent_eq (m : Nat) (e : Int) (a : Accuracy) :
    (shiftToTargetExponent .binary64 m e a).1.mantissa = m / 2 ^ (max (totalExponent m e - 53) (-1074) - e).toNat ∧
      (shiftToTargetExponent .binary64 m e a).2 = e + (max (totalExponent m e - 53) (-1074) - e).toNat := by
  refine ⟨?_, rfl⟩
  rw [shiftToTargetExponent, shiftToExponent, mantissa_shiftRight, mantissa_ofMantissaAndAccuracy]
  rfl

/-- Moving a number to its exponent keeps its size; a number that is lost is replaced by a small one. -/
theorem totalExponent_shift (m : Nat) (e : Int) (a : Accuracy) :
    totalExponent (shiftToTargetExponent .binary64 m e a).1.mantissa (shiftToTargetExponent .binary64 m e a).2 ≤
      max (totalExponent m e) (-1073) := by
  obtain ⟨hmantissa, hexponent⟩ := shiftToTargetExponent_eq m e a
  rw [hmantissa, hexponent, totalExponent, log2_div_pow]
  rw [totalExponent] at *
  omega

theorem low_roundWithAccuracy (s : Sign) {m : Nat} {e t : Int} (a : Accuracy) (h : totalExponent m e < t)
    (ht : -1073 < t) : Low t (roundWithAccuracy .binary64 s m e a) := by
  have hfirst := totalExponent_shift m e a
  have hround := log2_mono (roundedMantissa_le (shiftToTargetExponent .binary64 m e a).1)
  have hcarry := log2_succ_le (shiftToTargetExponent .binary64 m e a).1.mantissa
  have hsecond := totalExponent_shift (shiftToTargetExponent .binary64 m e a).1.roundedMantissa
    (shiftToTargetExponent .binary64 m e a).2 .exact
  unfold roundWithAccuracy
  dsimp only
  split
  · exact .zero s
  · refine .finite ?_
    simp only [totalExponent] at *
    omega

theorem low_round (s : Sign) {m : Nat} (hm : m ≠ 0) {e t : Int} (h : totalExponent m e < t) (ht : -1073 < t) :
    Low t (UnpackedFloat.round .binary64 s m e) := by
  unfold UnpackedFloat.round decreaseExponent
  refine low_roundWithAccuracy s .exact ?_ ht
  rw [totalExponent, log2_shiftLeft hm]
  rw [totalExponent] at h
  omega

/-! ### Arithmetic -/

theorem low_mul {t r : Int} {u v : UnpackedFloat} (hu : Low t u) (hv : Low r v) (ht : -1073 ≤ t + r) :
    Low (t + r + 1) (mul .binary64 u v) := by
  cases hu with
  | zero s =>
    cases hv with
    | zero s' => exact .zero _
    | finite hv => exact .zero _
  | @finite s m e hm hu =>
    cases hv with
    | zero s' => exact .zero _
    | @finite s' m' e' hm' hv =>
      refine low_roundWithAccuracy _ .exact ?_ (by omega)
      have hlog := log2_mul_le m m'
      simp only [totalExponent] at *
      omega

/-- Whether a number is finite and its size is at least one. -/
def isLarge : UnpackedFloat → Bool
  | .finite _ mantissa exponent _ => 1 ≤ totalExponent mantissa exponent
  | _ => false

theorem totalExponent_divCore {m m' : Nat} {e e' : Int} (h : 1 ≤ totalExponent m' e') (hm : m ≠ 0) :
    totalExponent (divCore .binary64 m e m' e').1 (divCore .binary64 m e m' e').2.1 ≤
      max (totalExponent m e) (-1073) := by
  have hshift (k : Nat) := log2_shiftLeft hm k
  have hquotient {n : Nat} := log2_div_le (m := n) (n := m')
  simp only [divCore]
  generalize hk : (e - e' - _).toNat = k
  by_cases hzero : m <<< k / m' = 0
  · rw [hzero]
    simp only [totalExponent, Nat.log2_zero, Format.targetExponent, Format.mantissaBits, Format.minExponent] at *
    omega
  · have := hquotient hzero
    rw [hshift] at this
    simp only [totalExponent, Format.targetExponent, Format.mantissaBits, Format.minExponent] at *
    omega

theorem low_div {t : Int} {u v : UnpackedFloat} (hu : Low t u) (hv : isLarge v = true) (ht : -1073 ≤ t) :
    Low (t + 1) (div .binary64 u v) := by
  cases v with
  | infinity s' => cases hv
  | notANumber => cases hv
  | zero s' => cases hv
  | finite s' m' e' hm' =>
    cases hu with
    | zero s => exact .zero _
    | @finite s m e hm hsize =>
      have hdiv := totalExponent_divCore (m := m) (e := e) (of_decide_eq_true hv) hm.ne'
      have hlow : totalExponent (divCore .binary64 m e m' e').1 (divCore .binary64 m e m' e').2.1 < t + 1 := by omega
      exact low_roundWithAccuracy _ _ hlow (by omega)

/-! ### Words -/

theorem log2_lt_of_bitVec {w : Nat} (hw : w ≠ 0) (b : BitVec w) : b.toNat.log2 < w := by
  by_cases hb : b.toNat = 0
  · rw [hb, Nat.log2_zero]
    exact Nat.pos_of_ne_zero hw
  · exact (Nat.log2_lt hb).mpr b.isLt

/-- The exponent field of a number. -/
def exponentField (x : Float.Model) : Nat :=
  (@unpackExponent .binary64 x.toBits.toBitVec).toNat

theorem exponentField_eq_iff {x : Float.Model} {n : Nat} (hn : n < 2048) :
    exponentField x = n ↔ @unpackExponent .binary64 x.toBits.toBitVec = BitVec.ofNat 11 n := by
  have hmod : (BitVec.ofNat 11 n).toNat = n := Nat.mod_eq_of_lt hn
  rw [exponentField, ← BitVec.toNat_inj, hmod]

/-- The numbers that are not finite are those with the greatest exponent field. -/
theorem isFinite_iff (x : Float.Model) : x.isFinite = true ↔ exponentField x ≠ 2047 := by
  rw [ne_eq, exponentField_eq_iff (by decide)]
  unfold Float.Model.isFinite Float.Model.unpack UnpackedFloat.unpack
  dsimp only
  split
  · next h =>
    refine iff_of_false ?_ (not_not.mpr h)
    split <;> exact Bool.false_ne_true
  · next h =>
    refine iff_of_true ?_ h
    split
    · split <;> rfl
    · rfl

/-- The exponent field bounds the number. -/
theorem low_unpack {x : Float.Model} {t : Int} (hfinite : exponentField x ≠ 2047)
    (h : (exponentField x : Int) - 1022 ≤ t) :
    Low t x.unpack := by
  have hfinite' : @unpackExponent .binary64 x.toBits.toBitVec ≠ -1#11 := fun heq =>
    hfinite ((exponentField_eq_iff (by decide)).mpr heq)
  unfold Float.Model.unpack UnpackedFloat.unpack
  dsimp only
  rw [if_neg hfinite']
  split
  · next hzero =>
    rw [(exponentField_eq_iff (by decide)).mpr hzero] at h
    split
    · exact .zero _
    · have hlog := log2_lt_of_bitVec (by decide) (@unpackMantissa .binary64 x.toBits.toBitVec)
      refine .finite ?_
      simp only [totalExponent, Format.exponentBias, hzero] at hlog ⊢
      rw [BitVec.toNat_ofNat]
      omega
  · have hlog := log2_lt_of_bitVec (by decide) (1#1 ++ @unpackMantissa .binary64 x.toBits.toBitVec)
    refine .finite ?_
    simp only [totalExponent, Format.exponentBias, exponentField] at hlog h ⊢
    omega

theorem exponentField_pack_finite {s : Sign} {m : Nat} {e : Int} (hm : 0 < m) (he : e ≤ 971) :
    exponentField (Float.Model.pack (.finite s m e hm)) = if m.log2 = 52 then (e + 1075).toNat else 0 := by
  have hfield : (e + 1075).toNat + 1 < 2048 := by omega
  show (@unpackExponent .binary64 (UnpackedFloat.pack .binary64 (.finite s m e hm))).toNat = _
  unfold UnpackedFloat.pack
  rw [if_neg (by simp only [Format.exponentBias]; omega)]
  split
  · next h =>
    rw [if_pos (by simp only [Format.mantissaBits] at h; omega), unpackExponent_packComponents]
    have hmod : (e + 1075).toNat % 2048 = (e + 1075).toNat := Nat.mod_eq_of_lt (by omega)
    rw [← hmod, BitVec.toNat_ofNat]
    simp only [Format.exponentBias]
    congr 2
    omega
  · next h =>
    rw [if_neg (by simp only [Format.mantissaBits] at h; omega), unpackExponent_packComponents]
    rfl

theorem isFinite_pack {s : Sign} {m : Nat} {e : Int} (hm : 0 < m) (he : e ≤ 971) :
    (Float.Model.pack (.finite s m e hm)).isFinite = true := by
  rw [isFinite_iff, exponentField_pack_finite hm he]
  split <;> omega

theorem low_unpack_pack {t : Int} {u : UnpackedFloat} (h : Low t u) (ht : -1022 ≤ t) (ht' : t ≤ 972) :
    Low t (Float.Model.pack u).unpack := by
  cases h with
  | zero s => cases s <;> exact .zero _
  | @finite s m e hm hsize =>
    rw [totalExponent] at hsize
    have hfield := exponentField_pack_finite (s := s) (e := e) hm (by omega)
    refine low_unpack ?_ ?_
    · rw [hfield]
      split <;> omega
    · rw [hfield]
      split <;> omega

/-! ### Floating-point numbers -/

/-- Whether a number is finite and less than `2 ^ t` in size. -/
def IsBelow (t : Int) (x : Float) : Prop :=
  Low t x.toModel.unpack

theorem IsBelow.isFinite {t : Int} {x : Float} (h : IsBelow t x) : x.isFinite = true :=
  Low.isFinite h

theorem isBelow_mul {t t' : Int} {x y : Float} (hx : IsBelow t x) (hy : IsBelow t' y) (hle : -1022 < t + t')
    (hlt : t + t' < 972) : IsBelow (t + t' + 1) (x * y) :=
  low_unpack_pack (low_mul hx hy (by omega)) (by omega) (by omega)

theorem isBelow_div {t : Int} {x y : Float} (hx : IsBelow t x) (hy : isLarge y.toModel.unpack = true) (hle : -1022 < t)
    (hlt : t < 972) : IsBelow (t + 1) (x / y) :=
  low_unpack_pack (low_div hx hy (by omega)) (by omega) (by omega)

/-- The greatest exponent is that of the greatest numbers. -/
theorem exponent_le {x : Float.Model} {s : Sign} {m : Nat} {e : Int} {hm : 0 < m} (h : x.unpack = .finite s m e hm) :
    e ≤ 971 := by
  have hfinite : exponentField x ≠ 2047 := by
    rw [← isFinite_iff, Float.Model.isFinite, h]
    rfl
  have hfield : exponentField x < 2048 := (@unpackExponent .binary64 x.toBits.toBitVec).isLt
  unfold exponentField at hfinite hfield
  unfold Float.Model.unpack UnpackedFloat.unpack at h
  simp only [Format.exponentBias] at h
  split at h
  · split at h <;> cases h
  · split at h
    · next hzero =>
      have hfield := (exponentField_eq_iff (by decide)).mpr hzero
      unfold exponentField at hfield
      split at h
      · cases h
      · obtain ⟨-, -, rfl⟩ := UnpackedFloat.finite.inj h
        omega
    · obtain ⟨-, -, rfl⟩ := UnpackedFloat.finite.inj h
      omega

theorem isFinite_neg {x : Float} (h : x.isFinite = true) : (-x).isFinite = true := by
  have hneg : (-x).isFinite = (Float.Model.pack x.toModel.unpack.neg).isFinite := rfl
  have hx : x.toModel.unpack.isFinite = true := h
  rw [hneg]
  cases hu : x.toModel.unpack with
  | infinity s => rw [hu] at hx; cases hx
  | notANumber => rw [hu] at hx; cases hx
  | zero s => cases s <;> rfl
  | finite s m e hm => exact isFinite_pack hm (exponent_le hu)

/-! ### Conversions -/

theorem totalExponent_lt {m : Nat} (hm : m < 2 ^ 64) : totalExponent m 0 < 65 := by
  rw [totalExponent]
  by_cases hzero : m = 0
  · rw [hzero, Nat.log2_zero]
    decide
  · have := (Nat.log2_lt hzero).mpr hm
    omega

theorem low_ofNat {n : Nat} (hn : n < 2 ^ 64) : Low 65 (UnpackedFloat.ofNat .binary64 n) := by
  unfold UnpackedFloat.ofNat UnpackedFloat.ofInt UnpackedFloat.normalize
  split
  · next h =>
    rw [Int.compare_eq_lt] at h
    exact absurd h (Int.not_lt.mpr (Int.natCast_nonneg n))
  · exact .zero _
  · next h =>
    rw [Int.compare_eq_gt] at h
    exact low_round _ (by omega) (totalExponent_lt hn) (by decide)

theorem low_ofScientific {n : Nat} (hn : n < 2 ^ 64) : Low 66 (UnpackedFloat.ofScientific .binary64 n 0) := by
  by_cases hzero : n = 0
  · rw [UnpackedFloat.ofScientific, dif_pos hzero]
    exact .zero _
  · have hlarge : ¬(0 : Int) > 2 ^ Format.binary64.exponentBits := by decide
    have hsmall : ¬(0 : Int) < -((2 ^ Format.binary64.exponentBits : Int) + n.log2) := by omega
    rw [UnpackedFloat.ofScientific, dif_neg hzero, if_neg hlarge, if_neg hsmall, if_pos (Int.le_refl 0)]
    have hsize := totalExponent_lt hn
    rw [totalExponent] at hsize
    refine low_mul (t := 64) (r := 1) (.finite ?_) (.finite (Int.le_refl 1)) (by decide)
    rw [totalExponent, log2_shiftLeft hzero]
    omega

theorem isBelow_ofNat {n : Nat} (hn : n < 2 ^ 64) : IsBelow 67 (Float.ofNat n) := by
  have hunfold : Float.ofNat n = Float.ofScientific n false 0 := rfl
  rw [hunfold, Float.ofScientific]
  split
  · have hword : IsBelow 65 n.toUInt64.toFloat :=
      low_unpack_pack (low_ofNat n.toUInt64.toNat_lt) (by decide) (by decide)
    have hone : IsBelow 1 (Float.ofBits 0x3FF0000000000000) := by
      have hsize : totalExponent 4503599627370496 (-52) ≤ 1 := by decide
      exact .finite hsize
    exact isBelow_mul hword hone (by decide) (by decide)
  · exact (low_unpack_pack (low_ofScientific hn) (by decide) (by decide)).mono (by decide)

theorem isFinite_ofInt {n : Int} (hn : n.natAbs < 2 ^ 64) : (Float.ofInt n).isFinite = true := by
  cases n with
  | ofNat n => exact (isBelow_ofNat hn).isFinite
  | negSucc n => exact isFinite_neg (isBelow_ofNat hn).isFinite

/-! ### Powers of ten -/

theorem le_roundedMantissa (em : ExtendedMantissa) : em.mantissa ≤ em.roundedMantissa := by
  obtain ⟨m, r, s⟩ := em
  cases r <;> cases s <;>
    simp only [ExtendedMantissa.roundedMantissa, ExtendedMantissa.accuracy, Accuracy.roundToNearestEven] <;> omega

/-- A number with enough digits is rounded to one with all digits, which is not less. -/
theorem roundWithAccuracy_eq_finite (s : Sign) {m : Nat} {e : Int} (a : Accuracy) (hm : 52 ≤ m.log2)
    (he : -1021 ≤ totalExponent m e) : ∃ (m' : Nat) (e' : Int) (hm' : 0 < m'),
      roundWithAccuracy .binary64 s m e a = .finite s m' e' hm' ∧ m'.log2 = 52 ∧
        totalExponent m e ≤ e' + 53 ∧ e' + 53 ≤ totalExponent m e + 1 := by
  obtain ⟨hmantissa, hexponent⟩ := shiftToTargetExponent_eq m e a
  generalize hfirst : shiftToTargetExponent .binary64 m e a = first at hmantissa hexponent
  have hle := log2_mono (le_roundedMantissa first.1)
  have hge := log2_mono (roundedMantissa_le first.1)
  have hcarry := log2_succ_le first.1.mantissa
  obtain ⟨hmantissa', hexponent'⟩ := shiftToTargetExponent_eq first.1.roundedMantissa first.2 .exact
  generalize hsecond : shiftToTargetExponent .binary64 first.1.roundedMantissa first.2 .exact = second
    at hmantissa' hexponent'
  have hlog := congrArg Nat.log2 hmantissa
  have hlog' := congrArg Nat.log2 hmantissa'
  rw [log2_div_pow] at hlog hlog'
  simp only [totalExponent] at *
  have hdigits : second.1.mantissa.log2 = 52 := by omega
  have hne : second.1.mantissa ≠ 0 := by
    rintro hzero
    rw [hzero, Nat.log2_zero] at hdigits
    cases hdigits
  refine ⟨second.1.mantissa, second.2, Nat.pos_of_ne_zero hne, ?_, hdigits, by omega, by omega⟩
  unfold roundWithAccuracy
  simp only [hfirst, hsecond, dif_neg hne]

/-- The exponent field of a number that is not less than one. -/
theorem isLarge_unpack {x : Float.Model} (h : 1023 ≤ exponentField x) (hfinite : exponentField x ≠ 2047) :
    isLarge x.unpack = true := by
  have hnan : @unpackExponent .binary64 x.toBits.toBitVec ≠ -1#11 := fun heq =>
    hfinite ((exponentField_eq_iff (by decide)).mpr heq)
  have hnormal : @unpackExponent .binary64 x.toBits.toBitVec ≠ 0#11 := fun heq => by
    rw [(exponentField_eq_iff (by decide)).mpr heq] at h
    cases h
  unfold Float.Model.unpack UnpackedFloat.unpack
  dsimp only
  rw [if_neg hnan, if_neg hnormal]
  -- the implicit digit of a mantissa is its first one
  have hdigit : 2 ^ 52 ≤ (1#1 ++ @unpackMantissa .binary64 x.toBits.toBitVec).toNat := by
    rw [BitVec.toNat_append]
    exact Nat.left_le_or
  have hlog := log2_mono hdigit
  rw [Nat.log2_two_pow] at hlog
  refine decide_eq_true (?_ : (1 : Int) ≤ _)
  simp only [totalExponent, Format.exponentBias, exponentField] at h ⊢
  omega

/-- Powers of ten that are neither very small nor very great are rounded to large numbers. -/
theorem isLarge_ofScientific {k : Nat} (hk : k ≤ 307) :
    isLarge (Float.Model.ofScientific 1 k).unpack = true := by
  have hpow : (10 ^ k : Nat).log2 < 1020 := by
    refine (Nat.log2_lt (Nat.pow_pos (by decide)).ne').mpr (Nat.lt_of_le_of_lt (Nat.pow_le_pow_right (by decide) hk) ?_)
    decide +kernel
  have hlarge : ¬(k : Int) > 2 ^ Format.binary64.exponentBits := by
    have : (2 : Int) ^ Format.binary64.exponentBits = 2048 := rfl
    omega
  have hsmall : ¬(k : Int) < -((2 ^ Format.binary64.exponentBits : Int) + Nat.log2 1) := by omega
  unfold Float.Model.ofScientific UnpackedFloat.ofScientific
  rw [dif_neg (by decide), if_neg hlarge, if_neg hsmall, if_pos (Int.natCast_nonneg k)]
  have hm : (1 <<< Format.binary64.mantissaBits * 10 ^ (k : Int).toNat).log2 = (10 ^ k).log2 + 53 := by
    rw [← log2_shiftLeft (Nat.pow_pos (by decide)).ne', Nat.shiftLeft_eq, Nat.shiftLeft_eq, Nat.mul_comm, Nat.one_mul,
      Int.toNat_natCast]
    rfl
  have htotal : totalExponent (1 <<< Format.binary64.mantissaBits * 10 ^ (k : Int).toNat)
      (-Format.binary64.mantissaBits + 0) = (10 ^ k).log2 + 1 := by
    have hbits : Format.binary64.mantissaBits = 53 := rfl
    rw [totalExponent, hm]
    omega
  obtain ⟨m', e', hm', hround, hdigits, hle, hge⟩ :=
    roundWithAccuracy_eq_finite (Sign.positive * Sign.positive) .exact (by omega) (by omega : -1021 ≤ totalExponent
      (1 <<< Format.binary64.mantissaBits * 10 ^ (k : Int).toNat) (-Format.binary64.mantissaBits + 0))
  unfold UnpackedFloat.mul
  dsimp only
  rw [hround]
  have hfield := exponentField_pack_finite (s := Sign.positive * Sign.positive) (e := e') hm' (by omega)
  rw [if_pos hdigits] at hfield
  exact isLarge_unpack (by omega) (by omega)

theorem isLarge_tenPow {k : Nat} (hk : k ≤ 308) : isLarge (Float.ofScientific 1 false k).toModel.unpack = true := by
  have hexact : ∀ k : Fin 23, isLarge (Float.ofScientific 1 false k).toModel.unpack = true := by decide +kernel
  have hlast : isLarge (Float.ofScientific 1 false 308).toModel.unpack = true := by decide +kernel
  rcases Nat.lt_or_ge k 23 with hsmall | hsmall
  · exact hexact ⟨k, hsmall⟩
  · rcases Nat.lt_or_ge k 308 with hlt | hge
    · rw [Float.ofScientific, dif_neg (by omega)]
      exact isLarge_ofScientific (by omega)
    · rwa [Nat.le_antisymm hk hge]

/-! ### Numbers that are not finite -/

theorem exponentField_eq (x : Float) : exponentField x.toModel = x.toBits.toNat / twoPow 52 % twoPow 11 := by
  rw [exponentField, unpackExponent, BitVec.toNat_cast, BitVec.extractLsb_toNat, Nat.shiftRight_eq_div_pow]
  rfl

/-- A number that is not finite is none or infinite. -/
theorem parts_of_not_isFinite {x : Float} (h : x.isFinite = false) :
    parts x = .nan ∨ ∃ negative, parts x = .infinite negative := by
  have hfield : x.toBits.toNat / twoPow 52 % twoPow 11 = 2047 := by
    rw [← exponentField_eq]
    exact not_not.mp fun hne => absurd ((isFinite_iff x.toModel).mpr hne) (Bool.eq_false_iff.mp h)
  unfold parts Parts.ofBits
  dsimp only
  rw [if_pos hfield]
  split
  · exact .inr ⟨_, rfl⟩
  · exact .inl rfl

end SampleRecorder.Number
