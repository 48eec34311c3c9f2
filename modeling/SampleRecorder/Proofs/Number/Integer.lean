import SampleRecorder.Proofs.Number.Nearest

/-!
# Integers as floating-point numbers

Converting an integer to a floating-point number rounds it to the nearest one, and `IsInteger` ties the number that comes
out to the integer that it stands for.  Numbers of this kind are compared and converted back as their integers are, so
whatever is computed by way of them can be said about integers alone.
-/

open Float.Model Float.Model.UnpackedFloat

namespace SampleRecorder.Number

/-! ### Rounding unpacked numbers -/

/-- The bits that a number keeps and those that it loses when it is moved to the right. -/
theorem shiftRight_succ_eq (m k : Nat) :
    ExtendedMantissa.ofMantissaAndAccuracy m .exact >>> (k + 1) =
      ⟨m / 2 ^ (k + 1), m / 2 ^ k % 2 != 0, m % 2 ^ k != 0⟩ := by
  have hstep (j : Nat) : ExtendedMantissa.ofMantissaAndAccuracy m .exact >>> (j + 1) =
    (ExtendedMantissa.ofMantissaAndAccuracy m .exact >>> j).shiftRightOne := rfl
  induction k with
  | zero =>
    rw [hstep, Nat.pow_zero, Nat.div_one, Nat.mod_one, Nat.zero_add, Nat.pow_one]
    rfl
  | succ k ih =>
    have hrest : m % 2 ^ (k + 1) = m % 2 ^ k + 2 ^ k * (m / 2 ^ k % 2) := Nat.mod_pow_succ
    have hpos := Nat.two_pow_pos k
    rw [hstep, ih, ExtendedMantissa.shiftRightOne]
    congr 1
    · rw [Nat.div_div_eq_div_mul, ← Nat.pow_succ]
    · rw [Bool.eq_iff_iff, Bool.or_eq_true, bne_iff_ne, bne_iff_ne, bne_iff_ne, hrest]
      rcases Nat.mod_two_eq_zero_or_one (m / 2 ^ k) with hbit | hbit <;> rw [hbit] <;> omega

theorem roundedMantissa_shiftRight (m k : Nat) :
    (ExtendedMantissa.ofMantissaAndAccuracy m .exact >>> k).roundedMantissa = halfEven m k := by
  cases k with
  | zero =>
    rw [halfEven_zero]
    rfl
  | succ k =>
    have hrest : m % 2 ^ (k + 1) = m % 2 ^ k + 2 ^ k * (m / 2 ^ k % 2) := Nat.mod_pow_succ
    have hpow : 2 ^ (k + 1) = 2 * 2 ^ k := by rw [Nat.pow_succ, Nat.mul_comm]
    have hlost : m % 2 ^ k < 2 ^ k := Nat.mod_lt m (Nat.two_pow_pos k)
    rw [shiftRight_succ_eq, halfEven, hrest, hpow]
    generalize m / (2 * 2 ^ k) = q
    generalize m % 2 ^ k = r at hlost
    rcases Nat.mod_two_eq_zero_or_one (m / 2 ^ k) with hbit | hbit
    · rw [hbit, if_pos (by omega)]
      by_cases hr : r = 0
      · rw [hr]
        rfl
      · have hsticky : (r != 0) = true := bne_iff_ne.mpr hr
        rw [hsticky]
        rfl
    · rw [hbit]
      by_cases hr : r = 0
      · rw [hr]
        show q + q % 2 = _
        split <;> omega
      · have hsticky : (r != 0) = true := bne_iff_ne.mpr hr
        rw [hsticky, if_neg (by omega)]
        rfl

/-- Rounding is moving to an exponent twice, with the lost digits accounted for in between. -/
theorem roundWithAccuracy_of_shifts {s : Sign} {m q m' : Nat} {e e₁ e' : Int} (hm' : 0 < m')
    (hmantissa : (shiftToTargetExponent .binary64 m e .exact).1.roundedMantissa = q)
    (hexponent : (shiftToTargetExponent .binary64 m e .exact).2 = e₁)
    (hmantissa' : (shiftToTargetExponent .binary64 q e₁ .exact).1.mantissa = m')
    (hexponent' : (shiftToTargetExponent .binary64 q e₁ .exact).2 = e') :
    roundWithAccuracy .binary64 s m e .exact = .finite s m' e' hm' := by
  subst hmantissa hexponent hmantissa' hexponent'
  unfold roundWithAccuracy
  exact dif_neg hm'.ne'

/-! ### The value of a number -/

/-- The value of a number that is finite. -/
def value : UnpackedFloat → ℚ
  | .finite s m e _ => s.apply m * (2 : ℚ) ^ e
  | _ => 0

/-- Whether a number is zero or has all 53 digits, and is neither too small nor too great for that. -/
inductive IsNormal : UnpackedFloat → Prop where
  | zero (s : Sign) : IsNormal (.zero s)
  | finite {s : Sign} {m : Nat} {e : Int} {hm : 0 < m} (hlog : m.log2 = 52) (hlow : -1074 ≤ e) (hhigh : e ≤ 971) :
    IsNormal (.finite s m e hm)

theorem IsNormal.isFinite {u : UnpackedFloat} (h : IsNormal u) : u.isFinite = true := by
  cases h <;> rfl

theorem value_positive (m : Nat) (e : Int) (hm : 0 < m) : value (.finite .positive m e hm) = m * (2 : ℚ) ^ e :=
  rfl

theorem value_negative (m : Nat) (e : Int) (hm : 0 < m) : value (.finite .negative m e hm) = -(m * (2 : ℚ) ^ e) := by
  simp only [value, Sign.apply]
  push_cast
  ring

theorem IsNormal.neg {u : UnpackedFloat} (h : IsNormal u) : IsNormal u.neg := by
  cases h with
  | zero s => exact .zero _
  | finite hlog hlow hhigh => exact .finite hlog hlow hhigh

theorem value_neg (u : UnpackedFloat) : value u.neg = -value u := by
  cases u with
  | finite s m e hm =>
    cases s with
    | positive => exact value_negative m e hm
    | negative =>
      rw [value_negative, neg_neg]
      exact value_positive m e hm
  | _ => exact neg_zero.symm

theorem value_shift (s : Sign) {m n f : Nat} (e : Int) (hm : 0 < m) (h : m * 2 ^ f = n) :
    value (.finite s m (e + f) hm) = s.apply n * (2 : ℚ) ^ e := by
  rw [value, zpow_add₀ two_ne_zero, zpow_natCast, ← h]
  cases s <;> simp only [Sign.apply] <;> push_cast <;> ring

/-- A number with enough digits is rounded to the nearest one that has 53 of them. -/
theorem isNormal_roundWithAccuracy (s : Sign) {m : Nat} {e : Int} (hm : 52 ≤ m.log2) (hlow : -1021 ≤ totalExponent m e)
    (hhigh : totalExponent m e ≤ 1023) :
    IsNormal (roundWithAccuracy .binary64 s m e .exact) ∧
      value (roundWithAccuracy .binary64 s m e .exact) = s.apply (nearestNat m) * (2 : ℚ) ^ e := by
  obtain ⟨hleast, hmost⟩ := halfEven_bounds hm
  have hshift : (max (totalExponent m e - 53) (-1074) - e).toNat = m.log2 - 52 := by
    rw [totalExponent] at *
    omega
  have hfirst : (shiftToTargetExponent .binary64 m e .exact).1.roundedMantissa = halfEven m (m.log2 - 52) := by
    rw [← roundedMantissa_shiftRight, ← hshift]
    rfl
  have hexponent := (shiftToTargetExponent_eq m e .exact).2
  rw [hshift] at hexponent
  rw [totalExponent] at hlow hhigh
  rw [nearestNat]
  generalize halfEven m (m.log2 - 52) = q at hleast hmost hfirst
  obtain ⟨hmantissa', hexponent'⟩ := shiftToTargetExponent_eq q (e + (m.log2 - 52 : Nat)) .exact
  rcases Nat.lt_or_eq_of_le hmost with hlt | rfl
  · have hlog : q.log2 = 52 := by
      have := (Nat.le_log2 (by omega)).mpr hleast
      have := (Nat.log2_lt (by omega)).mpr hlt
      omega
    have hnone : (max (totalExponent q (e + (m.log2 - 52 : Nat)) - 53) (-1074) -
        (e + (m.log2 - 52 : Nat))).toNat = 0 := by
      rw [totalExponent, hlog]
      omega
    rw [hnone, Nat.pow_zero, Nat.div_one] at hmantissa'
    rw [hnone, Int.natCast_zero, Int.add_zero] at hexponent'
    rw [roundWithAccuracy_of_shifts (by omega) hfirst hexponent hmantissa' hexponent']
    exact ⟨.finite hlog (by omega) (by omega), value_shift s e _ rfl⟩
  · -- the digit that is one too many is a zero
    have hlog : (2 ^ 53).log2 = 53 := Nat.log2_two_pow
    have hone : (max (totalExponent (2 ^ 53) (e + (m.log2 - 52 : Nat)) - 53) (-1074) -
        (e + (m.log2 - 52 : Nat))).toNat = 1 := by
      rw [totalExponent, hlog]
      omega
    rw [hone] at hmantissa' hexponent'
    have hlast : (shiftToTargetExponent .binary64 (2 ^ 53) (e + (m.log2 - 52 : Nat)) .exact).2 =
        e + (m.log2 - 52 + 1 : Nat) := by
      rw [hexponent']
      omega
    rw [roundWithAccuracy_of_shifts (Nat.two_pow_pos 52) hfirst hexponent hmantissa' hlast]
    refine ⟨.finite Nat.log2_two_pow (by omega) (by omega), value_shift s e _ ?_⟩
    rw [Nat.pow_succ 2 (m.log2 - 52)]
    omega

/-! ### Comparing numbers -/

theorem magnitude_pos {m : Nat} (hm : 0 < m) (e : Int) : 0 < (m : ℚ) * 2 ^ e := by
  have : (0 : ℚ) < m := by exact_mod_cast hm
  positivity

/-- With all digits, the exponent decides first. -/
theorem magnitude_lt {m m' : Nat} {e e' : Int} (hm : m.log2 = 52) (hm' : m'.log2 = 52) (hm₀ : m' ≠ 0) (h : e < e') :
    (m : ℚ) * 2 ^ e < m' * 2 ^ e' := by
  have hlt : (m : ℚ) < 2 * m' := by
    have hhigh := Nat.lt_log2_self (n := m)
    have hlow := Nat.log2_self_le hm₀
    rw [hm] at hhigh
    rw [hm'] at hlow
    exact_mod_cast (by omega : m < 2 * m')
  calc (m : ℚ) * 2 ^ e < 2 * m' * 2 ^ e := by gcongr
    _ = m' * 2 ^ (e + 1) := by rw [zpow_add_one₀ two_ne_zero]; ring
    _ ≤ m' * 2 ^ e' := by
      have hle : (2 : ℚ) ^ (e + 1) ≤ 2 ^ e' := zpow_le_zpow_right₀ one_le_two h
      gcongr

theorem compare_magnitude {m m' : Nat} {e e' : Int} (hm : m.log2 = 52) (hm' : m'.log2 = 52) (hm₀ : m ≠ 0)
    (hm₀' : m' ≠ 0) : (compare e e').then (compare m m') = compare ((m : ℚ) * 2 ^ e) (m' * 2 ^ e') := by
  rcases lt_trichotomy e e' with hlt | rfl | hgt
  · rw [compare_lt_iff_lt.mpr hlt, compare_lt_iff_lt.mpr (magnitude_lt hm hm' hm₀' hlt)]
    rfl
  · have hpos : (0 : ℚ) < 2 ^ e := by positivity
    have hscale : compare ((m : ℚ) * 2 ^ e) (m' * 2 ^ e) = compare m m' := by
      rw [← cmp_eq_compare, cmp_mul_pos_right hpos, Nat.strictMono_cast.cmp_map_eq, cmp_eq_compare]
    rw [compare_eq_iff_eq.mpr rfl, hscale]
    rfl
  · rw [compare_gt_iff_gt.mpr hgt, compare_gt_iff_gt.mpr (magnitude_lt hm' hm hm₀ hgt)]
    rfl

theorem compare_neg_neg (x y : ℚ) : compare (-x) (-y) = (compare x y).swap := by
  rw [← cmp_eq_compare, ← cmp_eq_compare, cmp_swap]
  exact StrictAnti.cmp_map_eq (fun _ _ => neg_lt_neg) x y

/-- Numbers are compared by their values. -/
theorem compare_eq_compare_value {u v : UnpackedFloat} (hu : IsNormal u) (hv : IsNormal v) :
    u.compare v = some (compare (value u) (value v)) := by
  cases hu with
  | zero s =>
    cases hv with
    | zero s' => exact congrArg some (compare_eq_iff_eq.mpr rfl).symm
    | @finite s' m' e' hm' h' =>
      have hpos := magnitude_pos hm' e'
      cases s' with
      | positive => exact congrArg some (compare_lt_iff_lt.mpr hpos).symm
      | negative =>
        rw [value_negative]
        exact congrArg some (compare_gt_iff_gt.mpr (neg_lt_zero.mpr hpos)).symm
  | @finite s m e hm h =>
    have hpos := magnitude_pos hm e
    cases hv with
    | zero s' =>
      cases s with
      | positive => exact congrArg some (compare_gt_iff_gt.mpr hpos).symm
      | negative =>
        rw [value_negative]
        exact congrArg some (compare_lt_iff_lt.mpr (neg_lt_zero.mpr hpos)).symm
    | @finite s' m' e' hm' h' =>
      have hpos' := magnitude_pos hm' e'
      have hmagnitude := @compare_magnitude _ _ e e' h h' hm.ne' hm'.ne'
      cases s with
      | positive =>
        cases s' with
        | positive => exact congrArg some hmagnitude
        | negative =>
          rw [value_negative, value_positive]
          exact congrArg some (compare_gt_iff_gt.mpr (by linarith)).symm
      | negative =>
        cases s' with
        | positive =>
          rw [value_negative, value_positive]
          exact congrArg some (compare_lt_iff_lt.mpr (by linarith)).symm
        | negative =>
          rw [value_negative, value_negative, compare_neg_neg, ← hmagnitude]
          rfl

/-! ### Words -/

theorem toNat_implicit (b : BitVec 52) : (1#1 ++ b).toNat = 2 ^ 52 + b.toNat := by
  rw [BitVec.toNat_append, ← Nat.shiftLeft_add_eq_or_of_lt b.isLt]
  rfl

theorem sign_packComponents (s : Sign) (e : BitVec 11) (m : BitVec 52) :
    Sign.ofBitVec (@unpackSign .binary64 (packComponents .binary64 s e m)) = s := by
  unfold unpackSign packComponents BitVec.extractLsb
  rw [BitVec.extractLsb'_append_eq_of_le (by decide), BitVec.extractLsb'_append_eq_of_le (by decide)]
  cases s <;> rfl

theorem pack_eq {s : Sign} {m : Nat} {e : Int} (hm : 0 < m) (hlog : m.log2 = 52) (hhigh : e ≤ 971) :
    UnpackedFloat.pack .binary64 (.finite s m e hm) =
      packComponents .binary64 s (BitVec.ofNat 11 (e + 1075).toNat) (BitVec.ofNat 52 m) := by
  have hbiased : (e + Format.binary64.exponentBias + Format.binary64.mantissaBitsWithoutImplicit).toNat =
      (e + 1075).toNat := by
    simp only [Format.exponentBias]
    omega
  have hfits : ¬2 ^ Format.binary64.exponentBits ≤ (e + 1075).toNat + 1 := by
    show ¬2048 ≤ _
    omega
  have hall : m.log2 + 1 = Format.binary64.mantissaBits := congrArg (· + 1) hlog
  unfold UnpackedFloat.pack
  rw [hbiased, if_neg hfits, if_pos hall]

/-- A normal number is stored as it is. -/
theorem unpack_pack {u : UnpackedFloat} (h : IsNormal u) : (Float.Model.pack u).unpack = u := by
  cases h with
  | zero s => cases s <;> rfl
  | @finite s m e hm hlog hlow hhigh =>
    have hexponent : (BitVec.ofNat 11 (e + 1075).toNat).toNat = (e + 1075).toNat := Nat.mod_eq_of_lt (by omega)
    have hnan : BitVec.ofNat 11 (e + 1075).toNat ≠ -1#11 := by
      rw [ne_eq, ← BitVec.toNat_inj, hexponent]
      show (e + 1075).toNat ≠ 2047
      omega
    have hnormal : BitVec.ofNat 11 (e + 1075).toNat ≠ 0#11 := by
      rw [ne_eq, ← BitVec.toNat_inj, hexponent]
      show (e + 1075).toNat ≠ 0
      omega
    have hdigits : (1#1 ++ BitVec.ofNat 52 m).toNat = m := by
      have hlt := Nat.lt_log2_self (n := m)
      have hle := Nat.log2_self_le hm.ne'
      rw [hlog] at hlt hle
      rw [toNat_implicit, BitVec.toNat_ofNat]
      omega
    show UnpackedFloat.unpack .binary64 (UnpackedFloat.pack .binary64 (.finite s m e hm)) = _
    rw [pack_eq hm hlog hhigh]
    unfold UnpackedFloat.unpack
    simp only [unpackExponent_packComponents, unpackMantissa_packComponents, sign_packComponents, hdigits, hexponent,
      if_neg hnan, if_neg hnormal]
    congr 1
    simp only [Format.exponentBias]
    omega

theorem sign_eq (x : Float) :
    (Sign.ofBitVec (@unpackSign .binary64 x.toModel.toBits.toBitVec) == .negative) =
      (x.toBits.toNat / twoPow 63 % 2 == 1) := by
  have hbit : ∀ b : BitVec 1, (Sign.ofBitVec b == .negative) = (b.toNat == 1) := by decide
  rw [hbit, unpackSign, BitVec.toNat_cast, BitVec.extractLsb_toNat, Nat.shiftRight_eq_div_pow]
  rfl

theorem mantissa_eq (x : Float) :
    (@unpackMantissa .binary64 x.toModel.toBits.toBitVec).toNat = x.toBits.toNat % twoPow 52 := by
  rw [unpackMantissa, BitVec.toNat_cast, BitVec.extractLsb_toNat, Nat.shiftRight_eq_div_pow, Nat.pow_zero, Nat.div_one]
  rfl

/-- The parts of an unpacked number. -/
def Parts.ofUnpacked : UnpackedFloat → Parts
  | .notANumber => .nan
  | .infinity s => .infinite (s == .negative)
  | .zero s => .finite (s == .negative) 0 (-1074)
  | .finite s m e _ => .finite (s == .negative) m e

theorem parts_eq (x : Float) : parts x = .ofUnpacked x.toModel.unpack := by
  have hlast : exponentField x.toModel = 2047 ↔ @unpackExponent .binary64 x.toModel.toBits.toBitVec = -1#11 :=
    exponentField_eq_iff (by decide)
  have hfirst : exponentField x.toModel = 0 ↔ @unpackExponent .binary64 x.toModel.toBits.toBitVec = 0#11 :=
    exponentField_eq_iff (by decide)
  have hzero : @unpackMantissa .binary64 x.toModel.toBits.toBitVec = 0#52 ↔ x.toBits.toNat % twoPow 52 = 0 := by
    rw [← BitVec.toNat_inj, mantissa_eq]
    rfl
  unfold parts Parts.ofBits Float.Model.unpack UnpackedFloat.unpack
  rw [← exponentField_eq, ← sign_eq]
  dsimp only
  split
  · next h =>
    rw [if_pos (hlast.mp h)]
    split
    · next hm =>
      rw [if_pos (hzero.mpr hm)]
      rfl
    · next hm =>
      rw [if_neg (mt hzero.mp hm)]
      rfl
  · next h =>
    rw [if_neg (mt hlast.mpr h)]
    split
    · next h =>
      rw [if_pos (hfirst.mp h)]
      split
      · next hm =>
        rw [hzero.mp hm]
        rfl
      · rw [hfirst.mp h, ← mantissa_eq]
        rfl
    · next h =>
      rw [if_neg (mt hfirst.mpr h), ← mantissa_eq]
      show _ = Parts.finite _ _ _
      rw [toNat_implicit]
      rfl

/-! ### Integers as floating-point numbers -/

/-- Whether a floating-point number is an integer. -/
structure IsInteger (x : Float) (n : Int) : Prop where
  isNormal : IsNormal x.toModel.unpack
  value_eq : value x.toModel.unpack = n

theorem IsInteger.isFinite {x : Float} {n : Int} (h : IsInteger x n) : x.isFinite = true :=
  h.isNormal.isFinite

theorem IsInteger.of_pack {x : Float} {u : UnpackedFloat} {n : Int} (hx : x.toModel = Float.Model.pack u)
    (hu : IsNormal u) (hvalue : value u = n) : IsInteger x n := by
  have hunpack := unpack_pack hu
  rw [← hx] at hunpack
  exact ⟨hunpack.symm ▸ hu, hunpack.symm ▸ hvalue⟩

theorem IsInteger.neg {x : Float} {n : Int} (h : IsInteger x n) : IsInteger (-x) (-n) := by
  refine .of_pack (u := x.toModel.unpack.neg) rfl h.isNormal.neg ?_
  rw [value_neg, h.value_eq]
  push_cast
  rfl

/-- Zeros are taken away again by the exponent. -/
theorem mul_pow_mul_zpow_neg (x : ℚ) (c : Nat) : x * 2 ^ c * (2 : ℚ) ^ (-(c : Int)) = x := by
  rw [zpow_neg, zpow_natCast]
  field_simp

theorem isInteger_word {n : Nat} (hn : n < 2 ^ 64) (hpos : 0 < n) : IsInteger n.toUInt64.toFloat (nearestNat n) := by
  have hword : n.toUInt64.toNat = n := Nat.mod_eq_of_lt hn
  have hsize : n.log2 < 64 := (Nat.log2_lt hpos.ne').mpr hn
  have hlog : (n * 2 ^ (52 - n.log2)).log2 = n.log2 + (52 - n.log2) := by
    rw [← Nat.shiftLeft_eq, log2_shiftLeft hpos.ne']
  have hround : UnpackedFloat.ofUInt64 .binary64 n.toUInt64 =
      roundWithAccuracy .binary64 .positive (n * 2 ^ (52 - n.log2)) (0 - (52 - n.log2 : Nat)) .exact := by
    have hshift : (0 - max (totalExponent n 0 - 53) (-1074)).toNat = 52 - n.log2 := by
      rw [totalExponent]
      omega
    have hsign : compare (n : Int) 0 = .gt := Int.compare_eq_gt.mpr (Int.natCast_pos.mpr hpos)
    unfold UnpackedFloat.ofUInt64 UnpackedFloat.ofNat UnpackedFloat.ofInt UnpackedFloat.normalize
    rw [hword, hsign, ← hshift, ← Nat.shiftLeft_eq]
    rfl
  obtain ⟨hnormal, hvalue⟩ := isNormal_roundWithAccuracy .positive (m := n * 2 ^ (52 - n.log2))
    (e := 0 - (52 - n.log2 : Nat)) (by omega) (by rw [totalExponent]; omega) (by rw [totalExponent]; omega)
  refine .of_pack (congrArg Float.Model.pack hround) hnormal ?_
  rw [hvalue, nearestNat_mul_pow, Int.zero_sub, Sign.apply]
  push_cast
  exact mul_pow_mul_zpow_neg _ _

theorem abs_value (s : Sign) (m : Nat) (e : Int) (hm : 0 < m) : |value (.finite s m e hm)| = m * (2 : ℚ) ^ e := by
  have hpos := magnitude_pos hm e
  cases s with
  | positive => exact abs_of_pos hpos
  | negative => rw [value_negative, abs_neg, abs_of_pos hpos]

/-- The size of a number bounds its exponent. -/
theorem exponent_lt {m : Nat} {e t : Int} (hm : m ≠ 0) (hlog : m.log2 = 52) (h : (m : ℚ) * 2 ^ e < 2 ^ t) :
    e + 52 < t := by
  have hle : (2 : ℚ) ^ (52 : ℕ) ≤ m := by
    have := Nat.log2_self_le hm
    rw [hlog] at this
    exact_mod_cast this
  have hlt : (2 : ℚ) ^ (e + 52) < 2 ^ t := by
    calc (2 : ℚ) ^ (e + 52) = 2 ^ (52 : ℕ) * 2 ^ e := by rw [zpow_add₀ two_ne_zero, mul_comm]; rfl
      _ ≤ m * 2 ^ e := by gcongr
      _ < 2 ^ t := h
  exact (zpow_lt_zpow_iff_right₀ one_lt_two).mp hlt

/-- An integer does not change when it is multiplied by one. -/
theorem isInteger_mul_one {x : Float} {n : Int} (h : IsInteger x n) (hn : n.natAbs < 2 ^ 64) :
    IsInteger (x * Float.ofBits 0x3FF0000000000000) n := by
  obtain ⟨hnormal, hvalue⟩ := h
  have hproduct : (x * Float.ofBits 0x3FF0000000000000).toModel = Float.Model.pack
    (UnpackedFloat.mul .binary64 x.toModel.unpack (.finite .positive (2 ^ 52) (-52) (Nat.two_pow_pos 52))) := rfl
  generalize x.toModel.unpack = u at hnormal hvalue hproduct
  cases hnormal with
  | zero s => exact .of_pack hproduct (.zero _) hvalue
  | @finite s m e hm hlog hlow hhigh =>
    have hsmall : (m : ℚ) * 2 ^ e < 2 ^ (64 : ℤ) := by
      rw [← abs_value s m e hm, hvalue, ← Int.cast_abs, Int.abs_eq_natAbs]
      exact_mod_cast hn
    have hexponent := exponent_lt hm.ne' hlog hsmall
    have hlog' : (m * 2 ^ 52).log2 = 104 := by rw [← Nat.shiftLeft_eq, log2_shiftLeft hm.ne', hlog]
    have hsign : s * Sign.positive = s := by cases s <;> rfl
    have hdigits := Nat.lt_log2_self (n := m)
    rw [hlog] at hdigits
    obtain ⟨hnormal', hvalue'⟩ := isNormal_roundWithAccuracy (s * Sign.positive) (m := m * 2 ^ 52) (e := e + -52)
      (by omega) (by rw [totalExponent]; omega) (by rw [totalExponent]; omega)
    refine .of_pack hproduct hnormal' ?_
    show value (roundWithAccuracy .binary64 (s * Sign.positive) (m * 2 ^ 52) (e + -52) .exact) = n
    have hscale : (m * 2 ^ 52 : ℚ) * (2 ^ e * 2 ^ (-52 : ℤ)) = m * 2 ^ e := by
      calc (m * 2 ^ 52 : ℚ) * (2 ^ e * 2 ^ (-52 : ℤ)) = m * 2 ^ 52 * 2 ^ (-52 : ℤ) * 2 ^ e := by ring
        _ = m * 2 ^ e := congrArg (· * (2 : ℚ) ^ e) (mul_pow_mul_zpow_neg m 52)
    rw [hvalue', nearestNat_mul_pow, nearestNat_of_lt hdigits, hsign, ← hvalue, value, zpow_add₀ two_ne_zero]
    cases s with
    | positive =>
      simp only [Sign.apply]
      push_cast
      exact hscale
    | negative =>
      simp only [Sign.apply]
      push_cast
      linear_combination -hscale

theorem isInteger_ofScientific {n : Nat} (hn : n < 2 ^ 64) (hpos : 0 < n) :
    IsInteger (Float.ofModel (Float.Model.ofScientific n 0)) (nearestNat n) := by
  have hsize : n.log2 < 64 := (Nat.log2_lt hpos.ne').mpr hn
  have hlog : (n * 2 ^ 53).log2 = n.log2 + 53 := by rw [← Nat.shiftLeft_eq, log2_shiftLeft hpos.ne']
  have hround : UnpackedFloat.ofScientific .binary64 n 0 =
      roundWithAccuracy .binary64 .positive (n * 2 ^ 53) (-53) .exact := by
    have hlarge : ¬(0 : Int) > 2 ^ Format.binary64.exponentBits := by decide
    have hsmall : ¬(0 : Int) < -((2 ^ Format.binary64.exponentBits : Int) + n.log2) := by omega
    rw [UnpackedFloat.ofScientific, dif_neg hpos.ne', if_neg hlarge, if_neg hsmall, if_pos (Int.le_refl 0)]
    show roundWithAccuracy .binary64 .positive (n <<< Format.binary64.mantissaBits * 1) (-53) .exact = _
    rw [Nat.mul_one, Nat.shiftLeft_eq]
    rfl
  obtain ⟨hnormal, hvalue⟩ := isNormal_roundWithAccuracy .positive (m := n * 2 ^ 53) (e := -53) (by omega)
    (by rw [totalExponent]; omega) (by rw [totalExponent]; omega)
  refine .of_pack (congrArg Float.Model.pack hround) hnormal ?_
  rw [hvalue, nearestNat_mul_pow, Sign.apply]
  push_cast
  exact mul_pow_mul_zpow_neg _ 53

theorem isInteger_ofNat {n : Nat} (hn : n < 2 ^ 64) : IsInteger (Float.ofNat n) (nearestNat n) := by
  rcases Nat.eq_zero_or_pos n with rfl | hpos
  · exact ⟨.zero .positive, by rw [nearestNat_of_lt (by decide)]; rfl⟩
  have hunfold : Float.ofNat n = Float.ofScientific n false 0 := rfl
  rw [hunfold, Float.ofScientific]
  split
  · next hfast =>
    refine isInteger_mul_one (isInteger_word hn hpos) ?_
    rw [nearestNat_of_lt hfast.1]
    exact hn
  · exact isInteger_ofScientific hn hpos

theorem isInteger_ofInt {n : Int} (hn : n.natAbs < 2 ^ 64) : IsInteger (Float.ofInt n) (nearest n) := by
  cases n with
  | ofNat n =>
    have h := isInteger_ofNat hn
    rwa [← nearest_ofNat] at h
  | negSucc n =>
    have h := (isInteger_ofNat hn).neg
    rwa [← nearest_ofNat, ← nearest_neg] at h

/-! ### What integers as floating-point numbers are like -/

section IsInteger

variable {x y : Float} {m n : Int}

theorem compare_of_isInteger (hx : IsInteger x m) (hy : IsInteger y n) :
    x.toModel.unpack.compare y.toModel.unpack = some (compare m n) := by
  rw [compare_eq_compare_value hx.isNormal hy.isNormal, hx.value_eq, hy.value_eq, ← cmp_eq_compare,
    Int.cast_strictMono.cmp_map_eq, cmp_eq_compare]

theorem lt_iff_of_isInteger (hx : IsInteger x m) (hy : IsInteger y n) : x < y ↔ m < n := by
  have hlt : x < y ↔ (x.toModel.unpack.compare y.toModel.unpack == some .lt) = true := decide_eq_true_iff
  rw [hlt, compare_of_isInteger hx hy, ← compare_lt_iff_lt]
  simp

theorem beq_of_isInteger (hx : IsInteger x m) (hy : IsInteger y n) : (x == y) = true ↔ m = n := by
  show (x.toModel.unpack.compare y.toModel.unpack == some .eq) = true ↔ _
  rw [compare_of_isInteger hx hy, ← compare_eq_iff_eq]
  simp

/-- The whole part of an integer is the integer. -/
theorem wholePart_of_value {m n : Nat} {e : Int} (h : (m : ℚ) * 2 ^ e = n) : isWhole m e = true ∧ wholePart m e = n := by
  unfold isWhole wholePart
  rcases Int.lt_or_le e 0 with he | he
  · obtain ⟨k, rfl⟩ : ∃ k : Nat, e = -k := ⟨(-e).toNat, by omega⟩
    rw [zpow_neg, zpow_natCast, mul_inv_eq_iff_eq_mul₀ (by positivity)] at h
    have hm : m = n * twoPow k := by exact_mod_cast h
    have hpos : 0 < twoPow k := Nat.two_pow_pos k
    rw [if_neg (by omega), Int.neg_neg, Int.toNat_natCast, hm, Nat.mul_mod_left, Nat.mul_div_cancel n hpos]
    exact ⟨Bool.or_true _, rfl⟩
  · obtain ⟨k, rfl⟩ := Int.eq_ofNat_of_zero_le he
    rw [zpow_natCast] at h
    rw [if_pos he, decide_eq_true he]
    exact ⟨rfl, by exact_mod_cast h⟩

theorem toInt?_of_isInteger (h : IsInteger x n) : toInt? x = some n ∧ truncate x = saturate n := by
  obtain ⟨hnormal, hvalue⟩ := h
  unfold toInt? truncate
  rw [parts_eq]
  generalize x.toModel.unpack = u at hnormal hvalue
  cases hnormal with
  | zero s =>
    obtain rfl : 0 = n := Int.cast_injective (Int.cast_zero.trans hvalue)
    have hwhole := wholePart_of_value (m := 0) (n := 0) (e := -1074) (zero_mul _)
    simp only [Parts.ofUnpacked, hwhole]
    cases s <;> exact ⟨rfl, rfl⟩
  | @finite s m e hm =>
    have habs : (m : ℚ) * 2 ^ e = n.natAbs := by
      rw [← abs_value s m e hm, hvalue, ← Int.cast_abs, Int.abs_eq_natAbs, Int.cast_natCast]
    have hwhole := wholePart_of_value habs
    have hn : (if s == .negative then -(n.natAbs : Int) else n.natAbs) = n := by
      have hpos := magnitude_pos hm e
      cases s with
      | positive =>
        have : (0 : ℚ) < n := hvalue ▸ hpos
        have : 0 < n := by exact_mod_cast this
        show (n.natAbs : Int) = n
        omega
      | negative =>
        have : (n : ℚ) < 0 := by
          rw [← hvalue, value_negative]
          linarith
        have : n < 0 := by exact_mod_cast this
        show -(n.natAbs : Int) = n
        omega
    simp only [Parts.ofUnpacked, hwhole, hn, if_true, and_self]

end IsInteger

end SampleRecorder.Number
