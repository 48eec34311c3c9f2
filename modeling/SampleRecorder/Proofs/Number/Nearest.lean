import SampleRecorder.Proofs.Number.Size

/-!
# The nearest numbers with 53 digits

A floating-point number has 53 binary digits, and an integer with more of them is rounded: to the nearest number, and from
halfway to the one whose digits make up an even number.  `nearest` says so for integers, with nothing said about the
words that floating-point numbers are stored in.  Rounding keeps the order, though not strictly.
-/

namespace SampleRecorder.Number

/-! ### Rounding natural numbers -/

/-- The quotient of `m` and `2 ^ k`, rounded to the nearest integer and from halfway to the even one. -/
def halfEven (m k : Nat) : Nat :=
  if 2 * (m % 2 ^ k) < 2 ^ k ∨ 2 * (m % 2 ^ k) = 2 ^ k ∧ m / 2 ^ k % 2 = 0 then m / 2 ^ k else m / 2 ^ k + 1

theorem div_le_halfEven (m k : Nat) : m / 2 ^ k ≤ halfEven m k := by
  unfold halfEven
  split <;> omega

theorem halfEven_le (m k : Nat) : halfEven m k ≤ m / 2 ^ k + 1 := by
  unfold halfEven
  split <;> omega

theorem halfEven_mono {m n : Nat} (h : m ≤ n) (k : Nat) : halfEven m k ≤ halfEven n k := by
  rcases Nat.lt_or_eq_of_le (Nat.div_le_div_right (c := 2 ^ k) h) with hlt | heq
  · calc halfEven m k ≤ m / 2 ^ k + 1 := halfEven_le m k
      _ ≤ n / 2 ^ k := hlt
      _ ≤ halfEven n k := div_le_halfEven n k
  · -- with one quotient, the greater number has the greater remainder
    have hm := Nat.div_add_mod m (2 ^ k)
    have hn := Nat.div_add_mod n (2 ^ k)
    unfold halfEven
    rw [heq] at hm ⊢
    generalize 2 ^ k * (n / 2 ^ k) = base at hm hn
    split <;> split <;> omega

/-- A number with a factor is rounded to the quotient itself. -/
theorem halfEven_mul_pow (m k : Nat) : halfEven (m * 2 ^ k) k = m := by
  have hpos := Nat.two_pow_pos k
  rw [halfEven, Nat.mul_mod_left, Nat.mul_div_cancel m hpos, if_pos (.inl (by omega))]

theorem halfEven_zero (m : Nat) : halfEven m 0 = m := by
  have h := halfEven_mul_pow m 0
  rwa [Nat.pow_zero, Nat.mul_one] at h

theorem halfEven_shift (m k c : Nat) : halfEven (m * 2 ^ c) (k + c) = halfEven m k := by
  have hpos := Nat.two_pow_pos c
  unfold halfEven
  rw [Nat.pow_add, Nat.mul_mod_mul_right, Nat.mul_div_mul_right m _ hpos, ← Nat.mul_assoc]
  simp only [Nat.mul_lt_mul_right hpos, Nat.mul_left_inj hpos.ne']

/-- The number nearest to `n` among those with at most 53 binary digits before their zeros. -/
def nearestNat (n : Nat) : Nat :=
  halfEven n (n.log2 - 52) * 2 ^ (n.log2 - 52)

theorem nearestNat_of_lt {n : Nat} (h : n < 2 ^ 53) : nearestNat n = n := by
  have hlog : n.log2 - 52 = 0 := by
    by_cases hzero : n = 0
    · rw [hzero, Nat.log2_zero]
    · have := (Nat.log2_lt hzero).mpr h
      omega
  rw [nearestNat, hlog, halfEven_zero, Nat.pow_zero, Nat.mul_one]

/-- The quotient that a number with more digits is rounded to has 53 digits, or it is the least one with 54. -/
theorem halfEven_bounds {m : Nat} (h : 52 ≤ m.log2) :
    2 ^ 52 ≤ halfEven m (m.log2 - 52) ∧ halfEven m (m.log2 - 52) ≤ 2 ^ 53 := by
  have hm : m ≠ 0 := by
    rintro rfl
    rw [Nat.log2_zero] at h
    cases h
  have hpos := Nat.two_pow_pos (m.log2 - 52)
  have hlow : 2 ^ 52 ≤ m / 2 ^ (m.log2 - 52) := by
    rw [Nat.le_div_iff_mul_le hpos, ← Nat.pow_add]
    exact (Nat.log2_self_le hm).trans' (Nat.pow_le_pow_right (by decide) (by omega))
  have hhigh : m / 2 ^ (m.log2 - 52) < 2 ^ 53 := by
    rw [Nat.div_lt_iff_lt_mul hpos, ← Nat.pow_add]
    exact Nat.lt_log2_self.trans_le (Nat.pow_le_pow_right (by decide) (by omega))
  exact ⟨hlow.trans (div_le_halfEven _ _), (halfEven_le _ _).trans hhigh⟩

theorem nearestNat_mono {m n : Nat} (h : m ≤ n) : nearestNat m ≤ nearestNat n := by
  have hlog := log2_mono h
  rcases Nat.lt_or_ge m (2 ^ 53) with hsmall | hlarge
  · rw [nearestNat_of_lt hsmall]
    rcases Nat.lt_or_ge n (2 ^ 53) with hn | hn
    · rwa [nearestNat_of_lt hn]
    · have hlogn : 53 ≤ n.log2 := (Nat.le_log2 (by omega)).mpr hn
      have hpow : 2 ≤ 2 ^ (n.log2 - 52) := Nat.le_self_pow (by omega) 2
      calc m ≤ 2 ^ 52 * 2 := by omega
        _ ≤ nearestNat n := Nat.mul_le_mul (halfEven_bounds (by omega)).1 hpow
  · have hlogm : 53 ≤ m.log2 := (Nat.le_log2 (by omega)).mpr hlarge
    rcases Nat.eq_or_lt_of_le hlog with heq | hlt
    · rw [nearestNat, nearestNat, heq]
      exact Nat.mul_le_mul_right _ (halfEven_mono h _)
    · -- a power of two lies between the two numbers
      calc nearestNat m ≤ 2 ^ 53 * 2 ^ (m.log2 - 52) := Nat.mul_le_mul_right _ (halfEven_bounds (by omega)).2
        _ = 2 ^ 52 * 2 ^ (m.log2 - 52 + 1) := by rw [Nat.pow_succ]; omega
        _ ≤ 2 ^ 52 * 2 ^ (n.log2 - 52) := Nat.mul_le_mul_left _ (Nat.pow_le_pow_right (by decide) (by omega))
        _ ≤ nearestNat n := Nat.mul_le_mul_right _ (halfEven_bounds (by omega)).1

theorem nearestNat_of_le {n : Nat} (h : n ≤ 2 ^ 53) : nearestNat n = n := by
  rcases Nat.lt_or_eq_of_le h with hlt | rfl
  · exact nearestNat_of_lt hlt
  · decide +kernel

/-- Zeros at the end of a number do not count. -/
theorem nearestNat_mul_pow (n c : Nat) : nearestNat (n * 2 ^ c) = nearestNat n * 2 ^ c := by
  by_cases hn : n = 0
  · rw [hn, Nat.zero_mul, nearestNat_of_lt (by decide), Nat.zero_mul]
  have hlog : (n * 2 ^ c).log2 = n.log2 + c := by rw [← Nat.shiftLeft_eq, log2_shiftLeft hn]
  rcases Nat.lt_or_ge n (2 ^ 52) with hsmall | hlarge
  · have hdigits : n.log2 < 52 := (Nat.log2_lt hn).mpr hsmall
    have hsplit : n * 2 ^ c = n * 2 ^ (c - (n.log2 + c - 52)) * 2 ^ (n.log2 + c - 52) := by
      rw [Nat.mul_assoc, ← Nat.pow_add]
      congr 2
      omega
    rw [nearestNat, hlog, hsplit, halfEven_mul_pow, ← hsplit, nearestNat_of_lt (by omega)]
  · have hdigits : 52 ≤ n.log2 := (Nat.le_log2 hn).mpr hlarge
    have hshift : n.log2 + c - 52 = n.log2 - 52 + c := by omega
    rw [nearestNat, hlog, hshift, halfEven_shift, nearestNat, Nat.pow_add, Nat.mul_assoc]

/-- Rounding moves a number by half a step at most. -/
theorem nearestNat_sub_le (n : Nat) : 2 * (nearestNat n - n : Int).natAbs ≤ 2 ^ (n.log2 - 52) := by
  have hsplit := Nat.div_add_mod n (2 ^ (n.log2 - 52))
  have hrest := Nat.mod_lt n (Nat.two_pow_pos (n.log2 - 52))
  unfold nearestNat halfEven
  rw [Nat.mul_comm] at hsplit
  split
  · generalize n / 2 ^ (n.log2 - 52) * 2 ^ (n.log2 - 52) = whole at *
    omega
  · rw [Nat.add_mul, Nat.one_mul]
    generalize n / 2 ^ (n.log2 - 52) * 2 ^ (n.log2 - 52) = whole at *
    omega

/-! ### Rounding integers -/

/-- The integer nearest to `n` among those with at most 53 binary digits before their zeros; of two that are equally
near it is the one whose digits make up an even number. -/
def nearest (n : Int) : Int :=
  n.sign * nearestNat n.natAbs

theorem nearest_ofNat (n : Nat) : nearest n = nearestNat n := by
  rcases Nat.eq_zero_or_pos n with rfl | hpos
  · decide +kernel
  · rw [nearest, Int.sign_eq_one_of_pos (by omega), Int.natAbs_natCast, Int.one_mul]

theorem nearest_neg (n : Int) : nearest (-n) = -nearest n := by
  rw [nearest, nearest, Int.sign_neg, Int.natAbs_neg, Int.neg_mul]

theorem nearest_of_le {n : Int} (h : n.natAbs ≤ 2 ^ 53) : nearest n = n := by
  rw [nearest, nearestNat_of_le h]
  exact Int.sign_mul_natAbs n

theorem nearest_mono {m n : Int} (h : m ≤ n) : nearest m ≤ nearest n := by
  obtain ⟨a, rfl | rfl⟩ := m.eq_nat_or_neg <;> obtain ⟨b, rfl | rfl⟩ := n.eq_nat_or_neg
  · rw [nearest_ofNat, nearest_ofNat]
    exact Int.ofNat_le.mpr (nearestNat_mono (Int.ofNat_le.mp h))
  · obtain ⟨rfl, rfl⟩ : a = 0 ∧ b = 0 := by omega
    exact Int.le_refl _
  · rw [nearest_neg, nearest_ofNat, nearest_ofNat]
    omega
  · rw [nearest_neg, nearest_neg, nearest_ofNat, nearest_ofNat]
    have := nearestNat_mono (m := b) (n := a) (by omega)
    omega

theorem nearest_sub_le (n : Int) : 2 * (nearest n - n).natAbs ≤ 2 ^ (n.natAbs.log2 - 52) := by
  have h := nearestNat_sub_le n.natAbs
  obtain ⟨m, rfl | rfl⟩ := n.eq_nat_or_neg
  · rwa [nearest_ofNat]
  · rw [Int.natAbs_neg, Int.natAbs_natCast] at *
    rw [nearest_neg, nearest_ofNat]
    omega

/-- Rounding never turns two integers around. -/
theorem compare_nearest {m n : Int} (h : m = n ∨ nearest m ≠ nearest n) :
    compare (nearest m) (nearest n) = compare m n := by
  rcases h with rfl | h
  · rw [compare_eq_iff_eq.mpr rfl, compare_eq_iff_eq.mpr rfl]
  · rcases Int.lt_trichotomy m n with hlt | rfl | hgt
    · have := nearest_mono hlt.le
      rw [compare_lt_iff_lt.mpr hlt, compare_lt_iff_lt.mpr (by omega)]
    · exact absurd rfl h
    · have := nearest_mono hgt.le
      rw [compare_gt_iff_gt.mpr hgt, compare_gt_iff_gt.mpr (by omega)]

end SampleRecorder.Number
