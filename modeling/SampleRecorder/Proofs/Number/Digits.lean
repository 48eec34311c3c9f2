import SampleRecorder.Number.Numeral
import SampleRecorder.Number.Written

/-!
# Decimal digits

The digits of a natural number are ASCII digits without a zero in front, and they spell the number
(`ofDigits_digitsOf`).
-/

namespace SampleRecorder.Number

theorem digitsOf_of_lt {n : Nat} (h : n < 10) : digitsOf n = [n.digitChar] :=
  Nat.toDigits_of_lt_base h

theorem digitsOf_of_le {n : Nat} (h : 10 ≤ n) : digitsOf n = digitsOf (n / 10) ++ [(n % 10).digitChar] :=
  Nat.toDigits_of_base_le (by decide) h

theorem digitsOf_ne_nil (n : Nat) : digitsOf n ≠ [] :=
  Nat.toDigits_ne_nil

theorem isDigit_of_mem_digitsOf {n : Nat} {c : Char} (h : c ∈ digitsOf n) : c.isDigit = true :=
  Nat.isDigit_of_mem_toDigits (by decide) (by decide) h

theorem digitValue_digitChar {n : Nat} (h : n < 10) : digitValue n.digitChar = n := by
  have hall : ∀ k < 10, digitValue (Nat.digitChar k) = k := by decide
  exact hall n h

theorem ofDigits_concat (ds : List Char) (c : Char) : ofDigits (ds ++ [c]) = 10 * ofDigits ds + digitValue c := by
  simp [ofDigits]

theorem ofDigits_digitsOf (n : Nat) : ofDigits (digitsOf n) = n := by
  induction n using Nat.strongRecOn with
  | ind n ih =>
    by_cases h : n < 10
    · rw [digitsOf_of_lt h]
      have := digitValue_digitChar h
      simpa [ofDigits] using this
    · rw [digitsOf_of_le (by omega), ofDigits_concat, ih (n / 10) (by omega), digitValue_digitChar (by omega)]
      omega

/-- Only the number zero has a zero in front. -/
theorem length_digitsOf_of_head? {n : Nat} (h : (digitsOf n).head? = some '0') : (digitsOf n).length = 1 := by
  induction n using Nat.strongRecOn with
  | ind n ih =>
    by_cases hn : n < 10
    · rw [digitsOf_of_lt hn]
      rfl
    · have hne : (digitsOf (n / 10)).head? ≠ none := by simpa using digitsOf_ne_nil (n / 10)
      rw [digitsOf_of_le (by omega), List.head?_append, Option.or_of_isSome (Option.isSome_iff_ne_none.mpr hne)] at h
      have hone := ih (n / 10) (by omega) h
      -- the leading digits are a single zero, so the number is less than ten
      obtain ⟨c, hc⟩ := List.length_eq_one_iff.mp hone
      have hc0 : c = '0' := by simpa [hc] using h
      have hzero := ofDigits_digitsOf (n / 10)
      rw [hc, hc0] at hzero
      have : n / 10 = 0 := hzero.symm
      omega

end SampleRecorder.Number
