import SampleRecorder.Proofs.Number.Digits
import SampleRecorder.Proofs.Number.Integer
import SampleRecorder.Proofs.Text.Run

/-!
# Integers in decimal

What becomes of an integer that is written in decimal digits and read again, as a 64-bit integer and as a floating-point
number.  The key facts: reading it as an integer gives it back (`int64?_ofInt`), and reading it as a floating-point number
gives the number nearest to it (`finite?_of_int64?`), so the two ways agree on integers that need no rounding only.
-/

namespace SampleRecorder.Number

open Text (Stops isBlank)

/-! ### Signs and digits -/

theorem takeSign_minus (s : List Char) : takeSign ('-' :: s) = (true, s) :=
  rfl

theorem takeSign_digit {c : Char} (h : c.isDigit = true) (s : List Char) : takeSign (c :: s) = (false, c :: s) := by
  unfold takeSign
  split
  · next heq => cases heq; cases h
  · next heq => cases heq; cases h
  · rfl

theorem mem_of_takeSign {s ds : List Char} {negative : Bool} (h : takeSign s = (negative, ds)) :
    ∀ c ∈ s, c = '-' ∨ c = '+' ∨ c ∈ ds := by
  unfold takeSign at h
  split at h
  all_goals
    cases h
    simp +contextual

theorem toNat_of_isDigit {c : Char} (h : c.isDigit = true) : 48 ≤ c.toNat ∧ c.toNat ≤ 57 := by
  rw [Char.isDigit, Bool.and_eq_true, decide_eq_true_iff, decide_eq_true_iff] at h
  exact h

theorem isBlank_of_isDigit {c : Char} (h : c.isDigit = true) : isBlank c = false := by
  obtain ⟨hlow, hhigh⟩ := toNat_of_isDigit h
  simp only [isBlank, Bool.or_eq_false_iff, Bool.and_eq_false_iff, beq_eq_false_iff_ne, decide_eq_false_iff_not]
  omega

/-! ### Texts of integers -/

theorem natAbs_toInt_lt (i : Int64) : i.toInt.natAbs < 2 ^ 64 := by
  have hlow : -2 ^ 63 ≤ i.toInt := i.minValue_le_toInt
  have hhigh : i.toInt ≤ 2 ^ 63 - 1 := i.toInt_le
  omega

/-- A text spells an integer by a sign, or none, and digits. -/
theorem int64?_eq_some_iff {s : List Char} {i : Int64} :
    int64? s = some i ↔ ∃ negative ds, takeSign s = (negative, ds) ∧ (ds ≠ [] ∧ ∀ c ∈ ds, c.isDigit = true) ∧
      i.toInt = if negative then -(ofDigits ds : Int) else ofDigits ds := by
  have hdigits (ds : List Char) :
      ¬(ds.isEmpty || ds.any (!·.isDigit)) = true ↔ ds ≠ [] ∧ ∀ c ∈ ds, c.isDigit = true := by simp
  have hrange (n : Int) : (Int64.minValue.toInt ≤ n && n ≤ Int64.maxValue.toInt) = true ↔
      Int64.minValue.toInt ≤ n ∧ n ≤ Int64.maxValue.toInt := by simp
  simp only [int64?]
  constructor
  · intro h
    obtain ⟨hds, h⟩ := Option.ite_none_left_eq_some.mp h
    obtain ⟨hn, h⟩ := Option.ite_none_right_eq_some.mp h
    obtain ⟨hlow, hhigh⟩ := (hrange _).mp hn
    refine ⟨_, _, rfl, (hdigits _).mp hds, ?_⟩
    rw [← Option.some.inj h]
    exact Int64.toInt_ofInt_of_le hlow (Int.lt_add_one_of_le hhigh)
  · rintro ⟨negative, ds, hsign, hds, hi⟩
    rw [hsign, if_neg ((hdigits ds).mpr hds), ← hi, if_pos ((hrange _).mpr ⟨i.minValue_le_toInt, i.toInt_le⟩),
      Int64.ofInt_toInt]

theorem takeSign_ofInt (n : Int) : takeSign (ofInt n) = (decide (n < 0), digitsOf n.natAbs) := by
  unfold ofInt
  split
  · next hneg => rw [takeSign_minus, decide_eq_true hneg]
  · next hpos =>
    rw [decide_eq_false hpos]
    cases hds : digitsOf n.natAbs with
    | nil => exact absurd hds (digitsOf_ne_nil _)
    | cons c ds => exact takeSign_digit (isDigit_of_mem_digitsOf (hds ▸ List.mem_cons_self)) ds

/-- An integer is read as it is written. -/
theorem int64?_ofInt (i : Int64) : int64? (ofInt i.toInt) = some i := by
  refine int64?_eq_some_iff.mpr ⟨_, _, takeSign_ofInt _, ⟨digitsOf_ne_nil _, fun c hc => isDigit_of_mem_digitsOf hc⟩, ?_⟩
  rw [ofDigits_digitsOf]
  split
  · next hneg =>
    have := of_decide_eq_true hneg
    omega
  · next hpos =>
    have := mt decide_eq_true hpos
    omega

theorem isDigit_of_int64? {s : List Char} {i : Int64} (h : int64? s = some i) :
    s ≠ [] ∧ ∀ c ∈ s, c = '-' ∨ c = '+' ∨ c.isDigit = true := by
  obtain ⟨negative, ds, hsign, ⟨hne, hall⟩, -⟩ := int64?_eq_some_iff.mp h
  refine ⟨?_, fun c hc => ?_⟩
  · rintro rfl
    cases hsign
    exact hne rfl
  · exact (mem_of_takeSign hsign c hc).imp_right (.imp_right (hall c))

theorem isBlank_of_int64? {s : List Char} {i : Int64} (h : int64? s = some i) : ∀ c ∈ s, isBlank c = false := by
  intro c hc
  obtain rfl | rfl | hdigit := (isDigit_of_int64? h).2 c hc
  · rfl
  · rfl
  · exact isBlank_of_isDigit hdigit

/-- There is nothing to trim about a text that spells an integer. -/
theorem stops_of_int64? {s : List Char} {i : Int64} (h : int64? s = some i) :
    Stops isBlank s ∧ Stops isBlank s.reverse :=
  ⟨fun c hc => isBlank_of_int64? h c (List.mem_of_mem_head? hc),
    fun c hc => isBlank_of_int64? h c (List.mem_reverse.mp (List.mem_of_mem_head? hc))⟩

theorem trim_of_int64? {s : List Char} {i : Int64} (h : int64? s = some i) : Text.trim s = s :=
  Text.trim_of_ends (stops_of_int64? h).1 (stops_of_int64? h).2

/-! ### Reading floating-point numbers -/

theorem toLower_of_isDigit {c : Char} (h : c.isDigit = true) : c.toLower = c := by
  have hupper : ¬(c.val ≥ 'A'.val ∧ c.val ≤ 'Z'.val) := by
    rintro ⟨hle, -⟩
    have := (toNat_of_isDigit h).2.trans' hle
    revert this
    decide
  exact dif_neg hupper

/-- An integer needs no exponent. -/
theorem toFloat_whole {n : Nat} (hn : n < 2 ^ 64) : Numeral.toFloat ⟨n, 0⟩ = Float.ofNat n := by
  rcases Nat.eq_zero_or_pos n with rfl | hpos
  · rfl
  have hlog : n.log2 < 64 := (Nat.log2_lt hpos.ne').mpr hn
  have hsmall : ¬(n = 0 || decide ((0 : Int) + n.log2 * 30103 / 100000 < -400)) = true := by
    rw [Bool.or_eq_true, decide_eq_true_eq, decide_eq_true_eq]
    omega
  have hgreat : ¬400 < (0 : Int) + n.log2 * 30103 / 100000 := by omega
  simp only [Numeral.toFloat]
  rw [if_neg hsmall, if_neg hgreat]
  rfl

theorem unsigned?_digits {ds : List Char} (hne : ds ≠ []) (hds : ∀ c ∈ ds, c.isDigit = true)
    (hsize : ofDigits ds < 2 ^ 64) : unsigned? ds = some (Float.ofNat (ofDigits ds)) := by
  have hlower : lowerAscii ds = ds :=
    (List.map_congr_left fun c hc => toLower_of_isDigit (hds c hc)).trans (List.map_id ds)
  -- a digit is no letter
  have hword {word : List Char} (hw : ∀ c ∈ word, c.isDigit = false) : lowerAscii ds ≠ word := by
    rw [hlower]
    rintro rfl
    obtain ⟨c, hc⟩ := List.exists_mem_of_ne_nil ds hne
    cases (hds c hc).symm.trans (hw c hc)
  have hnumeral : numeral? ds = some ⟨ofDigits ds, 0⟩ := by
    have htake := Text.takeWhile_run (s := []) hds Text.stops_nil
    have hdrop := Text.dropWhile_run (s := []) hds Text.stops_nil
    rw [List.append_nil] at htake hdrop
    simp only [numeral?, htake, hdrop]
    rw [if_neg (by simpa using hne), List.append_nil]
    rfl
  have hinf : ¬(lowerAscii ds = "inf".toList || lowerAscii ds = "infinity".toList) = true := by
    rw [Bool.or_eq_true, decide_eq_true_eq, decide_eq_true_eq, not_or]
    exact ⟨hword (by decide), hword (by decide)⟩
  rw [unsigned?, if_neg hinf, if_neg (hword (by decide)), hnumeral, Option.map_some, toFloat_whole hsize]

theorem float?_of_takeSign {s ds : List Char} {negative : Bool} (hsign : takeSign s = (negative, ds))
    (hds : ds ≠ [] ∧ ∀ c ∈ ds, c.isDigit = true) (hsize : ofDigits ds < 2 ^ 64) :
    float? s = some (if negative then -Float.ofNat (ofDigits ds) else Float.ofNat (ofDigits ds)) := by
  simp only [float?, hsign]
  rw [unsigned?_digits hds.1 hds.2 hsize, Option.map_some]

theorem float?_ofInt {n : Int} (hn : n.natAbs < 2 ^ 64) : float? (ofInt n) = some (Float.ofInt n) := by
  have hdigits : digitsOf n.natAbs ≠ [] ∧ ∀ c ∈ digitsOf n.natAbs, c.isDigit = true :=
    ⟨digitsOf_ne_nil _, fun c hc => isDigit_of_mem_digitsOf hc⟩
  rw [float?_of_takeSign (takeSign_ofInt n) hdigits (by rwa [ofDigits_digitsOf]), ofDigits_digitsOf]
  cases n with
  | ofNat n => rfl
  | negSucc n =>
    rw [if_pos (decide_eq_true (Int.negSucc_lt_zero n))]
    rfl

/-- An integer is read as the number nearest to it. -/
theorem finite?_of_int64? {s : List Char} {i : Int64} (h : int64? s = some i) :
    ∃ x, finite? s = some x ∧ IsInteger x (nearest i.toInt) := by
  obtain ⟨negative, ds, hsign, hds, hi⟩ := int64?_eq_some_iff.mp h
  have hsize : ofDigits ds < 2 ^ 64 := by
    have := natAbs_toInt_lt i
    split at hi <;> omega
  have hnat := isInteger_ofNat hsize
  rw [← nearest_ofNat] at hnat
  have hinteger : IsInteger (if negative then -Float.ofNat (ofDigits ds) else Float.ofNat (ofDigits ds))
      (nearest i.toInt) := by
    rw [hi]
    split
    · rw [nearest_neg]
      exact hnat.neg
    · exact hnat
  refine ⟨_, ?_, hinteger⟩
  rw [finite?, trim_of_int64? h, float?_of_takeSign hsign hds hsize, Option.filter_some, if_pos hinteger.isFinite]

theorem finite?_ofInt (i : Int64) : finite? (ofInt i.toInt) = some (Float.ofInt i.toInt) := by
  have hfinite := (isInteger_ofInt (natAbs_toInt_lt i)).isFinite
  rw [finite?, trim_of_int64? (int64?_ofInt i), float?_ofInt (natAbs_toInt_lt i), Option.filter_some, if_pos hfinite]

end SampleRecorder.Number
