import SampleRecorder.Proofs.Number.Decimal
import SampleRecorder.Proofs.Text.Size
import SampleRecorder.Script.Eval

/-!
# Converting texts to integers

An integer in decimal is read in three ways: into the field of a separated line, by `num` and by `int`.  The first reads
integers; the functions read a floating-point number, which is the one nearest to the integer, and convert it back.  So
`num` gives the integer only up to the size that it takes to be exact, and `int` gives it if no digit is rounded away
(`Builtin.integers_read`); an integer just beyond that size is read as another one (`Builtin.neighbour_misread`).
-/

namespace SampleRecorder.Script

open Number (IsInteger nearest saturate)

/-! ### Converting back -/

/-- The number nearest to a 64-bit integer is the next power of two at most. -/
theorem nearest_bounds (i : Int64) : -2 ^ 63 ≤ nearest i.toInt ∧ nearest i.toInt ≤ 2 ^ 63 := by
  have hlow : -2 ^ 63 ≤ i.toInt := i.minValue_le_toInt
  have hhigh : i.toInt ≤ 2 ^ 63 := i.toInt_le.trans (by decide)
  have hleast : nearest (-2 ^ 63) = -2 ^ 63 := by decide +kernel
  have hmost : nearest (2 ^ 63) = 2 ^ 63 := by decide +kernel
  exact ⟨hleast ▸ Number.nearest_mono hlow, hmost ▸ Number.nearest_mono hhigh⟩

/-- Only the greatest integer is saved by staying within 64 bits. -/
theorem saturate_nearest_eq_iff (i : Int64) :
    saturate (nearest i.toInt) = i ↔ nearest i.toInt = i.toInt ∨ i = Int64.maxValue := by
  obtain ⟨hlow, hhigh⟩ := nearest_bounds i
  have hmin : Int64.minValue.toInt = -2 ^ 63 := rfl
  have hmax : Int64.maxValue.toInt = 2 ^ 63 - 1 := rfl
  have hi : i.toInt ≤ 2 ^ 63 - 1 := i.toInt_le
  unfold saturate
  rw [if_neg (by omega)]
  split
  · next hbeyond =>
    rw [eq_comm, or_iff_right (by omega)]
  · next hwithin =>
    have hne : i ≠ Int64.maxValue := by
      rintro rfl
      revert hwithin
      decide +kernel
    have hvalue : (Int64.ofInt (nearest i.toInt)).toInt = nearest i.toInt :=
      Int64.toInt_ofInt_of_le hlow (by omega)
    rw [or_iff_left hne, ← Int64.toInt_inj, hvalue]

namespace Builtin

variable {s : String} {x : Float} {n : Int}

theorem num_text (hx : Number.finite? s.toList = some x) (hn : IsInteger x n) :
    num.apply [.str s] = .ok (if n.natAbs ≤ 2 ^ 53 then .int (Int64.ofInt n) else .float x) := by
  have hexact : FieldValue.exactInt? x = if n.natAbs ≤ 2 ^ 53 then some (Int64.ofInt n) else none := by
    rw [FieldValue.exactInt?, (Number.toInt?_of_isInteger hn).1]
    exact if_congr Int.ofNat_le rfl rfl
  show Except.ok (((Number.finite? s.toList).map Value.ofFloat).getD .null) = _
  rw [hx, Option.map_some, Option.getD_some, Value.ofFloat, hexact]
  by_cases hsmall : n.natAbs ≤ 2 ^ 53
  · rw [if_pos hsmall, if_pos hsmall]
  · rw [if_neg hsmall, if_neg hsmall]

theorem int_text (hx : Number.finite? s.toList = some x) (hn : IsInteger x n) :
    int.apply [.str s] = .ok (.int (saturate n)) := by
  show Except.ok (((Number.finite? s.toList).map fun x => Value.int (Number.truncate x)).getD .null) = _
  rw [hx, Option.map_some, Option.getD_some, (Number.toInt?_of_isInteger hn).2]

theorem str_int (i : Int64) : str.apply [.int i] = .ok (.str (Value.int i).display) := by
  have hdigits : (Number.digitsOf i.toInt.natAbs).length ≤ 20 :=
    Nat.toDigits_length 10 _ 20 (by decide) ((Number.natAbs_toInt_lt i).trans (by decide))
  have hlength : (Number.ofInt i.toInt).length ≤ 21 := by
    unfold Number.ofInt
    split
    · exact Nat.succ_le_succ hdigits
    · exact hdigits.trans (by decide)
  have hsize : ¬textLimit < (Value.int i).display.utf8ByteSize := by
    have hbytes := Text.bytes_le_length (Number.ofInt i.toInt)
    have hlimit : textLimit = 65536 := rfl
    rw [Value.display, Text.utf8ByteSize_ofList]
    omega
  exact if_neg hsize

/-- What becomes of an integer that is written in decimal and read again.  As the value of a field it is the same integer.
`num` makes it the number nearest to it, an integer only if that is small enough, and so gives the same integer up to
2 ^ 53.  `int` makes it the 64-bit integer nearest to that number, so it gives the same one if no digit is rounded away,
and for the greatest integer. -/
theorem integers_read (i : Int64) :
    FieldValue.coerce (Value.int i).display = .int i ∧
      str.apply [.int i] = .ok (.str (Value.int i).display) ∧
      num.apply [.str (Value.int i).display] =
        .ok (if (nearest i.toInt).natAbs ≤ 2 ^ 53 then .int (Int64.ofInt (nearest i.toInt))
          else .float (Float.ofInt i.toInt)) ∧
      (num.apply [.str (Value.int i).display] = .ok (.int i) ↔ i.toInt.natAbs ≤ 2 ^ 53) ∧
      int.apply [.str (Value.int i).display] = .ok (.int (saturate (nearest i.toInt))) ∧
      (int.apply [.str (Value.int i).display] = .ok (.int i) ↔
        nearest i.toInt = i.toInt ∨ i = Int64.maxValue) := by
  have hread : Number.finite? (Value.int i).display.toList = some (Float.ofInt i.toInt) := by
    rw [Value.display, String.toList_ofList, Number.finite?_ofInt]
  have hinteger := Number.isInteger_ofInt (Number.natAbs_toInt_lt i)
  have hnum := num_text hread hinteger
  have hint := int_text hread hinteger
  refine ⟨?_, str_int i, hnum, ?_, hint, ?_⟩
  · rw [FieldValue.coerce, Value.display, String.toList_ofList, Number.int64?_ofInt]
  · rw [hnum]
    constructor
    · intro h
      by_cases hsmall : (nearest i.toInt).natAbs ≤ 2 ^ 53
      · rw [if_pos hsmall] at h
        obtain ⟨hlow, hhigh⟩ := nearest_bounds i
        have hvalue : (Int64.ofInt (nearest i.toInt)).toInt = nearest i.toInt :=
          Int64.toInt_ofInt_of_le hlow (by omega)
        rw [Value.int.inj (Except.ok.inj h)] at hvalue
        rwa [← hvalue] at hsmall
      · rw [if_neg hsmall] at h
        cases h
    · intro hsmall
      rw [Number.nearest_of_le hsmall, if_pos hsmall, Int64.ofInt_toInt]
  · rw [hint, ← saturate_nearest_eq_iff]
    exact ⟨fun h => Value.int.inj (Except.ok.inj h), fun h => by rw [h]⟩

/-- The first integer that needs rounding is read by the functions as the one before it, though not as a field. -/
theorem neighbour_misread :
    let i : Int64 := 9007199254740993
    let text := "9007199254740993"
    FieldValue.coerce text = .int i ∧ str.apply [.int i] = .ok (.str text) ∧
      num.apply [.str text] = .ok (.int 9007199254740992) ∧ int.apply [.str text] = .ok (.int 9007199254740992) := by
  intro i text
  have hint : Number.int64? text.toList = some i := by decide +kernel
  have hread : Number.finite? text.toList = some 9007199254740992 := by decide +kernel
  have hexact : FieldValue.exactInt? 9007199254740992 = some 9007199254740992 := by decide +kernel
  have htruncate : Number.truncate 9007199254740992 = 9007199254740992 := by decide +kernel
  refine ⟨?_, ?_, ?_, ?_⟩
  · rw [FieldValue.coerce, hint]
  · have htext : (Value.int i).display = text := by decide +kernel
    rw [← htext]
    exact str_int i
  · show Except.ok (((Number.finite? text.toList).map Value.ofFloat).getD .null) = _
    rw [hread, Option.map_some, Option.getD_some, Value.ofFloat, hexact]
  · show Except.ok (((Number.finite? text.toList).map fun x => Value.int (Number.truncate x)).getD .null) = _
    rw [hread, Option.map_some, Option.getD_some, htruncate]

end Builtin

end SampleRecorder.Script
