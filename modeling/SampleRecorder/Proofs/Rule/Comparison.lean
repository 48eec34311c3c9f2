import SampleRecorder.Proofs.Number.Decimal
import SampleRecorder.Proofs.Rule.Spelling
import SampleRecorder.Proofs.Script.Integers
import SampleRecorder.Proofs.Text.Trim

/-!
# Comparing integers

Expressions and conditions convert the integers that they compare to floating-point numbers first, so what they compare
is the numbers nearest to them.  The key facts: both give what a relation says of these nearest numbers
(`Relation.integers_compared`), which is what it says of the integers themselves unless these differ and have one nearest
number; and there are such integers, which count as equal in both languages (`Relation.neighbours_confused`).
-/

namespace SampleRecorder.Rule

open Number (IsInteger nearest)
open Script (BinaryOp Expr Env Value)
open Text (Stops isBlank isWord)

namespace Relation

/-! ### Relations between integers -/

/-- Whether a relation holds between two integers. -/
def Between (r : Relation) (m n : Int) : Prop :=
  match r with
  | gt => m > n
  | lt => m < n
  | ge => m ≥ n
  | le => m ≤ n
  | eq => m = n
  | ne => m ≠ n

instance (r : Relation) (m n : Int) : Decidable (r.Between m n) :=
  match r with
  | gt => inferInstanceAs (Decidable (m > n))
  | lt => inferInstanceAs (Decidable (m < n))
  | ge => inferInstanceAs (Decidable (m ≥ n))
  | le => inferInstanceAs (Decidable (m ≤ n))
  | eq => inferInstanceAs (Decidable (m = n))
  | ne => inferInstanceAs (Decidable (m ≠ n))

/-- The operator of expressions that is written with the sign of a relation. -/
def operator : Relation → BinaryOp
  | gt => .gt
  | lt => .lt
  | ge => .ge
  | le => .le
  | eq => .eq
  | ne => .ne

theorem holds_compare (r : Relation) (m n : Int) : r.holds (Ord.compare m n) = decide (r.Between m n) := by
  rw [Bool.eq_iff_iff, decide_eq_true_iff]
  cases r with
  | gt => exact beq_iff_eq.trans compare_gt_iff_gt
  | lt => exact beq_iff_eq.trans compare_lt_iff_lt
  | ge => exact bne_iff_ne.trans compare_ge_iff_ge
  | le => exact bne_iff_ne.trans compare_le_iff_le
  | eq => exact beq_iff_eq.trans compare_eq_iff_eq
  | ne => exact bne_iff_ne.trans (not_congr compare_eq_iff_eq)

/-- The nearest numbers stand in the same relations as the integers, unless different integers have the same. -/
theorem between_nearest_iff {m n : Int} :
    (∀ r : Relation, r.Between (nearest m) (nearest n) ↔ r.Between m n) ↔ m = n ∨ nearest m ≠ nearest n := by
  constructor
  · intro h
    by_contra hne
    rw [not_or, not_not] at hne
    exact hne.1 ((h eq).mp hne.2)
  · intro h r
    rw [← decide_eq_decide, ← holds_compare, ← holds_compare, Number.compare_nearest h]

/-- A 64-bit integer has eleven digits too many at most, and the last of those that are kept stands for 1024. -/
theorem nearest_sub_le_of_word (i : Int64) : 2 * (nearest i.toInt - i.toInt).natAbs ≤ 1024 := by
  rcases Nat.lt_or_ge i.toInt.natAbs (2 ^ 63) with hlt | hge
  · have hstep : i.toInt.natAbs.log2 - 52 ≤ 10 := by
      by_cases hzero : i.toInt.natAbs = 0
      · rw [hzero, Nat.log2_zero]
        decide
      · have := (Nat.log2_lt hzero).mpr hlt
        omega
    exact (Number.nearest_sub_le i.toInt).trans (Nat.pow_le_pow_right (by decide) hstep)
  · have hleast : i.toInt = -2 ^ 63 := by
      have hlow : -2 ^ 63 ≤ i.toInt := i.minValue_le_toInt
      have hhigh : i.toInt ≤ 2 ^ 63 - 1 := i.toInt_le
      omega
    rw [hleast]
    decide +kernel

/-- Integers that are rounded to one number lie close together. -/
theorem nearest_ne_of_apart {a b : Int64} (h : 1024 < (a.toInt - b.toInt).natAbs) :
    nearest a.toInt ≠ nearest b.toInt := by
  have ha := nearest_sub_le_of_word a
  have hb := nearest_sub_le_of_word b
  omega

/-! ### Expressions -/

section Operands

variable {x y : Float} {m n : Int}

theorem compareFloat?_of_isInteger (hx : IsInteger x m) (hy : IsInteger y n) :
    BinaryOp.compareFloat? x y = some (Ord.compare m n) := by
  simp only [BinaryOp.compareFloat?, Number.lt_iff_of_isInteger hx hy, Number.lt_iff_of_isInteger hy hx,
    Number.beq_of_isInteger hx hy]
  rcases Int.lt_trichotomy m n with h | h | h
  · rw [if_pos h, compare_lt_iff_lt.mpr h]
  · rw [if_neg (by omega), if_neg (by omega), if_pos h, compare_eq_iff_eq.mpr h]
  · rw [if_neg (by omega), if_pos h, compare_gt_iff_gt.mpr h]

theorem numberOrder?_of_isInteger (hx : IsInteger x m) (hy : IsInteger y n) :
    numberOrder? x y = some (Ord.compare m n) := by
  simp only [numberOrder?, Number.lt_iff_of_isInteger hx hy, Number.lt_iff_of_isInteger hy hx,
    Number.beq_of_isInteger hx hy]
  rcases Int.lt_trichotomy m n with h | h | h
  · rw [if_pos h, compare_lt_iff_lt.mpr h]
  · rw [if_neg (by omega), if_pos h, compare_eq_iff_eq.mpr h]
  · rw [if_neg (by omega), if_neg (by omega), if_pos h, compare_gt_iff_gt.mpr h]

end Operands

theorem apply_operator (r : Relation) (a b : Int64) :
    r.operator.apply (.int a) (.int b) = .ok (.bool (decide (r.Between (nearest a.toInt) (nearest b.toInt)))) := by
  have ha := Number.isInteger_ofInt (Number.natAbs_toInt_lt a)
  have hb := Number.isInteger_ofInt (Number.natAbs_toInt_lt b)
  have hequals : Value.equals (.int a) (.int b) = eq.holds (Ord.compare (nearest a.toInt) (nearest b.toInt)) := by
    rw [holds_compare, Bool.eq_iff_iff, decide_eq_true_iff]
    exact Number.beq_of_isInteger ha hb
  have hcompare (op : BinaryOp) : op.compare (.int a) (.int b) =
      .ok (.bool (op.holds (Ord.compare (nearest a.toInt) (nearest b.toInt)))) := by
    simp only [BinaryOp.compare, Value.number?, compareFloat?_of_isInteger ha hb]
  rw [← holds_compare]
  cases r with
  | gt | lt | ge | le => exact hcompare _
  | eq => rw [operator, BinaryOp.apply, hequals]
  | ne =>
    rw [operator, BinaryOp.apply, hequals]
    rfl

/-! ### Conditions -/

/-- A text that compares a field with an operand, with any white space around its parts. -/
def Spells (r : Relation) (field : String) (operand : List Char) (text : String) : Prop :=
  ∃ before gap gap' after : List Char, (∀ c ∈ before ++ gap ++ gap' ++ after, isBlank c = true) ∧
    text.toList = before ++ field.toList ++ gap ++ r.sign.toList ++ gap' ++ operand ++ after

theorem Spells.exists_trim {r : Relation} {field text : String} {operand : List Char}
    (htext : Spells r field operand text) (hfield : field.toList ∈ runOf isWord) (hne : operand ≠ [])
    (hlast : Stops isBlank operand.reverse) :
    ∃ gap ∈ 1 + runOf isBlank, ∃ gap' ∈ 1 + runOf isBlank,
      Text.trim text.toList = field.toList ++ (gap ++ (r.sign.toList ++ (gap' ++ operand))) := by
  obtain ⟨before, gap, gap', after, hblank, htext⟩ := htext
  simp only [List.forall_mem_append] at hblank
  obtain ⟨⟨⟨hbefore, hgap⟩, hgap'⟩, hafter⟩ := hblank
  have hends : Stops isBlank (field.toList ++ (gap ++ (r.sign.toList ++ (gap' ++ operand)))).reverse := by
    intro c hc
    simp only [← List.append_assoc] at hc
    rw [List.head?_reverse, List.getLast?_append_of_ne_nil _ hne, ← List.head?_reverse] at hc
    exact hlast c hc
  refine ⟨gap, mem_one_add_runOf.mpr hgap, gap', mem_one_add_runOf.mpr hgap', ?_⟩
  rw [htext, Text.trim_append_right hafter]
  simp only [List.append_assoc]
  rw [Text.trim_append_left hbefore, Text.trim_of_ends (stops_of_word hfield) hends]

/-- An integer in decimal stays on one line and has neither quotes nor the second half of a sign in front. -/
theorem plain_of_int64? {s : List Char} {b : Int64} (h : Number.int64? s = some b) :
    s ∈ line ∧ '=' ∉ s.head? ∧ Condition.unquote s = s := by
  obtain ⟨hne, hdigits⟩ := Number.isDigit_of_int64? h
  have hdiffers {d : Char} (hd : (d = '-' ∨ d = '+' ∨ d.isDigit = true) → False) : d ∉ s := fun hs => hd (hdigits d hs)
  refine ⟨⟨hne, hdiffers (by decide)⟩, fun hs => hdiffers (by decide) (List.mem_of_mem_head? hs), ?_⟩
  cases s with
  | nil => rfl
  | cons c rest =>
    have hquote : Condition.isQuote c = false := by
      obtain rfl | rfl | hdigit := hdigits c List.mem_cons_self
      · rfl
      · rfl
      · rw [Condition.isQuote, Bool.or_eq_false_iff, decide_eq_false_iff_not, decide_eq_false_iff_not]
        refine ⟨?_, ?_⟩ <;> rintro rfl <;> cases hdigit
    rw [Condition.unquote, hquote]
    rfl

/-- What is read in a text that compares a field with an integer. -/
theorem ofText_of_spells {r : Relation} {field text : String} {operand : List Char} {b : Int64}
    (htext : Spells r field operand text) (hfield : field.toList ∈ runOf isWord) (hb : Number.int64? operand = some b) :
    Condition.ofText text = .compare field r (String.ofList operand) (Number.finite? operand) := by
  obtain ⟨hfirst, hlast⟩ := Number.stops_of_int64? hb
  obtain ⟨hline, hsign, hunquote⟩ := plain_of_int64? hb
  obtain ⟨gap, hgap, gap', hgap', htrim⟩ := htext.exists_trim hfield hline.1 hlast
  have hread := comparison?_written hfield r hgap hgap' hline hfirst hlast hsign
  rw [hunquote, String.ofList_toList, ← htrim] at hread
  exact ofText_of_reader (f := .comparison) hread

/-- A comparison of a field that holds an integer with an integer in decimal. -/
theorem holds_of_spells {r : Relation} {field text : String} {operand : List Char} {a b : Int64}
    (htext : Spells r field operand text) (hfield : field.toList ∈ runOf isWord) (hb : Number.int64? operand = some b)
    {data : Reading} (ha : data.fields.get? field = some (.int a)) :
    (Condition.ofText text).holds data = decide (r.Between (nearest a.toInt) (nearest b.toInt)) := by
  obtain ⟨y, hy, hnearest⟩ := Number.finite?_of_int64? hb
  have horder := numberOrder?_of_isInteger (Number.isInteger_ofInt (Number.natAbs_toInt_lt a)) hnearest
  rw [ofText_of_spells htext hfield hb, hy, Condition.holds, ha]
  simp only [compareValue, FieldValue.number?, horder, holds_compare]

/-- Integers stand in a relation, in expressions and in conditions, if the numbers nearest to them do.  All relations are
told rightly exactly when the integers are equal or have different nearest numbers, and so are those between integers that
need no rounding or lie far enough apart. -/
theorem integers_compared (r : Relation) {a b : Int64} {env : Env} {left right : Expr}
    (hleft : left.eval env = .ok (.int a)) (hright : right.eval env = .ok (.int b)) {field text : String}
    {operand : List Char} (htext : Spells r field operand text) (hfield : field.toList ∈ runOf isWord)
    (hb : Number.int64? operand = some b) {data : Reading} (ha : data.fields.get? field = some (.int a)) :
    (Expr.binary r.operator left right).eval env =
        .ok (.bool (decide (r.Between (nearest a.toInt) (nearest b.toInt)))) ∧
      (Condition.ofText text).holds data = decide (r.Between (nearest a.toInt) (nearest b.toInt)) ∧
      ((∀ q : Relation, q.Between (nearest a.toInt) (nearest b.toInt) ↔ q.Between a.toInt b.toInt) ↔
        a = b ∨ nearest a.toInt ≠ nearest b.toInt) ∧
      (a.toInt.natAbs ≤ 2 ^ 53 → b.toInt.natAbs ≤ 2 ^ 53 →
        (r.Between (nearest a.toInt) (nearest b.toInt) ↔ r.Between a.toInt b.toInt)) ∧
      (1024 < (a.toInt - b.toInt).natAbs →
        (r.Between (nearest a.toInt) (nearest b.toInt) ↔ r.Between a.toInt b.toInt)) := by
  refine ⟨?_, holds_of_spells htext hfield hb ha, ?_, fun hsmall hsmall' => ?_, fun hapart => ?_⟩
  · rw [Expr.eval_binary hleft hright, apply_operator]
  · rw [between_nearest_iff, Int64.toInt_inj]
  · rw [Number.nearest_of_le hsmall, Number.nearest_of_le hsmall']
  · exact between_nearest_iff.mpr (.inr (nearest_ne_of_apart hapart)) r

theorem integers_compared_greatest :
    let left : Expr := .literal (.int (-3))
    let right : Expr := .literal (.int Int64.maxValue)
    let data : Reading := ⟨0, "", Dict.ofList [("level", .int (-3))]⟩
    Spells .lt "level" "+9223372036854775807".toList " level <+9223372036854775807" ∧
      (Expr.binary .lt left right).eval ⟨"", []⟩ = .ok (.bool true) ∧
      (Condition.ofText " level <+9223372036854775807").holds data = true := by
  intro left right data
  have htext : Spells .lt "level" "+9223372036854775807".toList " level <+9223372036854775807" :=
    ⟨[' '], [' '], [], [], by decide, by decide⟩
  have hb : Number.int64? "+9223372036854775807".toList = some Int64.maxValue := by decide +kernel
  have ha : data.fields.get? "level" = some (.int (-3)) := rfl
  have hless : lt.Between (nearest (-3 : Int64).toInt) (nearest Int64.maxValue.toInt) := by decide +kernel
  have hleft : left.eval ⟨"", []⟩ = .ok (.int (-3)) := rfl
  have hright : right.eval ⟨"", []⟩ = .ok (.int Int64.maxValue) := rfl
  obtain ⟨hexpr, hcondition, -, -, -⟩ := integers_compared .lt hleft hright htext ⟨by decide, by decide +kernel⟩ hb ha
  rw [decide_eq_true hless] at hexpr hcondition
  exact ⟨htext, hexpr, hcondition⟩

/-- Two integers that differ by one count as equal, in expressions and in conditions. -/
theorem neighbours_confused :
    let a : Int64 := 9007199254740992
    let b : Int64 := 9007199254740993
    let data : Reading := ⟨0, "", Dict.ofList [("n", .int a)]⟩
    ¬eq.Between a.toInt b.toInt ∧
      (Expr.binary .eq (.literal (.int a)) (.literal (.int b))).eval ⟨"", []⟩ = .ok (.bool true) ∧
      Spells .eq "n" (Number.ofInt b.toInt) "n == 9007199254740993" ∧
      (Condition.ofText "n == 9007199254740993").holds data = true := by
  refine ⟨by decide, ?_, ?_, by decide +kernel⟩
  · show Except.ok (Value.bool (Float.ofInt 9007199254740992 == Float.ofInt 9007199254740993)) = .ok (.bool true)
    have h : (Float.ofInt 9007199254740992 == Float.ofInt 9007199254740993) = true := by decide +kernel
    rw [h]
  · have hdigits : Number.ofInt (9007199254740993 : Int64).toInt = "9007199254740993".toList := by decide +kernel
    exact ⟨[], [' '], [' '], [], by decide, by rw [hdigits]; decide⟩

end Relation

end SampleRecorder.Rule
