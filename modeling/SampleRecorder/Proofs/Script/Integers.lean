import SampleRecorder.Proofs.Script.Machine

/-!
# Integers are computed exactly

A sum, a difference or a product of integers is the integer that it should be wherever a word can hold that integer, and
a floating-point number elsewhere (`ExactElse`).  A quotient is an integer if there is no remainder and a word can hold
it, and only division by zero fails (`QuotientOf`, `RemainderOf`).  A sign fails at the one integer whose opposite is too
large (`OppositeOf`).  Nothing wraps around (`Expr.eval_integers`).
-/

namespace SampleRecorder.Script

open Machine (fits fits_iff toInt_ofInt int64?_eq int64?_toInt)

/-- Whether a result is the integer `n` where a word can hold it, and the number `x` elsewhere. -/
structure ExactElse (n : Int) (x : Float) (result : Except Halt Value) : Prop where
  isInt_iff : (∃ m, result = .ok (.int m)) ↔ fits n = true
  toInt_eq : ∀ m, result = .ok (.int m) → m.toInt = n
  isFloat : fits n = false → result = .ok (.float x)

/-- Whether a result is the quotient of two integers. -/
structure QuotientOf (a b : Int64) (result : Except Halt Value) : Prop where
  fails_iff : ∀ h, result = .error h ↔ b = 0 ∧ h = .failed .divisionByZero
  isInt_iff : (∃ q, result = .ok (.int q)) ↔ b ≠ 0 ∧ b.toInt ∣ a.toInt ∧ fits (a.toInt / b.toInt) = true
  mul_eq : ∀ q, result = .ok (.int q) → q.toInt * b.toInt = a.toInt
  isFloat : b ≠ 0 → (∀ q, result ≠ .ok (.int q)) → result = .ok (.float (toFloat a / toFloat b))

/-- Whether a result is the remainder that the truncated quotient of two integers leaves. -/
structure RemainderOf (a b : Int64) (result : Except Halt Value) : Prop where
  fails_iff : ∀ h, result = .error h ↔ b = 0 ∧ h = .failed .divisionByZero
  isInt : b ≠ 0 → ∃ r, result = .ok (.int r) ∧ r.toInt = a.toInt - b.toInt * a.toInt.tdiv b.toInt

/-- Whether a result is the integer `n` that comes from `a` by a change of its sign. -/
structure OppositeOf (a : Int64) (n : Int) (result : Except Halt Value) : Prop where
  fails_iff : ∀ h, result = .error h ↔ a = Int64.minValue ∧ h = .failed .overflow
  isInt : a ≠ Int64.minValue → ∃ m, result = .ok (.int m) ∧ m.toInt = n

/-! ### Sums, differences and products -/

/-- The integer `n` where a word can hold it, and the number `x` elsewhere. -/
def exactElse (n : Int) (x : Float) : Value :=
  match int64? n with
  | some m => .int m
  | none => .float x

theorem exactElse_of_fits {n : Int} (h : fits n = true) (x : Float) : exactElse n x = .int (Int64.ofInt n) := by
  rw [exactElse, int64?_eq, if_pos h]

theorem exactElse_of_not_fits {n : Int} (h : fits n = false) (x : Float) : exactElse n x = .float x := by
  rw [exactElse, int64?_eq, h]
  rfl

theorem isExact (n : Int) (x : Float) : ExactElse n x (.ok (exactElse n x)) := by
  cases h : fits n with
  | true =>
    rw [exactElse_of_fits h]
    refine ⟨⟨fun _ => h, fun _ => ⟨_, rfl⟩⟩, ?_, fun hn => ?_⟩
    · rintro m ⟨⟩
      exact toInt_ofInt h
    · rw [h] at hn
      cases hn
  | false =>
    rw [exactElse_of_not_fits h]
    refine ⟨⟨?_, fun hn => ?_⟩, ?_, fun _ => rfl⟩
    · rintro ⟨m, ⟨⟩⟩
    · rw [h] at hn
      cases hn
    · rintro m ⟨⟩

theorem apply_add (a b : Int64) :
    BinaryOp.add.apply (.int a) (.int b) = .ok (exactElse (a.toInt + b.toInt) (toFloat a + toFloat b)) := by
  show BinaryOp.sum (.int a) (.int b) = _
  unfold BinaryOp.sum exactElse
  dsimp only
  cases int64? (a.toInt + b.toInt) <;> rfl

theorem apply_sub (a b : Int64) :
    BinaryOp.sub.apply (.int a) (.int b) = .ok (exactElse (a.toInt - b.toInt) (toFloat a - toFloat b)) := by
  show BinaryOp.sub.arith (.int a) (.int b) = _
  unfold BinaryOp.arith BinaryOp.onInts exactElse
  dsimp only
  cases int64? (a.toInt - b.toInt) <;> rfl

theorem apply_mul (a b : Int64) :
    BinaryOp.mul.apply (.int a) (.int b) = .ok (exactElse (a.toInt * b.toInt) (toFloat a * toFloat b)) := by
  show BinaryOp.mul.arith (.int a) (.int b) = _
  unfold BinaryOp.arith BinaryOp.onInts exactElse
  dsimp only
  cases int64? (a.toInt * b.toInt) <;> rfl

/-! ### Quotients and remainders -/

theorem apply_div_zero (a : Int64) : BinaryOp.div.apply (.int a) (.int 0) = failWith .divisionByZero :=
  rfl

theorem apply_rem_zero (a : Int64) : BinaryOp.rem.apply (.int a) (.int 0) = failWith .divisionByZero :=
  rfl

theorem apply_div_of_dvd {a b : Int64} (hb : b ≠ 0) (h : b.toInt ∣ a.toInt) :
    BinaryOp.div.apply (.int a) (.int b) = .ok (exactElse (a.toInt / b.toInt) (toFloat a / toFloat b)) := by
  have hmod : a.toInt.tmod b.toInt = 0 := Int.tmod_eq_zero_of_dvd h
  show BinaryOp.div.arith (.int a) (.int b) = _
  unfold BinaryOp.arith BinaryOp.onInts exactElse
  dsimp only
  rw [if_neg hb, if_pos hmod, Int.tdiv_eq_ediv_of_dvd h]
  cases int64? (a.toInt / b.toInt) <;> rfl

theorem apply_div_of_not_dvd {a b : Int64} (hb : b ≠ 0) (h : ¬b.toInt ∣ a.toInt) :
    BinaryOp.div.apply (.int a) (.int b) = .ok (.float (toFloat a / toFloat b)) := by
  have hmod : a.toInt.tmod b.toInt ≠ 0 := fun hzero => h (Int.dvd_of_tmod_eq_zero hzero)
  show BinaryOp.div.arith (.int a) (.int b) = _
  unfold BinaryOp.arith BinaryOp.onInts
  dsimp only
  rw [if_neg hb, if_neg hmod]
  rfl

theorem apply_rem {a b : Int64} (hb : b ≠ 0) : BinaryOp.rem.apply (.int a) (.int b) = .ok (.int (a % b)) := by
  show BinaryOp.rem.arith (.int a) (.int b) = _
  unfold BinaryOp.arith BinaryOp.onInts
  dsimp only
  rw [if_neg hb, ← Int64.toInt_mod, int64?_toInt]
  rfl

theorem isQuotient (a b : Int64) : QuotientOf a b (BinaryOp.div.apply (.int a) (.int b)) := by
  by_cases hb : b = 0
  · subst hb
    rw [apply_div_zero]
    refine ⟨fun h => ⟨?_, ?_⟩, ⟨?_, ?_⟩, ?_, ?_⟩
    · rintro ⟨⟩
      exact ⟨rfl, rfl⟩
    · rintro ⟨-, rfl⟩
      rfl
    · rintro ⟨q, ⟨⟩⟩
    · rintro ⟨hne, -⟩
      exact absurd rfl hne
    · rintro q ⟨⟩
    · intro hne
      exact absurd rfl hne
  · have hfails (v : Value) (h : Halt) : (.ok v : Except Halt Value) = .error h ↔ b = 0 ∧ h = .failed .divisionByZero :=
      ⟨nofun, fun hzero => absurd hzero.1 hb⟩
    by_cases hdvd : b.toInt ∣ a.toInt
    · have hexact := isExact (a.toInt / b.toInt) (toFloat a / toFloat b)
      rw [apply_div_of_dvd hb hdvd]
      refine ⟨hfails _, ⟨fun h => ⟨hb, hdvd, hexact.isInt_iff.mp h⟩, fun h => hexact.isInt_iff.mpr h.2.2⟩, ?_, ?_⟩
      · intro q hq
        rw [hexact.toInt_eq q hq]
        exact Int.ediv_mul_cancel hdvd
      · intro _ hnot
        refine hexact.isFloat (Bool.eq_false_iff.mpr fun hfits => ?_)
        obtain ⟨q, hq⟩ := hexact.isInt_iff.mpr hfits
        exact hnot q hq
    · rw [apply_div_of_not_dvd hb hdvd]
      refine ⟨hfails _, ⟨?_, fun h => absurd h.2.1 hdvd⟩, ?_, fun _ _ => rfl⟩
      · rintro ⟨q, ⟨⟩⟩
      · rintro q ⟨⟩

theorem isRemainder (a b : Int64) : RemainderOf a b (BinaryOp.rem.apply (.int a) (.int b)) := by
  by_cases hb : b = 0
  · subst hb
    rw [apply_rem_zero]
    refine ⟨fun h => ⟨?_, ?_⟩, fun hne => absurd rfl hne⟩
    · rintro ⟨⟩
      exact ⟨rfl, rfl⟩
    · rintro ⟨-, rfl⟩
      rfl
  · rw [apply_rem hb]
    refine ⟨fun h => ⟨nofun, fun hzero => absurd hzero.1 hb⟩, fun _ => ⟨a % b, rfl, ?_⟩⟩
    rw [Int64.toInt_mod, Int.tmod_def]

/-! ### Signs -/

/-- Every integer but the least one has an opposite that a word can hold. -/
theorem fits_opposite_iff {a : Int64} {n : Int} (hn : n = -a.toInt ∨ n = a.toInt.natAbs) :
    fits n = true ↔ a ≠ Int64.minValue := by
  have hlow := a.minValue_le_toInt
  have hhigh := a.toInt_le
  have hmin : Int64.minValue.toInt = -9223372036854775808 := rfl
  have hmax : Int64.maxValue.toInt = 9223372036854775807 := rfl
  rw [fits_iff, ne_eq, ← Int64.toInt_inj]
  omega

/-- The opposite of an integer or its size, where a word that cannot hold it ends the run. -/
theorem isOpposite {a : Int64} {n : Int} (hn : n = -a.toInt ∨ n = a.toInt.natAbs) :
    OppositeOf a n (match int64? n with | some m => .ok (.int m) | none => failWith .overflow) := by
  have hfits := fits_opposite_iff hn
  rw [int64?_eq]
  by_cases ha : a = Int64.minValue
  · rw [if_neg (fun h => hfits.mp h ha)]
    refine ⟨fun h => ⟨?_, ?_⟩, fun hne => absurd ha hne⟩
    · rintro ⟨⟩
      exact ⟨ha, rfl⟩
    · rintro ⟨-, rfl⟩
      rfl
  · rw [if_pos (hfits.mpr ha)]
    refine ⟨fun h => ⟨nofun, fun hmin => absurd hmin.1 ha⟩, fun _ => ?_⟩
    exact ⟨_, rfl, toInt_ofInt (hfits.mpr ha)⟩

/-! ### Expressions -/

variable {env : Env} {left right : Expr}

theorem Expr.eval_binary {l r : Value} (hl : left.eval env = .ok l) (hr : right.eval env = .ok r) (op : BinaryOp) :
    (Expr.binary op left right).eval env = op.apply l r := by
  rw [Expr.eval, hl, hr]
  rfl

theorem Expr.eval_neg {v : Value} (hv : left.eval env = .ok v) : (Expr.neg left).eval env = negate v := by
  rw [Expr.eval, hv]
  rfl

theorem Expr.eval_abs {v : Value} (hv : left.eval env = .ok v) :
    (Expr.call .abs [left]).eval env = Builtin.abs.apply [v] := by
  rw [Expr.eval_call Builtin.noConfusion Builtin.noConfusion, evalAll, hv]
  rfl

/-- Arithmetic on the values of two expressions that are integers. -/
theorem Expr.eval_integers {a b : Int64} (hleft : left.eval env = .ok (.int a)) (hright : right.eval env = .ok (.int b)) :
    ExactElse (a.toInt + b.toInt) (toFloat a + toFloat b) ((Expr.binary .add left right).eval env) ∧
    ExactElse (a.toInt - b.toInt) (toFloat a - toFloat b) ((Expr.binary .sub left right).eval env) ∧
    ExactElse (a.toInt * b.toInt) (toFloat a * toFloat b) ((Expr.binary .mul left right).eval env) ∧
    QuotientOf a b ((Expr.binary .div left right).eval env) ∧
    RemainderOf a b ((Expr.binary .rem left right).eval env) ∧
    OppositeOf a (-a.toInt) ((Expr.neg left).eval env) ∧
    OppositeOf a a.toInt.natAbs ((Expr.call .abs [left]).eval env) := by
  have hbinary := Expr.eval_binary hleft hright
  refine ⟨?_, ?_, ?_, ?_, ?_, ?_, ?_⟩
  · rw [hbinary, apply_add]
    exact isExact _ _
  · rw [hbinary, apply_sub]
    exact isExact _ _
  · rw [hbinary, apply_mul]
    exact isExact _ _
  · rw [hbinary]
    exact isQuotient a b
  · rw [hbinary]
    exact isRemainder a b
  · rw [Expr.eval_neg hleft]
    exact isOpposite (.inl rfl)
  · rw [Expr.eval_abs hleft]
    exact isOpposite (.inr rfl)

/-- The least integer and minus one: their quotient is no integer, their remainder is 0, and neither has the least integer
an opposite nor a size. -/
theorem Expr.eval_integers_least :
    let least : Expr := .literal (.int Int64.minValue)
    let one : Expr := .literal (.int (-1))
    let env : Env := ⟨"", []⟩
    least.eval env = .ok (.int Int64.minValue) ∧ one.eval env = .ok (.int (-1)) ∧
      (Expr.binary .sub least one).eval env = .ok (.int (-9223372036854775807)) ∧
      (∀ q, (Expr.binary .div least one).eval env ≠ .ok (.int q)) ∧
      (∃ r, (Expr.binary .rem least one).eval env = .ok (.int r) ∧ r.toInt = 0) ∧
      (Expr.neg least).eval env = failWith .overflow ∧ (Expr.call .abs [least]).eval env = failWith .overflow := by
  intro least one env
  have h := @Expr.eval_integers env least one Int64.minValue (-1) rfl rfl
  obtain ⟨-, hsub, -, hdiv, hrem, hneg, habs⟩ := h
  refine ⟨rfl, rfl, ?_, ?_, ?_, ?_, ?_⟩
  · obtain ⟨m, hm⟩ := hsub.isInt_iff.mpr (by decide)
    have hvalue : m.toInt = (-9223372036854775807 : Int64).toInt := hsub.toInt_eq m hm
    rw [hm, Int64.toInt_inj.mp hvalue]
  · intro q hq
    have hquotient := (hdiv.isInt_iff.mp ⟨q, hq⟩).2.2
    revert hquotient
    decide
  · obtain ⟨r, hr, hvalue⟩ := hrem.isInt (by decide)
    exact ⟨r, hr, hvalue⟩
  · exact (hneg.fails_iff _).mpr ⟨rfl, rfl⟩
  · exact (habs.fails_iff _).mpr ⟨rfl, rfl⟩

end SampleRecorder.Script
