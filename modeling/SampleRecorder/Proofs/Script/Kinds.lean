import Mathlib
import SampleRecorder.Proofs.Postcondition
import SampleRecorder.Script.Function

/-!
# Values that are neither texts nor lists

Arithmetic, comparisons, conversions to numbers and the choice of a least or greatest value give atomic values only: null,
truth values and numbers.  So texts and lists come out of a program by few ways, and what is to be said of all texts
or of all lists needs to be said of these alone.
-/

namespace SampleRecorder.Script

/-- Whether a value is neither a text nor a list. -/
inductive Value.IsAtomic : Value → Prop where
  | null : IsAtomic .null
  | bool (b : Bool) : IsAtomic (.bool b)
  | int (n : Int64) : IsAtomic (.int n)
  | float (x : Float) : IsAtomic (.float x)

theorem Value.isAtomic_ofFloat (x : Float) : (ofFloat x).IsAtomic := by
  unfold ofFloat
  split
  · exact .int _
  · exact .float _

/-- A number is atomic. -/
theorem Value.isAtomic_of_number? {v : Value} {x : Float} (h : v.number? = some x) : v.IsAtomic := by
  cases v with
  | int n => exact .int n
  | float x => exact .float x
  | null | bool _ | str _ | list _ => cases h

/-! ### Operators -/

theorem isAtomic_onInts (op : BinaryOp) (a b : Int64) :
    Gives (op.onInts a b) fun exact => ∀ v, exact = some v → v.IsAtomic := by
  have int (n : Option Int64) : ∀ v, n.map Value.int = some v → v.IsAtomic := by
    intro v hv
    obtain ⟨n, -, rfl⟩ := Option.map_eq_some_iff.mp hv
    exact .int n
  unfold BinaryOp.onInts
  split
  · exact .ok (int _)
  · exact .ok (int _)
  · split
    · exact .error _
    · split
      · exact .ok fun v hv => Option.some.inj hv ▸ .int _
      · exact .ok fun v hv => Option.some.inj hv ▸ .float _
  · split
    · exact .error _
    · exact .ok (int _)

theorem isAtomic_arith (op : BinaryOp) (l r : Value) : Gives (op.arith l r) Value.IsAtomic := by
  -- Only two integers may have an exact result; both kinds of operands go on from it in the same way.
  let Atomic (exact : Option Value) : Prop := ∀ v, exact = some v → v.IsAtomic
  unfold BinaryOp.arith
  dsimp only
  split
  on_goal 1 => refine Gives.bind (isAtomic_onInts op _ _) fun exact (hexact : Atomic exact) => ?_
  on_goal 2 => refine Gives.bind (.ok nofun) fun exact (hexact : Atomic exact) => ?_
  all_goals
    split
    · next v => exact .ok (hexact v rfl)
    · split
      · split
        · exact .error _
        · exact .ok (.float _)
      · exact .error _

theorem isAtomic_compare (op : BinaryOp) (l r : Value) : Gives (op.compare l r) Value.IsAtomic := by
  unfold BinaryOp.compare
  split
  · exact .ok (.bool _)
  · split
    · split
      · exact .ok (.bool _)
      · exact .error _
    · exact .error _

/-- Every operator but `+` gives an atomic value. -/
theorem isAtomic_apply {op : BinaryOp} (h : op ≠ .add) (l r : Value) : Gives (op.apply l r) Value.IsAtomic := by
  cases op with
  | add => exact absurd rfl h
  | eq | ne => exact .ok (.bool _)
  | lt | le | gt | ge => exact isAtomic_compare _ l r
  | sub | mul | div | rem => exact isAtomic_arith _ l r

theorem isAtomic_negate (v : Value) : Gives (negate v) Value.IsAtomic := by
  cases v with
  | int n =>
    unfold negate
    dsimp only
    split
    · exact .ok (.int _)
    · exact .error _
  | float x => exact .ok (.float _)
  | null => exact .ok .null
  | bool b => exact .error _
  | str s => exact .error _
  | list items => exact .error _

/-! ### Functions -/

namespace Builtin

open Value

theorem isAtomic_toNumber (v : Value) : (toNumber v).IsAtomic := by
  unfold toNumber
  split
  · exact .int _
  · exact isAtomic_ofFloat _
  · exact .int _
  · cases (Number.finite? _) with
    | none => exact .null
    | some x => exact isAtomic_ofFloat x
  · exact .null

theorem isAtomic_toInteger (v : Value) : (toInteger v).IsAtomic := by
  unfold toInteger
  split
  · exact .int _
  · split
    · exact .int _
    · exact .null
  · exact .int _
  · cases (Number.finite? _) with
    | none => exact .null
    | some x => exact .int _
  · exact .null

/-- What is chosen is one of the numbers, if there is one. -/
theorem isAtomic_extreme (function : String) (better : Float → Float → Bool) (values : List Value) {best : Option Value}
    (hbest : ∀ v, best = some v → v.IsAtomic) : Gives (extreme function better best values) Value.IsAtomic := by
  induction values generalizing best with
  | nil =>
    refine .ok ?_
    cases best with
    | none => exact .null
    | some v => exact hbest v rfl
  | cons v rest ih =>
    rw [extreme]
    split
    · exact ih hbest
    · have hnumber : Gives (wantNumber function v) fun _ => v.IsAtomic := by
        unfold wantNumber
        split
        · next h => exact .ok (isAtomic_of_number? h)
        · exact .error _
      refine hnumber.bind fun x hv => ih fun u hu => ?_
      obtain ⟨-, hu⟩ | ⟨-, hu⟩ := ite_eq_iff.mp hu
      · exact Option.some.inj hu ▸ hv
      · exact hbest u hu

end Builtin

end SampleRecorder.Script
