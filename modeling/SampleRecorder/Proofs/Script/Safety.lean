import Mathlib
import SampleRecorder.Proofs.Script.Growth
import SampleRecorder.Proofs.Script.Validity

/-!
# Compiled programs do not trap

A compiled program calls each function with as many arguments as the function takes, so no function misses one.  Every
place that is computed from an index stands within its row, and every operation on words is tested before it is carried
out.  A machine therefore computes what the language says, expression by expression and statement by statement, unless it
meets a size that a word cannot hold (`Follows`), and no run of a compiled program ends in a trap
(`Program.onMachine_of_compile`).  The values of a run are slender on the way, which tells where such sizes come from.
-/

namespace SampleRecorder.Script

variable {α β : Type} {line : String}

/-! ### Missing arguments -/

/-- Whether a failure is that of a missing argument. -/
def Failure.isMissing : Failure → Bool
  | missingArgument => true
  | _ => false

/-- Whether a computation does not miss an argument. -/
def IsComplete (x : Except Halt α) : Prop :=
  x ≠ .error (.failed .missingArgument)

namespace IsComplete

theorem ok (a : α) : IsComplete (.ok a : Except Halt α) := by
  rintro ⟨⟩

theorem reject : IsComplete (.error .reject : Except Halt α) := by
  rintro ⟨⟩

theorem failWith {f : Failure} (h : f.isMissing = false) : IsComplete (failWith f : Except Halt α) := by
  rintro ⟨⟩
  cases h

theorem bind {x : Except Halt α} {f : α → Except Halt β} (hx : IsComplete x) (hf : ∀ a, x = .ok a → IsComplete (f a)) :
    IsComplete (x >>= f) := by
  cases x with
  | error halt => exact fun heq => hx (by cases heq; rfl)
  | ok a => exact hf a rfl

end IsComplete

theorem isComplete_wantString (function : String) (v : Value) : IsComplete (wantString function v) := by
  cases v with
  | str s => exact .ok s
  | _ => exact .failWith rfl

theorem isComplete_wantInteger (function : String) (v : Value) : IsComplete (wantInteger function v) := by
  cases v with
  | int n => exact .ok n
  | float x =>
    simp only [wantInteger]
    split
    · exact .ok _
    · exact .failWith rfl
  | _ => exact .failWith rfl

theorem isComplete_wantNumber (function : String) (v : Value) : IsComplete (wantNumber function v) := by
  unfold wantNumber
  split
  · exact .ok _
  · exact .failWith rfl

theorem isComplete_limited (s : String) : IsComplete (limited s) := by
  unfold limited
  split
  · exact .failWith rfl
  · exact .ok _

theorem isComplete_extreme (function : String) (better : Float → Float → Bool) (best : Option Value)
    (values : List Value) : IsComplete (Builtin.extreme function better best values) := by
  induction values generalizing best with
  | nil => exact .ok _
  | cons v rest ih =>
    unfold Builtin.extreme
    split
    · exact ih best
    · exact (isComplete_wantNumber function v).bind fun x _ => ih _

theorem isComplete_replaced (s old new : String) : IsComplete (Builtin.replaced s old new) := by
  unfold Builtin.replaced
  split
  · exact .ok _
  · dsimp only
    split
    · exact .failWith rfl
    · exact isComplete_limited _

theorem accepts_iff {least n : Nat} {most : Option Nat} :
    Arity.accepts ⟨least, most⟩ n = true ↔ least ≤ n ∧ ∀ m, most = some m → n ≤ m := by
  cases most <;> simp [Arity.accepts]

theorem eq_singleton_of_accepts {values : List α} (h : Arity.accepts ⟨1, some 1⟩ values.length = true) :
    ∃ a, values = [a] := by
  obtain ⟨hleast, hmost⟩ := accepts_iff.mp h
  exact List.length_eq_one_iff.mp (Nat.le_antisymm (hmost 1 rfl) hleast)

theorem eq_pair_of_accepts {values : List α} (h : Arity.accepts ⟨2, some 2⟩ values.length = true) :
    ∃ a b, values = [a, b] := by
  obtain ⟨hleast, hmost⟩ := accepts_iff.mp h
  exact List.length_eq_two.mp (Nat.le_antisymm (hmost 2 rfl) hleast)

theorem eq_triple_of_accepts {values : List α} (h : Arity.accepts ⟨3, some 3⟩ values.length = true) :
    ∃ a b c, values = [a, b, c] := by
  obtain ⟨hleast, hmost⟩ := accepts_iff.mp h
  exact List.length_eq_three.mp (Nat.le_antisymm (hmost 3 rfl) hleast)

/-- The last argument of `substr` may be missing. -/
theorem eq_pair_or_triple_of_accepts {values : List α} (h : Arity.accepts ⟨2, some 3⟩ values.length = true) :
    (∃ a b, values = [a, b]) ∨ ∃ a b c, values = [a, b, c] := by
  obtain ⟨hleast, hmost⟩ := accepts_iff.mp h
  rcases Nat.eq_or_lt_of_le hleast with htwo | hthree
  · exact .inl (List.length_eq_two.mp htwo.symm)
  · exact .inr (List.length_eq_three.mp (Nat.le_antisymm (hmost 3 rfl) hthree))

/-- The last argument of `round` may be missing. -/
theorem eq_singleton_or_pair_of_accepts {values : List α} (h : Arity.accepts ⟨1, some 2⟩ values.length = true) :
    (∃ a, values = [a]) ∨ ∃ a b, values = [a, b] := by
  obtain ⟨hleast, hmost⟩ := accepts_iff.mp h
  rcases Nat.eq_or_lt_of_le hleast with hone | htwo
  · exact .inl (List.length_eq_one_iff.mp hone.symm)
  · exact .inr (List.length_eq_two.mp (Nat.le_antisymm (hmost 2 rfl) htwo))

theorem isComplete_two {f : String → String → Value} (function : String) (a b : Value) :
    IsComplete (do
      let a ← wantString function a
      let b ← wantString function b
      .ok (f a b)) :=
  (isComplete_wantString function a).bind fun _ _ => (isComplete_wantString function b).bind fun _ _ => .ok _

/-- A function that gets as many values as it takes does not miss one. -/
theorem isComplete_compute {f : Builtin} {values : List Value} (h : f.arity.accepts values.length = true)
    (hc : f ≠ .cond) (hf : f ≠ .coalesce) : IsComplete (f.compute values) := by
  cases f with
  | split | startsWith | endsWith =>
    obtain ⟨s, p, rfl⟩ := eq_pair_of_accepts h
    exact isComplete_two _ s p
  | join =>
    obtain ⟨list, separator, rfl⟩ := eq_pair_of_accepts h
    cases list with
    | list items => exact (isComplete_wantString "join" separator).bind fun _ _ => isComplete_limited _
    | _ => exact .failWith rfl
  | contains =>
    obtain ⟨v, item, rfl⟩ := eq_pair_of_accepts h
    cases v with
    | list items => exact .ok _
    | _ => exact isComplete_two "contains" _ item
  | trim | upper | lower =>
    obtain ⟨v, rfl⟩ := eq_singleton_of_accepts h
    exact (isComplete_wantString _ v).bind fun _ _ => .ok _
  | num | int | bool =>
    obtain ⟨v, rfl⟩ := eq_singleton_of_accepts h
    exact .ok _
  | len =>
    obtain ⟨v, rfl⟩ := eq_singleton_of_accepts h
    cases v with
    | str s => exact .ok _
    | list items => exact .ok _
    | _ => exact .failWith rfl
  | str =>
    obtain ⟨v, rfl⟩ := eq_singleton_of_accepts h
    cases v with
    | null => exact .ok _
    | _ => exact isComplete_limited _
  | abs =>
    obtain ⟨v, rfl⟩ := eq_singleton_of_accepts h
    cases v with
    | int n =>
      simp only [Builtin.compute]
      split
      · exact .ok _
      · exact .failWith rfl
    | _ => exact (isComplete_wantNumber "abs" _).bind fun _ _ => .ok _
  | require =>
    obtain ⟨v, rfl⟩ := eq_singleton_of_accepts h
    simp only [Builtin.compute]
    split
    · exact .ok _
    · exact .reject
  | substr =>
    rcases eq_pair_or_triple_of_accepts h with ⟨s, start, rfl⟩ | ⟨s, start, count, rfl⟩
    · exact (isComplete_wantString "substr" s).bind fun _ _ => (isComplete_wantInteger "substr" start).bind fun _ _ =>
        .ok _
    · exact (isComplete_wantString "substr" s).bind fun _ _ => (isComplete_wantInteger "substr" start).bind fun _ _ =>
        (isComplete_wantInteger "substr" count).bind fun _ _ => .ok _
  | replace =>
    obtain ⟨s, old, new, rfl⟩ := eq_triple_of_accepts h
    exact (isComplete_wantString "replace" s).bind fun _ _ => (isComplete_wantString "replace" old).bind fun _ _ =>
      (isComplete_wantString "replace" new).bind fun _ _ => isComplete_replaced _ _ _
  | round =>
    rcases eq_singleton_or_pair_of_accepts h with ⟨v, rfl⟩ | ⟨v, digits, rfl⟩
    · exact (isComplete_wantNumber "round" v).bind fun _ _ => .ok _
    · exact (isComplete_wantNumber "round" v).bind fun _ _ => (isComplete_wantInteger "round" digits).bind fun _ _ =>
        .ok _
  | min | max => exact isComplete_extreme _ _ _ _
  | cond => exact absurd rfl hc
  | coalesce => exact absurd rfl hf

/-! ### Following the language -/

/-- Whether a machine computes what the language says, and without missing an argument, unless it has met a size that
excuses it on this line. -/
structure Follows (line : String) (y : Machine α) (x : Except Halt α) : Prop where
  complete : IsComplete x
  same : y = .ofExcept x ∨ ∃ stop : Stop, stop.IsExcused line ∧ y = .error stop

namespace Follows

theorem refl {x : Except Halt α} (h : IsComplete x) : Follows line (Machine.ofExcept x) x :=
  ⟨h, .inl rfl⟩

theorem ok (a : α) : Follows line (.ok a) (.ok a) :=
  refl (.ok a)

theorem failWith {f : Failure} (h : f.isMissing = false) :
    Follows line (Machine.failWith f : Machine α) (failWith f) :=
  refl (.failWith h)

theorem excused {x : Except Halt α} (h : IsComplete x) {stop : Stop} (hstop : stop.IsExcused line) :
    Follows line (.error stop) x :=
  ⟨h, .inr ⟨stop, hstop, rfl⟩⟩

theorem bind {y : Machine α} {x : Except Halt α} {g : α → Machine β} {f : α → Except Halt β} (h : Follows line y x)
    (hf : ∀ a, x = .ok a → Follows line (g a) (f a)) : Follows line (y >>= g) (x >>= f) := by
  refine ⟨h.complete.bind fun a ha => (hf a ha).complete, ?_⟩
  rcases h.same with hy | ⟨stop, hstop, hy⟩
  · rw [hy]
    cases x with
    | error halt => exact .inl rfl
    | ok a => exact (hf a rfl).same
  · exact .inr ⟨stop, hstop, by rw [hy, Machine.error_bind]⟩

end Follows

/-! ### Operators -/

theorem follows_negate (v : Value) : Follows line (Machine.negate v) (negate v) := by
  cases v with
  | int n =>
    rw [Machine.negate, Machine.tested_neg, Machine.ok_bind, negate]
    cases int64? (-n.toInt) with
    | some m => exact .ok _
    | none => exact .failWith rfl
  | float x => exact .ok _
  | null => exact .ok _
  | _ => exact .refl (.failWith rfl)

theorem isComplete_sum (l r : Value) : IsComplete (BinaryOp.sum l r) := by
  unfold BinaryOp.sum
  split
  · split
    · exact .ok _
    · exact .ok _
  · exact .ok _
  · exact isComplete_limited _
  · exact isComplete_limited _
  · split
    · exact .ok _
    · exact .failWith rfl

theorem follows_sum (l r : Value) : Follows line (Machine.sum l r) (BinaryOp.sum l r) := by
  unfold Machine.sum
  split
  · next a b =>
    rw [Machine.tested_add, Machine.ok_bind, BinaryOp.sum]
    cases int64? (a.toInt + b.toInt) with
    | some n => exact .ok _
    | none => exact .ok _
  · exact .refl (isComplete_sum l r)

/-- A quotient is exact if there is no remainder, and if a word can hold it. -/
theorem follows_quotient (a b : Int64) : Follows line (Machine.onInts .div a b) (BinaryOp.onInts .div a b) := by
  rw [Machine.onInts, BinaryOp.onInts]
  by_cases hb : b = 0
  · rw [if_pos hb, if_pos hb]
    exact .failWith rfl
  · rw [if_neg hb, if_neg hb, Machine.testedRem_eq a hb, Machine.ok_bind, Machine.testedDiv_eq a hb, Machine.ok_bind]
    have hzero : a % b = 0 ↔ a.toInt.tmod b.toInt = 0 := by
      rw [← Int64.toInt_inj, Int64.toInt_mod, Int64.toInt_zero]
    rw [Machine.int64?_eq]
    cases hfits : Machine.fits (a.toInt.tdiv b.toInt) with
    | false =>
      -- neither quotient is computed on words
      simp only [Bool.false_eq_true, if_false, ite_self, reduceCtorEq]
      exact .ok _
    | true =>
      by_cases hmod : a.toInt.tmod b.toInt = 0
      · simp only [hzero.mpr hmod, hmod, if_true, Option.map_some]
        exact .ok _
      · have hrest : ¬ some (a % b) = some 0 := fun heq => hmod (hzero.mp (Option.some.inj heq))
        simp only [if_true, if_neg hrest, if_neg hmod]
        exact .ok _

theorem follows_remainder (a b : Int64) : Follows line (Machine.onInts .rem a b) (BinaryOp.onInts .rem a b) := by
  simp only [Machine.onInts, BinaryOp.onInts]
  by_cases hb : b = 0
  · rw [if_pos hb, if_pos hb]
    exact .failWith rfl
  · rw [if_neg hb, if_neg hb, Machine.wrappingRem_eq a hb, Machine.ok_bind, ← Int64.toInt_mod, Machine.int64?_toInt]
    exact .ok _

theorem follows_onInts (op : BinaryOp) (a b : Int64) : Follows line (Machine.onInts op a b) (op.onInts a b) := by
  cases op with
  | sub =>
    simp only [Machine.onInts, BinaryOp.onInts, Machine.tested_sub, Machine.ok_bind]
    exact .ok _
  | mul =>
    simp only [Machine.onInts, BinaryOp.onInts, Machine.tested_mul, Machine.ok_bind]
    exact .ok _
  | div => exact follows_quotient a b
  | _ => exact follows_remainder a b

theorem follows_arith (op : BinaryOp) (l r : Value) : Follows line (Machine.arith op l r) (op.arith l r) := by
  unfold Machine.arith BinaryOp.arith
  extract_lets rest rest'
  have hrest (exact : Option Value) : Follows line (rest exact) (rest' exact) := by
    cases exact with
    | some v => exact .ok v
    | none =>
      simp only [rest, rest']
      cases l.number? with
      | none => exact .failWith rfl
      | some x =>
        cases r.number? with
        | none => exact .failWith rfl
        | some y =>
          dsimp only
          split
          · exact .failWith rfl
          · exact .ok _
  -- from here on only `hrest` matters
  clear_value rest rest'
  cases l with
  | int a =>
    cases r with
    | int b => exact (follows_onInts op a b).bind fun exact _ => hrest exact
    | _ => exact hrest none
  | _ => exact hrest none

theorem isComplete_compare (op : BinaryOp) (l r : Value) : IsComplete (op.compare l r) := by
  unfold BinaryOp.compare
  split
  · exact .ok _
  · split
    · split
      · exact .ok _
      · exact .failWith rfl
    · exact .failWith rfl

theorem follows_binary (op : BinaryOp) (l r : Value) : Follows line (Machine.binary op l r) (op.apply l r) := by
  cases op with
  | add => exact follows_sum l r
  | sub | mul | div | rem => exact follows_arith _ l r
  | eq | ne => exact .ok _
  | lt | le | gt | ge => exact .refl (isComplete_compare _ l r)

/-! ### Places -/

theorem follows_part {s : String} (hs : (Value.str s).IsSlender (lineBreadth line)) (start : Int64)
    (count : Option Int64) :
    Follows line (Machine.part s.toList start count)
      (.ok (Builtin.part s.toList start.toInt (count.map Int64.toInt))) := by
  rcases Machine.part_cases s.toList start count with ⟨hlength, hrun⟩ | hrun
  · rw [hrun]
    exact .excused (.ok _) (isExcused_length hs hlength)
  · rw [hrun]
    exact .ok _

/-- A place that an index means is never beyond the end, so what stands there can be taken. -/
theorem follows_itemOf {stop : Nat → Stop} {row : List α}
    (hstop : Machine.sizeLimit ≤ row.length → (stop row.length).IsExcused line) (index : Int64) (value : α → Value) :
    Follows line (Machine.itemOf stop row index value)
      (.ok ((((place? index.toInt row.length).bind (row[·]?)).map value).getD .null)) := by
  rw [Machine.itemOf]
  rcases Machine.place?_cases stop index row.length with ⟨hlength, hrun⟩ | hrun
  · rw [hrun, Machine.error_bind]
    exact .excused (.ok _) (hstop hlength)
  · rw [hrun, Machine.ok_bind]
    cases hplace : place? index.toInt row.length with
    | none => exact .ok _
    | some i =>
      have hi : i < row.length := Machine.lt_of_place? hplace
      simp only [Machine.take_of_lt hi, Machine.ok_bind, Option.bind_some, List.getElem?_eq_getElem hi,
        Option.map_some, Option.getD_some]
      exact .ok _

theorem follows_itemAt {target : Value} (ht : target.IsSlender (lineBreadth line)) (index : Int64) :
    Follows line (Machine.itemAt target index) (itemAt target index.toInt) := by
  cases target with
  | list items =>
    have h : Follows line (Machine.itemOf (fun n => .list n n) items index id) _ := follows_itemOf isExcused_items index id
    rwa [Option.map_id_fun, id] at h
  | str s => exact follows_itemOf (isExcused_length ht) index _
  | null => exact .ok _
  | _ => exact .refl (.failWith rfl)

/-! ### Functions -/

theorem follows_absolute (v : Value) : Follows line (Machine.absolute v) (Builtin.abs.compute [v]) := by
  have hcomplete : IsComplete (Builtin.abs.compute [v]) := isComplete_compute rfl (by decide) (by decide)
  cases v with
  | int n =>
    rw [Machine.absolute, Machine.tested_abs, Machine.ok_bind, Builtin.compute]
    cases int64? n.toInt.natAbs with
    | some m => exact .ok _
    | none => exact .failWith rfl
  | _ => exact .refl hcomplete

theorem follows_substring {s : Value} (hs : s.IsSlender (lineBreadth line)) (start : Value) (count : Option Value) :
    Follows line (Machine.substring s start count) (Builtin.substr.compute (s :: start :: count.toList)) := by
  rw [Machine.substring, Builtin.compute]
  refine Follows.bind (.refl (isComplete_wantString "substr" s)) fun text htext => ?_
  have hslender := Kept.gives_wantString hs "substr" text htext
  refine Follows.bind (.refl (isComplete_wantInteger "substr" start)) fun start _ => ?_
  cases count with
  | none => exact (follows_part hslender start none).bind fun _ _ => .ok _
  | some count =>
    refine Follows.bind (.refl (isComplete_wantInteger "substr" count)) fun n _ => ?_
    exact (follows_part hslender start (some n)).bind fun _ _ => .ok _

theorem follows_replaced {s old new : Value} (hs : s.IsSlender (lineBreadth line))
    (hnew : new.IsSlender (lineBreadth line)) :
    Follows line (Machine.replaced s old new) (Builtin.replace.compute [s, old, new]) := by
  rw [Machine.replaced, Builtin.compute]
  refine Follows.bind (.refl (isComplete_wantString "replace" s)) fun s' hs' => ?_
  refine Follows.bind (.refl (isComplete_wantString "replace" old)) fun old' _ => ?_
  refine Follows.bind (.refl (isComplete_wantString "replace" new)) fun new' hnew' => ?_
  dsimp only
  split
  · exact .refl (isComplete_replaced s' old' new')
  · next hsize =>
    obtain ⟨hold, hsize⟩ := not_or.mp hsize
    refine .excused (isComplete_replaced s' old' new') (isExcused_replaced ?_ ?_ hold (Nat.le_of_not_lt hsize))
    · exact Kept.gives_wantString hs "replace" s' hs'
    · exact Kept.gives_wantString hnew "replace" new' hnew'

theorem follows_joined {list separator : Value} (hlist : list.IsSlender (lineBreadth line))
    (hseparator : separator.IsSlender (lineBreadth line)) :
    Follows line (Machine.joined list separator) (Builtin.join.compute [list, separator]) := by
  cases list with
  | list items =>
    rw [Machine.joined, Builtin.compute]
    refine Follows.bind (.refl (isComplete_wantString "join" separator)) fun text htext => ?_
    dsimp only
    split
    · exact .refl (isComplete_limited _)
    · next hsize =>
      have hslender := Kept.gives_wantString hseparator "join" text htext
      exact .excused (isComplete_limited _) (isExcused_joined hlist hslender (Nat.le_of_not_lt hsize))
  | _ => exact .failWith rfl

/-- Functions take arguments that are there. -/
theorem follows_compute {f : Builtin} {values : List Value} (h : f.arity.accepts values.length = true)
    (hvalues : ∀ v ∈ values, v.IsSlender (lineBreadth line)) (hc : f ≠ .cond) (hf : f ≠ .coalesce) :
    Follows line (Machine.compute f values) (f.compute values) := by
  have hcomplete : IsComplete (f.compute values) := isComplete_compute h hc hf
  cases f with
  | split | contains | startsWith | endsWith =>
    obtain ⟨a, b, rfl⟩ := eq_pair_of_accepts h
    exact .refl hcomplete
  | join =>
    obtain ⟨list, separator, rfl⟩ := eq_pair_of_accepts h
    exact follows_joined (hvalues list (by simp)) (hvalues separator (by simp))
  | trim | upper | lower | len | num | int | str | bool | require =>
    obtain ⟨a, rfl⟩ := eq_singleton_of_accepts h
    exact .refl hcomplete
  | substr =>
    rcases eq_pair_or_triple_of_accepts h with ⟨s, start, rfl⟩ | ⟨s, start, count, rfl⟩
    · exact follows_substring (hvalues s (by simp)) start none
    · exact follows_substring (hvalues s (by simp)) start (some count)
  | replace =>
    obtain ⟨s, old, new, rfl⟩ := eq_triple_of_accepts h
    exact follows_replaced (hvalues s (by simp)) (hvalues new (by simp))
  | round =>
    rcases eq_singleton_or_pair_of_accepts h with ⟨x, rfl⟩ | ⟨x, digits, rfl⟩
    · exact .refl hcomplete
    · exact .refl hcomplete
  | abs =>
    obtain ⟨v, rfl⟩ := eq_singleton_of_accepts h
    exact follows_absolute v
  | min | max => exact .refl hcomplete
  | cond => exact absurd rfl hc
  | coalesce => exact absurd rfl hf

/-! ### Expressions -/

theorem isComplete_searchInput (input : Value) : IsComplete (searchInput input) := by
  cases input with
  | null => exact .ok _
  | str s => exact .ok _
  | _ => exact .failWith rfl

theorem gives_evalAll_length (env : Env) (arguments : List Expr) :
    Gives (evalAll env arguments) fun values => values.length = arguments.length := by
  induction arguments with
  | nil => exact .ok rfl
  | cons e rest ih => exact .bind_any fun v => ih.bind fun vs hvs => .ok (congrArg (· + 1) hvs)

theorem Expr.onMachine_call {f : Builtin} (hc : f ≠ .cond) (hf : f ≠ .coalesce) (env : Env) (arguments : List Expr) :
    (Expr.call f arguments).onMachine env = (do
      let values ← allOnMachine env arguments
      if f.passesNull && values.head?.any Value.isNull then .ok .null else Machine.compute f values) := by
  rw [Expr.onMachine]
  · exact hc
  · exact hf

variable {names : List String} {env : Env}

mutual

/-- A machine follows the language on every valid expression. -/
theorem Expr.follows (henv : env.Meets (Value.IsSlender (lineBreadth line))) (e : Expr) (h : e.IsValid names)
    (ht : e.TextsWithin sourceLimit) :
    Follows line (e.onMachine env) (e.eval env) := by
  match e with
  | .literal v => exact .ok v
  | .var name => exact .ok _
  | .index target position =>
    rw [Expr.onMachine, Expr.eval]
    refine (target.follows henv h.1 ht.1).bind fun v hv => ?_
    refine (position.follows henv h.2 ht.2).bind fun position _ => ?_
    refine Follows.bind (.refl (isComplete_wantInteger "index" position)) fun i _ => ?_
    exact follows_itemAt ((kept_line line).gives_eval (n := 0) henv target ht.1 v hv) i
  | .neg operand =>
    rw [Expr.onMachine, Expr.eval]
    exact (operand.follows henv h ht).bind fun v _ => follows_negate v
  | .not operand =>
    rw [Expr.onMachine, Expr.eval]
    exact (operand.follows henv h ht).bind fun v _ => .ok _
  | .binary op left right =>
    rw [Expr.onMachine, Expr.eval]
    refine (left.follows henv h.1 ht.1).bind fun l _ => ?_
    exact (right.follows henv h.2 ht.2).bind fun r _ => follows_binary op l r
  | .and left right =>
    rw [Expr.onMachine, Expr.eval]
    refine (left.follows henv h.1 ht.1).bind fun l _ => ?_
    split
    · exact (right.follows henv h.2 ht.2).bind fun r _ => .ok _
    · exact .ok _
  | .or left right =>
    rw [Expr.onMachine, Expr.eval]
    refine (left.follows henv h.1 ht.1).bind fun l _ => ?_
    split
    · exact .ok _
    · exact (right.follows henv h.2 ht.2).bind fun r _ => .ok _
  | .call f arguments =>
    by_cases hc : f = .cond
    · subst hc
      rw [Expr.onMachine, Expr.eval]
      exact follows_evalCond henv arguments h.1 h.2 ht
    · by_cases hf : f = .coalesce
      · subst hf
        rw [Expr.onMachine, Expr.eval]
        exact follows_evalFirst henv arguments h.2 ht
      · rw [Expr.onMachine_call hc hf, Expr.eval_call hc hf]
        refine (follows_evalAll henv arguments h.2 ht).bind fun values hvalues => ?_
        rw [Builtin.apply]
        split
        · exact .ok _
        · refine follows_compute ?_ ((kept_line line).gives_evalAll (n := 0) henv arguments ht values hvalues) hc hf
          rw [gives_evalAll_length env arguments values hvalues]
          exact h.1
  | .search input regex =>
    rw [Expr.onMachine, Expr.eval]
    refine (input.follows henv h.1 ht).bind fun input _ => ?_
    refine Follows.bind (.refl (isComplete_searchInput input)) fun text _ => ?_
    cases text <;> exact .ok _
  | .searchGroup input regex group =>
    rw [Expr.onMachine, Expr.eval]
    refine (input.follows henv h.1 ht.1).bind fun input _ => ?_
    refine Follows.bind (.refl (isComplete_searchInput input)) fun text _ => ?_
    cases text with
    | none => exact .ok _
    | some text =>
      refine (group.follows henv h.2.2 ht.2).bind fun group _ => ?_
      exact Follows.bind (.refl (isComplete_wantInteger "match" group)) fun n _ => .ok _

theorem follows_evalAll (henv : env.Meets (Value.IsSlender (lineBreadth line))) (arguments : List Expr)
    (h : AreValid names arguments) (ht : ArgumentTextsWithin sourceLimit arguments) :
    Follows line (allOnMachine env arguments) (evalAll env arguments) := by
  match arguments with
  | [] => exact .ok []
  | e :: rest =>
    rw [allOnMachine, evalAll]
    refine (e.follows henv h.1 ht.1).bind fun v _ => ?_
    exact (follows_evalAll henv rest h.2 ht.2).bind fun vs _ => .ok _

theorem follows_evalFirst (henv : env.Meets (Value.IsSlender (lineBreadth line))) (arguments : List Expr)
    (h : AreValid names arguments) (ht : ArgumentTextsWithin sourceLimit arguments) :
    Follows line (firstOnMachine env arguments) (evalFirst env arguments) := by
  match arguments with
  | [] => exact .ok _
  | e :: rest =>
    rw [firstOnMachine, evalFirst]
    refine (e.follows henv h.1 ht.1).bind fun v _ => ?_
    split
    · exact follows_evalFirst henv rest h.2 ht.2
    · exact .ok v

theorem follows_evalCond (henv : env.Meets (Value.IsSlender (lineBreadth line))) (arguments : List Expr)
    (hlength : Arity.accepts ⟨3, some 3⟩ arguments.length = true) (h : AreValid names arguments)
    (ht : ArgumentTextsWithin sourceLimit arguments) :
    Follows line (do
        let v ← argumentOnMachine env arguments 0
        if v.truthy then argumentOnMachine env arguments 1 else argumentOnMachine env arguments 2)
      (evalCond env arguments) := by
  match arguments with
  | [condition, yes, no] =>
    rw [evalCond]
    refine (condition.follows henv h.1 ht.1).bind fun v _ => ?_
    split
    · exact yes.follows henv h.2.1 ht.2.1
    · exact no.follows henv h.2.2.1 ht.2.2.1
  | [] => cases hlength
  | [_] => cases hlength
  | [_, _] => cases hlength
  | _ :: _ :: _ :: _ :: rest =>
    have hmost := (accepts_iff.mp hlength).2 3 rfl
    simp only [List.length_cons] at hmost
    omega

end

/-! ### Runs -/

theorem Stmt.follows {s : Stmt} (h : s.IsValid names) (ht : s.TextsWithin sourceLimit) {st : State}
    (hst : st.env.Meets (Value.IsSlender (lineBreadth line))) : Follows line (s.onMachine st) (s.run st) := by
  cases s with
  | bind name value => exact (value.follows hst h.2 ht).bind fun v _ => .ok _
  | assign name value => exact (value.follows hst h.2 ht).bind fun v _ => .ok _
  | reject => exact .refl .reject
  | eval value => exact (value.follows hst h ht).bind fun v _ => .ok _

/-- What a statement binds is slender. -/
theorem gives_run_isSlender {s : Stmt} (ht : s.TextsWithin sourceLimit) {st : State}
    (hst : st.env.Meets (Value.IsSlender (lineBreadth line))) :
    Gives (s.run st) fun st' => st'.env.Meets (Value.IsSlender (lineBreadth line)) := by
  cases s with
  | bind name value =>
    exact ((kept_line line).gives_eval (n := 0) hst value ht).bind fun v hv => .ok (hst.bind hv name)
  | assign name value =>
    exact ((kept_line line).gives_eval (n := 0) hst value ht).bind fun v hv => .ok (hst.bind hv name)
  | reject => exact .error _
  | eval value => exact .bind_any fun _ => .ok hst

theorem follows_runAll {list : List Stmt} (h : StatementsValid names list)
    (ht : ∀ stmt ∈ list, stmt.TextsWithin sourceLimit) {st : State}
    (hst : st.env.Meets (Value.IsSlender (lineBreadth line))) :
    Follows line (runOnMachine st list) (runAll st list) := by
  induction list generalizing names st with
  | nil => exact .ok st
  | cons s rest ih =>
    obtain ⟨hs, hrest⟩ := List.forall_mem_cons.mp ht
    exact (Stmt.follows h.1 hs hst).bind fun st' hrun => ih h.2 hrest (gives_run_isSlender hs hst st' hrun)

theorem evaluate_ne_missing {p : Program} {line : String}
    (h : IsComplete (runAll ⟨⟨line, []⟩, .empty⟩ p.statements)) : p.evaluate line ≠ .failed .missingArgument := by
  unfold Program.evaluate
  split
  · rintro ⟨⟩
  · rintro ⟨⟩
  · next f heq =>
    rintro ⟨⟩
    exact h heq

/-- A compiled program never traps, neither on an argument nor on a place nor in a computation on words: a machine ends
with what the program says of the line, unless it has met a size that a word cannot hold, and no function has missed
an argument.  No text has such a size on a line of up to 16 megabytes, nor what `replace` makes of it; a list may have it,
or what `join` makes of a list, but only one with four billion items. -/
theorem Program.onMachine_of_compile {source : String} {p : Program} (h : compile source = .ok p) (line : String) :
    (∀ trap, p.onMachine line ≠ .error (.trap trap)) ∧
    (p.onMachine line = .ok (p.evaluate line) ∨
      (∃ size, Machine.sizeLimit ≤ size ∧ 16777216 < line.utf8ByteSize ∧ p.onMachine line = .error (.text size)) ∨
      ∃ length size, Machine.sizeLimit ≤ size ∧ (line.utf8ByteSize ≤ 16777216 → 4294967296 ≤ length) ∧
        p.onMachine line = .error (.list length size)) ∧
    p.evaluate line ≠ .failed .missingArgument := by
  have hvalid : StatementsValid [] p.statements := isValid_of_compile h
  have hstart : Env.Meets (Value.IsSlender (lineBreadth line)) ⟨line, []⟩ :=
    ⟨isSlender_line line, fun _ hentry => absurd hentry List.not_mem_nil⟩
  have hrun : Follows line (runOnMachine ⟨⟨line, []⟩, .empty⟩ p.statements) (runAll ⟨⟨line, []⟩, .empty⟩ p.statements) :=
    follows_runAll hvalid (texts_of_compile h) hstart
  have hsame : p.onMachine line = .ok (p.evaluate line) ∨
      ∃ stop : Stop, stop.IsExcused line ∧ p.onMachine line = .error stop := by
    rcases hrun.same with heq | ⟨stop, hstop, heq⟩
    · refine .inl ?_
      rw [Program.onMachine, Program.evaluate, heq]
      rcases runAll ⟨⟨line, []⟩, .empty⟩ p.statements with (_ | f) | st <;> rfl
    · refine .inr ⟨stop, hstop, ?_⟩
      rw [Program.onMachine, heq]
      cases stop with
      | halt _ | trap _ => cases hstop
      | text _ | list _ _ => rfl
  refine ⟨fun trap htrap => ?_, ?_, evaluate_ne_missing hrun.complete⟩
  · rcases hsame with heq | ⟨stop, hstop, heq⟩
    · rw [heq] at htrap
      cases htrap
    · rw [heq] at htrap
      cases htrap
      exact hstop
  · rcases hsame with heq | ⟨stop, hstop, heq⟩
    · exact .inl heq
    · cases stop with
      | halt _ | trap _ => cases hstop
      | text size => exact .inr (.inl ⟨size, hstop.1, hstop.2, heq⟩)
      | list length size => exact .inr (.inr ⟨length, size, hstop.1, hstop.2, heq⟩)

/-- The least integer is divided by minus one, and taken as an index, on a line that no text of the run outgrows. -/
theorem Program.onMachine_of_compile_least :
    let least : Expr := .binary .sub (.neg (.literal (.int 9223372036854775807))) (.literal (.int 1))
    let p : Program := ⟨[.bind "m" least, .assign "q" (.binary .div (.var "m") (.neg (.literal (.int 1)))),
      .assign "c" (.index (.var "line") (.var "m"))]⟩
    compile "let m = -9223372036854775807 - 1; q = m / -1; c = line[m]" = .ok p ∧
      (∀ trap, p.onMachine "abc" ≠ .error (.trap trap)) ∧
      (p.onMachine "abc" = .ok (p.evaluate "abc") ∨
        ∃ length size, Machine.sizeLimit ≤ size ∧ 4294967296 ≤ length ∧
          p.onMachine "abc" = .error (.list length size)) ∧
      p.evaluate "abc" ≠ .failed .missingArgument := by
  intro least p
  have hcompile : compile "let m = -9223372036854775807 - 1; q = m / -1; c = line[m]" = .ok p := by cbv
  have hline : "abc".utf8ByteSize ≤ 16777216 := by decide
  obtain ⟨htrap, hsame, hmissing⟩ := onMachine_of_compile hcompile "abc"
  refine ⟨hcompile, htrap, ?_, hmissing⟩
  rcases hsame with heq | ⟨size, -, hlong, -⟩ | ⟨length, size, hsize, hmany, heq⟩
  · exact .inl heq
  · exact absurd hline (Nat.not_le_of_lt hlong)
  · exact .inr ⟨length, size, hsize, hmany hline, heq⟩

/-- A program that has not been compiled may trap. -/
example : (⟨[.eval (.call .replace [.var "line"])]⟩ : Program).onMachine "abc" = .error (.trap .argument) := by
  rfl

end SampleRecorder.Script
