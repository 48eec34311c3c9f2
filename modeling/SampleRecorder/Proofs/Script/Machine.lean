import SampleRecorder.Script.Eval

/-!
# Programs on a machine that traps

The evaluation of programs once more, as a machine with 64-bit words carries it out.  Arguments, items and parts of
texts are taken by their places in a row, and integers are computed on words; a place beyond a row, a result that a word
cannot hold and a division by zero are traps, behind which nothing is computed.  Where the language tests a result
before it computes it, so does the machine, and all operations without such limits are those of the language.

Sizes of texts and lists are words as well.  A run stops where a size beyond them comes up, that of a text or a list or of
the text that `replace` or `join` would make of them: nothing of that size can be addressed.

The lemmas beside the definitions say when an operation does not trap, and what it computes then.
-/

namespace SampleRecorder.Script

/-- What a machine traps on. -/
inductive Trap where
  | argument
  | place
  | overflow
  | zeroDivisor
  deriving DecidableEq, Repr

/-- Why a machine ends a run early: as the language says, with a trap, or with a size that a word cannot hold, which is
that of a text, or of a list with so many items, or of what is made of it. -/
inductive Stop where
  | halt (h : Halt)
  | trap (t : Trap)
  | text (size : Nat)
  | list (length size : Nat)
  deriving DecidableEq, Repr

/-- A computation of a machine. -/
abbrev Machine (α : Type) := Except Stop α

namespace Machine

variable {α β : Type}

theorem ok_bind (a : α) (f : α → Machine β) : ((.ok a : Machine α) >>= f) = f a :=
  rfl

theorem error_bind (stop : Stop) (f : α → Machine β) : ((.error stop : Machine α) >>= f) = .error stop :=
  rfl

/-- A computation without limits of its own. -/
def ofExcept (x : Except Halt α) : Machine α :=
  x.mapError .halt

/-- Ends the run with a failure. -/
def failWith (f : Failure) : Machine α :=
  .error (.halt (.failed f))

/-! ### Words -/

/-- Whether a word can hold an integer. -/
def fits (n : Int) : Bool :=
  Int64.minValue.toInt ≤ n && n ≤ Int64.maxValue.toInt

theorem fits_iff {n : Int} : fits n = true ↔ Int64.minValue.toInt ≤ n ∧ n ≤ Int64.maxValue.toInt := by
  rw [fits, Bool.and_eq_true, decide_eq_true_eq, decide_eq_true_eq]

theorem fits_toInt (a : Int64) : fits a.toInt = true :=
  fits_iff.mpr ⟨a.minValue_le_toInt, a.toInt_le⟩

theorem toInt_ofInt {n : Int} (h : fits n = true) : (Int64.ofInt n).toInt = n :=
  Int64.toInt_ofInt_of_le (fits_iff.mp h).1 (Int.lt_add_one_of_le (fits_iff.mp h).2)

theorem int64?_eq (n : Int) : int64? n = if fits n then some (Int64.ofInt n) else none :=
  rfl

theorem int64?_toInt (a : Int64) : int64? a.toInt = some a := by
  rw [int64?_eq, if_pos (fits_toInt a), Int64.ofInt_toInt]

/-- Only the quotient by minus one may be too large for a word. -/
theorem fits_tdiv (a : Int64) {b : Int64} (hb : b ≠ -1) : fits (a.toInt.tdiv b.toInt) = true := by
  rw [← Int64.toInt_div_of_ne_right a b hb]
  exact fits_toInt (a / b)

theorem ofInt_tdiv (a b : Int64) : Int64.ofInt (a.toInt.tdiv b.toInt) = a / b := by
  rw [Int64.ofInt_tdiv a.minValue_le_toInt a.toInt_le b.minValue_le_toInt b.toInt_le, Int64.ofInt_toInt,
    Int64.ofInt_toInt]

/-- The word that an operation leaves, unless a word cannot hold its result. -/
def computed (result : Int) (word : Int64) : Machine Int64 :=
  if fits result then .ok word else .error (.trap .overflow)

theorem computed_of_fits {result : Int} (h : fits result = true) (word : Int64) : computed result word = .ok word := by
  rw [computed, if_pos h]

def add (a b : Int64) : Machine Int64 :=
  computed (a.toInt + b.toInt) (a + b)

def sub (a b : Int64) : Machine Int64 :=
  computed (a.toInt - b.toInt) (a - b)

def mul (a b : Int64) : Machine Int64 :=
  computed (a.toInt * b.toInt) (a * b)

def neg (a : Int64) : Machine Int64 :=
  computed (-a.toInt) (-a)

def abs (a : Int64) : Machine Int64 :=
  if a < 0 then neg a else .ok a

def div (a b : Int64) : Machine Int64 :=
  if b = 0 then .error (.trap .zeroDivisor) else computed (a.toInt.tdiv b.toInt) (a / b)

/-- The remainder comes with the quotient, which a word has to hold as well. -/
def rem (a b : Int64) : Machine Int64 :=
  if b = 0 then .error (.trap .zeroDivisor) else computed (a.toInt.tdiv b.toInt) (a % b)

/-- An operation that is carried out only if a word can hold its result. -/
def tested (result : Int) (operation : Machine Int64) : Machine (Option Int64) :=
  if fits result then operation.map some else .ok none

/-- A tested operation leaves its exact result or none. -/
theorem tested_computed (n : Int) : tested n (computed n (Int64.ofInt n)) = .ok (int64? n) := by
  rw [tested, computed, int64?_eq]
  split <;> rfl

theorem tested_add (a b : Int64) : tested (a.toInt + b.toInt) (add a b) = .ok (int64? (a.toInt + b.toInt)) := by
  rw [add, ← tested_computed, Int64.ofInt_add, Int64.ofInt_toInt, Int64.ofInt_toInt]

theorem tested_sub (a b : Int64) : tested (a.toInt - b.toInt) (sub a b) = .ok (int64? (a.toInt - b.toInt)) := by
  rw [sub, ← tested_computed, Int64.ofInt_sub, Int64.ofInt_toInt, Int64.ofInt_toInt]

theorem tested_mul (a b : Int64) : tested (a.toInt * b.toInt) (mul a b) = .ok (int64? (a.toInt * b.toInt)) := by
  rw [mul, ← tested_computed, Int64.ofInt_mul, Int64.ofInt_toInt, Int64.ofInt_toInt]

theorem tested_neg (a : Int64) : tested (-a.toInt) (neg a) = .ok (int64? (-a.toInt)) := by
  rw [neg, ← tested_computed, Int64.ofInt_neg, Int64.ofInt_toInt]

theorem tested_abs (a : Int64) : tested a.toInt.natAbs (abs a) = .ok (int64? a.toInt.natAbs) := by
  unfold abs
  split
  · next hneg =>
    rw [Int64.lt_iff_toInt_lt, Int64.toInt_zero] at hneg
    have habs : (a.toInt.natAbs : Int) = -a.toInt := by omega
    rw [habs]
    exact tested_neg a
  · next hneg =>
    rw [Int64.lt_iff_toInt_lt, Int64.toInt_zero] at hneg
    have habs : (a.toInt.natAbs : Int) = a.toInt := by omega
    rw [habs, int64?_toInt, tested, if_pos (fits_toInt a)]
    rfl

/-- A remainder where the quotient is tested first. -/
def testedRem (a b : Int64) : Machine (Option Int64) :=
  if b = 0 then .ok none else tested (a.toInt.tdiv b.toInt) (rem a b)

theorem testedRem_eq (a : Int64) {b : Int64} (hb : b ≠ 0) :
    testedRem a b = .ok (if fits (a.toInt.tdiv b.toInt) then some (a % b) else none) := by
  rw [testedRem, rem, if_neg hb, if_neg hb, tested, computed]
  split <;> rfl

/-- A quotient that is tested first. -/
def testedDiv (a b : Int64) : Machine (Option Int64) :=
  if b = 0 then .ok none else tested (a.toInt.tdiv b.toInt) (div a b)

theorem testedDiv_eq (a : Int64) {b : Int64} (hb : b ≠ 0) : testedDiv a b = .ok (int64? (a.toInt.tdiv b.toInt)) := by
  rw [testedDiv, div, if_neg hb, if_neg hb, ← tested_computed, ofInt_tdiv]

/-- A remainder without the one quotient that may be too large, that by minus one. -/
def wrappingRem (a b : Int64) : Machine Int64 :=
  if b = -1 then .ok 0 else rem a b

theorem wrappingRem_eq (a : Int64) {b : Int64} (hb : b ≠ 0) : wrappingRem a b = .ok (a % b) := by
  unfold wrappingRem
  split
  · next hone =>
    have hmod : (a % b).toInt = (0 : Int64).toInt := by
      rw [Int64.toInt_mod, hone, show (-1 : Int64).toInt = -1 from rfl, Int.tmod_neg, Int.tmod_one, Int64.toInt_zero]
    rw [Int64.toInt_inj.mp hmod]
  · next hone => rw [rem, if_neg hb, computed_of_fits (fits_tdiv a hone)]

/-! ### Rows -/

/-- The least size that a word cannot hold. -/
def sizeLimit : Nat :=
  9223372036854775808

theorem toInt_maxValue : Int64.maxValue.toInt + 1 = sizeLimit :=
  rfl

theorem toInt_lt_sizeLimit (i : Int64) : i.toInt < sizeLimit :=
  i.toInt_lt

theorem two_mul_sizeLimit : 2 * sizeLimit = UInt64.size :=
  rfl

theorem toInt_size {n : Nat} (h : n < sizeLimit) : (Int64.ofNat n).toInt = n :=
  Int64.toInt_ofNat_of_lt h

/-- A size as a word. -/
def ofSize (stop : Nat → Stop) (n : Nat) : Machine Int64 :=
  if n < sizeLimit then .ok (Int64.ofNat n) else .error (stop n)

theorem ofSize_of_lt (stop : Nat → Stop) {n : Nat} (h : n < sizeLimit) : ofSize stop n = .ok (Int64.ofNat n) := by
  rw [ofSize, if_pos h]

theorem ofSize_of_le (stop : Nat → Stop) {n : Nat} (h : sizeLimit ≤ n) : ofSize stop n = .error (stop n) := by
  rw [ofSize, if_neg (Nat.not_lt.mpr h)]

/-- A negative index can be added to any size. -/
theorem add_size {n : Nat} (hn : n < sizeLimit) {index : Int64} (hneg : index < 0) :
    ∃ i, add (Int64.ofNat n) index = .ok i ∧ i.toInt = n + index.toInt := by
  have hfits : fits (n + index.toInt) = true := by
    rw [Int64.lt_iff_toInt_lt, Int64.toInt_zero] at hneg
    have hlow := index.minValue_le_toInt
    have hhigh := toInt_maxValue
    rw [fits_iff]
    omega
  refine ⟨Int64.ofInt (n + index.toInt), ?_, toInt_ofInt hfits⟩
  rw [add, toInt_size hn, computed_of_fits hfits, Int64.ofInt_add, Int64.ofInt_toInt, Int64.ofInt_eq_ofNat]

/-- An index counted from the start; a negative one counts from the end. -/
def fromStart (index size : Int64) : Machine Int64 :=
  if index < 0 then add size index else .ok index

theorem fromStart_size {n : Nat} (hn : n < sizeLimit) (index : Int64) :
    ∃ i, fromStart index (Int64.ofNat n) = .ok i ∧ i.toInt = if index.toInt < 0 then n + index.toInt else index.toInt := by
  have hneg_iff : index < 0 ↔ index.toInt < 0 := by rw [Int64.lt_iff_toInt_lt, Int64.toInt_zero]
  unfold fromStart
  by_cases hneg : index < 0
  · rw [if_pos hneg, if_pos (hneg_iff.mp hneg)]
    exact add_size hn hneg
  · exact ⟨index, if_neg hneg, (if_neg (mt hneg_iff.mpr hneg)).symm⟩

/-- What stands at a place of a row. -/
def take (row : List α) (place : Nat) (missing : Trap) : Machine α :=
  match row[place]? with
  | some a => .ok a
  | none => .error (.trap missing)

theorem take_of_lt {row : List α} {place : Nat} (h : place < row.length) (missing : Trap) :
    take row place missing = .ok row[place] := by
  rw [take, List.getElem?_eq_getElem h]

/-- The part of a row from one place up to another. -/
def slice (row : List α) (first last : Nat) : Machine (List α) :=
  if first ≤ last ∧ last ≤ row.length then .ok ((row.drop first).take (last - first)) else .error (.trap .place)

/-- The place in a row that an index means, if there is one. -/
def place? (stop : Nat → Stop) (index : Int64) (length : Nat) : Machine (Option Nat) := do
  let size ← ofSize stop length
  let i ← fromStart index size
  .ok (if 0 ≤ i ∧ i < size then some i.toInt.toNat else none)

theorem place?_cases (stop : Nat → Stop) (index : Int64) (length : Nat) :
    (sizeLimit ≤ length ∧ place? stop index length = .error (stop length)) ∨
    place? stop index length = .ok (Script.place? index.toInt length) := by
  rcases Nat.lt_or_ge length sizeLimit with hlen | hlen
  · obtain ⟨i, hrun, hi⟩ := fromStart_size hlen index
    refine .inr ?_
    rw [place?, ofSize_of_lt stop hlen, ok_bind, hrun, ok_bind]
    simp only [Script.place?, ← hi, Int64.le_iff_toInt_le, Int64.lt_iff_toInt_lt, Int64.toInt_zero,
      toInt_size hlen, Bool.and_eq_true, decide_eq_true_eq]
  · exact .inl ⟨hlen, by rw [place?, ofSize_of_le stop hlen, error_bind]⟩

/-- A place that an index means stands in the row. -/
theorem lt_of_place? {index : Int} {length i : Nat} (h : Script.place? index length = some i) : i < length := by
  simp only [Script.place?, Option.ite_none_right_eq_some, Option.some.injEq, Bool.and_eq_true, decide_eq_true_eq] at h
  omega

/-- What an index means in a row, as a value; beyond the ends it is null. -/
def itemOf (stop : Nat → Stop) (row : List α) (index : Int64) (value : α → Value) : Machine Value := do
  match ← place? stop index row.length with
  | some i => do
    let a ← take row i .place
    .ok (value a)
  | none => .ok .null

/-- One item of a list or one character of a text. -/
def itemAt (target : Value) (index : Int64) : Machine Value :=
  match target with
  | .list items => itemOf (fun n => .list n n) items index id
  | .str s => itemOf .text s.toList index fun c => .str (String.ofList [c])
  | v => ofExcept (Script.itemAt v index.toInt)

/-- Where a part of a text starts: a negative place counts from the end, back to the front at most. -/
def startOf (length : Nat) (start : Int64) : Machine Nat :=
  if start < 0 then do
    let size ← ofSize .text length
    let i ← add size start
    .ok i.toInt.toNat
  else .ok (min start.toInt.toNat length)

/-- Where a part of a text ends; the sum of its start and its length stays at the greatest size. -/
def endOf (length first : Nat) (count : Option Int64) : Nat :=
  match count with
  | some n => min (min (first + n.toInt.toNat) (UInt64.size - 1)) length
  | none => length

/-- The part of a text from `start` on with at most `count` characters. -/
def part (s : List Char) (start : Int64) (count : Option Int64) : Machine (List Char) := do
  let first ← startOf s.length start
  slice s first (endOf s.length first count)

/-- A part starts within the text, at a place that a word can hold, unless the text is too long to count from its end. -/
theorem startOf_cases (length : Nat) (start : Int64) :
    (sizeLimit ≤ length ∧ startOf length start = .error (.text length)) ∨
    ∃ first, startOf length start = .ok first ∧ first ≤ length ∧ first < sizeLimit ∧
      first = if start.toInt < 0 then (length + start.toInt).toNat else Nat.min start.toInt.toNat length := by
  have hneg_iff : start < 0 ↔ start.toInt < 0 := by rw [Int64.lt_iff_toInt_lt, Int64.toInt_zero]
  unfold startOf
  by_cases hneg : start < 0
  · have hnegative := hneg_iff.mp hneg
    rw [if_pos hneg, if_pos hnegative]
    rcases Nat.lt_or_ge length sizeLimit with hlen | hlen
    · obtain ⟨i, hrun, hi⟩ := add_size hlen hneg
      rw [ofSize_of_lt .text hlen, ok_bind, hrun, ok_bind]
      exact .inr ⟨i.toInt.toNat, rfl, by omega, by omega, by rw [hi]⟩
    · rw [ofSize_of_le .text hlen, error_bind]
      exact .inl ⟨hlen, rfl⟩
  · have hstart := mt hneg_iff.mpr hneg
    have hlt := toInt_lt_sizeLimit start
    have hfirst : min start.toInt.toNat length < sizeLimit := by omega
    rw [if_neg hneg, if_neg hstart]
    exact .inr ⟨_, rfl, Nat.min_le_right _ _, hfirst, rfl⟩

theorem endOf_le (length first : Nat) (count : Option Int64) : endOf length first count ≤ length := by
  cases count with
  | none => exact Nat.le_refl length
  | some n => exact Nat.min_le_right _ _

theorem le_endOf {length first : Nat} (hle : first ≤ length) (hlt : first < sizeLimit) (count : Option Int64) :
    first ≤ endOf length first count := by
  cases count with
  | none => exact hle
  | some n =>
    have hsize := two_mul_sizeLimit
    simp only [endOf]
    omega

/-- The sum of the start and the length of a part does not reach the greatest size. -/
theorem endOf_some {first : Nat} (hlt : first < sizeLimit) (length : Nat) (n : Int64) :
    endOf length first (some n) = min (first + n.toInt.toNat) length := by
  have hn := toInt_lt_sizeLimit n
  have hsize := two_mul_sizeLimit
  simp only [endOf]
  omega

theorem part_cases (s : List Char) (start : Int64) (count : Option Int64) :
    (sizeLimit ≤ s.length ∧ part s start count = .error (.text s.length)) ∨
    part s start count = .ok (Builtin.part s start.toInt (count.map Int64.toInt)) := by
  rcases startOf_cases s.length start with ⟨hlen, hrun⟩ | ⟨first, hrun, hle, hlt, hfirst⟩
  · exact .inl ⟨hlen, by rw [part, hrun, error_bind]⟩
  · refine .inr ?_
    rw [part, hrun, ok_bind, slice, if_pos ⟨le_endOf hle hlt count, endOf_le s.length first count⟩]
    unfold Builtin.part
    rw [← hfirst]
    cases count with
    | none =>
      have hall : (s.drop first).take (s.length - first) = s.drop first :=
        List.take_of_length_le (Nat.le_of_eq List.length_drop)
      exact congrArg Except.ok hall
    | some n =>
      have hcut : (s.drop first).take (endOf s.length first (some n) - first) = (s.drop first).take n.toInt.toNat := by
        rw [endOf_some hlt, List.take_eq_take_iff, List.length_drop]
        omega
      exact congrArg Except.ok hcut

/-! ### Operators -/

/-- The negative of a number. -/
def negate (v : Value) : Machine Value :=
  match v with
  | .int n => do
    match ← tested (-n.toInt) (neg n) with
    | some m => .ok (.int m)
    | none => failWith .overflow
  | v => ofExcept (Script.negate v)

/-- The sum of values. -/
def sum (l r : Value) : Machine Value :=
  match l, r with
  | .int a, .int b => do
    match ← tested (a.toInt + b.toInt) (add a b) with
    | some n => .ok (.int n)
    | none => .ok (.float (toFloat a + toFloat b))
  | l, r => ofExcept (BinaryOp.sum l r)

/-- The exact result of an operation on integers, when it is one. -/
def onInts (op : BinaryOp) (a b : Int64) : Machine (Option Value) :=
  match op with
  | .sub => do
    let n ← tested (a.toInt - b.toInt) (sub a b)
    .ok (n.map .int)
  | .mul => do
    let n ← tested (a.toInt * b.toInt) (mul a b)
    .ok (n.map .int)
  | .div =>
    if b = 0 then failWith .divisionByZero
    else do
      let r ← testedRem a b
      if r = some 0 then
        let n ← testedDiv a b
        .ok (n.map .int)
      else .ok (some (.float (toFloat a / toFloat b)))
  | _ =>
    if b = 0 then failWith .divisionByZero
    else do
      let n ← wrappingRem a b
      .ok (some (.int n))

/-- Difference, product, quotient or remainder of numbers. -/
def arith (op : BinaryOp) (l r : Value) : Machine Value := do
  let exact ←
    match l, r with
    | .int a, .int b => onInts op a b
    | _, _ => .ok none
  match exact with
  | some v => .ok v
  | none =>
    match l.number?, r.number? with
    | some a, some b =>
      if (op = .div || op = .rem) && b == 0.0 then failWith .divisionByZero else .ok (.float (op.onFloats a b))
    | _, _ => failWith (.notArithmetic l.kind r.kind)

/-- The value of an operation. -/
def binary (op : BinaryOp) (l r : Value) : Machine Value :=
  match op with
  | .add => sum l r
  | .sub | .mul | .div | .rem => arith op l r
  | .eq | .ne | .lt | .le | .gt | .ge => ofExcept (op.apply l r)

/-! ### Functions -/

/-- The magnitude of a number. -/
def absolute (v : Value) : Machine Value :=
  match v with
  | .int n => do
    match ← tested n.toInt.natAbs (abs n) with
    | some m => .ok (.int m)
    | none => failWith .overflow
  | v => ofExcept (Builtin.abs.compute [v])

/-- A part of a text. -/
def substring (s start : Value) (count : Option Value) : Machine Value := do
  let s ← ofExcept (wantString "substr" s)
  let start ← ofExcept (wantInteger "substr" start)
  let count ←
    match count with
    | some v => do
      let n ← ofExcept (wantInteger "substr" v)
      .ok (some n)
    | none => .ok none
  let cs ← part s.toList start count
  .ok (.str (String.ofList cs))

/-- A text with every occurrence of another replaced; its size is computed first. -/
def replaced (s old new : Value) : Machine Value := do
  let s ← ofExcept (wantString "replace" s)
  let old ← ofExcept (wantString "replace" old)
  let new ← ofExcept (wantString "replace" new)
  let grown := s.utf8ByteSize + Text.count old.toList s.toList * new.utf8ByteSize
  if old = "" ∨ grown < UInt64.size then ofExcept (Builtin.replaced s old new) else .error (.text grown)

/-- The size of the texts of values with a separator between each two. -/
def joinedSize (separator : String) : List Value → Nat
  | [] => 0
  | [v] => v.display.utf8ByteSize
  | v :: w :: rest => v.display.utf8ByteSize + separator.utf8ByteSize + joinedSize separator (w :: rest)

/-- The texts of values with a separator between each two; their size is computed first. -/
def joined (list separator : Value) : Machine Value :=
  match list with
  | .list items => do
    let separator ← ofExcept (wantString "join" separator)
    let size := joinedSize separator items
    if size < UInt64.size then ofExcept (limited (separator.intercalate (items.map Value.display)))
    else .error (.list items.length size)
  | v => failWith (.wantsList "join" v.kind)

/-- The argument at a place. -/
def argument (values : List α) (place : Nat) : Machine α :=
  take values place .argument

/-- The result of a function, which takes each argument by its place; the last one of two functions may be missing. -/
def compute (f : Builtin) (values : List Value) : Machine Value :=
  match f with
  | .split | .contains | .startsWith | .endsWith => do
    let a ← argument values 0
    let b ← argument values 1
    ofExcept (f.compute [a, b])
  | .join => do
    let list ← argument values 0
    let separator ← argument values 1
    joined list separator
  | .trim | .upper | .lower | .len | .num | .int | .str | .bool | .require => do
    let a ← argument values 0
    ofExcept (f.compute [a])
  | .substr => do
    let s ← argument values 0
    let start ← argument values 1
    substring s start values[2]?
  | .replace => do
    let s ← argument values 0
    let old ← argument values 1
    let new ← argument values 2
    replaced s old new
  | .round => do
    let x ← argument values 0
    ofExcept (f.compute (x :: values[1]?.toList))
  | .abs => do
    let v ← argument values 0
    absolute v
  | .min | .max => ofExcept (f.compute values)
  | .cond | .coalesce => .ok .null

end Machine

mutual

/-- The value of an expression on a machine. -/
def Expr.onMachine (env : Env) : Expr → Machine Value
  | .literal v => .ok v
  | .var name => .ok (env.value name)
  | .index target position => do
    let target ← target.onMachine env
    let position ← position.onMachine env
    let i ← Machine.ofExcept (wantInteger "index" position)
    Machine.itemAt target i
  | .neg operand => do
    let v ← operand.onMachine env
    Machine.negate v
  | .not operand => do
    let v ← operand.onMachine env
    .ok (.bool (!v.truthy))
  | .binary op left right => do
    let l ← left.onMachine env
    let r ← right.onMachine env
    Machine.binary op l r
  | .and left right => do
    let l ← left.onMachine env
    if l.truthy then
      let r ← right.onMachine env
      .ok (.bool r.truthy)
    else .ok (.bool false)
  | .or left right => do
    let l ← left.onMachine env
    if l.truthy then .ok (.bool true)
    else
      let r ← right.onMachine env
      .ok (.bool r.truthy)
  | .call .cond arguments => do
    let v ← argumentOnMachine env arguments 0
    if v.truthy then argumentOnMachine env arguments 1 else argumentOnMachine env arguments 2
  | .call .coalesce arguments => firstOnMachine env arguments
  | .call f arguments => do
    let values ← allOnMachine env arguments
    if f.passesNull && values.head?.any Value.isNull then .ok .null else Machine.compute f values
  | .search input regex => do
    let input ← input.onMachine env
    match ← Machine.ofExcept (searchInput input) with
    | none => .ok .null
    | some text => .ok (searchFor regex text (if 1 < regex.groupCount then 1 else 0))
  | .searchGroup input regex group => do
    let input ← input.onMachine env
    match ← Machine.ofExcept (searchInput input) with
    | none => .ok .null
    | some text => do
      let group ← group.onMachine env
      let n ← Machine.ofExcept (wantInteger "match" group)
      .ok (searchFor regex text n.toInt.toNat)

/-- The values of arguments, from left to right. -/
def allOnMachine (env : Env) : List Expr → Machine (List Value)
  | [] => .ok []
  | e :: rest => do
    let v ← e.onMachine env
    let vs ← allOnMachine env rest
    .ok (v :: vs)

/-- The first value that is not null. -/
def firstOnMachine (env : Env) : List Expr → Machine Value
  | [] => .ok .null
  | e :: rest => do
    let v ← e.onMachine env
    if v.isNull then firstOnMachine env rest else .ok v

/-- The value of the argument at a place; the others are not evaluated. -/
def argumentOnMachine (env : Env) : List Expr → Nat → Machine Value
  | [], _ => .error (.trap .argument)
  | e :: _, 0 => e.onMachine env
  | _ :: rest, place + 1 => argumentOnMachine env rest place

end

/-- Runs one statement on a machine. -/
def Stmt.onMachine (s : State) : Stmt → Machine State
  | .bind name value => do
    let v ← value.onMachine s.env
    .ok { s with env := s.env.bind name v }
  | .assign name value => do
    let v ← value.onMachine s.env
    .ok ⟨s.env.bind name v, store s.fields name v⟩
  | .reject => .error (.halt .reject)
  | .eval value => do
    let _ ← value.onMachine s.env
    .ok s

/-- Runs statements in order on a machine. -/
def runOnMachine (s : State) : List Stmt → Machine State
  | [] => .ok s
  | stmt :: rest => do
    let s ← stmt.onMachine s
    runOnMachine s rest

/-- Runs a program on a line, on a machine; fields, a rejection and a failure are what a run may end with. -/
def Program.onMachine (p : Program) (line : String) : Machine Outcome :=
  match runOnMachine ⟨⟨line, []⟩, Dict.empty⟩ p.statements with
  | .ok s => .ok (.fields s.fields)
  | .error (.halt .reject) => .ok .rejected
  | .error (.halt (.failed f)) => .ok (.failed f)
  | .error stop => .error stop

end SampleRecorder.Script
