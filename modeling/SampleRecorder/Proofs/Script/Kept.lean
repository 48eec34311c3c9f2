import Mathlib
import SampleRecorder.Proofs.Script.Kinds
import SampleRecorder.Proofs.Script.Literals
import SampleRecorder.Script.Eval

/-!
# Properties of values that evaluation keeps

Texts come out of a program in few ways: they are written in it, cut from other texts, held to `textLimit`, or put into
another case; and lists are made by `split` and by putting lists together.  So a property of values is kept by every
evaluation if it is kept in these few ways (`Kept`, `Kept.gives_eval`).  A change of case may weaken a property, which is
why properties have grades: the grade grows by the calls in an expression that change the case of a text.
-/

namespace SampleRecorder.Script

open Text

/-! ### Changes of case -/

/-- How many calls of the function change the case of a text. -/
def Builtin.caseCalls : Builtin → Nat
  | upper | lower => 1
  | _ => 0

mutual

/-- How many calls in an expression change the case of a text. -/
def Expr.caseCalls : Expr → Nat
  | .literal _ | .var _ => 0
  | .index target position => target.caseCalls + position.caseCalls
  | .neg operand | .not operand => operand.caseCalls
  | .binary _ left right | .and left right | .or left right => left.caseCalls + right.caseCalls
  | .call function arguments => argumentCaseCalls arguments + function.caseCalls
  | .search input _ => input.caseCalls
  | .searchGroup input _ group => input.caseCalls + group.caseCalls

/-- How many calls in arguments change the case of a text. -/
def argumentCaseCalls : List Expr → Nat
  | [] => 0
  | a :: rest => a.caseCalls + argumentCaseCalls rest

end

/-! ### Properties in grades -/

/-- A property of values in grades that holds of atomic values and of texts within the limit, and that is kept by the ways
in which other texts and lists are made. -/
structure Kept (I : Nat → Value → Prop) : Prop where
  mono {m n : Nat} {v : Value} (h : I m v) (hle : m ≤ n) : I n v
  atomic {n : Nat} {v : Value} (h : v.IsAtomic) : I n v
  limited {n : Nat} {s : String} (h : s.utf8ByteSize ≤ textLimit) : I n (.str s)
  part {n : Nat} {s : String} {t : List Char} (h : I n (.str s)) (ht : t.Sublist s.toList) :
    I n (.str (String.ofList t))
  upper {n : Nat} {s : String} (h : I n (.str s)) : I (n + 1) (.str (String.ofList (toUpper s.toList)))
  lower {n : Nat} {s : String} (h : I n (.str s)) : I (n + 1) (.str (String.ofList (toLower s.toList)))
  texts {n : Nat} {texts : List String} (h : ∀ t ∈ texts, I n (.str t)) : I n (.list (texts.map .str))
  append {n : Nat} {a b : List Value} (ha : I n (.list a)) (hb : I n (.list b)) : I n (.list (a ++ b))
  item {n : Nat} {items : List Value} (h : I n (.list items)) {v : Value} (hv : v ∈ items) : I n v

/-- Whether the line and the values of all variables have a property. -/
structure Env.Meets (P : Value → Prop) (env : Env) : Prop where
  line : P (.str env.line)
  vars : ∀ entry ∈ env.vars, P entry.2

theorem Env.Meets.imp {P Q : Value → Prop} {env : Env} (h : env.Meets P) (hPQ : ∀ v, P v → Q v) : env.Meets Q :=
  ⟨hPQ _ h.line, fun entry hentry => hPQ _ (h.vars entry hentry)⟩

theorem Env.Meets.bind {P : Value → Prop} {env : Env} (h : env.Meets P) {v : Value} (hv : P v) (name : String) :
    (env.bind name v).Meets P :=
  ⟨h.line, List.forall_mem_cons.mpr ⟨hv, h.vars⟩⟩

namespace Kept

variable {I : Nat → Value → Prop} (h : Kept I) {n : Nat}

include h

theorem gives_atomic {x : Except Halt Value} (hx : Gives x Value.IsAtomic) : Gives x (I n) :=
  fun v hv => h.atomic (hx v hv)

theorem gives_limited (s : String) : Gives (Script.limited s) (I n) := by
  unfold Script.limited
  split
  · exact .error _
  · next hs => exact .ok (h.limited (Nat.le_of_not_lt hs))

omit h in
theorem gives_wantString {v : Value} (hv : I n v) (function : String) :
    Gives (wantString function v) fun s => I n (.str s) := by
  unfold wantString
  split
  · exact .ok hv
  · exact .error _

/-! ### Operators -/

theorem gives_itemAt {target : Value} (ht : I n target) (index : Int) : Gives (itemAt target index) (I n) := by
  unfold itemAt
  split
  · next items =>
    refine .ok ?_
    cases hitem : (place? index items.length).bind (items[·]?) with
    | none => exact h.atomic .null
    | some v =>
      obtain ⟨i, -, hi⟩ := Option.bind_eq_some_iff.mp hitem
      exact h.item ht (List.mem_of_getElem? hi)
  · next s =>
    refine .ok ?_
    cases hchar : (place? index s.toList.length).bind (s.toList[·]?) with
    | none => exact h.atomic .null
    | some c =>
      obtain ⟨i, -, hi⟩ := Option.bind_eq_some_iff.mp hchar
      exact h.part ht (List.singleton_sublist.mpr (List.mem_of_getElem? hi))
  · exact .ok (h.atomic .null)
  · exact .error _

theorem gives_sum {l r : Value} (hl : I n l) (hr : I n r) : Gives (BinaryOp.sum l r) (I n) := by
  unfold BinaryOp.sum
  split
  · split
    · exact .ok (h.atomic (.int _))
    · exact .ok (h.atomic (.float _))
  · exact .ok (h.append hl hr)
  · exact h.gives_limited _
  · exact h.gives_limited _
  · split
    · exact .ok (h.atomic (.float _))
    · exact .error _

theorem gives_binary (op : BinaryOp) {l r : Value} (hl : I n l) (hr : I n r) : Gives (op.apply l r) (I n) := by
  by_cases hop : op = .add
  · rw [hop]
    exact h.gives_sum hl hr
  · exact h.gives_atomic (isAtomic_apply hop l r)

/-! ### Functions -/

theorem pieces {s : String} (hs : I n (.str s)) (separator : String) : I n (.list (Builtin.pieces s separator)) := by
  have hmap {α : Type} (list : List α) (f : α → String) (hf : ∀ a ∈ list, I n (.str (f a))) :
      I n (.list (list.map fun a => .str (f a))) := by
    have htexts := h.texts (List.forall_mem_map.mpr hf)
    rwa [List.map_map] at htexts
  unfold Builtin.pieces
  split
  · exact hmap _ _ fun c hc => h.part hs (List.singleton_sublist.mpr hc)
  · exact hmap _ _ fun piece hpiece => h.part hs (sublist_of_mem_split hpiece)

omit h in
theorem part_sublist (s : List Char) (start : Int) (count : Option Int) : (Builtin.part s start count).Sublist s := by
  unfold Builtin.part
  dsimp only
  split
  · exact (List.take_sublist _ _).trans (List.drop_sublist _ _)
  · exact List.drop_sublist _ _

theorem gives_replaced {s : String} (hs : I n (.str s)) (old new : String) :
    Gives (Builtin.replaced s old new) (I n) := by
  unfold Builtin.replaced
  split
  · exact .ok hs
  · dsimp only
    split
    · exact .error _
    · exact h.gives_limited _

/-- No function but those that change the case leads to another grade. -/
theorem gives_compute {f : Builtin} (hf : f.caseCalls = 0) {values : List Value} (hvalues : ∀ v ∈ values, I n v) :
    Gives (f.compute values) (I n) := by
  have first {v : Value} {rest : List Value} (hrest : ∀ u ∈ v :: rest, I n u) : I n v := hrest v List.mem_cons_self
  unfold Builtin.compute
  split
  · exact (gives_wantString (first hvalues) _).bind fun s hs => .bind_any fun separator => .ok (h.pieces hs _)
  · split
    · exact .bind_any fun _ => h.gives_limited _
    · exact .error _
  · exact (gives_wantString (first hvalues) _).bind fun s hs => .ok (h.part hs (trim_sublist _))
  · cases hf
  · cases hf
  · split
    · exact .ok (h.atomic (.int _))
    · exact .ok (h.atomic (.int _))
    · exact .error _
  · refine (gives_wantString (first hvalues) _).bind fun s hs => .bind_any fun start => ?_
    split
    · exact .ok (h.part hs (part_sublist ..))
    · exact .bind_any fun count => .ok (h.part hs (part_sublist ..))
  · refine (gives_wantString (first hvalues) _).bind fun s hs => .bind_any fun old => .bind_any fun new => ?_
    exact h.gives_replaced hs old new
  · split
    · exact .ok (h.atomic (.bool _))
    · exact .bind_any fun _ => .bind_any fun _ => .ok (h.atomic (.bool _))
  · exact .bind_any fun _ => .bind_any fun _ => .ok (h.atomic (.bool _))
  · exact .bind_any fun _ => .bind_any fun _ => .ok (h.atomic (.bool _))
  · exact .ok (h.atomic (Builtin.isAtomic_toNumber _))
  · exact .ok (h.atomic (Builtin.isAtomic_toInteger _))
  · split
    · exact .ok (h.limited (Nat.zero_le _))
    · exact h.gives_limited _
  · exact .ok (h.atomic (.bool _))
  · refine .bind_any fun x => ?_
    split
    · exact .ok (h.atomic (Value.isAtomic_ofFloat _))
    · exact .bind_any fun digits => .ok (h.atomic (Value.isAtomic_ofFloat _))
  · split
    · split
      · exact .ok (h.atomic (.int _))
      · exact .error _
    · exact .bind_any fun _ => .ok (h.atomic (.float _))
  · exact h.gives_atomic (Builtin.isAtomic_extreme _ _ _ (by intro v hv; cases hv))
  · exact h.gives_atomic (Builtin.isAtomic_extreme _ _ _ (by intro v hv; cases hv))
  · split
    · exact .ok (h.atomic .null)
    · exact .error _
  · exact .error _

/-- A function that changes the case of a text leads to the next grade. -/
theorem gives_compute_case {f : Builtin} (hf : f.caseCalls ≠ 0) {values : List Value}
    (hvalues : ∀ v ∈ values, I n v) : Gives (f.compute values) (I (n + 1)) := by
  rcases values with _ | ⟨v, _ | ⟨w, rest⟩⟩
  · cases f <;> first | exact .error _ | exact absurd rfl hf
  · have htext := gives_wantString (hvalues v List.mem_cons_self)
    cases f with
    | upper => exact (htext _).bind fun s hs => .ok (h.upper hs)
    | lower => exact (htext _).bind fun s hs => .ok (h.lower hs)
    | _ => exact absurd rfl hf
  · cases f <;> first | exact .error _ | exact absurd rfl hf

theorem gives_apply (f : Builtin) {values : List Value} (hvalues : ∀ v ∈ values, I n v) :
    Gives (f.apply values) (I (n + f.caseCalls)) := by
  unfold Builtin.apply
  split
  · exact .ok (h.atomic .null)
  · by_cases hf : f.caseCalls = 0
    · rw [hf]
      exact h.gives_compute hf hvalues
    · have hone : f.caseCalls = 1 := by cases f <;> first | rfl | exact absurd rfl hf
      rw [hone]
      exact h.gives_compute_case hf hvalues

/-! ### Expressions -/

theorem literal {v : Value} (hv : v.IsLiteral sourceLimit) : I n v := by
  cases hv with
  | atomic hv => exact h.atomic hv
  | str hs => exact h.limited (Nat.le_trans hs (by decide))

variable {env : Env}

theorem value (henv : env.Meets (I n)) (name : String) : I n (env.value name) := by
  unfold Env.value
  split
  · exact henv.line
  · cases hv : env.vars.lookup name with
    | none => exact h.atomic .null
    | some v =>
      obtain ⟨before, after, heq, -⟩ := List.lookup_eq_some_iff.mp hv
      exact henv.vars _ (heq ▸ List.mem_append_right before List.mem_cons_self)

omit h in
theorem gives_searchInput {v : Value} (hv : I n v) :
    Gives (searchInput v) fun input => ∀ s, input = some s → I n (.str s) := by
  unfold searchInput
  split
  · exact .ok nofun
  · exact .ok fun s hs => Option.some.inj hs ▸ hv
  · exact .error _

/-- The groups of a match are parts of the text. -/
theorem searchFor {text : String} (ht : I n (.str text)) (regex : Regex) (group : Nat) :
    I n (Script.searchFor regex text group) := by
  unfold Script.searchFor
  split
  · next s hs =>
    obtain ⟨groups, hgroups, hgroup⟩ := Option.bind_eq_some_iff.mp hs
    obtain ⟨slots, -, rfl⟩ := Option.map_eq_some_iff.mp hgroups
    obtain ⟨i, -, hi⟩ := List.mem_map.mp (List.mem_of_getElem? hgroup)
    split at hi
    · cases hi
      exact h.part ht ((List.take_sublist _ _).trans (List.drop_sublist _ _))
    · cases hi
  · exact h.atomic .null

end Kept

variable {I : Nat → Value → Prop} {n : Nat} {env : Env}

mutual

/-- The value of an expression has the property of what it is computed from, in a grade that is higher by the changes of
case. -/
theorem Kept.gives_eval (h : Kept I) (henv : env.Meets (I n)) (e : Expr) (he : e.TextsWithin sourceLimit) :
    Gives (e.eval env) (I (n + e.caseCalls)) := by
  match e with
  | .literal v =>
    rw [Expr.eval]
    exact .ok (h.literal he)
  | .var name =>
    rw [Expr.eval]
    exact .ok (h.value henv name)
  | .index target position =>
    rw [Expr.eval]
    refine (h.gives_eval henv target he.1).bind fun t ht => .bind_any fun _ => .bind_any fun i => ?_
    exact h.gives_itemAt (h.mono ht (Nat.add_le_add_left (Nat.le_add_right ..) n)) _
  | .neg operand =>
    rw [Expr.eval]
    exact .bind_any fun v => h.gives_atomic (isAtomic_negate v)
  | .not operand =>
    rw [Expr.eval]
    exact .bind_any fun v => .ok (h.atomic (.bool _))
  | .binary op left right =>
    rw [Expr.eval]
    refine (h.gives_eval henv left he.1).bind fun l hl => (h.gives_eval henv right he.2).bind fun r hr => ?_
    exact h.gives_binary op (h.mono hl (Nat.add_le_add_left (Nat.le_add_right ..) n))
      (h.mono hr (Nat.add_le_add_left (Nat.le_add_left ..) n))
  | .and left right =>
    rw [Expr.eval]
    refine .bind_any fun l => ?_
    split
    · exact .bind_any fun r => .ok (h.atomic (.bool _))
    · exact .ok (h.atomic (.bool _))
  | .or left right =>
    rw [Expr.eval]
    refine .bind_any fun l => ?_
    split
    · exact .ok (h.atomic (.bool _))
    · exact .bind_any fun r => .ok (h.atomic (.bool _))
  | .call f arguments =>
    by_cases hc : f = .cond
    · rw [hc, Expr.eval]
      exact h.gives_evalCond henv arguments he
    · by_cases hf : f = .coalesce
      · rw [hf, Expr.eval]
        exact h.gives_evalFirst henv arguments he
      · rw [Expr.eval_call hc hf, Expr.caseCalls, ← Nat.add_assoc]
        exact (h.gives_evalAll henv arguments he).bind fun values hvalues => h.gives_apply f hvalues
  | .search input regex =>
    rw [Expr.eval]
    refine (h.gives_eval henv input he).bind fun v hv => (gives_searchInput hv).bind fun text htext => ?_
    split
    · exact .ok (h.atomic .null)
    · exact .ok (h.searchFor (htext _ rfl) regex _)
  | .searchGroup input regex group =>
    rw [Expr.eval]
    refine (h.gives_eval henv input he.1).bind fun v hv => (gives_searchInput hv).bind fun text htext => ?_
    split
    · exact .ok (h.atomic .null)
    · refine .bind_any fun _ => .bind_any fun i => .ok ?_
      exact h.mono (h.searchFor (htext _ rfl) regex _) (Nat.add_le_add_left (Nat.le_add_right ..) n)

theorem Kept.gives_evalAll (h : Kept I) (henv : env.Meets (I n)) (arguments : List Expr)
    (he : ArgumentTextsWithin sourceLimit arguments) :
    Gives (evalAll env arguments) fun values => ∀ v ∈ values, I (n + argumentCaseCalls arguments) v := by
  match arguments with
  | [] => exact .ok nofun
  | a :: rest =>
    rw [evalAll]
    refine (h.gives_eval henv a he.1).bind fun v hv => (h.gives_evalAll henv rest he.2).bind fun vs hvs => .ok ?_
    refine List.forall_mem_cons.mpr ⟨h.mono hv (Nat.add_le_add_left (Nat.le_add_right ..) n), fun u hu => ?_⟩
    exact h.mono (hvs u hu) (Nat.add_le_add_left (Nat.le_add_left ..) n)

theorem Kept.gives_evalFirst (h : Kept I) (henv : env.Meets (I n)) (arguments : List Expr)
    (he : ArgumentTextsWithin sourceLimit arguments) :
    Gives (evalFirst env arguments) (I (n + argumentCaseCalls arguments)) := by
  match arguments with
  | [] => exact .ok (h.atomic .null)
  | a :: rest =>
    rw [evalFirst]
    refine (h.gives_eval henv a he.1).bind fun v hv => ?_
    split
    · intro u hu
      exact h.mono (h.gives_evalFirst henv rest he.2 u hu) (Nat.add_le_add_left (Nat.le_add_left ..) n)
    · exact .ok (h.mono hv (Nat.add_le_add_left (Nat.le_add_right ..) n))

theorem Kept.gives_evalCond (h : Kept I) (henv : env.Meets (I n)) (arguments : List Expr)
    (he : ArgumentTextsWithin sourceLimit arguments) :
    Gives (evalCond env arguments) (I (n + argumentCaseCalls arguments)) := by
  match arguments with
  | [condition, yes, no] =>
    rw [evalCond]
    refine .bind_any fun v => ?_
    simp only [argumentCaseCalls]
    split
    · exact fun u hu => h.mono (h.gives_eval henv yes he.2.1 u hu) (by omega)
    · exact fun u hu => h.mono (h.gives_eval henv no he.2.2.1 u hu) (by omega)
  | [] | [_] | [_, _] | _ :: _ :: _ :: _ :: _ =>
    exact .error _

end

end SampleRecorder.Script
