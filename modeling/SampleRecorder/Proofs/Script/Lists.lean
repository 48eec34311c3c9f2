import SampleRecorder.Proofs.Script.History
import SampleRecorder.Proofs.Script.Kept

/-!
# The lists of a program

No list can be written in a program, `split` makes lists of texts, and all else that gives a list gives one that is there
already, or two of them put together.  So every list that is computed in a run is a list of texts
(`Program.lists_of_compile`).  For such a list it makes no difference which notion of equality an item is looked for with,
there is no least or greatest item, and what is stored of it is a JSON array of strings.
-/

namespace SampleRecorder.Script

/-! ### Flat values -/

/-- Whether a value is a list of texts, or no list. -/
inductive Value.IsFlat : Value → Prop where
  | atomic {v : Value} (h : v.IsAtomic) : IsFlat v
  | str (s : String) : IsFlat (.str s)
  | list (texts : List String) : IsFlat (.list (texts.map .str))

theorem Value.IsFlat.exists_texts {items : List Value} (h : (Value.list items).IsFlat) :
    ∃ texts : List String, items = texts.map .str := by
  cases h with
  | atomic h => cases h
  | list texts => exact ⟨texts, rfl⟩

/-- Flat values are all that evaluation gives, whatever changes of case there are. -/
theorem kept_isFlat : Kept fun _ v => v.IsFlat where
  mono h _ := h
  atomic h := .atomic h
  limited _ := .str _
  part _ _ := .str _
  upper _ := .str _
  lower _ := .str _
  texts _ := .list _
  append {_ a b} ha hb := by
    obtain ⟨left, rfl⟩ := ha.exists_texts
    obtain ⟨right, rfl⟩ := hb.exists_texts
    rw [← List.map_append]
    exact .list _
  item {_ items} h v hv := by
    obtain ⟨texts, rfl⟩ := h.exists_texts
    obtain ⟨t, -, rfl⟩ := List.mem_map.mp hv
    exact .str t

/-! ### Parts of expressions -/

variable {env : Env}

theorem ArgumentTextsWithin.of_mem {bound : Nat} {list : List Expr} (h : ArgumentTextsWithin bound list) {a : Expr}
    (ha : a ∈ list) : a.TextsWithin bound := by
  induction list with
  | nil => cases ha
  | cons b list ih =>
    rcases List.mem_cons.mp ha with rfl | ha
    · exact h.1
    · exact ih h.2 ha

/-- What evaluation comes to has the texts of what it is a part of. -/
theorem Expr.TextsWithin.visits {bound : Nat} {e part : Expr} (h : e.TextsWithin bound) (hvisits : e.Visits env part) :
    part.TextsWithin bound := by
  cases hvisits with
  | neg | not | searched => exact h
  | target | left | andLeft | orLeft | searchedGroup => exact h.1
  | position | right | andRight | orRight | group => exact h.2
  | condition | yes | no => exact h.of_mem (by simp)
  | coalesce | argument => exact h.of_mem (List.mem_append_right _ List.mem_cons_self)

theorem Expr.TextsWithin.reaches {bound : Nat} {e part : Expr} (h : e.TextsWithin bound)
    (hreaches : e.Reaches env part) : part.TextsWithin bound := by
  induction hreaches with
  | refl => exact h
  | tail _ hvisits ih => exact ih.visits hvisits

/-! ### Runs -/

/-- Whether a value is computed in a step: the evaluation comes to an expression that has it. -/
def Step.Computes (step : Step) (v : Value) : Prop :=
  ∃ e part, step.stmt.expr? = some e ∧ e.Reaches step.env part ∧ part.eval step.env = .ok v

theorem Stmt.TextsWithin.expr {bound : Nat} {stmt : Stmt} (h : stmt.TextsWithin bound) {e : Expr}
    (he : stmt.expr? = some e) : e.TextsWithin bound := by
  cases stmt with
  | bind name value | assign name value | eval value =>
    obtain rfl := Option.some.inj he
    exact h
  | reject => cases he

theorem Stmt.isFlat_compute (henv : env.Meets Value.IsFlat) {stmt : Stmt} (h : stmt.TextsWithin sourceLimit) :
    Gives (stmt.compute env) Value.IsFlat := by
  unfold compute
  split
  · next e he => exact kept_isFlat.gives_eval (n := 0) henv e (h.expr he)
  · exact .error _

theorem Stmt.isFlat_extend (henv : env.Meets Value.IsFlat) {v : Value} (hv : v.IsFlat) (stmt : Stmt) :
    (stmt.extend env v).Meets Value.IsFlat := by
  cases stmt with
  | bind name _ | assign name _ => exact henv.bind hv name
  | eval _ | reject => exact henv

/-- The variables keep flat values from one statement to the next. -/
theorem isFlat_of_mem_history {stmts : List Stmt} (henv : env.Meets Value.IsFlat)
    (htexts : ∀ stmt ∈ stmts, stmt.TextsWithin sourceLimit) {step : Step} (hstep : step ∈ history env stmts) :
    step.env.Meets Value.IsFlat ∧ step.stmt.TextsWithin sourceLimit := by
  induction stmts generalizing env with
  | nil => cases hstep
  | cons stmt rest ih =>
    obtain ⟨hstmt, hrest⟩ := List.forall_mem_cons.mp htexts
    rw [history] at hstep
    rcases List.mem_cons.mp hstep with rfl | hstep
    · exact ⟨henv, hstmt⟩
    · cases hcompute : stmt.compute env with
      | error halt =>
        rw [hcompute] at hstep
        cases hstep
      | ok v =>
        rw [hcompute] at hstep
        exact ih (Stmt.isFlat_extend henv (Stmt.isFlat_compute henv hstmt v hcompute) stmt) hrest hstep

section Compiled

variable {source line : String} {p : Program} {step : Step} {v : Value}

theorem isFlat_of_computes (h : Program.compile source = .ok p) (hstep : step ∈ history ⟨line, []⟩ p.statements)
    (hcomputes : step.Computes v) : v.IsFlat := by
  have hempty : Env.Meets Value.IsFlat ⟨line, []⟩ := ⟨.str line, fun _ hentry => absurd hentry List.not_mem_nil⟩
  obtain ⟨henv, htexts⟩ := isFlat_of_mem_history hempty (Program.texts_of_compile h) hstep
  obtain ⟨e, part, he, hreaches, hpart⟩ := hcomputes
  exact kept_isFlat.gives_eval (n := 0) henv part ((htexts.expr he).reaches hreaches) v hpart

theorem computes_of_result (hstep : step ∈ history ⟨line, []⟩ p.statements) (hresult : step.result = .ok v) :
    step.Computes v := by
  rw [result_of_mem_history hstep, Stmt.compute] at hresult
  split at hresult
  · next e he => exact ⟨e, e, he, .refl, hresult⟩
  · cases hresult

/-- What is assigned is computed in some step. -/
theorem exists_computes_of_lastAssigned? {name : String}
    (h : lastAssigned? name (history ⟨line, []⟩ p.statements) = some v) :
    ∃ step ∈ history ⟨line, []⟩ p.statements, step.Computes v := by
  obtain ⟨step, hstep, hassigned⟩ := List.exists_of_findSome?_eq_some h
  rw [List.mem_reverse] at hstep
  refine ⟨step, hstep, computes_of_result hstep ?_⟩
  unfold Step.assigned? at hassigned
  split at hassigned
  · next hresult =>
    obtain ⟨-, hv⟩ := Option.ite_none_right_eq_some.mp hassigned
    rw [hresult, Option.some.inj hv]
  · cases hassigned

end Compiled

/-! ### Lists of texts -/

/-- The item of a flat list that is found is one that is equal in expressions. -/
theorem Builtin.apply_contains_texts (texts : List String) (v : Value) :
    ∃ b, contains.apply [.list (texts.map .str), v] = .ok (.bool b) ∧
      (b = true ↔ ∃ item ∈ texts.map Value.str, BinaryOp.eq.apply item v = .ok (.bool true)) := by
  have hsame (t : String) : (Value.str t).same v = (Value.str t).equals v := by
    cases v <;> rfl
  refine ⟨_, rfl, ?_⟩
  simp only [List.any_eq_true, List.mem_map, BinaryOp.apply, Except.ok.injEq, Value.bool.injEq]
  constructor
  · rintro ⟨_, ⟨t, ht, rfl⟩, hequal⟩
    exact ⟨_, ⟨t, ht, rfl⟩, hsame t ▸ hequal⟩
  · rintro ⟨_, ⟨t, ht, rfl⟩, hequal⟩
    exact ⟨_, ⟨t, ht, rfl⟩, (hsame t).symm ▸ hequal⟩

/-- A text has no place in the order of numbers. -/
theorem Builtin.apply_extreme_texts {texts : List String} (h : texts ≠ []) :
    min.apply [.list (texts.map .str)] = .error (.failed (.wantsNumber "min" .string)) ∧
      max.apply [.list (texts.map .str)] = .error (.failed (.wantsNumber "max" .string)) := by
  cases texts with
  | nil => exact absurd rfl h
  | cons t texts => exact ⟨rfl, rfl⟩

theorem Value.toField?_texts (texts : List String) :
    (Value.list (texts.map .str)).toField? = some (.text (String.ofList (Json.strings texts).compact)) := by
  have hitems : itemsToJson (texts.map .str) = texts.map .str := by
    induction texts with
    | nil => rfl
    | cons t texts ih => rw [List.map_cons, itemsToJson, ih, toJson, List.map_cons]
  rw [toField?, display, toJson, hitems]
  rfl

/-- Every list that a run of a compiled program computes, on any line, is a list of texts.  Looking for a value in it finds
the items that are equal to the value as the operator `==` has it, asking for its least or its greatest item fails unless
it is empty, and where it is stored the field is the text of a JSON array of strings. -/
theorem Program.lists_of_compile {source : String} {p : Program} (h : compile source = .ok p) (line : String) :
    (∀ step ∈ history ⟨line, []⟩ p.statements, ∀ items, step.Computes (.list items) →
      (∃ texts : List String, items = texts.map .str) ∧
        (∀ v, ∃ b, Builtin.contains.apply [.list items, v] = .ok (.bool b) ∧
          (b = true ↔ ∃ item ∈ items, BinaryOp.eq.apply item v = .ok (.bool true))) ∧
        (items ≠ [] →
          Builtin.min.apply [.list items] = .error (.failed (.wantsNumber "min" .string)) ∧
            Builtin.max.apply [.list items] = .error (.failed (.wantsNumber "max" .string)))) ∧
    ∀ fields, p.evaluate line = .fields fields → ∀ name items,
      lastAssigned? name (history ⟨line, []⟩ p.statements) = some (.list items) →
        ∃ texts : List String, items = texts.map .str ∧
          fields.get? name = some (.text (String.ofList (Json.strings texts).compact)) := by
  constructor
  · intro step hstep items hcomputes
    obtain ⟨texts, rfl⟩ := (isFlat_of_computes h hstep hcomputes).exists_texts
    refine ⟨⟨texts, rfl⟩, Builtin.apply_contains_texts texts, fun hne => Builtin.apply_extreme_texts fun hnil => ?_⟩
    exact hne (by rw [hnil, List.map_nil])
  · intro fields hfields name items hlast
    obtain ⟨step, hstep, hcomputes⟩ := exists_computes_of_lastAssigned? hlast
    obtain ⟨texts, rfl⟩ := (isFlat_of_computes h hstep hcomputes).exists_texts
    obtain ⟨s, hs, rfl⟩ := p.run_of_evaluate hfields
    obtain ⟨-, -, hget⟩ := fields_of_runAll hs
    refine ⟨texts, rfl, ?_⟩
    rw [hget, hlast]
    exact Value.toField?_texts texts

/-- A list that is put together from two and holds a quotation mark, and the text that is stored of it. -/
theorem Program.lists_of_compile_sum :
    let p : Program := ⟨[.assign "v" (.binary .add (.call .split [.var "line", .literal (.str ",")])
      (.call .split [.literal (.str "3"), .literal (.str ",")]))]⟩
    compile "v = split(line, ',') + split('3', ',')" = .ok p ∧
      ∃ fields, p.evaluate "1,\"2" = .fields fields ∧
        fields.get? "v" = some (.text "[\"1\",\"\\\"2\",\"3\"]") := by
  intro p
  have hcompile : compile "v = split(line, ',') + split('3', ',')" = .ok p := by cbv
  obtain ⟨fields, hfields⟩ : ∃ fields, p.evaluate "1,\"2" = .fields fields := ⟨_, by cbv⟩
  have hlast : lastAssigned? "v" (history ⟨"1,\"2", []⟩ p.statements) =
      some (.list [.str "1", .str "\"2", .str "3"]) := by cbv
  obtain ⟨texts, htexts, hstored⟩ := (lists_of_compile hcompile "1,\"2").2 fields hfields "v" _ hlast
  obtain rfl : texts = ["1", "\"2", "3"] := List.map_injective_iff.mpr (fun _ _ => Value.str.inj) htexts.symm
  have htext : String.ofList (Json.strings ["1", "\"2", "3"]).compact = "[\"1\",\"\\\"2\",\"3\"]" := by decide
  rw [htext] at hstored
  exact ⟨hcompile, fields, hfields, hstored⟩

end SampleRecorder.Script
