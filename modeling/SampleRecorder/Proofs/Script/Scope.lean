import Mathlib
import SampleRecorder.Proofs.Script.Validity
import SampleRecorder.Script.Eval

/-!
# Names in programs

An expression is evaluated from the values of its variables alone (`Expr.eval_congr`).  In a valid program each of them
is the line or bound by a statement before, and a run binds the names of the statements that it has gone through, so
every variable has a value when it is read (`Program.variables_bound`).
-/

namespace SampleRecorder.Script

mutual

/-- The names that stand in an expression. -/
def Expr.variables : Expr → List String
  | .literal _ => []
  | .var name => [name]
  | .index target position => target.variables ++ position.variables
  | .neg operand | .not operand => operand.variables
  | .binary _ left right | .and left right | .or left right => left.variables ++ right.variables
  | .call _ arguments => argumentVariables arguments
  | .search input _ => input.variables
  | .searchGroup input _ group => input.variables ++ group.variables

/-- The names that stand in arguments. -/
def argumentVariables : List Expr → List String
  | [] => []
  | a :: rest => a.variables ++ argumentVariables rest

end

/-- The names that stand in the expression of a statement. -/
def Stmt.variables : Stmt → List String
  | .bind _ value | .assign _ value | .eval value => value.variables
  | .reject => []

/-! ### Variables of valid programs -/

mutual

theorem variables_of_isValid {names : List String} (e : Expr) (h : e.IsValid names) :
    ∀ name ∈ e.variables, name = "line" ∨ name ∈ names := by
  match e with
  | .literal v => exact nofun
  | .var name =>
    intro name' hname
    rw [List.mem_singleton.mp hname]
    exact h
  | .index target position =>
    exact List.forall_mem_append.mpr ⟨variables_of_isValid target h.1, variables_of_isValid position h.2⟩
  | .neg operand => exact variables_of_isValid operand h
  | .not operand => exact variables_of_isValid operand h
  | .binary _ left right =>
    exact List.forall_mem_append.mpr ⟨variables_of_isValid left h.1, variables_of_isValid right h.2⟩
  | .and left right =>
    exact List.forall_mem_append.mpr ⟨variables_of_isValid left h.1, variables_of_isValid right h.2⟩
  | .or left right =>
    exact List.forall_mem_append.mpr ⟨variables_of_isValid left h.1, variables_of_isValid right h.2⟩
  | .call _ arguments => exact variables_of_areValid arguments h.2
  | .search input _ => exact variables_of_isValid input h.1
  | .searchGroup input _ group =>
    exact List.forall_mem_append.mpr ⟨variables_of_isValid input h.1, variables_of_isValid group h.2.2⟩

theorem variables_of_areValid {names : List String} (arguments : List Expr) (h : AreValid names arguments) :
    ∀ name ∈ argumentVariables arguments, name = "line" ∨ name ∈ names := by
  match arguments with
  | [] => exact nofun
  | a :: rest => exact List.forall_mem_append.mpr ⟨variables_of_isValid a h.1, variables_of_areValid rest h.2⟩

end

theorem Stmt.IsValid.variables {names : List String} {s : Stmt} (h : s.IsValid names) :
    ∀ name ∈ s.variables, name = "line" ∨ name ∈ names := by
  cases s with
  | bind name value => exact variables_of_isValid value h.2
  | assign name value => exact variables_of_isValid value h.2
  | reject => exact nofun
  | eval value => exact variables_of_isValid value h

/-- A variable of a statement among others is the line, known from the start, or bound by a statement before. -/
theorem StatementsValid.variables {names : List String} {before later : List Stmt} {s : Stmt}
    (h : StatementsValid names (before ++ s :: later)) :
    ∀ name ∈ s.variables, name = "line" ∨ name ∈ names ∨ ∃ t ∈ before, Parse.bound? t = some name := by
  induction before generalizing names with
  | nil => exact fun name hname => (h.1.variables name hname).imp_right .inl
  | cons t before ih =>
    intro name hname
    rcases ih h.2 name hname with hline | hnames | ⟨u, hu, hbound⟩
    · exact .inl hline
    · rw [List.mem_append, Option.mem_toList] at hnames
      exact .inr (hnames.symm.imp_right fun hbound => ⟨t, List.mem_cons_self, hbound⟩)
    · exact .inr (.inr ⟨u, List.mem_cons_of_mem t hu, hbound⟩)

/-! ### Evaluation reads variables only -/

/-- Whether two environments have the same values under some names. -/
def Env.AgreesOn (env env' : Env) (names : List String) : Prop :=
  ∀ name ∈ names, env.value name = env'.value name

theorem Env.agreesOn_append {env env' : Env} {a b : List String} :
    env.AgreesOn env' (a ++ b) ↔ env.AgreesOn env' a ∧ env.AgreesOn env' b :=
  List.forall_mem_append

mutual

/-- Environments that agree on the variables of an expression give it the same value. -/
theorem Expr.eval_congr {env env' : Env} (e : Expr) (h : env.AgreesOn env' e.variables) : e.eval env = e.eval env' := by
  match e with
  | .literal v => rfl
  | .var name =>
    rw [Expr.eval, Expr.eval, h name (List.mem_singleton_self name)]
  | .index target position =>
    rw [Expr.variables, Env.agreesOn_append] at h
    rw [Expr.eval, Expr.eval, Expr.eval_congr target h.1, Expr.eval_congr position h.2]
  | .neg operand => rw [Expr.eval, Expr.eval, Expr.eval_congr operand h]
  | .not operand => rw [Expr.eval, Expr.eval, Expr.eval_congr operand h]
  | .binary op left right =>
    rw [Expr.variables, Env.agreesOn_append] at h
    rw [Expr.eval, Expr.eval, Expr.eval_congr left h.1, Expr.eval_congr right h.2]
  | .and left right =>
    rw [Expr.variables, Env.agreesOn_append] at h
    rw [Expr.eval, Expr.eval, Expr.eval_congr left h.1, Expr.eval_congr right h.2]
  | .or left right =>
    rw [Expr.variables, Env.agreesOn_append] at h
    rw [Expr.eval, Expr.eval, Expr.eval_congr left h.1, Expr.eval_congr right h.2]
  | .call f arguments =>
    by_cases hc : f = .cond
    · subst hc
      rw [Expr.eval, Expr.eval, evalCond_congr arguments h]
    · by_cases hf : f = .coalesce
      · subst hf
        rw [Expr.eval, Expr.eval, evalFirst_congr arguments h]
      · rw [Expr.eval_call hc hf, Expr.eval_call hc hf, evalAll_congr arguments h]
  | .search input regex => rw [Expr.eval, Expr.eval, Expr.eval_congr input h]
  | .searchGroup input regex group =>
    rw [Expr.variables, Env.agreesOn_append] at h
    rw [Expr.eval, Expr.eval, Expr.eval_congr input h.1, Expr.eval_congr group h.2]

theorem evalAll_congr {env env' : Env} (arguments : List Expr) (h : env.AgreesOn env' (argumentVariables arguments)) :
    evalAll env arguments = evalAll env' arguments := by
  match arguments with
  | [] => rfl
  | a :: rest =>
    rw [argumentVariables, Env.agreesOn_append] at h
    rw [evalAll, evalAll, Expr.eval_congr a h.1, evalAll_congr rest h.2]

theorem evalFirst_congr {env env' : Env} (arguments : List Expr)
    (h : env.AgreesOn env' (argumentVariables arguments)) : evalFirst env arguments = evalFirst env' arguments := by
  match arguments with
  | [] => rfl
  | a :: rest =>
    rw [argumentVariables, Env.agreesOn_append] at h
    rw [evalFirst, evalFirst, Expr.eval_congr a h.1, evalFirst_congr rest h.2]

theorem evalCond_congr {env env' : Env} (arguments : List Expr)
    (h : env.AgreesOn env' (argumentVariables arguments)) : evalCond env arguments = evalCond env' arguments := by
  match arguments with
  | [condition, yes, no] =>
    simp only [argumentVariables, Env.agreesOn_append] at h
    rw [evalCond, evalCond, Expr.eval_congr condition h.1, Expr.eval_congr yes h.2.1, Expr.eval_congr no h.2.2.1]
  | [] => rfl
  | [_] => rfl
  | [_, _] => rfl
  | _ :: _ :: _ :: _ :: _ => rfl

end

/-! ### Names that a run has bound -/

/-- Whether a name has been bound. -/
def Env.Binds (env : Env) (name : String) : Prop :=
  ∃ v, env.vars.lookup name = some v

theorem Env.binds_bind (env : Env) (name : String) (v : Value) : (env.bind name v).Binds name :=
  ⟨v, by simp [Env.bind]⟩

theorem Env.Binds.bind {env : Env} {name : String} (h : env.Binds name) (name' : String) (v : Value) :
    (env.bind name' v).Binds name := by
  by_cases heq : name = name'
  · rw [heq]
    exact env.binds_bind name' v
  · obtain ⟨w, hw⟩ := h
    exact ⟨w, by rw [Env.bind, List.lookup_cons, beq_eq_false_iff_ne.mpr heq, hw]⟩

/-- A statement binds its name and keeps the names bound before. -/
theorem gives_run_binds (st : State) (s : Stmt) :
    Gives (s.run st) fun st' => ∀ name, Parse.bound? s = some name ∨ st.env.Binds name → st'.env.Binds name := by
  have bound (name : String) (v : Value) :
      ∀ name', some name = some name' ∨ st.env.Binds name' → (st.env.bind name v).Binds name' := by
    rintro name' (heq | h)
    · rw [← Option.some.inj heq]
      exact st.env.binds_bind name v
    · exact h.bind name v
  cases s with
  | bind name value => exact .bind_any fun v => .ok (bound name v)
  | assign name value => exact .bind_any fun v => .ok (bound name v)
  | reject => exact .error _
  | eval value => exact .bind_any fun v => .ok fun name h => h.resolve_left nofun

/-- A run binds the names of all its statements. -/
theorem gives_runAll_binds (st : State) (list : List Stmt) :
    Gives (runAll st list) fun st' =>
      ∀ name, (∃ t ∈ list, Parse.bound? t = some name) ∨ st.env.Binds name → st'.env.Binds name := by
  induction list generalizing st with
  | nil => exact .ok fun name h => h.resolve_left (by simp)
  | cons s rest ih =>
    refine (gives_run_binds st s).bind fun st₁ hst₁ => ?_
    intro st₂ hrun name h
    refine ih st₁ st₂ hrun name ?_
    rcases h with ⟨t, ht, hbound⟩ | h
    · rcases List.mem_cons.mp ht with rfl | ht
      · exact .inr (hst₁ name (.inl hbound))
      · exact .inl ⟨t, ht, hbound⟩
    · exact .inr (hst₁ name (.inr h))

/-! ### Names that nothing has bound -/

/-- The state with values for names that have none. -/
def State.assuming (st : State) (unknown : List (String × Value)) : State :=
  { st with env := { st.env with vars := st.env.vars ++ unknown } }

theorem agreesOn_assuming {st : State} {names names' : List String} (hnames : ∀ name ∈ names, st.env.Binds name)
    (hvars : ∀ name ∈ names', name = "line" ∨ name ∈ names) (unknown : List (String × Value)) :
    (st.assuming unknown).env.AgreesOn st.env names' := by
  intro name hname
  by_cases hline : name = "line"
  · simp [Env.value, State.assuming, hline]
  · obtain ⟨v, hv⟩ := hnames name ((hvars name hname).resolve_left hline)
    simp [Env.value, State.assuming, hline, List.lookup_append, hv]

/-- A valid statement makes nothing of values for names that have none. -/
theorem run_assuming {st : State} {names : List String} (hnames : ∀ name ∈ names, st.env.Binds name) {s : Stmt}
    (hs : s.IsValid names) (unknown : List (String × Value)) :
    s.run (st.assuming unknown) = (s.run st).map (·.assuming unknown) := by
  have heval (value : Expr) (hvars : ∀ name ∈ value.variables, name = "line" ∨ name ∈ names) :
      value.eval (st.assuming unknown).env = value.eval st.env :=
    Expr.eval_congr value (agreesOn_assuming hnames hvars unknown)
  cases s with
  | bind name value =>
    rw [Stmt.run, Stmt.run, heval value hs.variables]
    cases value.eval st.env <;> rfl
  | assign name value =>
    rw [Stmt.run, Stmt.run, heval value hs.variables]
    cases value.eval st.env <;> rfl
  | reject => rfl
  | eval value =>
    rw [Stmt.run, Stmt.run, heval value hs.variables]
    cases value.eval st.env <;> rfl

theorem runAll_assuming {st : State} {names : List String} (hnames : ∀ name ∈ names, st.env.Binds name)
    {list : List Stmt} (hlist : StatementsValid names list) (unknown : List (String × Value)) :
    runAll (st.assuming unknown) list = (runAll st list).map (·.assuming unknown) := by
  induction list generalizing st names with
  | nil => rfl
  | cons s rest ih =>
    rw [runAll, runAll, run_assuming hnames hlist.1 unknown]
    cases hrun : s.run st with
    | error halt => rfl
    | ok st' =>
      -- what `s` binds is bound from here on
      have hbinds : ∀ name ∈ (Parse.bound? s).toList ++ names, st'.env.Binds name := by
        intro name hname
        rw [List.mem_append, Option.mem_toList] at hname
        exact gives_run_binds st s st' hrun name (hname.imp_right (hnames name))
      exact ih hbinds hlist.2

/-- Every variable of a compiled program is the line or bound by a statement before, and it has a value in every run that
gets as far as its statement.  So it makes no difference what a name would stand for that nothing has bound. -/
theorem Program.variables_bound {source : String} {p : Program} (h : compile source = .ok p) (line : String) :
    (∀ before s later, p.statements = before ++ s :: later →
      ∀ name ∈ s.variables, name = "line" ∨ ∃ t ∈ before, Parse.bound? t = some name) ∧
    (∀ before s later st, p.statements = before ++ s :: later → runAll ⟨⟨line, []⟩, .empty⟩ before = .ok st →
      ∀ name ∈ s.variables, name = "line" ∨ ∃ v, st.env.vars.lookup name = some v) ∧
    ∀ unknown, (runAll ⟨⟨line, unknown⟩, .empty⟩ p.statements).map State.fields =
      (runAll ⟨⟨line, []⟩, .empty⟩ p.statements).map State.fields := by
  have hvalid : StatementsValid [] p.statements := isValid_of_compile h
  have hstatic : ∀ before s later, p.statements = before ++ s :: later →
      ∀ name ∈ s.variables, name = "line" ∨ ∃ t ∈ before, Parse.bound? t = some name := by
    intro before s later heq name hname
    rw [heq] at hvalid
    exact (hvalid.variables name hname).imp_right fun h => h.resolve_left List.not_mem_nil
  refine ⟨hstatic, fun before s later st heq hrun name hname => ?_, fun unknown => ?_⟩
  · refine (hstatic before s later heq name hname).imp_right fun hbound => ?_
    exact gives_runAll_binds _ before st hrun name (.inl hbound)
  · have hnone : ∀ name ∈ [], (⟨⟨line, []⟩, .empty⟩ : State).env.Binds name := nofun
    have hrun : runAll ⟨⟨line, unknown⟩, .empty⟩ p.statements = _ := runAll_assuming hnone hvalid unknown
    rw [hrun]
    cases runAll ⟨⟨line, []⟩, .empty⟩ p.statements <;> rfl

/-- A variable with the name of a function. -/
theorem Program.variables_bound_shadowed :
    let size : Expr := .call .len [.var "line"]
    let p : Program := ⟨[.bind "len" size, .assign "y" (.binary .add (.var "len") size)]⟩
    compile "let len = len(line); y = len + len(line)" = .ok p ∧
      ("len" = "line" ∨ ∃ t ∈ [Stmt.bind "len" size], Parse.bound? t = some "len") ∧
      ∀ unknown, (runAll ⟨⟨"abc", unknown⟩, .empty⟩ p.statements).map State.fields =
        (runAll ⟨⟨"abc", []⟩, .empty⟩ p.statements).map State.fields := by
  intro size p
  have hcompile : compile "let len = len(line); y = len + len(line)" = .ok p := by cbv
  obtain ⟨hstatic, -, hunknown⟩ := variables_bound hcompile "abc"
  exact ⟨hcompile, hstatic [.bind "len" size] _ [] rfl "len" (by decide), hunknown⟩

end SampleRecorder.Script
