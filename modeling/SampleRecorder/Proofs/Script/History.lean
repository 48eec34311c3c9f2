import Mathlib.Logic.Relation
import SampleRecorder.Proofs.Script.Integers
import SampleRecorder.Proofs.Script.Stored

/-!
# The history of a run

What a run of a program does, statement by statement, told without the fields that it gives: each executed statement with
the names that were bound before it and with what its expression gave.  The fields of a line can be read off this history
(`Program.fields_of_history`): under each name stands what was assigned to it last, unless that is null, and nothing else
counts.  A run in which something halts gives no fields, and what stands behind is not executed.
-/

namespace SampleRecorder.Script

/-! ### Reaching an expression -/

/-- Whether the evaluation of an expression begins with, or goes on with, the evaluation of a part of it. -/
inductive Expr.Visits (env : Env) : Expr → Expr → Prop where
  | target (t p : Expr) : Visits env (.index t p) t
  | position {t p : Expr} {v : Value} (ht : t.eval env = .ok v) : Visits env (.index t p) p
  | neg (e : Expr) : Visits env (.neg e) e
  | not (e : Expr) : Visits env (.not e) e
  | left (op : BinaryOp) (l r : Expr) : Visits env (.binary op l r) l
  | right (op : BinaryOp) {l r : Expr} {v : Value} (hl : l.eval env = .ok v) : Visits env (.binary op l r) r
  | andLeft (l r : Expr) : Visits env (.and l r) l
  | andRight {l r : Expr} {v : Value} (hl : l.eval env = .ok v) (hv : v.truthy = true) : Visits env (.and l r) r
  | orLeft (l r : Expr) : Visits env (.or l r) l
  | orRight {l r : Expr} {v : Value} (hl : l.eval env = .ok v) (hv : v.truthy = false) : Visits env (.or l r) r
  | condition (c yes no : Expr) : Visits env (.call .cond [c, yes, no]) c
  | yes {c yes no : Expr} {v : Value} (hc : c.eval env = .ok v) (hv : v.truthy = true) :
    Visits env (.call .cond [c, yes, no]) yes
  | no {c yes no : Expr} {v : Value} (hc : c.eval env = .ok v) (hv : v.truthy = false) :
    Visits env (.call .cond [c, yes, no]) no
  | coalesce {before after : List Expr} {e : Expr} (hbefore : ∀ b ∈ before, b.eval env = .ok .null) :
    Visits env (.call .coalesce (before ++ e :: after)) e
  | argument {f : Builtin} (hf : f ≠ .cond ∧ f ≠ .coalesce) {before after : List Expr} {e : Expr}
    (hbefore : ∀ b ∈ before, ∃ v, b.eval env = .ok v) : Visits env (.call f (before ++ e :: after)) e
  | searched (e : Expr) (regex : Regex) : Visits env (.search e regex) e
  | searchedGroup (e : Expr) (regex : Regex) (group : Expr) : Visits env (.searchGroup e regex group) e
  | group {e : Expr} (regex : Regex) {group : Expr} {text : String} (he : e.eval env = .ok (.str text)) :
    Visits env (.searchGroup e regex group) group

/-- Whether the evaluation of an expression comes to the evaluation of another one, which may be any depth inside. -/
abbrev Expr.Reaches (env : Env) : Expr → Expr → Prop :=
  Relation.ReflTransGen (Expr.Visits env)

variable {env : Env}

theorem evalAll_of_halt {before after : List Expr} {e : Expr} {halt : Halt}
    (hbefore : ∀ b ∈ before, ∃ v, b.eval env = .ok v) (he : e.eval env = .error halt) :
    evalAll env (before ++ e :: after) = .error halt := by
  induction before with
  | nil =>
    rw [List.nil_append, evalAll, he]
    rfl
  | cons b before ih =>
    obtain ⟨⟨v, hv⟩, hrest⟩ := List.forall_mem_cons.mp hbefore
    rw [List.cons_append, evalAll, hv, ih hrest]
    rfl

theorem evalFirst_of_halt {before after : List Expr} {e : Expr} {halt : Halt}
    (hbefore : ∀ b ∈ before, b.eval env = .ok .null) (he : e.eval env = .error halt) :
    evalFirst env (before ++ e :: after) = .error halt := by
  induction before with
  | nil =>
    rw [List.nil_append, evalFirst, he]
    rfl
  | cons b before ih =>
    obtain ⟨hnull, hrest⟩ := List.forall_mem_cons.mp hbefore
    rw [List.cons_append, evalFirst, hnull]
    exact ih hrest

/-- A part that halts ends the evaluation of the whole. -/
theorem Expr.halts_of_visits {e part : Expr} {halt : Halt} (h : Expr.Visits env e part)
    (hpart : part.eval env = .error halt) : e.eval env = .error halt := by
  cases h with
  | target | neg | not | left | andLeft | orLeft | searched | searchedGroup =>
    rw [Expr.eval, hpart]
    rfl
  | position h | right op h =>
    rw [Expr.eval, h, hpart]
    rfl
  | andRight h hv =>
    rw [Expr.eval, h]
    refine (if_pos hv).trans ?_
    rw [hpart]
    rfl
  | orRight h hv =>
    rw [Expr.eval, h]
    refine (if_neg (Bool.eq_false_iff.mp hv)).trans ?_
    rw [hpart]
    rfl
  | condition =>
    rw [Expr.eval, evalCond, hpart]
    rfl
  | yes h hv =>
    rw [Expr.eval, evalCond, h]
    exact (if_pos hv).trans hpart
  | no h hv =>
    rw [Expr.eval, evalCond, h]
    exact (if_neg (Bool.eq_false_iff.mp hv)).trans hpart
  | coalesce hbefore =>
    rw [Expr.eval]
    exact evalFirst_of_halt hbefore hpart
  | argument hf hbefore =>
    rw [Expr.eval_call hf.1 hf.2, evalAll_of_halt hbefore hpart]
    rfl
  | group regex h =>
    rw [Expr.eval, h]
    show (part.eval env >>= _) = _
    rw [hpart]
    rfl

theorem Expr.halts_of_reaches {e part : Expr} {halt : Halt} (h : Expr.Reaches env e part)
    (hpart : part.eval env = .error halt) : e.eval env = .error halt := by
  induction h with
  | refl => exact hpart
  | tail _ hvisits ih => exact ih (Expr.halts_of_visits hvisits hpart)

/-! ### Executed statements -/

namespace Stmt

/-- The expression of a statement. -/
def expr? : Stmt → Option Expr
  | bind _ e | assign _ e | eval e => some e
  | reject => none

/-- What a statement computes. -/
def compute (env : Env) (stmt : Stmt) : Except Halt Value :=
  match stmt.expr? with
  | some e => e.eval env
  | none => .error .reject

/-- The names that are bound behind a statement. -/
def extend (env : Env) (v : Value) : Stmt → Env
  | bind name _ | assign name _ => env.bind name v
  | eval _ | reject => env

/-- The fields behind a statement. -/
def keep (fields : Fields) (v : Value) : Stmt → Fields
  | assign name _ => store fields name v
  | bind _ _ | eval _ | reject => fields

theorem run_eq (s : State) (stmt : Stmt) :
    stmt.run s = (stmt.compute s.env).map fun v => ⟨stmt.extend s.env v, stmt.keep s.fields v⟩ := by
  cases stmt with
  | reject => rfl
  | bind name e | assign name e | eval e =>
    rw [run, compute, expr?]
    show (e.eval s.env >>= _) = (e.eval s.env).map _
    cases e.eval s.env <;> rfl

end Stmt

/-- A statement that was executed, with the names that were bound before it and what it computed. -/
structure Step where
  env : Env
  stmt : Stmt
  result : Except Halt Value

/-- The steps of a run, up to the first one that halts. -/
def history (env : Env) : List Stmt → List Step
  | [] => []
  | stmt :: rest =>
    ⟨env, stmt, stmt.compute env⟩ ::
      match stmt.compute env with
      | .ok v => history (stmt.extend env v) rest
      | .error _ => []

/-- The value that a step assigns to a name. -/
def Step.assigned? (name : String) (step : Step) : Option Value :=
  match step.stmt, step.result with
  | .assign key _, .ok v => if name = key then some v else none
  | _, _ => none

/-- The value that is assigned to a name last. -/
def lastAssigned? (name : String) (steps : List Step) : Option Value :=
  steps.reverse.findSome? (Step.assigned? name)

/-- What a run comes to when a step halts. -/
def Halt.outcome : Halt → Outcome
  | reject => .rejected
  | failed f => .failed f

/-- What ends a run in a step: the statement `reject`, a `require` of a value that does not count as true, or an error, if
the evaluation comes to it. -/
inductive Step.RunsInto (step : Step) : Halt → Prop where
  | reject (h : step.stmt = .reject) : RunsInto step .reject
  | require {e argument : Expr} {v : Value} (he : step.stmt.expr? = some e)
    (hreaches : e.Reaches step.env (.call .require [argument])) (hv : argument.eval step.env = .ok v)
    (hfalse : v.truthy = false) : RunsInto step .reject
  | error {e part : Expr} {f : Failure} (he : step.stmt.expr? = some e) (hreaches : e.Reaches step.env part)
    (hpart : part.eval step.env = .error (.failed f)) : RunsInto step (.failed f)

/-! ### What a step does -/

theorem get?_keep (stmt : Stmt) (fields : Fields) (v : Value) (name : String) :
    (stmt.keep fields v).get? name =
      match Step.assigned? name ⟨env, stmt, .ok v⟩ with
      | some v => v.toField?
      | none => fields.get? name := by
  cases stmt with
  | bind _ _ | eval _ | reject => rfl
  | assign key e =>
    show (store fields key v).get? name = match if name = key then some v else none with
      | some v => v.toField?
      | none => fields.get? name
    rw [get?_store]
    split <;> rfl

theorem lastAssigned?_cons (name : String) (step : Step) (steps : List Step) :
    lastAssigned? name (step :: steps) = (lastAssigned? name steps).or (step.assigned? name) := by
  rw [lastAssigned?, List.reverse_cons, List.findSome?_append, List.findSome?_singleton]
  rfl

theorem Step.halts_of_runsInto {step : Step} {halt : Halt} (hstep : step.result = step.stmt.compute step.env)
    (h : step.RunsInto halt) : step.result = .error halt := by
  rw [hstep, Stmt.compute]
  cases h with
  | reject h =>
    rw [h]
    rfl
  | @require e argument v he hreaches hv hfalse =>
    have hrequire : (Expr.call .require [argument]).eval step.env = .error .reject := by
      rw [Expr.eval_call Builtin.noConfusion Builtin.noConfusion, evalAll, hv]
      exact if_neg (Bool.eq_false_iff.mp hfalse)
    rw [he]
    exact Expr.halts_of_reaches hreaches hrequire
  | error he hreaches hpart =>
    rw [he]
    exact Expr.halts_of_reaches hreaches hpart

/-! ### What a run does -/

variable {s s' : State} {stmts : List Stmt} {step : Step} {halt : Halt}

theorem result_of_mem_history (h : step ∈ history env stmts) : step.result = step.stmt.compute step.env := by
  induction stmts generalizing env with
  | nil => cases h
  | cons stmt rest ih =>
    rw [history] at h
    rcases List.mem_cons.mp h with rfl | h
    · rfl
    · split at h
      · exact ih h
      · cases h

/-- The executed statements are the first ones. -/
theorem history_prefix (env : Env) (stmts : List Stmt) : (history env stmts).map Step.stmt <+: stmts := by
  induction stmts generalizing env with
  | nil => exact List.prefix_rfl
  | cons stmt rest ih =>
    rw [history, List.map_cons]
    refine (List.prefix_cons_inj stmt).mpr ?_
    split
    · exact ih _
    · exact List.nil_prefix

/-- In a run that comes to its end everything is executed, and under each name stands what was assigned to it last. -/
theorem fields_of_runAll (h : runAll s stmts = .ok s') :
    (history s.env stmts).map Step.stmt = stmts ∧ (∀ step ∈ history s.env stmts, ∃ v, step.result = .ok v) ∧
      ∀ name, s'.fields.get? name =
        match lastAssigned? name (history s.env stmts) with
        | some v => v.toField?
        | none => s.fields.get? name := by
  induction stmts generalizing s with
  | nil =>
    obtain rfl := Except.ok.inj h
    exact ⟨rfl, fun _ hstep => absurd hstep List.not_mem_nil, fun _ => rfl⟩
  | cons stmt rest ih =>
    rw [runAll, Stmt.run_eq] at h
    cases hcompute : stmt.compute s.env with
    | error halt =>
      rw [hcompute] at h
      cases h
    | ok v =>
      rw [hcompute] at h
      obtain ⟨hstmts, hresults, hfields⟩ := ih h
      rw [history, hcompute]
      refine ⟨?_, ?_, fun name => ?_⟩
      · rw [List.map_cons, hstmts]
      · exact List.forall_mem_cons.mpr ⟨⟨v, rfl⟩, hresults⟩
      · rw [hfields, lastAssigned?_cons]
        cases lastAssigned? name (history (stmt.extend s.env v) rest) with
        | some v => rfl
        | none => exact get?_keep stmt s.fields v name

/-- Where a step halts, the run halts, nothing is executed behind it, and nothing that stands behind it matters. -/
theorem runAll_of_halt (hstep : step ∈ history s.env stmts) (hresult : step.result = .error halt) :
    (∃ earlier, history s.env stmts = earlier ++ [step]) ∧
      ∀ later, runAll s ((history s.env stmts).map Step.stmt ++ later) = .error halt := by
  induction stmts generalizing s with
  | nil => cases hstep
  | cons stmt rest ih =>
    rw [history] at hstep ⊢
    cases hcompute : stmt.compute s.env with
    | error halt' =>
      rw [hcompute] at hstep
      obtain rfl := List.mem_singleton.mp hstep
      obtain rfl := Except.error.inj hresult
      refine ⟨⟨[], rfl⟩, fun later => ?_⟩
      show runAll s (stmt :: later) = _
      rw [runAll, Stmt.run_eq, hcompute]
      rfl
    | ok v =>
      rw [hcompute] at hstep
      have hrest : step ∈ history (stmt.extend s.env v) rest := by
        refine (List.mem_cons.mp hstep).resolve_left ?_
        rintro rfl
        cases hresult
      obtain ⟨⟨earlier, hearlier⟩, hlater⟩ := @ih ⟨stmt.extend s.env v, stmt.keep s.fields v⟩ hrest
      refine ⟨⟨_ :: earlier, congrArg (_ :: ·) hearlier⟩, fun later => ?_⟩
      show runAll s (stmt :: (_ ++ later)) = _
      rw [runAll, Stmt.run_eq, hcompute]
      exact hlater later

theorem runAll_append (s : State) (before after : List Stmt) :
    runAll s (before ++ after) = (runAll s before >>= fun s' => runAll s' after) := by
  induction before generalizing s with
  | nil => rfl
  | cons stmt rest ih =>
    rw [List.cons_append, runAll, runAll]
    cases stmt.run s with
    | error halt => rfl
    | ok s' => exact ih s'

/-! ### Programs -/

theorem toField?_eq_none_iff (v : Value) : v.toField? = none ↔ v = .null := by
  cases v <;> simp [Value.toField?]

section Program

variable {p : Program} {line : String} {fields : Fields}

theorem Program.run_of_evaluate (h : p.evaluate line = .fields fields) :
    ∃ s, runAll ⟨⟨line, []⟩, .empty⟩ p.statements = .ok s ∧ s.fields = fields := by
  unfold evaluate at h
  split at h
  · next s hs => exact ⟨s, hs, Outcome.fields.inj h⟩
  · cases h
  · cases h

theorem Program.evaluate_of_halt (h : runAll ⟨⟨line, []⟩, .empty⟩ p.statements = .error halt) :
    p.evaluate line = halt.outcome := by
  rw [evaluate, h]
  cases halt <;> rfl

/-- Whatever name it binds, `let` leaves the fields as they are. -/
theorem Program.evaluate_of_bind {name : String} {e : Expr}
    (h : Program.evaluate ⟨p.statements ++ [.bind name e]⟩ line = .fields fields) : p.evaluate line = .fields fields := by
  obtain ⟨s, hs, rfl⟩ := Program.run_of_evaluate h
  rw [runAll_append] at hs
  cases hrun : runAll ⟨⟨line, []⟩, .empty⟩ p.statements with
  | error halt =>
    rw [hrun] at hs
    cases hs
  | ok s₁ =>
    rw [hrun] at hs
    change (Stmt.run s₁ (.bind name e) >>= fun s => runAll s []) = .ok s at hs
    rw [Stmt.run_eq] at hs
    cases hcompute : (Stmt.bind name e).compute s₁.env with
    | error halt =>
      rw [hcompute] at hs
      cases hs
    | ok v =>
      rw [hcompute] at hs
      cases hs
      rw [evaluate, hrun]
      rfl

end Program

/-- The fields of a line are what was assigned last to each name, null apart, if everything is executed and nothing halts;
`let` leaves them as they are.  Where a step runs into something that ends the run there are no fields, whatever
stands behind the step, and nothing of that is executed. -/
theorem Program.fields_of_history (p : Program) (line : String) :
    let steps := history ⟨line, []⟩ p.statements
    (∀ fields, p.evaluate line = .fields fields →
      steps.map Step.stmt = p.statements ∧ (∀ step ∈ steps, ∃ v, step.result = .ok v) ∧
        ∀ name, fields.get? name = (lastAssigned? name steps).bind Value.toField? ∧
          (name ∈ fields.keys ↔ ∃ v, lastAssigned? name steps = some v ∧ v ≠ .null)) ∧
    (∀ fields name e, Program.evaluate ⟨p.statements ++ [.bind name e]⟩ line = .fields fields →
      p.evaluate line = .fields fields) ∧
    ∀ step ∈ steps, ∀ halt, step.RunsInto halt →
      p.evaluate line = halt.outcome ∧ (∃ earlier, steps = earlier ++ [step]) ∧
        ∀ later, Program.evaluate ⟨steps.map Step.stmt ++ later⟩ line = halt.outcome := by
  intro steps
  refine ⟨fun fields h => ?_, fun fields name e h => p.evaluate_of_bind h, fun step hstep halt hruns => ?_⟩
  · obtain ⟨s, hs, rfl⟩ := p.run_of_evaluate h
    obtain ⟨hstmts, hresults, hfields⟩ := fields_of_runAll hs
    refine ⟨hstmts, hresults, fun name => ?_⟩
    have hget : s.fields.get? name = (lastAssigned? name steps).bind Value.toField? := by
      rw [hfields]
      cases lastAssigned? name (history ⟨line, []⟩ p.statements) with
      | some v => rfl
      | none => rfl
    refine ⟨hget, ?_⟩
    rw [Dict.mem_keys_iff, hget, ← Option.isSome_iff_exists, Option.isSome_bind, Option.any_eq_true]
    simp only [Option.isSome_iff_ne_none, ne_eq, toField?_eq_none_iff]
  · have hresult := Step.halts_of_runsInto (result_of_mem_history hstep) hruns
    obtain ⟨hlast, hlater⟩ := runAll_of_halt (s := ⟨⟨line, []⟩, .empty⟩) hstep hresult
    obtain ⟨rest, hrest⟩ := history_prefix ⟨line, []⟩ p.statements
    refine ⟨p.evaluate_of_halt ?_, hlast, fun later => Program.evaluate_of_halt (hlater later)⟩
    rw [← hrest]
    exact hlater rest

/-- A name that is assigned, bound by `let` and assigned null again, and a `require` inside an expression. -/
theorem Program.fields_of_history_rebound :
    let p : Program := ⟨[.assign "n" (.literal (.int 1)), .bind "n" (.literal (.int 2)), .assign "m" (.var "n"),
      .assign "n" (.literal .null)]⟩
    let q : Program := ⟨[.assign "n" (.literal (.int 1)),
      .eval (.or (.literal .null) (.call .require [.literal .null])), .reject]⟩
    (∃ fields, p.evaluate "" = .fields fields ∧ fields.get? "m" = some (.int 2) ∧ "n" ∉ fields.keys) ∧
      q.evaluate "" = .rejected := by
  intro p q
  constructor
  · obtain ⟨fields, h⟩ : ∃ fields, p.evaluate "" = .fields fields := ⟨_, rfl⟩
    obtain ⟨-, -, hfields⟩ := (p.fields_of_history "").1 fields h
    refine ⟨fields, h, (hfields "m").1, ?_⟩
    rw [(hfields "n").2]
    rintro ⟨v, hv, hnull⟩
    have hlast : lastAssigned? "n" (history ⟨"", []⟩ p.statements) = some .null := rfl
    exact hnull (Option.some.inj (hv.symm.trans hlast))
  · let env : Env := ⟨"", [("n", .int 1)]⟩
    let step : Step := ⟨env, .eval (.or (.literal .null) (.call .require [.literal .null])), .error .reject⟩
    have hstep : step ∈ history ⟨"", []⟩ q.statements := List.mem_cons_of_mem _ List.mem_cons_self
    have hreaches : Expr.Reaches env (.or (.literal .null) (.call .require [.literal .null]))
        (.call .require [.literal .null]) := .single (.orRight rfl rfl)
    exact ((q.fields_of_history "").2.2 step hstep .reject (.require rfl hreaches rfl rfl)).1

end SampleRecorder.Script
