import SampleRecorder.Log.Event
import SampleRecorder.Rule.Basic
import SampleRecorder.Rule.Condition

/-!
# Rulesets

An ordered list of rules.  The first enabled rule whose condition holds decides what becomes of a reading
(`value_judge`); conditions are compiled when a rule is put in.
-/

namespace SampleRecorder.Rule

/-- A rule with its compiled condition. -/
structure Compiled where
  rule : Rule
  condition : Condition
  condition_eq : condition = Condition.ofText rule.condition

/-- A rule with its condition compiled. -/
def compiled (r : Rule) : Compiled :=
  ⟨r, Condition.ofText r.condition, rfl⟩

/-- Compiles the condition of a rule, with a warning when it is none. -/
def compile (r : Rule) : Traced Compiled := do
  let c := r.compiled
  match c.condition.fault? with
  | some fault =>
    Traced.log .warn "Rule condition is not valid and will never match"
      [("rule_id", .str r.id), ("condition", .str r.condition), ("reason", .str fault.message)]
  | none => pure ()
  pure c

@[simp] theorem value_compile (r : Rule) : r.compile.value = r.compiled := by
  simp only [compile]
  split <;> rfl

/-- Whether a rule is enabled and its condition holds for a reading. -/
def Compiled.applies (data : Reading) (item : Compiled) : Bool :=
  item.rule.enabled && item.condition.holds data

/-- The verdict of the rule that applies, if there is one. -/
def Verdict.ofRule? : Option Compiled → Verdict
  | some item => act item.rule.action item.rule.value item.rule.id
  | none => pass

end Rule

/-- Rules in the order in which they are tried. -/
structure Ruleset where
  items : List Rule.Compiled := []

namespace Ruleset

/-- The rules, enabled or not. -/
def rules (s : Ruleset) : List Rule :=
  s.items.map (·.rule)

/-- The rules that are enabled. -/
def active (s : Ruleset) : List Rule :=
  s.rules.filter (·.enabled)

/-- The ruleset of a list of rules. -/
def ofList (rules : List Rule) : Traced Ruleset := do
  let items ← Traced.mapList Rule.compile rules
  let s : Ruleset := ⟨items⟩
  Traced.log .info "Rules engine updated" [("rules", .int s.rules.length), ("active", .int s.active.length)]
  pure s

@[simp] theorem value_ofList (rules : List Rule) : (ofList rules).value = ⟨rules.map Rule.compiled⟩ := by
  simp [ofList]

/-- Puts a rule behind the others. -/
def add (s : Ruleset) (r : Rule) : Traced Ruleset := do
  Traced.log .info "Rule added" [("rule_id", .str r.id), ("enabled", .bool r.enabled)]
  let c ← r.compile
  pure ⟨s.items ++ [c]⟩

/-- Takes out every rule with a name; the answer says whether there was one. -/
def remove (s : Ruleset) (id : String) : Traced (Bool × Ruleset) := do
  let kept := s.items.filter (·.rule.id != id)
  let removed := kept.length != s.items.length
  Traced.logIf removed .info "Rule removed" [("rule_id", .str id)]
  pure (removed, ⟨kept⟩)

/-- Changes the first rule with a name, if there is one. -/
def changeFirst (id : String) (c : Rule.Change) : List Rule.Compiled → Traced (Bool × List Rule.Compiled)
  | [] => pure (false, [])
  | item :: rest =>
    if item.rule.id = id then do
      let changed ← (item.rule.change c).compile
      Traced.log .info "Rule updated" [("rule_id", .str id)]
      pure (true, changed :: rest)
    else do
      let (found, rest) ← changeFirst id c rest
      pure (found, item :: rest)

/-- Changes the first rule with a name; the answer says whether there is one. -/
def change (s : Ruleset) (id : String) (c : Rule.Change) : Traced (Bool × Ruleset) := do
  let (found, items) ← changeFirst id c s.items
  pure (found, ⟨items⟩)

/-- What the first enabled rule that fits says about a reading. -/
def judgeBy (data : Reading) : List Rule.Compiled → Traced Rule.Verdict
  | [] => pure .pass
  | item :: rest =>
    if !item.rule.enabled then judgeBy data rest
    else
      match item.condition.fault? with
      | some fault => do
        Traced.log .warn "Unknown condition format"
          [("rule_id", .str item.rule.id), ("condition", .str item.rule.condition), ("reason", .str fault.message)]
        judgeBy data rest
      | none =>
        if item.condition.holds data then do
          Traced.log .debug "Rule matched" [("rule_id", .str item.rule.id), ("condition", .str item.rule.condition)]
          pure (.ofRule? (some item))
        else judgeBy data rest

/-- What the rules say about a reading. -/
def judge (s : Ruleset) (data : Reading) : Traced Rule.Verdict :=
  judgeBy data s.items

private theorem value_judgeBy (data : Reading) (items : List Rule.Compiled) :
    (judgeBy data items).value = .ofRule? (items.find? (·.applies data)) := by
  induction items with
  | nil => rfl
  | cons item rest ih =>
    rw [List.find?_cons, judgeBy]
    by_cases he : item.rule.enabled
    · cases hf : item.condition.fault? with
      | some fault => simp [Rule.Compiled.applies, he, Rule.Condition.holds_eq_false_of_fault? hf, ih]
      | none =>
        by_cases hc : item.condition.holds data
        · simp [Rule.Compiled.applies, he, hc]
        · simp [Rule.Compiled.applies, he, hc, ih]
    · simp [Rule.Compiled.applies, he, ih]

/-- The first rule that is enabled and applies decides. -/
theorem value_judge (s : Ruleset) (data : Reading) :
    (s.judge data).value = .ofRule? (s.items.find? (·.applies data)) :=
  value_judgeBy data s.items

end Ruleset

end SampleRecorder
