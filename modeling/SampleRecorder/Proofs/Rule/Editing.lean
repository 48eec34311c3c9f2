import SampleRecorder.Rule.Ruleset

/-!
# Editing a ruleset

A ruleset keeps a compiled condition beside each rule.  All that can be done to it, as one type, next to what the same
edits do to a plain list of rules.  The key facts: an edit acts on the rules as on the plain list (`rules_apply`), and a
ruleset is determined by its rules (`eq_of_rules`), so after any edits it is the ruleset that would be compiled afresh
from the list.
-/

namespace SampleRecorder.Ruleset

/-- A change to a ruleset. -/
inductive Edit where
  | configure (rules : List Rule)
  | add (rule : Rule)
  | remove (id : String)
  | change (id : String) (change : Rule.Change)

/-- The ruleset after an edit. -/
def Edit.apply (s : Ruleset) : Edit → Ruleset
  | .configure rules => (ofList rules).value
  | .add r => (s.add r).value
  | .remove id => (s.remove id).value.2
  | .change id c => (s.change id c).value.2

/-- The ruleset after edits, one after the other. -/
def edited (s : Ruleset) (edits : List Edit) : Ruleset :=
  edits.foldl Edit.apply s

/-- What a change does to a rule in a plain list.  The name stays, and so does each part that the change does not give;
the value is set, or taken away. -/
def Edit.onRule (c : Rule.Change) (r : Rule) : Rule where
  id := r.id
  condition :=
    match c.condition with
    | some new => new
    | none => r.condition
  action :=
    match c.action with
    | some new => new
    | none => r.action
  value :=
    match c.value with
    | some (some new) => some new
    | some none => none
    | none => r.value
  enabled :=
    match c.enabled with
    | some new => new
    | none => r.enabled

/-- What an edit does to a plain list of rules.  A change is made to the first rule with the name, if there is one. -/
def Edit.onList (rules : List Rule) : Edit → List Rule
  | .configure new => new
  | .add r => rules ++ [r]
  | .remove id => rules.filter (·.id != id)
  | .change id c => rules.modify (rules.findIdx (·.id == id)) (onRule c)

/-! ### The rules of a ruleset -/

theorem rules_map_compiled (rules : List Rule) : (⟨rules.map Rule.compiled⟩ : Ruleset).rules = rules := by
  simp [Ruleset.rules, Rule.compiled, Function.comp_def]

theorem compiled_rule (item : Rule.Compiled) : item.rule.compiled = item := by
  obtain ⟨rule, condition, rfl⟩ := item
  rfl

/-- A ruleset is what its rules are compiled into. -/
theorem eq_of_rules (s : Ruleset) : s = ⟨s.rules.map Rule.compiled⟩ := by
  have h : s.items.map (fun item => item.rule.compiled) = s.items := by
    simp [compiled_rule]
  cases s
  simpa [Ruleset.rules, Function.comp_def] using h.symm

theorem rules_add (s : Ruleset) (r : Rule) : (s.add r).value.rules = s.rules ++ [r] := by
  simp [add, Ruleset.rules, Rule.compiled]

theorem rules_remove (s : Ruleset) (id : String) :
    (s.remove id).value.2.rules = s.rules.filter (·.id != id) := by
  simp [remove, Ruleset.rules, List.filter_map, Function.comp_def]

theorem Edit.onRule_eq (c : Rule.Change) (r : Rule) : onRule c r = r.change c := by
  obtain ⟨condition, action, value, enabled⟩ := c
  rcases condition with _ | condition <;> rcases action with _ | action <;> rcases value with _ | _ | value <;>
    rcases enabled with _ | enabled <;> rfl

/-- Only the first rule with the name is changed. -/
theorem rules_changeFirst (id : String) (c : Rule.Change) (items : List Rule.Compiled) :
    (changeFirst id c items).value.2.map (·.rule) =
      (items.map (·.rule)).modify ((items.map (·.rule)).findIdx (·.id == id)) (Edit.onRule c) := by
  induction items with
  | nil => rfl
  | cons item rest ih =>
    by_cases h : item.rule.id = id
    · simp [changeFirst, h, List.findIdx_cons, Rule.compiled, Edit.onRule_eq]
    · have hid : (item.rule.id == id) = false := by simpa using h
      simp [changeFirst, h, hid, List.findIdx_cons, ih]

theorem rules_change (s : Ruleset) (id : String) (c : Rule.Change) :
    (s.change id c).value.2.rules = s.rules.modify (s.rules.findIdx (·.id == id)) (Edit.onRule c) :=
  rules_changeFirst id c s.items

/-- An edit acts on the rules as on a plain list. -/
theorem rules_apply (s : Ruleset) (e : Edit) : (e.apply s).rules = e.onList s.rules := by
  cases e with
  | configure rules => simp [Edit.apply, Edit.onList, rules_map_compiled]
  | add r => exact rules_add s r
  | remove id => exact rules_remove s id
  | change id c => exact rules_change s id c

theorem rules_edited_list (s : Ruleset) (edits : List Edit) :
    (s.edited edits).rules = edits.foldl Edit.onList s.rules := by
  induction edits generalizing s with
  | nil => rfl
  | cons e edits ih =>
    have hrest : ((e.apply s).edited edits).rules = edits.foldl Edit.onList (e.apply s).rules := ih (e.apply s)
    rwa [rules_apply] at hrest

end SampleRecorder.Ruleset

/-! ### What a plain list of rules says -/

namespace SampleRecorder.Rule

/-- Whether the condition of a rule is one. -/
def isValid (r : Rule) : Bool :=
  (Condition.ofText r.condition).fault?.isNone

/-- Whether a rule is enabled, has a condition, and the condition holds for a reading. -/
def fits (data : Reading) (r : Rule) : Bool :=
  r.enabled && r.isValid && (Condition.ofText r.condition).holds data

/-- What rules say about a reading: the action, value and name of the first one that fits. -/
def firstVerdict (data : Reading) (rules : List Rule) : Verdict :=
  match rules.find? (·.fits data) with
  | some r => .act r.action r.value r.id
  | none => .pass

/-- A condition that holds is one, so validity need not be asked for. -/
theorem fits_eq_applies (data : Reading) (r : Rule) : r.fits data = r.compiled.applies data := by
  have hinvalid : r.isValid = false → (Condition.ofText r.condition).holds data = false := by
    intro h
    obtain ⟨fault, hf⟩ := Option.isSome_iff_exists.1 (Option.isNone_eq_false_iff.1 h)
    exact Condition.holds_eq_false_of_fault? hf data
  cases hv : r.isValid with
  | true => simp [fits, hv, Compiled.applies, compiled]
  | false => simp [fits, hv, hinvalid hv, Compiled.applies, compiled]

/-- Rules that are disabled or have no condition never decide. -/
theorem firstVerdict_filter (data : Reading) (rules : List Rule) :
    firstVerdict data (rules.filter fun r => r.enabled && r.isValid) = firstVerdict data rules := by
  have hfits : (fun r : Rule => decide ((r.enabled && r.isValid) = true ∧ r.fits data = true)) =
      fun r => r.fits data := by
    funext r
    cases he : r.enabled <;> cases hv : r.isValid <;> simp [fits, he, hv]
  simp only [firstVerdict, List.find?_filter, hfits]

end SampleRecorder.Rule

namespace SampleRecorder.Ruleset

theorem value_judge_compiled (rules : List Rule) (data : Reading) :
    ((⟨rules.map Rule.compiled⟩ : Ruleset).judge data).value = Rule.firstVerdict data rules := by
  have hfind : (rules.map Rule.compiled).find? (·.applies data) =
      (rules.find? (·.fits data)).map Rule.compiled := by
    simp only [List.find?_map, Function.comp_def, ← Rule.fits_eq_applies]
  rw [value_judge, hfind, Rule.firstVerdict]
  cases rules.find? (·.fits data) <;> rfl

/-- After any edits the rules are those of the edited list, and every reading is judged as by the ruleset that is
compiled afresh from them: by the first rule that is enabled, has a condition, and fits.  Rules that are disabled or
have no condition can be left out. -/
theorem judge_edited (s : Ruleset) (edits : List Edit) :
    (s.edited edits).rules = edits.foldl Edit.onList s.rules ∧
      ∀ data,
        (s.edited edits).judge data = (ofList (s.edited edits).rules).value.judge data ∧
          ((s.edited edits).judge data).value = Rule.firstVerdict data (s.edited edits).rules ∧
          ((ofList ((s.edited edits).rules.filter fun r => r.enabled && r.isValid)).value.judge data).value =
            ((s.edited edits).judge data).value := by
  have hfresh : s.edited edits = (ofList (s.edited edits).rules).value := by
    rw [value_ofList]
    exact eq_of_rules _
  have hverdict (data : Reading) :
      ((s.edited edits).judge data).value = Rule.firstVerdict data (s.edited edits).rules := by
    rw [← value_judge_compiled, ← eq_of_rules]
  refine ⟨rules_edited_list s edits, fun data => ⟨congrArg (·.judge data) hfresh, hverdict data, ?_⟩⟩
  rw [hverdict, value_ofList, value_judge_compiled, Rule.firstVerdict_filter]

/-- Of two rules with one name, the first is given another condition and loses its value; its action and the other rule
stay. -/
theorem judge_edited_first :
    let first : Rule := { id := "r", condition := "line contains 'a'", action := .label, value := some "one" }
    let second : Rule := { id := "r", condition := "line contains 'c'", action := .log, value := some "two" }
    let edits := [.configure [first, second], .change "r" { condition := some "line contains 'b'", value := some none }]
    let s : Ruleset := {}
    (s.edited edits).rules = [{ id := "r", condition := "line contains 'b'", action := .label, value := none }, second] ∧
      ((s.edited edits).judge ⟨0, "a", .empty⟩).value = .pass ∧
      ((s.edited edits).judge ⟨0, "b", .empty⟩).value = .act .label none "r" ∧
      ((s.edited edits).judge ⟨0, "c", .empty⟩).value = .act .log (some "two") "r" := by
  intro first second edits s
  obtain ⟨hrules, hjudge⟩ := judge_edited s edits
  have hlist : edits.foldl Edit.onList s.rules =
      [{ id := "r", condition := "line contains 'b'", action := .label, value := none }, second] := by decide
  rw [hlist] at hrules
  have hverdict (data : Reading) := (hjudge data).2.1
  rw [hrules] at hverdict
  refine ⟨hrules, (hverdict _).trans ?_, (hverdict _).trans ?_, (hverdict _).trans ?_⟩ <;> decide +kernel

end SampleRecorder.Ruleset
