/-!
# Rules

A rule names a condition on readings and says what becomes of the readings that fulfil it.
-/

namespace SampleRecorder

namespace Rule

/-- What a rule does to the readings that it fits. -/
inductive Action where
  | label
  | ignore
  | log
  deriving DecidableEq, Repr, Inhabited

/-- The name of an action. -/
def Action.name : Action → String
  | label => "label"
  | ignore => "ignore"
  | log => "log"

end Rule

/-- A rule: its condition is kept as the text that the user wrote. -/
structure Rule where
  id : String
  condition : String
  action : Rule.Action
  value : Option String := none
  enabled : Bool := true
  deriving DecidableEq, Repr

namespace Rule

/-- What becomes of a reading: the action of the rule that fits it, with its value and name, or nothing. -/
inductive Verdict where
  | pass
  | act (action : Action) (value : Option String) (rule : String)
  deriving DecidableEq, Repr

/-- A partial change of a rule; the value can be set and taken away. -/
structure Change where
  condition : Option String := none
  action : Option Action := none
  value : Option (Option String) := none
  enabled : Option Bool := none
  deriving DecidableEq, Repr

/-- The rule after a change. -/
def change (r : Rule) (c : Change) : Rule where
  id := r.id
  condition := c.condition.getD r.condition
  action := c.action.getD r.action
  value := c.value.getD r.value
  enabled := c.enabled.getD r.enabled

end Rule

end SampleRecorder
