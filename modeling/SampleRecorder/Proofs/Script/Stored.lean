import SampleRecorder.Proofs.Postcondition
import SampleRecorder.Script.Eval

/-!
# What a run stores

The fields of a line are the work of the assignments of a program: a run stores nothing under another name, and nothing
but what values become as fields (`Program.stored_of_evaluate`).
-/

namespace SampleRecorder.Script

/-- The field that a statement assigns. -/
def Stmt.assigned? : Stmt → Option String
  | .assign name _ => some name
  | _ => none

/-- The fields that the statements of a program assign. -/
def Program.assigned (p : Program) : List String :=
  p.statements.filterMap Stmt.assigned?

/-- A stored value stands under its name as a field, and null under none. -/
theorem get?_store (fields : Fields) (name : String) (v : Value) (key : String) :
    (store fields name v).get? key = if key = name then v.toField? else fields.get? key := by
  unfold store
  split
  · next field hfield => rw [Dict.get?_insert, hfield]
  · next hnone => rw [Dict.get?_erase, hnone]

/-- After a statement a field has the value that it had, or what the assigned value becomes. -/
theorem gives_run (s : State) (stmt : Stmt) :
    Gives (stmt.run s) fun s' => ∀ key field, s'.fields.get? key = some field →
      s.fields.get? key = some field ∨ stmt.assigned? = some key ∧ ∃ v : Value, v.toField? = some field := by
  cases stmt with
  | bind name value => exact .bind_any fun _ => .ok fun _ _ => .inl
  | assign name value =>
    refine .bind_any fun v => .ok fun key field h => ?_
    rw [get?_store] at h
    split at h
    · next hkey => exact .inr ⟨congrArg some hkey.symm, v, h⟩
    · exact .inl h
  | reject => exact .error _
  | eval value => exact .bind_any fun _ => .ok fun _ _ => .inl

theorem gives_runAll (stmts : List Stmt) (s : State) :
    Gives (runAll s stmts) fun s' => ∀ key field, s'.fields.get? key = some field →
      s.fields.get? key = some field ∨ key ∈ stmts.filterMap Stmt.assigned? ∧ ∃ v : Value, v.toField? = some field := by
  induction stmts generalizing s with
  | nil => exact .ok fun _ _ => .inl
  | cons stmt rest ih =>
    rw [runAll]
    refine .bind (gives_run s stmt) fun s₁ h₁ s₂ h₂ key field h => ?_
    rcases ih s₁ s₂ h₂ key field h with h | ⟨hkey, hv⟩
    · refine (h₁ key field h).imp_right fun ⟨hkey, hv⟩ => ⟨?_, hv⟩
      exact List.mem_filterMap.mpr ⟨stmt, List.mem_cons_self, hkey⟩
    · exact .inr ⟨(List.sublist_cons_self stmt rest).filterMap _ |>.subset hkey, hv⟩

/-- The fields of a line are named by assignments of the program and are what values become. -/
theorem Program.stored_of_evaluate {p : Program} {line : String} {fields : Fields} {key : String} {field : FieldValue}
    (h : p.evaluate line = .fields fields) (hfield : fields.get? key = some field) :
    key ∈ p.assigned ∧ ∃ v : Value, v.toField? = some field := by
  unfold evaluate at h
  split at h
  · next s hs =>
    obtain rfl := Outcome.fields.inj h
    rcases gives_runAll p.statements _ s hs key field hfield with hempty | hstored
    · rw [Dict.get?_empty] at hempty
      cases hempty
    · exact hstored
  all_goals cases h

end SampleRecorder.Script
