import SampleRecorder.Proofs.Recorder.Operation
import SampleRecorder.Recorder.Export

/-!
# Settings in force

Which settings a recorder follows.  `settingsAfter` reads them off the operations alone: the last ones that were asked
for and can be compiled.  The main fact: after any operations a recorder holds these settings, each of its parts is what
they are compiled into, and a change of settings that is refused leaves nothing behind (`parts_after`).
-/

namespace SampleRecorder

/-- Whether settings can be compiled; only the parser can be refused. -/
def Settings.compiles (s : Settings) : Bool :=
  (Line.Parser.compile? s.line s.fields).isOk

namespace Recorder

/-- The settings that operations leave in force, where `s` were in force before. -/
def settingsAfter (s : Settings) : List Op → Settings
  | [] => s
  | .configure new :: ops => settingsAfter (if new.compiles then new else s) ops
  | _ :: ops => settingsAfter s ops

theorem after_append (r : Recorder) (ops later : List Op) : r.after (ops ++ later) = (r.after ops).after later :=
  List.foldl_append

/-! ### A change of settings -/

/-- A change of settings is refused for the cause for which their parser is. -/
theorem configure_eq_error_iff (r : Recorder) (s : Settings) (fault : Line.Fault) :
    (r.configure s).value.1 = .error fault ↔ Line.Parser.compile? s.line s.fields = .error fault := by
  rw [value_configure]
  cases Line.Parser.compile? s.line s.fields with
  | error cause => simp
  | ok parser => simp

/-- A change of settings that is refused returns the recorder as it was. -/
theorem configure_of_error {r : Recorder} {s : Settings} {fault : Line.Fault}
    (h : (r.configure s).value.1 = .error fault) : (r.configure s).value.2 = r := by
  rw [value_configure, (configure_eq_error_iff r s fault).mp h]

theorem settings_configure (r : Recorder) (s : Settings) :
    (r.configure s).value.2.settings = if s.compiles then s else r.settings := by
  rw [value_configure]
  cases hp : Line.Parser.compile? s.line s.fields with
  | error fault =>
    have hc : s.compiles = false := by simp [Settings.compiles, hp, Except.isOk, Except.toBool]
    rw [hc]
    rfl
  | ok parser =>
    have hc : s.compiles = true := by simp [Settings.compiles, hp, Except.isOk, Except.toBool]
    rw [hc]
    rfl

/-- The settings change with the operations that ask for it and with no others. -/
theorem settings_after (r : Recorder) (ops : List Op) : (r.after ops).settings = settingsAfter r.settings ops := by
  induction ops generalizing r with
  | nil => rfl
  | cons op ops ih =>
    rw [after_cons, ih]
    by_cases hop : ∃ s, op = .configure s
    · obtain ⟨s, rfl⟩ := hop
      rw [Op.apply, settings_configure]
      rfl
    · have hkept : (op.apply r).settings = r.settings :=
        congrArg Setup.settings (setup_apply r op fun s hs => hop ⟨s, hs⟩)
      rw [hkept]
      cases op with
      | configure s => exact absurd ⟨s, rfl⟩ hop
      | _ => rfl

/-! ### The parts of a recorder -/

/-- The check of the rules reports what was found when the conditions in use were compiled. -/
theorem checkRules_of_inForce {r : Recorder} (h : r.setup.InForce) :
    r.checkRules = r.rules.items.map fun item => (item.rule.id, item.condition.fault?) := by
  have hrules : r.rules = ⟨r.settings.rules.map Rule.compiled⟩ := h.rules
  simp [checkRules, hrules, Rule.compiled, Function.comp_def]

/-- After any operations on a new recorder its settings are the last ones that were asked for and can be compiled, and
its parser, rules, template, session and transmitter are those of these settings; the check of the rules finds fault
with exactly those whose compiled condition never holds.  A change of settings that is refused leaves nothing behind:
the recorder goes on as if it had not been asked for. -/
theorem parts_after {s : Settings} {r₀ : Recorder} (h : (new s).value = .ok r₀) (ops : List Op) :
    let r := r₀.after ops
    (r.settings = settingsAfter s ops ∧
      (Line.Parser.compile r.settings.line r.settings.fields).value = .ok r.parser ∧
      r.rules = (Ruleset.ofList r.settings.rules).value ∧
      r.template = Export.Template.compile r.settings.exports.template r.settings.fields ∧
      r.session.settings = r.settings.recording ∧
      r.transmitter.settings = r.settings.transmit ∧
      r.checkRules = r.rules.items.map fun item => (item.rule.id, item.condition.fault?)) ∧
    ∀ refused fault, (r.configure refused).value.1 = .error fault →
      (r.configure refused).value.2 = r ∧
        ∀ later, r₀.after (ops ++ .configure refused :: later) = r₀.after (ops ++ later) := by
  intro r
  have hf : r.setup.InForce := inForce_after (inForce_new h) ops
  have hstart : r₀.settings = s := by
    obtain ⟨parser, -, rfl⟩ := eq_of_value_new h
    rfl
  refine ⟨⟨?_, ?_, ?_, hf.template, hf.recording, hf.transmit, checkRules_of_inForce hf⟩, fun refused fault hs => ?_⟩
  · rw [← hstart]
    exact settings_after r₀ ops
  · have hparser : Line.Parser.compile? r.settings.line r.settings.fields = .ok r.parser := hf.parser
    rw [Line.Parser.compile, hparser]
    rfl
  · rw [Ruleset.value_ofList]
    exact hf.rules
  · have hkept : (r.configure refused).value.2 = r := configure_of_error hs
    refine ⟨hkept, fun later => ?_⟩
    rw [after_append, after_append, after_cons, Op.apply, hkept]

/-- Settings that are refused between others, while a recording is active and a rule has no condition. -/
theorem parts_after_refused :
    ∃ r₀ : Recorder,
      let ops : List Op :=
        [.start 1 (some "a"), .line 2 "1,2,3,4", .configure { line := { kind := .regex } },
          .configure { rules := [⟨"odd", "value1 is maybe", .log, none, true⟩, ⟨"low", "value1<3", .log, none, true⟩] },
          .line 3 "2,3,4,5"]
      let refused : Settings := { line := { kind := .custom } }
      (new {}).value = .ok r₀ ∧
        ((r₀.after ops).configure refused).value.1 = .error .missingProgram ∧
        r₀.after (ops ++ [.configure refused, .stop]) = r₀.after (ops ++ [.stop]) ∧
        (r₀.after ops).checkRules = [("odd", some .format), ("low", none)] ∧
        (r₀.after ops).checkRules =
          (r₀.after ops).rules.items.map fun item => (item.rule.id, item.condition.fault?) := by
  refine ⟨_, rfl, rfl, ?_, by decide +kernel, ?_⟩
  · exact ((parts_after (s := {}) rfl _).2 _ _ rfl).2 [.stop]
  · exact (parts_after (s := {}) rfl _).1.2.2.2.2.2.2

end Recorder

end SampleRecorder
