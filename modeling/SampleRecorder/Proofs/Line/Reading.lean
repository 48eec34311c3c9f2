import SampleRecorder.Line.Parser
import SampleRecorder.Proofs.Text.Trim

/-!
# What a parser makes of a line

One equation for each way of reading, for reading with skip patterns and for the check of a line, and what is known of a
parser that has been compiled from settings.  The other modules on lines start from these and do not open the
definitions.
-/

namespace SampleRecorder.Line

/-- A line without the white space around it. -/
def trimmed (line : String) : String :=
  String.ofList (Text.trim line.toList)

@[simp] theorem trimmed_trimmed (line : String) : trimmed (trimmed line) = trimmed line := by
  simp [trimmed]

/-- The trimmed pieces of a line between delimiters. -/
def columns (delimiter line : String) : List String :=
  (Text.split delimiter.toList line.toList).map fun piece => String.ofList (Text.trim piece)

/-- The names that are given to pieces are all names, if there are enough pieces. -/
theorem map_fst_coerced {names pieces : List String} (h : names.length ≤ pieces.length) :
    ((names.zip pieces).map fun e => (e.1, FieldValue.coerce e.2)).map (·.1) = names := by
  rw [List.map_map]
  exact List.map_fst_zip h

/-! ### Ways of reading -/

namespace Strategy

variable {names : List String} {line : String} {fields : Fields}

theorem value_split (delimiter : String) :
    ((split delimiter).fields? names line).value =
      if (columns delimiter line).length < names.length then none
      else some (.ofList ((names.zip (columns delimiter line)).map fun e => (e.1, FieldValue.coerce e.2))) := by
  by_cases h : (columns delimiter line).length < names.length
  · rw [if_pos h]
    exact congrArg Traced.value (if_pos h)
  · rw [if_neg h]
    exact congrArg Traced.value (if_neg h)

theorem value_regex (r : Regex) (groups : List String) :
    ((regex r groups).fields? names line).value = (r.captures? line).map (namedGroups groups) :=
  rfl

theorem value_json_iff : (json.fields? names line).value = some fields ↔
    ∃ members, Json.ofText line = .ok (.obj members) ∧ fields = namedMembers names members := by
  simp only [fields?]
  split
  · next h => simp [h]
  · next members h => simp [h, eq_comm]
  · next j hj h =>
    refine ⟨nofun, fun ⟨members, heq, _⟩ => absurd (Except.ok.inj (h.symm.trans heq)) (hj members)⟩

theorem value_custom_iff {program : Script.Program} :
    ((custom program).fields? names line).value = some fields ↔ program.evaluate line = .fields fields := by
  simp only [fields?]
  split
  · next h => simp [h]
  · next h => simp [h]
  · next h => simp [h]

/-- A compiled way of reading is the one that the settings ask for. -/
theorem of_compile {settings : Settings} {strategy : Strategy} (h : compile settings names = .ok strategy) :
    match settings.kind with
    | .split => strategy = split settings.delimiter
    | .regex => ∃ r, strategy = regex r (settings.regexGroups.getD names)
    | .json => strategy = json
    | .custom => ∃ source program, settings.customParser = some source ∧ Script.Program.compile source = .ok program ∧
        strategy = custom program := by
  unfold compile at h
  generalize settings.kind = kind at h ⊢
  cases kind with
  | split => exact (Except.ok.inj h).symm
  | json => exact (Except.ok.inj h).symm
  | regex =>
    dsimp only at h
    split at h
    · cases h
    · next pattern _ =>
      cases hr : compilePattern .regex pattern with
      | error fault => rw [hr] at h; cases h
      | ok r => rw [hr] at h; exact ⟨r, (Except.ok.inj h).symm⟩
  | custom =>
    dsimp only at h
    split at h
    · cases h
    · next source hsource =>
      split at h
      · next program hprogram =>
        exact ⟨source, program, (Option.filter_eq_some_iff.mp hsource).1, hprogram, (Except.ok.inj h).symm⟩
      · cases h

end Strategy

/-! ### Parsers -/

namespace Parser

variable {p : Parser} {now : Int} {line : String}

theorem read_trimmed (p : Parser) (now : Int) (line : String) : p.read now (trimmed line) = p.read now line := by
  have h := trimmed_trimmed line
  unfold trimmed at h
  simp only [read, trimmed, h]

theorem value_read (p : Parser) (now : Int) (line : String) :
    (p.read now line).value =
      if p.skips.any (·.fits (trimmed line)) then none
      else (p.strategy.fields? p.fields (trimmed line)).value.map (⟨now, trimmed line, ·⟩) := by
  by_cases h : p.skips.any (·.fits (trimmed line)) = true
  · rw [if_pos h]
    exact congrArg Traced.value (if_pos h)
  · rw [if_neg h]
    exact congrArg Traced.value (if_neg h)

/-- What a reading consists of. -/
theorem value_read_iff {r : Reading} :
    (p.read now line).value = some r ↔ (∀ skip ∈ p.skips, skip.fits (trimmed line) = false) ∧ r.timestamp = now ∧
      r.raw = trimmed line ∧ (p.strategy.fields? p.fields (trimmed line)).value = some r.fields := by
  obtain ⟨timestamp, raw, fields⟩ := r
  rw [value_read]
  split
  · next h =>
    obtain ⟨skip, hmem, hfits⟩ := List.any_eq_true.mp h
    exact ⟨nofun, fun hr => absurd hfits (by rw [hr.1 skip hmem]; decide)⟩
  · next h =>
    rw [List.any_eq_true] at h
    have hskips : ∀ skip ∈ p.skips, skip.fits (trimmed line) = false := fun skip hmem =>
      Bool.eq_false_iff.mpr fun hfits => h ⟨skip, hmem, hfits⟩
    simp only [Option.map_eq_some_iff, Reading.mk.injEq]
    constructor
    · rintro ⟨fields', hfields, rfl, rfl, rfl⟩
      exact ⟨hskips, rfl, rfl, hfields⟩
    · rintro ⟨-, rfl, rfl, hfields⟩
      exact ⟨fields, hfields, rfl, rfl, rfl⟩

/-- A line that fits a skip pattern is not read. -/
theorem value_read_of_fits {skip : Skip} (hskip : skip ∈ p.skips) (h : skip.fits (trimmed line) = true) :
    (p.read now line).value = none := by
  rw [value_read, if_pos (List.any_eq_true.mpr ⟨skip, hskip, h⟩)]

theorem value_validate_iff {r : Reading} :
    (p.validate now line).value = .ok r ↔
      (p.read now line).value = some r ∧ ∀ name ∈ p.fields, name ∈ r.fields.keys := by
  rw [validate, Traced.value_bind]
  cases (p.read now line).value with
  | none => simp
  | some r' =>
    have hnone : (p.fields.filter fun name => (r'.fields.get? name).isNone) = [] ↔
        ∀ name ∈ p.fields, name ∈ r'.fields.keys := by
      simp only [List.filter_eq_nil_iff, Dict.mem_keys_iff, Option.isNone_iff_eq_none, Option.ne_none_iff_exists']
    dsimp only
    split
    · next h =>
      rw [hnone] at h
      simp only [Traced.value_pure, Except.ok.injEq, Option.some.injEq]
      exact ⟨fun heq => ⟨heq, heq ▸ h⟩, And.left⟩
    · next h =>
      rw [Traced.value_pure]
      refine ⟨nofun, fun hr => absurd (hnone.mpr ?_) h⟩
      rw [Option.some.inj hr.1]
      exact hr.2

/-- What a compiled parser consists of. -/
theorem of_compile? {settings : Settings} {names : List String} (h : compile? settings names = .ok p) :
    p.fields = names ∧ (settings.skipLines.filter (· != "")).mapM Skip.compile = .ok p.skips ∧
      Strategy.compile settings names = .ok p.strategy := by
  rw [compile?] at h
  cases hskips : (settings.skipLines.filter (· != "")).mapM Skip.compile with
  | error fault => rw [hskips] at h; cases h
  | ok skips =>
    cases hstrategy : Strategy.compile settings names with
    | error fault => rw [hskips, hstrategy] at h; cases h
    | ok strategy =>
      rw [hskips, hstrategy] at h
      obtain rfl := Except.ok.inj h
      exact ⟨rfl, rfl, rfl⟩

end Parser

end SampleRecorder.Line
