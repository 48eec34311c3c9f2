import SampleRecorder.Proofs.Line.Reading
import SampleRecorder.Proofs.Script.Stored

/-!
# The fields that a line is read into

Each way of reading makes the dictionary of fields in its own way, and each decides by it under which names there is a
value: all configured names where a line is split, the names of the groups where a pattern is matched, those of the
configured names that an object has, and for a program no name that it does not assign.  A line is judged as it is
read, without the white space around it, by skip patterns too.
-/

namespace SampleRecorder.Line

/-! ### Keys by way of reading -/

theorem mem_keys_zip {names pieces : List String} (h : names.length ≤ pieces.length) (name : String) :
    name ∈ (Dict.ofList ((names.zip pieces).map fun e => (e.1, FieldValue.coerce e.2))).keys ↔ name ∈ names := by
  rw [Dict.mem_keys_ofList, map_fst_coerced h]

theorem mem_keys_namedGroups (names : List String) (groups : List (Option String)) (name : String) :
    name ∈ (namedGroups names groups).keys ↔ name ∈ names := by
  rw [namedGroups, Dict.mem_keys_ofList, List.mem_map, List.mem_iff_getElem]
  constructor
  · rintro ⟨e, he, rfl⟩
    obtain ⟨i, hi, rfl⟩ := List.mem_mapIdx.mp he
    exact ⟨i, hi, rfl⟩
  · rintro ⟨i, hi, rfl⟩
    exact ⟨_, List.mem_mapIdx.mpr ⟨i, hi, rfl⟩, rfl⟩

theorem mem_keys_namedMembers (names : List String) (members : List (String × Json)) (name : String) :
    name ∈ (namedMembers names members).keys ↔ name ∈ names ∧ name ∈ members.map (·.1) := by
  have hlookup : members.lookup name ≠ none ↔ name ∈ members.map (·.1) := by
    rw [ne_eq, List.lookup_eq_none_iff]
    simp
  rw [namedMembers, Dict.mem_keys_ofList, ← hlookup, Option.ne_none_iff_exists', List.mem_map]
  constructor
  · rintro ⟨e, he, rfl⟩
    obtain ⟨name', hname, he⟩ := List.mem_filterMap.mp he
    obtain ⟨j, hj, rfl⟩ := Option.map_eq_some_iff.mp he
    exact ⟨hname, j, hj⟩
  · rintro ⟨hname, j, hj⟩
    exact ⟨(name, fieldOfJson j), List.mem_filterMap.mpr ⟨name, hname, by rw [hj]; rfl⟩, rfl⟩

/-! ### Keys of a reading -/

private theorem exists_of_mapM {α β ε : Type} {f : α → Except ε β} {l : List α} {bs : List β} (h : l.mapM f = .ok bs) :
    ∀ a ∈ l, ∃ b ∈ bs, f a = .ok b := by
  induction l generalizing bs with
  | nil => exact nofun
  | cons first rest ih =>
    rw [List.mapM_cons] at h
    cases hfirst : f first with
    | error e => rw [hfirst] at h; cases h
    | ok b =>
      cases hrest : rest.mapM f with
      | error e => rw [hfirst, hrest] at h; cases h
      | ok bs' =>
        rw [hfirst, hrest] at h
        obtain rfl : b :: bs' = bs := Except.ok.inj h
        refine List.forall_mem_cons.mpr ⟨⟨b, List.mem_cons_self, hfirst⟩, fun a ha => ?_⟩
        obtain ⟨b', hb', ha'⟩ := ih hrest a ha
        exact ⟨b', List.mem_cons_of_mem b hb', ha'⟩

/-- Every skip pattern that is not empty is compiled, and a line that fits it is not read. -/
theorem skipped {settings : Settings} {names : List String} {p : Parser} (h : Parser.compile? settings names = .ok p)
    (now : Int) (line : String) {pattern : String} (hpattern : pattern ∈ settings.skipLines) (hne : pattern ≠ "") :
    ∃ skip, Skip.compile pattern = .ok skip ∧ (skip.fits (trimmed line) = true → (p.read now line).value = none) := by
  have hmem : pattern ∈ settings.skipLines.filter (· != "") := List.mem_filter.mpr ⟨hpattern, bne_iff_ne.mpr hne⟩
  obtain ⟨skip, hskip, hcompiled⟩ := exists_of_mapM (Parser.of_compile? h).2.1 pattern hmem
  exact ⟨skip, hcompiled, Parser.value_read_of_fits hskip⟩

/-- Whether a reading has fields under the names that the way of reading decides: each configured name, the name of
each group, each configured name that the object has, or no name that the program does not assign. -/
def HasKeysOf (settings : Settings) (names : List String) (r : Reading) : Prop :=
  match settings.kind with
  | .split => ∀ name, name ∈ r.fields.keys ↔ name ∈ names
  | .regex => ∀ name, name ∈ r.fields.keys ↔ name ∈ settings.regexGroups.getD names
  | .json => ∃ members, Json.ofText r.raw = .ok (.obj members) ∧
      ∀ name, name ∈ r.fields.keys ↔ name ∈ names ∧ name ∈ members.map (·.1)
  | .custom => ∃ source program, settings.customParser = some source ∧ Script.Program.compile source = .ok program ∧
      ∀ name ∈ r.fields.keys, name ∈ program.assigned

theorem keys_of_read {settings : Settings} {names : List String} {p : Parser}
    (h : Parser.compile? settings names = .ok p) {now : Int} {line : String} {r : Reading}
    (hr : (p.read now line).value = some r) :
    HasKeysOf settings names r := by
  obtain ⟨hnames, -, hstrategy⟩ := Parser.of_compile? h
  obtain ⟨-, -, hraw, hfields⟩ := Parser.value_read_iff.mp hr
  have hcompiled := Strategy.of_compile hstrategy
  rw [hnames, ← hraw] at hfields
  unfold HasKeysOf
  generalize r.fields = fields at *
  cases hk : settings.kind with
  | split =>
    rw [hk] at hcompiled
    rw [hcompiled, Strategy.value_split] at hfields
    split at hfields
    · cases hfields
    · next hlength =>
      obtain rfl := Option.some.inj hfields
      exact mem_keys_zip (Nat.le_of_not_lt hlength)
  | regex =>
    rw [hk] at hcompiled
    obtain ⟨regex, hregex⟩ := hcompiled
    rw [hregex, Strategy.value_regex, Option.map_eq_some_iff] at hfields
    obtain ⟨groups, -, rfl⟩ := hfields
    exact mem_keys_namedGroups _ groups
  | json =>
    rw [hk] at hcompiled
    rw [hcompiled, Strategy.value_json_iff] at hfields
    obtain ⟨members, htext, rfl⟩ := hfields
    exact ⟨members, htext, mem_keys_namedMembers names members⟩
  | custom =>
    rw [hk] at hcompiled
    obtain ⟨source, program, hsource, hprogram, hcustom⟩ := hcompiled
    rw [hcustom, Strategy.value_custom_iff] at hfields
    refine ⟨source, program, hsource, hprogram, fun name hname => ?_⟩
    obtain ⟨field, hfield⟩ := (Dict.mem_keys_iff _ name).mp hname
    exact (Script.Program.stored_of_evaluate hfields hfield).1

/-- Where each configured name gets a value, the check of a line accepts what is read and nothing else. -/
theorem validate_iff_read {settings : Settings} {names : List String} {p : Parser}
    (h : Parser.compile? settings names = .ok p)
    (hkind : settings.kind = .split ∨ settings.kind = .regex ∧ settings.regexGroups = none) {now : Int} {line : String}
    {r : Reading} : (p.validate now line).value = .ok r ↔ (p.read now line).value = some r := by
  rw [Parser.value_validate_iff, (Parser.of_compile? h).1]
  refine and_iff_left_of_imp fun hr => ?_
  have hkeys := keys_of_read h hr
  unfold HasKeysOf at hkeys
  rcases hkind with hk | ⟨hk, hgroups⟩
  · rw [hk] at hkeys
    exact fun name => (hkeys name).mpr
  · rw [hk, hgroups] at hkeys
    exact fun name => (hkeys name).mpr

/-- The contract of reading, for every parser that settings compile to and for every line.  The line without the white
space around it is what is read, so it is also what the reading keeps and what skip patterns are matched with.  A line
that fits any skip pattern but the empty one is not read.  A reading has the fields that its way of reading decides,
and where these are the configured ones the check of a line accepts every reading. -/
theorem Parser.read_contract {settings : Settings} {names : List String} {p : Parser}
    (h : Parser.compile? settings names = .ok p) (now : Int) (line : String) :
    p.read now (trimmed line) = p.read now line ∧
    (∀ pattern ∈ settings.skipLines, pattern ≠ "" → ∃ skip, Skip.compile pattern = .ok skip ∧
      (skip.fits (trimmed line) = true → (p.read now line).value = none)) ∧
    (∀ r, (p.read now line).value = some r → r.raw = trimmed line ∧ HasKeysOf settings names r) ∧
    (settings.kind = .split ∨ settings.kind = .regex ∧ settings.regexGroups = none →
      ∀ r, (p.validate now line).value = .ok r ↔ (p.read now line).value = some r) := by
  refine ⟨p.read_trimmed now line, fun pattern => skipped h now line, fun r hr => ⟨?_, keys_of_read h hr⟩, ?_⟩
  · exact (Parser.value_read_iff.mp hr).2.2.1
  · exact fun hkind r => validate_iff_read h hkind

theorem Parser.read_contract_comment :
    ∃ p, Parser.compile? { kind := .split, skipLines := ["#"] } ["a", "b"] = .ok p ∧
      (∃ r, (p.read 0 " 1,2,3 ").value = some r ∧ r.raw = "1,2,3" ∧ (∀ name, name ∈ r.fields.keys ↔ name ∈ ["a", "b"]) ∧
        (p.validate 0 " 1,2,3 ").value = .ok r) ∧
      (p.read 0 " # 1,2").value = none := by
  have hp : Parser.compile? { kind := .split, skipLines := ["#"] } ["a", "b"] =
      .ok ⟨.split ",", ["a", "b"], [.beginning "#"]⟩ := rfl
  refine ⟨_, hp, ?_, ?_⟩
  · have hread : ((⟨.split ",", ["a", "b"], [.beginning "#"]⟩ : Parser).read 0 " 1,2,3 ").value =
        some ⟨0, "1,2,3", Dict.ofList [("a", .coerce "1"), ("b", .coerce "2")]⟩ := by
      have hcolumns : columns "," (trimmed " 1,2,3 ") = ["1", "2", "3"] := by decide +kernel
      rw [Parser.value_read, if_neg (by decide +kernel), Strategy.value_split, hcolumns]
      rfl
    obtain ⟨-, -, hkeys, hvalidate⟩ := Parser.read_contract hp 0 " 1,2,3 "
    exact ⟨_, hread, rfl, (hkeys _ hread).2, (hvalidate (.inl rfl) _).mpr hread⟩
  · obtain ⟨skip, hskip, hfits⟩ := (Parser.read_contract hp 0 " # 1,2").2.1 "#" (by decide) (by decide)
    obtain rfl := Except.ok.inj (hskip.symm.trans (rfl : Skip.compile "#" = .ok (.beginning "#")))
    exact hfits (by decide +kernel)

end SampleRecorder.Line
