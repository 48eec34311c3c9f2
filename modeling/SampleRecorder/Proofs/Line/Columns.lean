import SampleRecorder.Proofs.Line.Reading

/-!
# Columns

A split gives the configured names to the columns of a line in their order.  The columns are those of the line as it is
read, without the white space around it.  A delimiter that stands in this white space is lost with it, and then the
columns are not those of the line as it came; `columns_trimmed_iff` says when this happens.
-/

namespace SampleRecorder.Line

variable {d line : String}

/-- Whether no delimiter can stand in the white space around a line: a delimiter that begins with white space does not
follow a blank first column, and one that ends with white space does not precede a blank last column. -/
def KeepsColumns (d line : String) : Prop :=
  Text.Spares d.toList line.toList

private theorem toList_ne_nil (hd : d ≠ "") : d.toList ≠ [] :=
  fun hnil => hd (String.toList_eq_nil_iff.mp hnil)

theorem columns_eq (d line : String) :
    columns d line = ((Text.split d.toList line.toList).map Text.trim).map String.ofList := by
  rw [List.map_map]
  rfl

theorem columns_eq_columns_iff (d line line' : String) : columns d line = columns d line' ↔
    (Text.split d.toList line.toList).map Text.trim = (Text.split d.toList line'.toList).map Text.trim := by
  rw [columns_eq, columns_eq]
  exact List.map_inj_right fun _ _ => String.ofList_inj.mp

theorem columns_trimmed (hd : d ≠ "") (h : KeepsColumns d line) : columns d (trimmed line) = columns d line := by
  rw [columns_eq_columns_iff, trimmed, String.toList_ofList]
  exact Text.map_trim_split_trim (toList_ne_nil hd) h

/-- Where a line has several columns, these are the only ones that it keeps. -/
theorem columns_trimmed_iff (hd : d ≠ "") (hmany : 1 < (columns d line).length) :
    columns d (trimmed line) = columns d line ↔ KeepsColumns d line := by
  rw [columns, List.length_map] at hmany
  rw [columns_eq_columns_iff, trimmed, String.toList_ofList]
  exact Text.map_trim_split_trim_iff (toList_ne_nil hd) hmany

/-- Whether a result is a reading in which each name has the value that the column at its place spells. -/
def Fills (names columns : List String) (result : Option Reading) : Prop :=
  ∃ r, result = some r ∧ ∀ (i : Nat) (name column : String), names[i]? = some name → columns[i]? = some column →
    r.fields.get? name = some (.coerce column)

/-- Names that do not repeat get the columns at their places. -/
theorem get?_zip {names columns : List String} (hnames : names.Nodup) (hlength : names.length ≤ columns.length)
    {i : Nat} {name column : String} (hname : names[i]? = some name) (hcolumn : columns[i]? = some column) :
    (Dict.ofList ((names.zip columns).map fun e => (e.1, FieldValue.coerce e.2))).get? name =
      some (.coerce column) := by
  refine Dict.get?_ofList_of_mem (by rwa [map_fst_coerced hlength]) (List.mem_map.mpr ⟨(name, column), ?_, rfl⟩)
  exact List.mem_iff_getElem?.mpr ⟨i, List.getElem?_zip_eq_some.mpr ⟨hname, hcolumn⟩⟩

theorem settings_delimiter {settings : Settings} (h : settings.splitDelimiter = some d) (hd : d ≠ "") :
    settings.delimiter = d := by
  rw [Settings.delimiter, h]
  exact if_neg hd

theorem Parser.value_read_split {settings : Settings} {names : List String} {p : Parser}
    (h : compile? settings names = .ok p) (hkind : settings.kind = .split) (hd : settings.splitDelimiter = some d)
    (hne : d ≠ "") {now : Int} (hskip : ∀ skip ∈ p.skips, skip.fits (trimmed line) = false) :
    (p.read now line).value =
      if (columns d (trimmed line)).length < names.length then none
      else some ⟨now, trimmed line,
        .ofList ((names.zip (columns d (trimmed line))).map fun e => (e.1, FieldValue.coerce e.2))⟩ := by
  obtain ⟨hnames, -, hstrategy⟩ := of_compile? h
  have hsplit := Strategy.of_compile hstrategy
  rw [hkind] at hsplit
  have hskips : ¬p.skips.any (·.fits (trimmed line)) = true := by
    rw [List.any_eq_true]
    rintro ⟨skip, hmem, hfits⟩
    rw [hskip skip hmem] at hfits
    cases hfits
  rw [value_read, if_neg hskips, hnames, hsplit, settings_delimiter hd hne, Strategy.value_split]
  split <;> rfl

theorem Parser.fills_of_columns {settings : Settings} {names : List String} {p : Parser}
    (h : compile? settings names = .ok p) (hkind : settings.kind = .split) (hd : settings.splitDelimiter = some d)
    (hne : d ≠ "") (hnames : names.Nodup) {now : Int} (hskip : ∀ skip ∈ p.skips, skip.fits (trimmed line) = false)
    (hlength : names.length ≤ (columns d (trimmed line)).length) :
    Fills names (columns d (trimmed line)) (p.read now line).value := by
  rw [value_read_split h hkind hd hne hskip, if_neg (Nat.not_lt.mpr hlength)]
  exact ⟨_, rfl, fun _ _ _ => get?_zip hnames hlength⟩

/-- What a split makes of a line that is not passed over, for every delimiter and all names that do not repeat.  A line
with enough columns is read, and each name has the value that the column at its place spells; a line with fewer columns
is not read.  The columns are those of the line without the white space around it.  They are the columns of the line as
it came, the blank ones included, where no delimiter can stand in this white space; and where there are several columns,
only there. -/
theorem Parser.read_columns {settings : Settings} {names : List String} {p : Parser}
    (h : compile? settings names = .ok p) (hkind : settings.kind = .split) (hd : settings.splitDelimiter = some d)
    (hne : d ≠ "") (hnames : names.Nodup) (now : Int) (hskip : ∀ skip ∈ p.skips, skip.fits (trimmed line) = false) :
    (names.length ≤ (columns d (trimmed line)).length →
      Fills names (columns d (trimmed line)) (p.read now line).value) ∧
    ((columns d (trimmed line)).length < names.length → (p.read now line).value = none) ∧
    (KeepsColumns d line → names.length ≤ (columns d line).length →
      Fills names (columns d line) (p.read now line).value) ∧
    (1 < (columns d line).length → (columns d (trimmed line) = columns d line ↔ KeepsColumns d line)) := by
  refine ⟨fills_of_columns h hkind hd hne hnames hskip, fun hlength => ?_, fun hkeeps hlength => ?_,
    columns_trimmed_iff hne⟩
  · rw [value_read_split h hkind hd hne hskip, if_pos hlength]
  · have hcolumns := columns_trimmed hne hkeeps
    rw [← hcolumns] at hlength ⊢
    exact fills_of_columns h hkind hd hne hnames hskip hlength

/-- Two columns between commas, the first of them blank. -/
theorem Parser.read_columns_blank : ∃ p,
    compile? { kind := .split, splitDelimiter := some "," } ["a", "b"] = .ok p ∧ KeepsColumns "," " ,2" ∧
      columns "," " ,2" = ["", "2"] ∧ Fills ["a", "b"] ["", "2"] (p.read 0 " ,2").value := by
  have hp : compile? { kind := .split, splitDelimiter := some "," } ["a", "b"] = .ok ⟨.split ",", ["a", "b"], []⟩ := rfl
  have hkeeps : KeepsColumns "," " ,2" := ⟨.inl (Text.stops_cons.mpr rfl), .inl (Text.stops_cons.mpr rfl)⟩
  have hcolumns : columns "," " ,2" = ["", "2"] := by decide +kernel
  refine ⟨_, hp, hkeeps, hcolumns, ?_⟩
  rw [← hcolumns]
  exact (read_columns hp rfl rfl (by decide) (by decide) 0 nofun).2.2.1 hkeeps (by rw [hcolumns]; decide)

/-- A tab in front of the first column is lost: the line `\t1\t2` has three columns as it came, of which the first is
blank, and the two names get the values of the other two. -/
theorem Parser.read_columns_shifted : ∃ p,
    compile? { kind := .split, splitDelimiter := some "\t" } ["a", "b"] = .ok p ∧ p.skips = [] ∧
      columns "\t" "\t1\t2" = ["", "1", "2"] ∧
      (∃ r, (p.read 0 "\t1\t2").value = some r ∧
        r.fields.get? "a" = some (.int 1) ∧ r.fields.get? "b" = some (.int 2)) ∧
      ¬Fills ["a", "b"] (columns "\t" "\t1\t2") (p.read 0 "\t1\t2").value := by
  have hp : compile? { kind := .split, splitDelimiter := some "\t" } ["a", "b"] =
      .ok ⟨.split "\t", ["a", "b"], []⟩ := rfl
  have hcolumns : columns "\t" "\t1\t2" = ["", "1", "2"] := by decide +kernel
  have hread : ((⟨.split "\t", ["a", "b"], []⟩ : Parser).read 0 "\t1\t2").value =
      some ⟨0, "1\t2", Dict.ofList [("a", .coerce "1"), ("b", .coerce "2")]⟩ := by
    have htrimmed : columns "\t" (trimmed "\t1\t2") = ["1", "2"] := by decide +kernel
    rw [value_read, if_neg (by decide +kernel), Strategy.value_split, htrimmed]
    rfl
  refine ⟨_, hp, rfl, hcolumns, ⟨_, hread, rfl, rfl⟩, ?_⟩
  rw [hread, hcolumns]
  rintro ⟨r, hr, hfields⟩
  obtain rfl := Option.some.inj hr
  have ha : some (FieldValue.int 1) = some (.text "") := hfields 0 "a" "" rfl rfl
  cases ha

end SampleRecorder.Line
