import SampleRecorder.Proofs.Export.Csv
import SampleRecorder.Proofs.Number.Digits

/-!
# Tables with given columns

Templates that are placeholders with commas between them.  Such a template gives one column for each placeholder: its
parts are read off in order (`parts_columns`), so the line of a sample consists of its values as cells
(`toList_row_columns`).  The table reads back as those values, whatever they hold (`records_table`).  The header is the
names as they are, so it reads back as these if and only if none of them needs quotes (`records_header_iff`).
-/

namespace SampleRecorder

/-- The value of a column in a sample; what the sample lacks is empty. -/
def Sample.value (s : Sample) (column : String) : String :=
  if column = "timestamp" then String.ofList (Number.ofInt s.reading.timestamp)
  else if column = "recordedAt" then String.ofList (Number.ofInt s.recordedAt)
  else if column = "label" then s.label.getD ""
  else if column = "raw" then s.reading.raw
  else ((s.reading.fields.get? column).map FieldValue.display).getD ""

namespace Export

open Csv (NeedsQuotes Dialect rowText tableText written)

/-- The template with some columns. -/
def columns (names : List String) : String :=
  ",".intercalate (names.map fun name => "$\x7b" ++ name ++ "\x7d")

/-- A name that a placeholder can have: that of a value of every sample, or that of a configured field. -/
def IsColumn (fields : List String) (name : String) : Prop :=
  name ∈ ["timestamp", "recordedAt", "label", "raw"] ∨ name ∈ fields ∧ name ≠ "" ∧ '\x7d' ∉ name.toList

instance (fields : List String) (name : String) : Decidable (IsColumn fields name) :=
  inferInstanceAs (Decidable (_ ∨ _))

/-! ### The parts of a template -/

theorem placeable_of_isColumn {fields : List String} {name : String} (h : IsColumn fields name) :
    name.toList ≠ [] ∧ '\x7d' ∉ name.toList := by
  rcases h with h | ⟨-, hne, hbrace⟩
  · have hall : ∀ n ∈ ["timestamp", "recordedAt", "label", "raw"], n.toList ≠ [] ∧ '\x7d' ∉ n.toList := by decide
    exact hall name h
  · exact ⟨by simpa using hne, hbrace⟩

theorem parts_nil : parts [] = ([], false) := by
  rw [parts]
  split
  · rfl
  · next h => simp [Text.cut?, Text.cutFrom?, opening] at h

theorem parts_of_cut {s before after name rest : List Char} (hopen : Text.cut? opening s = some (before, after))
    (hclose : Text.cut? ['\x7d'] after = some (name, rest)) (hname : name ≠ []) :
    parts s = (Part.ofText before ++ .placeholder name :: (parts rest).1, (parts rest).2) := by
  rw [parts]
  split
  · next h => simp [hopen] at h
  · next before' after' h =>
    rw [hopen] at h
    cases h
    split
    · next h' => simp [hclose] at h'
    · next name' rest' h' =>
      rw [hclose] at h'
      cases h'
      exact if_neg hname

theorem cut?_opening {before : List Char} (hbefore : before = [] ∨ before = [',']) (s : List Char) :
    Text.cut? opening (before ++ opening ++ s) = some (before, s) := by
  rcases hbefore with rfl | rfl <;> simp [Text.cut?, Text.cutFrom?, Text.strip?, opening]

theorem toList_columns_singleton (name : String) :
    (columns [name]).toList = opening ++ (name.toList ++ ['\x7d']) := by
  simp [columns, opening]

theorem toList_columns_cons (name next : String) (names : List String) :
    (columns (name :: next :: names)).toList =
      opening ++ (name.toList ++ '\x7d' :: ([','] ++ (columns (next :: names)).toList)) := by
  simp [columns, opening, String.intercalate_cons_cons]

/-- Each column is a placeholder, and between two of them stands a comma. -/
theorem parts_columns {before : List Char} (hbefore : before = [] ∨ before = [',']) {names : List String}
    (hne : names ≠ []) (hnames : ∀ name ∈ names, name.toList ≠ [] ∧ '\x7d' ∉ name.toList) :
    parts (before ++ (columns names).toList) =
      (Part.ofText before ++ (names.map fun name => Part.placeholder name.toList).intersperse (.text [',']),
        false) := by
  induction names generalizing before with
  | nil => exact absurd rfl hne
  | cons name names ih =>
    obtain ⟨⟨hname, hbrace⟩, hnames⟩ := List.forall_mem_cons.1 hnames
    cases names with
    | nil =>
      rw [toList_columns_singleton, ← List.append_assoc,
        parts_of_cut (cut?_opening hbefore _) (Text.cut?_singleton_append hbrace []) hname, parts_nil]
      rfl
    | cons next names =>
      have hrest := ih (.inr rfl) (List.cons_ne_nil _ _) hnames
      rw [toList_columns_cons, ← List.append_assoc,
        parts_of_cut (cut?_opening hbefore _) (Text.cut?_singleton_append hbrace _) hname, hrest]
      rfl

theorem map_intersperse {α β : Type} (f : α → β) (sep : α) (l : List α) :
    (l.intersperse sep).map f = (l.map f).intersperse (f sep) := by
  induction l with
  | nil => rfl
  | cons a l ih =>
    cases l with
    | nil => rfl
    | cons b l => simpa [List.intersperse_cons_cons] using ih

theorem filterMap_intersperse {α β : Type} {f : α → Option β} {sep : α} (hsep : f sep = none) (l : List α) :
    (l.intersperse sep).filterMap f = l.filterMap f := by
  induction l with
  | nil => rfl
  | cons a l ih =>
    cases l with
    | nil => rfl
    | cons b l =>
      rw [List.intersperse_cons_cons]
      cases hf : f a with
      | none => rw [List.filterMap_cons_none hf, List.filterMap_cons_none hsep, ih, List.filterMap_cons_none hf]
      | some b' => rw [List.filterMap_cons_some hf, List.filterMap_cons_none hsep, ih, List.filterMap_cons_some hf]

/-! ### Values as cells -/

theorem not_needsQuotes_ofInt (n : Int) : ¬NeedsQuotes (String.ofList (Number.ofInt n)) := by
  have hchars : ∀ c ∈ Number.ofInt n, c = '-' ∨ c.isDigit = true := by
    intro c hc
    unfold Number.ofInt at hc
    split at hc
    · rcases List.mem_cons.1 hc with rfl | hc
      · exact .inl rfl
      · exact .inr (Number.isDigit_of_mem_digitsOf hc)
    · exact .inr (Number.isDigit_of_mem_digitsOf hc)
  have habsent : ∀ c ∈ [',', '"', '\n'], ¬(c = '-' ∨ c.isDigit = true) := by decide
  rw [NeedsQuotes, String.toList_ofList]
  rintro (h | h | h)
  · exact habsent ',' (by decide) (hchars _ h)
  · exact habsent '"' (by decide) (hchars _ h)
  · exact habsent '\n' (by decide) (hchars _ h)

/-- A known placeholder becomes the cell of the value. -/
theorem render_ofName {fields : List String} {name : String}
    (h : name ∈ ["timestamp", "recordedAt", "label", "raw"] ∨ name ∈ fields) (s : Sample) :
    (Slot.ofName fields name).render s = cell (s.value name) := by
  unfold Slot.ofName Sample.value
  by_cases htimestamp : name = "timestamp"
  · simp only [htimestamp, ↓reduceIte, Slot.render, Csv.cell_of_not_needsQuotes (not_needsQuotes_ofInt _)]
  by_cases hrecorded : name = "recordedAt"
  · simp only [hrecorded, String.reduceEq, ↓reduceIte, Slot.render,
      Csv.cell_of_not_needsQuotes (not_needsQuotes_ofInt _)]
  by_cases hlabel : name = "label"
  · simp only [hlabel, String.reduceEq, ↓reduceIte, Slot.render]
  by_cases hraw : name = "raw"
  · simp only [hraw, String.reduceEq, ↓reduceIte, Slot.render]
  have hfield : fields.contains name = true := by
    rcases h with h | h
    · simp [htimestamp, hrecorded, hlabel, hraw] at h
    · simpa using h
  simp only [htimestamp, hrecorded, hlabel, hraw, hfield, ↓reduceIte, Slot.render]

/-! ### Header, lines and table -/

section Columns

variable {fields names : List String} (hne : names ≠ []) (hnames : ∀ name ∈ names, IsColumn fields name)

include hne hnames

theorem segments_columns :
    (Template.compile (columns names) fields).segments =
      (names.map fun name => Segment.placeholder name (Slot.ofName fields name)).intersperse (.text ",") := by
  have hparts := parts_columns (.inl rfl) hne fun name hname => placeable_of_isColumn (hnames name hname)
  have hcompile : (Template.compile (columns names) fields).segments =
      (parts ([] ++ (columns names).toList)).1.map (Segment.ofPart fields) := rfl
  rw [hcompile, hparts, show Part.ofText [] = [] from rfl, List.nil_append, map_intersperse, List.map_map]
  simp [Segment.ofPart, Function.comp_def]

theorem toList_header_columns :
    (Template.compile (columns names) fields).header.toList = rowText String.toList names := by
  have hplaceholders : (Template.compile (columns names) fields).placeholders = names := by
    rw [Template.placeholders, segments_columns hne hnames, filterMap_intersperse rfl, List.filterMap_map]
    exact List.filterMap_some
  rw [Template.header, hplaceholders, String.toList_intercalate]
  rfl

theorem toList_row_columns (s : Sample) :
    ((Template.compile (columns names) fields).row s).toList = rowText written (names.map s.value) := by
  have hcells : (names.map fun name => Segment.placeholder name (Slot.ofName fields name)).map
      (fun segment => (Template.renderSegment s segment).toList) =
        (names.map s.value).map written := by
    rw [List.map_map, List.map_map]
    refine List.map_congr_left fun name hname => ?_
    exact congrArg String.toList (render_ofName ((hnames name hname).imp_right And.left) s)
  rw [Template.row, segments_columns hne hnames, String.toList_join, List.flatMap_map, List.flatMap_def,
    map_intersperse, hcells]
  have hcomma : (Template.renderSegment s (.text ",")).toList = [','] := by simp [Template.renderSegment]
  rw [hcomma, rowText, List.intercalate]

theorem toList_table_columns (samples : List Sample) :
    ((Template.compile (columns names) fields).table samples false).toList =
      tableText written (samples.map fun s => names.map s.value) := by
  have hrows : (samples.map (Template.compile (columns names) fields).row).map String.toList =
      (samples.map fun s => names.map s.value).map (rowText written) := by
    rw [List.map_map, List.map_map]
    exact List.map_congr_left fun s _ => toList_row_columns hne hnames s
  have hlines : (Template.compile (columns names) fields).lines samples false =
      samples.map (Template.compile (columns names) fields).row := rfl
  rw [Template.table, hlines, String.toList_intercalate, hrows]
  rfl

end Columns

/-! ### Reading a table back -/

/-- A table without header reads back as one record for each sample, in order, with the values of the columns as its
cells.  With two columns or more it makes no difference whether records without text count. -/
theorem records_table {fields names : List String} (hne : names ≠ []) (hnames : ∀ name ∈ names, IsColumn fields name)
    {samples : List Sample} (hsamples : samples ≠ []) :
    Dialect.lineFeed.records? ((Template.compile (columns names) fields).table samples false) =
        some (samples.map fun s => names.map s.value) ∧
      (2 ≤ names.length →
        Dialect.records? { Dialect.lineFeed with skipsBlank := true }
            ((Template.compile (columns names) fields).table samples false) =
          some (samples.map fun s => names.map s.value)) := by
  have hread (d : Dialect) (hend : ∀ c, d.isEnd c = (c == '\n'))
      (hblank : d.skipsBlank = false ∨ 2 ≤ names.length) :
      d.records? ((Template.compile (columns names) fields).table samples false) =
        some (samples.map fun s => names.map s.value) := by
    rw [Dialect.records?_eq_some_iff, toList_table_columns hne hnames]
    refine Dialect.read_table (by simpa using hsamples) (by simp [hend]) ?_ (hblank.imp_right ?_)
    · intro values hvalues
      obtain ⟨s, -, rfl⟩ := List.mem_map.1 hvalues
      refine ⟨by simpa using hne, fun value _ h => Dialect.bare_of_not_needsQuotes ?_ h⟩
      intro c hc
      simpa [hend] using hc
    · intro h values hvalues
      obtain ⟨s, -, rfl⟩ := List.mem_map.1 hvalues
      simpa using h
  exact ⟨hread _ (fun _ => rfl) (.inl rfl), fun h => hread _ (fun _ => rfl) (.inr h)⟩

/-- A field whose name holds a comma, texts with quotes and line feeds in every place, and absent values. -/
theorem records_table_hostile :
    let fields := ["a,b", "c"]
    let names := ["raw", "a,b", "label", "recordedAt"]
    let samples : List Sample :=
      [⟨⟨0, "\"\n\"\",", .ofList [("a,b", .text ",\""), ("c", .text "x")]⟩, -7, some "\n"⟩,
        ⟨⟨0, "", .ofList []⟩, 8, none⟩]
    (names ≠ [] ∧ (∀ name ∈ names, IsColumn fields name) ∧ samples ≠ []) ∧
      Dialect.lineFeed.records? ((Template.compile (columns names) fields).table samples false) =
        some [["\"\n\"\",", ",\"", "\n", "-7"], ["", "", "", "8"]] := by
  intro fields names samples
  have hne : names ≠ [] := by decide
  have hnames : ∀ name ∈ names, IsColumn fields name := by decide
  have hsamples : samples ≠ [] := List.cons_ne_nil _ _
  refine ⟨⟨hne, hnames, hsamples⟩, (records_table hne hnames hsamples).1.trans ?_⟩
  decide +kernel

/-! ### Reading a header back -/

/-- The header reads back as the names if and only if none of them needs quotes, while the line of a sample always has
one cell for each of them. -/
theorem records_header_iff {fields names : List String} (hne : names ≠ [])
    (hnames : ∀ name ∈ names, IsColumn fields name) :
    (Dialect.lineFeed.records? (Template.compile (columns names) fields).header = some [names] ↔
        ∀ name ∈ names, ¬NeedsQuotes name) ∧
      ∀ s, Dialect.lineFeed.records? ((Template.compile (columns names) fields).row s) = some [names.map s.value] := by
  refine ⟨?_, fun s => ?_⟩
  · rw [Dialect.records?_eq_some_iff, toList_header_columns hne hnames]
    constructor
    · exact Dialect.not_needsQuotes_of_read rfl hne
    · intro hbare
      -- names that need no quotes are written as they are
      have hwritten : rowText String.toList names = rowText written names := by
        rw [rowText, rowText, List.map_congr_left fun name hname => Csv.written_of_not_needsQuotes (hbare name hname)]
      rw [hwritten]
      exact Dialect.read_row_lineFeed hne
  · rw [Dialect.records?_eq_some_iff, toList_row_columns hne hnames]
    exact Dialect.read_row_lineFeed (by simpa using hne)

/-- Plain names, among them one with blanks around a single quotation mark. -/
theorem records_header_iff_plain :
    let fields := ["it's hot", "b"]
    let names := ["it's hot", "label", "b"]
    (names ≠ [] ∧ ∀ name ∈ names, IsColumn fields name) ∧
      Dialect.lineFeed.records? (Template.compile (columns names) fields).header = some [names] := by
  intro fields names
  have hne : names ≠ [] := by decide
  have hnames : ∀ name ∈ names, IsColumn fields name := by decide
  exact ⟨⟨hne, hnames⟩, (records_header_iff hne hnames).1.2 (by decide)⟩

/-- A comma in a name makes two cells of it in the header, so headers need not read back as the names. -/
theorem header_cell_split :
    ¬∀ fields names : List String, names ≠ [] → (∀ name ∈ names, IsColumn fields name) →
      Dialect.lineFeed.records? (Template.compile (columns names) fields).header = some [names] := by
  intro h
  have hread := h ["a,b", "c"] ["a,b", "c"] (by decide) (by decide)
  have hcells : Dialect.lineFeed.records? (Template.compile (columns ["a,b", "c"]) ["a,b", "c"]).header =
      some [["a", "b", "c"]] := by decide +kernel
  rw [hcells] at hread
  exact absurd hread (by decide)

end Export

end SampleRecorder
