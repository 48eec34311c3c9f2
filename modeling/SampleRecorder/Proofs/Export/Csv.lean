import SampleRecorder.Export.Template
import SampleRecorder.Proofs.Text.Split

/-!
# Comma-separated text

A reader of comma-separated text in the form of RFC 4180: cells stand between commas, and one that begins with a quote
goes on to the closing quote, with every quote inside it written twice.  What ends a record outside quotes is a matter
of the dialect.  The key facts: a value that is written as a cell is read back whatever it holds (`read_cell`), and so
is a row of them (`read_row`) and a table (`read_table`).
-/

namespace SampleRecorder.Export.Csv

/-! ### The reader -/

/-- What tells records apart: the characters that end one outside quotes, and whether one without text is none. -/
structure Dialect where
  isEnd : Char → Bool
  skipsBlank : Bool
  isEnd_quote : isEnd '"' = false := by rfl
  isEnd_comma : isEnd ',' = false := by rfl

/-- A line feed stands between two records. -/
def Dialect.lineFeed : Dialect where
  isEnd c := c == '\n'
  skipsBlank := false

/-- A line feed, a carriage return or both end a record; without text between them there is none. -/
def Dialect.anyReturn : Dialect where
  isEnd c := c == '\n' || c == '\r'
  skipsBlank := true

@[simp] theorem Dialect.isEnd_lineFeed (c : Char) : Dialect.lineFeed.isEnd c = (c == '\n') := rfl

@[simp] theorem Dialect.isEnd_anyReturn (c : Char) : Dialect.anyReturn.isEnd c = (c == '\n' || c == '\r') := rfl

/-- Where a reader stands: before a record, behind a comma, inside a cell without quotes, inside quotes, or behind a
quote that either closes the cell or is the first of two. -/
inductive Mode where
  | record
  | cell
  | bare
  | quoted
  | closed
  deriving DecidableEq, Repr

abbrev Record := List (List Char)

/-- Text put in front of the first cell. -/
def prepend (text : List Char) : List Record → List Record
  | (cell :: cells) :: records => ((text ++ cell) :: cells) :: records
  | records => records

/-- An empty cell put in front of the first record. -/
def openCell : List Record → List Record
  | cells :: records => ([] :: cells) :: records
  | [] => []

/-- The records of a text.  A quote inside a cell without quotes, text behind a closing quote, and a quote that is never
closed are refused. -/
def Dialect.read (d : Dialect) : Mode → List Char → Option (List Record)
  | mode, [] =>
    if mode = .quoted then none
    else some (if mode = .record && d.skipsBlank then [] else [[[]]])
  | mode, c :: s =>
    if mode = .quoted then
      if c = '"' then d.read .closed s else (d.read .quoted s).map (prepend [c])
    else if c = '"' then
      if mode = .closed then (d.read .quoted s).map (prepend [c])
      else if mode = .bare then none
      else d.read .quoted s
    else if c = ',' then (d.read .cell s).map openCell
    else if d.isEnd c then
      (d.read .record s).map fun records => if mode = .record && d.skipsBlank then records else [[]] :: records
    else if mode = .closed then none
    else (d.read .bare s).map (prepend [c])

/-- The records of a text, with their cells as texts. -/
def Dialect.records? (d : Dialect) (text : String) : Option (List (List String)) :=
  (d.read .record text.toList).map fun records => records.map fun cells => cells.map String.ofList

theorem prepend_nil (records : List Record) : prepend [] records = records := by
  unfold prepend
  split <;> rfl

theorem prepend_prepend (u v : List Char) (records : List Record) :
    prepend u (prepend v records) = prepend (u ++ v) records := by
  cases records with
  | nil => rfl
  | cons cells records => cases cells <;> simp [prepend]

/-! ### Written cells -/

/-- A value that is written between quotes. -/
def NeedsQuotes (value : String) : Prop :=
  ',' ∈ value.toList ∨ '"' ∈ value.toList ∨ '\n' ∈ value.toList

instance (value : String) : Decidable (NeedsQuotes value) :=
  inferInstanceAs (Decidable (_ ∨ _))

/-- A text with every quote written twice. -/
def doubled (s : List Char) : List Char :=
  s.flatMap fun c => if c = '"' then ['"', '"'] else [c]

/-- A value as it is written in a table. -/
def written (value : String) : List Char :=
  (cell value).toList

theorem any_iff_needsQuotes (value : String) :
    (value.toList.any fun c => c = ',' || c = '"' || c = '\n') = true ↔ NeedsQuotes value := by
  simp only [List.any_eq_true, Bool.or_eq_true, decide_eq_true_eq, NeedsQuotes]
  constructor
  · rintro ⟨c, hc, (rfl | rfl) | rfl⟩
    · exact .inl hc
    · exact .inr (.inl hc)
    · exact .inr (.inr hc)
  · rintro (h | h | h)
    · exact ⟨_, h, .inl (.inl rfl)⟩
    · exact ⟨_, h, .inl (.inr rfl)⟩
    · exact ⟨_, h, .inr rfl⟩

theorem written_of_needsQuotes {value : String} (h : NeedsQuotes value) :
    written value = '"' :: (doubled value.toList ++ ['"']) := by
  rw [written, cell, if_pos ((any_iff_needsQuotes value).2 h), Text.replace_singleton]
  simp [doubled]

theorem cell_of_not_needsQuotes {value : String} (h : ¬NeedsQuotes value) : cell value = value := by
  rw [cell, if_neg (mt (any_iff_needsQuotes value).1 h)]

theorem written_of_not_needsQuotes {value : String} (h : ¬NeedsQuotes value) : written value = value.toList :=
  congrArg String.toList (cell_of_not_needsQuotes h)

namespace Dialect

variable {d : Dialect}

/-- A text that needs no quotes in a dialect. -/
def Bare (d : Dialect) (s : List Char) : Prop :=
  ∀ c ∈ s, c ≠ '"' ∧ c ≠ ',' ∧ d.isEnd c = false

/-- What may follow a cell: nothing, a comma, or the end of the record. -/
def Follows (d : Dialect) (s : List Char) : Prop :=
  ∀ c ∈ s.head?, c = ',' ∨ d.isEnd c = true

theorem follows_nil : d.Follows [] := by
  simp [Follows]

theorem follows_cons {c : Char} {s : List Char} : d.Follows (c :: s) ↔ c = ',' ∨ d.isEnd c = true := by
  simp [Follows]

theorem ne_quote_of_isEnd {c : Char} (h : d.isEnd c = true) : c ≠ '"' := by
  rintro rfl
  rw [d.isEnd_quote] at h
  cases h

theorem ne_comma_of_isEnd {c : Char} (h : d.isEnd c = true) : c ≠ ',' := by
  rintro rfl
  rw [d.isEnd_comma] at h
  cases h

/-- Where only line feeds end a record, what needs quotes is what is written with them. -/
theorem bare_of_not_needsQuotes (hend : ∀ c, d.isEnd c = true → c = '\n') {value : String}
    (h : ¬NeedsQuotes value) : d.Bare value.toList := by
  simp only [NeedsQuotes, not_or] at h
  obtain ⟨hcomma, hquote, hfeed⟩ := h
  intro c hc
  refine ⟨fun hq => hquote (hq ▸ hc), fun hq => hcomma (hq ▸ hc), ?_⟩
  cases he : d.isEnd c with
  | false => rfl
  | true => exact absurd (hend c he ▸ hc) hfeed

theorem read_bare_append {v : List Char} (hv : d.Bare v) (s : List Char) :
    d.read .bare (v ++ s) = (d.read .bare s).map (prepend v) := by
  induction v with
  | nil =>
    rw [show prepend [] = id from funext prepend_nil]
    simp
  | cons c v ih =>
    obtain ⟨⟨hquote, hcomma, hend⟩, hv⟩ := List.forall_mem_cons.1 hv
    rw [List.cons_append, read]
    simp [hquote, hcomma, hend, ih hv, Function.comp_def, prepend_prepend]

/-- A text between quotes is read with each of its quotes once. -/
theorem read_quoted_append (v s : List Char) :
    d.read .quoted (doubled v ++ '"' :: s) = (d.read .closed s).map (prepend v) := by
  induction v with
  | nil =>
    rw [show prepend [] = id from funext prepend_nil]
    simp [doubled, read]
  | cons c v ih =>
    have hrest : (d.read .quoted (doubled v ++ '"' :: s)).map (prepend [c]) =
        (d.read .closed s).map (prepend (c :: v)) := by
      simp [ih, Function.comp_def, prepend_prepend]
    by_cases hc : c = '"'
    · subst hc
      rw [← hrest]
      simp [doubled, read]
    · rw [← hrest]
      simp [doubled, read, hc]

/-- Before what follows a cell it does not matter whether the cell has begun, but for records without text. -/
theorem read_of_follows {mode : Mode} {s : List Char} (hs : d.Follows s) (hmode : mode ≠ .quoted)
    (hblank : mode = .record → d.skipsBlank = false ∨ s.head? = some ',') : d.read mode s = d.read .bare s := by
  cases s with
  | nil =>
    by_cases hm : mode = .record
    · have : d.skipsBlank = false := by simpa using hblank hm
      simp [read, hm, this]
    · simp [read, hmode, hm]
  | cons c s =>
    rcases follows_cons.1 hs with rfl | hend
    · simp [read, hmode]
    · have hquote := ne_quote_of_isEnd hend
      have hcomma := ne_comma_of_isEnd hend
      by_cases hm : mode = .record
      · have : d.skipsBlank = false := by simpa [hcomma] using hblank hm
        simp [read, hm, hquote, hcomma, hend, this]
      · simp [read, hmode, hm, hquote, hcomma, hend]

/-- A written value is read back at the beginning of a cell. -/
theorem read_cell {mode : Mode} {value : String} {s : List Char} (hmode : mode = .record ∨ mode = .cell)
    (hbare : ¬NeedsQuotes value → d.Bare value.toList) (hs : d.Follows s)
    (hblank : mode = .record → d.skipsBlank = false ∨ s.head? = some ',') :
    d.read mode (written value ++ s) = (d.read .bare s).map (prepend value.toList) := by
  have hquoted : mode ≠ .quoted := by rcases hmode with rfl | rfl <;> decide
  by_cases h : NeedsQuotes value
  · have hopen : d.read mode ('"' :: (doubled value.toList ++ '"' :: s)) =
        d.read .quoted (doubled value.toList ++ '"' :: s) := by
      rcases hmode with rfl | rfl <;> simp [read]
    rw [written_of_needsQuotes h, List.cons_append, List.append_assoc]
    exact hopen.trans ((read_quoted_append _ _).trans (by rw [read_of_follows hs (by decide) (by simp)]))
  · rw [written_of_not_needsQuotes h]
    have hv := hbare h
    cases hl : value.toList with
    | nil =>
      rw [show prepend [] = id from funext prepend_nil]
      simpa using read_of_follows hs hquoted hblank
    | cons c v =>
      rw [hl] at hv
      rw [← read_bare_append hv]
      -- the first character takes the reader into the cell
      obtain ⟨⟨hquote, hcomma, hend⟩, -⟩ := List.forall_mem_cons.1 hv
      rcases hmode with rfl | rfl <;> simp [read, hquote, hcomma, hend]

end Dialect

/-! ### Rows and tables -/

/-- The values of a row, each written in some way, with commas between them. -/
def rowText (write : String → List Char) (values : List String) : List Char :=
  [','].intercalate (values.map write)

/-- The rows of a table, with line feeds between them. -/
def tableText (write : String → List Char) (rows : List (List String)) : List Char :=
  ['\n'].intercalate (rows.map (rowText write))

section Layout

variable (write : String → List Char)

theorem rowText_singleton (value : String) : rowText write [value] = write value :=
  List.intercalate_singleton

theorem rowText_cons_cons (value next : String) (values : List String) :
    rowText write (value :: next :: values) = write value ++ ',' :: rowText write (next :: values) := by
  simp [rowText, List.intercalate_cons_cons]

theorem tableText_singleton (values : List String) : tableText write [values] = rowText write values :=
  List.intercalate_singleton

theorem tableText_cons_cons (values next : List String) (rows : List (List String)) :
    tableText write (values :: next :: rows) = rowText write values ++ '\n' :: tableText write (next :: rows) := by
  simp [tableText, List.intercalate_cons_cons]

end Layout

namespace Dialect

variable {d : Dialect}

/-- A row of values reads back as its cells. -/
theorem read_row {mode : Mode} {values : List String} {s : List Char} {records : List Record}
    (hmode : mode = .record ∨ mode = .cell) (hne : values ≠ [])
    (hbare : ∀ value ∈ values, ¬NeedsQuotes value → d.Bare value.toList) (hs : d.Follows s)
    (hblank : mode = .record → d.skipsBlank = false ∨ 2 ≤ values.length)
    (hread : d.read .bare s = some ([[]] :: records)) :
    d.read mode (rowText written values ++ s) = some (values.map String.toList :: records) := by
  induction values generalizing mode with
  | nil => exact absurd rfl hne
  | cons value values ih =>
    obtain ⟨hvalue, hvalues⟩ := List.forall_mem_cons.1 hbare
    cases values with
    | nil =>
      have hlast : mode = .record → d.skipsBlank = false ∨ s.head? = some ',' := by
        intro hm
        exact .inl (by simpa using hblank hm)
      rw [rowText_singleton, read_cell hmode hvalue hs hlast, hread]
      simp [prepend]
    | cons next values =>
      have hnext : d.read .cell (rowText written (next :: values) ++ s) =
          some ((next :: values).map String.toList :: records) :=
        ih (.inr rfl) (List.cons_ne_nil _ _) hvalues (by simp)
      have hcomma : d.read .bare (',' :: (rowText written (next :: values) ++ s)) =
          some (([] :: (next :: values).map String.toList) :: records) := by
        simp [read, hnext, openCell]
      rw [rowText_cons_cons, List.append_assoc, List.cons_append,
        read_cell hmode hvalue (follows_cons.2 (.inl rfl)) (fun _ => .inr rfl), hcomma]
      simp [prepend]

/-- A table of rows reads back as its records. -/
theorem read_table {rows : List (List String)} (hne : rows ≠ []) (hend : d.isEnd '\n' = true)
    (hrow : ∀ values ∈ rows, values ≠ [] ∧ ∀ value ∈ values, ¬NeedsQuotes value → d.Bare value.toList)
    (hblank : d.skipsBlank = false ∨ ∀ values ∈ rows, 2 ≤ values.length) :
    d.read .record (tableText written rows) = some (rows.map fun values => values.map String.toList) := by
  induction rows with
  | nil => exact absurd rfl hne
  | cons values rows ih =>
    obtain ⟨⟨hvalues, hbare⟩, hrows⟩ := List.forall_mem_cons.1 hrow
    have hfirst : d.skipsBlank = false ∨ 2 ≤ values.length := hblank.imp_right fun h => h values (by simp)
    cases rows with
    | nil =>
      have hread : d.read .record (rowText written values ++ []) = some [values.map String.toList] :=
        read_row (.inl rfl) hvalues hbare follows_nil (fun _ => hfirst) (by simp [read])
      rw [tableText_singleton]
      simpa using hread
    | cons next rows =>
      have hnext := ih (List.cons_ne_nil _ _) hrows (hblank.imp_right fun h v hv => h v (by simp [hv]))
      have hread : d.read .bare ('\n' :: tableText written (next :: rows)) =
          some ([[]] :: (next :: rows).map fun values => values.map String.toList) := by
        simp [read, hend, hnext]
      rw [tableText_cons_cons, read_row (.inl rfl) hvalues hbare (follows_cons.2 (.inr hend)) (fun _ => hfirst) hread]
      rfl

/-- Where line feeds end the records, a row of any values is a record. -/
theorem read_row_lineFeed {values : List String} (hne : values ≠ []) :
    lineFeed.read .record (rowText written values) = some [values.map String.toList] := by
  have hbare : ∀ value ∈ values, ¬NeedsQuotes value → lineFeed.Bare value.toList := by
    intro value _ h
    exact bare_of_not_needsQuotes (fun c hc => by simpa using hc) h
  have hread : lineFeed.read .record (rowText written values ++ []) = some [values.map String.toList] :=
    read_row (.inl rfl) hne hbare follows_nil (fun _ => .inl rfl) rfl
  rwa [List.append_nil] at hread

theorem records?_eq_some_iff {text : String} {rows : List (List String)} :
    d.records? text = some rows ↔
      d.read .record text.toList = some (rows.map fun values => values.map String.toList) := by
  rw [records?, Option.map_eq_some_iff]
  constructor
  · rintro ⟨records, hread, rfl⟩
    simp [hread, Function.comp_def]
  · intro hread
    exact ⟨_, hread, by simp [Function.comp_def]⟩

/-! ### What a reader can have read -/

/-- What a reader does at a character: where it stands behind it, and what becomes of the records of the rest. -/
inductive Step (d : Dialect) : Mode → Char → Mode → (List Record → List Record) → Prop where
  | opens {mode : Mode} (hmode : mode = .record ∨ mode = .cell) : Step d mode '"' .quoted id
  | closes : Step d .quoted '"' .closed id
  | doubles : Step d .closed '"' .quoted (prepend ['"'])
  | inside {c : Char} (hc : c ≠ '"') : Step d .quoted c .quoted (prepend [c])
  | comma {mode : Mode} (hmode : mode ≠ .quoted) : Step d mode ',' .cell openCell
  | ends {mode : Mode} {c : Char} (hmode : mode ≠ .quoted) (hend : d.isEnd c = true) :
    Step d mode c .record fun records => if mode = .record && d.skipsBlank then records else [[]] :: records
  | bare {mode : Mode} {c : Char} (hmode : mode ≠ .quoted) (hquote : c ≠ '"') (hcomma : c ≠ ',')
    (hend : d.isEnd c = false) : Step d mode c .bare (prepend [c])

theorem step_of_read {mode : Mode} {c : Char} {s : List Char} {records : List Record}
    (h : d.read mode (c :: s) = some records) :
    ∃ next f rest, d.Step mode c next f ∧ d.read next s = some rest ∧ records = f rest := by
  have ofMap {next : Mode} {f : List Record → List Record} (hstep : d.Step mode c next f)
      (hmap : (d.read next s).map f = some records) :
      ∃ next f rest, d.Step mode c next f ∧ d.read next s = some rest ∧ records = f rest := by
    obtain ⟨rest, hrest, rfl⟩ := Option.map_eq_some_iff.1 hmap
    exact ⟨next, f, rest, hstep, hrest, rfl⟩
  rw [read] at h
  by_cases hquoted : mode = .quoted
  · subst hquoted
    by_cases hc : c = '"'
    · subst hc
      exact ⟨_, _, _, .closes, by simpa using h, rfl⟩
    · exact ofMap (.inside hc) (by simpa [hc] using h)
  · rw [if_neg hquoted] at h
    by_cases hc : c = '"'
    · subst hc
      cases mode with
      | record => exact ⟨_, _, _, .opens (.inl rfl), by simpa using h, rfl⟩
      | cell => exact ⟨_, _, _, .opens (.inr rfl), by simpa using h, rfl⟩
      | bare => simp at h
      | quoted => exact absurd rfl hquoted
      | closed => exact ofMap .doubles (by simpa using h)
    · rw [if_neg hc] at h
      by_cases hcomma : c = ','
      · subst hcomma
        exact ofMap (.comma hquoted) (by simpa using h)
      · rw [if_neg hcomma] at h
        by_cases hend : d.isEnd c = true
        · exact ofMap (.ends hquoted hend) (by simpa [hend] using h)
        · rw [if_neg hend] at h
          by_cases hclosed : mode = .closed
          · simp [hclosed] at h
          · exact ofMap (.bare hquoted hc hcomma (by simpa using hend)) (by simpa [hclosed] using h)

/-- The number of cells and that of the characters in them. -/
def size (records : List Record) : Nat :=
  records.flatten.length + records.flatten.flatten.length

theorem size_prepend_le (text : List Char) (records : List Record) :
    size (prepend text records) ≤ text.length + size records := by
  unfold prepend
  split
  · simp only [size, List.flatten_cons, List.cons_append, List.length_cons, List.length_append]
    omega
  · omega

theorem size_openCell_le (records : List Record) : size (openCell records) ≤ size records + 1 := by
  cases records with
  | nil => simp [openCell, size]
  | cons cells records =>
    simp only [openCell, size, List.flatten_cons, List.cons_append, List.length_cons, List.length_append,
      List.length_nil]
    omega

theorem size_blank_cons (records : List Record) : size ([[]] :: records) = size records + 1 := by
  simp only [size, List.flatten_cons, List.cons_append, List.nil_append, List.length_cons]
  omega

/-- A reader makes no more of a text than its characters, and less than that where there are quotes. -/
theorem size_read_le {mode : Mode} {s : List Char} {records : List Record} (h : d.read mode s = some records) :
    size records + (if mode = .quoted ∨ '"' ∈ s then 1 else 0) ≤ s.length + 1 := by
  induction s generalizing mode records with
  | nil =>
    unfold read at h
    split at h
    · cases h
    · next hmode =>
      cases h
      split <;> simp [size, hmode]
  | cons c s ih =>
    obtain ⟨next, f, rest, hstep, hrest, rfl⟩ := step_of_read h
    have hsize := ih hrest
    rw [List.length_cons]
    cases hstep with
    | opens hmode =>
      simp only [true_or, ↓reduceIte] at hsize
      split <;> simp only [id_eq] <;> omega
    | closes =>
      simp only [true_or, ↓reduceIte, id_eq] at hsize ⊢
      omega
    | doubles =>
      have := size_prepend_le ['"'] rest
      simp only [true_or, ↓reduceIte, List.length_singleton] at hsize this
      split <;> omega
    | inside hc =>
      have := size_prepend_le [c] rest
      simp only [true_or, ↓reduceIte, List.length_singleton] at hsize this ⊢
      omega
    | comma hmode =>
      have := size_openCell_le rest
      simp only [hmode, reduceCtorEq, List.mem_cons, Char.reduceEq, false_or] at hsize ⊢
      omega
    | ends hmode hend =>
      have hc : '"' ≠ c := (ne_quote_of_isEnd hend).symm
      simp only [hmode, hc, reduceCtorEq, List.mem_cons, false_or] at hsize ⊢
      split
      · omega
      · rw [size_blank_cons]
        omega
    | bare hmode hquote hcomma hend =>
      have := size_prepend_le [c] rest
      simp only [hmode, Ne.symm hquote, reduceCtorEq, List.mem_cons, false_or, List.length_singleton] at hsize this ⊢
      omega

theorem bare_prepend {text : List Char} {records : List Record} (htext : d.Bare text)
    (hbare : ∀ cells ∈ records, ∀ cell ∈ cells, d.Bare cell) :
    ∀ cells ∈ prepend text records, ∀ cell ∈ cells, d.Bare cell := by
  unfold prepend
  split
  · next cell cells records =>
    simp only [List.forall_mem_cons] at hbare ⊢
    refine ⟨⟨?_, hbare.1.2⟩, hbare.2⟩
    intro c hc
    rcases List.mem_append.1 hc with hc | hc
    · exact htext c hc
    · exact hbare.1.1 c hc
  · exact hbare

/-- Without quotes in the text no cell holds what needs them. -/
theorem bare_of_read {mode : Mode} {s : List Char} {records : List Record} (hmode : mode ≠ .quoted) (hs : '"' ∉ s)
    (h : d.read mode s = some records) : ∀ cells ∈ records, ∀ cell ∈ cells, d.Bare cell := by
  have hnil : d.Bare [] := by simp [Bare]
  induction s generalizing mode records with
  | nil =>
    rw [read, if_neg hmode] at h
    cases h
    split <;> simp [hnil]
  | cons c s ih =>
    obtain ⟨next, f, rest, hstep, hrest, rfl⟩ := step_of_read h
    rw [List.mem_cons, not_or] at hs
    cases hstep with
    | opens => exact absurd rfl hs.1
    | closes => exact absurd rfl hmode
    | doubles => exact absurd rfl hs.1
    | inside => exact absurd rfl hmode
    | comma =>
      have hrest := ih (by decide) hs.2 hrest
      cases rest with
      | nil => exact hrest
      | cons cells rest =>
        simp only [openCell, List.forall_mem_cons] at hrest ⊢
        exact ⟨⟨hnil, hrest.1⟩, hrest.2⟩
    | ends =>
      have hrest := ih (by decide) hs.2 hrest
      split
      · exact hrest
      · simpa [hnil] using hrest
    | bare _ hquote hcomma hend =>
      exact bare_prepend (by simp [Bare, hquote, hcomma, hend]) (ih (by decide) hs.2 hrest)

theorem size_row {values : List String} (hne : values ≠ []) :
    size [values.map String.toList] = (rowText String.toList values).length + 1 := by
  induction values with
  | nil => exact absurd rfl hne
  | cons value values ih =>
    cases values with
    | nil =>
      rw [rowText_singleton]
      simp [size, Nat.add_comm]
    | cons next values =>
      have hsize := ih (List.cons_ne_nil _ _)
      have hcons : size [(value :: next :: values).map String.toList] =
          value.toList.length + 1 + size [(next :: values).map String.toList] := by
        simp only [size, List.map_cons, List.flatten_cons, List.flatten_nil, List.append_nil, List.length_cons,
          List.length_append]
        omega
      rw [hcons, hsize, rowText_cons_cons, List.length_append, List.length_cons]
      omega

/-- Values that read back from a row in which they stand as they are need no quotes: no character is left over for
them. -/
theorem not_needsQuotes_of_read (hend : d.isEnd '\n' = true) {values : List String} (hne : values ≠ [])
    (h : d.read .record (rowText String.toList values) = some [values.map String.toList]) :
    ∀ value ∈ values, ¬NeedsQuotes value := by
  have hsize := size_read_le h
  rw [size_row hne] at hsize
  have hquote : '"' ∉ rowText String.toList values := by
    intro hq
    simp only [reduceCtorEq, hq, or_true, ↓reduceIte] at hsize
    omega
  have hbare := bare_of_read (by decide) hquote h
  intro value hvalue
  have hcell : d.Bare value.toList := hbare _ (by simp) _ (List.mem_map_of_mem hvalue)
  rintro (hc | hc | hc)
  · exact (hcell _ hc).2.1 rfl
  · exact (hcell _ hc).1 rfl
  · have := (hcell _ hc).2.2
    rw [hend] at this
    cases this

end Dialect

end SampleRecorder.Export.Csv
