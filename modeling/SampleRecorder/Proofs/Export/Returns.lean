import SampleRecorder.Proofs.Export.Columns

/-!
# Carriage returns in a table

What becomes of a table when its reader also ends a record at a carriage return, which cells do not quote.  Every
sample gives at least one record, and exactly one if no return outside quotes divides its line
(`records_table_anyReturn`).  The records are counted on the text outside quotes: they are its stretches of characters
that end none (`counts_tableText`).
-/

namespace SampleRecorder.Export

namespace Csv

/-! ### Stretches of a text -/

/-- The number of stretches of characters that do not end a record; the first may have begun before the text. -/
def stretches (isEnd : Char → Bool) : Bool → List Char → Nat
  | inside, [] => if inside then 1 else 0
  | inside, c :: s =>
    if isEnd c then (if inside then 1 else 0) + stretches isEnd false s else stretches isEnd true s

section Stretches

variable {isEnd : Char → Bool}

theorem stretches_append {e : Char} (he : isEnd e = true) (inside : Bool) (a b : List Char) :
    stretches isEnd inside (a ++ e :: b) = stretches isEnd inside a + stretches isEnd false b := by
  induction a generalizing inside with
  | nil => simp [stretches, he]
  | cons c a ih =>
    by_cases hc : isEnd c = true
    · simp only [List.cons_append, stretches, hc, ↓reduceIte, ih]
      omega
    · simp only [List.cons_append, stretches, hc, ↓reduceIte, ih, Bool.false_eq_true]

theorem one_le_stretches_true (s : List Char) : 1 ≤ stretches isEnd true s := by
  induction s with
  | nil => simp [stretches]
  | cons c s ih =>
    unfold stretches
    split
    · simp
    · exact ih

theorem one_le_stretches_false_iff {s : List Char} :
    1 ≤ stretches isEnd false s ↔ ∃ c ∈ s, isEnd c = false := by
  induction s with
  | nil => simp [stretches]
  | cons c s ih =>
    cases hc : isEnd c with
    | false => simpa [stretches, hc] using one_le_stretches_true s
    | true => simpa [stretches, hc] using ih

theorem exists_of_two_le_stretches_true {s : List Char} (h : 2 ≤ stretches isEnd true s) :
    ∃ a e b, s = a ++ e :: b ∧ isEnd e = true ∧ ∃ c ∈ b, isEnd c = false := by
  induction s with
  | nil => simp [stretches] at h
  | cons c s ih =>
    cases hc : isEnd c with
    | true =>
      have hrest : 1 ≤ stretches isEnd false s := by
        simp only [stretches, hc, ↓reduceIte] at h
        omega
      exact ⟨[], c, s, rfl, hc, one_le_stretches_false_iff.1 hrest⟩
    | false =>
      obtain ⟨a, e, b, rfl, he, hb⟩ := ih (by simpa [stretches, hc] using h)
      exact ⟨c :: a, e, b, rfl, he, hb⟩

/-- There is a second stretch if and only if an end has other characters on both sides. -/
theorem two_le_stretches_iff {s : List Char} :
    2 ≤ stretches isEnd false s ↔
      ∃ a e b, s = a ++ e :: b ∧ isEnd e = true ∧ (∃ c ∈ a, isEnd c = false) ∧
        ∃ c ∈ b, isEnd c = false := by
  constructor
  · intro h
    induction s with
    | nil => simp [stretches] at h
    | cons c s ih =>
      cases hc : isEnd c with
      | true =>
        obtain ⟨a, e, b, rfl, he, ⟨c', hc', hend⟩, hb⟩ := ih (by simpa [stretches, hc] using h)
        exact ⟨c :: a, e, b, rfl, he, ⟨c', List.mem_cons_of_mem _ hc', hend⟩, hb⟩
      | false =>
        have hrest : 2 ≤ stretches isEnd true s := by simpa [stretches, hc] using h
        obtain ⟨a, e, b, rfl, he, hb⟩ := exists_of_two_le_stretches_true hrest
        exact ⟨c :: a, e, b, rfl, he, ⟨c, List.mem_cons_self, hc⟩, hb⟩
  · rintro ⟨a, e, b, rfl, he, ha, hb⟩
    have ha := one_le_stretches_false_iff.2 ha
    have hb := one_le_stretches_false_iff.2 hb
    rw [stretches_append he]
    omega

end Stretches

/-! ### Text outside quotes -/

/-- What stands outside quotes of a value that is written as a cell. -/
def openText (value : String) : List Char :=
  if NeedsQuotes value then [] else value.toList

theorem length_prepend (text : List Char) (records : List Record) :
    (prepend text records).length = records.length := by
  unfold prepend
  split <;> rfl

theorem length_openCell (records : List Record) : (openCell records).length = records.length := by
  cases records <;> rfl

namespace Dialect

variable {d : Dialect}

/-- A reader finds as many records in a text as there are stretches in the text outside its quotes. -/
def Counts (d : Dialect) (mode : Mode) (s outside : List Char) : Prop :=
  (d.read mode s).map List.length = some (stretches d.isEnd (decide (mode ≠ .record)) outside)

theorem counts_nil (hblank : d.skipsBlank = true) {mode : Mode} (hmode : mode ≠ .quoted) :
    d.Counts mode [] [] := by
  cases mode with
  | quoted => exact absurd rfl hmode
  | record => simp [Counts, read, stretches, hblank]
  | cell | bare | closed => simp [Counts, read, stretches]

theorem counts_comma {mode : Mode} (hmode : mode ≠ .quoted) {s outside : List Char}
    (h : d.Counts .cell s outside) : d.Counts mode (',' :: s) (',' :: outside) := by
  have hread : d.read mode (',' :: s) = (d.read .cell s).map openCell := by simp [read, hmode]
  have hlength : List.length ∘ openCell = List.length := funext length_openCell
  rw [Counts, hread, Option.map_map, hlength, h]
  simp [stretches, d.isEnd_comma]

theorem counts_end (hblank : d.skipsBlank = true) {mode : Mode} (hmode : mode ≠ .quoted) {c : Char}
    (hc : d.isEnd c = true) {s outside : List Char} (h : d.Counts .record s outside) :
    d.Counts mode (c :: s) (c :: outside) := by
  have hne := ne_comma_of_isEnd hc
  have hread : d.read mode (c :: s) =
      (d.read .record s).map fun records => if mode = .record then records else [[]] :: records := by
    simp [read, hmode, ne_quote_of_isEnd hc, hne, hc, hblank]
  obtain ⟨records, hrecords, hlength⟩ := Option.map_eq_some_iff.1 h
  rw [Counts, hread, hrecords]
  by_cases hm : mode = .record
  · simpa [stretches, hc, hm] using hlength
  · simp only [ne_eq, not_true_eq_false, decide_false] at hlength
    simp [stretches, hc, hm, hlength, Nat.add_comm]

/-- Text without quotes and commas is counted as it stands. -/
theorem counts_bare (hblank : d.skipsBlank = true) {v : List Char} (hv : ∀ c ∈ v, c ≠ '"' ∧ c ≠ ',')
    {s outside : List Char} (h : ∀ mode, mode ≠ .quoted → d.Counts mode s outside) {mode : Mode}
    (hquoted : mode ≠ .quoted) (hclosed : mode ≠ .closed) : d.Counts mode (v ++ s) (v ++ outside) := by
  induction v generalizing mode with
  | nil => exact h mode hquoted
  | cons c v ih =>
    obtain ⟨⟨hc, hne⟩, hv⟩ := List.forall_mem_cons.1 hv
    cases hend : d.isEnd c with
    | true => exact counts_end hblank hquoted hend (ih hv (by decide) (by decide))
    | false =>
      have hread : d.read mode (c :: (v ++ s)) = (d.read .bare (v ++ s)).map (prepend [c]) := by
        simp [read, hquoted, hclosed, hc, hne, hend]
      have hlength : List.length ∘ prepend [c] = List.length := funext (length_prepend [c])
      rw [Counts, List.cons_append, hread, Option.map_map, hlength, ih hv (by decide) (by decide)]
      simp [stretches, hend]

/-- A quoted value is a part of the stretch in which it stands. -/
theorem counts_cell {mode : Mode} (hmode : mode = .record ∨ mode = .cell) {value : String}
    (hvalue : NeedsQuotes value) {s outside : List Char} (h : d.Counts .closed s outside)
    (hinside : mode = .record → stretches d.isEnd false outside = stretches d.isEnd true outside) :
    d.Counts mode (written value ++ s) outside := by
  have hread : d.read mode ('"' :: (doubled value.toList ++ '"' :: s)) =
      (d.read .closed s).map (prepend value.toList) := by
    rw [← read_quoted_append]
    rcases hmode with rfl | rfl <;> simp [read]
  have hlength : List.length ∘ prepend value.toList = List.length := funext (length_prepend _)
  have htext : written value ++ s = '"' :: (doubled value.toList ++ '"' :: s) := by
    simp [written_of_needsQuotes hvalue]
  rw [Counts, htext, hread, Option.map_map, hlength, h]
  rcases hmode with rfl | rfl
  · simp [hinside rfl]
  · rfl

theorem counts_value (hblank : d.skipsBlank = true) {mode : Mode} (hmode : mode = .record ∨ mode = .cell)
    (value : String) {s outside : List Char} (h : ∀ mode, mode ≠ .quoted → d.Counts mode s outside)
    (hinside : mode = .record → stretches d.isEnd false outside = stretches d.isEnd true outside) :
    d.Counts mode (written value ++ s) (openText value ++ outside) := by
  by_cases hvalue : NeedsQuotes value
  · rw [openText, if_pos hvalue, List.nil_append]
    exact counts_cell hmode hvalue (h _ (by decide)) hinside
  · rw [openText, if_neg hvalue, written_of_not_needsQuotes hvalue]
    simp only [NeedsQuotes, not_or] at hvalue
    refine counts_bare hblank ?_ h ?_ ?_
    · exact fun c hc => ⟨fun he => hvalue.2.1 (he ▸ hc), fun he => hvalue.1 (he ▸ hc)⟩
    · rcases hmode with rfl | rfl <;> decide
    · rcases hmode with rfl | rfl <;> decide

/-- A row of two or more values is counted on its text outside quotes. -/
theorem counts_rowText (hblank : d.skipsBlank = true) {mode : Mode} (hmode : mode = .record ∨ mode = .cell)
    {values : List String} (hne : values ≠ []) (htwo : mode = .record → 2 ≤ values.length)
    {s outside : List Char} (h : ∀ mode, mode ≠ .quoted → d.Counts mode s outside) :
    d.Counts mode (rowText written values ++ s) (rowText openText values ++ outside) := by
  induction values generalizing mode with
  | nil => exact absurd rfl hne
  | cons value values ih =>
    cases values with
    | nil =>
      rw [rowText_singleton, rowText_singleton]
      refine counts_value hblank hmode value h fun hm => ?_
      have := htwo hm
      simp at this
    | cons next values =>
      have hnext : d.Counts .cell (rowText written (next :: values) ++ s)
          (rowText openText (next :: values) ++ outside) :=
        ih (.inr rfl) (List.cons_ne_nil _ _) (by simp)
      simp only [rowText_cons_cons, List.append_assoc, List.cons_append]
      refine counts_value hblank hmode value (fun m hm => counts_comma hm hnext) fun _ => ?_
      simp [stretches, d.isEnd_comma]

/-- A table of rows of two or more values is counted on its text outside quotes. -/
theorem counts_tableText (hblank : d.skipsBlank = true) (hend : d.isEnd '\n' = true)
    {rows : List (List String)} (hrows : ∀ values ∈ rows, 2 ≤ values.length) :
    d.Counts .record (tableText written rows) (tableText openText rows) := by
  induction rows with
  | nil => exact counts_nil hblank (by decide)
  | cons values rows ih =>
    obtain ⟨htwo, hrows⟩ := List.forall_mem_cons.1 hrows
    have hne : values ≠ [] := by
      rintro rfl
      simp at htwo
    cases rows with
    | nil =>
      have hrow := counts_rowText hblank (.inl rfl) hne (fun _ => htwo) fun m hm => counts_nil hblank hm
      rw [tableText_singleton, tableText_singleton]
      simpa using hrow
    | cons next rows =>
      rw [tableText_cons_cons, tableText_cons_cons]
      exact counts_rowText hblank (.inl rfl) hne (fun _ => htwo) fun m hm =>
        counts_end hblank hm hend (ih hrows)

end Dialect

/-! ### Broken rows -/

/-- In the line of the values a carriage return stands outside quotes, with other text of the line before it and behind
it. -/
def IsBroken (values : List String) : Prop :=
  ∃ a b, rowText openText values = a ++ '\r' :: b ∧ (∃ c ∈ a, c ≠ '\r') ∧ ∃ c ∈ b, c ≠ '\r'

theorem feed_not_mem_rowText (values : List String) : '\n' ∉ rowText openText values := by
  have hvalue (value : String) : '\n' ∉ openText value := by
    unfold openText
    split
    · simp
    · next h => exact fun hc => h (.inr (.inr hc))
  induction values with
  | nil => simp [rowText]
  | cons value values ih =>
    cases values with
    | nil => simpa [rowText_singleton] using hvalue value
    | cons next values => simpa [rowText_cons_cons, hvalue] using ih

theorem isBroken_iff {values : List String} :
    IsBroken values ↔ 2 ≤ stretches Dialect.anyReturn.isEnd false (rowText openText values) := by
  have hend {c : Char} (hc : c ∈ rowText openText values) :
      Dialect.anyReturn.isEnd c = true ↔ c = '\r' := by
    have : c ≠ '\n' := fun h => feed_not_mem_rowText values (h ▸ hc)
    simp [this]
  have hother {c : Char} (hc : c ∈ rowText openText values) :
      Dialect.anyReturn.isEnd c = false ↔ c ≠ '\r' := by
    rw [← Bool.not_eq_true, hend hc]
  rw [two_le_stretches_iff]
  constructor
  · rintro ⟨a, b, hline, ⟨c, hc, hcr⟩, c', hc', hcr'⟩
    rw [hline] at hother
    exact ⟨a, '\r', b, hline, rfl, ⟨c, hc, (hother (by simp [hc])).2 hcr⟩,
      c', hc', (hother (by simp [hc'])).2 hcr'⟩
  · rintro ⟨a, e, b, hline, he, ⟨c, hc, hcr⟩, c', hc', hcr'⟩
    rw [hline] at hother hend
    obtain rfl := (hend (by simp)).1 he
    exact ⟨a, b, hline, ⟨c, hc, (hother (by simp [hc])).1 hcr⟩,
      c', hc', (hother (by simp [hc'])).1 hcr'⟩

theorem one_le_stretches_rowText {values : List String} (h : 2 ≤ values.length) :
    1 ≤ stretches Dialect.anyReturn.isEnd false (rowText openText values) := by
  rcases values with _ | ⟨value, _ | ⟨next, values⟩⟩
  · simp at h
  · simp at h
  · rw [rowText_cons_cons, one_le_stretches_false_iff]
    exact ⟨',', by simp, rfl⟩

/-- The rows of a table have at least one stretch each, and exactly one if they are not broken. -/
theorem stretches_tableText {rows : List (List String)} (hrows : ∀ values ∈ rows, 2 ≤ values.length) :
    rows.length ≤ stretches Dialect.anyReturn.isEnd false (tableText openText rows) ∧
      (stretches Dialect.anyReturn.isEnd false (tableText openText rows) = rows.length ↔
        ∀ values ∈ rows, ¬IsBroken values) := by
  have hrow {values : List String} (h : 2 ≤ values.length) :
      ¬IsBroken values ↔ stretches Dialect.anyReturn.isEnd false (rowText openText values) = 1 := by
    have := one_le_stretches_rowText h
    rw [isBroken_iff]
    omega
  induction rows with
  | nil => simp [tableText, stretches]
  | cons values rows ih =>
    obtain ⟨htwo, hrows⟩ := List.forall_mem_cons.1 hrows
    have hone := one_le_stretches_rowText htwo
    obtain ⟨hle, hiff⟩ := ih hrows
    cases rows with
    | nil => simpa [tableText_singleton, hrow htwo] using hone
    | cons next rows =>
      rw [tableText_cons_cons, stretches_append (by rfl), List.forall_mem_cons, hrow htwo, ← hiff, List.length_cons]
      omega

end Csv

open Csv (Dialect IsBroken)

/-- A reader that takes carriage returns for ends finds at least one record for each sample in a table of two or more
columns without header.  It finds exactly one for each if and only if no line is divided by a return outside quotes. -/
theorem records_table_anyReturn {fields names : List String} (htwo : 2 ≤ names.length)
    (hnames : ∀ name ∈ names, IsColumn fields name) (samples : List Sample) :
    ∃ records,
      Dialect.anyReturn.records? ((Template.compile (columns names) fields).table samples false) = some records ∧
        samples.length ≤ records.length ∧
        (records.length = samples.length ↔ ∀ s ∈ samples, ¬IsBroken (names.map s.value)) := by
  have hne : names ≠ [] := by
    rintro rfl
    simp at htwo
  have hrows : ∀ values ∈ samples.map (fun s => names.map s.value), 2 ≤ values.length := by
    intro values hvalues
    obtain ⟨s, -, rfl⟩ := List.mem_map.1 hvalues
    simpa using htwo
  have hcounts : Dialect.anyReturn.Counts .record _ _ := Dialect.counts_tableText rfl rfl hrows
  obtain ⟨records, hread, hlength⟩ := Option.map_eq_some_iff.1 hcounts
  obtain ⟨hle, hiff⟩ := Csv.stretches_tableText hrows
  refine ⟨records.map fun cells => cells.map String.ofList, ?_, ?_, ?_⟩
  · rw [Dialect.records?, toList_table_columns hne hnames, hread]
    rfl
  · simpa [hlength] using hle
  · simpa [hlength] using hiff

/-- Returns at the two ends of a line and inside quotes. -/
theorem records_table_anyReturn_ends :
    let fields := ["a"]
    let names := ["raw", "a", "label"]
    let samples : List Sample :=
      [⟨⟨0, "\rx", .ofList [("a", .text "1")]⟩, 0, some "y\r"⟩, ⟨⟨0, "p\rq,", .ofList []⟩, 0, none⟩]
    (2 ≤ names.length ∧ ∀ name ∈ names, IsColumn fields name) ∧
      Dialect.anyReturn.records? ((Template.compile (columns names) fields).table samples false) =
        some [["x", "1", "y"], ["p\rq,", "", ""]] ∧
      ∀ s ∈ samples, ¬IsBroken (names.map s.value) := by
  intro fields names samples
  have htwo : 2 ≤ names.length := by decide
  have hnames : ∀ name ∈ names, IsColumn fields name := by decide
  have hrecords : Dialect.anyReturn.records? ((Template.compile (columns names) fields).table samples false) =
      some [["x", "1", "y"], ["p\rq,", "", ""]] := by decide +kernel
  obtain ⟨records, hread, -, hiff⟩ := records_table_anyReturn htwo hnames samples
  rw [hrecords] at hread
  cases hread
  exact ⟨⟨htwo, hnames⟩, hrecords, hiff.1 rfl⟩

/-- A carriage return in a text divides the record of its sample. -/
theorem return_divides_record :
    ¬∀ (fields names : List String) (samples : List Sample),
      2 ≤ names.length → (∀ name ∈ names, IsColumn fields name) → samples ≠ [] →
        (Dialect.anyReturn.records? ((Template.compile (columns names) fields).table samples false)).map List.length =
          some samples.length := by
  intro h
  have hlength := h ["a"] ["raw", "a"] [⟨⟨0, "x\ry", .ofList [("a", .int 1)]⟩, 0, none⟩] (by decide) (by decide)
    (List.cons_ne_nil _ _)
  revert hlength
  decide +kernel

end SampleRecorder.Export
