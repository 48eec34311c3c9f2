import SampleRecorder.Proofs.Text.Casing
import SampleRecorder.Settings.Merge

/-!
# Names in documents

The names that documents have for levels and encodings.  They may be written in any case (`levelName?_eq`), and those of
encodings between white space as well (`isSome_ofName?`, `transmitOfName?_eq`).
-/

namespace SampleRecorder.Settings

/-- The names of levels. -/
def levels : List String :=
  ["error", "warn", "info", "debug", "trace"]

/-- The names of encodings of the line source. -/
def sourceNames : List String :=
  ["utf-8", "utf8", "ascii", "us-ascii", "latin1", "latin-1", "iso-8859-1"]

/-- The names of encodings of the transmitter, and what they stand for. -/
def transmitNames : List (String × Transmit.Encoding) :=
  [("utf-8", .utf8), ("utf8", .utf8), ("ascii", .ascii), ("raw", .raw), ("hex", .raw)]

/-- A text with small letters of ASCII for the capitals. -/
def small (name : List Char) : String :=
  String.ofList (name.map Char.toLower)

theorem mem_plainLetters_of_level {t : List Char} (h : String.ofList t ∈ levels) : ∀ c ∈ t, c ∈ Text.plainLetters := by
  have hlevels : ∀ l ∈ levels, ∀ c ∈ l.toList, c ∈ Text.plainLetters := by decide
  have ht := hlevels _ h
  rwa [String.toList_ofList] at ht

/-- A level is named in letters of ASCII, whatever else has small letters. -/
theorem levelName?_eq (name : String) :
    levelName? name = if small name.toList ∈ levels then some (small name.toList) else none := by
  have hnames : levelNames = levels := rfl
  rw [levelName?, hnames]
  by_cases h : small name.toList ∈ levels
  · have hlower : Text.toLower name.toList = name.toList.map Char.toLower :=
      (Text.toLower_eq_iff (mem_plainLetters_of_level h)).mpr rfl
    rw [if_pos h, hlower]
    exact if_pos h
  · have hlower : String.ofList (Text.toLower name.toList) ∉ levels := fun hmem => by
      rw [← (Text.toLower_eq_iff (mem_plainLetters_of_level hmem)).mp rfl] at hmem
      exact h hmem
    rw [if_neg h]
    exact if_neg hlower

theorem isSome_ofName? (name : String) :
    (Frame.Encoding.ofName? name).isSome = true ↔ small (Text.trim name.toList) ∈ sourceNames := by
  rw [Frame.Encoding.ofName?, small]
  split <;> simp_all [sourceNames]

theorem transmitOfName?_eq (name : String) :
    Transmit.Encoding.ofName? name = transmitNames.lookup (small (Text.trim name.toList)) := by
  rw [Transmit.Encoding.ofName?, small]
  split
  case h_6 =>
    symm
    rw [List.lookup_eq_none_iff]
    simp_all [transmitNames]
  all_goals simp_all [transmitNames, List.lookup]

end SampleRecorder.Settings
