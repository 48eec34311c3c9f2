import Mathlib
import SampleRecorder.Log.Buffer
import SampleRecorder.Proofs.Export.FileName
import SampleRecorder.Proofs.Json.Compact

/-!
# The lines of an exported log

An entry is written with its time and level in front, then its message, then its data.  Time, level and data have no line
feed in them, so the lines of a log are those of its entries exactly when no message has one (`lines_text_iff`).  A
message that has one is read as more than one entry, and may be written so that it reads as an entry that never was
(`forged_entry`).
-/

namespace SampleRecorder.Log

/-! ### Entries -/

/-- The time and the level of an entry, as they stand in front of its message. -/
def Entry.stamp (e : Entry) : List Char :=
  '[' :: Calendar.isoText e.millis ++ "] [".toList ++ e.level.label.toList ++ "] ".toList

/-- The data of an entry, as they stand behind its message. -/
def Entry.appendix (e : Entry) : List Char :=
  match e.data with
  | some data => " | ".toList ++ data.compact
  | none => []

namespace Entry

theorem toList_line (e : Entry) : e.line.toList = e.stamp ++ (e.message.toList ++ e.appendix) := by
  unfold line stamp appendix
  cases e.data <;> simp [ToString.toString]

theorem lineFeed_not_mem_isoText (millis : Int) : '\n' ∉ Calendar.isoText millis := by
  intro hmem
  have hstamp := Export.isStamp_isoText millis _ (List.mem_map_of_mem hmem)
  revert hstamp
  decide

theorem lineFeed_not_mem_label (l : Level) : '\n' ∉ l.label.toList := by
  cases l <;> decide

theorem lineFeed_not_mem_stamp (e : Entry) : '\n' ∉ e.stamp := by
  simp [stamp, lineFeed_not_mem_isoText, lineFeed_not_mem_label]

theorem lineFeed_not_mem_appendix (e : Entry) : '\n' ∉ e.appendix := by
  unfold appendix
  split
  · simp [Json.lineFeed_not_mem_compact]
  · exact List.not_mem_nil

/-- The only line feeds of an entry are those of its message. -/
theorem count_line (e : Entry) : e.line.toList.count '\n' = e.message.toList.count '\n' := by
  rw [toList_line, List.count_append, List.count_append, List.count_eq_zero.mpr e.lineFeed_not_mem_stamp,
    List.count_eq_zero.mpr e.lineFeed_not_mem_appendix, Nat.zero_add, Nat.add_zero]

end Entry

/-! ### Lines -/

/-- There is one line more than there are line feeds. -/
theorem length_splitOn_lineFeed (s : List Char) : (s.splitOn '\n').length = s.count '\n' + 1 := by
  induction s with
  | nil => rfl
  | cons c s ih =>
    rw [List.splitOn_cons_eq_if_modifyHead, List.count_cons]
    split
    · rw [List.length_cons, ih]
    · rw [List.length_modifyHead, ih]

theorem count_intercalate_lineFeed {lines : List (List Char)} (h : lines ≠ []) :
    (['\n'].intercalate lines).count '\n' + 1 = lines.length + lines.flatten.count '\n' := by
  induction lines with
  | nil => exact absurd rfl h
  | cons line lines ih =>
    cases lines with
    | nil => simp [List.intercalate_singleton, Nat.add_comm]
    | cons line' lines =>
      have hrest := ih (List.cons_ne_nil _ _)
      rw [List.intercalate_cons_cons, List.count_append, List.count_append, List.flatten_cons, List.count_append,
        List.length_cons, List.count_singleton_self]
      omega

namespace Buffer

theorem toList_text (b : Buffer) : b.text.toList = ['\n'].intercalate (b.entries.map fun e => e.line.toList) := by
  rw [text, String.toList_intercalate, List.map_map]
  rfl

/-- The line feeds in the lines of entries are those of the messages. -/
theorem count_flatten_lines (entries : List Entry) :
    (entries.map fun e => e.line.toList).flatten.count '\n' =
      (entries.flatMap fun e => e.message.toList).count '\n' := by
  induction entries with
  | nil => rfl
  | cons e entries ih =>
    rw [List.map_cons, List.flatten_cons, List.flatMap_cons, List.count_append, List.count_append, Entry.count_line, ih]

/-- What a log that is not empty reads as, line by line.  It has one line for each entry and one more for each line feed
in a message, so its lines are the entries, one for each and in order, exactly when no message has a line feed in it,
whatever data the entries have.  Every entry begins with its time and level. -/
theorem lines_text_iff (b : Buffer) (h : b.entries ≠ []) :
    (b.text.toList.splitOn '\n').length =
        b.entries.length + (b.entries.flatMap fun e => e.message.toList).count '\n' ∧
      (b.text.toList.splitOn '\n' = b.entries.map (fun e => e.line.toList) ↔
        ∀ e ∈ b.entries, '\n' ∉ e.message.toList) ∧
      ∀ e ∈ b.entries, e.stamp <+: e.line.toList := by
  have hlines : b.entries.map (fun e => e.line.toList) ≠ [] := fun hnil => h (List.map_eq_nil_iff.mp hnil)
  have hlength : (b.text.toList.splitOn '\n').length =
      b.entries.length + (b.entries.flatMap fun e => e.message.toList).count '\n' := by
    rw [length_splitOn_lineFeed, toList_text, count_intercalate_lineFeed hlines, List.length_map, count_flatten_lines]
  refine ⟨hlength, ⟨fun heq e he hmem => ?_, fun hnone => ?_⟩, fun e _ => ?_⟩
  · -- every line feed makes one line more than there are entries
    rw [heq, List.length_map] at hlength
    have hsome : '\n' ∈ b.entries.flatMap fun e => e.message.toList := List.mem_flatMap.mpr ⟨e, he, hmem⟩
    have hcount := List.count_pos_iff.mpr hsome
    omega
  · rw [toList_text]
    refine List.splitOn_intercalate '\n' (List.forall_mem_map.mpr fun e he hmem => hnone e he ?_) hlines
    have hcount := List.count_pos_iff.mpr hmem
    rw [Entry.count_line] at hcount
    exact List.count_pos_iff.mp hcount
  · rw [Entry.toList_line]
    exact List.prefix_append _ _

/-- Line feeds in the data do no harm. -/
theorem lines_text_iff_data :
    let b := (empty 2 .info).push ⟨0, .warn, "a", some (.obj [("k\n", .str "x\ny")])⟩ |>.push ⟨1, .error, "b", none⟩
    b.entries ≠ [] ∧ b.text.toList.splitOn '\n' = b.entries.map (fun e => e.line.toList) := by
  intro b
  have h : b.entries ≠ [] := List.cons_ne_nil _ _
  have hnone : ∀ e ∈ b.entries, '\n' ∉ e.message.toList := by
    show ∀ e ∈ [_, _], _
    exact List.forall_mem_cons.mpr ⟨by decide, List.forall_mem_singleton.mpr (by decide)⟩
  exact ⟨h, (lines_text_iff b h).2.1.mpr hnone⟩

/-- An entry that is read as two, the second of which was never taken. -/
theorem forged_entry :
    let forged := (empty 2 .info).push ⟨0, .info, "a\n[1970-01-01T00:00:00.000Z] [ERROR] b", none⟩
    let genuine := (empty 2 .info).push ⟨0, .info, "a", none⟩ |>.push ⟨0, .error, "b", none⟩
    forged.entries.length = 1 ∧ (forged.text.toList.splitOn '\n').length = 2 ∧ forged.text = genuine.text := by
  intro forged genuine
  refine ⟨rfl, ?_, ?_⟩
  · cbv
  · cbv

end Buffer

end SampleRecorder.Log
