import Mathlib
import SampleRecorder.Proofs.Script.Kept
import SampleRecorder.Proofs.Script.Machine
import SampleRecorder.Proofs.Text.Casing
import SampleRecorder.Proofs.Text.Replace

/-!
# The sizes that a machine meets

A text that a program computes has at most three letters for each one of the line, or of a text within `textLimit`: what
is put together is held to that limit, and a change of case takes a text no further than its breadth, however often it is
made (`kept_isSlender`).  The texts of a run on a line of 16 megabytes are therefore far from any size that a word cannot
hold, and so is what `replace` makes of them.  Lists are not held to anything, as they double with each sum of a list and
itself: what may stop a machine on such a line is a list with four billion items (`Stop.IsExcused`).
-/

namespace SampleRecorder.Script

open Text

variable {line : String} {bound : Nat}

/-! ### Texts of a run -/

/-- Whether the texts in a value have at most a number of letters in any case, and every list is one of texts. -/
inductive Value.IsSlender (bound : Nat) : Value → Prop where
  | atomic {v : Value} (h : v.IsAtomic) : IsSlender bound v
  | str {s : String} (h : breadth s.toList ≤ bound) : IsSlender bound (.str s)
  | list {texts : List String} (h : ∀ t ∈ texts, breadth t.toList ≤ bound) : IsSlender bound (.list (texts.map .str))

theorem Value.IsSlender.breadth_le {s : String} (h : (Value.str s).IsSlender bound) : breadth s.toList ≤ bound := by
  cases h with
  | atomic h => cases h
  | str h => exact h

theorem Value.IsSlender.exists_texts {items : List Value} (h : (Value.list items).IsSlender bound) :
    ∃ texts : List String, items = texts.map .str ∧ ∀ t ∈ texts, breadth t.toList ≤ bound := by
  cases h with
  | atomic h => cases h
  | list h => exact ⟨_, rfl, h⟩

theorem Value.isSlender_ofList {s : List Char} (h : breadth s ≤ bound) : (Value.str (String.ofList s)).IsSlender bound :=
  .str (by rwa [String.toList_ofList])

theorem breadth_le_utf8ByteSize (s : String) : breadth s.toList ≤ 3 * s.utf8ByteSize := by
  have hbreadth := breadth_le_length s.toList
  have hbytes := length_le_bytes s.toList
  rw [bytes_toList] at hbytes
  omega

theorem utf8ByteSize_le_breadth (s : String) : s.utf8ByteSize ≤ 4 * breadth s.toList := by
  have hbytes := bytes_le_length s.toList
  have hlength := length_le_breadth s.toList
  rw [bytes_toList] at hbytes
  omega

/-- The texts of a run have a common bound that no change of case takes them beyond. -/
theorem kept_isSlender (hb : 3 * textLimit ≤ bound) : Kept fun _ v => v.IsSlender bound where
  mono h _ := h
  atomic h := .atomic h
  limited {_ s} h := .str (Nat.le_trans (breadth_le_utf8ByteSize s) (Nat.le_trans (Nat.mul_le_mul_left 3 h) hb))
  part h ht := Value.isSlender_ofList (Nat.le_trans (breadth_le_of_sublist ht) h.breadth_le)
  upper h := Value.isSlender_ofList (Nat.le_trans (breadth_toUpper_le _) h.breadth_le)
  lower h := Value.isSlender_ofList (Nat.le_trans (breadth_toLower_le _) h.breadth_le)
  texts h := .list fun t ht => (h t ht).breadth_le
  append {_ a b} ha hb := by
    obtain ⟨left, rfl, hleft⟩ := ha.exists_texts
    obtain ⟨right, rfl, hright⟩ := hb.exists_texts
    rw [← List.map_append]
    exact .list (List.forall_mem_append.mpr ⟨hleft, hright⟩)
  item {_ items} h v hv := by
    obtain ⟨texts, rfl, htexts⟩ := h.exists_texts
    obtain ⟨t, ht, rfl⟩ := List.mem_map.mp hv
    exact .str (htexts t ht)

/-- How many letters the texts of a run on a line have at most, in any case. -/
def lineBreadth (line : String) : Nat :=
  3 * Nat.max line.utf8ByteSize textLimit

theorem kept_line (line : String) : Kept fun _ v => v.IsSlender (lineBreadth line) :=
  kept_isSlender (Nat.mul_le_mul_left 3 (Nat.le_max_right ..))

theorem isSlender_line (line : String) : (Value.str line).IsSlender (lineBreadth line) :=
  .str (Nat.le_trans (breadth_le_utf8ByteSize line) (Nat.mul_le_mul_left 3 (Nat.le_max_left ..)))

theorem lineBreadth_le (h : line.utf8ByteSize ≤ 16777216) : lineBreadth line ≤ 50331648 := by
  have hlimit : textLimit ≤ 16777216 := by decide
  exact Nat.mul_le_mul_left 3 (Nat.max_le.mpr ⟨h, hlimit⟩)

/-! ### Sizes -/

/-- What may stop a machine on a line: a size that a word cannot hold; on a line of up to 16 megabytes that is not the
size of a text, and comes from a list with four billion items. -/
def Stop.IsExcused (line : String) : Stop → Prop
  | .text size => Machine.sizeLimit ≤ size ∧ 16777216 < line.utf8ByteSize
  | .list length size => Machine.sizeLimit ≤ size ∧ (line.utf8ByteSize ≤ 16777216 → 4294967296 ≤ length)
  | .halt _ | .trap _ => False

theorem isExcused_length {s : String} (h : (Value.str s).IsSlender (lineBreadth line))
    (hsize : Machine.sizeLimit ≤ s.length) : (Stop.text s.length).IsExcused line := by
  refine ⟨hsize, Nat.lt_of_not_le fun hline => ?_⟩
  have hlength := length_le_breadth s.toList
  have hbreadth := h.breadth_le
  have hbound := lineBreadth_le hline
  rw [String.length_toList] at hlength
  unfold Machine.sizeLimit at hsize
  omega

theorem isExcused_items {items : List α} (hsize : Machine.sizeLimit ≤ items.length) :
    (Stop.list items.length items.length).IsExcused line := by
  refine ⟨hsize, fun _ => ?_⟩
  unfold Machine.sizeLimit at hsize
  omega

/-- What `replace` makes of a text is no larger than the text with a copy of the new one for each letter. -/
theorem replacedSize_le {s old new : String} (hold : old ≠ "") (hs : breadth s.toList ≤ bound)
    (hnew : breadth new.toList ≤ bound) :
    s.utf8ByteSize + count old.toList s.toList * new.utf8ByteSize ≤ 4 * bound + bound * (4 * bound) := by
  have hsbytes := utf8ByteSize_le_breadth s
  have hnewbytes := utf8ByteSize_le_breadth new
  have hcount : count old.toList s.toList ≤ bound := by
    have hne : old.toList ≠ [] := mt String.toList_eq_nil_iff.mp hold
    have hle := (replaces_replace hne new.toList s.toList).count_le hne
    exact Nat.le_trans hle (Nat.le_trans (length_le_breadth s.toList) hs)
  exact Nat.add_le_add (by omega) (Nat.mul_le_mul hcount (by omega))

theorem isExcused_replaced {s old new : String} (hs : (Value.str s).IsSlender (lineBreadth line))
    (hnew : (Value.str new).IsSlender (lineBreadth line)) (hold : old ≠ "")
    (hsize : UInt64.size ≤ s.utf8ByteSize + count old.toList s.toList * new.utf8ByteSize) :
    (Stop.text (s.utf8ByteSize + count old.toList s.toList * new.utf8ByteSize)).IsExcused line := by
  have hlimit := Machine.two_mul_sizeLimit
  refine ⟨by omega, Nat.lt_of_not_le fun hline => ?_⟩
  have hbound := lineBreadth_le hline
  have hgrown := replacedSize_le hold (Nat.le_trans hs.breadth_le hbound) (Nat.le_trans hnew.breadth_le hbound)
  have hword : UInt64.size = 18446744073709551616 := rfl
  omega

/-- The size that `join` computes first is that of the joined text. -/
theorem joinedSize_eq (separator : String) (items : List Value) :
    Machine.joinedSize separator items = (separator.intercalate (items.map Value.display)).utf8ByteSize := by
  fun_induction Machine.joinedSize separator items with
  | case1 => simp
  | case2 v => simp
  | case3 v w rest ih =>
    rw [ih, List.map_cons, List.map_cons, List.map_cons, String.intercalate_cons_cons, String.utf8ByteSize_append,
      String.utf8ByteSize_append]

/-- What `join` makes of a list is no larger than two of the largest texts for each item. -/
theorem joinedSize_le {separator : String} {items : List Value} (hseparator : separator.utf8ByteSize ≤ bound)
    (hitems : ∀ v ∈ items, v.display.utf8ByteSize ≤ bound) :
    Machine.joinedSize separator items ≤ items.length * (2 * bound) := by
  fun_induction Machine.joinedSize separator items with
  | case1 => exact Nat.zero_le _
  | case2 v =>
    have hv := hitems v List.mem_cons_self
    rw [List.length_singleton]
    omega
  | case3 v w rest ih =>
    obtain ⟨hv, hrest⟩ := List.forall_mem_cons.mp hitems
    have hle := ih hrest
    rw [List.length_cons, Nat.succ_mul]
    omega

theorem isExcused_joined {items : List Value} {separator : String}
    (hitems : (Value.list items).IsSlender (lineBreadth line))
    (hseparator : (Value.str separator).IsSlender (lineBreadth line))
    (hsize : UInt64.size ≤ Machine.joinedSize separator items) :
    (Stop.list items.length (Machine.joinedSize separator items)).IsExcused line := by
  have hlimit := Machine.two_mul_sizeLimit
  refine ⟨by omega, fun hline => Nat.le_of_not_lt fun hfew => ?_⟩
  have hbound := lineBreadth_le hline
  have hbytes {t : String} (ht : breadth t.toList ≤ lineBreadth line) : t.utf8ByteSize ≤ 4 * 50331648 := by
    have := utf8ByteSize_le_breadth t
    omega
  obtain ⟨texts, rfl, htexts⟩ := hitems.exists_texts
  have hdisplays : ∀ v ∈ texts.map Value.str, v.display.utf8ByteSize ≤ 4 * 50331648 :=
    List.forall_mem_map.mpr fun t ht => hbytes (htexts t ht)
  have hjoined := joinedSize_le (hbytes hseparator.breadth_le) hdisplays
  have hword : UInt64.size = 18446744073709551616 := rfl
  omega

end SampleRecorder.Script
