import SampleRecorder.Proofs.Text.Replace
import SampleRecorder.Script.Function

/-!
# The limit of replacements

`replace` holds the text that it would make to `textLimit` before it makes it, but it counts what it writes and not what
it takes away.  So it fails where the new text and all replaced occurrences together are beyond the limit, and gives the
new text elsewhere (`Builtin.replace_iff`).  A text that is too long is never given, and there are texts well within the
limit that are not given either (`Builtin.replace_refuses_same`).
-/

namespace SampleRecorder.Script.Builtin

open Text

/-- What `replace` counts, from the text that it makes. -/
theorem bytes_counted {s old new : String} {t : List Char} {n : Nat}
    (h : Replaces old.toList new.toList s.toList t n) :
    s.utf8ByteSize + n * new.utf8ByteSize = bytes t + n * old.utf8ByteSize := by
  have hbytes := h.bytes
  rw [bytes_toList, bytes_toList, bytes_toList] at hbytes
  exact hbytes.symm

theorem apply_replace {s old new : String} (hold : old ≠ "") {t : List Char} {n : Nat}
    (h : Replaces old.toList new.toList s.toList t n) :
    replace.apply [.str s, .str old, .str new] =
      if textLimit < bytes t + n * old.utf8ByteSize then failWith (.replacementTooLong (bytes t + n * old.utf8ByteSize))
      else .ok (.str (String.ofList t)) := by
  obtain ⟨ht, hn⟩ := (replaces_iff (mt String.toList_eq_nil_iff.mp hold)).mp h
  have hcounted := bytes_counted h
  show replaced s old new = _
  rw [replaced, if_neg hold]
  dsimp only
  rw [← hn, ← ht, hcounted]
  split
  · rfl
  · next hle =>
    -- the second test is of a text that is not larger than what was counted
    rw [limited, utf8ByteSize_ofList, if_neg (by omega)]

/-- `replace` gives the text with every occurrence replaced, and it fails if and only if that text would be beyond the
limit together with the occurrences that are gone from it. -/
theorem replace_iff {s old new : String} (hold : old ≠ "") :
    ∃ t n, Replaces old.toList new.toList s.toList t n ∧
      (∀ v, replace.apply [.str s, .str old, .str new] = .ok v ↔
        v = .str (String.ofList t) ∧ bytes t + n * old.utf8ByteSize ≤ textLimit) ∧
      (∀ h, replace.apply [.str s, .str old, .str new] = .error h ↔
        h = .failed (.replacementTooLong (bytes t + n * old.utf8ByteSize)) ∧
          textLimit < bytes t + n * old.utf8ByteSize) := by
  have hreplaces := replaces_replace (mt String.toList_eq_nil_iff.mp hold) new.toList s.toList
  refine ⟨_, _, hreplaces, ?_⟩
  rw [apply_replace hold hreplaces]
  split
  · next hlt =>
    refine ⟨fun v => ⟨nofun, fun hv => absurd hv.2 (Nat.not_le.mpr hlt)⟩, fun h => ⟨?_, ?_⟩⟩
    · rintro ⟨⟩
      exact ⟨rfl, hlt⟩
    · rintro ⟨rfl, -⟩
      rfl
  · next hle =>
    refine ⟨fun v => ⟨?_, ?_⟩, fun h => ⟨nofun, fun hh => absurd hh.2 hle⟩⟩
    · rintro ⟨⟩
      exact ⟨rfl, Nat.le_of_not_lt hle⟩
    · rintro ⟨rfl, -⟩
      rfl

/-- Of `aaa` the first two characters are the one occurrence of `aa`. -/
theorem replace_iff_overlap :
    "aa" ≠ "" ∧ replace.apply [.str "aaab", .str "aa", .str "c"] = .ok (.str "cab") := by
  have hold : "aa" ≠ "" := by decide
  obtain ⟨t, n, hreplaces, hok, -⟩ := @replace_iff "aaab" "aa" "c" hold
  obtain ⟨rfl, rfl⟩ := (replaces_iff (mt String.toList_eq_nil_iff.mp hold)).mp hreplaces
  have htext : Text.replace "aa".toList "c".toList "aaab".toList = ['c', 'a', 'b'] := by cbv
  have hcount : count "aa".toList "aaab".toList = 1 := by cbv
  rw [htext, hcount] at hok
  exact ⟨hold, (hok _).mpr ⟨rfl, by decide⟩⟩

/-- A text of one character over and over, where each is replaced by itself. -/
theorem replace_same (n : Nat) {s : String} (hs : s = String.ofList (List.replicate n 'a')) :
    Replaces "a".toList "a".toList s.toList s.toList n ∧ s.utf8ByteSize = n ∧
      replace.apply [.str s, .str "a", .str "a"] =
        if textLimit < n + n then failWith (.replacementTooLong (n + n)) else .ok (.str s) := by
  have htoList : s.toList = List.replicate n 'a' := by
    rw [hs]
    exact String.toList_ofList
  have hreplaces : Replaces "a".toList "a".toList s.toList s.toList n := by
    rw [htoList]
    exact replaces_replicate 'a' 'a' n
  have hone : 'a'.utf8Size = 1 := rfl
  have hsize : s.utf8ByteSize = n := by
    rw [← bytes_toList, htoList, bytes_replicate, hone, Nat.mul_one]
  have hsign : "a".utf8ByteSize = 1 := rfl
  refine ⟨hreplaces, hsize, ?_⟩
  rw [apply_replace (by decide) hreplaces, bytes_toList, hsize, hsign, Nat.mul_one, String.ofList_toList]

/-- The text that is made is the one that was given, within the limit, and it is refused as one beyond it. -/
theorem replace_refuses_same :
    let s := String.ofList (List.replicate 32769 'a')
    Replaces "a".toList "a".toList s.toList s.toList 32769 ∧ s.utf8ByteSize ≤ textLimit ∧
      replace.apply [.str s, .str "a", .str "a"] = failWith (.replacementTooLong 65538) := by
  intro s
  obtain ⟨hreplaces, hsize, happly⟩ := replace_same 32769 (Eq.refl s)
  refine ⟨hreplaces, ?_, ?_⟩
  · rw [hsize]
    decide
  · rw [happly, if_pos (by decide)]

end SampleRecorder.Script.Builtin
