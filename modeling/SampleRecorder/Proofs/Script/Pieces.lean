import SampleRecorder.Proofs.Script.Integers
import SampleRecorder.Proofs.Text.Replace
import SampleRecorder.Proofs.Text.Trim

/-!
# Splitting and joining

`split` and `join` of line programs, with the same separator.  Joining gives back the text that was split, unless that is
too long to be computed; no piece holds the separator, and there is one more piece than there are occurrences of it on a
way through the text from left to right (`Expr.eval_join_split`).  An empty separator takes the text apart into single
characters, and joining them gives it back all the same.
-/

namespace SampleRecorder.Script

open Text (Replaces)

namespace Builtin

/-- The pieces of a text as `split` gives them. -/
def texts (s separator : String) : List String :=
  if separator = "" then s.toList.map fun c => String.ofList [c]
  else (Text.split separator.toList s.toList).map String.ofList

theorem pieces_eq (s separator : String) : pieces s separator = (texts s separator).map .str := by
  unfold pieces texts
  split <;> rw [List.map_map] <;> rfl

theorem intercalate_texts (s separator : String) : separator.intercalate (texts s separator) = s := by
  rw [← String.toList_inj, String.toList_intercalate]
  unfold texts
  split
  · next hempty =>
    simp only [hempty, List.map_map, Function.comp_def, String.toList_ofList]
    exact Text.intercalate_characters s.toList
  · simp only [List.map_map, Function.comp_def, String.toList_ofList, List.map_id']
    rw [← Text.join_eq_intercalate, Text.join_split]

theorem apply_split (s separator : String) :
    split.apply [.str s, .str separator] = .ok (.list ((texts s separator).map .str)) := by
  rw [← pieces_eq]
  rfl

theorem apply_join (texts : List String) (separator : String) :
    join.apply [.list (texts.map .str), .str separator] = limited (separator.intercalate texts) := by
  have hdisplay : (texts.map Value.str).map Value.display = texts := by
    rw [List.map_map]
    exact List.map_id texts
  show limited (separator.intercalate ((texts.map Value.str).map Value.display)) = _
  rw [hdisplay]

end Builtin

/-- Splitting and joining with one separator gives the text back, or fails for its size alone.  No piece holds a separator
that is not empty, and there is one piece more than there are occurrences. -/
theorem Expr.eval_join_split {env : Env} {text sep : Expr} {s separator : String}
    (htext : text.eval env = .ok (.str s)) (hsep : sep.eval env = .ok (.str separator)) :
    ∃ pieces : List String, (Expr.call .split [text, sep]).eval env = .ok (.list (pieces.map .str)) ∧
      (Expr.call .join [.call .split [text, sep], sep]).eval env =
        (if s.utf8ByteSize ≤ textLimit then .ok (.str s) else failWith (.textTooLong s.utf8ByteSize)) ∧
      (separator ≠ "" → (∀ piece ∈ pieces, ¬separator.toList <:+: piece.toList) ∧
        ∃ n, Replaces separator.toList separator.toList s.toList s.toList n ∧ pieces.length = n + 1) := by
  have hsplit : (Expr.call .split [text, sep]).eval env = .ok (.list ((Builtin.texts s separator).map .str)) := by
    rw [Expr.eval_call Builtin.noConfusion Builtin.noConfusion, evalAll, evalAll, evalAll, htext, hsep]
    exact Builtin.apply_split s separator
  refine ⟨Builtin.texts s separator, hsplit, ?_, fun hne => ?_⟩
  · rw [Expr.eval_call Builtin.noConfusion Builtin.noConfusion, evalAll, evalAll, evalAll, hsplit, hsep]
    refine (Builtin.apply_join _ separator).trans ?_
    rw [Builtin.intercalate_texts, limited]
    simp only [← Nat.not_le, ite_not]
  · have hp : separator.toList ≠ [] := mt String.toList_eq_nil_iff.mp hne
    rw [Builtin.texts, if_neg hne]
    refine ⟨List.forall_mem_map.mpr fun piece hpiece => ?_, Text.count separator.toList s.toList, ?_, ?_⟩
    · rw [String.toList_ofList]
      exact Text.cut?_eq_none_iff.mp (Text.cut?_of_mem_split hp hpiece)
    · have hreplaces := Text.replaces_replace hp separator.toList s.toList
      rwa [Text.replace, Text.join_split] at hreplaces
    · rw [List.length_map, Text.length_split]

/-- Of `aaaa-` the first four characters are two occurrences of `aa`, with nothing in front of them and between them. -/
theorem Expr.eval_join_split_overlap :
    let env : Env := ⟨"aaaa-", []⟩
    let text : Expr := .var "line"
    let sep : Expr := .literal (.str "aa")
    text.eval env = .ok (.str "aaaa-") ∧ sep.eval env = .ok (.str "aa") ∧
      (Expr.call .join [.call .split [text, sep], sep]).eval env = .ok (.str "aaaa-") ∧
      ∃ pieces : List String, (Expr.call .split [text, sep]).eval env = .ok (.list (pieces.map .str)) ∧
        pieces.length = 3 := by
  intro env text sep
  have htext : text.eval env = .ok (.str "aaaa-") := by
    rw [Expr.eval]
    rfl
  have hsep : sep.eval env = .ok (.str "aa") := by
    rw [Expr.eval]
  obtain ⟨pieces, hsplit, hjoin, hpieces⟩ := Expr.eval_join_split htext hsep
  obtain ⟨-, n, hreplaces, hlength⟩ := hpieces (by decide)
  have hcount : Text.count "aa".toList "aaaa-".toList = 2 := by cbv
  rw [((Text.replaces_iff (by decide)).mp hreplaces).2, hcount] at hlength
  rw [if_pos (by decide)] at hjoin
  exact ⟨htext, hsep, hjoin, pieces, hsplit, hlength⟩

end SampleRecorder.Script
