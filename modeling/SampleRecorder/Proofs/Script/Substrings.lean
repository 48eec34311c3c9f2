import SampleRecorder.Proofs.Script.Integers

/-!
# Parts of a text

`substr` of line programs, and reading one character.  Both count from the end when they are given a negative number.
`substr` keeps to the ends of the text (`firstPlace`), so that it always gives a part of it, and two parts that meet make
up the text again (`part_append_part`).  Reading one character gives null beyond the ends (`place?_eq`), and otherwise
what `substr` gives for a length of one.
-/

namespace SampleRecorder.Script

/-- Where the part that begins at `index` stands in a text of `length` characters: a negative index counts from the end,
and beyond the ends it is the end. -/
def firstPlace (index : Int) (length : Nat) : Nat :=
  (max 0 (min (if index < 0 then length + index else index) length)).toNat

section Place

variable {index : Int} {length : Nat}

theorem firstPlace_le (index : Int) (length : Nat) : firstPlace index length ≤ length := by
  unfold firstPlace
  omega

theorem firstPlace_of_nonneg (h : 0 ≤ index) : firstPlace index length = min index.toNat length := by
  rw [firstPlace, if_neg (Int.not_lt.mpr h)]
  omega

theorem firstPlace_lt (h : -length ≤ index ∧ index < length) : firstPlace index length < length := by
  unfold firstPlace
  split <;> omega

/-- Between the ends both ways of counting agree, and beyond them there is no character. -/
theorem place?_eq (index : Int) (length : Nat) :
    place? index length = if -length ≤ index ∧ index < length then some (firstPlace index length) else none := by
  unfold place? firstPlace
  extract_lets i
  have hrange : (0 ≤ i ∧ i < length) ↔ -length ≤ index ∧ index < length := by
    unfold i
    split <;> omega
  simp only [Bool.and_eq_true, decide_eq_true_eq, hrange]
  split
  · next h =>
    obtain ⟨hlow, hhigh⟩ := hrange.mpr h
    rw [Int.min_eq_left (Int.le_of_lt hhigh), Int.max_eq_right hlow]
  · rfl

end Place

section Part

open Builtin (part)

variable (s : List Char) (start : Int)

theorem part_none : part s start none = s.drop (firstPlace start s.length) := by
  rw [part, firstPlace]
  congr 1
  split
  · omega
  · show min start.toNat s.length = _
    omega

theorem part_some (count : Int) : part s start (some count) = (part s start none).take count.toNat :=
  rfl

/-- A part stands in the text where its start says, and it has as many characters as are asked for and left. -/
theorem exists_part (count : Int) : ∃ before after, s = before ++ part s start (some count) ++ after ∧
    before.length = firstPlace start s.length ∧
    (part s start (some count)).length = min count.toNat (s.length - firstPlace start s.length) := by
  refine ⟨s.take (firstPlace start s.length), (part s start none).drop count.toNat, ?_, ?_, ?_⟩
  · rw [part_some, List.append_assoc, List.take_append_drop, part_none, List.take_append_drop]
  · exact List.length_take_of_le (firstPlace_le start s.length)
  · rw [part_some, List.length_take, part_none, List.length_drop]

/-- What stands in front of a place and what begins there make up the text. -/
theorem part_append_part {place : Int} (h : 0 ≤ place) : part s 0 (some place) ++ part s place none = s := by
  have hwhole : part s 0 none = s := by
    rw [part_none, firstPlace_of_nonneg (Int.le_refl 0), Int.toNat_zero, Nat.zero_min, List.drop_zero]
  have hrest : part s place none = s.drop place.toNat := by
    rw [part_none, firstPlace_of_nonneg h, List.drop_eq_drop_iff]
    omega
  rw [part_some, hwhole, hrest, List.take_append_drop]

/-- Between the ends the character of a place is the part of length one that begins there. -/
theorem part_one (h : -s.length ≤ start ∧ start < s.length) :
    ∃ c, s[firstPlace start s.length]? = some c ∧ part s start (some 1) = [c] := by
  have hlt := firstPlace_lt h
  refine ⟨_, List.getElem?_eq_getElem hlt, ?_⟩
  rw [part_some, part_none, List.drop_eq_getElem_cons hlt]
  rfl

end Part

/-! ### Expressions -/

section Eval

variable {env : Env} {text start count : Expr} {s : String} {i m : Int64}

theorem Expr.eval_substr_from (htext : text.eval env = .ok (.str s)) (hstart : start.eval env = .ok (.int i)) :
    (Expr.call .substr [text, start]).eval env = .ok (.str (String.ofList (Builtin.part s.toList i.toInt none))) := by
  rw [Expr.eval_call Builtin.noConfusion Builtin.noConfusion, evalAll, evalAll, evalAll, htext, hstart]
  rfl

theorem Expr.eval_substr_within (htext : text.eval env = .ok (.str s)) (hstart : start.eval env = .ok (.int i))
    (hcount : count.eval env = .ok (.int m)) : (Expr.call .substr [text, start, count]).eval env =
      .ok (.str (String.ofList (Builtin.part s.toList i.toInt (some m.toInt)))) := by
  rw [Expr.eval_call Builtin.noConfusion Builtin.noConfusion, evalAll, evalAll, evalAll, evalAll, htext, hstart, hcount]
  rfl

theorem Expr.eval_index (htext : text.eval env = .ok (.str s)) (hstart : start.eval env = .ok (.int i)) :
    (Expr.index text start).eval env = itemAt (.str s) i.toInt := by
  rw [Expr.eval, htext, hstart]
  rfl

/-- The parts and the characters of the text that an expression gives.  `substr` does not fail: it gives as many
characters as are asked for and left, from the start on.  The parts in front of a place and behind it add up to the text,
unless that is too long to be computed.  The character at a place is the part of length one, or null beyond the ends. -/
theorem Expr.eval_parts (htext : text.eval env = .ok (.str s)) (hstart : start.eval env = .ok (.int i))
    (hcount : count.eval env = .ok (.int m)) :
    (∃ before part after, s.toList = before ++ part ++ after ∧
      (Expr.call .substr [text, start, count]).eval env = .ok (.str (String.ofList part)) ∧
      before.length = firstPlace i.toInt s.length ∧
      part.length = min m.toInt.toNat (s.length - firstPlace i.toInt s.length)) ∧
    (0 ≤ i.toInt →
      (Expr.binary .add (.call .substr [text, .literal (.int 0), start]) (.call .substr [text, start])).eval env =
        if s.utf8ByteSize ≤ textLimit then .ok (.str s) else failWith (.textTooLong s.utf8ByteSize)) ∧
    (-s.length ≤ i.toInt ∧ i.toInt < s.length → ∃ c,
      (Expr.index text start).eval env = .ok (.str (String.ofList [c])) ∧
      (Expr.call .substr [text, start, .literal (.int 1)]).eval env = .ok (.str (String.ofList [c]))) ∧
    (¬(-s.length ≤ i.toInt ∧ i.toInt < s.length) → (Expr.index text start).eval env = .ok .null) := by
  have hint (n : Int64) : (Expr.literal (.int n)).eval env = .ok (.int n) := by
    rw [Expr.eval]
  have hlength : s.length = s.toList.length := String.length_toList.symm
  rw [hlength, Expr.eval_index htext hstart, itemAt, place?_eq]
  refine ⟨?_, fun hplace => ?_, fun hrange => ?_, fun hrange => ?_⟩
  · obtain ⟨before, after, hsplit, hbefore, hpart⟩ := exists_part s.toList i.toInt m.toInt
    exact ⟨before, _, after, hsplit, Expr.eval_substr_within htext hstart hcount, hbefore, hpart⟩
  · have hfront := Expr.eval_substr_within htext (hint 0) hstart
    rw [Expr.eval_binary hfront (Expr.eval_substr_from htext hstart)]
    show limited (String.ofList _ ++ String.ofList _) = _
    rw [← String.ofList_append, Int64.toInt_zero, part_append_part s.toList hplace, String.ofList_toList, limited]
    simp only [← Nat.not_le, ite_not]
  · obtain ⟨c, hc, hpart⟩ := part_one s.toList i.toInt hrange
    refine ⟨c, ?_, ?_⟩
    · rw [if_pos hrange, Option.bind_some, hc]
      rfl
    · rw [Expr.eval_substr_within htext hstart (hint 1), ← hpart]
      rfl
  · rw [if_neg hrange]
    rfl

/-- The least start lies in front of any text: a part begins at the first character, and there is no character. -/
theorem Expr.eval_parts_least :
    let env : Env := ⟨"äöü", []⟩
    let text : Expr := .var "line"
    let start : Expr := .literal (.int Int64.minValue)
    let count : Expr := .literal (.int 2)
    text.eval env = .ok (.str "äöü") ∧ start.eval env = .ok (.int Int64.minValue) ∧ count.eval env = .ok (.int 2) ∧
      (Expr.call .substr [text, start, count]).eval env = .ok (.str "äö") ∧
      (Expr.index text start).eval env = .ok .null := by
  intro env text start count
  have htext : text.eval env = .ok (.str "äöü") := by
    rw [Expr.eval]
    rfl
  have hstart : start.eval env = .ok (.int Int64.minValue) := by
    rw [Expr.eval]
  have hcount : count.eval env = .ok (.int 2) := by
    rw [Expr.eval]
  obtain ⟨⟨before, part, after, hsplit, hpart, hbefore, hlength⟩, -, -, hnull⟩ := Expr.eval_parts htext hstart hcount
  obtain rfl : before = [] := List.length_eq_zero_iff.mp (hbefore.trans (by decide))
  have hlength : part.length = 2 := hlength.trans (by decide)
  have htake : "äöü".toList.take 2 = part := by
    rw [hsplit, List.nil_append, ← hlength, List.take_left]
  rw [← htake] at hpart
  exact ⟨htext, hstart, hcount, hpart, hnull (by decide)⟩

end Eval

end SampleRecorder.Script
