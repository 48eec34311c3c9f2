import SampleRecorder.Proofs.Frame.Discard

/-!
# Bounds of a framer

What holds of a framer after any operations (`bounded_after`): the text that it holds is within its limit and contains no
delimiter, and the bytes that it keeps back are the beginning of one character, at most three bytes.  The lines that a
push returns are not blank, have no white space at their ends and contain no delimiter, since each is a piece between
delimiters (`line_of_mem_pieceLines`).
-/

namespace SampleRecorder

theorem Text.trim_isInfix (s : List Char) : trim s <:+: s := by
  obtain ⟨a, b, hs, -⟩ := exists_eq_append_trim s
  exact ⟨a, b, by rw [List.append_assoc, ← hs]⟩

namespace Frame

open Text (split lastPiece)
open Text.Utf8 (Opens)

/-! ### Lines -/

/-- A line is a piece between delimiters without the white space at its ends. -/
theorem line_of_mem_pieceLines {delimiter text : List Char} (hd : delimiter ≠ []) {line : String}
    (h : line ∈ pieceLines delimiter text) :
    line ≠ "" ∧ (∀ c ∈ line.toList.head?, Text.isBlank c = false) ∧
      (∀ c ∈ line.toList.getLast?, Text.isBlank c = false) ∧ ¬delimiter <:+: line.toList := by
  obtain ⟨piece, hpiece, hline⟩ := List.mem_filterMap.mp h
  obtain ⟨hne, rfl⟩ := lineOf?_eq_some_iff.mp hline
  rw [String.toList_ofList]
  refine ⟨?_, Text.stops_trim piece, Text.isBlank_of_mem_getLast?_trim piece, ?_⟩
  · intro hempty
    have := congrArg String.toList hempty
    rw [String.toList_ofList] at this
    exact hne this
  · intro hwithin
    have hclean := Text.cut?_of_mem_split hd (List.dropLast_subset _ hpiece)
    exact Text.cut?_eq_none_iff.mp hclean (hwithin.trans (Text.trim_isInfix piece))

namespace Framer

/-- What is done to a framer. -/
inductive Op where
  | push (p : Push)
  | flush
  | reset

/-- The framer after an operation. -/
def Op.apply (f : Framer) : Op → Framer
  | push p => (f.push p).2
  | flush => f.flush.2
  | reset => f.reset

/-- The framer after operations, one after the other. -/
def after (f : Framer) (ops : List Op) : Framer :=
  ops.foldl Op.apply f

/-- A framer that holds no more than it may. -/
structure IsBounded (f : Framer) : Prop where
  size : byteLength f.partialText ≤ f.limit
  undelimited : ¬f.delimiter <:+: f.partialText
  opens : Opens f.pending
  complete : f.encoding ≠ .utf8 → f.pending = []

theorem isBounded_empty {f : Framer} (hd : f.delimiter ≠ []) (hpending : f.pending = [])
    (htext : f.partialText = []) : f.IsBounded := by
  refine ⟨?_, ?_, ?_, fun _ => hpending⟩
  · rw [htext]
    exact Nat.zero_le _
  · rw [htext, List.infix_nil]
    exact hd
  · rw [hpending]
    exact Text.Utf8.opens_nil

theorem IsBounded.push {f : Framer} (h : f.IsBounded) (hd : f.delimiter ≠ []) (p : Push) : (f.push p).2.IsBounded := by
  obtain ⟨text, pending, hp⟩ : ∃ text pending, p.decode f.encoding f.pending = (text, pending) := ⟨_, _, rfl⟩
  obtain ⟨hopens, hcomplete⟩ := Waits.push ⟨h.opens, h.complete⟩ p
  rw [hp] at hopens hcomplete
  rw [push_eq f p hp]
  by_cases hlimit : f.limit < byteLength (lastPiece f.delimiter (f.partialText ++ text))
  · rw [if_pos hlimit]
    exact ⟨Nat.zero_le _, by rw [List.infix_nil]; exact hd, hopens, hcomplete⟩
  · rw [if_neg hlimit]
    have hclean := Text.cut?_lastPiece hd (f.partialText ++ text)
    exact ⟨Nat.le_of_not_lt hlimit, Text.cut?_eq_none_iff.mp hclean, hopens, hcomplete⟩

/-- The settings of a framer stay, and so do its bounds. -/
theorem IsBounded.apply {f : Framer} (h : f.IsBounded) (hd : f.delimiter ≠ []) (op : Op) :
    (op.apply f).IsBounded ∧ (op.apply f).delimiter = f.delimiter ∧ (op.apply f).encoding = f.encoding ∧
      (op.apply f).limit = f.limit := by
  cases op with
  | push p =>
    have hsettings := push_eq f p rfl
    refine ⟨h.push hd p, ?_⟩
    rw [Op.apply, hsettings]
    exact ⟨rfl, rfl, rfl⟩
  | flush => exact ⟨isBounded_empty hd rfl rfl, rfl, rfl, rfl⟩
  | reset => exact ⟨isBounded_empty hd rfl rfl, rfl, rfl, rfl⟩

theorem IsBounded.after {f : Framer} (h : f.IsBounded) (hd : f.delimiter ≠ []) (ops : List Op) :
    (f.after ops).IsBounded ∧ (f.after ops).delimiter = f.delimiter ∧ (f.after ops).encoding = f.encoding ∧
      (f.after ops).limit = f.limit := by
  induction ops generalizing f with
  | nil => exact ⟨h, rfl, rfl, rfl⟩
  | cons op ops ih =>
    obtain ⟨hop, hdelimiter, hencoding, hlimit⟩ := h.apply hd op
    rw [← hdelimiter, ← hencoding, ← hlimit]
    exact ih hop (by rwa [hdelimiter])

/-- After any pushes, flushes and resets a framer holds text within its limit that contains no delimiter, and keeps back
at most three bytes, which are the beginning of a character and belong to UTF-8; a flush or reset leaves nothing.  The
lines that a push returns are not empty, neither begin nor end with white space, and contain no delimiter. -/
theorem bounded_after (delimiter : String) (e : Encoding) (limit : Nat) (ops : List Op) :
    let start := new delimiter e limit
    let f := start.after ops
    (String.ofList f.partialText).utf8ByteSize ≤ start.limit ∧ ¬start.delimiter <:+: f.partialText ∧
      (e ≠ .utf8 → f.pending = []) ∧ Opens f.pending ∧ f.pending.length ≤ 3 ∧
      (∀ p, ∀ line ∈ (f.push p).1,
        line ≠ "" ∧ (∀ c ∈ line.toList.head?, Text.isBlank c = false) ∧
          (∀ c ∈ line.toList.getLast?, Text.isBlank c = false) ∧ ¬start.delimiter <:+: line.toList) ∧
      (f.flush.2.partialText = [] ∧ f.flush.2.pending = []) ∧ f.reset.partialText = [] ∧ f.reset.pending = [] := by
  intro start f
  have hd : start.delimiter ≠ [] := delimiter_new_ne_nil delimiter e limit
  obtain ⟨h, hdelimiter, hencoding, hlimit⟩ := (isBounded_empty hd rfl rfl).after hd ops
  refine ⟨?_, ?_, ?_, h.opens, Text.Utf8.length_le_of_opens h.opens, ?_, ⟨rfl, rfl⟩, rfl, rfl⟩
  · rw [← byteLength_eq, ← hlimit]
    exact h.size
  · rw [← hdelimiter]
    exact h.undelimited
  · intro he
    exact h.complete (by rwa [hencoding])
  · intro p line hline
    rw [push_eq f p rfl, hdelimiter] at hline
    exact line_of_mem_pieceLines hd hline

end Framer

end Frame

end SampleRecorder
