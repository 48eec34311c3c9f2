import SampleRecorder.Proofs.Frame.Stream

/-!
# Discarded text

Lines of a stream of which some text is discarded.  A push that leaves more text behind the last delimiter than the
framer keeps ends a span of the stream (`Spans`), and the framer begins anew behind it.  So the lines are those of the
spans, each split as if it were a whole stream (`lines_eq_spans`): a line may begin at a delimiter, at the beginning of
the stream or where text was discarded, and there it is only what remains of one (`remainder_delivered`).
-/

namespace SampleRecorder.Frame

open Text (split lastPiece)

/-- What a framer is given: text, or bytes to decode. -/
inductive Push where
  | text (s : List Char)
  | bytes (b : List UInt8)

namespace Push

/-- The text of a push and the bytes that it leaves pending, after some were pending before. -/
def decode (e : Encoding) (pending : List UInt8) : Push → List Char × List UInt8
  | text s => (s, pending)
  | bytes b => e.decode pending b

/-- The texts of pushes, one after the other. -/
def texts (e : Encoding) (pending : List UInt8) : List Push → List (List Char)
  | [] => []
  | p :: pushes => (p.decode e pending).1 :: texts e (p.decode e pending).2 pushes

end Push

/-- Whether pushes amount to these texts, behind bytes that are the beginning of a character.  Text stands for itself,
bytes are taken together with those in front of them, and what they leave over waits for the next ones. -/
inductive Arrives (e : Encoding) : List UInt8 → List Push → List (List Char) → Prop
  | nil (waiting : List UInt8) : Arrives e waiting [] []
  | text {waiting : List UInt8} {pushes : List Push} {texts : List (List Char)} (s : List Char)
    (h : Arrives e waiting pushes texts) : Arrives e waiting (.text s :: pushes) (s :: texts)
  | bytes {waiting b incomplete : List UInt8} {s : List Char} {pushes : List Push} {texts : List (List Char)}
    (hb : Decodes e (waiting ++ b) s incomplete) (h : Arrives e incomplete pushes texts) :
    Arrives e waiting (.bytes b :: pushes) (s :: texts)

/-- Whether a stream that arrives in some texts, the first of which goes on with `span`, is divided into these spans.  A
span ends behind a text that leaves more than `limit` bytes without a delimiter. -/
inductive Spans (delimiter : List Char) (limit : Nat) : List Char → List (List Char) → List (List Char) → Prop
  | last (span : List Char) : Spans delimiter limit span [] [span]
  | ends {span text rest : List Char} {texts spans : List (List Char)} (hrest : Leaves delimiter (span ++ text) rest)
    (hlimit : limit < (String.ofList rest).utf8ByteSize) (h : Spans delimiter limit [] texts spans) :
    Spans delimiter limit span (text :: texts) ((span ++ text) :: spans)
  | goesOn {span text rest : List Char} {texts spans : List (List Char)} (hrest : Leaves delimiter (span ++ text) rest)
    (hlimit : (String.ofList rest).utf8ByteSize ≤ limit) (h : Spans delimiter limit (span ++ text) texts spans) :
    Spans delimiter limit span (text :: texts) spans

section Arrives

variable {e : Encoding} {waiting : List UInt8}

/-- What waits is the beginning of a character, and there is none in the encodings of one byte for a character. -/
def Waits (e : Encoding) (waiting : List UInt8) : Prop :=
  Text.Utf8.Opens waiting ∧ (e ≠ .utf8 → waiting = [])

theorem waits_nil (e : Encoding) : Waits e [] :=
  ⟨Text.Utf8.opens_nil, fun _ => rfl⟩

theorem Waits.decode (h : Waits e waiting) (b : List UInt8) :
    Decodes e (waiting ++ b) (e.decode waiting b).1 (e.decode waiting b).2 ∧ Waits e (e.decode waiting b).2 := by
  cases e with
  | utf8 =>
    exact ⟨Text.Utf8.lossy_decode_append (Text.Utf8.eq_nil_or_lead h.1) b, Text.Utf8.opens_decode h.1 b, fun h => absurd rfl h⟩
  | ascii =>
    obtain rfl := h.2 nofun
    exact ⟨decodes_iff.mpr rfl, waits_nil _⟩
  | latin1 =>
    obtain rfl := h.2 nofun
    exact ⟨decodes_iff.mpr rfl, waits_nil _⟩

theorem Waits.push (h : Waits e waiting) (p : Push) : Waits e (p.decode e waiting).2 := by
  cases p with
  | text s => exact h
  | bytes b => exact (h.decode b).2

theorem arrives_texts (h : Waits e waiting) (pushes : List Push) :
    Arrives e waiting pushes (Push.texts e waiting pushes) := by
  induction pushes generalizing waiting with
  | nil => exact .nil waiting
  | cons p pushes ih =>
    cases p with
    | text s => exact .text s (ih h)
    | bytes b => exact .bytes (h.decode b).1 (ih (h.decode b).2)

end Arrives

section Spans

variable {delimiter span : List Char} {limit : Nat} {texts spans : List (List Char)}

theorem Spans.ne_nil (h : Spans delimiter limit span texts spans) : spans ≠ [] := by
  induction h with
  | last span => simp
  | ends _ _ _ _ => simp
  | goesOn _ _ _ ih => exact ih

/-- Nothing of a stream is outside its spans. -/
theorem Spans.flatten (h : Spans delimiter limit span texts spans) : spans.flatten = span ++ texts.flatten := by
  induction h with
  | last span => simp
  | ends _ _ _ ih => simp [ih]
  | goesOn _ _ _ ih => simp [ih]

/-- Every span but the last leaves more than the limit. -/
theorem Spans.limit_lt (h : Spans delimiter limit span texts spans) :
    ∀ s ∈ spans.dropLast, ∃ rest, Leaves delimiter s rest ∧ limit < (String.ofList rest).utf8ByteSize := by
  induction h with
  | last span => simp
  | ends hrest hlimit h ih =>
    rw [List.dropLast_cons_of_ne_nil h.ne_nil, List.forall_mem_cons]
    exact ⟨⟨_, hrest, hlimit⟩, ih⟩
  | goesOn _ _ _ ih => exact ih

end Spans

/-- The lines of a text: its pieces between delimiters but for the last one, which no delimiter ends. -/
def pieceLines (delimiter text : List Char) : List String :=
  (split delimiter text).dropLast.filterMap lineOf?

theorem pieceLines_nil {delimiter : List Char} (hd : delimiter ≠ []) : pieceLines delimiter [] = [] := by
  simp [pieceLines, Text.split_nil hd]

theorem lastPiece_nil {delimiter : List Char} (hd : delimiter ≠ []) : lastPiece delimiter [] = [] := by
  simp [lastPiece, Text.split_nil hd]

theorem pieceLines_append (delimiter s t : List Char) :
    pieceLines delimiter (s ++ t) = pieceLines delimiter s ++ pieceLines delimiter (lastPiece delimiter s ++ t) := by
  rw [pieceLines, Text.dropLast_split_append_text, List.filterMap_append]
  rfl

namespace Framer

/-- The lines and the framer after a push. -/
def push (f : Framer) : Push → List String × Framer
  | .text s => (f.pushText s).value
  | .bytes b => (f.pushBytes b).value

/-- The lines that pushes return, one push after the other. -/
def lines (f : Framer) : List Push → List String
  | [] => []
  | p :: pushes => (f.push p).1 ++ (f.push p).2.lines pushes

theorem push_eq_pushText (f : Framer) (p : Push) :
    f.push p =
      ({ f with pending := (p.decode f.encoding f.pending).2 }.pushText (p.decode f.encoding f.pending).1).value := by
  cases p <;> rfl

/-- Text beyond the limit is cut into pieces, of which the last one is dropped. -/
theorem value_pushText_of_lt {f : Framer} {text : List Char}
    (h : f.limit < byteLength (lastPiece f.delimiter (f.partialText ++ text))) :
    (f.pushText text).value =
      (pieceLines f.delimiter (f.partialText ++ text), { f with partialText := [] }) := by
  unfold pushText
  dsimp only
  rw [← lastPiece, if_pos h]
  rfl

/-- A push cuts what was held together with its own text, and holds the last piece, or nothing if that is too much. -/
theorem push_eq (f : Framer) (p : Push) {text : List Char} {pending : List UInt8}
    (hp : p.decode f.encoding f.pending = (text, pending)) :
    f.push p =
      (pieceLines f.delimiter (f.partialText ++ text),
        { f with
          pending
          partialText :=
            if f.limit < byteLength (lastPiece f.delimiter (f.partialText ++ text)) then []
            else lastPiece f.delimiter (f.partialText ++ text) }) := by
  rw [push_eq_pushText, hp]
  dsimp only
  by_cases hlimit : f.limit < byteLength (lastPiece f.delimiter (f.partialText ++ text))
  · have hpush := @value_pushText_of_lt { f with pending } text hlimit
    rw [hpush, if_pos hlimit]
  · have hpush := @value_pushText { f with pending } text (Nat.le_of_not_lt hlimit)
    rw [hpush, if_neg hlimit]
    rfl

/-- A framer that holds what is left of a span gives the lines that the push adds to it, and holds what is left then,
or nothing if that is too much. -/
theorem push_of_span {f : Framer} {span : List Char} (hf : f.partialText = lastPiece f.delimiter span) (p : Push)
    {text : List Char} {pending : List UInt8} (hp : p.decode f.encoding f.pending = (text, pending)) :
    f.push p =
      (pieceLines f.delimiter (lastPiece f.delimiter span ++ text),
        { f with
          pending
          partialText :=
            if f.limit < byteLength (lastPiece f.delimiter (span ++ text)) then []
            else lastPiece f.delimiter (span ++ text) }) := by
  rw [push_eq f p hp, hf, ← Text.lastPiece_append]

/-- Pushes give the lines that they add to a span, and then those of the spans behind it. -/
theorem exists_spans {f : Framer} {span : List Char} (hd : f.delimiter ≠ [])
    (hf : f.partialText = lastPiece f.delimiter span) (pushes : List Push) :
    ∃ spans lines, Spans f.delimiter f.limit span (Push.texts f.encoding f.pending pushes) spans ∧
      List.Forall₂ (fun span lines => ∃ rest, CutsInto f.delimiter span lines rest) spans lines ∧
      pieceLines f.delimiter span ++ f.lines pushes = lines.flatten := by
  have hcuts (text : List Char) : ∃ rest, CutsInto f.delimiter text (pieceLines f.delimiter text) rest :=
    ⟨_, (cutsInto_iff hd).mpr ⟨rfl, rfl⟩⟩
  induction pushes generalizing f span with
  | nil => exact ⟨[span], [pieceLines f.delimiter span], .last span, .cons (hcuts span) .nil, by simp [lines]⟩
  | cons p pushes ih =>
    obtain ⟨text, pending, hp⟩ : ∃ text pending, p.decode f.encoding f.pending = (text, pending) := ⟨_, _, rfl⟩
    have hpush := push_of_span hf p hp
    have hrest : Leaves f.delimiter (span ++ text) (lastPiece f.delimiter (span ++ text)) := (leaves_iff hd).mpr rfl
    rw [Push.texts, hp, lines, hpush, ← List.append_assoc, ← pieceLines_append]
    by_cases hlimit : f.limit < byteLength (lastPiece f.delimiter (span ++ text))
    -- the span ends here, and the framer holds nothing, which is what is left of an empty span
    · obtain ⟨spans, lines, hspans, hlines, heq⟩ :=
        @ih { f with pending, partialText := [] } [] hd (lastPiece_nil hd).symm hcuts
      rw [pieceLines_nil hd, List.nil_append] at heq
      rw [if_pos hlimit, heq]
      rw [byteLength_eq] at hlimit
      exact ⟨_, pieceLines f.delimiter (span ++ text) :: lines, .ends hrest hlimit hspans,
        .cons (hcuts _) hlines, rfl⟩
    -- the span goes on
    · obtain ⟨spans, lines, hspans, hlines, heq⟩ :=
        @ih { f with pending, partialText := lastPiece f.delimiter (span ++ text) } (span ++ text) hd rfl hcuts
      rw [if_neg hlimit, heq]
      rw [byteLength_eq, Nat.not_lt] at hlimit
      exact ⟨spans, lines, .goesOn hrest hlimit hspans, hlines, rfl⟩

theorem delimiter_new_ne_nil (delimiter : String) (e : Encoding) (limit : Nat) :
    (new delimiter e limit).delimiter ≠ [] := by
  unfold new
  split
  · exact (by decide : defaultDelimiter.toList ≠ [])
  · next h => simpa using h

/-- The lines that pushes return are those of the spans of their stream, each split as a stream of its own; the spans
make up the stream, and one ends only where more than the limit is left of it. -/
theorem lines_eq_spans (delimiter : String) (e : Encoding) (limit : Nat) (pushes : List Push) :
    let d := if delimiter = "" then ['\n'] else delimiter.toList
    ∃ texts spans lines, Arrives e [] pushes texts ∧ Spans d (max limit 1) [] texts spans ∧
      List.Forall₂ (fun span lines => ∃ rest, CutsInto d span lines rest) spans lines ∧
      (new delimiter e limit).lines pushes = lines.flatten ∧ spans.flatten = texts.flatten ∧
      ∀ span ∈ spans.dropLast, ∃ rest, Leaves d span rest ∧ max limit 1 < (String.ofList rest).utf8ByteSize := by
  intro d
  have hd : (new delimiter e limit).delimiter ≠ [] := delimiter_new_ne_nil delimiter e limit
  obtain ⟨spans, lines, hspans, hlines, heq⟩ := exists_spans hd (lastPiece_nil hd).symm pushes
  rw [pieceLines_nil hd, List.nil_append] at heq
  exact ⟨_, spans, lines, arrives_texts (waits_nil e) pushes, hspans, hlines, heq, hspans.flatten, hspans.limit_lt⟩

/-- The end of a line that was too long is delivered as a line. -/
theorem remainder_delivered :
    ¬∀ (delimiter : String) (e : Encoding) (limit : Nat) (pushes : List Push),
      let f := new delimiter e limit
      ∀ line ∈ f.lines pushes,
        ∃ piece ∈ (split f.delimiter (Push.texts e [] pushes).flatten).dropLast, lineOf? piece = some line := by
  intro h
  have htail := h "\n" .utf8 4 [.text "abcdefg".toList, .text "tail\nok\n".toList] "tail" (by decide +kernel)
  revert htail
  decide +kernel

end Framer

end SampleRecorder.Frame
