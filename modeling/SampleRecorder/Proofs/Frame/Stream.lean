import Mathlib.Data.List.Induction
import SampleRecorder.Proofs.Frame.Delivery

/-!
# Lines of a stream

What a framer makes of a stream of bytes that arrives in chunks.  As long as no chunk leaves more text without a
delimiter than the framer keeps (`Fits`), the lines are those of the whole stream, decoded and split at once, and the
flush at the end gives the last of them (`pushAll_eq_split`); so it does not matter where the stream is cut.
-/

namespace SampleRecorder.Frame

open Text (split lastPiece)

theorem Encoding.decode_append (e : Encoding) (pending a b : List UInt8) :
    e.decode pending (a ++ b) =
      ((e.decode pending a).1 ++ (e.decode (e.decode pending a).2 b).1, (e.decode (e.decode pending a).2 b).2) := by
  cases e with
  | utf8 => exact Text.Utf8.decode_append pending a b
  | ascii => simp [decode]
  | latin1 => simp [decode]

theorem Encoding.decode_nil (e : Encoding) (pending : List UInt8) : e.decode pending [] = ([], pending) := by
  cases e <;> rfl

namespace Framer

/-- Takes chunks one after the other and gives all lines that they complete. -/
def pushAll (f : Framer) (chunks : List (List UInt8)) : List String × Framer :=
  chunks.foldl (fun s bytes => (s.1 ++ (s.2.pushBytes bytes).value.1, (s.2.pushBytes bytes).value.2)) ([], f)

/-- The lines of a stream, decoded and split as a whole; what is behind the last delimiter is none yet. -/
def streamLines (delimiter : List Char) (e : Encoding) (bytes : List UInt8) : List String :=
  (split delimiter (e.decode [] bytes).1).dropLast.filterMap lineOf?

/-- The text behind the last delimiter of a stream. -/
def undelimited (delimiter : List Char) (e : Encoding) (bytes : List UInt8) : List Char :=
  lastPiece delimiter (e.decode [] bytes).1

/-- A framer that holds what is left of a stream. -/
def streamed (delimiter : List Char) (e : Encoding) (limit : Nat) (bytes : List UInt8) : Framer where
  delimiter := delimiter
  encoding := e
  limit := limit
  pending := (e.decode [] bytes).2
  partialText := undelimited delimiter e bytes

theorem streamed_nil {delimiter : List Char} (hd : delimiter ≠ []) (e : Encoding) (limit : Nat) :
    streamed delimiter e limit [] = { delimiter, encoding := e, limit } := by
  simp [streamed, undelimited, lastPiece, e.decode_nil, Text.split_nil hd]

/-- Text that stays within the limit is cut into pieces, of which the last one is kept. -/
theorem value_pushText {f : Framer} {text : List Char}
    (h : byteLength (lastPiece f.delimiter (f.partialText ++ text)) ≤ f.limit) :
    (f.pushText text).value =
      ((split f.delimiter (f.partialText ++ text)).dropLast.filterMap lineOf?,
        { f with partialText := lastPiece f.delimiter (f.partialText ++ text) }) := by
  unfold pushText
  dsimp only
  rw [← lastPiece, if_neg (by omega)]
  rfl

/-- A chunk gives the lines that the longer stream has beyond the shorter one. -/
theorem value_pushBytes_streamed {delimiter : List Char} {e : Encoding} {limit : Nat} {before bytes : List UInt8}
    (h : byteLength (undelimited delimiter e (before ++ bytes)) ≤ limit) :
    streamLines delimiter e before ++ ((streamed delimiter e limit before).pushBytes bytes).value.1 =
        streamLines delimiter e (before ++ bytes) ∧
      ((streamed delimiter e limit before).pushBytes bytes).value.2 = streamed delimiter e limit (before ++ bytes) := by
  have hkept : undelimited delimiter e (before ++ bytes) =
      lastPiece delimiter (undelimited delimiter e before ++ (e.decode (e.decode [] before).2 bytes).1) := by
    rw [undelimited, e.decode_append, Text.lastPiece_append]
    rfl
  have hlines : streamLines delimiter e (before ++ bytes) =
      streamLines delimiter e before ++
        (split delimiter (undelimited delimiter e before ++
          (e.decode (e.decode [] before).2 bytes).1)).dropLast.filterMap lineOf? := by
    rw [streamLines, e.decode_append, Text.dropLast_split_append_text, List.filterMap_append]
    rfl
  have hpush : ((streamed delimiter e limit before).pushBytes bytes).value =
      ((split delimiter (undelimited delimiter e before ++
          (e.decode (e.decode [] before).2 bytes).1)).dropLast.filterMap lineOf?,
        { delimiter, encoding := e, limit, pending := (e.decode (e.decode [] before).2 bytes).2,
          partialText := undelimited delimiter e (before ++ bytes) }) := by
    rw [hkept]
    exact value_pushText (hkept ▸ h)
  rw [hpush]
  exact ⟨hlines.symm, by simp only [streamed, e.decode_append]⟩

theorem pushAll_concat (f : Framer) (chunks : List (List UInt8)) (bytes : List UInt8) :
    f.pushAll (chunks ++ [bytes]) =
      ((f.pushAll chunks).1 ++ ((f.pushAll chunks).2.pushBytes bytes).value.1,
        ((f.pushAll chunks).2.pushBytes bytes).value.2) := by
  simp [pushAll, List.foldl_append]

theorem pushAll_cons (f : Framer) (bytes : List UInt8) (chunks : List (List UInt8)) :
    f.pushAll (bytes :: chunks) =
      ((f.pushBytes bytes).value.1 ++ ((f.pushBytes bytes).value.2.pushAll chunks).1,
        ((f.pushBytes bytes).value.2.pushAll chunks).2) := by
  induction chunks using List.reverseRecOn with
  | nil => simp [pushAll]
  | append_singleton chunks last ih =>
    rw [← List.cons_append, pushAll_concat, ih, pushAll_concat, List.append_assoc]

/-- Chunks that stay within the limit give the lines of the stream that they make up. -/
theorem pushAll_of_fits {delimiter : List Char} (hd : delimiter ≠ []) (e : Encoding) (limit : Nat)
    (chunks : List (List UInt8))
    (h : ∀ k ≤ chunks.length, byteLength (undelimited delimiter e (chunks.take k).flatten) ≤ limit) :
    pushAll { delimiter, encoding := e, limit } chunks =
      (streamLines delimiter e chunks.flatten, streamed delimiter e limit chunks.flatten) := by
  induction chunks using List.reverseRecOn with
  | nil =>
    rw [List.flatten_nil, streamed_nil hd]
    simp [pushAll, streamLines, e.decode_nil, Text.split_nil hd]
  | append_singleton chunks bytes ih =>
    -- the framer holds what is left of the chunks so far, so the last one makes their stream longer
    have hbefore := ih fun k hk => by
      have := h k (by simp; omega)
      rwa [List.take_append_of_le_length hk] at this
    have hlast := h (chunks.length + 1) (by simp)
    rw [List.take_of_length_le (by simp), List.flatten_append, List.flatten_singleton] at hlast
    obtain ⟨hlines, hleft⟩ := value_pushBytes_streamed hlast
    rw [pushAll_concat, hbefore, List.flatten_append, List.flatten_singleton]
    exact Prod.ext hlines hleft

theorem flush_streamed (delimiter : List Char) (e : Encoding) (limit : Nat) (bytes : List UInt8) :
    (streamed delimiter e limit bytes).flush.1 =
      lineOf? (undelimited delimiter e bytes ++
        if (e.decode [] bytes).2 = [] then [] else [Text.Utf8.replacement]) := by
  by_cases h : (e.decode [] bytes).2 = [] <;> simp [flush, streamed, h]

/-- Whether no chunk leaves more than `limit` bytes of text without a delimiter. -/
def Fits (e : Encoding) (delimiter : List Char) (limit : Nat) (chunks : List (List UInt8)) : Prop :=
  ∀ k ≤ chunks.length, ∀ text incomplete rest, Decodes e (chunks.take k).flatten text incomplete →
    Leaves delimiter text rest → (String.ofList rest).utf8ByteSize ≤ limit

theorem fits_iff {e : Encoding} {delimiter : List Char} (hd : delimiter ≠ []) {limit : Nat}
    {chunks : List (List UInt8)} : Fits e delimiter limit chunks ↔
      ∀ k ≤ chunks.length, byteLength (undelimited delimiter e (chunks.take k).flatten) ≤ limit := by
  simp only [Fits, decodes_iff, leaves_iff hd, byteLength_eq, undelimited]
  constructor
  · intro h k hk
    exact h k hk _ _ _ rfl rfl
  · rintro h k hk text incomplete rest hdecode rfl
    have hsize := h k hk
    rwa [hdecode] at hsize

/-- What a framer gives for chunks that fit, and at the end, is what their stream gives. -/
theorem pushAll_new_of_fits {e : Encoding} {delimiter : String} (hd : delimiter ≠ "") {limit : Nat}
    {chunks : List (List UInt8)} (h : Fits e delimiter.toList (max limit 1) chunks) :
    ((new delimiter e limit).pushAll chunks).1 = streamLines delimiter.toList e chunks.flatten ∧
      ((new delimiter e limit).pushAll chunks).2.flush.1 =
        (streamed delimiter.toList e (max limit 1) chunks.flatten).flush.1 := by
  have hd' : delimiter.toList ≠ [] := by simpa using hd
  have hnew : new delimiter e limit = { delimiter := delimiter.toList, encoding := e, limit := max limit 1 } := by
    simp [new, hd]
  rw [hnew, pushAll_of_fits hd' e (max limit 1) chunks ((fits_iff hd').mp h)]
  exact ⟨rfl, rfl⟩

theorem toList_lineOf? (piece : List Char) : (lineOf? piece).toList = [piece].filterMap lineOf? := by
  cases h : lineOf? piece <;> simp [h]

/-- Lines that arrive in chunks are those of the whole stream: of the text that its bytes amount to, cut at every
delimiter, all pieces but the last, without white space at their ends and without blank ones.  The last piece is what
the flush gives, with a replacement for an incomplete character at the end of the stream.  So chunks that are cut at
other places give the same lines. -/
theorem pushAll_eq_split (e : Encoding) {delimiter : String} (hd : delimiter ≠ "") (limit : Nat)
    (chunks : List (List UInt8)) (h : Fits e delimiter.toList (max limit 1) chunks) :
    let f := new delimiter e limit
    (∃ text incomplete rest, Decodes e chunks.flatten text incomplete ∧
        CutsInto delimiter.toList text (f.pushAll chunks).1 rest ∧
        Delivers [rest ++ if incomplete = [] then [] else ['\ufffd']] (f.pushAll chunks).2.flush.1.toList) ∧
      ∀ others, others.flatten = chunks.flatten → Fits e delimiter.toList (max limit 1) others →
        (f.pushAll others).1 = (f.pushAll chunks).1 ∧
          (f.pushAll others).2.flush.1 = (f.pushAll chunks).2.flush.1 := by
  intro f
  have hd' : delimiter.toList ≠ [] := by simpa using hd
  obtain ⟨hlines, hflush⟩ := pushAll_new_of_fits hd h
  refine ⟨⟨(e.decode [] chunks.flatten).1, (e.decode [] chunks.flatten).2, undelimited delimiter.toList e chunks.flatten,
    decodes_iff.mpr rfl, ?_, ?_⟩, fun others hsame hothers => ?_⟩
  · exact (cutsInto_iff hd').mpr ⟨hlines, rfl⟩
  · rw [delivers_iff, hflush, flush_streamed, toList_lineOf?]
    rfl
  · obtain ⟨hlines', hflush'⟩ := pushAll_new_of_fits hd hothers
    rw [hlines', hflush', hsame]
    exact ⟨hlines.symm, hflush.symm⟩

/-- Chunks that are cut inside a character and inside a delimiter, with a byte that is none and a character that is not
complete; and bytes with the high bit set, with blank pieces. -/
theorem pushAll_eq_split_cut :
    let chunks : List (List UInt8) := [[0x78, 0xC3], [0xA9, 0x2D], [0x2D, 0x2D, 0xFF], [0xE2, 0x82]]
    let blanks : List (List UInt8) := [[0x20, 0xC1, 0x0D], [0x0A, 0x20, 0x0A, 0x0A, 0x09], [0x62, 0x0A, 0x20]]
    ("--" ≠ "" ∧ Fits .utf8 "--".toList (max 4 1) chunks ∧
        ((new "--" .utf8 4).pushAll chunks).1 = ["xé"] ∧
        ((new "--" .utf8 4).pushAll chunks).2.flush.1 = some "-\ufffd\ufffd") ∧
      "\n" ≠ "" ∧ Fits .ascii "\n".toList (max 4 1) blanks ∧
        ((new "\n" .ascii 4).pushAll blanks).1 = ["A", "b"] ∧
        ((new "\n" .ascii 4).pushAll blanks).2.flush.1 = none := by
  intro chunks blanks
  have hfit : Fits .utf8 "--".toList (max 4 1) chunks := by
    rw [fits_iff (by decide)]
    decide +kernel
  have hfit' : Fits .ascii "\n".toList (max 4 1) blanks := by
    rw [fits_iff (by decide)]
    decide +kernel
  obtain ⟨⟨text, incomplete, rest, hdecode, hlines, hflush⟩, -⟩ := pushAll_eq_split .utf8 (by decide) 4 chunks hfit
  obtain ⟨⟨text', incomplete', rest', hdecode', hlines', hflush'⟩, -⟩ :=
    pushAll_eq_split .ascii (by decide) 4 blanks hfit'
  obtain ⟨rfl, rfl⟩ := Prod.mk.inj (decodes_iff.mp hdecode)
  obtain ⟨rfl, rfl⟩ := Prod.mk.inj (decodes_iff.mp hdecode')
  obtain ⟨hcut, rfl⟩ := (cutsInto_iff (by decide)).mp hlines
  obtain ⟨hcut', rfl⟩ := (cutsInto_iff (by decide)).mp hlines'
  refine ⟨⟨by decide, hfit, hcut.trans (by decide +kernel), ?_⟩, by decide, hfit', hcut'.trans (by decide +kernel), ?_⟩
  · rw [← Option.toList_eq_singleton_iff]
    exact (delivers_iff.mp hflush).trans (by decide +kernel)
  · rw [← Option.toList_eq_nil_iff]
    exact (delivers_iff.mp hflush').trans (by decide +kernel)

end Framer

end SampleRecorder.Frame
