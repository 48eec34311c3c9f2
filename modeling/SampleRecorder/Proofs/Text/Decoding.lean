import SampleRecorder.Proofs.Text.Lossy

/-!
# What the decoder gives

Bytes amount to one text alone.  The decoder leaves over the beginning of a character and nothing else
(`opens_decode`), completes a character with the last of its bytes (`decode_encodeChar`), and whatever a sequence of
bytes may be read as is what the decoder makes of it (`lossy_iff`).
-/

namespace SampleRecorder.Text.Utf8

/-! ### Beginnings of characters -/

theorem opens_nil : Opens [] :=
  ⟨'a', encodeChar 'a', by decide, rfl⟩

theorem eq_nil_or_lead {p : List UInt8} (h : Opens p) : p = [] ∨ Lead p := by
  by_cases hp : p = []
  · exact .inl hp
  · exact .inr (lead_of_opens h hp)

theorem length_le_of_opens {p : List UInt8} (h : Opens p) : p.length ≤ 3 := by
  obtain rfl | hp := eq_nil_or_lead h
  · simp
  · cases hp <;> simp

/-- What decoding leaves over at the end is the beginning of a character, or nothing. -/
theorem opens_of_lossy {bytes pending : List UInt8} {text : List Char} (h : Lossy bytes text pending) :
    Opens pending := by
  induction h with
  | nil => exact opens_nil
  | char c _ ih => exact ih
  | pending _ hopens => exact hopens
  | stray _ _ ih => exact ih
  | broken _ _ _ _ ih => exact ih

theorem opens_decode {p : List UInt8} (h : Opens p) (bytes : List UInt8) : Opens (decode p bytes).2 :=
  opens_of_lossy (lossy_decode_append (eq_nil_or_lead h) bytes)

/-! ### One character -/

/-- All the bytes of a character are classified as this character. -/
theorem classify_encodeChar (c : Char) : classify ((encodeChar c).map UInt8.toNat) = .char c := by
  have hv := toNat_valid c
  have hback {n : Nat} (h : n = c.toNat) : Char.ofNat n = c := by rw [h, Char.ofNat_toNat]
  rcases encodeChar_cases c with ⟨h, hc⟩ | ⟨h, h', hc⟩ | ⟨h, h', hc⟩ | ⟨h, hc⟩ <;>
    rw [hc] <;> simp only [List.map_cons, List.map_nil, UInt8.toNat_ofNat', classify]
  · rw [if_pos (by omega), hback (by omega)]
  · rw [if_pos (by omega), if_pos (isTail_iff.mpr (by omega)), hback (by omega)]
  · rw [if_pos (by omega), if_pos (isTail_iff.mpr (by omega)), hback (by omega)]
  · rw [if_pos (isTail_iff.mpr (by omega)), hback (by omega)]

theorem not_whole_of_lead {p : List UInt8} (h : Lead p) : ¬Whole p := by
  intro hw
  cases h <;> cases hw <;> omega

/-- One more byte of a character that is not complete with it. -/
theorem classify_of_lead {p : List UInt8} (hp : p = [] ∨ Lead p) {b : UInt8} (h : Lead (p ++ [b])) :
    classify ((p ++ [b]).map UInt8.toNat) = .incomplete := by
  have hb := classify_append hp b
  cases hc : classify ((p ++ [b]).map UInt8.toNat) with
  | char c =>
    rw [hc] at hb
    exact absurd (hb ▸ whole_encodeChar c) (not_whole_of_lead h)
  | incomplete => rfl
  | malformed =>
    rw [hc] at hb
    obtain ⟨c, rest, -, hrest⟩ := opens_of_lead h
    exact absurd ⟨c, rest, hrest⟩ hb

theorem decode_cons_of_char {p : List UInt8} {b : UInt8} {c : Char}
    (h : classify ((p ++ [b]).map UInt8.toNat) = .char c) (bytes : List UInt8) :
    decode p (b :: bytes) = (c :: (decode [] bytes).1, (decode [] bytes).2) := by
  have hpush : Decoder.push ⟨[], p⟩ b = ⟨[c], []⟩ := by
    by_cases hp : p = []
    · subst hp
      simp only [List.nil_append, List.map_cons, List.map_nil] at h
      simp [Decoder.push, Decoder.start, h]
    · simp only [Decoder.push, hp, ↓reduceIte, h]
  rw [decode_cons, hpush]
  rfl

theorem decode_cons_of_incomplete {p : List UInt8} {b : UInt8}
    (h : classify ((p ++ [b]).map UInt8.toNat) = .incomplete) (bytes : List UInt8) :
    decode p (b :: bytes) = decode (p ++ [b]) bytes := by
  have hpush : Decoder.push ⟨[], p⟩ b = ⟨[], p ++ [b]⟩ := by
    by_cases hp : p = []
    · subst hp
      simp only [List.nil_append, List.map_cons, List.map_nil] at h
      simp [Decoder.push, Decoder.start, h]
    · simp only [Decoder.push, hp, ↓reduceIte, h]
  rw [decode_cons, hpush]
  rfl

/-- The rest of a character completes it, behind what is pending of it. -/
theorem decode_rest_of_char {p rest : List UInt8} {c : Char} (hp : p = [] ∨ Lead p) (hrest : rest ≠ [])
    (h : p ++ rest = encodeChar c) : decode p rest = ([c], []) := by
  induction rest generalizing p with
  | nil => exact absurd rfl hrest
  | cons b rest ih =>
    by_cases hlast : rest = []
    · subst hlast
      rw [decode_cons_of_char (h ▸ classify_encodeChar c)]
      rfl
    -- the bytes up to `b` begin a character that goes on behind them
    · have hsplit : (p ++ [b]) ++ rest = encodeChar c := by rw [← h, List.append_assoc, List.singleton_append]
      have hlead : Lead (p ++ [b]) := lead_of_whole (hsplit ▸ whole_encodeChar c) (by simp) hlast
      rw [decode_cons_of_incomplete (classify_of_lead hp hlead)]
      exact ih (.inr hlead) hlast hsplit

theorem decode_encodeChar (c : Char) : decode [] (encodeChar c) = ([c], []) := by
  refine decode_rest_of_char (.inl rfl) ?_ rfl
  intro hempty
  have hwhole := whole_encodeChar c
  rw [hempty] at hwhole
  cases hwhole

/-- Every text comes back from its bytes, and none of them is left over. -/
theorem decode_encode (s : List Char) : decode [] (encode s) = (s, []) := by
  induction s with
  | nil => rfl
  | cons c s ih =>
    have hbytes : encode (c :: s) = encodeChar c ++ encode s := List.flatMap_cons
    rw [hbytes, decode_append, decode_encodeChar, ih]
    rfl

/-! ### Sequences of bytes -/

theorem begins_of_opens {p : List UInt8} (h : Opens p) : Begins p := by
  obtain ⟨c, rest, -, hrest⟩ := h
  exact ⟨c, rest, hrest⟩

/-- A byte that cannot go on with the beginning of a character is malformed behind it. -/
theorem classify_of_not_begins {p : List UInt8} (hp : p = [] ∨ Lead p) {b : UInt8} (h : ¬Begins (p ++ [b])) :
    classify ((p ++ [b]).map UInt8.toNat) = .malformed := by
  have hb := classify_append hp b
  cases hc : classify ((p ++ [b]).map UInt8.toNat) with
  | char c =>
    rw [hc] at hb
    exact absurd ⟨c, [], by rw [List.append_nil]; exact hb⟩ h
  | incomplete =>
    rw [hc] at hb
    exact absurd (begins_of_opens (opens_of_lead hb)) h
  | malformed => rfl

/-- The beginning of a character is kept back whole. -/
theorem decode_rest_of_opens {p rest : List UInt8} (hp : p = [] ∨ Lead p) (h : Opens (p ++ rest)) :
    decode p rest = ([], p ++ rest) := by
  induction rest generalizing p with
  | nil => rw [decode_nil, List.append_nil]
  | cons b rest ih =>
    have hsplit : p ++ b :: rest = (p ++ [b]) ++ rest := by rw [List.append_assoc, List.singleton_append]
    obtain ⟨c, more, hmore, hc⟩ := h
    have hlead : Lead (p ++ [b]) :=
      lead_of_opens ⟨c, rest ++ more, by simp [hmore], by rw [hc, hsplit, List.append_assoc]⟩ (by simp)
    rw [decode_cons_of_incomplete (classify_of_lead hp hlead), hsplit]
    exact ih (.inr hlead) ⟨c, more, hmore, by rw [hc, hsplit]⟩

theorem decode_of_lossy {bytes pending : List UInt8} {text : List Char} (h : Lossy bytes text pending) :
    decode [] bytes = (text, pending) := by
  induction h with
  | nil => rfl
  | char c _ ih => rw [decode_append, decode_encodeChar, ih, List.singleton_append]
  | pending _ hopens => exact decode_rest_of_opens (.inl rfl) hopens
  | @stray b bytes text pending hb _ ih =>
    have hc := classify_of_not_begins (.inl rfl) hb
    simp only [List.nil_append, List.map_cons, List.map_nil] at hc
    rw [decode_cons]
    simp only [Decoder.push, Decoder.start, ↓reduceIte, hc, ih, List.reverse_singleton, List.singleton_append]
  | @broken bad b bytes text pending hne hopens hb _ ih =>
    have hlead := lead_of_opens hopens hne
    have hbad : decode [] bad = ([], bad) := decode_rest_of_opens (.inl rfl) hopens
    rw [decode_append, hbad, decode_cons_of_malformed hne (classify_of_not_begins (.inr hlead) hb), ih]
    rfl

/-- A sequence of bytes amounts to what the decoder makes of it, and to nothing else. -/
theorem lossy_iff {bytes pending : List UInt8} {text : List Char} :
    Lossy bytes text pending ↔ decode [] bytes = (text, pending) := by
  refine ⟨decode_of_lossy, fun h => ?_⟩
  have hlossy := lossy_decode bytes
  rwa [h] at hlossy

end SampleRecorder.Text.Utf8
