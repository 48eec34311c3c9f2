import SampleRecorder.Text.Utf8

/-!
# Lossy decoding

What a sequence of bytes amounts to as a whole, said by the encoding of characters alone: bytes that are a character
stand for it, the beginning of one at the end of the sequence is left over, and of all else the longest beginning of a
character, or one byte, is replaced.  The decoder, which takes one byte at a time, does exactly this (`lossy_decode`).
-/

namespace SampleRecorder.Text.Utf8

/-- Whether bytes are the beginning of a character, perhaps all of it. -/
def Begins (bytes : List UInt8) : Prop :=
  ∃ c rest, encodeChar c = bytes ++ rest

/-- Whether bytes are the beginning of a character that is not complete. -/
def Opens (bytes : List UInt8) : Prop :=
  ∃ c rest, rest ≠ [] ∧ encodeChar c = bytes ++ rest

/-- The characters that bytes stand for, and the bytes of a character at their end that is not complete. -/
inductive Lossy : List UInt8 → List Char → List UInt8 → Prop where
  | nil : Lossy [] [] []
  | char (c : Char) {bytes text pending} : Lossy bytes text pending → Lossy (encodeChar c ++ bytes) (c :: text) pending
  | pending {bytes} : bytes ≠ [] → Opens bytes → Lossy bytes [] bytes
  | stray {b bytes text pending} : ¬Begins [b] → Lossy bytes text pending →
      Lossy (b :: bytes) (replacement :: text) pending
  | broken {bad b bytes text pending} : bad ≠ [] → Opens bad → ¬Begins (bad ++ [b]) →
      Lossy (b :: bytes) text pending → Lossy (bad ++ b :: bytes) (replacement :: text) pending

/-! ### Characters and their bytes -/

theorem toNat_valid (c : Char) : c.toNat < 0xD800 ∨ 0xDFFF < c.toNat ∧ c.toNat < 0x110000 :=
  c.valid

theorem toNat_ofNat_of_valid {n : Nat} (h : n < 0xD800 ∨ 0xDFFF < n ∧ n < 0x110000) : (Char.ofNat n).toNat = n := by
  have hv : n.isValidChar := h
  rw [Char.ofNat, dif_pos hv]
  rfl

/-- A character has one, two, three or four bytes. -/
theorem encodeChar_cases (c : Char) :
    (c.toNat < 0x80 ∧ encodeChar c = [UInt8.ofNat c.toNat]) ∨
      (0x80 ≤ c.toNat ∧ c.toNat < 0x800 ∧
        encodeChar c = [UInt8.ofNat (0xC0 + c.toNat / 0x40), UInt8.ofNat (0x80 + c.toNat % 0x40)]) ∨
      (0x800 ≤ c.toNat ∧ c.toNat < 0x10000 ∧
        encodeChar c = [UInt8.ofNat (0xE0 + c.toNat / 0x1000), UInt8.ofNat (0x80 + c.toNat / 0x40 % 0x40),
          UInt8.ofNat (0x80 + c.toNat % 0x40)]) ∨
      (0x10000 ≤ c.toNat ∧
        encodeChar c = [UInt8.ofNat (0xF0 + c.toNat / 0x40000), UInt8.ofNat (0x80 + c.toNat / 0x1000 % 0x40),
          UInt8.ofNat (0x80 + c.toNat / 0x40 % 0x40), UInt8.ofNat (0x80 + c.toNat % 0x40)]) := by
  unfold encodeChar
  dsimp only
  split
  · next h => exact .inl ⟨h, rfl⟩
  · split
    · next h h' => exact .inr (.inl ⟨by omega, h', rfl⟩)
    · split
      · next h h' h'' => exact .inr (.inr (.inl ⟨by omega, h'', rfl⟩))
      · next h h' h'' => exact .inr (.inr (.inr ⟨by omega, rfl⟩))

theorem isTail_iff {b : Nat} : isTail b = true ↔ 0x80 ≤ b ∧ b ≤ 0xBF := by
  simp [isTail]

theorem isSecond_iff {a b : Nat} : isSecond a b = true ↔
    0x80 ≤ b ∧ b ≤ 0xBF ∧ (a = 0xE0 → 0xA0 ≤ b) ∧ (a = 0xED → b ≤ 0x9F) ∧ (a = 0xF0 → 0x90 ≤ b) ∧
      (a = 0xF4 → b ≤ 0x8F) := by
  simp only [isSecond, Bool.and_eq_true, isTail_iff, Bool.or_eq_true, bne_iff_ne, ne_eq, decide_eq_true_eq]
  omega

theorem ofNat_eq_of_toNat {b : UInt8} {n : Nat} (h : n = b.toNat) : UInt8.ofNat n = b := by
  rw [h, UInt8.ofNat_toNat]

/-- Two bytes that are a character. -/
theorem encodeChar_two {a b : UInt8} (ha : 0xC2 ≤ a.toNat) (ha' : a.toNat < 0xE0) (hb : isTail b.toNat) :
    encodeChar (Char.ofNat ((a.toNat - 0xC0) * 0x40 + (b.toNat - 0x80))) = [a, b] := by
  rw [isTail_iff] at hb
  have hn := toNat_ofNat_of_valid (n := (a.toNat - 0xC0) * 0x40 + (b.toNat - 0x80)) (by omega)
  simp only [encodeChar, hn]
  rw [if_neg (by omega), if_pos (by omega), ofNat_eq_of_toNat (b := a) (by omega),
    ofNat_eq_of_toNat (b := b) (by omega)]

/-- Three bytes that are a character. -/
theorem encodeChar_three {a b c : UInt8} (ha : 0xE0 ≤ a.toNat) (ha' : a.toNat < 0xF0)
    (hb : isSecond a.toNat b.toNat) (hc : isTail c.toNat) :
    encodeChar (Char.ofNat ((a.toNat - 0xE0) * 0x1000 + (b.toNat - 0x80) * 0x40 + (c.toNat - 0x80))) = [a, b, c] := by
  rw [isTail_iff] at hc
  rw [isSecond_iff] at hb
  have hn := toNat_ofNat_of_valid (n := (a.toNat - 0xE0) * 0x1000 + (b.toNat - 0x80) * 0x40 + (c.toNat - 0x80))
    (by omega)
  simp only [encodeChar, hn]
  rw [if_neg (by omega), if_neg (by omega), if_pos (by omega), ofNat_eq_of_toNat (b := a) (by omega),
    ofNat_eq_of_toNat (b := b) (by omega), ofNat_eq_of_toNat (b := c) (by omega)]

/-- Four bytes that are a character. -/
theorem encodeChar_four {a b c d : UInt8} (ha : 0xF0 ≤ a.toNat) (ha' : a.toNat ≤ 0xF4)
    (hb : isSecond a.toNat b.toNat) (hc : isTail c.toNat) (hd : isTail d.toNat) :
    encodeChar (Char.ofNat ((a.toNat - 0xF0) * 0x40000 + (b.toNat - 0x80) * 0x1000 + (c.toNat - 0x80) * 0x40 +
      (d.toNat - 0x80))) = [a, b, c, d] := by
  rw [isTail_iff] at hc hd
  rw [isSecond_iff] at hb
  have hn := toNat_ofNat_of_valid (n := (a.toNat - 0xF0) * 0x40000 + (b.toNat - 0x80) * 0x1000 +
    (c.toNat - 0x80) * 0x40 + (d.toNat - 0x80)) (by omega)
  simp only [encodeChar, hn]
  rw [if_neg (by omega), if_neg (by omega), if_neg (by omega), ofNat_eq_of_toNat (b := a) (by omega),
    ofNat_eq_of_toNat (b := b) (by omega), ofNat_eq_of_toNat (b := c) (by omega),
    ofNat_eq_of_toNat (b := d) (by omega)]

/-! ### Beginnings of characters -/

/-- The beginnings of characters that are not complete, by the numbers of their bytes. -/
inductive Lead : List UInt8 → Prop where
  | one {a} : 0xC2 ≤ a.toNat → a.toNat ≤ 0xF4 → Lead [a]
  | two {a b} : 0xE0 ≤ a.toNat → a.toNat ≤ 0xF4 → isSecond a.toNat b.toNat → Lead [a, b]
  | three {a b c} : 0xF0 ≤ a.toNat → a.toNat ≤ 0xF4 → isSecond a.toNat b.toNat → isTail c.toNat → Lead [a, b, c]

/-- The characters, by the numbers of their bytes. -/
inductive Whole : List UInt8 → Prop where
  | one {a} : a.toNat < 0x80 → Whole [a]
  | two {a b} : 0xC2 ≤ a.toNat → a.toNat < 0xE0 → isTail b.toNat → Whole [a, b]
  | three {a b c} : 0xE0 ≤ a.toNat → a.toNat < 0xF0 → isSecond a.toNat b.toNat → isTail c.toNat → Whole [a, b, c]
  | four {a b c d} : 0xF0 ≤ a.toNat → a.toNat ≤ 0xF4 → isSecond a.toNat b.toNat → isTail c.toNat → isTail d.toNat →
      Whole [a, b, c, d]

theorem whole_encodeChar (c : Char) : Whole (encodeChar c) := by
  have hv := toNat_valid c
  rcases encodeChar_cases c with ⟨h, hc⟩ | ⟨h, h', hc⟩ | ⟨h, h', hc⟩ | ⟨h, hc⟩ <;> rw [hc]
  · exact .one (by simp only [UInt8.toNat_ofNat']; omega)
  -- the least character of each length keeps the first byte from being too low
  · refine .two ?_ ?_ ?_ <;> simp only [UInt8.toNat_ofNat', isTail_iff] <;> omega
  · refine .three ?_ ?_ ?_ ?_ <;> simp only [UInt8.toNat_ofNat', isTail_iff, isSecond_iff] <;> omega
  · refine .four ?_ ?_ ?_ ?_ ?_ <;> simp only [UInt8.toNat_ofNat', isTail_iff, isSecond_iff] <;> omega

/-- What stands before the end of a character is the beginning of one. -/
theorem lead_of_whole {p rest : List UInt8} (h : Whole (p ++ rest)) (hp : p ≠ []) (hrest : rest ≠ []) : Lead p := by
  generalize hs : p ++ rest = s at h
  obtain ⟨a, p, rfl⟩ := List.exists_cons_of_ne_nil hp
  obtain ⟨z, rest, rfl⟩ := List.exists_cons_of_ne_nil hrest
  cases h with
  | one ha =>
    have := congrArg List.length hs
    simp at this
  | two ha ha' hb =>
    rcases p with _ | ⟨b, p⟩
    · cases hs
      exact .one ha (by omega)
    · simp at hs
  | three ha ha' hb hc =>
    rcases p with _ | ⟨b, _ | ⟨c, p⟩⟩
    · cases hs
      exact .one (by omega) (by omega)
    · cases hs
      exact .two ha (by omega) hb
    · simp at hs
  | four ha ha' hb hc hd =>
    rcases p with _ | ⟨b, _ | ⟨c, _ | ⟨d, p⟩⟩⟩
    · cases hs
      exact .one (by omega) ha'
    · cases hs
      exact .two (by omega) ha' hb
    · cases hs
      exact .three ha ha' hb hc
    · simp at hs

theorem lead_of_opens {p : List UInt8} (h : Opens p) (hp : p ≠ []) : Lead p := by
  obtain ⟨c, rest, hrest, hc⟩ := h
  exact lead_of_whole (hc ▸ whole_encodeChar c) hp hrest

theorem opens_of_lead {p : List UInt8} (h : Lead p) : Opens p := by
  have htail : isTail (0x80 : UInt8).toNat = true := by decide
  cases h with
  | @one a ha ha' =>
    by_cases h2 : a.toNat < 0xE0
    · exact ⟨_, [0x80], by simp, encodeChar_two ha h2 htail⟩
    · -- the least second byte that is allowed behind `a`
      obtain ⟨b, hb⟩ : ∃ b : UInt8, isSecond a.toNat b.toNat := by
        by_cases he : a.toNat = 0xE0
        · exact ⟨0xA0, by rw [he]; decide⟩
        · by_cases hf : a.toNat = 0xF0
          · exact ⟨0x90, by rw [hf]; decide⟩
          · refine ⟨0x80, ?_⟩
            rw [isSecond_iff]
            simp [he, hf]
      by_cases h3 : a.toNat < 0xF0
      · exact ⟨_, [b, 0x80], by simp, encodeChar_three (by omega) h3 hb htail⟩
      · exact ⟨_, [b, 0x80, 0x80], by simp, encodeChar_four (by omega) ha' hb htail htail⟩
  | @two a b ha ha' hb =>
    by_cases h3 : a.toNat < 0xF0
    · exact ⟨_, [0x80], by simp, encodeChar_three ha h3 hb htail⟩
    · exact ⟨_, [0x80, 0x80], by simp, encodeChar_four (by omega) ha' hb htail htail⟩
  | three ha ha' hb hc => exact ⟨_, [0x80], by simp, encodeChar_four ha ha' hb hc htail⟩

theorem begins_cases {p : List UInt8} (h : Begins p) (hp : p ≠ []) : Whole p ∨ Lead p := by
  obtain ⟨c, rest, hc⟩ := h
  by_cases hrest : rest = []
  · subst hrest
    rw [List.append_nil] at hc
    exact .inl (hc ▸ whole_encodeChar c)
  · exact .inr (lead_of_opens ⟨c, rest, hrest, hc⟩ hp)

/-! ### Classification -/

theorem encodeChar_ascii {a : UInt8} (ha : a.toNat < 0x80) : encodeChar (Char.ofNat a.toNat) = [a] := by
  have hn := toNat_ofNat_of_valid (n := a.toNat) (by omega)
  simp only [encodeChar, hn]
  rw [if_pos ha, UInt8.ofNat_toNat]

/-- What a byte makes of the beginning of a character, or of nothing. -/
theorem classify_append {p : List UInt8} (hp : p = [] ∨ Lead p) (b : UInt8) :
    match classify ((p ++ [b]).map UInt8.toNat) with
    | .char c => encodeChar c = p ++ [b]
    | .incomplete => Lead (p ++ [b])
    | .malformed => ¬Begins (p ++ [b]) := by
  have none_begins {q : List UInt8} (hq : q ≠ []) (hw : ¬Whole q) (hl : ¬Lead q) : ¬Begins q :=
    fun h => (begins_cases h hq).elim hw hl
  rcases hp with rfl | hp
  -- `b` alone is a character, the first byte of one, or neither
  · simp only [List.nil_append, List.map_cons, List.map_nil, classify]
    by_cases h1 : b.toNat < 0x80
    · simpa only [h1, ↓reduceIte] using encodeChar_ascii h1
    · by_cases h2 : 0xC2 ≤ b.toNat ∧ b.toNat ≤ 0xF4
      · simpa [h1, h2] using Lead.one h2.1 h2.2
      · simp only [h1, ↓reduceIte, Bool.and_eq_true, decide_eq_true_eq, h2]
        refine none_begins (by simp) ?_ ?_
        · rintro ⟨⟩
          omega
        · rintro ⟨⟩
          omega
  · cases hp with
    | @one a ha ha' =>
      -- `b` ends a character of two bytes or is the second byte of a longer one
      simp only [List.cons_append, List.nil_append, List.map_cons, List.map_nil, classify]
      by_cases h1 : a.toNat < 0xE0
      · by_cases h2 : isTail b.toNat
        · simpa only [h1, h2, ↓reduceIte] using encodeChar_two ha h1 h2
        · simp only [h1, h2, ↓reduceIte]
          refine none_begins (by simp) ?_ ?_
          · rintro ⟨⟩
            contradiction
          · rintro ⟨⟩
            omega
      · by_cases h2 : isSecond a.toNat b.toNat
        · simpa only [h1, h2, ↓reduceIte] using Lead.two (by omega) ha' h2
        · simp only [h1, h2, ↓reduceIte]
          refine none_begins (by simp) ?_ ?_
          · rintro ⟨⟩
            omega
          · rintro ⟨⟩
            contradiction
    | @two a a₂ ha ha' h2 =>
      simp only [List.cons_append, List.nil_append, List.map_cons, List.map_nil, classify]
      by_cases h1 : a.toNat < 0xF0
      · by_cases h3 : isTail b.toNat
        · simpa only [h1, h3, ↓reduceIte] using encodeChar_three ha h1 h2 h3
        · simp only [h1, h3, ↓reduceIte]
          refine none_begins (by simp) ?_ ?_
          · rintro ⟨⟩
            contradiction
          · rintro ⟨⟩
            omega
      · by_cases h3 : isTail b.toNat
        · simpa only [h1, h3, ↓reduceIte] using Lead.three (by omega) ha' h2 h3
        · simp only [h1, h3, ↓reduceIte]
          refine none_begins (by simp) ?_ ?_
          · rintro ⟨⟩
            omega
          · rintro ⟨⟩
            contradiction
    | @three a a₂ a₃ ha ha' h2 h3 =>
      simp only [List.cons_append, List.nil_append, List.map_cons, List.map_nil, classify]
      by_cases h4 : isTail b.toNat
      · simpa only [h4, ↓reduceIte] using encodeChar_four ha ha' h2 h3 h4
      · simp only [h4]
        refine none_begins (by simp) ?_ nofun
        rintro ⟨⟩
        contradiction

/-! ### The decoder -/

theorem decode_nil (pending : List UInt8) : decode pending [] = ([], pending) := rfl

/-- Decoding goes on with what the first byte has left. -/
theorem decode_cons (pending : List UInt8) (b : UInt8) (bytes : List UInt8) :
    decode pending (b :: bytes) =
      ((Decoder.push ⟨[], pending⟩ b).decoded.reverse ++ (decode (Decoder.push ⟨[], pending⟩ b).pending bytes).1,
        (decode (Decoder.push ⟨[], pending⟩ b).pending bytes).2) := by
  have h := decode_append pending [b] bytes
  rw [List.singleton_append] at h
  rw [h]
  rfl

/-- A byte that the beginning of a character cannot go on with ends it and is taken anew. -/
theorem decode_cons_of_malformed {p : List UInt8} (hp : p ≠ []) {b : UInt8}
    (h : classify ((p ++ [b]).map UInt8.toNat) = .malformed) (bytes : List UInt8) :
    decode p (b :: bytes) = (replacement :: (decode [] (b :: bytes)).1, (decode [] (b :: bytes)).2) := by
  rw [decode_cons, decode_cons [] b]
  simp only [Decoder.push, hp, ↓reduceIte, h]
  unfold Decoder.start
  cases classify [b.toNat] <;> rfl

/-- Bytes behind the beginning of a character, or behind nothing, are decoded as the whole sequence asks for. -/
theorem lossy_decode_append {p : List UInt8} (hp : p = [] ∨ Lead p) (bytes : List UInt8) :
    Lossy (p ++ bytes) (decode p bytes).1 (decode p bytes).2 := by
  induction bytes generalizing p with
  | nil =>
    rw [List.append_nil, decode_nil]
    rcases hp with rfl | hp
    · exact .nil
    · exact .pending (by rintro rfl; cases hp) (opens_of_lead hp)
  | cons b bytes ih =>
    -- the first byte behind nothing, which the other case falls back on
    have fresh : Lossy (b :: bytes) (decode [] (b :: bytes)).1 (decode [] (b :: bytes)).2 := by
      have hb := classify_append (.inl rfl) b
      rw [decode_cons]
      simp only [Decoder.push, ↓reduceIte, Decoder.start]
      simp only [List.nil_append, List.map_cons, List.map_nil] at hb
      cases hc : classify [b.toNat] with
      | char c =>
        rw [hc] at hb
        have := Lossy.char c (ih (.inl rfl))
        rwa [hb] at this
      | incomplete =>
        rw [hc] at hb
        exact ih (.inr hb)
      | malformed =>
        rw [hc] at hb
        exact .stray hb (ih (.inl rfl))
    rcases hp with rfl | hp
    · exact fresh
    · have hne : p ≠ [] := by
        rintro rfl
        cases hp
      have hb := classify_append (.inr hp) b
      cases hc : classify ((p ++ [b]).map UInt8.toNat) with
      | char c =>
        rw [hc] at hb
        have := Lossy.char c (ih (.inl rfl))
        rw [hb, List.append_assoc] at this
        rw [decode_cons]
        simp only [Decoder.push, hne, ↓reduceIte, hc]
        exact this
      | incomplete =>
        rw [hc] at hb
        have := ih (.inr hb)
        rw [List.append_assoc] at this
        rw [decode_cons]
        simp only [Decoder.push, hne, ↓reduceIte, hc]
        exact this
      | malformed =>
        rw [hc] at hb
        rw [decode_cons_of_malformed hne hc]
        exact .broken hne (opens_of_lead hp) hb fresh

/-- Decoding a whole sequence byte by byte gives what the sequence amounts to. -/
theorem lossy_decode (bytes : List UInt8) : Lossy bytes (decode [] bytes).1 (decode [] bytes).2 :=
  lossy_decode_append (.inl rfl) bytes

end SampleRecorder.Text.Utf8
