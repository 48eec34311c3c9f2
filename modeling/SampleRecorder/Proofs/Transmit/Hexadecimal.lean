import SampleRecorder.Transmit.Encoding

/-!
# Commands in hexadecimal

What the raw encoding accepts, and what it makes of that.  White space aside, a text is accepted exactly if it consists
of hexadecimal digits, except that a plus sign may stand in place of the first digit of a pair (`encode_raw_iff`).
Bytes that are written as digits are read back however the digits are spaced, and a digit that is left over at the end
is a byte of its own (`encode_raw_spelled`).
-/

namespace SampleRecorder.Transmit

/-! ### Digits -/

/-- A character is the hexadecimal digit of a value, in either case. -/
def IsDigitOf (n : Nat) (c : Char) : Prop :=
  n < 16 ∧ (c = n.digitChar ∨ c = n.digitChar.toUpper)

instance (n : Nat) (c : Char) : Decidable (IsDigitOf n c) :=
  inferInstanceAs (Decidable (_ ∧ _))

/-- What holds of each of the sixteen digits in both cases holds of every digit. -/
theorem IsDigitOf.of_forall {P : Nat → Char → Prop} (hlower : ∀ k < 16, P k k.digitChar)
    (hupper : ∀ k < 16, P k k.digitChar.toUpper) {n : Nat} {c : Char} (h : IsDigitOf n c) : P n c := by
  obtain ⟨hn, rfl | rfl⟩ := h
  · exact hlower n hn
  · exact hupper n hn

theorem hexValue?_of_isDigitOf {n : Nat} {c : Char} (h : IsDigitOf n c) : hexValue? c = some n :=
  h.of_forall (P := fun n c => hexValue? c = some n) (by decide) (by decide)

theorem isBlank_of_isDigitOf {n : Nat} {c : Char} (h : IsDigitOf n c) : Text.isBlank c = false :=
  h.of_forall (P := fun _ c => Text.isBlank c = false) (by decide) (by decide)

theorem isSome_hexValue? (c : Char) : (hexValue? c).isSome = c.isHexDigit := by
  have hdigit : c.isHexDigit =
      decide (('0' ≤ c ∧ c ≤ '9') ∨ ('a' ≤ c ∧ c ≤ 'f') ∨ ('A' ≤ c ∧ c ≤ 'F')) := by
    simp [Char.isHexDigit, Char.isDigit, Char.le_def, Bool.or_assoc]
  rw [hdigit, hexValue?]
  by_cases h1 : '0' ≤ c ∧ c ≤ '9'
  · simp only [h1, and_self, ↓reduceIte, Option.isSome_some, true_or, decide_true]
  · by_cases h2 : 'a' ≤ c ∧ c ≤ 'f'
    · simp only [h1, h2, and_self, ↓reduceIte, Option.isSome_some, true_or, or_true, decide_true]
    · by_cases h3 : 'A' ≤ c ∧ c ≤ 'F'
      · simp only [h1, h2, h3, and_self, ↓reduceIte, Option.isSome_some, or_true, decide_true]
      · simp only [h1, h2, h3, ↓reduceIte, Option.isSome_none, or_self, decide_false]

/-! ### Pairs -/

theorem pairValue?_of_isDigitOf {m n : Nat} {a b : Char} (ha : IsDigitOf m a) (hb : IsDigitOf n b) :
    pairValue? a b = some (16 * m + n) := by
  have hne : a ≠ '+' := by
    rintro rfl
    have := hexValue?_of_isDigitOf ha
    rw [show hexValue? '+' = none by decide] at this
    cases this
  rw [pairValue?, if_neg hne, hexValue?_of_isDigitOf ha, hexValue?_of_isDigitOf hb]
  rfl

theorem isSome_pairValue?_iff (a b : Char) :
    (pairValue? a b).isSome ↔ (a.isHexDigit ∨ a = '+') ∧ b.isHexDigit := by
  unfold pairValue?
  rw [← isSome_hexValue? a, ← isSome_hexValue? b]
  split
  · next h => simp [h]
  · next h => cases hexValue? a <;> cases hexValue? b <;> simp [h]

/-- Characters that are read in pairs: hexadecimal digits, and a plus sign in place of the first digit of a pair. -/
def ReadsInPairs (s : List Char) : Prop :=
  ∀ before c after, s = before ++ c :: after → c.isHexDigit ∨ c = '+' ∧ before.length % 2 = 0 ∧ after ≠ []

theorem readsInPairs_nil : ReadsInPairs [] := by
  intro before c after h
  simp at h

theorem readsInPairs_singleton {a : Char} : ReadsInPairs [a] ↔ a.isHexDigit := by
  constructor
  · intro h
    rcases h [] a [] rfl with h | h
    · exact h
    · exact absurd rfl h.2.2
  · intro h before c after hs
    obtain rfl : before = [] := by
      have := congrArg List.length hs
      simp only [List.length_cons, List.length_nil, List.length_append] at this
      exact List.eq_nil_of_length_eq_zero (by omega)
    cases hs
    exact .inl h

theorem readsInPairs_cons_cons {a b : Char} {s : List Char} :
    ReadsInPairs (a :: b :: s) ↔ (a.isHexDigit ∨ a = '+') ∧ b.isHexDigit ∧ ReadsInPairs s := by
  constructor
  · intro h
    refine ⟨(h [] a (b :: s) rfl).imp_right And.left, ?_, ?_⟩
    · rcases h [a] b s rfl with h | h
      · exact h
      · simp at h
    · intro before c after hs
      have := h (a :: b :: before) c after (by rw [hs]; rfl)
      rwa [List.length_cons, List.length_cons, Nat.add_assoc, Nat.add_mod_right] at this
  · rintro ⟨ha, hb, hs⟩ before c after h
    -- the character is the first of the two, the second, or one of those behind them
    rcases before with _ | ⟨x, _ | ⟨y, before⟩⟩
    · cases h
      exact ha.imp_right fun ha => ⟨ha, rfl, List.cons_ne_nil _ _⟩
    · cases h
      exact .inl hb
    · cases h
      have := hs before c after rfl
      rwa [List.length_cons, List.length_cons, Nat.add_assoc, Nat.add_mod_right]

theorem isSome_hexBytes?_iff (s : List Char) : (hexBytes? s).isSome ↔ ReadsInPairs s := by
  induction s using hexBytes?.induct with
  | case1 => simp [hexBytes?, readsInPairs_nil]
  | case2 a => rw [readsInPairs_singleton, ← isSome_hexValue?, hexBytes?, Option.isSome_map]
  | case3 a b s ih =>
    rw [readsInPairs_cons_cons, ← and_assoc, ← isSome_pairValue?_iff, ← ih, hexBytes?]
    cases pairValue? a b <;> simp

/-- Without a plus sign, only digits are read. -/
theorem readsInPairs_plus_free_iff {s : List Char} : ReadsInPairs s ∧ '+' ∉ s ↔ ∀ c ∈ s, c.isHexDigit := by
  constructor
  · rintro ⟨h, hplus⟩ c hc
    obtain ⟨before, after, rfl⟩ := List.append_of_mem hc
    rcases h before c after rfl with h | ⟨rfl, -⟩
    · exact h
    · exact absurd hc hplus
  · intro h
    refine ⟨?_, ?_⟩
    · rintro before c after rfl
      exact .inl (h c (by simp))
    · intro hplus
      exact absurd (h '+' hplus) (by decide)

/-- What a character of a pair counts for: a plus sign for a zero, any other character for itself. -/
def plusAsZero (c : Char) : Char :=
  if c = '+' then '0' else c

theorem isBlank_plusAsZero (c : Char) : Text.isBlank (plusAsZero c) = Text.isBlank c := by
  unfold plusAsZero
  split
  · next h => rw [h]; decide
  · rfl

theorem plusAsZero_of_isHexDigit {c : Char} (h : c.isHexDigit) : plusAsZero c = c := by
  refine if_neg ?_
  rintro rfl
  exact absurd h (by decide)

theorem pairValue?_plusAsZero (a b : Char) : pairValue? (plusAsZero a) b = pairValue? a b := by
  unfold plusAsZero
  split
  · next h =>
    have hzero : hexValue? '0' = some 0 := by decide
    rw [h, pairValue?, if_neg (by decide), pairValue?, if_pos rfl, hzero]
    cases hexValue? b <;> simp
  · rfl

theorem hexBytes?_map_plusAsZero {s : List Char} (h : ReadsInPairs s) :
    hexBytes? (s.map plusAsZero) = hexBytes? s := by
  induction s using hexBytes?.induct with
  | case1 => rfl
  | case2 a => rw [List.map_singleton, plusAsZero_of_isHexDigit (readsInPairs_singleton.mp h)]
  | case3 a b s ih =>
    obtain ⟨-, hb, hs⟩ := readsInPairs_cons_cons.mp h
    rw [List.map_cons, List.map_cons, plusAsZero_of_isHexDigit hb, hexBytes?, pairValue?_plusAsZero, ih hs, hexBytes?]

/-! ### Commands -/

theorem encode_raw_eq_ok_iff {lineEnding text : String} {bytes : List UInt8} :
    encode .raw lineEnding text = .ok bytes ↔
      hexBytes? (text.toList.filter fun c => !Text.isBlank c) = some bytes := by
  simp only [encode]
  cases hexBytes? (text.toList.filter fun c => !Text.isBlank c) <;> simp

theorem encode_raw_eq_error_iff {lineEnding text : String} :
    encode .raw lineEnding text = .error (.notHex text) ↔
      hexBytes? (text.toList.filter fun c => !Text.isBlank c) = none := by
  simp only [encode]
  cases hexBytes? (text.toList.filter fun c => !Text.isBlank c) <;> simp

/-- A text is accepted as bytes exactly if all of it but white space is hexadecimal digits, or a plus sign that the
second digit of its pair follows; any other text is refused as a whole.  Without a plus sign only digits are accepted,
and with one the text counts for what it is with a zero in that place. -/
theorem encode_raw_iff (lineEnding text : String) :
    let visible := text.toList.filter fun c => !Text.isBlank c
    let accepted := ∃ bytes, encode .raw lineEnding text = .ok bytes
    (accepted ↔ ReadsInPairs visible) ∧
      (encode .raw lineEnding text = .error (.notHex text) ↔ ¬ReadsInPairs visible) ∧
      (accepted ∧ '+' ∉ visible ↔ ∀ c ∈ visible, c.isHexDigit) ∧
      ∀ bytes, encode .raw lineEnding text = .ok bytes →
        encode .raw lineEnding (String.ofList (text.toList.map plusAsZero)) = .ok bytes := by
  intro visible accepted
  have haccepted : accepted ↔ ReadsInPairs visible := by
    rw [← isSome_hexBytes?_iff, Option.isSome_iff_exists]
    exact exists_congr fun bytes => encode_raw_eq_ok_iff
  refine ⟨haccepted, ?_, ?_, ?_⟩
  · rw [encode_raw_eq_error_iff, ← isSome_hexBytes?_iff, Option.not_isSome_iff_eq_none]
  · rw [haccepted]
    exact readsInPairs_plus_free_iff
  · intro bytes hbytes
    have hpairs : ReadsInPairs visible := haccepted.mp ⟨bytes, hbytes⟩
    have hvisible : (text.toList.map plusAsZero).filter (fun c => !Text.isBlank c) = visible.map plusAsZero := by
      rw [List.filter_map]
      congr 1
      exact List.filter_congr fun c _ => congrArg (!·) (isBlank_plusAsZero c)
    rw [encode_raw_eq_ok_iff, String.toList_ofList, hvisible, hexBytes?_map_plusAsZero hpairs]
    exact encode_raw_eq_ok_iff.mp hbytes

/-- A plus sign is accepted, although it is no digit. -/
theorem encode_raw_plus :
    ¬∀ lineEnding text : String,
      (∃ bytes, encode .raw lineEnding text = .ok bytes) ↔
        ∀ c ∈ text.toList, Text.isBlank c = false → c.isHexDigit := by
  intro h
  have hplus : ∀ c ∈ "+5".toList, Text.isBlank c = false → c.isHexDigit :=
    (h "" "+5").mp ⟨[5], encode_raw_eq_ok_iff.mpr (by decide)⟩
  exact absurd (hplus '+' (by decide) (by decide)) (by decide)

/-! ### Spellings -/

/-- The texts that bytes are written as: two hexadecimal digits for each, and white space anywhere. -/
inductive Spelled : List UInt8 → List Char → Prop where
  | nil : Spelled [] []
  | blank {bytes c s} : Text.isBlank c = true → Spelled bytes s → Spelled bytes (c :: s)
  | byte {b bytes high gap low s} : IsDigitOf (b.toNat / 16) high → (∀ c ∈ gap, Text.isBlank c = true) →
      IsDigitOf (b.toNat % 16) low → Spelled bytes s → Spelled (b :: bytes) (high :: (gap ++ low :: s))

theorem filter_gap {gap : List Char} (h : ∀ c ∈ gap, Text.isBlank c = true) :
    gap.filter (fun c => !Text.isBlank c) = [] := by
  rw [List.filter_eq_nil_iff]
  intro c hc
  simp [h c hc]

/-- What is written in front of other digits gives its bytes in front of theirs. -/
theorem hexBytes?_spelled {bytes : List UInt8} {s : List Char} (h : Spelled bytes s) (rest : List Char) :
    hexBytes? (s.filter (fun c => !Text.isBlank c) ++ rest) = (hexBytes? rest).map (bytes ++ ·) := by
  induction h with
  | nil => simp
  | blank hc _ ih =>
    rw [List.filter_cons_of_neg (by simp [hc])]
    exact ih
  | @byte b bytes high gap low s hhigh hgap hlow _ ih =>
    rw [List.filter_cons_of_pos (by simp [isBlank_of_isDigitOf hhigh]), List.filter_append, filter_gap hgap,
      List.filter_cons_of_pos (by simp [isBlank_of_isDigitOf hlow])]
    simp only [List.nil_append, List.cons_append]
    have hbyte : UInt8.ofNat (16 * (b.toNat / 16) + b.toNat % 16) = b := by
      rw [Nat.div_add_mod, UInt8.ofNat_toNat]
    rw [hexBytes?, pairValue?_of_isDigitOf hhigh hlow, ih, Option.bind_some, hbyte]
    cases hexBytes? rest <;> rfl

/-- Bytes are read back from any text that they are written as, whatever the line ending; a digit that is left over
behind them, white space aside, is a byte of its own. -/
theorem encode_raw_spelled {bytes : List UInt8} {text : String} (h : Spelled bytes text.toList) (lineEnding : String) :
    encode .raw lineEnding text = .ok bytes ∧
      ∀ (n : Nat) (digit : Char) (gap : List Char), IsDigitOf n digit → (∀ c ∈ gap, Text.isBlank c = true) →
        encode .raw lineEnding (text ++ String.ofList (digit :: gap)) = .ok (bytes ++ [UInt8.ofNat n]) := by
  refine ⟨?_, ?_⟩
  · have hread := hexBytes?_spelled h []
    rw [List.append_nil] at hread
    rw [encode_raw_eq_ok_iff, hread]
    simp [hexBytes?]
  · intro n digit gap hdigit hgap
    have hread := hexBytes?_spelled h [digit]
    rw [encode_raw_eq_ok_iff, String.toList_append, String.toList_ofList, List.filter_append,
      List.filter_cons_of_pos (by simp [isBlank_of_isDigitOf hdigit]), filter_gap hgap, hread, hexBytes?,
      hexValue?_of_isDigitOf hdigit]
    rfl

/-- White space within pairs and between them, digits in both cases, and one digit more. -/
theorem encode_raw_spelled_spaced :
    Spelled [0x0A, 0xFF] " 0\ta\nF\u00a0f".toList ∧
      encode .raw "\r\n" " 0\ta\nF\u00a0f" = .ok [0x0A, 0xFF] ∧
      encode .raw "\r\n" (" 0\ta\nF\u00a0f" ++ "C ") = .ok [0x0A, 0xFF, 0x0C] := by
  have hspelled : Spelled [0x0A, 0xFF] " 0\ta\nF\u00a0f".toList := by
    have htext : " 0\ta\nF\u00a0f".toList = [' ', '0', '\t', 'a', '\n', 'F', '\u00a0', 'f'] := by decide
    have htab : ∀ c ∈ ['\t'], Text.isBlank c = true := by decide
    have hwide : ∀ c ∈ ['\u00a0'], Text.isBlank c = true := by decide
    have hlast : Spelled [0xFF] ['\n', 'F', '\u00a0', 'f'] :=
      .blank (by decide) (.byte (by decide) hwide (by decide) .nil)
    have hfirst : Spelled [0x0A, 0xFF] ('0' :: (['\t'] ++ 'a' :: ['\n', 'F', '\u00a0', 'f'])) :=
      .byte (by decide) htab (by decide) hlast
    rw [htext]
    exact .blank (by decide) hfirst
  obtain ⟨hread, hmore⟩ := encode_raw_spelled hspelled "\r\n"
  exact ⟨hspelled, hread, hmore 12 'C' [' '] (by decide) (by decide)⟩

end SampleRecorder.Transmit
