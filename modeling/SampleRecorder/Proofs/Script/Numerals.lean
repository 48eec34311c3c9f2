import SampleRecorder.Proofs.Number.Decimal
import SampleRecorder.Proofs.Postcondition
import SampleRecorder.Script.Token

/-!
# Numbers in program texts

A number in a program text is cut out by its characters: digits, a point with digits behind it, an exponent.  Reading the
number is left to the text that is cut out, and that may fail.  The key fact is that it does not (`isSome_number?`): the
text is made up of parts (`numberText_parts`) that the grammar of numbers accepts (`numeral?_parts`, `isSome_float?`).
-/

namespace SampleRecorder.Number

open Text (Stops stops_nil stops_cons takeWhile_run dropWhile_run)

/-- Whether a text is nothing but digits. -/
def AllDigits (s : List Char) : Prop :=
  ∀ c ∈ s, c.isDigit = true

theorem allDigits_takeWhile (s : List Char) : AllDigits (s.takeWhile Char.isDigit) :=
  fun _ hc => List.mem_takeWhile_imp hc

/-- What may stand behind the first digits of a number: nothing, or a point with any number of digits. -/
inductive IsFraction : List Char → Prop
  | none : IsFraction []
  | point {ds : List Char} (hds : AllDigits ds) : IsFraction ('.' :: ds)

/-- What may end a number: nothing, or a letter with a sign, or none, and at least one digit. -/
inductive IsExponent : List Char → Prop
  | none : IsExponent []
  | digits {e : Char} {sign ds : List Char} (he : e = 'e' ∨ e = 'E') (hsign : sign = [] ∨ sign = ['+'] ∨ sign = ['-'])
    (hne : ds ≠ []) (hds : AllDigits ds) : IsExponent (e :: (sign ++ ds))

/-- What is read as a number: at least one digit stands in front of the exponent. -/
structure IsNumeral (whole fraction exponent : List Char) : Prop where
  allDigits : AllDigits whole
  isFraction : IsFraction fraction
  isExponent : IsExponent exponent
  digit : whole ≠ [] ∨ ∃ c ds, fraction = '.' :: c :: ds

section Parts

variable {whole fraction exponent : List Char}

theorem IsExponent.stops (h : IsExponent exponent) : Stops Char.isDigit exponent := by
  cases h with
  | none => exact stops_nil
  | digits he =>
    rw [stops_cons]
    rcases he with rfl | rfl <;> rfl

theorem IsFraction.stops (h : IsFraction fraction) (hexponent : IsExponent exponent) :
    Stops Char.isDigit (fraction ++ exponent) := by
  cases h with
  | none => exact hexponent.stops
  | point => exact stops_cons.mpr rfl

/-- Digits behind a sign are what is left when the sign is taken. -/
theorem takeSign_append {sign ds : List Char} (hsign : sign = [] ∨ sign = ['+'] ∨ sign = ['-']) (hne : ds ≠ [])
    (hds : AllDigits ds) : (takeSign (sign ++ ds)).2 = ds := by
  rcases hsign with rfl | rfl | rfl
  · cases ds with
    | nil => exact absurd rfl hne
    | cons c ds =>
      rw [List.nil_append, takeSign_digit (hds c List.mem_cons_self)]
  · rfl
  · rfl

theorem IsExponent.isSome (h : IsExponent exponent) : (exponent? exponent).isSome = true := by
  cases h with
  | none => rfl
  | @digits e sign ds he hsign hne hds =>
    have hletter : (e = 'e' || e = 'E') = true := by simpa using he
    have hdigits : ¬(ds.isEmpty || ds.any (!·.isDigit)) = true := by simpa using ⟨hne, hds⟩
    simp only [exponent?]
    rw [if_pos hletter, takeSign_append hsign hne hds, if_neg hdigits]
    rfl

/-- The exponent of a number moves the point behind its digits. -/
theorem numeral?_parts (h : IsNumeral whole fraction exponent) :
    numeral? (whole ++ (fraction ++ exponent)) =
      (exponent? exponent).map fun e => ⟨ofDigits (whole ++ fraction.tail), e - fraction.tail.length⟩ := by
  obtain ⟨hwhole, hfraction, hexponent, hdigit⟩ := h
  have hstops := hfraction.stops hexponent
  simp only [numeral?, takeWhile_run hwhole hstops, dropWhile_run hwhole hstops]
  cases hfraction with
  | none =>
    have hne : whole ≠ [] := by
      rcases hdigit with hne | ⟨c, ds, heq⟩
      · exact hne
      · cases heq
    cases hexponent with
    | none => simp [hne]
    | digits he => rcases he with rfl | rfl <;> simp [hne]
  | @point ds hds =>
    have hne : ¬(whole.isEmpty && ds.isEmpty) = true := by
      rw [Bool.and_eq_true, List.isEmpty_iff, List.isEmpty_iff]
      rintro ⟨hnone, rfl⟩
      rcases hdigit with hne | ⟨c, ds, heq⟩
      · exact hne hnone
      · cases heq
    simp only [List.cons_append, takeWhile_run hds hexponent.stops, dropWhile_run hds hexponent.stops, List.tail_cons]
    rw [if_neg hne]

theorem takeSign_numeral (h : IsNumeral whole fraction exponent) :
    takeSign (whole ++ (fraction ++ exponent)) = (false, whole ++ (fraction ++ exponent)) := by
  obtain ⟨hwhole, -, -, hdigit⟩ := h
  cases whole with
  | nil =>
    obtain ⟨c, ds, rfl⟩ := hdigit.resolve_left fun hne => hne rfl
    rfl
  | cons c whole => exact takeSign_digit (hwhole c List.mem_cons_self) _

/-- A text with the parts of a number is read as one. -/
theorem isSome_float? (h : IsNumeral whole fraction exponent) :
    (float? (whole ++ (fraction ++ exponent))).isSome = true := by
  have hsome : (numeral? (whole ++ (fraction ++ exponent))).isSome = true := by
    rw [numeral?_parts h, Option.isSome_map, h.isExponent.isSome]
  simp only [float?, takeSign_numeral h, Option.isSome_map, unsigned?]
  split
  · rfl
  · split
    · rfl
    · rw [Option.isSome_map, hsome]

end Parts

end SampleRecorder.Number

namespace SampleRecorder.Script

/-- Whether a text is refused for its characters, and not for what they spell. -/
def Reason.IsOfScan : Reason → Prop
  | .lonelySign _ | .unterminatedString | .unexpectedCharacter _ => True
  | _ => False

namespace Token

open Number (AllDigits IsExponent IsFraction IsNumeral allDigits_takeWhile)

theorem isExponent_exponentPart (s : List Char) : IsExponent (exponentPart s) := by
  cases s with
  | nil => exact .none
  | cons e r =>
    rw [exponentPart]
    split
    · next he =>
      have hletter : e = 'e' ∨ e = 'E' := by simpa using he
      extract_lets sign digits
      split
      · exact .none
      · next hne =>
        refine .digits hletter ?_ (mt List.isEmpty_iff.mpr hne) (allDigits_takeWhile _)
        unfold sign
        cases r with
        | nil => exact .inl rfl
        | cons c r =>
          split
          · next hsign =>
            have hc : c = '+' ∨ c = '-' := by simpa using hsign
            exact .inr (hc.imp (fun heq => by rw [heq]; rfl) fun heq => by rw [heq]; rfl)
          · exact .inl rfl
    · exact .none

/-- The text of a number is cut out in its parts, where a digit stands first or behind a point. -/
theorem numberText_parts {c : Char} {s : List Char} (h : c.isDigit = true ∨ c = '.' ∧ startsDigit s = true) :
    ∃ whole fraction exponent, IsNumeral whole fraction exponent ∧
      (numberText (c :: s)).1 = whole ++ (fraction ++ exponent) := by
  unfold numberText
  extract_lets whole rest fraction exponent
  refine ⟨whole, fraction, exponent, ⟨allDigits_takeWhile _, ?_, isExponent_exponentPart _, ?_⟩, List.append_assoc ..⟩
  · unfold fraction
    clear_value rest
    split
    · exact .point (allDigits_takeWhile _)
    · exact .none
  · rcases h with hdigit | ⟨rfl, hdigit⟩
    · left
      unfold whole
      rw [List.takeWhile_cons_of_pos hdigit]
      exact List.cons_ne_nil _ _
    · right
      obtain ⟨d, s, rfl⟩ : ∃ d r, s = d :: r := by
        cases s with
        | nil => cases hdigit
        | cons d r => exact ⟨d, r, rfl⟩
      have hd : d.isDigit = true := hdigit
      have hfraction : fraction = '.' :: (d :: s).takeWhile Char.isDigit := rfl
      rw [List.takeWhile_cons_of_pos hd] at hfraction
      exact ⟨d, _, hfraction⟩

/-- Whatever is cut out as a number is one. -/
theorem isSome_number? {c : Char} {s : List Char} (h : c.isDigit = true ∨ c = '.' ∧ startsDigit s = true)
    (isFloat : Bool) : (number? (numberText (c :: s)).1 isFloat).isSome = true := by
  obtain ⟨whole, fraction, exponent, hparts, htext⟩ := numberText_parts h
  rw [htext, number?]
  split
  · rfl
  · rw [Option.isSome_map, Number.isSome_float? hparts]

/-- What is cut out as a number is never refused. -/
theorem ensures_lexeme (c : Char) (s : List Char) : Ensures (lexeme c s) (fun _ => True) Reason.IsOfScan := by
  refine ⟨fun _ _ => trivial, fun reason h => ?_⟩
  unfold lexeme at h
  split at h
  · cases h
  · split at h
    · split at h <;> cases h
    · split at h
      · split at h
        · split at h <;> cases h
          trivial
        · cases h
          trivial
      · split at h
        · split at h <;> cases h
          trivial
        · split at h
          · next hdigit =>
            have hsome := @isSome_number? c s (by simpa using hdigit) (numberText (c :: s)).2
            dsimp only at h
            split at h
            · cases h
            · next hnone =>
              rw [hnone] at hsome
              cases hsome
          · split at h <;> cases h
            trivial

end Token

end SampleRecorder.Script
