import SampleRecorder.Json.Basic
import SampleRecorder.Proofs.Number.Digits

/-!
# JSON on one line

The text of a JSON value without blanks has no line feed in it, whatever texts are in the value (`lineFeed_not_mem_compact`):
in strings and keys a line feed is escaped, and numbers and names are written without one.
-/

namespace SampleRecorder

/-! ### Numbers -/

namespace Number

theorem lineFeed_not_mem_digitsOf (n : Nat) : '\n' ∉ digitsOf n := by
  intro hmem
  have hdigit := isDigit_of_mem_digitsOf hmem
  revert hdigit
  decide

theorem lineFeed_not_mem_ofInt (n : Int) : '\n' ∉ ofInt n := by
  have hdigits := lineFeed_not_mem_digitsOf n.natAbs
  unfold ofInt
  split
  · simp [hdigits]
  · exact hdigits

theorem lineFeed_not_mem_signed {s : List Char} (h : '\n' ∉ s) (negative : Bool) : '\n' ∉ signed negative s := by
  cases negative with
  | true => simp [signed, h]
  | false => exact h

theorem Decimal.lineFeed_not_mem_positional (d : Decimal) : '\n' ∉ d.positional := by
  have hdigits := lineFeed_not_mem_digitsOf d.digits
  have htake (k : Nat) : '\n' ∉ (digitsOf d.digits).take k := fun hmem => hdigits (List.mem_of_mem_take hmem)
  have hdrop (k : Nat) : '\n' ∉ (digitsOf d.digits).drop k := fun hmem => hdigits (List.mem_of_mem_drop hmem)
  unfold positional
  dsimp only
  split
  · simp [hdigits]
  · split
    · simp [htake, hdrop]
    · simp [hdigits]

theorem Decimal.lineFeed_not_mem_scientific (d : Decimal) : '\n' ∉ d.scientific := by
  have hdigits := lineFeed_not_mem_digitsOf d.digits
  have htake : '\n' ∉ (digitsOf d.digits).take 1 := fun hmem => hdigits (List.mem_of_mem_take hmem)
  have hfraction : '\n' ∉ if (digitsOf d.digits).length = 1 then [] else '.' :: (digitsOf d.digits).drop 1 := by
    split
    · exact List.not_mem_nil
    · have hdrop : '\n' ∉ (digitsOf d.digits).drop 1 := fun hmem => hdigits (List.mem_of_mem_drop hmem)
      simpa using hdrop
  have hsign (power : Int) : '\n' ≠ if power < 0 then '-' else '+' := by
    split <;> decide
  unfold scientific
  dsimp only
  simp only [List.mem_append, List.mem_cons, not_or]
  exact ⟨⟨htake, hfraction⟩, by decide, hsign _, lineFeed_not_mem_digitsOf _⟩

theorem lineFeed_not_mem_json (x : Float) : '\n' ∉ json x := by
  unfold json
  split
  · next negative mantissa exponent _ =>
    split
    · exact lineFeed_not_mem_signed (by decide) negative
    · refine lineFeed_not_mem_signed ?_ negative
      have hpositional := (shortest .even mantissa exponent).lineFeed_not_mem_positional
      unfold Decimal.json
      dsimp only
      split
      · split
        · simp [hpositional]
        · exact hpositional
      · exact Decimal.lineFeed_not_mem_scientific _
  · decide

end Number

/-! ### Strings -/

namespace Json

theorem lineFeed_not_mem_escape (c : Char) : '\n' ∉ escape c := by
  have hhex : ∀ n < 16, '\n' ≠ hexDigit n := by decide
  unfold escape
  split
  · decide
  split
  · decide
  split
  · decide
  split
  · decide
  split
  · decide
  split
  · decide
  split
  · decide
  split
  · simp [hhex (c.toNat / 16) (by omega), hhex (c.toNat % 16) (by omega)]
  · next hline _ _ _ _ _ => exact fun hmem => hline (List.mem_singleton.mp hmem).symm

theorem lineFeed_not_mem_quote (s : List Char) : '\n' ∉ quote s := by
  simp [quote, lineFeed_not_mem_escape]

/-! ### Values -/

mutual

/-- A JSON text without blanks is one line. -/
theorem lineFeed_not_mem_compact (j : Json) : '\n' ∉ j.compact := by
  match j with
  | .null =>
    rw [compact]
    decide
  | .bool b =>
    rw [compact]
    cases b <;> decide
  | .int n =>
    rw [compact]
    exact Number.lineFeed_not_mem_ofInt n
  | .float x =>
    rw [compact]
    exact Number.lineFeed_not_mem_json x
  | .str s =>
    rw [compact]
    exact lineFeed_not_mem_quote s.toList
  | .arr items =>
    have hitems := lineFeed_not_mem_compactItems items
    simp [compact, hitems]
  | .obj members =>
    have hmembers := lineFeed_not_mem_compactMembers members
    simp [compact, hmembers]

theorem lineFeed_not_mem_compactItems (items : List Json) : '\n' ∉ compactItems items := by
  match items with
  | [] => exact List.not_mem_nil
  | [a] =>
    rw [compactItems]
    exact lineFeed_not_mem_compact a
  | a :: b :: rest =>
    have ha := lineFeed_not_mem_compact a
    have hrest := lineFeed_not_mem_compactItems (b :: rest)
    simp [compactItems, ha, hrest]

theorem lineFeed_not_mem_compactMembers (members : List (String × Json)) : '\n' ∉ compactMembers members := by
  match members with
  | [] => exact List.not_mem_nil
  | [(k, v)] =>
    have hkey := lineFeed_not_mem_quote k.toList
    have hv := lineFeed_not_mem_compact v
    simp [compactMembers, hkey, hv]
  | (k, v) :: b :: rest =>
    have hkey := lineFeed_not_mem_quote k.toList
    have hv := lineFeed_not_mem_compact v
    have hrest := lineFeed_not_mem_compactMembers (b :: rest)
    simp [compactMembers, hkey, hv, hrest]

end

end Json

end SampleRecorder
