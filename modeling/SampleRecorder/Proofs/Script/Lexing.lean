import SampleRecorder.Proofs.Text.Run
import SampleRecorder.Script.Token

/-!
# How a program text is cut into tokens

A program text is a row of pieces: what is skipped in front of a token, the text of the token, and so on, with a last
part that is skipped (`Cuts`).  A text that scanning accepts is cut in this way (`exists_cuts`).  Scanning a text that is
cut gives the symbols of the pieces, in order, and the place of each depends on nothing but the text in front of it
(`scan_of_cuts`).  Inside a string a line feed counts as a character of its line.
-/

namespace SampleRecorder.Script

open Text

/-! ### Places -/

/-- The place behind a text: its line feeds are counted, and the characters behind the last of them. -/
def Position.behind (before : List Char) : Position :=
  ⟨before.count '\n' + 1, (before.reverse.takeWhile (· != '\n')).length + 1⟩

theorem Position.behind_lineFeed (before : List Char) :
    Position.behind (before ++ ['\n']) = ⟨(Position.behind before).line + 1, 1⟩ := by
  simp [Position.behind]

/-- Without a line feed only the column moves on. -/
theorem Position.behind_append {s : List Char} (h : '\n' ∉ s) (before : List Char) :
    Position.behind (before ++ s) = ⟨(Position.behind before).line, (Position.behind before).column + s.length⟩ := by
  have hrun : ∀ c ∈ s.reverse, (c != '\n') = true := by
    intro c hc
    rw [List.mem_reverse] at hc
    exact bne_iff_ne.mpr fun heq => h (heq ▸ hc)
  rw [behind, behind, List.count_append, List.count_eq_zero.mpr h, List.reverse_append,
    List.takeWhile_append_of_pos hrun, List.length_append, List.length_reverse]
  simp only [Nat.add_zero]
  congr 1
  omega

namespace Token

/-! ### Pieces -/

/-- Texts that are skipped with `depth` brackets open, in front of another text. -/
inductive IsGap (depth : Nat) (after : List Char) : List Char → Prop
  | nil : IsGap depth after []
  | blank {c : Char} {gap : List Char} (hc : isBlank c = true) (hline : c = '\n' → depth ≠ 0)
    (h : IsGap depth after gap) : IsGap depth after (c :: gap)
  | comment {body gap : List Char} (hbody : '\n' ∉ body) (hend : Stops (· != '\n') (gap ++ after))
    (h : IsGap depth after gap) : IsGap depth after ('#' :: (body ++ gap))

/-- Texts that are tokens with `depth` brackets open, in front of another text. -/
inductive IsToken (depth : Nat) (rest : List Char) : List Char → Symbol → Prop
  | lineFeed (hdepth : depth = 0) : IsToken depth rest ['\n'] .separator
  | lexeme {c : Char} {s : List Char} {symbol : Symbol} (hblank : isBlank c = false) (hcomment : c ≠ '#')
    (h : lexeme c (s ++ rest) = .ok (symbol, s.length, rest)) : IsToken depth rest (c :: s) symbol

theorem IsToken.length_pos {depth : Nat} {text rest : List Char} {symbol : Symbol} (h : IsToken depth rest text symbol) :
    0 < text.length := by
  cases h <;> exact Nat.succ_pos _

/-- A part of a program text: what is skipped, and a token. -/
structure Piece where
  gap : List Char
  text : List Char
  symbol : Symbol

/-- Whether a text is made up of some pieces and a last part that is skipped. -/
inductive Cuts : Nat → List Char → List Piece → List Char → Prop
  | stop {depth : Nat} {last : List Char} (h : IsGap depth [] last) : Cuts depth last [] last
  | token {depth : Nat} {gap text rest last : List Char} {symbol : Symbol} {pieces : List Piece}
    (hgap : IsGap depth (text ++ rest) gap) (htoken : IsToken depth rest text symbol)
    (h : Cuts (nesting depth symbol) rest pieces last) :
    Cuts depth (gap ++ (text ++ rest)) (⟨gap, text, symbol⟩ :: pieces) last

/-- A text with a blank for each line feed. -/
def unbroken (s : List Char) : List Char :=
  s.map fun c => if c = '\n' then ' ' else c

/-- The text of a token as its places are counted: in a string a line feed is a character like the others. -/
def Piece.counted (p : Piece) : List Char :=
  match p.symbol with
  | .str _ => unbroken p.text
  | _ => p.text

/-- The tokens of pieces, where `read` gives what is counted of each, and `before` stands in front of them. -/
def tokensOf (read : Piece → List Char) (before : List Char) : List Piece → List Char → Tokens
  | [], last => ⟨[], .behind (before ++ last)⟩
  | p :: pieces, last =>
    prepend ⟨p.symbol, .behind (before ++ p.gap)⟩ (tokensOf read (before ++ p.gap ++ read p) pieces last)

theorem map_symbol_tokensOf (read : Piece → List Char) (before : List Char) (pieces : List Piece) (last : List Char) :
    (tokensOf read before pieces last).tokens.map (·.symbol) = pieces.map (·.symbol) := by
  induction pieces generalizing before with
  | nil => rfl
  | cons p pieces ih => rw [tokensOf, prepend, List.map_cons, List.map_cons, ih]

/-! ### Lexemes -/

theorem exists_of_stringBody? {quote : Char} {s body rest : List Char} {n : Nat}
    (h : stringBody? quote s = some (body, n, rest)) : ∃ t, s = t ++ rest ∧ t.length = n := by
  fun_induction stringBody? quote s generalizing body n rest with
  | case1 => cases h
  | case2 s =>
    cases h
    exact ⟨[quote], rfl, rfl⟩
  | case3 => cases h
  | case4 => cases h
  | case5 e r hquote hline ih =>
    obtain ⟨⟨body', n', rest'⟩, hbody, heq⟩ := Option.map_eq_some_iff.mp h
    cases heq
    obtain ⟨t, rfl, rfl⟩ := ih hbody
    exact ⟨_ :: e :: t, rfl, rfl⟩
  | case6 c s hquote hline hescape ih =>
    obtain ⟨⟨body', n', rest'⟩, hbody, heq⟩ := Option.map_eq_some_iff.mp h
    cases heq
    obtain ⟨t, rfl, rfl⟩ := ih hbody
    exact ⟨c :: t, rfl, rfl⟩

/-- Whether a text begins with another one that has no line feed. -/
def Heads (t s : List Char) : Prop :=
  (∃ rest, s = t ++ rest) ∧ '\n' ∉ t

theorem heads_nil (s : List Char) : Heads [] s :=
  ⟨⟨s, rfl⟩, List.not_mem_nil⟩

theorem heads_takeWhile {p : Char → Bool} (hp : p '\n' = false) (s : List Char) : Heads (s.takeWhile p) s := by
  refine ⟨⟨s.dropWhile p, (List.takeWhile_append_dropWhile).symm⟩, fun hmem => ?_⟩
  have htrue := List.mem_takeWhile_imp hmem
  rw [hp] at htrue
  cases htrue

theorem Heads.cons {c : Char} {t s : List Char} (hc : c ≠ '\n') (h : Heads t s) : Heads (c :: t) (c :: s) := by
  obtain ⟨⟨rest, rfl⟩, ht⟩ := h
  refine ⟨⟨rest, rfl⟩, fun hmem => ?_⟩
  rcases List.mem_cons.mp hmem with heq | hmem
  · exact hc heq.symm
  · exact ht hmem

theorem Heads.append {t u s : List Char} (ht : Heads t s) (hu : Heads u (s.drop t.length)) : Heads (t ++ u) s := by
  obtain ⟨⟨r, rfl⟩, htline⟩ := ht
  rw [List.drop_left] at hu
  obtain ⟨⟨r', rfl⟩, huline⟩ := hu
  refine ⟨⟨r', (List.append_assoc ..).symm⟩, fun hmem => ?_⟩
  rcases List.mem_append.mp hmem with hmem | hmem
  · exact htline hmem
  · exact huline hmem

theorem heads_exponentPart (s : List Char) : Heads (exponentPart s) s := by
  cases s with
  | nil => exact heads_nil []
  | cons e r =>
    rw [exponentPart]
    split
    · next he =>
      have hline : e ≠ '\n' := by
        rintro rfl
        revert he
        decide
      extract_lets sign digits
      have hsign : Heads sign r := by
        unfold sign
        cases r with
        | nil => exact heads_nil []
        | cons c r =>
          by_cases hc : c = '+' ∨ c = '-'
          · rcases hc with rfl | rfl
            · exact .cons (by decide) (heads_nil r)
            · exact .cons (by decide) (heads_nil r)
          · rw [not_or] at hc
            have hnone : ((c :: r).head? == some '+' || (c :: r).head? == some '-') = false := by simp [hc]
            rw [hnone]
            exact heads_nil _
      split
      · exact heads_nil _
      · exact .cons hline (hsign.append (heads_takeWhile rfl _))
    · exact heads_nil _

theorem heads_numberText (s : List Char) : Heads (numberText s).1 s := by
  unfold numberText
  extract_lets whole rest fraction exponent
  have hwhole : Heads whole s := heads_takeWhile rfl s
  have hrest : s.drop whole.length = rest := by
    have hsplit : s = whole ++ rest := (List.takeWhile_append_dropWhile).symm
    conv_lhs => rw [hsplit]
    rw [List.drop_left]
  have hfraction : Heads fraction rest := by
    unfold fraction
    clear_value rest
    split
    · next _ r => exact .cons (by decide) (heads_takeWhile rfl r)
    · exact heads_nil _
  have hexponent : Heads exponent (rest.drop fraction.length) := heads_exponentPart _
  refine (hwhole.append (hrest ▸ hfraction)).append ?_
  rw [List.length_append, ← List.drop_drop, hrest]
  exact hexponent

/-- The characters behind the first one of a text that stands at the start of another. -/
theorem exists_of_heads {c : Char} {t s : List Char} (h : Heads t (c :: s)) :
    ∃ u, s = u ++ s.drop (t.length - 1) ∧ u.length = t.length - 1 ∧ '\n' ∉ u := by
  obtain ⟨⟨rest, hrest⟩, hline⟩ := h
  cases t with
  | nil => exact ⟨[], rfl, rfl, List.not_mem_nil⟩
  | cons d u =>
    rw [List.cons_append] at hrest
    obtain ⟨rfl, rfl⟩ := List.cons.inj hrest
    refine ⟨u, ?_, rfl, fun hmem => hline (List.mem_cons_of_mem c hmem)⟩
    rw [List.length_cons, Nat.add_sub_cancel, List.drop_left]

theorem continuesName_lineFeed : continuesName '\n' = false := by
  decide

/-- A token takes as many characters as it says, and only a string has a line feed in it. -/
theorem exists_of_lexeme {c : Char} {s rest : List Char} {symbol : Symbol} {n : Nat}
    (h : lexeme c s = .ok (symbol, n, rest)) :
    ∃ t, s = t ++ rest ∧ t.length = n ∧ ((∃ body, symbol = .str body) ∨ '\n' ∉ t) := by
  have none (s : List Char) (symbol : Symbol) :
      ∃ t, s = t ++ s ∧ t.length = 0 ∧ ((∃ body, symbol = .str body) ∨ '\n' ∉ t) :=
    ⟨[], rfl, rfl, .inr List.not_mem_nil⟩
  unfold lexeme at h
  split at h
  · cases h
    exact none _ _
  · split at h
    · split at h <;> cases h
      · exact ⟨['='], rfl, rfl, .inr (by decide)⟩
      · exact none _ _
    · split at h
      · next hsign =>
        split at h
        · split at h <;> cases h
          next heq =>
          subst heq
          refine ⟨[_], rfl, rfl, .inr fun hmem => ?_⟩
          rw [← List.mem_singleton.mp hmem] at hsign
          revert hsign
          decide
        · cases h
      · split at h
        · split at h <;> cases h
          next hbody =>
          obtain ⟨t, rfl, rfl⟩ := exists_of_stringBody? hbody
          exact ⟨t, rfl, rfl, .inl ⟨_, rfl⟩⟩
        · split at h
          · dsimp only at h
            split at h
            · next hnumber =>
              cases h
              obtain ⟨u, hu, hlength, hline⟩ := exists_of_heads (heads_numberText (c :: s))
              exact ⟨u, hu, hlength, .inr hline⟩
            · cases h
          · split at h <;> cases h
            obtain ⟨-, hline⟩ := heads_takeWhile continuesName_lineFeed s
            exact ⟨s.takeWhile continuesName, (List.takeWhile_append_dropWhile).symm, rfl, .inr hline⟩

/-! ### Scanning pieces -/

theorem ne_lineFeed_of_not_blank {c : Char} (h : isBlank c = false) : c ≠ '\n' := by
  rintro rfl
  revert h
  decide

theorem map_id_except {ε α : Type} (x : Except ε α) : (x.map fun a => a) = x := by
  cases x <;> rfl

/-- Nothing is said of what is skipped, but the place moves on. -/
theorem scanFrom_gap {depth : Nat} {after gap : List Char} (h : IsGap depth after gap) (before : List Char) {fuel : Nat}
    (hfuel : (gap ++ after).length < fuel) :
    ∃ fuel', after.length < fuel' ∧
      scanFrom fuel depth (.behind before) (gap ++ after) = scanFrom fuel' depth (.behind (before ++ gap)) after := by
  induction h generalizing before fuel with
  | nil =>
    rw [List.append_nil]
    exact ⟨fuel, hfuel, rfl⟩
  | @blank c gap hc hline _ ih =>
    rw [List.cons_append, List.length_cons] at hfuel
    obtain ⟨fuel, rfl⟩ : ∃ k, fuel = k + 1 := ⟨fuel - 1, by omega⟩
    obtain ⟨fuel', hfuel', hscan⟩ := @ih (before ++ [c]) fuel (by omega)
    rw [List.append_assoc, List.singleton_append] at hscan
    refine ⟨fuel', hfuel', ?_⟩
    rw [← hscan, List.cons_append, scanFrom]
    by_cases hbreak : c = '\n'
    · simp only [if_pos hbreak, if_neg (hline hbreak)]
      rw [map_id_except, hbreak, Position.behind_lineFeed]
    · have hone : '\n' ∉ [c] := fun hmem => hbreak (List.mem_singleton.mp hmem).symm
      rw [if_neg hbreak, if_pos hc, Position.behind_append hone]
      rfl
  | @comment body gap hbody hend _ ih =>
    rw [List.cons_append, List.length_cons, List.append_assoc, List.length_append] at hfuel
    obtain ⟨fuel, rfl⟩ : ∃ k, fuel = k + 1 := ⟨fuel - 1, by omega⟩
    obtain ⟨fuel', hfuel', hscan⟩ := @ih (before ++ '#' :: body) fuel (by omega)
    rw [List.append_assoc, List.cons_append] at hscan
    refine ⟨fuel', hfuel', ?_⟩
    have hrun : ∀ c ∈ body, (c != '\n') = true := fun c hc => bne_iff_ne.mpr fun heq => hbody (heq ▸ hc)
    have hline : '\n' ∉ '#' :: body := fun hmem => hbody ((List.mem_cons.mp hmem).resolve_left (by decide))
    rw [← hscan, List.cons_append, List.append_assoc, scanFrom, if_neg (by decide), if_neg (by decide), if_pos rfl,
      takeWhile_run hrun hend, dropWhile_run hrun hend, Position.behind_append hline, List.length_cons]
    dsimp only
    rw [Nat.add_assoc, Nat.add_comm 1]

theorem lineFeed_not_mem_unbroken (s : List Char) : '\n' ∉ unbroken s := by
  intro hmem
  obtain ⟨c, -, hc⟩ := List.mem_map.mp hmem
  split at hc
  · revert hc
    decide
  · next hne => exact hne hc

/-- A token but a line feed has no line feed that counts. -/
theorem not_mem_counted (gap : List Char) {s rest : List Char} {c : Char} {symbol : Symbol} (hblank : isBlank c = false)
    (h : lexeme c (s ++ rest) = .ok (symbol, s.length, rest)) : '\n' ∉ (Piece.mk gap (c :: s) symbol).counted := by
  obtain ⟨t, ht, hlength, hline⟩ := exists_of_lexeme h
  obtain rfl : s = t := (List.append_inj_left ht.symm hlength).symm
  unfold Piece.counted
  split
  · exact lineFeed_not_mem_unbroken _
  · next hstring =>
    rcases hline with ⟨body, hbody⟩ | hline
    · exact absurd hbody (hstring body)
    · intro hmem
      rcases List.mem_cons.mp hmem with heq | hmem
      · exact ne_lineFeed_of_not_blank hblank heq.symm
      · exact hline hmem

theorem length_counted (p : Piece) : p.counted.length = p.text.length := by
  unfold Piece.counted
  split
  · exact List.length_map _
  · rfl

theorem scanFrom_token {depth : Nat} {text rest : List Char} {symbol : Symbol} (h : IsToken depth rest text symbol)
    (gap before : List Char) (fuel : Nat) :
    scanFrom (fuel + 1) depth (.behind before) (text ++ rest) =
      (scanFrom fuel (nesting depth symbol) (.behind (before ++ (Piece.mk gap text symbol).counted)) rest).map
        (prepend ⟨symbol, .behind before⟩) := by
  cases h with
  | lineFeed hdepth =>
    subst hdepth
    rw [List.singleton_append, scanFrom, if_pos rfl, ← Position.behind_lineFeed]
    rfl
  | @lexeme c s _ hblank hcomment h =>
    have hcounted := Position.behind_append (not_mem_counted gap hblank h) before
    rw [length_counted, List.length_cons] at hcounted
    rw [List.cons_append, scanFrom, if_neg (ne_lineFeed_of_not_blank hblank), hblank, if_neg Bool.false_ne_true,
      if_neg hcomment, h, hcounted]
    dsimp only
    rw [Nat.add_assoc, Nat.add_comm 1]

/-- Scanning a text that is cut into pieces gives their tokens. -/
theorem scanFrom_of_cuts {depth : Nat} {s last : List Char} {pieces : List Piece} (h : Cuts depth s pieces last)
    (before : List Char) {fuel : Nat} (hfuel : s.length < fuel) :
    scanFrom fuel depth (.behind before) s = .ok (tokensOf Piece.counted before pieces last) := by
  induction h generalizing before fuel with
  | @stop depth last hgap =>
    have hlast : (last ++ []).length < fuel := by rwa [List.append_nil]
    obtain ⟨fuel', -, hscan⟩ := scanFrom_gap hgap before hlast
    rw [List.append_nil] at hscan
    rw [hscan, tokensOf]
    cases fuel' <;> rfl
  | @token depth gap text rest last symbol pieces hgap htoken _ ih =>
    obtain ⟨fuel', hfuel', hscan⟩ := scanFrom_gap hgap before hfuel
    obtain ⟨fuel', rfl⟩ : ∃ k, fuel' = k + 1 := ⟨fuel' - 1, by omega⟩
    have hpos := htoken.length_pos
    rw [List.length_append] at hfuel'
    rw [hscan, scanFrom_token htoken gap, ih _ (by omega)]
    rfl

theorem scan_of_cuts {source : String} {pieces : List Piece} {last : List Char} (h : Cuts 0 source.toList pieces last) :
    scan source = .ok (tokensOf Piece.counted [] pieces last) :=
  scanFrom_of_cuts h [] (Nat.lt_succ_self _)

/-! ### Cutting a text -/

/-- Whether a token or nothing stands at the start of a text. -/
def Opens (depth : Nat) (s : List Char) : Prop :=
  ∀ c ∈ s.head?, (c = '\n' → depth = 0) ∧ (c ≠ '\n' → isBlank c = false) ∧ c ≠ '#'

theorem exists_gap (depth : Nat) (s : List Char) :
    ∃ gap after, s = gap ++ after ∧ IsGap depth after gap ∧ Opens depth after := by
  induction hlength : s.length using Nat.strongRecOn generalizing s with
  | ind n ih =>
    cases s with
    | nil => exact ⟨[], [], rfl, .nil, nofun⟩
    | cons c s =>
      rw [List.length_cons] at hlength
      by_cases hopens : Opens depth (c :: s)
      · exact ⟨[], c :: s, rfl, .nil, hopens⟩
      · by_cases hcomment : c = '#'
        · have hsplit := @List.takeWhile_append_dropWhile _ (· != '\n') s
          have hshorter : (s.dropWhile (· != '\n')).length < n := by
            have := List.length_dropWhile_le (· != '\n') s
            omega
          obtain ⟨gap, after, hrest, hgap, hafter⟩ := ih _ hshorter _ rfl
          refine ⟨c :: (s.takeWhile (· != '\n') ++ gap), after, ?_, ?_, hafter⟩
          · rw [List.cons_append, List.append_assoc, ← hrest, hsplit]
          · subst hcomment
            exact .comment (heads_takeWhile rfl s).2 (hrest ▸ stops_dropWhile _ s) hgap
        · obtain ⟨gap, after, rfl, hgap, hafter⟩ := ih s.length (by omega) s rfl
          -- what is left is a blank, and a line feed only inside brackets
          have hblank : isBlank c = true ∧ (c = '\n' → depth ≠ 0) := by
            by_contra hnot
            refine hopens fun d hd => ?_
            obtain rfl : c = d := Option.some.inj hd
            by_cases hline : c = '\n'
            · subst hline
              have hdepth : depth = 0 := by
                by_contra hdepth
                exact hnot ⟨by decide, fun _ => hdepth⟩
              exact ⟨fun _ => hdepth, fun hne => absurd rfl hne, hcomment⟩
            · refine ⟨fun heq => absurd heq hline, fun _ => Bool.eq_false_iff.mpr fun htrue => ?_, hcomment⟩
              exact hnot ⟨htrue, fun heq => absurd heq hline⟩
          exact ⟨c :: gap, after, rfl, .blank hblank.1 hblank.2 hgap, hafter⟩

/-- A text that scanning accepts begins with a token where it does not begin with something to skip. -/
theorem exists_token {depth : Nat} {before s : List Char} {c : Char} {fuel : Nat} {ts : Tokens}
    (hopens : Opens depth (c :: s)) (h : scanFrom (fuel + 1) depth (.behind before) (c :: s) = .ok ts) :
    ∃ text rest symbol, c :: s = text ++ rest ∧ IsToken depth rest text symbol := by
  obtain ⟨hbreak, hblank, hcomment⟩ := hopens c rfl
  by_cases hline : c = '\n'
  · subst hline
    exact ⟨['\n'], s, .separator, rfl, .lineFeed (hbreak rfl)⟩
  · rw [scanFrom, if_neg hline, hblank hline, if_neg Bool.false_ne_true, if_neg hcomment] at h
    cases hlexeme : lexeme c s with
    | error reason =>
      rw [hlexeme] at h
      cases h
    | ok r =>
      obtain ⟨symbol, n, rest⟩ := r
      obtain ⟨t, rfl, rfl, -⟩ := exists_of_lexeme hlexeme
      exact ⟨c :: t, rest, symbol, rfl, .lexeme (hblank hline) hcomment hlexeme⟩

/-- Whatever scanning accepts is made up of pieces. -/
theorem exists_cuts_of_scanFrom {depth fuel : Nat} {before s : List Char} {ts : Tokens} (hfuel : s.length < fuel)
    (h : scanFrom fuel depth (.behind before) s = .ok ts) : ∃ pieces last, Cuts depth s pieces last := by
  induction hlength : s.length using Nat.strongRecOn generalizing depth fuel before s ts with
  | ind n ih =>
    obtain ⟨gap, after, rfl, hgap, hopens⟩ := exists_gap depth s
    obtain ⟨fuel', hfuel', hscan⟩ := scanFrom_gap hgap before hfuel
    rw [hscan] at h
    obtain ⟨k, rfl⟩ : ∃ k, fuel' = k + 1 := ⟨fuel' - 1, by omega⟩
    cases after with
    | nil =>
      rw [List.append_nil]
      exact ⟨[], gap, .stop hgap⟩
    | cons c s =>
      obtain ⟨text, rest, symbol, hsplit, htoken⟩ := exists_token hopens h
      have hpos := htoken.length_pos
      rw [hsplit] at h hgap hlength hfuel'
      rw [List.length_append] at hfuel'
      rw [List.length_append, List.length_append] at hlength
      rw [scanFrom_token htoken gap] at h
      -- the tokens behind this one are accepted as well
      cases hrest : scanFrom k (nesting depth symbol)
        (.behind (before ++ gap ++ (Piece.mk gap text symbol).counted)) rest with
      | error f =>
        rw [hrest] at h
        cases h
      | ok ts =>
        obtain ⟨pieces, last, hcuts⟩ := ih rest.length (by omega) (by omega) hrest rfl
        rw [hsplit]
        exact ⟨⟨gap, text, symbol⟩ :: pieces, last, .token hgap htoken hcuts⟩

theorem exists_cuts {source : String} {ts : Tokens} (h : scan source = .ok ts) :
    ∃ pieces last, Cuts 0 source.toList pieces last :=
  @exists_cuts_of_scanFrom 0 _ [] _ ts (Nat.lt_succ_self _) h

end Token

end SampleRecorder.Script
