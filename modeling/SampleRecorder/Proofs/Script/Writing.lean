import SampleRecorder.Proofs.Number.Decimal
import SampleRecorder.Proofs.Script.Lexing

/-!
# Writing tokens

The texts that a list of tokens can be written as.  Each token has its own texts (`Spells`): a string stands in either
kind of quotes, with backslashes, quotes and line feeds escaped, and an integer is written in decimal digits.  Between two
tokens there are blanks, and where a bracket is open there may be line feeds, and comments up to a line feed (`Spacing`).
Scanning a text that is written in this way gives the tokens that it was written from (`scan_of_written`).
-/

namespace SampleRecorder.Script

open Text

/-! ### Open brackets -/

/-- What a token adds to the number of brackets that are open. -/
def Symbol.turn : Symbol → Int
  | .openParen | .openBracket => 1
  | .closeParen | .closeBracket => -1
  | _ => 0

/-- Whether a bracket is open behind some tokens: there are more opening than closing brackets from some token on. -/
def IsOpen (symbols : List Symbol) : Prop :=
  ∃ last, last <:+ symbols ∧ 0 < (last.map Symbol.turn).sum

namespace Token

/-- A closing bracket without its opening one does not count. -/
theorem nesting_eq (depth : Nat) (symbol : Symbol) : (nesting depth symbol : Int) = max 0 (depth + symbol.turn) := by
  cases symbol <;> simp only [nesting, Symbol.turn] <;> omega

/-- The number of open brackets is the greatest that brackets from some token on add up to. -/
theorem lt_foldl_nesting_iff (symbols : List Symbol) (k : Int) :
    k < (symbols.foldl nesting 0 : Nat) ↔ ∃ last, last <:+ symbols ∧ k < (last.map Symbol.turn).sum := by
  -- brackets open and close at the end of the list, so the induction takes the tokens from there
  induction symbols using List.reverseRecOn generalizing k with
  | nil => simp
  | append_singleton symbols symbol ih =>
    have hstep : k < (nesting (symbols.foldl nesting 0) symbol : Nat) ↔
        k < 0 ∨ k - symbol.turn < (symbols.foldl nesting 0 : Nat) := by
      rw [nesting_eq]
      omega
    have hsum (last : List Symbol) :
        ((last ++ [symbol]).map Symbol.turn).sum = (last.map Symbol.turn).sum + symbol.turn := by
      rw [List.map_append, List.sum_append, List.map_singleton, List.sum_singleton]
    rw [List.foldl_append, List.foldl_cons, List.foldl_nil, hstep, ih]
    constructor
    · rintro (hk | ⟨last, hlast, hk⟩)
      · exact ⟨[], List.nil_suffix, hk⟩
      · refine ⟨last ++ [symbol], List.suffix_concat_iff.mpr (.inr ⟨last, rfl, hlast⟩), ?_⟩
        rw [hsum]
        omega
    · rintro ⟨last', hsuffix, hk⟩
      obtain rfl | ⟨last, rfl, hlast⟩ := List.suffix_concat_iff.mp hsuffix
      · exact .inl hk
      · rw [hsum] at hk
        exact .inr ⟨last, hlast, by omega⟩

theorem isOpen_iff (symbols : List Symbol) : IsOpen symbols ↔ symbols.foldl nesting 0 ≠ 0 := by
  rw [IsOpen, ← lt_foldl_nesting_iff]
  omega

/-! ### Spacing -/

/-- Texts that may stand between tokens: blanks, and line feeds and comments where a bracket is open. -/
inductive Spacing (isOpen : Prop) : List Char → Prop
  | nil : Spacing isOpen []
  | blank {c : Char} {s : List Char} (hc : isBlank c = true) (hline : c ≠ '\n') (h : Spacing isOpen s) :
    Spacing isOpen (c :: s)
  | lineFeed {s : List Char} (hopen : isOpen) (h : Spacing isOpen s) : Spacing isOpen ('\n' :: s)
  | comment {body s : List Char} (hopen : isOpen) (hbody : '\n' ∉ body) (h : Spacing isOpen s) :
    Spacing isOpen ('#' :: (body ++ '\n' :: s))

theorem Spacing.isGap {depth : Nat} {s : List Char} (h : Spacing (depth ≠ 0) s) (after : List Char) :
    IsGap depth after s := by
  induction h with
  | nil => exact .nil
  | blank hc hline _ ih => exact .blank hc (fun heq => absurd heq hline) ih
  | lineFeed hopen _ ih => exact .blank (by decide) (fun _ => hopen) ih
  | comment hopen hbody _ ih =>
    exact .comment hbody (stops_cons.mpr rfl) (.blank (by decide) (fun _ => hopen) ih)

/-- Whether a text does not begin with a token. -/
def Breaks (s : List Char) : Prop :=
  ∀ c ∈ s.head?, isBlank c = true ∨ c = '#'

theorem Spacing.breaks {isOpen : Prop} {s : List Char} (h : Spacing isOpen s) (hne : s ≠ []) (after : List Char) :
    Breaks (s ++ after) := by
  cases h with
  | nil => exact absurd rfl hne
  | blank hc _ _ => exact fun d hd => .inl (Option.some.inj hd ▸ hc)
  | lineFeed _ _ => exact fun d hd => .inl (Option.some.inj hd ▸ (by decide))
  | comment _ _ _ => exact fun d hd => .inr (Option.some.inj hd).symm

theorem Breaks.head_ne {c d : Char} {s : List Char} (h : Breaks (c :: s)) (hblank : isBlank d = false)
    (hcomment : d ≠ '#') : c ≠ d := by
  rintro rfl
  obtain htrue | heq := h c rfl
  · rw [hblank] at htrue
    cases htrue
  · exact hcomment heq

theorem Breaks.stops {p : Char → Bool} {s : List Char} (h : Breaks s)
    (hp : ∀ c, p c = true → isBlank c = false ∧ c ≠ '#') : Stops p s := by
  cases s with
  | nil => exact stops_nil
  | cons c s =>
    rw [stops_cons, Bool.eq_false_iff]
    intro hc
    obtain ⟨hblank, hcomment⟩ := hp c hc
    exact h.head_ne hblank hcomment rfl

/-! ### Texts of tokens -/

/-- The text of a token that is always written in the same way. -/
def sign? : Symbol → Option (List Char)
  | .int _ | .float _ | .str _ | .name _ => none
  | .openParen => some ['(']
  | .closeParen => some [')']
  | .openBracket => some ['[']
  | .closeBracket => some [']']
  | .comma => some [',']
  | .separator => some [';']
  | .assign => some ['=']
  | .eq => some ['=', '=']
  | .ne => some ['!', '=']
  | .lt => some ['<']
  | .le => some ['<', '=']
  | .gt => some ['>']
  | .ge => some ['>', '=']
  | .plus => some ['+']
  | .minus => some ['-']
  | .star => some ['*']
  | .slash => some ['/']
  | .percent => some ['%']
  | .bang => some ['!']
  | .and => some ['&', '&']
  | .or => some ['|', '|']

/-- Whether a name may begin with the character. -/
def startsName (c : Char) : Bool :=
  isLetter c || c == '_'

/-- Whether `s` stands for `body` between quotes: a line feed, a backslash and the quote itself are escaped, and the
other quote may be. -/
inductive Escapes (quote : Char) : List Char → List Char → Prop
  | nil : Escapes quote [] []
  | raw {c : Char} {body s : List Char} (hc : c ≠ quote ∧ c ≠ '\n' ∧ c ≠ '\\') (h : Escapes quote body s) :
    Escapes quote (c :: body) (c :: s)
  | lineFeed {body s : List Char} (h : Escapes quote body s) : Escapes quote ('\n' :: body) ('\\' :: 'n' :: s)
  | sign {c : Char} {body s : List Char} (hc : c = '\\' ∨ c = '\'' ∨ c = '"') (h : Escapes quote body s) :
    Escapes quote (c :: body) ('\\' :: c :: s)

/-- The texts that a token is written as. -/
inductive Spells : Symbol → List Char → Prop
  | sign {symbol : Symbol} {s : List Char} (h : sign? symbol = some s) : Spells symbol s
  | int {n : Int64} (hn : 0 ≤ n.toInt) : Spells (.int n) (Number.digitsOf n.toInt.natAbs)
  | name {c : Char} {s : List Char} (hc : startsName c = true) (hs : ∀ d ∈ s, continuesName d = true) :
    Spells (.name (String.ofList (c :: s))) (c :: s)
  | str {quote : Char} {body s : List Char} (hquote : quote = '\'' ∨ quote = '"') (hs : Escapes quote body s) :
    Spells (.str (String.ofList body)) (quote :: (s ++ [quote]))

/-- Whether a token has a text: no floating-point number and no negative integer has one, and only words are names. -/
def IsLexical : Symbol → Prop
  | .int n => 0 ≤ n.toInt
  | .float _ => False
  | .name s => ∃ c cs, s = String.ofList (c :: cs) ∧ startsName c = true ∧ ∀ d ∈ cs, continuesName d = true
  | _ => True

theorem exists_escapes {quote : Char} (hquote : quote = '\'' ∨ quote = '"') (body : List Char) :
    ∃ s, Escapes quote body s := by
  induction body with
  | nil => exact ⟨[], .nil⟩
  | cons c body ih =>
    obtain ⟨s, hs⟩ := ih
    by_cases hsign : c = '\\' ∨ c = '\'' ∨ c = '"'
    · exact ⟨_, .sign hsign hs⟩
    · by_cases hline : c = '\n'
      · subst hline
        exact ⟨_, .lineFeed hs⟩
      · have hend : c ≠ quote := fun heq => hsign (.inr (heq ▸ hquote))
        exact ⟨_, .raw ⟨hend, hline, fun heq => hsign (.inl heq)⟩ hs⟩

theorem exists_spells_iff (symbol : Symbol) : (∃ s, Spells symbol s) ↔ IsLexical symbol := by
  constructor
  · rintro ⟨s, hs⟩
    cases hs with
    | sign h => cases symbol <;> first | exact True.intro | cases h
    | int hn => exact hn
    | name hc hs => exact ⟨_, _, rfl, hc, hs⟩
    | str _ _ => exact True.intro
  · intro h
    cases symbol with
    | int n => exact ⟨_, .int h⟩
    | float x => exact h.elim
    | name s =>
      obtain ⟨c, cs, rfl, hc, hcs⟩ := h
      exact ⟨_, .name hc hcs⟩
    | str s =>
      obtain ⟨t, ht⟩ := exists_escapes (.inr rfl) s.toList
      have hspells := Spells.str (.inr rfl) ht
      rw [String.ofList_toList] at hspells
      exact ⟨_, hspells⟩
    | _ => exact ⟨_, .sign rfl⟩

section Lexeme

variable {rest : List Char} {depth : Nat}

/-! ### Signs -/

theorem isToken_of_sign {symbol : Symbol} {s : List Char} (h : sign? symbol = some s) (hrest : Breaks rest) :
    IsToken depth rest s symbol := by
  have hnot : ∀ r, rest ≠ '=' :: r := by
    rintro r rfl
    exact hrest.head_ne (by decide) (by decide) rfl
  -- a sign that may be followed by an equals sign stands alone in front of a gap
  have hcompare (c : Char) (hc : single? c = none) (hcs : (c = '=' || c = '!' || c = '<' || c = '>') = true) :
      lexeme c rest = .ok (comparison c false, 0, rest) := by
    unfold lexeme
    simp only [hc, if_pos hcs]
  cases symbol <;> cases h
  case assign => exact .lexeme (by decide) (by decide) (hcompare '=' rfl rfl)
  case bang => exact .lexeme (by decide) (by decide) (hcompare '!' rfl rfl)
  case lt => exact .lexeme (by decide) (by decide) (hcompare '<' rfl rfl)
  case gt => exact .lexeme (by decide) (by decide) (hcompare '>' rfl rfl)
  all_goals exact .lexeme (by decide) (by decide) rfl

/-- The characters that a token which is no number and no name begins with. -/
def signs : List Char :=
  [';', '(', ')', '[', ']', ',', '+', '-', '*', '/', '%', '=', '!', '<', '>', '&', '|', '\'', '"']

theorem not_mem_signs {p : Char → Bool} {c : Char} (hc : p c = true) (hp : ∀ d ∈ signs, p d = false) : c ∉ signs := by
  intro hmem
  rw [hp c hmem] at hc
  cases hc

theorem single?_of_not_mem_signs {c : Char} (h : c ∉ signs) : single? c = none := by
  unfold single?
  split
  case h_12 => rfl
  all_goals exact absurd (by decide) h

/-! ### Numbers and names -/

theorem lexeme_of_digit {c : Char} {s text : List Char} {symbol : Symbol} (hc : c.isDigit = true)
    (htext : numberText (c :: s) = (text, false)) (hnumber : number? text false = some symbol) :
    lexeme c s = .ok (symbol, text.length - 1, s.drop (text.length - 1)) := by
  have hsign : c ∉ signs := not_mem_signs hc (by decide)
  have hne := hsign
  simp only [signs, List.mem_cons, not_or] at hne
  unfold lexeme
  simp only [single?_of_not_mem_signs hsign, hne, hc, htext, hnumber]
  rfl

theorem startsName_of_isDigit {c : Char} (h : c.isDigit = true) : startsName c = false := by
  have hdigits : ∀ n < 58, 48 ≤ n → startsName (Char.ofNat n) = false := by decide
  obtain ⟨hlow, hhigh⟩ := Number.toNat_of_isDigit h
  have hname := hdigits c.toNat (by omega) hlow
  rwa [Char.ofNat_toNat] at hname

theorem lexeme_of_startsName {c : Char} (hc : startsName c = true) (s : List Char) :
    lexeme c s = .ok (.name (String.ofList (c :: s.takeWhile continuesName)), (s.takeWhile continuesName).length,
      s.dropWhile continuesName) := by
  have hsign : c ∉ signs := not_mem_signs hc (by decide)
  have hpoint : c ≠ '.' := by
    rintro rfl
    revert hc
    decide
  have hdigit : c.isDigit = false := by
    by_contra hdigit
    rw [startsName_of_isDigit (Bool.of_not_eq_false hdigit)] at hc
    cases hc
  have hname : (isLetter c || c = '_') = true := hc
  have hne := hsign
  simp only [signs, List.mem_cons, not_or] at hne
  unfold lexeme
  simp only [single?_of_not_mem_signs hsign, hne, hdigit, hpoint, hname]
  rfl

theorem numberText_digits {ds : List Char} (hds : ∀ c ∈ ds, c.isDigit = true) (hrest : Breaks rest) :
    numberText (ds ++ rest) = (ds, false) := by
  have hdigit : Stops Char.isDigit rest := hrest.stops fun c hc =>
    ⟨Number.isBlank_of_isDigit hc, fun heq => absurd (heq ▸ hc) (by decide)⟩
  unfold numberText
  rw [takeWhile_run hds hdigit, dropWhile_run hds hdigit]
  -- neither a point nor an exponent follows
  cases rest with
  | nil => simp [exponentPart]
  | cons c r =>
    have hpoint : c ≠ '.' := hrest.head_ne (by decide) (by decide)
    have hexponent : ¬(c = 'e' ∨ c = 'E') := by
      rintro (heq | heq)
      · exact hrest.head_ne (by decide) (by decide) heq
      · exact hrest.head_ne (by decide) (by decide) heq
    simp [exponentPart, hpoint, hexponent]

theorem isToken_of_digits {n : Int64} (hn : 0 ≤ n.toInt) (hrest : Breaks rest) :
    IsToken depth rest (Number.digitsOf n.toInt.natAbs) (.int n) := by
  have hall : ∀ c ∈ Number.digitsOf n.toInt.natAbs, c.isDigit = true := fun c hc => Number.isDigit_of_mem_digitsOf hc
  have htext := numberText_digits hall hrest
  have hnumber : number? (Number.digitsOf n.toInt.natAbs) false = some (.int n) := by
    have hread := Number.int64?_ofInt n
    rw [Number.ofInt, if_neg (Int.not_lt.mpr hn)] at hread
    rw [number?, if_neg Bool.false_ne_true, hread]
  cases hds : Number.digitsOf n.toInt.natAbs with
  | nil => exact absurd hds (Number.digitsOf_ne_nil _)
  | cons c ds =>
    rw [hds] at hall hnumber htext
    rw [List.cons_append] at htext
    have hc : c.isDigit = true := hall c List.mem_cons_self
    refine .lexeme (Number.isBlank_of_isDigit hc) (fun heq => absurd (heq ▸ hc) (by decide)) ?_
    rw [lexeme_of_digit hc htext hnumber, List.length_cons, Nat.add_sub_cancel, List.drop_left]

theorem isBlank_of_continuesName {c : Char} (h : continuesName c = true) : isBlank c = false ∧ c ≠ '#' := by
  constructor
  · rw [Bool.eq_false_iff]
    intro hblank
    rw [continuesName, isLetterOrNumber_of_isBlank hblank, Bool.false_or, beq_iff_eq] at h
    subst h
    revert hblank
    decide
  · rintro rfl
    revert h
    decide

theorem isToken_of_name {c : Char} {s : List Char} (hc : startsName c = true) (hs : ∀ d ∈ s, continuesName d = true)
    (hrest : Breaks rest) : IsToken depth rest (c :: s) (.name (String.ofList (c :: s))) := by
  have hcontinues : continuesName c = true := by
    rw [continuesName, isLetterOrNumber, Bool.or_right_comm]
    rw [startsName] at hc
    rw [hc, Bool.true_or]
  obtain ⟨hblank, hcomment⟩ := isBlank_of_continuesName hcontinues
  have hstops : Stops continuesName rest := hrest.stops fun d hd => isBlank_of_continuesName hd
  refine .lexeme hblank hcomment ?_
  rw [lexeme_of_startsName hc, takeWhile_run hs hstops, dropWhile_run hs hstops]

/-! ### Strings -/

theorem stringBody?_escape {quote : Char} (hquote : '\\' ≠ quote) (e : Char) (s : List Char) :
    stringBody? quote ('\\' :: e :: s) =
      (stringBody? quote s).map fun (body, n, rest) => (unescape e ++ body, n + 2, rest) := by
  conv_lhs => unfold stringBody?
  rw [if_neg hquote, if_neg (by decide), if_pos rfl]

theorem stringBody?_raw {quote c : Char} (hc : c ≠ quote ∧ c ≠ '\n' ∧ c ≠ '\\') (s : List Char) :
    stringBody? quote (c :: s) = (stringBody? quote s).map fun (body, n, rest) => (c :: body, n + 1, rest) := by
  obtain ⟨hquote, hline, hescape⟩ := hc
  conv_lhs => unfold stringBody?
  rw [if_neg hquote, if_neg hline, if_neg hescape]

theorem stringBody?_of_escapes {quote : Char} {body s : List Char} (hquote : '\\' ≠ quote)
    (h : Escapes quote body s) (rest : List Char) :
    stringBody? quote (s ++ quote :: rest) = some (body, s.length + 1, rest) := by
  induction h with
  | nil =>
    unfold stringBody?
    exact if_pos rfl
  | raw hc _ ih =>
    rw [List.cons_append, stringBody?_raw hc, ih]
    rfl
  | lineFeed _ ih =>
    rw [List.cons_append, List.cons_append, stringBody?_escape hquote, ih]
    rfl
  | sign hc _ ih =>
    rw [List.cons_append, List.cons_append, stringBody?_escape hquote, ih]
    obtain rfl | rfl | rfl := hc <;> rfl

theorem isToken_of_string {quote : Char} {body s : List Char} (hquote : quote = '\'' ∨ quote = '"')
    (h : Escapes quote body s) : IsToken depth rest (quote :: (s ++ [quote])) (.str (String.ofList body)) := by
  have hescape : '\\' ≠ quote := by
    rintro rfl
    revert hquote
    decide
  have hbody := stringBody?_of_escapes hescape h rest
  have hlexeme : lexeme quote (s ++ quote :: rest) = .ok (.str (String.ofList body), s.length + 1, rest) := by
    unfold lexeme
    obtain rfl | rfl := hquote
    all_goals
      rw [hbody]
      rfl
  refine .lexeme ?_ ?_ ?_
  · obtain rfl | rfl := hquote <;> decide
  · obtain rfl | rfl := hquote <;> decide
  · rw [List.append_assoc, List.length_append]
    exact hlexeme

/-- Each text of a token is read as the token, in front of what does not begin with one. -/
theorem Spells.isToken {symbol : Symbol} {s : List Char} (h : Spells symbol s) (hrest : Breaks rest) :
    IsToken depth rest s symbol := by
  cases h with
  | sign h => exact isToken_of_sign h hrest
  | int hn => exact isToken_of_digits hn hrest
  | name hc hs => exact isToken_of_name hc hs hrest
  | str hquote hs => exact isToken_of_string hquote hs

end Lexeme

/-! ### Texts of lists of tokens -/

/-- Whether a text stands for `symbols` behind the tokens `before`: there is something between two tokens, and nothing
need be at either end. -/
inductive Written : List Symbol → List Symbol → List Char → Prop
  | stop {before : List Symbol} {gap : List Char} (hgap : Spacing (IsOpen before) gap) : Written before [] gap
  | token {before symbols : List Symbol} {symbol : Symbol} {gap s rest : List Char} (hgap : Spacing (IsOpen before) gap)
    (hsep : before ≠ [] → gap ≠ []) (hspells : Spells symbol s) (h : Written (before ++ [symbol]) symbols rest) :
    Written before (symbol :: symbols) (gap ++ (s ++ rest))

/-- Tokens can be written one after the other if and only if each of them has a text. -/
theorem exists_written_iff (before symbols : List Symbol) :
    (∃ s, Written before symbols s) ↔ ∀ symbol ∈ symbols, IsLexical symbol := by
  induction symbols generalizing before with
  | nil => exact iff_of_true ⟨[], .stop .nil⟩ (List.forall_mem_nil _)
  | cons symbol symbols ih =>
    rw [List.forall_mem_cons, ← ih (before ++ [symbol]), ← exists_spells_iff]
    constructor
    · rintro ⟨_, h⟩
      cases h with
      | token _ _ hspells h => exact ⟨⟨_, hspells⟩, ⟨_, h⟩⟩
    · rintro ⟨⟨s, hspells⟩, ⟨rest, h⟩⟩
      exact ⟨_, .token (.blank rfl (by decide) .nil) (fun _ => List.cons_ne_nil ' ' []) hspells h⟩

theorem Written.breaks {before symbols : List Symbol} {s : List Char} (h : Written before symbols s)
    (hne : before ≠ []) : Breaks s := by
  cases h with
  | stop hgap =>
    by_cases hempty : s = []
    · subst hempty
      nofun
    · rw [← List.append_nil s]
      exact hgap.breaks hempty []
  | token hgap hsep _ _ => exact hgap.breaks (hsep hne) _

/-- A text that stands for some tokens is cut into them. -/
theorem Written.exists_cuts {before symbols : List Symbol} {s : List Char} (h : Written before symbols s) :
    ∃ pieces last, Cuts (before.foldl nesting 0) s pieces last ∧ pieces.map (·.symbol) = symbols := by
  induction h with
  | @stop before gap hgap =>
    rw [isOpen_iff] at hgap
    exact ⟨[], gap, .stop (hgap.isGap []), rfl⟩
  | @token before symbols symbol gap s rest hgap _ hspells h ih =>
    obtain ⟨pieces, last, hcuts, hsymbols⟩ := ih
    rw [List.foldl_append, List.foldl_cons, List.foldl_nil] at hcuts
    rw [isOpen_iff] at hgap
    have hrest : Breaks rest := h.breaks (List.append_ne_nil_of_right_ne_nil before (List.cons_ne_nil symbol []))
    exact ⟨⟨gap, s, symbol⟩ :: pieces, last, .token (hgap.isGap _) (hspells.isToken hrest) hcuts,
      congrArg (symbol :: ·) hsymbols⟩

/-- Tokens that have a text can be written one after the other, and scanning what is written gives these tokens back and
no others. -/
theorem scan_of_written (symbols : List Symbol) :
    ((∃ text, Written [] symbols text) ↔ ∀ symbol ∈ symbols, IsLexical symbol) ∧
      ∀ source : String, Written [] symbols source.toList →
        ∃ ts, scan source = .ok ts ∧ ts.tokens.map (·.symbol) = symbols := by
  refine ⟨exists_written_iff [] symbols, fun source h => ?_⟩
  obtain ⟨pieces, last, hcuts, hsymbols⟩ := h.exists_cuts
  exact ⟨_, scan_of_cuts hcuts, (map_symbol_tokensOf _ _ _ _).trans hsymbols⟩

/-- A call over two lines, with a comment in it and with both kinds of quotes. -/
theorem scan_of_written_call :
    let symbols : List Symbol := [.name "f", .openParen, .str "it's", .str "\\\n", .closeParen, .separator, .int 12]
    let source := "f ( 'it\\'s' # both\n\t\"\\\\\\n\" ) ; 12"
    Written [] symbols source.toList ∧ ∃ ts, scan source = .ok ts ∧ ts.tokens.map (·.symbol) = symbols := by
  intro symbols source
  have space (isOpen : Prop) : Spacing isOpen [' '] := .blank rfl (by decide) .nil
  have hopen : IsOpen [.name "f", .openParen, .str "it's"] := ⟨[.openParen, .str "it's"], ⟨[.name "f"], rfl⟩, by decide⟩
  have hcomment : Spacing (IsOpen [.name "f", .openParen, .str "it's"]) " # both\n\t".toList :=
    .blank rfl (by decide) (@Spacing.comment _ " both".toList _ hopen (by decide) (.blank rfl (by decide) .nil))
  have hit's : Escapes '\'' "it's".toList "it\\'s".toList :=
    .raw (by decide) (.raw (by decide) (.sign (by decide) (.raw (by decide) .nil)))
  have hescaped : Escapes '"' "\\\n".toList "\\\\\\n".toList := .sign (by decide) (.lineFeed .nil)
  obtain ⟨text, rfl, hwritten⟩ : ∃ text, source.toList = text ∧ Written [] symbols text := by
    refine ⟨_, ?_, .token .nil nofun (@Spells.name 'f' [] rfl nofun)
      (.token (space _) nofun (@Spells.sign .openParen _ rfl)
        (.token (space _) nofun (.str (by decide) hit's)
          (.token hcomment nofun (.str (by decide) hescaped)
            (.token (space _) nofun (@Spells.sign .closeParen _ rfl)
              (.token (space _) nofun (@Spells.sign .separator _ rfl)
                (.token (space _) nofun (@Spells.int 12 (by decide)) (.stop .nil)))))))⟩
    decide
  exact ⟨hwritten, (scan_of_written symbols).2 _ hwritten⟩

end Token

end SampleRecorder.Script
