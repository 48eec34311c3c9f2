import SampleRecorder.Proofs.Script.Kinds
import SampleRecorder.Proofs.Script.Parsing
import SampleRecorder.Proofs.Text.Size

/-!
# The texts in a program

A text in a program is written in the source between quotes, and an escape is not shorter than what it stands for.  So
no text in a compiled program is larger than the source (`texts_of_compile`).
-/

namespace SampleRecorder.Script

open Text

/-! ### Values and expressions with bounded texts -/

/-- Whether every text in a value, an item of a list included, has at most a number of bytes. -/
inductive Value.Within (bound : Nat) : Value → Prop where
  | null : Within bound .null
  | bool (b : Bool) : Within bound (.bool b)
  | int (n : Int64) : Within bound (.int n)
  | float (x : Float) : Within bound (.float x)
  | str {s : String} (h : s.utf8ByteSize ≤ bound) : Within bound (.str s)
  | list {items : List Value} (h : ∀ v ∈ items, Within bound v) : Within bound (.list items)

/-- What can be written in an expression whose texts have at most a number of bytes: all values but lists. -/
inductive Value.IsLiteral (bound : Nat) : Value → Prop where
  | atomic {v : Value} (h : v.IsAtomic) : IsLiteral bound v
  | str {s : String} (h : s.utf8ByteSize ≤ bound) : IsLiteral bound (.str s)

mutual

/-- Whether every text that is written in an expression has at most a number of bytes. -/
def Expr.TextsWithin (bound : Nat) : Expr → Prop
  | .literal v => v.IsLiteral bound
  | .var _ => True
  | .index target position => target.TextsWithin bound ∧ position.TextsWithin bound
  | .neg operand | .not operand => operand.TextsWithin bound
  | .binary _ left right | .and left right | .or left right => left.TextsWithin bound ∧ right.TextsWithin bound
  | .call _ arguments => ArgumentTextsWithin bound arguments
  | .search input _ => input.TextsWithin bound
  | .searchGroup input _ group => input.TextsWithin bound ∧ group.TextsWithin bound

/-- Whether every text that is written in arguments has at most a number of bytes. -/
def ArgumentTextsWithin (bound : Nat) : List Expr → Prop
  | [] => True
  | a :: rest => a.TextsWithin bound ∧ ArgumentTextsWithin bound rest

end

/-- Whether every text that is written in a statement has at most a number of bytes. -/
def Stmt.TextsWithin (bound : Nat) : Stmt → Prop
  | .bind _ value | .assign _ value | .eval value => value.TextsWithin bound
  | .reject => True

/-- Whether the text of a symbol has at most a number of bytes. -/
def Symbol.TextWithin (bound : Nat) : Symbol → Prop
  | .str s => s.utf8ByteSize ≤ bound
  | _ => True

theorem Symbol.TextWithin.mono {bound bound' : Nat} {symbol : Symbol} (h : symbol.TextWithin bound)
    (hle : bound ≤ bound') : symbol.TextWithin bound' := by
  cases symbol with
  | str s => exact Nat.le_trans h hle
  | _ => trivial

/-! ### Tokens -/

namespace Token

theorem bytes_unescape_le (c : Char) : bytes (unescape c) ≤ '\\'.utf8Size + c.utf8Size := by
  unfold unescape
  split <;> simp <;> decide

/-- The content of a string and what follows it come from the text. -/
theorem bytes_of_stringBody? {quote : Char} {s body rest : List Char} {n : Nat}
    (h : stringBody? quote s = some (body, n, rest)) : bytes body + bytes rest ≤ bytes s := by
  fun_induction stringBody? quote s generalizing body n rest with
  | case1 => cases h
  | case2 s => cases h; simp
  | case3 => cases h
  | case4 => cases h
  | case5 e r hquote hline ih =>
    obtain ⟨⟨body', n', rest'⟩, hbody, heq⟩ := Option.map_eq_some_iff.mp h
    cases heq
    have hescaped := bytes_unescape_le e
    have hrest := ih hbody
    rw [bytes_append, bytes_cons, bytes_cons]
    omega
  | case6 c s hquote hline hescape ih =>
    obtain ⟨⟨body', n', rest'⟩, hbody, heq⟩ := Option.map_eq_some_iff.mp h
    cases heq
    have hrest := ih hbody
    rw [bytes_cons, bytes_cons]
    omega

theorem textWithin_single? {c : Char} {symbol : Symbol} (h : single? c = some symbol) (bound : Nat) :
    symbol.TextWithin bound := by
  unfold single? at h
  split at h <;> cases h <;> trivial

theorem textWithin_comparison (c : Char) (twice : Bool) (bound : Nat) : (comparison c twice).TextWithin bound := by
  unfold comparison
  split <;> trivial

theorem textWithin_number? {text : List Char} {isFloat : Bool} {symbol : Symbol} (h : number? text isFloat = some symbol)
    (bound : Nat) : symbol.TextWithin bound := by
  unfold number? at h
  split at h
  · cases h
    trivial
  · obtain ⟨x, -, rfl⟩ := Option.map_eq_some_iff.mp h
    trivial

/-- A token is cut from the text in front of the rest. -/
theorem bytes_of_lexeme {c : Char} {s rest : List Char} {symbol : Symbol} {n : Nat}
    (h : lexeme c s = .ok (symbol, n, rest)) : symbol.TextWithin (bytes s) ∧ bytes rest ≤ bytes s := by
  unfold lexeme at h
  split at h
  · next hsingle =>
    cases h
    exact ⟨textWithin_single? hsingle _, Nat.le_refl _⟩
  · split at h
    · split at h <;> cases h
      · exact ⟨textWithin_comparison .., by simp⟩
      · exact ⟨textWithin_comparison .., Nat.le_refl _⟩
    · split at h
      · split at h
        · split at h <;> cases h
          refine ⟨?_, by simp⟩
          split <;> trivial
        · cases h
      · split at h
        · split at h <;> cases h
          next hbody =>
          have := bytes_of_stringBody? hbody
          refine ⟨?_, by omega⟩
          show (String.ofList _).utf8ByteSize ≤ _
          rw [utf8ByteSize_ofList]
          omega
        · split at h
          · dsimp only at h
            split at h
            · next hnumber =>
              cases h
              exact ⟨textWithin_number? hnumber _, bytes_le_of_sublist (List.drop_sublist _ s)⟩
            · cases h
          · split at h <;> cases h
            exact ⟨trivial, bytes_le_of_sublist (List.dropWhile_sublist _)⟩

theorem allTokens_prepend {T : Symbol → Prop} {t : Token} {ts : Tokens} (ht : T t.symbol)
    (hts : Parse.AllTokens T ts.tokens) : Parse.AllTokens T (prepend t ts).tokens :=
  List.forall_mem_cons.mpr ⟨ht, hts⟩

theorem gives_scanFrom (bound fuel depth : Nat) (p : Position) {s : List Char} (h : bytes s ≤ bound) :
    Gives (scanFrom fuel depth p s) fun ts => Parse.AllTokens (Symbol.TextWithin bound) ts.tokens := by
  induction fuel generalizing depth p s with
  | zero => exact .ok nofun
  | succ fuel ih =>
    cases s with
    | nil => exact .ok nofun
    | cons c s =>
      have hs : bytes s ≤ bound := by
        rw [bytes_cons] at h
        omega
      rw [scanFrom]
      split
      · refine (ih depth _ hs).map fun ts hts => ?_
        split
        · exact allTokens_prepend trivial hts
        · exact hts
      · split
        · exact ih depth _ hs
        · split
          · exact ih depth _ (Nat.le_trans (bytes_le_of_sublist (List.dropWhile_sublist _)) hs)
          · split
            · exact .error _
            · next symbol n rest hlexeme =>
              obtain ⟨hsymbol, hrest⟩ := bytes_of_lexeme hlexeme
              refine (ih _ _ (Nat.le_trans hrest hs)).map fun ts hts => allTokens_prepend ?_ hts
              exact hsymbol.mono hs

end Token

/-! ### Programs -/

namespace Parse

variable {bound : Nat} {sc : Scope} {ts : List Token}

theorem isLiteral_of_symbols {v : Value} {s : Symbol} (hv : v.symbols = [s]) (hs : s.TextWithin bound) :
    v.IsLiteral bound := by
  cases v with
  | null => exact .atomic .null
  | bool b => exact .atomic (.bool b)
  | int n => exact .atomic (.int n)
  | float x => exact .atomic (.float x)
  | str t =>
    obtain rfl : Symbol.str t = s := List.singleton_inj.mp hv
    exact .str hs
  | list items => cases hv

theorem argumentTextsWithin_of_forall {arguments : List Expr} (h : ∀ a ∈ arguments, a.TextsWithin bound) :
    ArgumentTextsWithin bound arguments := by
  induction arguments with
  | nil => trivial
  | cons a rest ih =>
    obtain ⟨ha, hrest⟩ := List.forall_mem_cons.mp h
    exact ⟨ha, ih hrest⟩

theorem textsWithin_joiner {n : Nat} {s : Symbol} {join : Expr → Expr → Expr} (h : joiner? n s = some join)
    {left right : Expr} (hl : left.TextsWithin bound) (hr : right.TextsWithin bound) :
    (join left right).TextsWithin bound := by
  unfold joiner? at h
  split at h <;> cases h
  all_goals exact ⟨hl, hr⟩

theorem gives_searchOf_texts {arguments : List Expr} (h : ArgumentTextsWithin bound arguments) (place : Position) :
    Gives (searchOf place arguments) (Expr.TextsWithin bound) := by
  unfold searchOf
  dsimp only
  split
  · exact .map_any fun _ => h.1
  · exact .map_any fun _ => ⟨h.1, h.2.2.1⟩
  · exact .error _
  · exact .error _
  · exact .error _

theorem gives_callOf_texts (name : String) (place : Position) {arguments : List Expr}
    (h : ArgumentTextsWithin bound arguments) : Gives (callOf name place arguments) (Expr.TextsWithin bound) := by
  unfold callOf
  split
  · exact gives_searchOf_texts h place
  · split
    · exact .error _
    · split
      · exact .ok h
      · exact .error _

theorem gives_nameOf_texts (name : String) (place : Position) :
    Gives (nameOf sc name place) (Expr.TextsWithin bound) := by
  unfold nameOf
  split
  · exact .ok trivial
  · exact .error _

theorem composes_textsWithin (sc : Scope) (bound : Nat) :
    Composes sc (Symbol.TextWithin bound) (Expr.TextsWithin bound) where
  literal _ _ hv hs := isLiteral_of_symbols hv hs
  name := gives_nameOf_texts
  neg _ h := h
  not _ h := h
  index _ _ htarget hposition := ⟨htarget, hposition⟩
  join _ _ _ _ _ h hleft hright := textsWithin_joiner h hleft hright
  call name place _ h := gives_callOf_texts name place (argumentTextsWithin_of_forall h)

theorem gives_bindingName_tokens {T : Symbol → Prop} (h : AllTokens T ts) :
    Gives (bindingName sc ts) fun r => AllTokens T r.2 := by
  unfold bindingName
  split
  · split
    · exact .error _
    · exact .ok h.tail
  · exact .error _

theorem gives_statement_texts (h : AllTokens (Symbol.TextWithin bound) ts) :
    Gives (statement sc ts) fun r => r.1.TextsWithin bound ∧ AllTokens (Symbol.TextWithin bound) r.2 := by
  have top {ts : List Token} (h : AllTokens (Symbol.TextWithin bound) ts) :=
    (composes_textsWithin sc bound).gives_topExpr h
  unfold statement
  split
  · refine (gives_bindingName_tokens h.tail).bind fun name hname => (gives_expect _ hname).bind fun rest hrest => ?_
    exact (top hrest).bind fun r hr => .ok hr
  · exact .ok ⟨trivial, h.tail⟩
  · refine (gives_bindingName_tokens h).bind fun name hname => (top ?_).bind fun r hr => .ok hr
    exact fun t ht => hname t (List.mem_of_mem_tail ht)
  · exact (top h).bind fun r hr => .ok hr

theorem gives_statements_texts (fuel : Nat) (h : AllTokens (Symbol.TextWithin bound) ts) :
    Gives (statements fuel sc ts) fun list => ∀ s ∈ list, s.TextsWithin bound := by
  induction fuel generalizing sc ts with
  | zero => exact .ok nofun
  | succ fuel ih =>
    cases ts with
    | nil => exact .ok nofun
    | cons t rest =>
      rw [statements]
      split
      · exact ih h.tail
      · refine (gives_statement_texts h).bind fun r hr => ?_
        obtain ⟨s, rest⟩ := r
        obtain ⟨hs, hrest⟩ := hr
        dsimp only
        split
        · exact .ok (List.forall_mem_singleton.mpr hs)
        · exact (ih hrest.tail).map fun list hlist => List.forall_mem_cons.mpr ⟨hs, hlist⟩
        · exact .error _

end Parse

/-- No text in a compiled program is larger than a source may be. -/
theorem Program.texts_of_compile {source : String} {p : Program} (h : compile source = .ok p) :
    ∀ s ∈ p.statements, s.TextsWithin sourceLimit := by
  have gives : Gives (compile source) fun p => ∀ s ∈ p.statements, s.TextsWithin sourceLimit := by
    unfold compile
    split
    · exact .error _
    · next hsize =>
      have hbytes : bytes source.toList ≤ sourceLimit := by
        rw [bytes_toList]
        omega
      refine .mapError (.bind (Token.gives_scanFrom sourceLimit _ 0 _ hbytes) fun ts hts => ?_) _
      exact (Parse.gives_statements_texts _ hts).map fun list hlist => hlist
  exact gives p h

end SampleRecorder.Script
