import SampleRecorder.Proofs.Postcondition
import SampleRecorder.Proofs.Script.Rendering

/-!
# What the parser takes from its tokens

An expression is read from the tokens in front of what is left (`Reading`).  They close all brackets that they open, the
brackets nest less deep than the limit, and so do the indices and arguments of the expression; signs are not counted.
A fault is placed at one of the tokens or behind them, and too deep are brackets alone (`Refusal`).  The functions of the
parser call each other with less fuel, so this is shown for all of them at once, by induction on the fuel (`Takes`).
With sixteen times as much fuel as there are tokens it does not run out.
-/

namespace SampleRecorder.Script

/-! ### Measures of expressions -/

mutual

/-- How deep indices, arguments and, with the weight `sign`, prefix operators nest. -/
def Expr.nesting (sign : Nat) : Expr → Nat
  | .literal _ | .var _ => 0
  | .index target position => max (target.nesting sign) (position.nesting sign + 1)
  | .neg operand | .not operand => operand.nesting sign + sign
  | .binary _ left right | .and left right | .or left right => max (left.nesting sign) (right.nesting sign)
  | .call _ arguments => argumentNesting sign arguments + 1
  | .search input _ => input.nesting sign + 1
  | .searchGroup input _ group => max (input.nesting sign) (group.nesting sign) + 1

def argumentNesting (sign : Nat) : List Expr → Nat
  | [] => 0
  | a :: rest => max (a.nesting sign) (argumentNesting sign rest)

end

mutual

/-- How many expressions are evaluated inside one another. -/
def Expr.height : Expr → Nat
  | .literal _ | .var _ => 1
  | .index target position => max target.height position.height + 1
  | .neg operand | .not operand => operand.height + 1
  | .binary _ left right | .and left right | .or left right => max left.height right.height + 1
  | .call _ arguments => argumentHeight arguments + 1
  | .search input _ => input.height + 1
  | .searchGroup input _ group => max input.height group.height + 1

def argumentHeight : List Expr → Nat
  | [] => 0
  | a :: rest => max a.height (argumentHeight rest)

end

theorem nesting_le_of_mem {sign : Nat} {a : Expr} {list : List Expr} (h : a ∈ list) :
    a.nesting sign ≤ argumentNesting sign list ∧ a.height ≤ argumentHeight list := by
  induction list with
  | nil => cases h
  | cons b list ih =>
    rw [argumentNesting, argumentHeight]
    rcases List.mem_cons.mp h with rfl | h
    · exact ⟨Nat.le_max_left _ _, Nat.le_max_left _ _⟩
    · have := ih h
      omega

def Stmt.nesting (sign : Nat) : Stmt → Nat
  | .bind _ value | .assign _ value | .eval value => value.nesting sign
  | .reject => 0

def Stmt.height : Stmt → Nat
  | .bind _ value | .assign _ value | .eval value => value.height
  | .reject => 0

namespace Parse

/-- The symbols of tokens. -/
def symbolsOf (ts : List Token) : List Symbol :=
  ts.map (·.symbol)

@[simp] theorem symbolsOf_cons (t : Token) (ts : List Token) : symbolsOf (t :: ts) = t.symbol :: symbolsOf ts :=
  rfl

@[simp] theorem symbolsOf_append (a b : List Token) : symbolsOf (a ++ b) = symbolsOf a ++ symbolsOf b :=
  List.map_append

/-! ### What is read -/

/-- Tokens that are read with `d` brackets open, in front of the rest: what they spell has indices and arguments that nest
`n` deep, and `h` expressions inside one another. -/
structure Reading (d : Nat) (ts used rest : List Token) (n h : Nat) : Prop where
  split : ts = used ++ rest
  ne_nil : used ≠ []
  balanced : Balanced (symbolsOf used)
  shallow : deepest d (symbolsOf used) < depthLimit
  nesting_le : n + d ≤ deepest d (symbolsOf used)
  height_le : h ≤ used.length

/-- Symbols that open or close no bracket. -/
def IsNeutral (s : Symbol) : Prop :=
  ∀ d, Token.nesting d s = d

namespace Reading

variable {d n h n' h' : Nat} {t last : Token} {ts used used' mid rest : List Token}

theorem mono (hr : Reading d ts used rest n h) (hn : n' ≤ n) (hh : h' ≤ h) : Reading d ts used rest n' h' := by
  have := hr.nesting_le
  have := hr.height_le
  exact ⟨hr.split, hr.ne_nil, hr.balanced, hr.shallow, by omega, by omega⟩

theorem length_lt (hr : Reading d ts used rest n h) : rest.length < ts.length := by
  have := List.length_pos_iff.mpr hr.ne_nil
  rw [hr.split, List.length_append]
  omega

/-- One token, which is a literal or a name. -/
theorem single (ht : IsNeutral t.symbol) (hd : d < depthLimit) : Reading d (t :: rest) [t] rest 0 1 := by
  have hdeepest : deepest d (symbolsOf [t]) = d := by
    show max d (Token.nesting d t.symbol) = d
    rw [ht]
    exact Nat.max_self d
  refine ⟨rfl, List.cons_ne_nil _ _, ?_, ?_, ?_, Nat.le_refl _⟩
  · exact .cons ht .nil
  · rw [hdeepest]
    exact hd
  · rw [hdeepest]
    omega

/-- A sign or another token in front of what is read. -/
theorem cons (ht : IsNeutral t.symbol) (hr : Reading d ts used rest n h) :
    Reading d (t :: ts) (t :: used) rest n (h + 1) := by
  have hdeepest : deepest d (symbolsOf (t :: used)) = deepest d (symbolsOf used) := by
    rw [symbolsOf_cons, deepest, ht]
    exact Nat.max_eq_right (le_deepest d _)
  refine ⟨?_, List.cons_ne_nil _ _, .cons ht hr.balanced, ?_, ?_, Nat.succ_le_succ hr.height_le⟩
  · rw [hr.split]
    rfl
  · rw [hdeepest]
    exact hr.shallow
  · rw [hdeepest]
    exact hr.nesting_le

/-- What is read one after the other. -/
theorem append (hr : Reading d ts used mid n h) (hr' : Reading d mid used' rest n' h') :
    Reading d ts (used ++ used') rest (max n n') (h + h') := by
  have hdeepest : deepest d (symbolsOf (used ++ used')) =
      max (deepest d (symbolsOf used)) (deepest d (symbolsOf used')) := by
    rw [symbolsOf_append, deepest_append, hr.balanced]
  have := hr.shallow
  have := hr'.shallow
  have := hr.nesting_le
  have := hr'.nesting_le
  have := hr.height_le
  have := hr'.height_le
  refine ⟨?_, ?_, ?_, by omega, by omega, by rw [List.length_append]; omega⟩
  · rw [hr.split, hr'.split, List.append_assoc]
  · exact fun hnil => hr.ne_nil (List.append_eq_nil_iff.mp hnil).1
  · rw [symbolsOf_append]
    exact hr.balanced.append hr'.balanced

/-- What is read between brackets. -/
theorem enclosed (hr : Reading (d + 1) ts used (last :: rest) n h) (first : Token)
    (hfirst : ∀ d, Token.nesting d first.symbol = d + 1) (hlast : ∀ d, Token.nesting d last.symbol = d - 1) :
    Reading d (first :: ts) (first :: used ++ [last]) rest (n + 1) (h + 2) := by
  have hsymbols : symbolsOf (first :: used ++ [last]) = first.symbol :: symbolsOf used ++ [last.symbol] := by
    rw [List.cons_append, symbolsOf_cons, symbolsOf_append, List.cons_append]
    rfl
  have hle := le_deepest (d + 1) (symbolsOf used)
  have hdeepest : deepest d (symbolsOf (first :: used ++ [last])) = deepest (d + 1) (symbolsOf used) := by
    rw [hsymbols, List.cons_append, deepest, hfirst, deepest_append, hr.balanced]
    show max d (max _ (max (d + 1) (Token.nesting (d + 1) last.symbol))) = _
    rw [hlast]
    omega
  have := hr.nesting_le
  have := hr.height_le
  refine ⟨?_, List.cons_ne_nil _ _, ?_, ?_, ?_, ?_⟩
  · rw [hr.split, List.cons_append, List.cons_append, List.append_assoc]
    rfl
  · rw [hsymbols]
    exact .bracketed hfirst hlast hr.balanced
  · rw [hdeepest]
    exact hr.shallow
  · rw [hdeepest]
    omega
  · rw [List.length_append, List.length_cons]
    show h + 2 ≤ used.length + 1 + 1
    omega

end Reading

/-! ### What is refused -/

/-- A fault on tokens that are read with `d` brackets open.  If the fuel is enough, an expression is too deep only where
brackets nest as deep as the limit. -/
structure Refusal (stop : Position) (d : Nat) (ts : List Token) (enough : Prop) (f : SyntaxFault) : Prop where
  placed : f.position = stop ∨ ∃ t ∈ ts, f.position = t.position
  deep : enough → f.reason = .tooDeep → depthLimit ≤ deepest d (symbolsOf ts)

namespace Refusal

variable {stop : Position} {d d' : Nat} {ts used rest : List Token} {enough enough' : Prop} {f : SyntaxFault}

theorem of_placed (hplaced : f.position = stop ∨ ∃ t ∈ ts, f.position = t.position) (hreason : f.reason ≠ .tooDeep) :
    Refusal stop d ts enough f :=
  ⟨hplaced, fun _ h => absurd h hreason⟩

theorem at_head {t : Token} (hf : f.position = t.position ∧ f.reason ≠ .tooDeep) :
    Refusal stop d (t :: rest) enough f :=
  .of_placed (.inr ⟨t, List.mem_cons_self, hf.1⟩) hf.2

theorem placed_here (sc : Scope) (ts : List Token) : sc.here ts = sc.stop ∨ ∃ t ∈ ts, sc.here ts = t.position := by
  cases ts with
  | nil => exact .inl rfl
  | cons t ts => exact .inr ⟨t, List.mem_cons_self, rfl⟩

/-- A fault that is found later. -/
theorem later (hsplit : ts = used ++ rest) (hopen : (symbolsOf used).foldl Token.nesting d = d')
    (h : Refusal stop d' rest enough' f) (henough : enough → enough') : Refusal stop d ts enough f := by
  subst hsplit
  refine ⟨h.placed.imp_right fun ⟨t, ht, heq⟩ => ⟨t, List.mem_append_right used ht, heq⟩, fun he hreason => ?_⟩
  rw [symbolsOf_append, deepest_append, hopen]
  exact Nat.le_trans (h.deep (henough he) hreason) (Nat.le_max_right _ _)

theorem cons {t : Token} (hopen : Token.nesting d t.symbol = d') (h : Refusal stop d' rest enough' f)
    (henough : enough → enough') : Refusal stop d (t :: rest) enough f := by
  have hsplit : t :: rest = [t] ++ rest := rfl
  exact later hsplit hopen h henough

theorem imp (h : Refusal stop d ts enough' f) (henough : enough → enough') : Refusal stop d ts enough f :=
  ⟨h.placed, fun he => h.deep (henough he)⟩

theorem of_reading {n h : Nat} (hr : Reading d ts used rest n h) (hf : Refusal stop d rest enough' f)
    (henough : enough → enough') : Refusal stop d ts enough f :=
  later hr.split (hr.balanced d) hf henough

end Refusal

/-! ### The parts of the parser that do not call themselves -/

section Parts

variable {sc : Scope} {d : Nat} {ts : List Token} {enough : Prop}

theorem ensures_expect (sc : Scope) (what : Expected) (d : Nat) (ts : List Token) (enough : Prop) :
    Ensures (expect sc what ts) (fun rest => ∃ t, ts = t :: rest ∧ accepts what t.symbol = true)
      (Refusal sc.stop d ts enough) := by
  have hrefused : Refusal sc.stop d ts enough ⟨sc.here ts, .expected what⟩ :=
    .of_placed (Refusal.placed_here sc ts) (by intro h; cases h)
  unfold expect
  split
  · next t rest =>
    split
    · next haccepts => exact .ok ⟨t, rfl, haccepts⟩
    · exact .error hrefused
  · exact .error hrefused

theorem nesting_of_accepts {what : Expected} {s : Symbol} (hwhat : what = .closeParen ∨ what = .closeBracket)
    (h : accepts what s = true) (d : Nat) : Token.nesting d s = d - 1 := by
  rcases hwhat with rfl | rfl
  · cases s <;> first | rfl | cases h
  · cases s <;> first | rfl | cases h

theorem isNeutral_of_accepts_assign {s : Symbol} (h : accepts .assign s = true) : IsNeutral s := by
  intro d
  cases s <;> first | rfl | cases h

/-- An operator opens no bracket, and what it makes of two operands nests as deep as the deeper of them. -/
theorem joiner?_measures {n : Nat} {s : Symbol} {join : Expr → Expr → Expr} (h : joiner? n s = some join) :
    IsNeutral s ∧ ∀ left right, (join left right).nesting 0 = max (left.nesting 0) (right.nesting 0) ∧
      (join left right).height = max left.height right.height + 1 := by
  unfold joiner? at h
  split at h <;> cases h <;>
    exact ⟨fun _ => rfl, fun left right => ⟨by rw [Expr.nesting], by rw [Expr.height]⟩⟩

/-- A call has arguments, and it nests one deeper than they do. -/
def IsCallOf (list : List Expr) (e : Expr) : Prop :=
  list ≠ [] ∧ e.nesting 0 ≤ argumentNesting 0 list + 1 ∧ e.height ≤ argumentHeight list + 1

theorem ensures_searchOf (place : Position) (list : List Expr) :
    Ensures (searchOf place list) (IsCallOf list) fun f => f.position = place ∧ f.reason ≠ .tooDeep := by
  unfold searchOf
  dsimp only
  split
  · next input pattern =>
    cases Regex.compile? pattern with
    | error fault => exact .error ⟨rfl, by intro h; cases h⟩
    | ok regex =>
      obtain ⟨hnesting, hheight⟩ := @nesting_le_of_mem 0 input [input, .literal (.str pattern)] List.mem_cons_self
      refine .ok ⟨List.cons_ne_nil _ _, ?_, ?_⟩
      · rw [Expr.nesting]
        omega
      · rw [Expr.height]
        omega
  · next input pattern group =>
    cases Regex.compile? pattern with
    | error fault => exact .error ⟨rfl, by intro h; cases h⟩
    | ok regex =>
      have hinput := @nesting_le_of_mem 0 input [input, .literal (.str pattern), group] List.mem_cons_self
      have hgroup := @nesting_le_of_mem 0 group [input, .literal (.str pattern), group]
        (List.mem_cons_of_mem _ (List.mem_cons_of_mem _ List.mem_cons_self))
      refine .ok ⟨List.cons_ne_nil _ _, ?_, ?_⟩
      · rw [Expr.nesting]
        omega
      · rw [Expr.height]
        omega
  · exact .error ⟨rfl, by intro h; cases h⟩
  · exact .error ⟨rfl, by intro h; cases h⟩
  · exact .error ⟨rfl, by intro h; cases h⟩

theorem ensures_callOf (name : String) (place : Position) (list : List Expr) :
    Ensures (callOf name place list) (IsCallOf list) fun f => f.position = place ∧ f.reason ≠ .tooDeep := by
  unfold callOf
  split
  · exact ensures_searchOf place list
  · split
    · exact .error ⟨rfl, by intro h; cases h⟩
    · split
      · next haccepts =>
        refine .ok ⟨Builtin.ne_nil_of_accepts haccepts, ?_, ?_⟩
        · exact Nat.le_of_eq (by rw [Expr.nesting])
        · exact Nat.le_of_eq (by rw [Expr.height])
      · exact .error ⟨rfl, by intro h; cases h⟩

theorem ensures_nameOf (sc : Scope) (name : String) (place : Position) :
    Ensures (nameOf sc name place) (fun e => e.nesting 0 = 0 ∧ e.height = 1)
      fun f => f.position = place ∧ f.reason ≠ .tooDeep := by
  unfold nameOf
  split
  · refine .ok ⟨?_, ?_⟩
    · rw [Expr.nesting]
    · rw [Expr.height]
  · exact .error ⟨rfl, by intro h; cases h⟩

/-- What is read with one more bracket open, up to the bracket that closes it, and what is done with it. -/
theorem ensures_enclosed {α β : Type} {n h : α → Nat} {x : Except SyntaxFault (α × List Token)} {rest : List Token}
    (hx : Ensures x (fun r => ∃ used, Reading (d + 1) rest used r.2 (n r.1) (h r.1))
      (Refusal sc.stop (d + 1) rest enough))
    (first : Token) (hfirst : ∀ d, Token.nesting d first.symbol = d + 1) {what : Expected}
    (hwhat : what = .closeParen ∨ what = .closeBracket) (next : α → List Token → Except SyntaxFault β)
    {p : β → Prop} {q : SyntaxFault → Prop} (hq : ∀ f, Refusal sc.stop d (first :: rest) enough f → q f)
    (hnext : ∀ a used after, Reading d (first :: rest) used after (n a + 1) (h a + 2) → Ensures (next a after) p q) :
    Ensures (x >>= fun r => expect sc what r.2 >>= fun after => next r.1 after) p q := by
  refine hx.bind (fun f hf => hq f (hf.cons (hfirst d) id)) fun r hr => ?_
  obtain ⟨a, mid⟩ := r
  obtain ⟨used, hr⟩ := hr
  refine (ensures_expect sc what (d + 1) mid enough).bind (fun f hf => ?_) fun after hclose => ?_
  · exact hq f (.cons (hfirst d) (.of_reading hr hf id) id)
  · obtain ⟨last, rfl, haccepts⟩ := hclose
    exact hnext a _ after (hr.enclosed first hfirst (nesting_of_accepts hwhat haccepts))

end Parts

/-! ### The parts that call each other -/

/-- Whether an expression and the tokens behind it come from reading tokens with `d` brackets open. -/
def IsRead (d : Nat) (ts : List Token) (r : Expr × List Token) : Prop :=
  ∃ used, Reading d ts used r.2 (r.1.nesting 0) r.1.height

/-- What the functions of the parser do with some fuel on tokens that are read with `d` brackets open. -/
structure Takes (sc : Scope) (fuel : Nat) : Prop where
  expr : ∀ d ts, Ensures (Parse.expr sc fuel d ts) (IsRead d ts) (Refusal sc.stop d ts (16 * ts.length + 10 ≤ fuel))
  level : ∀ d n ts, d < depthLimit → n ≤ levelCount →
    Ensures (Parse.level sc fuel (d + 1) n ts) (IsRead d ts) (Refusal sc.stop d ts (16 * ts.length + n + 3 ≤ fuel))
  joined : ∀ d n left whole ts, d < depthLimit → n < levelCount → IsRead d whole (left, ts) →
    Ensures (Parse.joined sc fuel (d + 1) n left ts) (IsRead d whole) (Refusal sc.stop d ts (16 * ts.length + 1 ≤ fuel))
  unary : ∀ d ts, d < depthLimit →
    Ensures (Parse.unary sc fuel (d + 1) ts) (IsRead d ts) (Refusal sc.stop d ts (16 * ts.length + 2 ≤ fuel))
  indexed : ∀ d target whole ts, d < depthLimit → IsRead d whole (target, ts) →
    Ensures (Parse.indexed sc fuel (d + 1) target ts) (IsRead d whole)
      (Refusal sc.stop d ts (16 * ts.length + 1 ≤ fuel))
  primary : ∀ d ts, d < depthLimit →
    Ensures (Parse.primary sc fuel (d + 1) ts) (IsRead d ts) (Refusal sc.stop d ts (16 * ts.length + 1 ≤ fuel))
  arguments : ∀ d ts,
    Ensures (Parse.arguments sc fuel d ts)
      (fun r => ∃ used, Reading d ts used r.2 (argumentNesting 0 r.1) (argumentHeight r.1))
      (Refusal sc.stop d ts (16 * ts.length + 11 ≤ fuel))

namespace Takes

variable {sc : Scope} {fuel d n : Nat} {ts : List Token}

theorem refuse_zero (sc : Scope) (d : Nat) (ts : List Token) {α : Type} {p : α → Prop} (k : Nat) :
    Ensures (sc.refuse ts .tooDeep) p (Refusal sc.stop d ts (k + 1 ≤ 0)) := by
  refine .error ⟨Refusal.placed_here sc ts, fun h => ?_⟩
  omega

theorem zero (sc : Scope) : Takes sc 0 := by
  constructor
  all_goals
    intros
    simp only [Parse.expr, Parse.level, Parse.joined, Parse.unary, Parse.indexed, Parse.primary, Parse.arguments]
    exact refuse_zero sc _ _ _

theorem expr_succ (h : Takes sc fuel) (d : Nat) (ts : List Token) :
    Ensures (Parse.expr sc (fuel + 1) d ts) (IsRead d ts) (Refusal sc.stop d ts (16 * ts.length + 10 ≤ fuel + 1)) := by
  rw [Parse.expr]
  split
  · next hdepth => exact .error ⟨Refusal.placed_here sc ts, fun _ _ => Nat.le_trans hdepth (le_deepest d _)⟩
  · next hdepth =>
    have hlevel := h.level d levelCount ts (by omega) (Nat.le_refl _)
    refine hlevel.imp (fun _ hr => hr) fun _ hf => hf.imp ?_
    rw [levelCount]
    omega

theorem level_succ (h : Takes sc fuel) (hd : d < depthLimit) (hn : n ≤ levelCount) (ts : List Token) :
    Ensures (Parse.level sc (fuel + 1) (d + 1) n ts) (IsRead d ts)
      (Refusal sc.stop d ts (16 * ts.length + n + 3 ≤ fuel + 1)) := by
  cases n with
  | zero =>
    rw [Parse.level]
    exact (h.unary d ts hd).imp (fun _ hr => hr) fun _ hf => hf.imp (by omega)
  | succ n =>
    rw [Parse.level]
    refine (h.level d n ts hd (by omega)).bind (fun _ hf => hf.imp (by omega)) fun r hr => ?_
    have hjoined := h.joined d n r.1 ts r.2 hd (by omega) hr
    obtain ⟨used, hr⟩ := hr
    have hshorter := hr.length_lt
    exact hjoined.imp (fun _ hr' => hr') fun _ hf => .of_reading hr hf (by omega)

theorem joined_succ (h : Takes sc fuel) (hd : d < depthLimit) (hn : n < levelCount) {left : Expr} {whole : List Token}
    (hleft : IsRead d whole (left, ts)) :
    Ensures (Parse.joined sc (fuel + 1) (d + 1) n left ts) (IsRead d whole)
      (Refusal sc.stop d ts (16 * ts.length + 1 ≤ fuel + 1)) := by
  cases ts with
  | nil =>
    rw [Parse.joined]
    exact .ok hleft
  | cons t rest =>
    rw [Parse.joined]
    split
    · exact .ok hleft
    · next join hjoin =>
      obtain ⟨hneutral, hmeasures⟩ := joiner?_measures hjoin
      rw [levelCount] at hn
      refine (h.level d n rest hd (by rw [levelCount]; omega)).bind (fun _ hf => ?_) fun r hr => ?_
      · exact hf.cons (hneutral d) (by rw [List.length_cons]; omega)
      · obtain ⟨right, after⟩ := r
        obtain ⟨used, hleft⟩ := hleft
        obtain ⟨used', hright⟩ := hr
        obtain ⟨hnesting, hheight⟩ := hmeasures left right
        have hshorter : after.length < rest.length := hright.length_lt
        have hboth : IsRead d whole (join left right, after) := by
          refine ⟨_, (hleft.append (hright.cons hneutral)).mono (Nat.le_of_eq hnesting) ?_⟩
          dsimp only
          omega
        refine (h.joined d n _ whole after hd hn hboth).imp (fun _ hr' => hr') fun _ hf => ?_
        exact .cons (hneutral d) (.of_reading hright hf id) (by rw [List.length_cons]; omega)

/-- A sign with its operand. -/
theorem sign_succ (h : Takes sc fuel) (hd : d < depthLimit) {t : Token} (ht : IsNeutral t.symbol) (rest : List Token)
    {sign : Expr → Expr} (hnesting : ∀ e, (sign e).nesting 0 = e.nesting 0)
    (hheight : ∀ e, (sign e).height = e.height + 1) :
    Ensures (Parse.unary sc fuel (d + 1) rest >>= fun r => .ok (sign r.1, r.2)) (IsRead d (t :: rest))
      (Refusal sc.stop d (t :: rest) (16 * (t :: rest).length + 2 ≤ fuel + 1)) := by
  refine (h.unary d rest hd).bind (fun _ hf => ?_) fun r hr => ?_
  · exact hf.cons (ht d) (by rw [List.length_cons]; omega)
  · obtain ⟨used, hr⟩ := hr
    exact .ok ⟨_, (hr.cons ht).mono (Nat.le_of_eq (hnesting _)) (Nat.le_of_eq (hheight _))⟩

theorem unary_succ (h : Takes sc fuel) (hd : d < depthLimit) (ts : List Token) :
    Ensures (Parse.unary sc (fuel + 1) (d + 1) ts) (IsRead d ts)
      (Refusal sc.stop d ts (16 * ts.length + 2 ≤ fuel + 1)) := by
  rw [Parse.unary.eq_def]
  dsimp only
  split
  · exact h.sign_succ hd (fun _ => rfl) _ (fun e => by rw [Expr.nesting, Nat.add_zero]) fun e => by rw [Expr.height]
  · exact h.sign_succ hd (fun _ => rfl) _ (fun e => by rw [Expr.nesting, Nat.add_zero]) fun e => by rw [Expr.height]
  · refine (h.primary d ts hd).bind (fun _ hf => hf.imp (by omega)) fun r hr => ?_
    have hindexed := h.indexed d r.1 ts r.2 hd hr
    obtain ⟨used, hr⟩ := hr
    have hshorter := hr.length_lt
    exact hindexed.imp (fun _ hr' => hr') fun _ hf => .of_reading hr hf (by omega)

theorem indexed_succ (h : Takes sc fuel) (hd : d < depthLimit) {target : Expr} {whole : List Token}
    (htarget : IsRead d whole (target, ts)) :
    Ensures (Parse.indexed sc (fuel + 1) (d + 1) target ts) (IsRead d whole)
      (Refusal sc.stop d ts (16 * ts.length + 1 ≤ fuel + 1)) := by
  rw [Parse.indexed.eq_def]
  dsimp only
  split
  · next place rest =>
    refine ensures_enclosed (n := Expr.nesting 0) (h := Expr.height) (h.expr (d + 1) rest) ⟨.openBracket, place⟩
      (fun _ => rfl) (.inr rfl) (fun position => Parse.indexed sc fuel (d + 1) (.index target position))
      (fun _ hf => ?_) fun position used after hbrackets => ?_
    · exact hf.imp (by rw [List.length_cons]; omega)
    · have hshorter := hbrackets.length_lt
      have hboth : IsRead d whole (.index target position, after) := by
        obtain ⟨used, htarget⟩ := htarget
        refine ⟨_, (htarget.append hbrackets).mono ?_ ?_⟩
        · exact Nat.le_of_eq (by rw [Expr.nesting])
        · rw [Expr.height]
          dsimp only
          omega
      refine (h.indexed d _ whole after hd hboth).imp (fun _ hr' => hr') fun _ hf => ?_
      exact .of_reading hbrackets hf (by omega)
  · exact .ok htarget

theorem ensures_single {stop place : Position} {symbol : Symbol} {e : Expr} {rest : List Token} {enough : Prop}
    (hneutral : IsNeutral symbol) (hd : d < depthLimit) (hnesting : e.nesting 0 = 0) (hheight : e.height = 1) :
    Ensures (.ok (e, rest)) (IsRead d (⟨symbol, place⟩ :: rest)) (Refusal stop d (⟨symbol, place⟩ :: rest) enough) :=
  .ok ⟨_, (Reading.single hneutral hd).mono (Nat.le_of_eq hnesting) (Nat.le_of_eq hheight)⟩

theorem parenthesized_succ (h : Takes sc fuel) (d : Nat) (place : Position) (rest : List Token) :
    Ensures (Parse.expr sc fuel (d + 1) rest >>= fun r => expect sc .closeParen r.2 >>= fun after => .ok (r.1, after))
      (IsRead d (⟨.openParen, place⟩ :: rest))
      (Refusal sc.stop d (⟨.openParen, place⟩ :: rest) (16 * (rest.length + 1) + 1 ≤ fuel + 1)) := by
  refine ensures_enclosed (n := Expr.nesting 0) (h := Expr.height) (h.expr (d + 1) rest) ⟨.openParen, place⟩
    (fun _ => rfl) (.inl rfl) (fun inner after => .ok (inner, after)) (fun _ hf => ?_)
    fun inner used after hbrackets => ?_
  · exact hf.imp (by omega)
  · exact .ok ⟨used, hbrackets.mono (Nat.le_succ _) (by dsimp only; omega)⟩

theorem call_succ (h : Takes sc fuel) (d : Nat) (name : String) (place openPlace : Position) (rest : List Token) :
    Ensures (Parse.arguments sc fuel (d + 1) rest >>= fun r => expect sc .closeParen r.2 >>= fun after =>
        callOf name place r.1 >>= fun call => .ok (call, after))
      (IsRead d (⟨.name name, place⟩ :: ⟨.openParen, openPlace⟩ :: rest))
      (Refusal sc.stop d (⟨.name name, place⟩ :: ⟨.openParen, openPlace⟩ :: rest)
        (16 * (rest.length + 2) + 1 ≤ fuel + 1)) := by
  have hname : IsNeutral (.name name) := fun _ => rfl
  refine ensures_enclosed (n := argumentNesting 0) (h := argumentHeight) (h.arguments (d + 1) rest)
    ⟨.openParen, openPlace⟩ (fun _ => rfl) (.inl rfl)
    (fun list after => callOf name place list >>= fun call => .ok (call, after)) (fun _ hf => ?_)
    fun list used after hbrackets => ?_
  · exact hf.cons (hname d) (by omega)
  · refine (ensures_callOf name place list).bind (fun _ hf => .at_head hf) fun e he => ?_
    obtain ⟨-, hnesting, hheight⟩ := he
    exact .ok ⟨_, (hbrackets.cons hname).mono hnesting (by dsimp only; omega)⟩

theorem primary_succ (h : Takes sc fuel) (hd : d < depthLimit) (ts : List Token) :
    Ensures (Parse.primary sc (fuel + 1) (d + 1) ts) (IsRead d ts)
      (Refusal sc.stop d ts (16 * ts.length + 1 ≤ fuel + 1)) := by
  cases ts with
  | nil =>
    rw [Parse.primary.eq_def]
    exact .error (.of_placed (.inl rfl) (by intro h; cases h))
  | cons t rest =>
    obtain ⟨symbol, place⟩ := t
    rw [Parse.primary.eq_def]
    dsimp only
    split
    · exact ensures_single (fun _ => rfl) hd (by rw [Expr.nesting]) (by rw [Expr.height])
    · exact ensures_single (fun _ => rfl) hd (by rw [Expr.nesting]) (by rw [Expr.height])
    · exact ensures_single (fun _ => rfl) hd (by rw [Expr.nesting]) (by rw [Expr.height])
    · exact h.parenthesized_succ d place rest
    · exact ensures_single (fun _ => rfl) hd (by rw [Expr.nesting]) (by rw [Expr.height])
    · exact ensures_single (fun _ => rfl) hd (by rw [Expr.nesting]) (by rw [Expr.height])
    · exact ensures_single (fun _ => rfl) hd (by rw [Expr.nesting]) (by rw [Expr.height])
    · next name _ _ _ =>
      have hname : IsNeutral (.name name) := fun _ => rfl
      split
      · -- no function takes no arguments
        refine (ensures_callOf name place []).bind (fun _ hf => .at_head hf) fun e he => ?_
        exact absurd rfl he.1
      · next openPlace rest _ => exact h.call_succ d name place openPlace rest
      · refine (ensures_nameOf sc name place).bind (fun _ hf => .at_head hf) fun e he => ?_
        exact ensures_single hname hd he.1 he.2
    · exact .error (.at_head ⟨rfl, by intro h; cases h⟩)

theorem arguments_succ (h : Takes sc fuel) (d : Nat) (ts : List Token) :
    Ensures (Parse.arguments sc (fuel + 1) d ts)
      (fun r => ∃ used, Reading d ts used r.2 (argumentNesting 0 r.1) (argumentHeight r.1))
      (Refusal sc.stop d ts (16 * ts.length + 11 ≤ fuel + 1)) := by
  rw [Parse.arguments]
  refine (h.expr d ts).bind (fun _ hf => hf.imp (by omega)) fun r hr => ?_
  obtain ⟨first, rest⟩ := r
  obtain ⟨used, hfirst⟩ := hr
  have hshorter := hfirst.length_lt
  dsimp only
  split
  · next place rest =>
    have hcomma : IsNeutral .comma := fun _ => rfl
    rw [List.length_cons] at hshorter
    refine (h.arguments d rest).bind (fun _ hf => ?_) fun r hr => ?_
    · exact .of_reading hfirst (hf.cons (hcomma d) id) (by omega)
    · obtain ⟨others, mid⟩ := r
      obtain ⟨used', hothers⟩ := hr
      refine .ok ⟨_, (hfirst.append (hothers.cons hcomma)).mono ?_ ?_⟩
      · exact Nat.le_of_eq (by rw [argumentNesting])
      · rw [argumentHeight]
        dsimp only
        omega
  · refine .ok ⟨used, hfirst.mono ?_ ?_⟩
    · simp [argumentNesting]
    · simp [argumentHeight]

end Takes

theorem takes (sc : Scope) (fuel : Nat) : Takes sc fuel := by
  induction fuel with
  | zero => exact .zero sc
  | succ fuel ih =>
    exact
      { expr := ih.expr_succ
        level := fun _ _ ts hd hn => ih.level_succ hd hn ts
        joined := fun _ _ _ _ _ hd hn => ih.joined_succ hd hn
        unary := fun _ ts hd => ih.unary_succ hd ts
        indexed := fun _ _ _ _ hd => ih.indexed_succ hd
        primary := fun _ ts hd => ih.primary_succ hd ts
        arguments := ih.arguments_succ }

/-! ### Statements -/

section Statements

variable {sc : Scope} {ts : List Token}

theorem ensures_topExpr (sc : Scope) (ts : List Token) :
    Ensures (topExpr sc ts) (IsRead 0 ts) (Refusal sc.stop 0 ts True) :=
  ((takes sc _).expr 0 ts).imp (fun _ hr => hr) fun _ hf => hf.imp fun _ => by omega

theorem ensures_bindingName (sc : Scope) (ts : List Token) :
    Ensures (bindingName sc ts) (fun r => ∃ t, ts = t :: r.2 ∧ IsNeutral t.symbol) (Refusal sc.stop 0 ts True) := by
  have hrefused (reason : Reason) (hreason : reason ≠ .tooDeep) :
      Refusal sc.stop 0 ts True ⟨sc.here ts.tail, reason⟩ := by
    refine .of_placed ((Refusal.placed_here sc ts.tail).imp_right fun ⟨t, ht, heq⟩ => ?_) hreason
    exact ⟨t, List.mem_of_mem_tail ht, heq⟩
  unfold bindingName
  split
  · next name place rest =>
    split
    · exact .error (hrefused _ (by intro h; cases h))
    · exact .ok ⟨_, rfl, fun _ => rfl⟩
  · exact .error (hrefused _ (by intro h; cases h))

/-- The tokens of a statement, and its nesting and height. -/
theorem ensures_statement (sc : Scope) (ts : List Token) :
    Ensures (statement sc ts) (fun r => ∃ used, Reading 0 ts used r.2 (r.1.nesting 0) r.1.height)
      (Refusal sc.stop 0 ts True) := by
  have hlimit : 0 < depthLimit := by decide
  have hname (name : String) : IsNeutral (.name name) := fun _ => rfl
  have hassign : IsNeutral .assign := fun _ => rfl
  unfold statement
  split
  · next place rest =>
    refine (ensures_bindingName sc rest).bind (fun _ hf => hf.cons (hname _ 0) id) fun r hr => ?_
    obtain ⟨name, rest⟩ := r
    obtain ⟨t, rfl, ht⟩ := hr
    refine (ensures_expect sc .assign 0 rest True).bind (fun _ hf => ?_) fun rest hsign => ?_
    · exact .cons (hname _ 0) (hf.cons (ht 0) id) id
    · obtain ⟨sign, rfl, haccepts⟩ := hsign
      have hsign := isNeutral_of_accepts_assign haccepts
      refine (ensures_topExpr sc rest).bind (fun _ hf => ?_) fun r hr => ?_
      · exact .cons (hname _ 0) (.cons (ht 0) (hf.cons (hsign 0) id) id) id
      · obtain ⟨used, hr⟩ := hr
        have hall := ((hr.cons hsign).cons ht).cons (t := ⟨.name "let", place⟩) (hname _)
        exact .ok ⟨_, hall.mono (Nat.le_refl _) (by dsimp only [Stmt.height]; omega)⟩
  · next place rest => exact .ok ⟨_, (Reading.single (hname _) hlimit).mono (Nat.le_refl 0) (Nat.zero_le 1)⟩
  · next name place sign after _ _ =>
    refine (ensures_bindingName sc _).bind (fun _ hf => hf) fun r hr => ?_
    obtain ⟨bound, rest⟩ := r
    obtain ⟨t, heq, ht⟩ := hr
    obtain ⟨-, rfl⟩ := List.cons.inj heq
    refine (ensures_topExpr sc after).bind (fun _ hf => ?_) fun r hr => ?_
    · exact .cons (hname _ 0) (hf.cons (hassign 0) id) id
    · obtain ⟨used, hr⟩ := hr
      exact .ok ⟨_, ((hr.cons hassign).cons (hname _)).mono (Nat.le_refl _) (by dsimp only [Stmt.height]; omega)⟩
  · refine (ensures_topExpr sc ts).bind (fun _ hf => hf) fun r hr => ?_
    obtain ⟨used, hr⟩ := hr
    exact .ok ⟨used, hr⟩

/-- Whether brackets nest less deep than the limit in tokens, and so do indices and arguments in the statements, which
are no higher than there are tokens. -/
def IsShallow (ts : List Token) (list : List Stmt) : Prop :=
  deepest 0 (symbolsOf ts) < depthLimit ∧ ∀ s ∈ list, s.nesting 0 < depthLimit ∧ s.height ≤ ts.length

theorem IsShallow.nil : IsShallow [] [] :=
  ⟨by decide, fun _ hs => absurd hs List.not_mem_nil⟩

theorem IsShallow.skip {t : Token} {list : List Stmt} (ht : IsNeutral t.symbol) (h : IsShallow ts list) :
    IsShallow (t :: ts) list := by
  refine ⟨?_, fun s hs => ⟨(h.2 s hs).1, Nat.le_succ_of_le (h.2 s hs).2⟩⟩
  rw [symbolsOf_cons, deepest, ht, Nat.zero_max]
  exact h.1

theorem IsShallow.cons {used rest : List Token} {s : Stmt} {list : List Stmt}
    (hr : Reading 0 ts used rest (s.nesting 0) s.height) (h : IsShallow rest list) : IsShallow ts (s :: list) := by
  have hlength : ts.length = used.length + rest.length := by rw [hr.split, List.length_append]
  have hnesting := Nat.lt_of_le_of_lt hr.nesting_le hr.shallow
  have hheight := hr.height_le
  refine ⟨?_, List.forall_mem_cons.mpr ⟨⟨by omega, by omega⟩, fun s hs => ⟨(h.2 s hs).1, ?_⟩⟩⟩
  · rw [hr.split, symbolsOf_append, deepest_append, hr.balanced]
    exact Nat.max_lt.mpr ⟨hr.shallow, h.1⟩
  · have := (h.2 s hs).2
    omega

theorem ensures_statements {fuel : Nat} (hfuel : ts.length < fuel) (sc : Scope) :
    Ensures (statements fuel sc ts) (IsShallow ts) (Refusal sc.stop 0 ts True) := by
  induction fuel generalizing ts sc with
  | zero => omega
  | succ fuel ih =>
    cases ts with
    | nil =>
      rw [statements.eq_def]
      exact .ok .nil
    | cons t rest =>
      obtain ⟨symbol, place⟩ := t
      have hseparator : IsNeutral .separator := fun _ => rfl
      rw [List.length_cons] at hfuel
      rw [statements]
      dsimp only
      split
      · exact (ih (by omega) sc).imp (fun _ h => h.skip hseparator) fun _ hf => hf.cons (hseparator 0) id
      · refine (ensures_statement sc _).bind (fun _ hf => hf) fun r hr => ?_
        obtain ⟨s, after⟩ := r
        obtain ⟨used, hr⟩ := hr
        have hshorter : after.length < rest.length + 1 := hr.length_lt
        dsimp only
        split
        · exact .ok (.cons hr .nil)
        · next place' after =>
          rw [List.length_cons] at hshorter
          refine (ih (by omega) _).map (fun _ hf => ?_) fun list h => .cons hr (h.skip hseparator)
          exact .of_reading hr (hf.cons (hseparator 0) id) id
        · refine .error (.of_reading hr (.of_placed (Refusal.placed_here _ _) (by intro h; cases h)) id)

end Statements

end Parse

/-- Compiling tokens gives statements that nest less deep than the limit.  A fault is placed at one of the tokens or at
the end, and an expression is refused as too deep only where brackets are. -/
theorem Program.ensures_ofTokens (ts : Tokens) :
    Ensures (Program.ofTokens ts) (fun p => Parse.IsShallow ts.tokens p.statements)
      (Parse.Refusal ts.stop 0 ts.tokens True) :=
  (Parse.ensures_statements (Nat.lt_succ_self _) _).map (fun _ hf => hf) fun _ h => h

end SampleRecorder.Script
