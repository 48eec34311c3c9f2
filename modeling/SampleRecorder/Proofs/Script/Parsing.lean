import SampleRecorder.Proofs.Postcondition
import SampleRecorder.Proofs.Script.Rendering

/-!
# What expressions have from their tokens

The parser puts expressions together from tokens.  A property that literals have from their tokens and that every
expression has from its parts (`Composes`) is therefore one of everything that the parser reads (`gives_topExpr`).  The
functions of the parser call each other with less fuel, so this is shown for all of them at once, by induction on the
fuel (`Reads`).
-/

namespace SampleRecorder.Script.Parse

/-- Whether the symbols of tokens have a property. -/
def AllTokens (T : Symbol → Prop) (ts : List Token) : Prop :=
  ∀ t ∈ ts, T t.symbol

/-- Whether a property of expressions passes on from symbols with the property `T` to literals, and from parts to
expressions. -/
structure Composes (sc : Scope) (T : Symbol → Prop) (P : Expr → Prop) : Prop where
  literal : ∀ v s, v.symbols = [s] → T s → P (.literal v)
  name : ∀ name place, Gives (nameOf sc name place) P
  neg : ∀ operand, P operand → P (.neg operand)
  not : ∀ operand, P operand → P (.not operand)
  index : ∀ target position, P target → P position → P (.index target position)
  join : ∀ n s join left right, joiner? n s = some join → P left → P right → P (join left right)
  call : ∀ name place arguments, (∀ a ∈ arguments, P a) → Gives (callOf name place arguments) P

/-- What the functions of the parser give with some fuel: expressions with the property, and tokens that are left. -/
structure Reads (sc : Scope) (T : Symbol → Prop) (P : Expr → Prop) (fuel : Nat) : Prop where
  expr : ∀ depth ts, AllTokens T ts → Gives (Parse.expr sc fuel depth ts) fun r => P r.1 ∧ AllTokens T r.2
  level : ∀ depth n ts, AllTokens T ts → Gives (Parse.level sc fuel depth n ts) fun r => P r.1 ∧ AllTokens T r.2
  joined : ∀ depth n left ts, P left → AllTokens T ts →
    Gives (Parse.joined sc fuel depth n left ts) fun r => P r.1 ∧ AllTokens T r.2
  unary : ∀ depth ts, AllTokens T ts → Gives (Parse.unary sc fuel depth ts) fun r => P r.1 ∧ AllTokens T r.2
  indexed : ∀ depth target ts, P target → AllTokens T ts →
    Gives (Parse.indexed sc fuel depth target ts) fun r => P r.1 ∧ AllTokens T r.2
  primary : ∀ depth ts, AllTokens T ts → Gives (Parse.primary sc fuel depth ts) fun r => P r.1 ∧ AllTokens T r.2
  arguments : ∀ depth ts, AllTokens T ts →
    Gives (Parse.arguments sc fuel depth ts) fun r => (∀ a ∈ r.1, P a) ∧ AllTokens T r.2

variable {sc : Scope} {T : Symbol → Prop} {P : Expr → Prop} {fuel : Nat} {t : Token} {ts : List Token}

theorem AllTokens.head (h : AllTokens T (t :: ts)) : T t.symbol :=
  h t List.mem_cons_self

theorem AllTokens.tail (h : AllTokens T (t :: ts)) : AllTokens T ts :=
  fun u hu => h u (List.mem_cons_of_mem t hu)

theorem gives_expect (what : Expected) (h : AllTokens T ts) : Gives (expect sc what ts) (AllTokens T) := by
  unfold expect
  split
  · split
    · exact .ok h.tail
    · exact .error _
  · exact .error _

namespace Reads

theorem zero (sc : Scope) (T : Symbol → Prop) (P : Expr → Prop) : Reads sc T P 0 := by
  constructor
  all_goals
    intros
    simp only [Parse.expr, Parse.level, Parse.joined, Parse.unary, Parse.indexed, Parse.primary, Parse.arguments]
    exact .error _

theorem expr_succ (h : Reads sc T P fuel) (depth : Nat) (hts : AllTokens T ts) :
    Gives (Parse.expr sc (fuel + 1) depth ts) fun r => P r.1 ∧ AllTokens T r.2 := by
  rw [Parse.expr]
  split
  · exact .error _
  · exact h.level _ _ _ hts

theorem level_succ (h : Reads sc T P fuel) (depth n : Nat) (hts : AllTokens T ts) :
    Gives (Parse.level sc (fuel + 1) depth n ts) fun r => P r.1 ∧ AllTokens T r.2 := by
  cases n with
  | zero =>
    rw [Parse.level]
    exact h.unary _ _ hts
  | succ n =>
    rw [Parse.level]
    exact (h.level depth n ts hts).bind fun r hr => h.joined depth n r.1 r.2 hr.1 hr.2

theorem joined_succ (h : Reads sc T P fuel) (hP : Composes sc T P) (depth n : Nat) {left : Expr} (hleft : P left)
    (hts : AllTokens T ts) : Gives (Parse.joined sc (fuel + 1) depth n left ts) fun r => P r.1 ∧ AllTokens T r.2 := by
  cases ts with
  | nil =>
    rw [Parse.joined]
    exact .ok ⟨hleft, hts⟩
  | cons t rest =>
    rw [Parse.joined]
    split
    · exact .ok ⟨hleft, hts⟩
    · next join hjoin =>
      refine (h.level depth n rest hts.tail).bind fun r hr => ?_
      exact h.joined depth n _ r.2 (hP.join _ _ _ _ _ hjoin hleft hr.1) hr.2

theorem unary_succ (h : Reads sc T P fuel) (hP : Composes sc T P) (depth : Nat) (hts : AllTokens T ts) :
    Gives (Parse.unary sc (fuel + 1) depth ts) fun r => P r.1 ∧ AllTokens T r.2 := by
  rw [Parse.unary.eq_def]
  dsimp only
  split
  · exact (h.unary depth _ hts.tail).bind fun r hr => .ok ⟨hP.neg _ hr.1, hr.2⟩
  · exact (h.unary depth _ hts.tail).bind fun r hr => .ok ⟨hP.not _ hr.1, hr.2⟩
  · exact (h.primary depth ts hts).bind fun r hr => h.indexed depth r.1 r.2 hr.1 hr.2

theorem indexed_succ (h : Reads sc T P fuel) (hP : Composes sc T P) (depth : Nat) {target : Expr} (htarget : P target)
    (hts : AllTokens T ts) : Gives (Parse.indexed sc (fuel + 1) depth target ts) fun r => P r.1 ∧ AllTokens T r.2 := by
  rw [Parse.indexed.eq_def]
  dsimp only
  split
  · refine (h.expr depth _ hts.tail).bind fun r hr => (gives_expect _ hr.2).bind fun rest hrest => ?_
    exact h.indexed depth _ rest (hP.index _ _ htarget hr.1) hrest
  · exact .ok ⟨htarget, hts⟩

theorem primary_succ (h : Reads sc T P fuel) (hP : Composes sc T P) (depth : Nat) (hts : AllTokens T ts) :
    Gives (Parse.primary sc (fuel + 1) depth ts) fun r => P r.1 ∧ AllTokens T r.2 := by
  cases ts with
  | nil =>
    rw [Parse.primary.eq_def]
    exact .error _
  | cons t rest =>
    obtain ⟨symbol, place⟩ := t
    have hsymbol : T symbol := hts.head
    have hrest := hts.tail
    rw [Parse.primary.eq_def]
    dsimp only
    split
    · exact .ok ⟨hP.literal _ _ rfl hsymbol, hrest⟩
    · exact .ok ⟨hP.literal _ _ rfl hsymbol, hrest⟩
    · exact .ok ⟨hP.literal _ _ rfl hsymbol, hrest⟩
    · refine (h.expr depth rest hrest).bind fun r hr => (gives_expect _ hr.2).bind fun rest' hrest' => ?_
      exact .ok ⟨hr.1, hrest'⟩
    · exact .ok ⟨hP.literal _ _ rfl hsymbol, hrest⟩
    · exact .ok ⟨hP.literal _ _ rfl hsymbol, hrest⟩
    · exact .ok ⟨hP.literal _ _ rfl hsymbol, hrest⟩
    · next name _ _ _ =>
      split
      · exact (hP.call name place [] (List.forall_mem_nil P)).bind fun e he => .ok ⟨he, hrest.tail.tail⟩
      · refine (h.arguments depth _ hrest.tail).bind fun r hr => (gives_expect _ hr.2).bind fun rest' hrest' => ?_
        exact (hP.call name place _ hr.1).bind fun e he => .ok ⟨he, hrest'⟩
      · exact (hP.name name place).bind fun e he => .ok ⟨he, hrest⟩
    · exact .error _

theorem arguments_succ (h : Reads sc T P fuel) (depth : Nat) (hts : AllTokens T ts) :
    Gives (Parse.arguments sc (fuel + 1) depth ts) fun r => (∀ a ∈ r.1, P a) ∧ AllTokens T r.2 := by
  rw [Parse.arguments]
  refine (h.expr depth ts hts).bind fun r hr => ?_
  obtain ⟨first, rest⟩ := r
  obtain ⟨hfirst, hrest⟩ := hr
  dsimp only
  split
  · exact (h.arguments depth _ hrest.tail).bind fun r hr => .ok ⟨List.forall_mem_cons.mpr ⟨hfirst, hr.1⟩, hr.2⟩
  · exact .ok ⟨List.forall_mem_singleton.mpr hfirst, hrest⟩

end Reads

theorem Composes.reads (hP : Composes sc T P) (fuel : Nat) : Reads sc T P fuel := by
  induction fuel with
  | zero => exact .zero sc T P
  | succ fuel ih =>
    exact
      { expr := fun depth _ => ih.expr_succ depth
        level := fun depth n _ => ih.level_succ depth n
        joined := fun depth n _ _ => ih.joined_succ hP depth n
        unary := fun depth _ => ih.unary_succ hP depth
        indexed := fun depth _ _ => ih.indexed_succ hP depth
        primary := fun depth _ => ih.primary_succ hP depth
        arguments := fun depth _ => ih.arguments_succ depth }

/-- What is read as an expression has the property. -/
theorem Composes.gives_topExpr (hP : Composes sc T P) (hts : AllTokens T ts) :
    Gives (topExpr sc ts) fun r => P r.1 ∧ AllTokens T r.2 :=
  (hP.reads _).expr 0 ts hts

end SampleRecorder.Script.Parse
