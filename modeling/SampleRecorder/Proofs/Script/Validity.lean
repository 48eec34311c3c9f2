import SampleRecorder.Proofs.Script.Parsing

/-!
# Compiled programs are valid

Everything that the parser reads is valid: its variables are bound, its calls have arguments that the function takes,
its patterns are compiled from their text, and no statement binds a reserved name.  An expression is valid once its parts
are (`composes_isValid`); the main fact is `isValid_of_compile`.
-/

namespace SampleRecorder.Regex

theorem pattern_of_compile? {pattern : String} {flags : Flags} {r : Regex} (h : compile? pattern flags = .ok r) :
    r.pattern = pattern := by
  unfold compile? at h
  split at h
  · cases h
  · split at h
    · cases h
      rfl
    · cases h

end SampleRecorder.Regex

namespace SampleRecorder.Script.Parse

/-! ### Calls -/

theorem gives_searchOf {names : List String} {arguments : List Expr} (h : AreValid names arguments) (place : Position) :
    Gives (searchOf place arguments) fun e => e.IsValid names := by
  unfold searchOf
  extract_lets compiled
  -- the text of the compiled pattern is the one that was written
  have hcompiled (pattern : String) :
      Gives (compiled pattern) fun regex => Regex.compile? regex.pattern = .ok regex := by
    unfold compiled
    split
    · next regex hregex => exact .ok (by rwa [Regex.pattern_of_compile? hregex])
    · exact .error _
  split
  · exact (hcompiled _).map fun regex hregex => ⟨h.1, hregex⟩
  · exact (hcompiled _).map fun regex hregex => ⟨h.1, hregex, h.2.2.1⟩
  · exact .error _
  · exact .error _
  · exact .error _

theorem gives_callOf {names : List String} {arguments : List Expr} (h : AreValid names arguments) (name : String)
    (place : Position) : Gives (callOf name place arguments) fun e => e.IsValid names := by
  unfold callOf
  split
  · exact gives_searchOf h place
  · split
    · exact .error _
    · split
      · next haccepts => exact .ok ⟨haccepts, h⟩
      · exact .error _

theorem gives_nameOf (sc : Scope) (name : String) (place : Position) :
    Gives (nameOf sc name place) fun e => e.IsValid sc.defined := by
  unfold nameOf
  split
  · next h => exact .ok (by simpa [Expr.IsValid] using h)
  · exact .error _

/-! ### Expressions -/

/-- An operator joins valid operands to a valid expression. -/
theorem isValid_joiner {names : List String} {n : Nat} {s : Symbol} {join : Expr → Expr → Expr}
    (h : joiner? n s = some join) {left right : Expr} (hl : left.IsValid names) (hr : right.IsValid names) :
    (join left right).IsValid names := by
  unfold joiner? at h
  split at h <;> cases h
  all_goals exact ⟨hl, hr⟩

theorem areValid_of_forall {names : List String} {arguments : List Expr} (h : ∀ a ∈ arguments, a.IsValid names) :
    AreValid names arguments := by
  induction arguments with
  | nil => trivial
  | cons a rest ih =>
    obtain ⟨ha, hrest⟩ := List.forall_mem_cons.mp h
    exact ⟨ha, ih hrest⟩

theorem composes_isValid (sc : Scope) : Composes sc (fun _ => True) (Expr.IsValid sc.defined) where
  -- a literal is valid because it has a symbol of its own
  literal v s hv _ := by
    show v.symbols ≠ []
    rw [hv]
    exact List.cons_ne_nil s []
  name := gives_nameOf sc
  neg _ h := h
  not _ h := h
  index _ _ htarget hposition := ⟨htarget, hposition⟩
  join _ _ _ _ _ h hleft hright := isValid_joiner h hleft hright
  call name place _ h := gives_callOf (areValid_of_forall h) name place

theorem gives_topExpr (sc : Scope) (ts : List Token) : Gives (topExpr sc ts) fun r => r.1.IsValid sc.defined :=
  fun r hr => ((composes_isValid sc).gives_topExpr (fun _ _ => trivial) r hr).1

/-! ### Statements -/

theorem gives_bindingName (sc : Scope) (ts : List Token) :
    Gives (bindingName sc ts) fun r => r.1 ∉ reservedNames := by
  unfold bindingName
  split
  · split
    · exact .error _
    · next h => exact .ok (by simpa using h)
  · exact .error _

theorem gives_statement (sc : Scope) (ts : List Token) : Gives (statement sc ts) fun r => r.1.IsValid sc.defined := by
  unfold statement
  split
  · exact (gives_bindingName sc _).bind fun name hname => .bind_any fun rest =>
      (gives_topExpr sc rest).bind fun value hvalue => .ok ⟨hname, hvalue⟩
  · exact .ok trivial
  · exact (gives_bindingName sc _).bind fun name hname =>
      (gives_topExpr sc _).bind fun value hvalue => .ok ⟨hname, hvalue⟩
  · exact (gives_topExpr sc _).bind fun value hvalue => .ok hvalue

theorem gives_statements (fuel : Nat) (sc : Scope) (ts : List Token) :
    Gives (statements fuel sc ts) (StatementsValid sc.defined) := by
  induction fuel generalizing sc ts with
  | zero => exact .ok trivial
  | succ fuel ih =>
    cases ts with
    | nil => exact .ok trivial
    | cons t rest =>
      rw [statements]
      split
      · exact ih sc rest
      · refine (gives_statement sc (t :: rest)).bind fun r hs => ?_
        obtain ⟨s, rest⟩ := r
        dsimp only
        split
        · exact .ok ⟨hs, trivial⟩
        -- the names that `s` binds can be used from here on
        · exact (ih _ _).map fun list hlist => ⟨hs, hlist⟩
        · exact .error _

end Parse

namespace Program

theorem gives_ofTokens (ts : Tokens) : Gives (ofTokens ts) IsValid :=
  (Parse.gives_statements _ ⟨ts.stop, []⟩ ts.tokens).map fun _ hlist => hlist

/-- Every compiled program is valid. -/
theorem isValid_of_compile {source : String} {p : Program} (h : compile source = .ok p) : p.IsValid := by
  have gives : Gives (compile source) IsValid := by
    unfold compile
    split
    · exact .error _
    · exact (Gives.bind_any gives_ofTokens).mapError _
  exact gives p h

end Program

end SampleRecorder.Script
