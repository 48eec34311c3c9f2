import Mathlib
import SampleRecorder.Proofs.Script.Kept
import SampleRecorder.Proofs.Script.Stored
import SampleRecorder.Proofs.Number.Size

/-!
# The size of texts that programs compute

What a program joins, replaces, adds up or writes out is held to `textLimit`, and parts of texts are not larger than the
texts.  Only a text in upper or lower case may be larger than the limit: such a call is not held to it, and it may make
a text three times as large (`kept_within`).  With `n` calls of this kind in a program no text of a run has more than
`3 ^ n` times the limit (`Program.texts_within`).  A list becomes a field as its JSON text, which is not held to the
limit either.
-/

namespace SampleRecorder.Script

open Text

variable {bound : Nat}

/-! ### Bounds of values -/

theorem Value.Within.mono {bound' : Nat} {v : Value} (h : v.Within bound) (hle : bound ≤ bound') : v.Within bound' := by
  induction h with
  | null => exact .null
  | bool b => exact .bool b
  | int n => exact .int n
  | float x => exact .float x
  | str h => exact .str (Nat.le_trans h hle)
  | list _ ih => exact .list ih

theorem Value.within_ofList {s : List Char} (h : bytes s ≤ bound) : (Value.str (String.ofList s)).Within bound :=
  .str (by rwa [utf8ByteSize_ofList])

theorem Value.IsAtomic.within {v : Value} (h : v.IsAtomic) : v.Within bound := by
  cases h with
  | null => exact .null
  | bool b => exact .bool b
  | int n => exact .int n
  | float x => exact .float x

theorem grown_le (bound : Nat) {m n : Nat} (h : m ≤ n) : bound * 3 ^ m ≤ bound * 3 ^ n :=
  Nat.mul_le_mul_left bound (Nat.pow_le_pow_right (by decide) h)

theorem le_grown (bound n : Nat) : bound ≤ bound * 3 ^ n :=
  Nat.le_mul_of_pos_right bound (Nat.pow_pos (by decide))

/-- Texts stay within a bound, but for a factor of three with each change of case. -/
theorem kept_within (hb : textLimit ≤ bound) : Kept fun n v => v.Within (bound * 3 ^ n) where
  mono h hle := h.mono (grown_le bound hle)
  atomic h := h.within
  limited h := .str (Nat.le_trans h (Nat.le_trans hb (le_grown bound _)))
  part {n s t} h ht := by
    cases h with
    | str h =>
      have hpart := bytes_le_of_sublist ht
      rw [bytes_toList] at hpart
      exact Value.within_ofList (Nat.le_trans hpart h)
  upper {n s} h := by
    cases h with
    | str h =>
      have hcase := bytes_toUpper_le s.toList
      rw [bytes_toList] at hcase
      exact Value.within_ofList (by rw [Nat.pow_succ, ← Nat.mul_assoc]; omega)
  lower {n s} h := by
    cases h with
    | str h =>
      have hcase := bytes_toLower_le s.toList
      rw [bytes_toList] at hcase
      exact Value.within_ofList (by rw [Nat.pow_succ, ← Nat.mul_assoc]; omega)
  texts h := .list (List.forall_mem_map.mpr h)
  append ha hb := by
    cases ha with
    | list ha =>
      cases hb with
      | list hb => exact .list (List.forall_mem_append.mpr ⟨ha, hb⟩)
  item h _ hv := by
    cases h with
    | list h => exact h _ hv

/-! ### Parts of expressions -/

mutual

/-- An expression and all expressions in it. -/
def Expr.parts : Expr → List Expr
  | .literal v => [.literal v]
  | .var name => [.var name]
  | .index target position => .index target position :: (target.parts ++ position.parts)
  | .neg operand => .neg operand :: operand.parts
  | .not operand => .not operand :: operand.parts
  | .binary op left right => .binary op left right :: (left.parts ++ right.parts)
  | .and left right => .and left right :: (left.parts ++ right.parts)
  | .or left right => .or left right :: (left.parts ++ right.parts)
  | .call function arguments => .call function arguments :: argumentParts arguments
  | .search input regex => .search input regex :: input.parts
  | .searchGroup input regex group => .searchGroup input regex group :: (input.parts ++ group.parts)

/-- All expressions in arguments. -/
def argumentParts : List Expr → List Expr
  | [] => []
  | a :: rest => a.parts ++ argumentParts rest

end

/-- Whether expressions have texts from a source and each changes the case of texts at most `n` times. -/
def ChangeAtMost (n : Nat) (list : List Expr) : Prop :=
  ∀ e ∈ list, e.TextsWithin sourceLimit ∧ e.caseCalls ≤ n

theorem ChangeAtMost.mono {m n : Nat} {list : List Expr} (h : ChangeAtMost m list) (hle : m ≤ n) :
    ChangeAtMost n list :=
  fun e he => (h e he).imp_right (Nat.le_trans · hle)

theorem ChangeAtMost.append {m n : Nat} {a b : List Expr} (ha : ChangeAtMost m a) (hb : ChangeAtMost n b) :
    ChangeAtMost (m + n) (a ++ b) :=
  List.forall_mem_append.mpr ⟨ha.mono (Nat.le_add_right ..), hb.mono (Nat.le_add_left ..)⟩

mutual

/-- No part of an expression changes the case of texts more often than the expression. -/
theorem changeAtMost_parts (e : Expr) (he : e.TextsWithin sourceLimit) : ChangeAtMost e.caseCalls e.parts := by
  have whole {list : List Expr} (hlist : ChangeAtMost e.caseCalls list) : ChangeAtMost e.caseCalls (e :: list) :=
    List.forall_mem_cons.mpr ⟨⟨he, Nat.le_refl _⟩, hlist⟩
  match e with
  | .literal v => exact whole nofun
  | .var name => exact whole nofun
  | .index target position => exact whole ((changeAtMost_parts target he.1).append (changeAtMost_parts position he.2))
  | .neg operand => exact whole (changeAtMost_parts operand he)
  | .not operand => exact whole (changeAtMost_parts operand he)
  | .binary _ left right => exact whole ((changeAtMost_parts left he.1).append (changeAtMost_parts right he.2))
  | .and left right => exact whole ((changeAtMost_parts left he.1).append (changeAtMost_parts right he.2))
  | .or left right => exact whole ((changeAtMost_parts left he.1).append (changeAtMost_parts right he.2))
  | .call f arguments => exact whole ((changeAtMost_argumentParts arguments he).mono (Nat.le_add_right ..))
  | .search input regex => exact whole (changeAtMost_parts input he)
  | .searchGroup input _ group => exact whole ((changeAtMost_parts input he.1).append (changeAtMost_parts group he.2))

theorem changeAtMost_argumentParts (arguments : List Expr) (he : ArgumentTextsWithin sourceLimit arguments) :
    ChangeAtMost (argumentCaseCalls arguments) (argumentParts arguments) := by
  match arguments with
  | [] => exact nofun
  | a :: rest => exact (changeAtMost_parts a he.1).append (changeAtMost_argumentParts rest he.2)

end

/-! ### Runs -/

/-- The expressions in a statement. -/
def Stmt.expressions : Stmt → List Expr
  | .bind _ value | .assign _ value | .eval value => value.parts
  | .reject => []

/-- How many calls in a statement change the case of a text. -/
def Stmt.caseCalls : Stmt → Nat
  | .bind _ value | .assign _ value | .eval value => value.caseCalls
  | .reject => 0

/-- How many calls in a program change the case of a text. -/
def Program.caseCalls (p : Program) : Nat :=
  (p.statements.map Stmt.caseCalls).sum

/-- Whether a text is bounded or the JSON text of a list with bounded texts. -/
def IsFieldText (bound : Nat) (t : String) : Prop :=
  t.utf8ByteSize ≤ bound ∨ ∃ items, (Value.list items).Within bound ∧ t = (Value.list items).display

theorem IsFieldText.mono {bound' : Nat} {t : String} (h : IsFieldText bound t) (hle : bound ≤ bound') :
    IsFieldText bound' t :=
  h.imp (Nat.le_trans · hle) fun ⟨items, hitems, ht⟩ => ⟨items, hitems.mono hle, ht⟩

/-- The texts that values are stored as; a number that is not finite has a short one. -/
theorem isFieldText_of_toField? (hb : textLimit ≤ bound) {v : Value} (h : v.Within bound) {t : String}
    (ht : v.toField? = some (.text t)) : IsFieldText bound t := by
  cases h with
  | null => cases ht
  | bool b => cases ht
  | int n => cases ht
  | str h =>
    cases ht
    exact .inl h
  | list h =>
    cases ht
    exact .inr ⟨_, .list h, rfl⟩
  | float x =>
    have hfield := Option.some.inj ht
    split at hfield
    · cases hfield
    · next hfinite =>
      cases hfield
      have hsize : bytes (Number.plain x) ≤ textLimit := by
        unfold Number.plain
        rcases Number.parts_of_not_isFinite (Bool.eq_false_iff.mpr hfinite) with hnan | ⟨negative, hinfinite⟩
        · rw [hnan]
          decide
        · rw [hinfinite]
          cases negative <;> decide
      left
      rw [utf8ByteSize_ofList]
      exact Nat.le_trans hsize hb

/-- Whether the values that a run has bound and the texts that it has stored are bounded. -/
structure State.Within (bound : Nat) (s : State) : Prop where
  env : s.env.Meets (Value.Within bound)
  fields : ∀ name t, s.fields.get? name = some (.text t) → IsFieldText bound t

theorem State.Within.mono {bound' : Nat} {s : State} (h : s.Within bound) (hle : bound ≤ bound') : s.Within bound' where
  env := h.env.imp fun _ hv => hv.mono hle
  fields name t ht := (h.fields name t ht).mono hle

/-- A statement lets texts grow as often as it changes their case. -/
theorem gives_run_within (hb : textLimit ≤ bound) {n : Nat} {s : State} (hs : s.Within (bound * 3 ^ n)) (stmt : Stmt)
    (htexts : stmt.TextsWithin sourceLimit) :
    Gives (stmt.run s) (State.Within (bound * 3 ^ (n + stmt.caseCalls))) := by
  have hgrown := hs.mono (grown_le bound (Nat.le_add_right n stmt.caseCalls))
  cases stmt with
  | bind name value =>
    refine ((kept_within hb).gives_eval hs.env value htexts).bind fun v hv => .ok ?_
    exact ⟨hgrown.env.bind hv name, hgrown.fields⟩
  | assign name value =>
    refine ((kept_within hb).gives_eval hs.env value htexts).bind fun v hv => .ok ?_
    refine ⟨hgrown.env.bind hv name, fun key t ht => ?_⟩
    rw [get?_store] at ht
    split at ht
    · exact isFieldText_of_toField? (Nat.le_trans hb (le_grown ..)) hv ht
    · exact hgrown.fields key t ht
  | reject => exact .error _
  | eval value => exact .bind_any fun _ => .ok hgrown

theorem gives_runAll_within (hb : textLimit ≤ bound) {n : Nat} {s : State} (hs : s.Within (bound * 3 ^ n))
    (stmts : List Stmt) (htexts : ∀ stmt ∈ stmts, stmt.TextsWithin sourceLimit) :
    Gives (runAll s stmts) (State.Within (bound * 3 ^ (n + (stmts.map Stmt.caseCalls).sum))) := by
  induction stmts generalizing s n with
  | nil => exact .ok hs
  | cons stmt rest ih =>
    obtain ⟨hstmt, hrest⟩ := List.forall_mem_cons.mp htexts
    rw [runAll, List.map_cons, List.sum_cons, ← Nat.add_assoc]
    exact (gives_run_within hb hs stmt hstmt).bind fun s' hs' => ih hs' hrest

namespace Program

/-- How large texts become in every run of a compiled program on a line within the limit.  A value of an expression has no
text beyond the limit, but for a factor of three with each call of the program that changes the case of a text; where a
program has no such call this is the limit itself.  The texts that are stored have the same bound, or are the JSON texts
of lists of such texts. -/
theorem texts_within {source : String} {p : Program} (h : compile source = .ok p) {line : String}
    (hline : line.utf8ByteSize ≤ textLimit) :
    (∀ before stmt later s, p.statements = before ++ stmt :: later → runAll ⟨⟨line, []⟩, .empty⟩ before = .ok s →
      ∀ e ∈ stmt.expressions, ∀ v, e.eval s.env = .ok v → v.Within (textLimit * 3 ^ p.caseCalls)) ∧
    (∀ fields, p.evaluate line = .fields fields → ∀ name t, fields.get? name = some (.text t) →
      IsFieldText (textLimit * 3 ^ p.caseCalls) t) := by
  have htexts := texts_of_compile h
  have hstart : State.Within (textLimit * 3 ^ 0) ⟨⟨line, []⟩, .empty⟩ := by
    refine ⟨⟨.str hline, fun _ hentry => absurd hentry List.not_mem_nil⟩, fun name t ht => ?_⟩
    rw [Dict.get?_empty] at ht
    cases ht
  constructor
  · intro before stmt later s heq hrun e he v hv
    rw [heq] at htexts
    obtain ⟨hbefore, hstmts⟩ := List.forall_mem_append.mp htexts
    have hs := gives_runAll_within (Nat.le_refl _) hstart before hbefore s hrun
    have hstmt : stmt.TextsWithin sourceLimit := hstmts stmt List.mem_cons_self
    obtain ⟨hpart, hcalls⟩ : e.TextsWithin sourceLimit ∧ e.caseCalls ≤ stmt.caseCalls := by
      cases stmt with
      | bind name value => exact changeAtMost_parts value hstmt e he
      | assign name value => exact changeAtMost_parts value hstmt e he
      | eval value => exact changeAtMost_parts value hstmt e he
      | reject => cases he
    refine ((kept_within (Nat.le_refl _)).gives_eval hs.env e hpart v hv).mono (grown_le _ ?_)
    rw [caseCalls, heq, List.map_append, List.map_cons, List.sum_append, List.sum_cons]
    omega
  · intro fields heval name t ht
    unfold evaluate at heval
    split at heval
    · next s hs =>
      obtain rfl := Outcome.fields.inj heval
      have hfields := (gives_runAll_within (Nat.le_refl _) hstart p.statements htexts s hs).fields name t ht
      rwa [Nat.zero_add] at hfields
    all_goals cases heval

/-- The limit holds in the program `v = trim(line) + "!"`, which changes no case. -/
theorem texts_within_sum :
    let p : Program := ⟨[.assign "v" (.binary .add (.call .trim [.var "line"]) (.literal (.str "!")))]⟩
    compile "v = trim(line) + \"!\"" = .ok p ∧ p.evaluate " 7 " = .fields (Dict.empty.insert "v" (.text "7!")) ∧
      IsFieldText (textLimit * 3 ^ p.caseCalls) "7!" := by
  intro p
  have hcompile : compile "v = trim(line) + \"!\"" = .ok p := by cbv
  have heval : p.evaluate " 7 " = .fields (Dict.empty.insert "v" (.text "7!")) := by cbv
  exact ⟨hcompile, heval, (texts_within hcompile (by decide)).2 _ heval "v" "7!" (Dict.get?_insert_self ..)⟩

/-- A line of the size of the limit, three times as large in upper case. -/
theorem upper_beyond_limit :
    let line := String.ofList (List.replicate 32768 '\u0390')
    let p : Program := ⟨[.assign "v" (.call .upper [.var "line"])]⟩
    compile "v = upper(line)" = .ok p ∧ line.utf8ByteSize = textLimit ∧
      ∃ fields t, p.evaluate line = .fields fields ∧ fields.get? "v" = some (.text t) ∧
        t.utf8ByteSize = 3 * textLimit := by
  intro line p
  have hcompile : compile "v = upper(line)" = .ok p := by cbv
  have hline : line.utf8ByteSize = textLimit := by
    rw [utf8ByteSize_ofList, bytes_replicate]
    decide
  have heval (text : String) :
      p.evaluate text = .fields (Dict.empty.insert "v" (.text (String.ofList (toUpper text.toList)))) := by
    rfl
  refine ⟨hcompile, hline, _, _, heval line, Dict.get?_insert_self .., ?_⟩
  rw [String.toList_ofList, utf8ByteSize_ofList, bytes_toUpper_replicate]
  decide

/-- The size of the JSON text of equal items, with a comma after each but the last. -/
theorem bytes_compactItems_replicate (n : Nat) (v : Value) :
    bytes (Json.compactItems (Value.itemsToJson (List.replicate (n + 1) v))) =
      n * (bytes v.toJson.compact + 1) + bytes v.toJson.compact := by
  induction n with
  | zero => simp only [Nat.zero_mul, Nat.zero_add]; rfl
  | succ n ih =>
    have hcons : Value.itemsToJson (List.replicate (n + 2) v) =
        v.toJson :: Value.itemsToJson (List.replicate (n + 1) v) := rfl
    have hhead : Value.itemsToJson (List.replicate (n + 1) v) =
        v.toJson :: Value.itemsToJson (List.replicate n v) := rfl
    have hcomma : ','.utf8Size = 1 := rfl
    rw [hcons, hhead, Json.compactItems, ← hhead, bytes_append, bytes_cons, ih, hcomma, Nat.succ_mul]
    omega

/-- A line within the limit whose characters are stored as a list with a larger text, which `str` would refuse. -/
theorem list_beyond_limit :
    let line := String.ofList (List.replicate 16384 'x')
    let p : Program := ⟨[.assign "v" (.call .split [.var "line", .literal (.str "")])]⟩
    compile "v = split(line, \"\")" = .ok p ∧ line.utf8ByteSize ≤ textLimit ∧
      ∃ fields t, p.evaluate line = .fields fields ∧ fields.get? "v" = some (.text t) ∧
        textLimit < t.utf8ByteSize := by
  intro line p
  have hcompile : compile "v = split(line, \"\")" = .ok p := by cbv
  have hline : line.utf8ByteSize ≤ textLimit := by
    rw [utf8ByteSize_ofList, bytes_replicate]
    decide
  have heval (text : String) :
      p.evaluate text = .fields (Dict.empty.insert "v" (.text (Value.list (Builtin.pieces text "")).display)) := by
    rfl
  have hpieces : Builtin.pieces line "" = List.replicate (16383 + 1) (.str "x") := by
    rw [Builtin.pieces, if_pos rfl, String.toList_ofList, List.map_replicate]
  have hitem : bytes (Value.str "x").toJson.compact = 3 := by decide
  refine ⟨hcompile, hline, _, _, heval line, Dict.get?_insert_self .., ?_⟩
  rw [hpieces, Value.display, Value.toJson, Json.compact, utf8ByteSize_ofList, bytes_append, bytes_cons,
    bytes_compactItems_replicate, hitem]
  decide

end Program

end SampleRecorder.Script
