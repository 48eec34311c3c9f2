import SampleRecorder.Json.Record
import SampleRecorder.Proofs.Json.RoundTrip

/-!
# Reading back records

A record whose keys are all different is read by putting its members in one after the other (`record_ofJson`).  The
decoders of single values read back what is written: a text, a truth value, a number, a list or a name.
-/

namespace SampleRecorder.Json

variable {α σ : Type}

namespace Member

/-- Puts one member of a written object into a record; an unknown one is skipped. -/
def enter (members : List (Member σ)) (s : σ) (e : String × Json) : Except Cause σ :=
  match members.find? (·.key == e.1) with
  | none => (skipValue (Raw.ofJson e.2)).map fun _ => s
  | some m => m.put (Raw.ofJson e.2) s

/-- Those of the keys that a record knows, the last one first. -/
def known (members : List (Member σ)) (keys : List String) : List String :=
  (keys.filter fun k => (members.find? (·.key == k)).isSome).reverse

theorem mem_known {members : List (Member σ)} {keys : List String} {m : Member σ} (hm : m ∈ members)
    (hk : m.key ∈ keys) : m.key ∈ known members keys := by
  rw [known, List.mem_reverse, List.mem_filter, List.find?_isSome]
  exact ⟨hk, m, hm, beq_self_eq_true m.key⟩

theorem readObject_ofMembers (members : List (Member σ)) (seen : List String) (s : σ) (entries : List (String × Json))
    (hn : (entries.map Prod.fst).Nodup) (hs : ∀ k ∈ entries.map Prod.fst, k ∉ seen) :
    readObject members seen s (Raw.ofMembers entries) =
      (entries.foldlM (enter members) s).map fun t => (known members (entries.map Prod.fst) ++ seen, t) := by
  induction entries generalizing seen s with
  | nil => rfl
  | cons e rest ih =>
    obtain ⟨key, j⟩ := e
    rw [List.map_cons, List.nodup_cons] at hn
    have hfresh : seen.contains key = false := by simpa using hs key (by simp)
    simp only [Raw.ofMembers, readObject, List.foldlM_cons, enter, known, List.map_cons, List.filter_cons, bind,
      Except.bind]
    cases hm : members.find? (·.key == key) with
    | none =>
      cases hv : skipValue (Raw.ofJson j) with
      | error c => rfl
      | ok _ => exact ih seen s hn.2 fun k hk => hs k (by simp [hk])
    | some m =>
      simp only [hfresh, Bool.false_eq_true, ↓reduceIte, Option.isSome_some, List.reverse_cons, List.append_assoc,
        List.singleton_append]
      cases hput : m.put (Raw.ofJson j) s with
      | error c => rfl
      | ok t =>
        refine ih (key :: seen) t hn.2 fun k hk => ?_
        rw [List.mem_cons, not_or]
        exact ⟨fun h => hn.1 (h ▸ hk), hs k (by simp [hk])⟩

end Member

namespace Decoder

/-- A record is read from an object whose keys are all different and that has all that is required. -/
theorem record_ofJson {members : List (Member σ)} {start : σ} {entries : List (String × Json)} (keys : List String)
    (hk : entries.map Prod.fst = keys) (hn : keys.Nodup) (hr : ∀ m ∈ members, m.isRequired → m.key ∈ keys) :
    record members start (Raw.ofJson (.obj entries)) = entries.foldlM (Member.enter members) start := by
  subst hk
  have hall : (members.all fun m => !m.isRequired || (Member.known members (entries.map Prod.fst)).contains m.key) =
      true := by
    rw [List.all_eq_true]
    intro m hm
    cases hreq : m.isRequired with
    | false => rfl
    | true => simpa using Member.mem_known hm (hr m hm hreq)
  simp only [Raw.ofJson, record]
  rw [Member.readObject_ofMembers members [] start entries hn (by simp), List.append_nil]
  cases entries.foldlM (Member.enter members) start with
  | error c => rfl
  | ok s => simp only [Except.map, bind, Except.bind, finish, hall, ↓reduceIte]

theorem text_ofJson (s : String) : text (Raw.ofJson (.str s)) = .ok s :=
  rfl

theorem flag_ofJson (b : Bool) : flag (Raw.ofJson (.bool b)) = .ok b :=
  rfl

theorem natural_ofJson {limit n : Nat} (h : n ≤ limit) : natural limit (Raw.ofJson (.int n)) = .ok n := by
  simp [natural, Raw.ofJson, h]

theorem nullable_ofJson {decode : Decoder α} {j : Json} {a : α} (hj : j ≠ .null)
    (h : decode (Raw.ofJson j) = .ok a) : nullable decode (Raw.ofJson j) = .ok (some a) := by
  have hnull : nullable decode (Raw.ofJson j) = (decode (Raw.ofJson j)).map some := by
    cases j <;> first | rfl | exact absurd rfl hj
  rw [hnull, h]
  rfl

theorem list_ofJson {decode : Decoder α} {toJson : α → Json} (h : ∀ a, decode (Raw.ofJson (toJson a)) = .ok a)
    (list : List α) : Decoder.list decode (Raw.ofJson (.arr (list.map toJson))) = .ok list := by
  have hitems : (Raw.ofItems (list.map toJson)).mapM decode = .ok list := by
    induction list with
    | nil => rfl
    | cons a rest ih => simp [Raw.ofItems, h, ih, bind, Except.bind, pure, Except.pure]
  simp only [Raw.ofJson, Decoder.list, hitems, bind, Except.bind, finish]

theorem choice_ofJson {names : List (String × α)} {name : String} {a : α} (h : names.lookup name = some a) :
    choice names (Raw.ofJson (.str name)) = .ok a := by
  simp [choice, Raw.ofJson, Except.bind, named, h]

end Decoder

end SampleRecorder.Json
