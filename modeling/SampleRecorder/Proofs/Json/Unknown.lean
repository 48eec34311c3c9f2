import Mathlib.Data.List.Forall2
import Mathlib.Logic.Relation
import SampleRecorder.Proofs.Json.Lookup

/-!
# Unknown keys

A document may name keys that its reader does not know, in any of its records.  To leave such a member out, or to add
one, is a step from one document to another (`Varies`).  A decoder ignores unknown keys if it reads the same value
behind every such step; single values do so, and lists and records do if their parts do (`ignores_list`,
`AllIgnore.record`).
-/

namespace SampleRecorder.Json

/-- One document becomes another as a member that a record does not know is left out or added: in the document itself,
or in what stands under a known key, at the place of one, or in a list.  A value that is added has to be one that can be
passed over. -/
inductive Varies : Shape → Raw → Raw → Prop where
  | drop {fields : List (String × Shape)} {before after : List (Except Cause String × Raw)} {ending : Option Break}
      {key : String} {v : Raw} : key ∉ fields.map Prod.fst →
      Varies (.record fields) (.obj (before ++ (.ok key, v) :: after) ending) (.obj (before ++ after) ending)
  | add {fields : List (String × Shape)} {before after : List (Except Cause String × Raw)} {ending : Option Break}
      {key : String} {v : Raw} : key ∉ fields.map Prod.fst → skipValue v = .ok () →
      Varies (.record fields) (.obj (before ++ after) ending) (.obj (before ++ (.ok key, v) :: after) ending)
  | member {fields : List (String × Shape)} {before after : List (Except Cause String × Raw)} {ending : Option Break}
      {key : String} {shape : Shape} {v v' : Raw} : fields.lookup key = some shape → Varies shape v v' →
      Varies (.record fields) (.obj (before ++ (.ok key, v) :: after) ending)
        (.obj (before ++ (.ok key, v') :: after) ending)
  | place {fields : List (String × Shape)} {before after : List Raw} {ending : Option Break} {shape : Shape}
      {v v' : Raw} : (fields.map Prod.snd)[before.length]? = some shape → Varies shape v v' →
      Varies (.record fields) (.arr (before ++ v :: after) ending) (.arr (before ++ v' :: after) ending)
  | item {shape : Shape} {before after : List Raw} {ending : Option Break} {v v' : Raw} : Varies shape v v' →
      Varies (.list shape) (.arr (before ++ v :: after) ending) (.arr (before ++ v' :: after) ending)

variable {α σ : Type}

/-- What a decoder reads does not depend on unknown keys. -/
def Decoder.Ignores (shape : Shape) (decode : Decoder α) : Prop :=
  ∀ raw raw' a, Varies shape raw raw' → decode raw = .ok a → decode raw' = .ok a

/-- What a member puts into a record does not depend on unknown keys. -/
def Member.Ignores (shape : Shape) (m : Member σ) : Prop :=
  ∀ raw raw' s t, Varies shape raw raw' → m.put raw s = .ok t → m.put raw' s = .ok t

/-- The members of a record are those of a shape, in the same order, and ignore unknown keys. -/
def Member.AllIgnore (members : List (Member σ)) (fields : List (String × Shape)) : Prop :=
  List.Forall₂ (fun m f => m.key = f.1 ∧ m.Ignores f.2) members fields

/-! ### Values and lists -/

/-- A single value has no keys. -/
theorem ignores_value (decode : Decoder α) : decode.Ignores .value := by
  intro raw raw' a h
  cases h

theorem ignores_nullable {shape : Shape} {decode : Decoder α} (h : decode.Ignores shape) :
    (Decoder.nullable decode).Ignores shape := by
  intro raw raw' a hvaries ha
  -- neither of the two is `null`
  obtain ⟨hraw, hraw'⟩ : Decoder.nullable decode raw = (decode raw).map some ∧
      Decoder.nullable decode raw' = (decode raw').map some := by
    cases hvaries <;> exact ⟨rfl, rfl⟩
  rw [hraw] at ha
  cases hd : decode raw with
  | error c =>
    rw [hd] at ha
    cases ha
  | ok b => rw [hraw', h raw raw' b hvaries hd, ← ha, hd]

theorem mapM_replace {decode : Decoder α} {v v' : Raw} (h : ∀ a, decode v = .ok a → decode v' = .ok a)
    {before after : List Raw} {values : List α} (hvalues : (before ++ v :: after).mapM decode = .ok values) :
    (before ++ v' :: after).mapM decode = .ok values := by
  cases hv : decode v with
  | error c =>
    cases hb : before.mapM decode <;> simp [hv, hb, bind, Except.bind] at hvalues
  | ok a => simpa [hv, h a hv] using hvalues

theorem ignores_list {item : Shape} {decode : Decoder α} (h : decode.Ignores item) :
    (Decoder.list decode).Ignores (.list item) := by
  intro raw raw' values hvaries hvalues
  cases hvaries with
  | @item _ before after ending v v' hvaries =>
    cases hmap : (before ++ v :: after).mapM decode with
    | error c =>
      rw [Decoder.list, hmap] at hvalues
      cases hvalues
    | ok list => rwa [Decoder.list, mapM_replace (fun a => h v v' a hvaries) hmap, ← hmap]

/-! ### Members -/

theorem Decoder.Ignores.optional {shape : Shape} {decode : Decoder α} (h : decode.Ignores shape) (key : String)
    (set : α → σ → σ) : (Member.optional key decode set).Ignores shape := by
  intro raw raw' s t hvaries ht
  obtain ⟨a, ha, rfl⟩ := Member.put_optional ht
  exact congrArg (Except.map (set · s)) (h raw raw' a hvaries ha)

namespace Member

variable {members : List (Member σ)} {fields : List (String × Shape)}

theorem AllIgnore.find?_eq_none (h : AllIgnore members fields) {key : String} (hkey : key ∉ fields.map Prod.fst) :
    members.find? (·.key == key) = none := by
  induction h with
  | nil => rfl
  | @cons m f members fields hm _ ih =>
    rw [List.map_cons, List.mem_cons, not_or] at hkey
    rw [List.find?_cons_of_neg (by simpa [hm.1] using Ne.symm hkey.1)]
    exact ih hkey.2

theorem AllIgnore.find?_eq_some (h : AllIgnore members fields) {key : String} {shape : Shape}
    (hkey : fields.lookup key = some shape) : ∃ m, members.find? (·.key == key) = some m ∧ m.Ignores shape := by
  induction h with
  | nil => cases hkey
  | @cons m f members fields hm _ ih =>
    rw [List.lookup_cons] at hkey
    by_cases hname : key = f.1
    · rw [beq_iff_eq.mpr hname] at hkey
      cases hkey
      exact ⟨m, List.find?_cons_of_pos (by simp [hm.1, hname]), hm.2⟩
    · rw [beq_false_of_ne hname] at hkey
      obtain ⟨m', hfind, hignores⟩ := ih hkey
      exact ⟨m', by rw [List.find?_cons_of_neg (by simpa [hm.1] using Ne.symm hname), hfind], hignores⟩

/-- What stands before other members is read first. -/
theorem readObject_append {members : List (Member σ)} {seen : List String} {s : σ}
    {before rest : List (Except Cause String × Raw)} {r : List String × σ} :
    readObject members seen s (before ++ rest) = .ok r ↔
      ∃ b, readObject members seen s before = .ok b ∧ readObject members b.1 b.2 rest = .ok r := by
  induction before generalizing seen s with
  | nil => simp [readObject]
  | cons entry before ih =>
    obtain ⟨_ | key, v⟩ := entry
    · simp [readObject, bind, Except.bind]
    · simp only [List.cons_append, readObject, bind, Except.bind]
      split
      · cases skipValue v with
        | error c => simp
        | ok _ => exact ih
      · next m _ =>
        split
        · simp
        · cases m.put v s with
          | error c => simp
          | ok t => exact ih

theorem readObject_drop (h : AllIgnore members fields) {key : String} (hkey : key ∉ fields.map Prod.fst)
    {before after : List (Except Cause String × Raw)} {v : Raw} {seen : List String} {s : σ} {r : List String × σ}
    (hr : readObject members seen s (before ++ (.ok key, v) :: after) = .ok r) :
    readObject members seen s (before ++ after) = .ok r := by
  obtain ⟨b, hbefore, hrest⟩ := readObject_append.mp hr
  obtain ⟨_, hname, ⟨-, -, hafter⟩ | ⟨m, t, hfind, -⟩⟩ := readObject_cons hrest
  · exact readObject_append.mpr ⟨b, hbefore, hafter⟩
  · cases hname
    rw [h.find?_eq_none hkey] at hfind
    cases hfind

theorem readObject_add (h : AllIgnore members fields) {key : String} (hkey : key ∉ fields.map Prod.fst)
    {before after : List (Except Cause String × Raw)} {v : Raw} (hv : skipValue v = .ok ()) {seen : List String} {s : σ}
    {r : List String × σ} (hr : readObject members seen s (before ++ after) = .ok r) :
    readObject members seen s (before ++ (.ok key, v) :: after) = .ok r := by
  obtain ⟨b, hbefore, hafter⟩ := readObject_append.mp hr
  refine readObject_append.mpr ⟨b, hbefore, ?_⟩
  simpa only [readObject, h.find?_eq_none hkey, hv, bind, Except.bind] using hafter

theorem readObject_replace (h : AllIgnore members fields) {key : String} {shape : Shape}
    (hkey : fields.lookup key = some shape) {v v' : Raw} (hvaries : Varies shape v v')
    {before after : List (Except Cause String × Raw)} {seen : List String} {s : σ} {r : List String × σ}
    (hr : readObject members seen s (before ++ (.ok key, v) :: after) = .ok r) :
    readObject members seen s (before ++ (.ok key, v') :: after) = .ok r := by
  obtain ⟨m, hm, hignores⟩ := h.find?_eq_some hkey
  obtain ⟨b, hbefore, hrest⟩ := readObject_append.mp hr
  refine readObject_append.mpr ⟨b, hbefore, ?_⟩
  obtain ⟨_, hname, ⟨hnone, -⟩ | ⟨m', t, hfind, hfresh, hput, hafter⟩⟩ := readObject_cons hrest
  · cases hname
    rw [hm] at hnone
    cases hnone
  · cases hname
    obtain rfl : m = m' := Option.some.inj (hm.symm.trans hfind)
    have hseen : b.1.contains key = false := by simpa using hfresh
    simpa only [readObject, hm, hseen, Bool.false_eq_true, ↓reduceIte, hignores v v' b.2 t hvaries hput, bind,
      Except.bind] using hafter

theorem readArray_replace (h : AllIgnore members fields) {before after : List Raw} {shape : Shape}
    (hplace : (fields.map Prod.snd)[before.length]? = some shape) {v v' : Raw} (hvaries : Varies shape v v')
    {ending : Option Break} {s t : σ} (ht : readArray ending members s (before ++ v :: after) = .ok t) :
    readArray ending members s (before ++ v' :: after) = .ok t := by
  induction before generalizing members fields s with
  | nil =>
    cases h with
    | nil => cases hplace
    | @cons m f members fields hm hrest =>
      obtain rfl : f.2 = shape := Option.some.inj hplace
      obtain ⟨u, hput, hread⟩ := readArray_cons ht
      simpa only [List.nil_append, readArray, hm.2 v v' s u hvaries hput, bind, Except.bind] using hread
  | cons b before ih =>
    cases h with
    | nil => cases hplace
    | @cons m f members fields hm hrest =>
      obtain ⟨u, hput, hread⟩ := readArray_cons ht
      simpa only [List.cons_append, readArray, hput, bind, Except.bind] using ih hrest hplace hread

/-- A record ignores unknown keys, its own and those in its parts. -/
theorem AllIgnore.record (h : AllIgnore members fields) (start : σ) :
    (Decoder.record members start).Ignores (.record fields) := by
  intro raw raw' s hvaries hs
  -- an object is read as before if its members are
  have hobj {entries entries' : List (Except Cause String × Raw)} {ending : Option Break}
      (hread : ∀ r, readObject members [] start entries = .ok r → readObject members [] start entries' = .ok r)
      (hentries : Decoder.record members start (.obj entries ending) = .ok s) :
      Decoder.record members start (.obj entries' ending) = .ok s := by
    cases hr : readObject members [] start entries with
    | error c =>
      rw [Decoder.record, hr] at hentries
      cases hentries
    | ok r => rwa [Decoder.record, hread r hr, ← hr]
  cases hvaries with
  | drop hkey => exact hobj (fun _ => readObject_drop h hkey) hs
  | add hkey hv => exact hobj (fun _ => readObject_add h hkey hv) hs
  | member hkey hvaries => exact hobj (fun _ => readObject_replace h hkey hvaries) hs
  | place hplace hvaries => exact readArray_replace h hplace hvaries hs

end Member

/-! ### Texts -/

theorem decodeText_eq_ok {decode : Decoder α} {text : String} {a : α} :
    decodeText decode text = .ok a ↔ decode (Raw.read text.toList).1 = .ok a ∧ (Raw.read text.toList).2 = none := by
  simp only [decodeText, bind, Except.bind]
  cases decode (Raw.read text.toList).1 <;> cases (Raw.read text.toList).2 <;> simp

/-- What is read is the same behind any number of steps. -/
theorem Decoder.Ignores.reflTransGen {shape : Shape} {decode : Decoder α} (h : decode.Ignores shape) {raw raw' : Raw}
    (hvaries : Relation.ReflTransGen (Varies shape) raw raw') {a : α} (ha : decode raw = .ok a) :
    decode raw' = .ok a := by
  induction hvaries with
  | refl => exact ha
  | tail _ hstep ih => exact h _ _ a hstep ih

end SampleRecorder.Json
