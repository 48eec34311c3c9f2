import SampleRecorder.Json.Record

/-!
# What stands under a key

A shape says which keys the records of a document know.  A record may be written as an object or as an array of its
values, so a shape also gives the order of the keys.  A record that is read holds in each of its parts what stands
under the key of the part (`record_member`), and so does a record inside of others that may be left out (`member_at`).
-/

namespace SampleRecorder.Json

/-- The layout of a document: single values, lists of things with one shape, and records with the keys that they know,
in the order of their declaration. -/
inductive Shape where
  | value
  | list (item : Shape)
  | record (fields : List (String × Shape))

/-- The layout of what stands at the end of a path of keys. -/
def Shape.at? : Shape → List String → Option Shape
  | shape, [] => some shape
  | .record fields, key :: path => do
    let shape ← fields.lookup key
    at? shape path
  | _, _ :: _ => none

namespace Raw

/-- What stands under a key of a record: the member of an object, or the item of an array that has the place of the
key. -/
def member? (keys : List String) (key : String) : Raw → Option Raw
  | .obj members _ => (members.find? fun m => m.1.toOption == some key).map Prod.snd
  | .arr items _ => items[keys.idxOf key]?
  | _ => none

/-- What stands at the end of a path of keys. -/
def at? : Shape → List String → Raw → Option Raw
  | _, [], raw => some raw
  | .record fields, key :: path, raw => do
    let shape ← fields.lookup key
    let v ← raw.member? (fields.map Prod.fst) key
    at? shape path v
  | _, _ :: _, _ => none

/-- What stands under the last key of a path stands in the record before it. -/
theorem at?_concat {shape : Shape} {path : List String} {fields : List (String × Shape)} {key : String}
    (hpath : shape.at? path = some (.record fields)) (hkey : (fields.lookup key).isSome) (raw : Raw) :
    raw.at? shape (path ++ [key]) = (raw.at? shape path).bind (·.member? (fields.map Prod.fst) key) := by
  induction path generalizing shape raw with
  | nil =>
    obtain rfl : shape = .record fields := Option.some.inj hpath
    obtain ⟨inner, hinner⟩ := Option.isSome_iff_exists.mp hkey
    simp [at?, hinner]
  | cons name path ih =>
    cases shape with
    | value => cases hpath
    | list item => cases hpath
    | record outer =>
      obtain ⟨inner, hinner, hrest⟩ := Option.bind_eq_some_iff.mp hpath
      simp only [List.cons_append, at?, hinner, bind, Option.bind]
      cases raw.member? (outer.map Prod.fst) name with
      | none => rfl
      | some v => exact ih hrest v

end Raw

variable {α β σ : Type}

theorem Decoder.nullable_of_ne (decode : Decoder α) {v : Raw} (hv : v ≠ .null) :
    Decoder.nullable decode v = (decode v).map some := by
  cases v <;> first | rfl | exact absurd rfl hv

/-- A value, for which another one stands where it is `null`. -/
def Decoder.withDefault (start : α) (decode : Decoder α) : Decoder α :=
  fun v => (Decoder.nullable decode v).map (·.getD start)

namespace Member

/-- The member with the key fills a part of a record with what it reads; any other leaves this part alone. -/
def Fills (key : String) (decode : Decoder β) (part : σ → β) (m : Member σ) : Prop :=
  ∀ v s s', m.put v s = .ok s' → if m.key = key then decode v = .ok (part s') else part s' = part s

theorem put_optional {key : String} {decode : Decoder α} {set : α → σ → σ} {v : Raw} {s s' : σ}
    (h : (optional key decode set).put v s = .ok s') : ∃ a, decode v = .ok a ∧ s' = set a s := by
  change (decode v).map (set · s) = .ok s' at h
  cases hv : decode v with
  | error c =>
    rw [hv] at h
    cases h
  | ok a =>
    rw [hv] at h
    cases h
    exact ⟨a, rfl, rfl⟩

theorem fills_optional (key : String) (decode : Decoder α) {set : α → σ → σ} {part : σ → β} {f : α → β}
    (h : ∀ a s, part (set a s) = f a) : Fills key (fun v => (decode v).map f) part (optional key decode set) := by
  intro v s s' hput
  obtain ⟨a, ha, rfl⟩ := put_optional hput
  simp [optional, ha, h, Except.map]

theorem fills_optional_of_ne {key other : String} (hk : other ≠ key) (d : Decoder β) (decode : Decoder α)
    {set : α → σ → σ} {part : σ → β} (h : ∀ a s, part (set a s) = part s) :
    Fills key d part (optional other decode set) := by
  intro v s s' hput
  obtain ⟨a, -, rfl⟩ := put_optional hput
  simp [optional, hk, h]

/-! ### Objects -/

/-- An object whose first member can be read: the member is unknown and passed over, or known, new, and put into the
record. -/
theorem readObject_cons {members : List (Member σ)} {seen : List String} {s : σ} {entry : Except Cause String × Raw}
    {rest : List (Except Cause String × Raw)} {result : List String × σ}
    (h : readObject members seen s (entry :: rest) = .ok result) :
    ∃ key, entry.1 = .ok key ∧
      (members.find? (·.key == key) = none ∧ skipValue entry.2 = .ok () ∧
          readObject members seen s rest = .ok result ∨
        ∃ m t, members.find? (·.key == key) = some m ∧ key ∉ seen ∧ m.put entry.2 s = .ok t ∧
          readObject members (key :: seen) t rest = .ok result) := by
  obtain ⟨_ | key, v⟩ := entry
  · cases h
  · refine ⟨key, rfl, ?_⟩
    simp only [readObject, bind, Except.bind] at h
    split at h
    · next hm =>
      split at h
      · cases h
      · next hv => exact .inl ⟨hm, hv, h⟩
    · next m hm =>
      split at h
      · cases h
      · next hseen =>
        split at h
        · cases h
        · next t ht => exact .inr ⟨m, t, hm, by simpa using hseen, ht, h⟩

section Part

variable {members : List (Member σ)} {key : String} {decode : Decoder β} {part : σ → β}

/-- The member that is found under another key leaves a part alone. -/
theorem part_put_of_ne (hm : ∀ m ∈ members, Fills key decode part m) {name : String} {m : Member σ}
    (hfind : members.find? (·.key == name) = some m) (hname : name ≠ key) {v : Raw} {s t : σ}
    (hput : m.put v s = .ok t) : part t = part s := by
  have hmkey : m.key = name := by simpa using List.find?_some hfind
  have hfills := hm m (List.mem_of_find?_eq_some hfind) v s t hput
  rwa [if_neg (hmkey ▸ hname)] at hfills

/-- Behind the member with its key, a part stays as it is. -/
theorem part_readObject (hm : ∀ m ∈ members, Fills key decode part m) {entries : List (Except Cause String × Raw)}
    {seen : List String} {s : σ} {result : List String × σ} (hseen : key ∈ seen)
    (h : readObject members seen s entries = .ok result) : part result.2 = part s := by
  induction entries generalizing seen s with
  | nil =>
    cases h
    rfl
  | cons entry rest ih =>
    obtain ⟨name, -, ⟨-, -, hrest⟩ | ⟨m, t, hfind, hfresh, hput, hrest⟩⟩ := readObject_cons h
    · exact ih hseen hrest
    · have hname : name ≠ key := fun hname => hfresh (hname ▸ hseen)
      rw [ih (List.mem_cons_of_mem name hseen) hrest, part_put_of_ne hm hfind hname hput]

/-- A part is filled with what stands under its key in an object. -/
theorem fill_readObject (hm : ∀ m ∈ members, Fills key decode part m) (hkey : key ∈ members.map (·.key))
    {entries : List (Except Cause String × Raw)} {seen : List String} {s : σ} {result : List String × σ}
    (hseen : key ∉ seen) (h : readObject members seen s entries = .ok result) :
    ((entries.find? fun e => e.1.toOption == some key).map Prod.snd).elim (.ok (part s)) decode =
      .ok (part result.2) := by
  induction entries generalizing seen s with
  | nil =>
    cases h
    rfl
  | cons entry rest ih =>
    obtain ⟨name, hentry, hcases⟩ := readObject_cons h
    by_cases hname : name = key
    · subst hname
      have hfound : ((entry :: rest).find? fun e => e.1.toOption == some name) = some entry :=
        List.find?_cons_of_pos (by simp [hentry, Except.toOption])
      obtain ⟨hnone, -⟩ | ⟨m, t, hfind, -, hput, hrest⟩ := hcases
      · obtain ⟨m, hmem, hmkey⟩ := List.mem_map.mp hkey
        exact absurd (by simpa using hmkey) (List.find?_eq_none.mp hnone m hmem)
      · have hmkey : m.key = name := by simpa using List.find?_some hfind
        have hfills := hm m (List.mem_of_find?_eq_some hfind) _ _ _ hput
        rw [if_pos hmkey] at hfills
        rw [hfound, Option.map_some, Option.elim_some, hfills, part_readObject hm List.mem_cons_self hrest]
    · have hfound : ((entry :: rest).find? fun e => e.1.toOption == some key) =
          rest.find? fun e => e.1.toOption == some key :=
        List.find?_cons_of_neg (by simp [hentry, Except.toOption, hname])
      rw [hfound]
      obtain ⟨-, -, hrest⟩ | ⟨m, t, hfind, -, hput, hrest⟩ := hcases
      · exact ih hseen hrest
      · rw [← part_put_of_ne hm hfind hname hput]
        exact ih (by simp [hseen, Ne.symm hname]) hrest

/-! ### Arrays -/

theorem readArray_cons {ending : Option Break} {m : Member σ} {s s' : σ} {v : Raw} {rest : List Raw}
    (h : readArray ending (m :: members) s (v :: rest) = .ok s') :
    ∃ t, m.put v s = .ok t ∧ readArray ending members t rest = .ok s' := by
  simp only [readArray, bind, Except.bind] at h
  split at h
  · cases h
  · next t ht => exact ⟨t, ht, h⟩

/-- An array that ends before the members do leaves the record as it is. -/
theorem readArray_nil {ending : Option Break} {s s' : σ} (h : readArray ending members s [] = .ok s') : s' = s := by
  cases members with
  | nil =>
    cases ending with
    | none =>
      cases h
      rfl
    | some b => cases h
  | cons m rest =>
    simp only [readArray, bind, Except.bind] at h
    split at h
    · cases h
    · split at h
      · cases h
      · cases h
        rfl

theorem part_readArray (hm : ∀ m ∈ members, Fills key decode part m) (hkey : key ∉ members.map (·.key))
    {ending : Option Break} {items : List Raw} {s s' : σ} (h : readArray ending members s items = .ok s') :
    part s' = part s := by
  induction members generalizing s items with
  | nil =>
    cases items with
    | nil => rw [readArray_nil h]
    | cons v rest => cases h
  | cons m members ih =>
    cases items with
    | nil => rw [readArray_nil h]
    | cons v rest =>
      obtain ⟨t, hput, hrest⟩ := readArray_cons h
      simp only [List.map_cons, List.mem_cons, not_or] at hkey
      have hfills := hm m List.mem_cons_self v s t hput
      rw [if_neg (Ne.symm hkey.1)] at hfills
      rw [ih (fun m' hm' => hm m' (List.mem_cons_of_mem m hm')) hkey.2 hrest, hfills]

/-- A part is filled with what stands at the place of its key in an array. -/
theorem fill_readArray (hm : ∀ m ∈ members, Fills key decode part m) (hn : (members.map (·.key)).Nodup)
    (hkey : key ∈ members.map (·.key)) {ending : Option Break} {items : List Raw} {s s' : σ}
    (h : readArray ending members s items = .ok s') :
    (items[(members.map (·.key)).idxOf key]?).elim (.ok (part s)) decode = .ok (part s') := by
  induction members generalizing s items with
  | nil => simp at hkey
  | cons m members ih =>
    cases items with
    | nil =>
      rw [readArray_nil h]
      rfl
    | cons v rest =>
      obtain ⟨t, hput, hrest⟩ := readArray_cons h
      have hfills := hm m List.mem_cons_self v s t hput
      have hothers : ∀ m' ∈ members, Fills key decode part m' := fun m' hm' => hm m' (List.mem_cons_of_mem m hm')
      rw [List.map_cons] at hn hkey
      obtain ⟨hnew, hn⟩ := List.nodup_cons.mp hn
      by_cases hmkey : m.key = key
      · rw [if_pos hmkey] at hfills
        rw [List.map_cons, hmkey, List.idxOf_cons_self, List.getElem?_cons_zero, Option.elim_some, hfills,
          part_readArray hothers (hmkey ▸ hnew) hrest]
      · rw [if_neg hmkey] at hfills
        rw [List.map_cons, List.idxOf_cons, beq_false_of_ne hmkey, cond_false, List.getElem?_cons_succ, ← hfills]
        exact ih hothers hn (List.mem_of_ne_of_mem (Ne.symm hmkey) hkey) hrest

end Part

end Member

/-! ### Records -/

section Record

variable {members : List (Member σ)} {key : String} {decode : Decoder β} {part : σ → β} {start s : σ}

/-- A part of a record is filled with what stands under its key; where nothing does, it stays as at the start. -/
theorem record_member (hm : ∀ m ∈ members, Member.Fills key decode part m) (hn : (members.map (·.key)).Nodup)
    (hkey : key ∈ members.map (·.key)) {raw : Raw} (h : Decoder.record members start raw = .ok s) :
    (raw.member? (members.map (·.key)) key).elim (.ok (part start)) decode = .ok (part s) := by
  unfold Decoder.record at h
  split at h
  · next entries ending =>
    simp only [bind, Except.bind] at h
    split at h
    · cases h
    · next result hread =>
      split at h
      · cases h
      · split at h
        · cases h
          exact Member.fill_readObject hm hkey List.not_mem_nil hread
        · cases h
  · exact Member.fill_readArray hm hn hkey h
  · cases h

/-- A record at some place of a document may be left out or be `null`; where it is not, each of its parts is filled with
what stands under its key. -/
theorem member_at {shape : Shape} {path : List String} {fields : List (String × Shape)} {raw : Raw} (key : String)
    (decode : Decoder β) (part : σ → β)
    (h : (raw.at? shape path).elim (.ok start) (Decoder.withDefault start (Decoder.record members start)) = .ok s)
    (hpath : shape.at? path = some (.record fields)) (hkeys : members.map (·.key) = fields.map Prod.fst)
    (hn : (members.map (·.key)).Nodup) (hkey : (fields.lookup key).isSome)
    (hm : ∀ m ∈ members, Member.Fills key decode part m) :
    (raw.at? shape (path ++ [key])).elim (.ok (part start)) decode = .ok (part s) := by
  rw [Raw.at?_concat hpath hkey, ← hkeys]
  have hmem : key ∈ members.map (·.key) := by
    obtain ⟨f, hf, hname⟩ := List.lookup_isSome_iff.mp hkey
    rw [hkeys, eq_of_beq hname]
    exact List.mem_map_of_mem hf
  cases hv : raw.at? shape path with
  | none =>
    rw [hv] at h
    cases h
    rfl
  | some v =>
    rw [hv, Option.elim_some, Decoder.withDefault, Decoder.nullable.eq_def] at h
    split at h
    · cases h
      rfl
    · cases hrecord : Decoder.record members start v with
      | error c =>
        rw [hrecord] at h
        cases h
      | ok p =>
        rw [hrecord] at h
        cases h
        exact record_member hm hn hmem hrecord

end Record

end SampleRecorder.Json
