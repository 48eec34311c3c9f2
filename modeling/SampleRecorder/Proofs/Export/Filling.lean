import SampleRecorder.Export.Template
import SampleRecorder.Proofs.Text.Replace

/-!
# Filling in placeholders

`Fills value s t` says what it means to go through a template once, from left to right, and to write a value for each
placeholder that is met whose name has one.  It determines the text that is written (`Fills.unique`), and nothing that is
written is looked at again.  Replacing one more placeholder in that text comes to the same as giving its name a value from
the start (`Fills.replace`), and no placeholder with a value is left (`Fills.not_isInfix`), as long as the values have no
character of the placeholder.
-/

namespace SampleRecorder.Export

/-- A placeholder as it is written. -/
def placeholder (name : List Char) : List Char :=
  opening ++ (name ++ ['\x7d'])

/-- Whether a text begins with a placeholder whose name has a value. -/
def Begins (value : List Char → Option (List Char)) (s : List Char) : Prop :=
  ∃ name, '\x7d' ∉ name ∧ (value name).isSome = true ∧ placeholder name <+: s

/-- Whether `t` is what comes of `s` when a value is written for each placeholder that is met whose name has one. -/
inductive Fills (value : List Char → Option (List Char)) : List Char → List Char → Prop
  | nil : Fills value [] []
  | placeholder {name v s t : List Char} (hbrace : '\x7d' ∉ name) (hvalue : value name = some v) (h : Fills value s t) :
    Fills value (placeholder name ++ s) (v ++ t)
  | character {c : Char} {s t : List Char} (hc : ¬Begins value (c :: s)) (h : Fills value s t) :
    Fills value (c :: s) (c :: t)

variable {value : List Char → Option (List Char)} {name name' v s s' t t' : List Char}

/-! ### Placeholders -/

theorem placeholder_append (name s : List Char) : placeholder name ++ s = '$' :: '\x7b' :: (name ++ '\x7d' :: s) := by
  simp [placeholder, opening]

theorem placeholder_ne_nil (name : List Char) : placeholder name ≠ [] :=
  List.cons_ne_nil _ _

/-- A placeholder ends with its first closing brace. -/
theorem placeholder_append_inj (hbrace : '\x7d' ∉ name) (hbrace' : '\x7d' ∉ name')
    (h : placeholder name ++ s = placeholder name' ++ s') : name = name' ∧ s = s' := by
  rw [placeholder_append, placeholder_append, List.cons_inj_right, List.cons_inj_right] at h
  have hcut := Text.cut?_singleton_append hbrace s
  rw [h, Text.cut?_singleton_append hbrace' s'] at hcut
  cases hcut
  exact ⟨rfl, rfl⟩

theorem Begins.head (h : Begins value s) : s.head? = some '$' := by
  obtain ⟨name, -, -, r, rfl⟩ := h
  rw [placeholder_append]
  rfl

theorem begins_placeholder_iff (hbrace : '\x7d' ∉ name) :
    Begins value (placeholder name ++ s) ↔ (value name).isSome = true := by
  constructor
  · rintro ⟨name', hbrace', hvalue, r, hr⟩
    rwa [(placeholder_append_inj hbrace' hbrace hr).1] at hvalue
  · exact fun hvalue => ⟨name, hbrace, hvalue, List.prefix_append _ _⟩

/-! ### One step -/

theorem fills_nil_iff : Fills value [] t ↔ t = [] := by
  constructor
  · generalize hs : ([] : List Char) = s
    rintro (_ | _ | _)
    · rfl
    · rw [placeholder_append] at hs
      cases hs
    · cases hs
  · rintro rfl
    exact .nil

theorem fills_placeholder_iff (hbrace : '\x7d' ∉ name) (hvalue : value name = some v) :
    Fills value (placeholder name ++ s) t ↔ ∃ t', t = v ++ t' ∧ Fills value s t' := by
  constructor
  · generalize hs : placeholder name ++ s = s'
    intro h
    cases h with
    | nil =>
      rw [placeholder_append] at hs
      cases hs
    | placeholder hbrace' hvalue' h =>
      obtain ⟨rfl, rfl⟩ := placeholder_append_inj hbrace hbrace' hs
      rw [hvalue] at hvalue'
      cases hvalue'
      exact ⟨_, rfl, h⟩
    | character hc h =>
      rw [← hs, begins_placeholder_iff hbrace, hvalue] at hc
      exact absurd rfl hc
  · rintro ⟨t', rfl, h⟩
    exact .placeholder hbrace hvalue h

theorem fills_cons_iff {c : Char} (hc : ¬Begins value (c :: s)) :
    Fills value (c :: s) t ↔ ∃ t', t = c :: t' ∧ Fills value s t' := by
  constructor
  · generalize hs : c :: s = s'
    intro h
    cases h with
    | nil => cases hs
    | placeholder hbrace hvalue h =>
      rw [hs, begins_placeholder_iff hbrace, hvalue] at hc
      exact absurd rfl hc
    | character _ h =>
      cases hs
      exact ⟨_, rfl, h⟩
  · rintro ⟨t', rfl, h⟩
    exact .character hc h

/-- A text in which no placeholder with a value begins stays as it is. -/
theorem fills_append_iff {p : List Char} (hp : ∀ a c b, p = a ++ c :: b → ¬Begins value (c :: (b ++ s))) :
    Fills value (p ++ s) t ↔ ∃ t', t = p ++ t' ∧ Fills value s t' := by
  induction p generalizing t with
  | nil => simp
  | cons c p ih =>
    have hrest : ∀ t, Fills value (p ++ s) t ↔ ∃ t', t = p ++ t' ∧ Fills value s t' := fun t =>
      ih fun a d b hsplit => hp (c :: a) d b (by rw [hsplit, List.cons_append])
    rw [List.cons_append, fills_cons_iff (hp [] c p rfl)]
    simp only [hrest]
    constructor
    · rintro ⟨-, rfl, t', rfl, h⟩
      exact ⟨t', rfl, h⟩
    · rintro ⟨t', rfl, h⟩
      exact ⟨_, rfl, t', rfl, h⟩

/-- A placeholder without a value stays as it is when no other begins inside it. -/
theorem fills_placeholder_of_none (hdollar : '$' ∉ name) (hbrace : '\x7d' ∉ name) (hnone : value name = none) :
    Fills value (placeholder name ++ s) t ↔ ∃ t', t = placeholder name ++ t' ∧ Fills value s t' := by
  refine fills_append_iff fun a c b hsplit hbegins => ?_
  cases a with
  | nil =>
    rw [← List.cons_append, ← List.nil_append (c :: b), ← hsplit, begins_placeholder_iff hbrace, hnone] at hbegins
    cases hbegins
  | cons d a =>
    -- only the first character is the one that placeholders begin with
    obtain rfl : c = '$' := Option.some.inj hbegins.head
    have htail : '\x7b' :: (name ++ ['\x7d']) = a ++ '$' :: b := (List.cons.inj hsplit).2
    have hmem : '$' ∈ '\x7b' :: (name ++ ['\x7d']) := by
      rw [htail]
      simp
    simp [hdollar] at hmem

/-- The template and the values determine the text. -/
theorem Fills.unique (h : Fills value s t) (h' : Fills value s t') : t = t' := by
  induction h generalizing t' with
  | nil => exact (fills_nil_iff.mp h').symm
  | placeholder hbrace hvalue _ ih =>
    obtain ⟨r, rfl, hr⟩ := (fills_placeholder_iff hbrace hvalue).mp h'
    rw [ih hr]
  | character hc _ ih =>
    obtain ⟨r, rfl, hr⟩ := (fills_cons_iff hc).mp h'
    rw [ih hr]

/-- Without values all is left as it is. -/
theorem fills_self (s : List Char) : Fills (fun _ => none) s s := by
  induction s with
  | nil => exact .nil
  | cons c s ih =>
    refine .character ?_ ih
    rintro ⟨name, -, hvalue, -⟩
    cases hvalue

/-! ### Values apart from placeholders -/

/-- Whether no value is empty or has a character of a text. -/
def ApartFrom (value : List Char → Option (List Char)) (p : List Char) : Prop :=
  ∀ name v, value name = some v → v ≠ [] ∧ ∀ c ∈ v, c ∉ p

/-- What is found where no value has been written was there before. -/
theorem Fills.isPrefix_source {p : List Char} (h : Fills value s t) (hp : p <+: t) (hapart : ApartFrom value p) :
    p <+: s := by
  induction h generalizing p with
  | nil => exact hp
  | @placeholder name v s t hbrace hvalue _ ih =>
    obtain ⟨hne, hchars⟩ := hapart name v hvalue
    cases p with
    | nil => exact List.nil_prefix
    | cons d p =>
      obtain ⟨c, v, rfl⟩ := List.exists_cons_of_ne_nil hne
      obtain ⟨rfl, -⟩ := List.cons_prefix_cons.mp hp
      exact absurd List.mem_cons_self (hchars d List.mem_cons_self)
  | character _ _ ih =>
    cases p with
    | nil => exact List.nil_prefix
    | cons d p =>
      obtain ⟨rfl, hrest⟩ := List.cons_prefix_cons.mp hp
      refine List.cons_prefix_cons.mpr ⟨rfl, ih hrest fun name v hvalue => ?_⟩
      obtain ⟨hne, hchars⟩ := hapart name v hvalue
      exact ⟨hne, fun c hc hmem => hchars c hc (List.mem_cons_of_mem d hmem)⟩

/-- No placeholder with a value is left, and none is made up. -/
theorem Fills.not_isInfix (h : Fills value s t) (hbrace : '\x7d' ∉ name) (hvalue : (value name).isSome = true)
    (hapart : ApartFrom value (Export.placeholder name)) : ¬Export.placeholder name <:+: t := by
  induction h with
  | nil => exact fun hinfix => placeholder_ne_nil name (List.infix_nil.mp hinfix)
  | @placeholder name' v s t _ hvalue' _ ih =>
    obtain ⟨-, hchars⟩ := hapart name' v hvalue'
    clear hvalue'
    induction v with
    | nil => exact ih
    | cons c v ihv =>
      obtain ⟨hc, hv⟩ := List.forall_mem_cons.mp hchars
      rw [List.cons_append, List.infix_cons_iff, not_or]
      exact ⟨Text.not_isPrefix_of_disjoint (placeholder_ne_nil name) hc _, ihv hv⟩
  | @character c s t hc h ih =>
    rw [List.infix_cons_iff, not_or]
    exact ⟨fun hprefix => hc ⟨name, hbrace, hvalue, (h.character hc).isPrefix_source hprefix hapart⟩, ih⟩

/-- Replacing a placeholder where values have been written already comes to the same as giving its name a value from the
start. -/
theorem Fills.replace {value' : List Char → Option (List Char)} (h : Fills value s t) (hdollar : '$' ∉ name)
    (hbrace : '\x7d' ∉ name) (hnone : value name = none) (hapart : ApartFrom value (Export.placeholder name))
    (hvalue : value' name = some v) (hother : ∀ n, n ≠ name → value' n = value n) :
    Fills value' s (Text.replace (Export.placeholder name) v t) := by
  have hne := placeholder_ne_nil name
  induction hlen : s.length using Nat.strongRecOn generalizing s t with
  | ind k ih =>
    cases h with
    | nil =>
      rw [Text.replace, Text.split_nil hne]
      exact .nil
    | @placeholder other u s t hbrace' hvalue' h =>
      have hsame : value' other = some u := by
        rw [hother other, hvalue']
        rintro rfl
        rw [hnone] at hvalue'
        cases hvalue'
      rw [Text.replace_append_of_disjoint hne v (hapart other u hvalue').2]
      rw [placeholder_append, List.length_cons, List.length_cons, List.length_append, List.length_cons] at hlen
      exact .placeholder hbrace' hsame (ih s.length (by omega) h rfl)
    | @character c s t hc h =>
      have hsource := h.character hc
      by_cases hprefix : Export.placeholder name <+: c :: s
      · obtain ⟨r, hr⟩ := hprefix
        rw [← hr, fills_placeholder_of_none hdollar hbrace hnone] at hsource
        obtain ⟨t', ht', hsource⟩ := hsource
        rw [← hr, placeholder_append, List.length_cons, List.length_cons, List.length_append, List.length_cons] at hlen
        rw [← hr, ht', Text.replace_append_self hne]
        exact .placeholder hbrace hvalue (ih r.length (by omega) hsource rfl)
      · rw [List.length_cons] at hlen
        rw [Text.replace_cons v fun hp => hprefix (hsource.isPrefix_source hp hapart)]
        refine .character ?_ (ih s.length (by omega) h rfl)
        rintro ⟨other, hbrace', hsome, hbegins⟩
        by_cases heq : other = name
        · exact hprefix (heq ▸ hbegins)
        · rw [hother other heq] at hsome
          exact hc ⟨other, hbrace', hsome, hbegins⟩

end SampleRecorder.Export
