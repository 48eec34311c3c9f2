import Mathlib.Data.List.Induction
import SampleRecorder.Proofs.Export.Filling
import SampleRecorder.Proofs.Number.Digits

/-!
# File names

The placeholders of a file name are replaced one after the other.  Where no value has a character of a placeholder, that
comes to the same as filling in all placeholders at once (`Separate.fills_foldl_replace`).  The values of an instant are
made of digits, signs and two capital letters (`mem_stamps`), so this holds of every file name (`fileName_at_once`).
-/

namespace SampleRecorder.Export

/-! ### One placeholder after the other -/

/-- Names with their values, where no name has a sign of a placeholder and no value has a character of one. -/
structure Separate (entries : List (List Char × List Char)) : Prop where
  names : ∀ e ∈ entries, '$' ∉ e.1 ∧ '\x7d' ∉ e.1
  distinct : (entries.map Prod.fst).Nodup
  nonempty : ∀ e ∈ entries, e.2 ≠ []
  disjoint : ∀ e ∈ entries, ∀ e' ∈ entries, ∀ c ∈ e.2, c ∉ placeholder e'.1

namespace Separate

variable {a b entries : List (List Char × List Char)}

theorem left (h : Separate (a ++ b)) : Separate a where
  names e he := h.names e (List.mem_append_left b he)
  distinct := by
    have hdistinct := h.distinct
    rw [List.map_append, List.nodup_append] at hdistinct
    exact hdistinct.1
  nonempty e he := h.nonempty e (List.mem_append_left b he)
  disjoint e he e' he' := h.disjoint e (List.mem_append_left b he) e' (List.mem_append_left b he')

/-- The values of some names are apart from the placeholders of all. -/
theorem apartFrom (h : Separate entries) (ha : a ⊆ entries) {e : List Char × List Char} (he : e ∈ entries) :
    ApartFrom (fun name => a.lookup name) (placeholder e.1) := by
  intro name v hvalue
  obtain ⟨l, r, rfl, -⟩ := List.lookup_eq_some_iff.mp hvalue
  have hmem : (name, v) ∈ entries := ha (List.mem_append_right l List.mem_cons_self)
  exact ⟨h.nonempty _ hmem, h.disjoint _ hmem e he⟩

/-- Replacing placeholders one after the other fills in all of them at once. -/
theorem fills_foldl_replace (h : Separate entries) (s : List Char) :
    Fills (fun name => entries.lookup name) s
      (entries.foldl (fun t e => Text.replace (placeholder e.1) e.2 t) s) := by
  induction entries using List.reverseRecOn with
  | nil => exact fills_self s
  | append_singleton entries e ih =>
    have he : e ∈ entries ++ [e] := List.mem_append_right entries (List.mem_singleton_self e)
    obtain ⟨hdollar, hbrace⟩ := h.names e he
    have hnone : entries.lookup e.1 = none := by
      have hdistinct := h.distinct
      rw [List.map_append, List.nodup_append] at hdistinct
      refine List.lookup_eq_none_iff.mpr fun e' he' => bne_iff_ne.mpr ?_
      exact (hdistinct.2.2 e'.1 (List.mem_map_of_mem he') e.1 List.mem_cons_self).symm
    rw [List.foldl_append]
    refine (ih h.left).replace hdollar hbrace hnone (h.apartFrom (List.subset_append_left _ _) he) ?_ fun name hname => ?_
    · rw [List.lookup_append, hnone]
      exact List.lookup_cons_self
    · rw [List.lookup_append, List.lookup_cons, beq_false_of_ne hname]
      exact Option.or_none

/-- No placeholder is left where all of them are filled in. -/
theorem not_isInfix (h : Separate entries) {s t : List Char} (hfills : Fills (fun name => entries.lookup name) s t)
    {e : List Char × List Char} (he : e ∈ entries) : ¬placeholder e.1 <:+: t := by
  refine hfills.not_isInfix (h.names e he).2 ?_ (h.apartFrom (List.Subset.refl _) he)
  exact List.lookup_isSome_iff.mpr ⟨e, he, beq_self_eq_true e.1⟩

end Separate

/-! ### The values of an instant -/

/-- The placeholders of file names with their values at an instant. -/
def stamps (millis : Int) : List (List Char × List Char) :=
  [("timestamp".toList, Number.ofInt millis), ("date".toList, Calendar.dateText millis),
    ("datetime".toList, (Calendar.isoText millis).map fun c => if c = ':' || c = '.' then '-' else c)]

/-- Whether a character is one that instants are written with. -/
def IsStamp (c : Char) : Prop :=
  c.isDigit = true ∨ c ∈ ['-', '+', 'T', 'Z']

instance (c : Char) : Decidable (IsStamp c) :=
  inferInstanceAs (Decidable (_ ∨ _))

theorem isStamp_digitsOf (n : Nat) : ∀ c ∈ Number.digitsOf n, IsStamp c :=
  fun _ hc => .inl (Number.isDigit_of_mem_digitsOf hc)

theorem isStamp_ofInt (n : Int) : ∀ c ∈ Number.ofInt n, IsStamp c := by
  unfold Number.ofInt
  split
  · exact List.forall_mem_cons.mpr ⟨by decide, isStamp_digitsOf _⟩
  · exact isStamp_digitsOf _

theorem isStamp_padded (width n : Nat) : ∀ c ∈ Calendar.padded width n, IsStamp c := by
  refine List.forall_mem_append.mpr ⟨fun c hc => ?_, isStamp_digitsOf n⟩
  rw [List.eq_of_mem_replicate hc]
  decide

theorem isStamp_yearText (year : Int) : ∀ c ∈ Calendar.yearText year, IsStamp c := by
  unfold Calendar.yearText
  split
  · exact List.forall_mem_cons.mpr ⟨by decide, isStamp_padded _ _⟩
  · split
    · exact isStamp_padded _ _
    · exact List.forall_mem_cons.mpr ⟨by decide, isStamp_padded _ _⟩

theorem isStamp_dateText (millis : Int) : ∀ c ∈ Calendar.dateText millis, IsStamp c := by
  simp only [Calendar.dateText, List.forall_mem_append, List.forall_mem_cons]
  exact ⟨⟨isStamp_yearText _, by decide, isStamp_padded _ _⟩, by decide, isStamp_padded _ _⟩

/-- The signs that file names avoid are the only ones that an instant is written with besides. -/
theorem isStamp_isoText (millis : Int) :
    ∀ c ∈ (Calendar.isoText millis).map fun c => if c = ':' || c = '.' then '-' else c, IsStamp c := by
  have hkept {s : List Char} (h : ∀ c ∈ s, IsStamp c) :
      ∀ c ∈ s, IsStamp (if c = ':' || c = '.' then '-' else c) := by
    intro c hc
    split
    · decide
    · exact h c hc
  simp only [List.forall_mem_map, Calendar.isoText, Calendar.timeText, List.forall_mem_append, List.forall_mem_cons]
  refine ⟨⟨hkept (isStamp_dateText millis), by decide, ?_⟩, by decide, List.forall_mem_nil _⟩
  have hpadded (width n : Nat) := hkept (isStamp_padded width n)
  exact ⟨⟨⟨hpadded _ _, by decide, hpadded _ _⟩, by decide, hpadded _ _⟩, by decide, hpadded _ _⟩

/-- Every value of an instant is made of such characters, and there are some. -/
theorem mem_stamps {millis : Int} {e : List Char × List Char} (he : e ∈ stamps millis) :
    e.2 ≠ [] ∧ ∀ c ∈ e.2, IsStamp c := by
  simp only [stamps, List.mem_cons, List.not_mem_nil, or_false] at he
  rcases he with rfl | rfl | rfl
  · refine ⟨?_, isStamp_ofInt millis⟩
    rw [Number.ofInt]
    split
    · exact List.cons_ne_nil _ _
    · exact Number.digitsOf_ne_nil _
  · exact ⟨by simp [Calendar.dateText], isStamp_dateText millis⟩
  · exact ⟨by simp [Calendar.isoText], isStamp_isoText millis⟩

theorem separate_stamps (millis : Int) : Separate (stamps millis) := by
  have hnames : (stamps millis).map Prod.fst = ["timestamp".toList, "date".toList, "datetime".toList] := rfl
  have hname {e : List Char × List Char} (he : e ∈ stamps millis) :
      e.1 ∈ ["timestamp".toList, "date".toList, "datetime".toList] := hnames ▸ List.mem_map_of_mem he
  refine ⟨fun e he => ?_, ?_, fun e he => ?_, fun e he e' he' c hc => ?_⟩
  · have hall : ∀ n ∈ ["timestamp".toList, "date".toList, "datetime".toList], '$' ∉ n ∧ '\x7d' ∉ n := by decide
    exact hall e.1 (hname he)
  · rw [hnames]
    decide
  · exact (mem_stamps he).1
  · have hall : ∀ n ∈ ["timestamp".toList, "date".toList, "datetime".toList], ∀ c ∈ placeholder n, ¬IsStamp c := by
      decide
    exact fun hmem => hall e'.1 (hname he') c hmem ((mem_stamps he).2 c hc)

/-! ### File names -/

theorem toList_fileName (template : String) (millis : Int) :
    (fileName template millis).toList =
      (stamps millis).foldl (fun t e => Text.replace (placeholder e.1) e.2 t) template.toList := by
  rw [fileName, String.toList_ofList]
  rfl

/-- A file name is its template with all placeholders filled in at once.  None of them is left in it, and wherever one is
replaced, what has been written for another stays as it is. -/
theorem fileName_at_once (template : String) (millis : Int) :
    (∀ t, Fills (fun name => (stamps millis).lookup name) template.toList t ↔ t = (fileName template millis).toList) ∧
      (∀ e ∈ stamps millis, ¬placeholder e.1 <:+: (fileName template millis).toList) ∧
      ∀ e ∈ stamps millis, ∀ e' ∈ stamps millis, ∀ a b,
        Text.replace (placeholder e'.1) e'.2 (a ++ (e.2 ++ b)) =
          Text.replace (placeholder e'.1) e'.2 a ++ (e.2 ++ Text.replace (placeholder e'.1) e'.2 b) := by
  have hseparate := separate_stamps millis
  have hfills := hseparate.fills_foldl_replace template.toList
  rw [← toList_fileName] at hfills
  refine ⟨fun t => ⟨fun h => h.unique hfills, fun h => h ▸ hfills⟩, fun e he => hseparate.not_isInfix hfills he, ?_⟩
  intro e he e' he' a b
  exact Text.replace_around (placeholder_ne_nil _) _ (hseparate.nonempty e he) (hseparate.disjoint e he e' he') a b

/-- A placeholder inside what would be another one, and an instant before the year 0. -/
theorem fileName_at_once_nested :
    let template := "$\x7b$\x7bdate\x7dtime\x7d$\x7bdatetime\x7d"
    let millis := -62198755200001
    fileName template millis = "$\x7b-0002-12-31time\x7d-0002-12-31T23-59-59-999Z" ∧
      Fills (fun name => (stamps millis).lookup name) template.toList (fileName template millis).toList ∧
      ("date".toList, Calendar.dateText millis) ∈ stamps millis ∧
      ¬placeholder "date".toList <:+: (fileName template millis).toList := by
  intro template millis
  obtain ⟨hfills, hinfix, -⟩ := fileName_at_once template millis
  have hmem : ("date".toList, Calendar.dateText millis) ∈ stamps millis := by simp [stamps]
  refine ⟨?_, (hfills _).mpr rfl, hmem, hinfix _ hmem⟩
  decide +kernel

end SampleRecorder.Export
